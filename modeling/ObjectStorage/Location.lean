import ObjectStorage.Text.Blank
import ObjectStorage.Text.Casing
import ObjectStorage.Text.Lines

/-!
# Locations

A location names a place in an object store by its scheme, its authority (the bucket) and its path.
Its text is `scheme://authority/path`, where everything after the authority belongs to the path.
Reading strips the blanks around the text and lowers the letters of the scheme (`Location.ofText`).
-/

namespace ObjectStorage

open Text

/-- A parsed location. The path is empty or begins with a slash when the location was read from a
text. -/
structure Location where
  scheme : Text
  authority : Text
  path : Text
  deriving DecidableEq, Repr

/-- Why a value is not a location that can be served. -/
inductive LocationProblem
  | missing
  | empty
  | noScheme (text : Text)
  | badScheme (text : Text)
  | noAuthority (location : Location)
  | noPath (location : Location)
  | notBucketScheme (location : Location)
  | unserved (location : Location)
  | reported (message : Text)
  deriving DecidableEq, Repr

namespace Location

def text (location : Location) : Text :=
  location.scheme ++ "://" ++ location.authority ++ location.path

/-- The parts before and after the first `://`. -/
def cutScheme? : List CodePoint → Option (List CodePoint × List CodePoint)
  | .char ':' :: .char '/' :: .char '/' :: rest => some ([], rest)
  | point :: rest => (cutScheme? rest).map fun parts => (point :: parts.1, parts.2)
  | [] => none

def isLetter (c : Char) : Bool :=
  c.isAlpha

/-- A character that a scheme may have after its first letter. -/
def isSchemeChar (c : Char) : Bool :=
  c.isAlphanum || c == '+' || c == '.' || c == '-'

/-- A scheme is a letter followed by letters, digits and the marks `+`, `.` and `-`. One line feed
may follow it. -/
def isScheme (row : List CodePoint) : Bool :=
  match dropFinal (.char '\n') row with
  | [] => false
  | first :: rest => first.isIn isLetter && rest.all (·.isIn isSchemeChar)

def ofText (raw : Text) : Except LocationProblem Location :=
  let text := strip raw
  if text.isEmpty then .error .empty
  else match cutScheme? text.points with
    | none => .error (.noScheme text)
    | some (scheme, rest) =>
      if isScheme scheme then
        .ok {
          scheme := ⟨scheme.map (.map Char.toLower)⟩
          authority := ⟨rest.takeWhile (· != '/')⟩
          path := ⟨rest.dropWhile (· != '/')⟩ }
      else .error (.badScheme text)

/-- The authority of a location, which must not be empty. -/
def givenAuthority (location : Location) : Except LocationProblem Text :=
  if location.authority.isEmpty then .error (.noAuthority location) else .ok location.authority

/-- The path of a location, which must name something. -/
def givenPath (location : Location) : Except LocationProblem Text :=
  if location.path.isEmpty || location.path == "/" then .error (.noPath location)
  else .ok location.path

/-- The key that a path stands for: the path without one slash at its head. -/
def keyOfPath (path : Text) : Text :=
  match path.points with
  | .char '/' :: rest => ⟨rest⟩
  | _ => path

def key (location : Location) : Except LocationProblem Text :=
  location.givenPath.map keyOfPath

/-- The location with a name below a location, joined by exactly one slash. No name, no change. -/
def child (location : Location) (name : Text) : Location :=
  if name.isEmpty then location
  else
    let base := trimRight (· == .char '/') location.path.points
    let below := trimLeft (· == .char '/') name.points
    { location with path := ⟨base ++ .char '/' :: below⟩ }

def bucketSchemes : List Text :=
  ["s3", "s3a", "s3n"]

/-- A scheme, in any letter case, is one of bucket stores. -/
def isBucketScheme (scheme : Text) : Bool :=
  bucketSchemes.contains (lower scheme)

example : (ofText " S3://b/k?x#y ").toOption = some ⟨"s3", "b", "/k?x#y"⟩ := by decide
example : (ofText "s3:/b").toOption = none := by decide

end Location

def LocationProblem.text : LocationProblem → Text
  | .missing => "Invalid location: None"
  | .empty => "Invalid location: empty string"
  | .noScheme text => "Invalid location (missing scheme): " ++ text
  | .badScheme text => "Invalid location scheme: " ++ text
  | .noAuthority location => "Location has no authority: " ++ location.text
  | .noPath location => "Location has no path: " ++ location.text
  | .notBucketScheme location => "Invalid S3 scheme: " ++ location.text
  | .unserved location => "Unsupported storage scheme: " ++ location.text
  | .reported message => message

end ObjectStorage
