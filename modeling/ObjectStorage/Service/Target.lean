import ObjectStorage.Fault
import ObjectStorage.Service.Host
import ObjectStorage.Text.Lines
import ObjectStorage.Text.Percent

/-!
# Request targets

What a request asks for: the path of a page, and the fields behind a question mark. The address of a
request may name a host, which does not matter, and may go up and down within its path. A fragment
is not part of the target. Some addresses are none (`Address.problem?`).
-/

namespace ObjectStorage

open Text

/-- A target: a path that begins with a slash, and the fields that have a value. -/
structure Target where
  path : List Char
  fields : List (String × String)
  deriving DecidableEq, Repr

/-- The parts of an address. The authority has the host, and may have a user before it and a number
behind it. -/
structure Address where
  scheme : List Char
  authority : List Char
  path : List Char
  query : List Char
  deriving DecidableEq, Repr

namespace Address

/-- Cuts a scheme and its colon off. The scheme may be empty. -/
def cutScheme (text : List Char) : List Char × List Char :=
  let isPart := fun (c : Char) => c.isAlphanum || c == '+' || c == '.' || c == '-'
  let scheme := text.takeWhile isPart
  match text.dropWhile isPart, scheme with
  | ':' :: rest, [] => ([], rest)
  | ':' :: rest, first :: _ => if first.isAlpha then (scheme, rest) else ([], text)
  | _, _ => ([], text)

/-- Cuts an authority off, if two slashes begin it. -/
def cutAuthority : List Char → List Char × List Char
  | '/' :: '/' :: rest => (rest.takeWhile (· != '/'), rest.dropWhile (· != '/'))
  | text => ([], text)

def ofChars (text : List Char) : Address :=
  let asked := text.takeWhile (· != '#')
  let (front, query) := (cutAt? '?' asked).getD (asked, [])
  let (scheme, rest) := cutScheme front
  let (authority, path) := cutAuthority rest
  ⟨scheme.map Char.toLower, authority, path, query⟩

def withoutUser (address : Address) : List Char :=
  match cutAt? '@' address.authority with
  | some (_, rest) => rest
  | none => address.authority

/-- The host of an address and what follows it. What stands in brackets belongs to the host. -/
def cutHost (address : Address) : List Char × List Char :=
  let text := address.withoutUser
  match text, cutAt? ']' text.reverse with
  | '[' :: _, some (after, inner) => ((']' :: inner).reverse, after.reverse)
  | _, _ =>
    let inHost := fun (c : Char) => c != ':' && c != '@'
    (text.takeWhile inHost, text.dropWhile inHost)

/-- An address with a scheme and a host, which needs nothing before it. -/
def isAbsolute (address : Address) : Bool :=
  !address.scheme.isEmpty && !address.cutHost.1.isEmpty

/-- The number behind the host, empty where there is none. -/
def hostNumber (address : Address) : List Char :=
  match address.cutHost.2 with
  | ':' :: number => number
  | number => number

def maxLength : Nat := 65536

def isControl (c : Char) : Bool :=
  c.toNat < 32 || c.toNat == 127

/-- What is wrong with the text of an address, if anything is. -/
def textProblem? (text : List Char) : Option Text :=
  if maxLength < text.length then some "URL too long"
  else
    let front := text.takeWhile (!isControl ·)
    match text.drop front.length with
    | [] => none
    | control :: _ => some <| "Invalid non-printable ASCII character in URL, " ++
        quoted (.singleton control) ++ " at position " ++ natText front.length ++ "."

/-- What is wrong with an address, if anything is. -/
def problem? (address : Address) : Option Text :=
  let bare := address.scheme.isEmpty && address.authority.isEmpty
  if let some problem := Host.problem? address.cutHost.1 then some problem
  else if !address.hostNumber.isEmpty && (Number.readInt? (.ofChars address.hostNumber)).isNone then
    some ("Invalid port: " ++ quoted (.ofChars address.hostNumber))
  else if bare && ['/', '/'].isPrefixOf address.path then
    some "Relative URLs cannot have a path starting with '//'"
  else if bare && [':'].isPrefixOf address.path then
    some "Relative URLs cannot have a path starting with ':'"
  else none

def webSchemes : List String :=
  ["http", "https", "ws", "wss"]

/-- Takes one segment of a path onto those before it, the last of which comes first. A point stays
where it is, and two points go up, but not beyond the root. -/
def takeSegment (taken : List (List Char)) (segment : List Char) : List (List Char) :=
  if segment == ['.'] then taken
  else if segment == ['.', '.'] then if taken == [[]] then taken else taken.drop 1
  else segment :: taken

/-- A path without the segments that only go up or stay. -/
def directPath (path : List Char) : List Char :=
  ['/'].intercalate ((splitAtEach '/' path).foldl takeSegment []).reverse

/-- The path of an address from the root on. One that is not absolute goes on behind one slash. -/
def rootedPath (address : Address) : List Char :=
  if address.isAbsolute then directPath address.path
  else
    let named := !address.scheme.isEmpty || !address.authority.isEmpty
    let path := if named then directPath address.path else address.path
    directPath ('/' :: trimLeft (· == '/') path)

end Address

namespace Target

def noAddress (problem : Text) : Fault :=
  .mishap (.foreign "InvalidURL" problem)

/-- The field of a part between ampersands. One without a value is none. -/
def fieldOf? (part : List Char) : Option (String × String) :=
  let read := fun (text : List Char) =>
    String.ofList (unescape (text.map fun c => if c == '+' then ' ' else c))
  match cutAt? '=' part with
  | some (name, value) => if value.isEmpty then none else some (read name, read value)
  | none => none

/-- The target of an address. The escapes in its path are read twice, once by whoever passes the
request on and once by the service. -/
def ofAddress (address : Address) : Target where
  path := unescape (unescape address.rootedPath)
  fields := (splitAtEach '&' address.query).filterMap fieldOf?

/-- Each character of an address is written in bytes of its own, which a half of a pair does not
have. -/
def checkPoint (point : CodePoint) : Except Fault Unit :=
  match Utf8.encode (.singleton point) with
  | .ok _ => .ok ()
  | .error gap => .error (.mishap (.unencodable gap))

/-- Reads a target. An absolute address must have a scheme of the web. -/
def ofText (text : Text) : Except Fault Target := do
  if let some problem := Address.textProblem? text.chars then throw (noAddress problem)
  let address := Address.ofChars text.chars
  if let some problem := address.problem? then throw (noAddress problem)
  text.points.forM checkPoint
  let scheme := String.ofList address.scheme
  if address.isAbsolute && !Address.webSchemes.contains scheme then
    throw (.mishap (.noEntry scheme))
  return ofAddress address

def values (target : Target) (name : String) : List String :=
  (target.fields.filter (·.1 == name)).map (·.2)

/-- The path with a slash at its end, if it had none, and without any otherwise. -/
def turnedPath (path : List Char) : List Char :=
  if path.getLast? = some '/' then trimRight (· == '/') path else path ++ ['/']

example : (ofText "//host/a/./b/../c%20?x=1&y=#z").toOption =
    some ⟨['/', 'a', '/', 'c', ' '], [("x", "1")]⟩ := by decide +kernel
example : (ofText "x:health").toOption.map (·.path) = some "/health".toList := by decide +kernel
example : (ofText "::health").toOption = none := by decide +kernel

end Target

end ObjectStorage
