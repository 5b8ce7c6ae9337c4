import ObjectStorage.Fault
import ObjectStorage.Number.Reading

/-!
# Using data

Taking a datum for something of one type: a table to look into, a sequence to go through, a whole
number, or a location. Each fails with the mishap that says why.
-/

namespace ObjectStorage

open Number Text

namespace Datum

/-- The value under a key. Only tables have keys. -/
def get (d : Datum) (key : Text) : Except Fault Datum :=
  match d.entry? key with
  | some value => .ok value
  | none => .error (.mishap (.noMethod "object" "get"))

/-- The items of a sequence: those of a list, the keys of a table, the code points of a text, the
values of bytes. -/
def items : Datum → Except Fault (List Datum)
  | .list items => .ok items
  | .table entries => .ok (entries.map fun entry => .text entry.1)
  | .text value => .ok (value.points.map fun point => .text (.singleton point))
  | .kind k => .ok (k.name.toList.map fun c => .text (.singleton (.char c)))
  | .bytes value => .ok (value.map fun byte => .int byte.toNat)
  | _ => .error (.mishap (.wrongType "not a sequence"))

/-- The longest described form that the error text of a whole number shows, and the most bytes that
it describes. -/
def shownLength : Nat := 200

/-- Reads a whole number, its described form going into the error. -/
def integerOfText (text described : Text) : Except Fault Int :=
  match tooManyDigits? text with
  | some count => .error (.mishap (.manyDigits count))
  | none =>
    match readInt? text with
    | some value => .ok value
    | none => .error (.mishap (.notInteger (described.take shownLength)))

/-- The ASCII character of a byte; beyond ASCII, one that no number has. -/
def asciiChar (byte : UInt8) : Char :=
  if byte.toNat < 128 then Char.ofNat byte.toNat else '?'

/-- The whole number that a datum stands for; a fraction is cut off. -/
def toInteger : Datum → Except Fault Int
  | .bool value => .ok value.toInt
  | .int value => .ok value
  | .real (.nan _) => .error (.mishap .nanToInteger)
  | .real (.infinity _) => .error (.mishap .infinityToInteger)
  | .real (.finite negative m e) => .ok (Binary64.signed negative (Binary64.wholePart m e))
  | .text value => integerOfText value (quoted value)
  | .kind k => integerOfText k.name k.described
  | .bytes value =>
    integerOfText (.ofChars (value.map asciiChar)) (quotedBytes (value.take shownLength))
  | _ => .error (.mishap (.wrongType "not a number"))

/-- A datum that counts as true is a scheme of bucket stores. Only texts are asked. -/
def isBucketScheme (scheme : Datum) : Except Fault Bool :=
  if !scheme.truthy then .ok false
  else match scheme with
    | .text value => .ok (Location.isBucketScheme value)
    | .kind k => .ok (Location.isBucketScheme k.name)
    | .bytes _ => .ok false
    | _ => .error (.mishap (.noMethod "object" "lower"))

/-- The location that a datum stands for: a location itself, or what its text reads as. -/
def toLocation : Datum → Except Fault Location
  | .location value => .ok value
  | .null => .error (.ofLocation .missing)
  | other => (Location.ofText other.plain).mapError .ofLocation

end Datum

namespace Location

/-- The authority of a location that must have one. -/
def needAuthority (location : Location) : Except Fault Text :=
  location.givenAuthority.mapError .ofLocation

/-- The path of a location that must have one. -/
def needPath (location : Location) : Except Fault Text :=
  location.givenPath.mapError .ofLocation

/-- The key of a location that must have one. -/
def needKey (location : Location) : Except Fault Text :=
  location.key.mapError .ofLocation

/-- The location below a location by the name that a datum is, if it counts as true. -/
def childAt (location : Location) (name : Datum) : Except Fault Location :=
  if !name.truthy then .ok location
  else match name with
    | .text name => .ok (location.child name)
    | _ => .error (.mishap (.noMethod "object" "lstrip"))

end Location

/-- The key that a path stands for, or that of a location. -/
def Datum.toKey (source : Datum) : Except Fault Text :=
  match source with
  | .text path => .ok (Location.keyOfPath path)
  | .location place => place.needKey
  | _ => .error (.mishap (.noMethod "object" "startswith"))

end ObjectStorage
