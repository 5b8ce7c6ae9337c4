import ObjectStorage.Text.Digit
import ObjectStorage.Text.Lines
import ObjectStorage.Text.Quoted

/-!
# Hosts by number

A host may be given by its number on the net: as four numbers below 256 with points between them, or
in brackets as eight groups of hexadecimal digits with colons between them. Of the groups some in a
row may be left out, and the last two may be written as four numbers.
-/

namespace ObjectStorage.Host

open Text

/-- The decimal digits of a number below 256. -/
def isByte (digits : List Char) : Bool :=
  (List.range 256).any fun value => Nat.toDigits 10 value == digits

def isFourBytes (text : List Char) : Bool :=
  let parts := splitAtEach '.' text
  parts.length == 4 && parts.all isByte

def isGroup (digits : List Char) : Bool :=
  1 ≤ digits.length && digits.length ≤ 4 && digits.all fun c => (hexValue? c).isSome

/-- A row of groups in which the last two, if they are written as four numbers, are spelled out. -/
def spelledOut (groups : List (List Char)) : List (List Char) :=
  match groups.getLast? with
  | some last => if isFourBytes last then groups.dropLast ++ [['0'], ['0']] else groups
  | none => []

/-- Eight groups with colons between them, or fewer with a gap where groups are left out. The gap
may be at an end. -/
def isEightGroups (text : List Char) : Bool :=
  let parts := splitAtEach ':' text
  let groups := spelledOut parts
  let inner := (groups.drop 1).dropLast
  if parts.length < 3 then false
  else match inner.count [] with
    | 0 => groups.length == 8 && groups.all isGroup
    | 1 =>
      let first := groups.take 1 ++ inner.takeWhile (· != [])
      let last := (inner.dropWhile (· != [])).drop 1 ++ groups.getLast?.toList
      let kept := (if first == [[]] then [] else first) ++ if last == [[]] then [] else last
      kept.length < 8 && kept.all isGroup
    | _ => false

/-- What stands between the brackets of a host: groups, and after a percent sign a zone. -/
def isBracketed (text : List Char) : Bool :=
  match cutAt? '%' text with
  | some (groups, zone) => !zone.isEmpty && !zone.contains '%' && isEightGroups groups
  | none => isEightGroups text

/-- A host looks like four numbers: so many are in it, with any one character between them. A row of
digits may hold several, as a digit counts as such a character too. -/
def looksLikeFourBytes (host : List Char) : Bool :=
  let rows := splitAtEach ' ' (host.map fun c => if c.isDigit then c else ' ')
  let held := rows.foldl (fun held row => held + (row.length + 1) / 2) 0
  rows.length ≤ 4 && rows.all (!·.isEmpty) && 4 ≤ held

/-- What is wrong with a host, if anything is. -/
def problem? (host : List Char) : Option Text :=
  let isBracket := host.head? = some '[' ∧ host.getLast? = some ']'
  if looksLikeFourBytes host then
    if isFourBytes host then none else some ("Invalid IPv4 address: " ++ quoted (.ofChars host))
  else if isBracket then
    if isBracketed host.tail.dropLast then none
    else some ("Invalid IPv6 address: " ++ quoted (.ofChars host))
  else none

example : ["::", "::1", "1::", "1:2:3:4:5:6:7:8", "::ffff:1.2.3.4", "fe80::1%x"].all
    (isBracketed ·.toList) = true := by decide +kernel
example : ["", ":", ":::", "1", "1:2:3:4:5:6:7:8:9", "1::2::3", "12345::", ":1::", "::1.2.3",
    "1:2:3:4:5:6:7::8", "::1%"].any (isBracketed ·.toList) = false := by decide +kernel
example : isFourBytes "127.0.0.1".toList = true ∧ isFourBytes "1.2.3.04".toList = false := by
  decide +kernel

end ObjectStorage.Host
