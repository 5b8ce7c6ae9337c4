import ObjectStorage.Text.Digit

/-!
# UTF-8

Reading bytes as UTF-8 and writing texts in it. Reading goes character by character (`step`); where
it stops, the defect names the bytes that it stops at and why, and `Defect.text` is the text for it.
A half of a pair has no bytes, and the first of them in a text is the gap that keeps it from being
written. Where bytes must not be lost, a byte that cannot be read stands as a half of its own
(`decodeKeeping`), which is that byte again when it is written (`encodeKeeping`).
-/

namespace ObjectStorage.Text.Utf8

/-- Why bytes are not UTF-8. -/
inductive Reason
  | startByte
  | continuationByte
  | endOfData
  deriving DecidableEq, Repr

/-- The bytes at which reading stops: where they begin, the first of them, and how many they are. -/
structure Defect where
  position : Nat
  byte : UInt8
  count : Nat
  reason : Reason
  deriving DecidableEq, Repr

def Reason.text : Reason → String
  | .startByte => "invalid start byte"
  | .continuationByte => "invalid continuation byte"
  | .endOfData => "unexpected end of data"

/-- The text of a defect. One byte is shown by its value, several by their positions. -/
def Defect.text (defect : Defect) : Text :=
  let bytes : Text :=
    if defect.count = 1 then
      "byte 0x" ++ Text.ofChars (hexByte defect.byte) ++ " in position " ++ natText defect.position
    else
      "bytes in position " ++ natText defect.position ++ "-" ++
        natText (defect.position + defect.count - 1)
  "'utf-8' codec can't decode " ++ bytes ++ ": " ++ defect.reason.text

/-- One step of reading: a character with the number of its bytes, or how many bytes are bad. -/
inductive Step
  | char (c : Char) (size : Nat)
  | bad (count : Nat) (reason : Reason)

/-- A byte of the form 10xxxxxx. -/
def isContinuation (byte : UInt8) : Bool :=
  0x80 ≤ byte.toNat && byte.toNat < 0xC0

/-- The six bits that a continuation byte carries. -/
def payload (byte : UInt8) : Nat :=
  byte.toNat - 0x80

/-- The second byte of a longer character is in range: no overlong form, no surrogate, and nothing
beyond the last code point. -/
def secondFits (first : Nat) (second : UInt8) : Bool :=
  isContinuation second &&
    (if first == 0xE0 then 0xA0 ≤ second.toNat
     else if first == 0xED then second.toNat < 0xA0
     else if first == 0xF0 then 0x90 ≤ second.toNat
     else if first == 0xF4 then second.toNat < 0x90
     else true)

/-- Reads the character at the head of the bytes; an empty list counts as the end of data. -/
def step : List UInt8 → Step
  | [] => .bad 0 .endOfData
  | byte :: rest =>
    let first := byte.toNat
    if first < 0x80 then .char (Char.ofNat first) 1
    else if first < 0xC2 || 0xF5 ≤ first then .bad 1 .startByte
    else match rest with
      | [] => .bad 1 .endOfData
      | second :: rest =>
        if !secondFits first second then .bad 1 .continuationByte
        else if first < 0xE0 then .char (Char.ofNat ((first - 0xC0) * 64 + payload second)) 2
        else match rest with
          | [] => .bad 2 .endOfData
          | third :: rest =>
            if !isContinuation third then .bad 2 .continuationByte
            else if first < 0xF0 then
              .char (Char.ofNat (((first - 0xE0) * 64 + payload second) * 64 + payload third)) 3
            else match rest with
              | [] => .bad 3 .endOfData
              | fourth :: _ =>
                if !isContinuation fourth then .bad 3 .continuationByte
                else .char (Char.ofNat ((((first - 0xF0) * 64 + payload second) * 64 +
                  payload third) * 64 + payload fourth)) 4

/-- Reads bytes that begin at a position: the first list holds what is still to be read, `skip`
counts the bytes at its head that belong to a character already read. -/
def decodeFrom (position skip : Nat) : List UInt8 → Except Defect (List Char)
  | [] => .ok []
  | byte :: rest =>
    if skip = 0 then
      match step (byte :: rest) with
      | .char c size => do
        let chars ← decodeFrom (position + 1) (size - 1) rest
        return c :: chars
      | .bad count reason => .error ⟨position, byte, count, reason⟩
    else decodeFrom (position + 1) (skip - 1) rest

def decode (bytes : List UInt8) : Except Defect Text :=
  (decodeFrom 0 0 bytes).map .ofChars

/-- Halves of pairs that cannot be written: where they begin, the number of the first, and how many
follow one another. -/
structure Gap where
  position : Nat
  value : Nat
  count : Nat
  deriving DecidableEq, Repr

/-- The text of a gap. One half is shown by its number, several by their positions. -/
def Gap.text (gap : Gap) : Text :=
  let halves : Text :=
    if gap.count = 1 then
      "character '\\u" ++ Text.ofChars (paddedHex 4 gap.value) ++ "' in position " ++
        natText gap.position
    else
      "characters in position " ++ natText gap.position ++ "-" ++
        natText (gap.position + gap.count - 1)
  "'utf-8' codec can't encode " ++ halves ++ ": surrogates not allowed"

/-- The first gap of code points that begin at a position. -/
def gapFrom? (isGap : CodePoint → Bool) (position : Nat) : List CodePoint → Option Gap
  | [] => none
  | point :: rest =>
    if isGap point then
      some ⟨position, point.value, (rest.takeWhile CodePoint.isHalf).length + 1⟩
    else gapFrom? isGap (position + 1) rest

/-- The code point that keeps a byte. -/
def keptByte (byte : UInt8) : CodePoint :=
  .ofValue (0xDC00 + byte.toNat)

/-- The byte that a code point keeps, which is beyond ASCII. -/
def keptByte? : CodePoint → Option UInt8
  | .char _ => none
  | .half offset =>
    if 0x480 ≤ offset.val ∧ offset.val < 0x500 then some (UInt8.ofNat (offset.val - 0x400))
    else none

/-- The bytes of a code point. A half has that which it keeps. -/
def bytesOf : CodePoint → List UInt8
  | .char c => String.utf8EncodeChar c
  | point => (keptByte? point).toList

/-- Writes code points as bytes, none of them being a gap. -/
def encodeUnless (isGap : CodePoint → Bool) (text : Text) : Except Gap (List UInt8) :=
  match gapFrom? isGap 0 text.points with
  | some gap => .error gap
  | none => .ok (text.points.flatMap bytesOf)

def encode (text : Text) : Except Gap (List UInt8) :=
  encodeUnless CodePoint.isHalf text

/-- The bytes of a text of characters and of kept bytes. -/
def encodeKeeping (text : Text) : Except Gap (List UInt8) :=
  encodeUnless (fun point => point.isHalf && (keptByte? point).isNone) text

/-- Reads bytes, keeping those that are not UTF-8; `skip` counts the bytes at the head that belong
to a character already read. -/
def decodeKeepingFrom (skip : Nat) : List UInt8 → List CodePoint
  | [] => []
  | byte :: rest =>
    if skip = 0 then
      match step (byte :: rest) with
      | .char c size => .char c :: decodeKeepingFrom (size - 1) rest
      | .bad .. => keptByte byte :: decodeKeepingFrom 0 rest
    else decodeKeepingFrom (skip - 1) rest

/-- Reads bytes, keeping those that are not UTF-8. -/
def decodeKeeping (bytes : List UInt8) : Text :=
  ⟨decodeKeepingFrom 0 bytes⟩

theorem keptByte?_keptByte {byte : UInt8} (beyond : 0x80 ≤ byte.toNat) :
    keptByte? (keptByte byte) = some byte := by
  have small : byte.toNat < 256 := byte.toNat_lt
  have within : CodePoint.firstHalf ≤ 0xDC00 + byte.toNat ∧
      0xDC00 + byte.toNat < CodePoint.firstHalf + 2048 := by
    unfold CodePoint.firstHalf
    omega
  have offset : 0xDC00 + byte.toNat - CodePoint.firstHalf = 0x400 + byte.toNat := by
    unfold CodePoint.firstHalf
    omega
  simp only [keptByte, CodePoint.ofValue, dif_pos within, keptByte?, offset]
  rw [if_pos ⟨by omega, by omega⟩, Nat.add_sub_cancel_left, UInt8.ofNat_toNat]

end ObjectStorage.Text.Utf8
