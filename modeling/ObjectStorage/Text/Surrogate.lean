import ObjectStorage.Text.Basic

/-!
# Surrogates

The code units that stand for a character in pairs. A half without its partner is a code point of
its own; two halves, the first before the second, are one character.
-/

namespace ObjectStorage.Text

def isHighHalf (unit : Nat) : Bool :=
  0xD800 ≤ unit && unit < 0xDC00

def isLowHalf (unit : Nat) : Bool :=
  0xDC00 ≤ unit && unit < 0xE000

def pairChar (high low : Nat) : Char :=
  Char.ofNat (0x10000 + (high - 0xD800) * 0x400 + (low - 0xDC00))

example : pairChar 0xD83D 0xDE00 = '😀' := by decide

end ObjectStorage.Text
