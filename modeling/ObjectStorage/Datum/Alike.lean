import ObjectStorage.Datum.Basic

/-!
# Alike data

When two data count as the same value: numbers by what they stand for, whatever their form, and
texts by their code points. Lists and tables cannot serve as keys (`Datum.unkeyable?`).
-/

namespace ObjectStorage.Datum

open Number

/-- A number in one of its three forms, as an integer or a floating-point number. -/
def number? : Datum → Option (Int ⊕ Binary64)
  | .bool value => some (.inl value.toInt)
  | .int value => some (.inl value)
  | .real value => some (.inr value)
  | _ => none

/-- Two numbers stand for the same value. A NaN is like a NaN with its payload only. -/
def sameNumber : Int ⊕ Binary64 → Int ⊕ Binary64 → Bool
  | .inl m, .inl n => m == n
  | .inl m, .inr y => y.sameInt m
  | .inr x, .inl n => x.sameInt n
  | .inr (.nan p), .inr (.nan q) => p == q
  | .inr x, .inr y => x.same y

/-- A text, and the name of a kind, which stands for it. -/
def name? : Datum → Option Text
  | .text value => some value
  | .kind value => some value.name
  | _ => none

mutual

/-- Two data count as the same value. -/
def alike : Datum → Datum → Bool
  | .null, .null => true
  | .bytes a, .bytes b => a == b
  | .list items, .list others => alikeItems items others
  | .table entries, .table others =>
    entries.length == others.length && alikeEntries entries others
  | .instant s, .instant t => s == t
  | .location l, .location m => l == m
  | .options a b c d e f, .options a' b' c' d' e' f' =>
    alike a a' && alike b b' && alike c c' && alike d d' && alike e e' && alike f f'
  | x, y =>
    match number? x, number? y with
    | some m, some n => sameNumber m n
    | _, _ =>
      match name? x, name? y with
      | some s, some t => s == t
      | _, _ => false

def alikeItems : List Datum → List Datum → Bool
  | [], [] => true
  | x :: rest, y :: others => alike x y && alikeItems rest others
  | _, _ => false

/-- Every entry of the first table is alike the entry of the second under its key. -/
def alikeEntries : List (Text × Datum) → List (Text × Datum) → Bool
  | [], _ => true
  | (key, value) :: rest, others =>
    (match others.lookup key with
      | some other => alike value other
      | none => false) && alikeEntries rest others

end

/-- The name of the type that keeps a datum from being a key: lists and tables can change. -/
def unkeyable? : Datum → Option String
  | .list _ => some "list"
  | .table _ => some "dict"
  | .options a b c d e f => unkeyable? a <|> unkeyable? b <|> unkeyable? c <|> unkeyable? d <|>
      unkeyable? e <|> unkeyable? f
  | _ => none

end ObjectStorage.Datum
