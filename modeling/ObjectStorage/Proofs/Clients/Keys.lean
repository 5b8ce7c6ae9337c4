import ObjectStorage.Proofs.Entries
import ObjectStorage.Proofs.Validation

/-!
# What keys stand for

Options are told apart by what they stand for and not by their form: a whole number and the
floating-point number of the same size are one key, and so are a text and the kind of that name.
Every datum that can be a key has one value (`Datum.value`), and two keys are alike exactly if their
values are equal (`Datum.alike_iff`); so being alike is an equivalence among keys. Options that are
open, texts or flags are one key only if they are the same (`ClientOptions.Ordinary.key_inj`).
-/

namespace ObjectStorage

open Number Time

/-- What a number stands for. A finite number is counted in units of the smallest positive one. -/
inductive NumberValue
  | finite (units : Int)
  | infinite (negative : Bool)
  | nan (payload : Nat)
  deriving DecidableEq

/-- What a key stands for. Lists and tables are no keys. -/
inductive KeyValue
  | nothing
  | number (value : NumberValue)
  | name (text : Text)
  | bytes (row : List UInt8)
  | instant (instant : Instant)
  | location (location : Location)
  | options (endpointUrl region accessKeyId secretAccessKey sessionToken pathStyle : KeyValue)
  | changing
  deriving DecidableEq

/-- The units in the number one. -/
def Number.Binary64.unitsOfOne : Int :=
  twoTo (-minExponent).toNat

/-- Whole numbers are told apart by their multiples of the unit. -/
theorem Number.Binary64.mul_unitsOfOne_inj {m n : Int} :
    m * unitsOfOne = n * unitsOfOne ↔ m = n := by
  have positive : 0 < twoTo (-minExponent).toNat := twoTo_pos _
  have nonzero : unitsOfOne ≠ 0 := by
    unfold unitsOfOne
    omega
  exact Int.mul_eq_mul_right_iff nonzero

namespace Datum

/-- The value of a number in one of its forms. -/
def numberValue : Int ⊕ Binary64 → NumberValue
  | .inl n => .finite (n * Binary64.unitsOfOne)
  | .inr (.nan payload) => .nan payload
  | .inr (.infinity negative) => .infinite negative
  | .inr (.finite negative m e) => .finite (Binary64.units negative m e)

/-- What a datum stands for as a key. -/
def value : Datum → KeyValue
  | .null => .nothing
  | .bool b => .number (numberValue (.inl b.toInt))
  | .int n => .number (numberValue (.inl n))
  | .real x => .number (numberValue (.inr x))
  | .text t => .name t
  | .kind k => .name k.name
  | .bytes row => .bytes row
  | .instant t => .instant t
  | .location l => .location l
  | .options a b c d e f => .options a.value b.value c.value d.value e.value f.value
  | .list _ | .table _ => .changing

/-- A binary number and a whole number count as the same exactly if their values are. -/
theorem sameInt_iff (x : Binary64) (n : Int) :
    x.sameInt n = true ↔ numberValue (.inr x) = numberValue (.inl n) := by
  cases x with
  | finite negative m e =>
    simp only [Binary64.sameInt, numberValue, beq_iff_eq, NumberValue.finite.injEq,
      Binary64.unitsOfOne]
  | _ => simp only [Binary64.sameInt, numberValue, Bool.false_eq_true, reduceCtorEq]

/-- Two numbers count as the same exactly if their values are. -/
theorem sameNumber_iff (m n : Int ⊕ Binary64) :
    sameNumber m n = true ↔ numberValue m = numberValue n := by
  cases m with
  | inl m =>
    cases n with
    | inl n => simp only [sameNumber, numberValue, beq_iff_eq, NumberValue.finite.injEq,
        Binary64.mul_unitsOfOne_inj]
    | inr y => exact (sameInt_iff y m).trans eq_comm
  | inr x =>
    cases n with
    | inl n =>
      have swapped : sameNumber (.inr x) (.inl n) = x.sameInt n := by cases x <;> rfl
      rw [swapped]
      exact sameInt_iff x n
    | inr y => cases x <;> cases y <;> simp [sameNumber, numberValue, Binary64.same]

/-- Two keys are alike exactly if they stand for the same. -/
theorem alike_iff {x y : Datum} (own : x.unkeyable? = none) (other : y.unkeyable? = none) :
    x.alike y = true ↔ x.value = y.value := by
  match x with
  | .options a b c d e f =>
    cases y with
    | options a' b' c' d' e' f' =>
      simp only [unkeyable?, Option.orElse_eq_orElse, Option.orElse_eq_or,
        Option.or_eq_none_iff] at own other
      obtain ⟨ownA, ownB, ownC, ownD, ownE, ownF⟩ := own
      obtain ⟨otherA, otherB, otherC, otherD, otherE, otherF⟩ := other
      simp only [alike, value, Bool.and_eq_true, KeyValue.options.injEq, alike_iff ownA otherA,
        alike_iff ownB otherB, alike_iff ownC otherC, alike_iff ownD otherD, alike_iff ownE otherE,
        alike_iff ownF otherF, and_assoc]
    | list | table => cases other
    | null | bool | int | real | text | bytes | instant | kind | location =>
      simp [alike, value, number?, name?]
  | .list _ | .table _ => cases own
  | .null | .bool _ | .int _ | .real _ | .text _ | .bytes _ | .instant _ | .kind _ | .location _ =>
    cases y with
    | list | table => cases other
    | null | bool | int | real | text | bytes | instant | kind | location | options =>
      simp [alike, value, number?, name?, sameNumber_iff]

/-- Nothing, a text or a flag, as options usually are. -/
def IsOrdinary : Datum → Prop
  | .null | .text _ | .bool _ => True
  | _ => False

variable {x y : Datum}

/-- Ordinary data can be part of a key. -/
theorem IsOrdinary.unkeyable? (ordinary : x.IsOrdinary) : x.unkeyable? = none := by
  cases x with
  | null | text | bool => rfl
  | _ => cases ordinary

/-- Ordinary data stand for themselves. -/
theorem IsOrdinary.value_inj (own : x.IsOrdinary) (other : y.IsOrdinary) :
    x.value = y.value ↔ x = y := by
  have flags : ∀ a b : Bool, a.toInt = b.toInt ↔ a = b := by decide
  cases x with
  | null | text | bool =>
    cases y with
    | null | text | bool =>
      simp only [value, numberValue, KeyValue.number.injEq, KeyValue.name.injEq,
        NumberValue.finite.injEq, Binary64.mul_unitsOfOne_inj, flags, text.injEq, bool.injEq,
        reduceCtorEq]
    | _ => cases other
  | _ => cases own

end Datum

namespace ClientOptions

/-- The options can be a key. -/
def IsKey (options : ClientOptions) : Prop :=
  options.toDatum.unkeyable? = none

/-- What options stand for as a key. -/
def key (options : ClientOptions) : KeyValue :=
  options.toDatum.value

/-- Options that are keys count as the same exactly if they have the same key. -/
theorem alike_iff {own other : ClientOptions} (isKey : own.IsKey) (otherIsKey : other.IsKey) :
    own.alike other = true ↔ own.key = other.key :=
  Datum.alike_iff isKey otherIsKey

/-- All options are ordinary. -/
structure Ordinary (options : ClientOptions) : Prop where
  endpointUrl : options.endpointUrl.IsOrdinary
  region : options.region.IsOrdinary
  accessKeyId : options.accessKeyId.IsOrdinary
  secretAccessKey : options.secretAccessKey.IsOrdinary
  sessionToken : options.sessionToken.IsOrdinary
  pathStyle : options.pathStyle.IsOrdinary

variable {own other : ClientOptions}

/-- Ordinary options are a key. -/
theorem Ordinary.isKey (ordinary : own.Ordinary) : own.IsKey := by
  unfold IsKey toDatum Datum.unkeyable?
  simp [ordinary.endpointUrl.unkeyable?, ordinary.region.unkeyable?,
    ordinary.accessKeyId.unkeyable?, ordinary.secretAccessKey.unkeyable?,
    ordinary.sessionToken.unkeyable?, ordinary.pathStyle.unkeyable?]

/-- Ordinary options are the same key only if they are the same. -/
theorem Ordinary.key_inj (ordinary : own.Ordinary) (alsoOrdinary : other.Ordinary) :
    own.key = other.key ↔ own = other := by
  unfold key toDatum Datum.value
  rw [KeyValue.options.injEq, ordinary.endpointUrl.value_inj alsoOrdinary.endpointUrl,
    ordinary.region.value_inj alsoOrdinary.region,
    ordinary.accessKeyId.value_inj alsoOrdinary.accessKeyId,
    ordinary.secretAccessKey.value_inj alsoOrdinary.secretAccessKey,
    ordinary.sessionToken.value_inj alsoOrdinary.sessionToken,
    ordinary.pathStyle.value_inj alsoOrdinary.pathStyle]
  cases own
  cases other
  simp only [mk.injEq]

/-- A field that is laid over another is ordinary if both are. -/
theorem overField_ordinary {x y : Datum} (own : x.IsOrdinary) (default : y.IsOrdinary) :
    (overField x y).IsOrdinary := by
  unfold overField
  split
  · exact default
  · exact own

/-- Ordinary options laid over ordinary ones are ordinary. -/
theorem Ordinary.laidOver (ordinary : own.Ordinary) (defaults : other.Ordinary) :
    (own.laidOver other).Ordinary where
  endpointUrl := overField_ordinary ordinary.endpointUrl defaults.endpointUrl
  region := overField_ordinary ordinary.region defaults.region
  accessKeyId := overField_ordinary ordinary.accessKeyId defaults.accessKeyId
  secretAccessKey := overField_ordinary ordinary.secretAccessKey defaults.secretAccessKey
  sessionToken := overField_ordinary ordinary.sessionToken defaults.sessionToken
  pathStyle := overField_ordinary ordinary.pathStyle defaults.pathStyle

end ClientOptions

namespace StoreOptions

/-- The default options and those of every bucket are ordinary. -/
structure Ordinary (options : StoreOptions) : Prop where
  defaults : options.defaults.Ordinary
  buckets : ∀ entry ∈ options.buckets, entry.2.Ordinary

variable {options : StoreOptions}

/-- The effective options for a bucket are ordinary if the configured ones are. -/
theorem Ordinary.effective (ordinary : options.Ordinary) (bucket : Text) :
    (options.effective bucket).Ordinary := by
  unfold StoreOptions.effective
  split
  · next own found =>
    exact (ordinary.buckets _ (mem_of_lookup found)).laidOver ordinary.defaults
  · exact ordinary.defaults

/-- So is every identity that a pool with such options finds for a target. -/
theorem Ordinary.identityOf (ordinary : options.Ordinary) {target : Datum}
    {identity : ClientOptions} (resolved : options.identityOf target = .ok identity) :
    identity.Ordinary := by
  obtain ⟨bucket, _, effective⟩ := Except.bind_ok resolved
  cases effective
  exact ordinary.effective bucket

end StoreOptions

end ObjectStorage
