import ObjectStorage.FaultKind
import ObjectStorage.Location
import ObjectStorage.Time.Instant

/-!
# Data

The values that settings, responses of a store and records of the log are made of. A table keeps
its entries in the order of their first insertion; putting a key again changes its value in place.
-/

namespace ObjectStorage

open Number Time

/-- A value. -/
inductive Datum
  | null
  | bool (value : Bool)
  | int (value : Int)
  | real (value : Binary64)
  | text (value : Text)
  | bytes (value : List UInt8)
  | list (items : List Datum)
  | table (entries : List (Text × Datum))
  | instant (value : Instant)
  | kind (value : FaultKind)
  | location (value : Location)
  | options (endpointUrl region accessKeyId secretAccessKey sessionToken pathStyle : Datum)

instance : Inhabited Datum := ⟨.null⟩

/-- Puts a value under a key: in place if the key is there, and at the end otherwise. -/
def putEntry {α β : Type} [DecidableEq α] (entries : List (α × β)) (key : α) (value : β) :
    List (α × β) :=
  match entries with
  | [] => [(key, value)]
  | (k, v) :: rest => if k = key then (k, value) :: rest else (k, v) :: putEntry rest key value

/-- The entry that was put is found, and the others as before. -/
theorem lookup_putEntry {α β : Type} [DecidableEq α] (entries : List (α × β)) (key other : α)
    (value : β) : (putEntry entries key value).lookup other =
      if other = key then some value else entries.lookup other := by
  induction entries with
  | nil =>
    by_cases same : other = key
    · subst same
      simp only [putEntry, List.lookup_cons, beq_self_eq_true, ↓reduceIte]
    · have differs : (other == key) = false := beq_eq_false_iff_ne.mpr same
      simp only [putEntry, List.lookup_cons, differs, same, ↓reduceIte]
  | cons entry rest ih =>
    obtain ⟨k, v⟩ := entry
    unfold putEntry
    by_cases hit : k = key
    · subst hit
      by_cases same : other = k
      · subst same
        simp only [↓reduceIte, List.lookup_cons, beq_self_eq_true]
      · have differs : (other == k) = false := beq_eq_false_iff_ne.mpr same
        simp only [↓reduceIte, List.lookup_cons, differs, same]
    · rw [if_neg hit]
      by_cases first : other = k
      · subst first
        simp only [List.lookup_cons, beq_self_eq_true, hit, ↓reduceIte]
      · have differs : (other == k) = false := beq_eq_false_iff_ne.mpr first
        simp only [List.lookup_cons, differs, ih]

namespace Datum

/-- What counts as true: anything but nothing, false, zero and what is empty. -/
def truthy : Datum → Bool
  | .null => false
  | .bool value => value
  | .int value => value != 0
  | .real value => !value.isZero
  | .text value => !value.isEmpty
  | .bytes value => !value.isEmpty
  | .list items => !items.isEmpty
  | .table entries => !entries.isEmpty
  | _ => true

/-- A datum, or another one where it does not count as true. -/
def orElse (d other : Datum) : Datum :=
  if d.truthy then d else other

/-- The value under a key of a table, or nothing; only tables have keys. -/
def entry? (key : Text) : Datum → Option Datum
  | .table entries => some ((entries.lookup key).getD .null)
  | _ => none

/-- The duration of a count of seconds, if the datum is a number. -/
def duration? : Datum → Option (Except DurationProblem Duration)
  | .bool value => some (Duration.ofSeconds? value.toInt)
  | .int value => some (Duration.ofSeconds? value)
  | .real value => some (Duration.ofReal? value)
  | _ => none

end Datum

end ObjectStorage
