import Mathlib.Data.List.Forall2
import Mathlib.Data.List.Nodup
import ObjectStorage.Datum.Basic

/-!
# Tables of entries

What a lookup finds in a table that was filtered, changed in its values, or given a new entry
(`forall_lookup_putEntry`). New entries with keys of their own keep all others (`foldl_putEntry`),
and looking up every key of a table once finds all its values (`filterMap_lookup_perm`). Tables with
related values stay so when they are given related entries (`EntriesPair.put`).
-/

namespace ObjectStorage

variable {κ ν μ : Type}

/-- Looking up does not depend on how keys are compared, as long as they are compared rightly. -/
theorem lookup_lawful [DecidableEq κ] [same : BEq κ] [LawfulBEq κ] (entries : List (κ × ν))
    (key : κ) : entries.lookup key = @List.lookup κ ν instBEqOfDecidableEq key entries := by
  have agree : ∀ left right : κ, (left == right) = decide (left = right) :=
    fun left right => Bool.eq_iff_iff.mpr (by rw [beq_iff_eq, decide_eq_true_iff])
  have unique : same = instBEqOfDecidableEq :=
    congrArg BEq.mk (funext fun left => funext fun right => agree left right)
  rw [unique]

/-- What is found under a key is in the table. -/
theorem mem_of_lookup [BEq κ] [LawfulBEq κ] {entries : List (κ × ν)} {key : κ} {value : ν}
    (found : entries.lookup key = some value) : (key, value) ∈ entries := by
  obtain ⟨before, after, split, _⟩ := List.lookup_eq_some_iff.mp found
  rw [split]
  exact List.mem_append_right before List.mem_cons_self

/-- A table filtered by its keys has the entries of the keys that were kept, and no other. -/
theorem lookup_filter_key [BEq κ] [LawfulBEq κ] {entries : List (κ × ν)} (kept : κ → Bool)
    (key : κ) : (entries.filter fun entry => kept entry.1).lookup key =
      if kept key then entries.lookup key else none := by
  induction entries with
  | nil => simp
  | cons entry rest ih =>
    obtain ⟨own, value⟩ := entry
    by_cases same : key = own
    · subst same
      by_cases keep : kept key = true
      · simp [keep]
      · simp [keep, ih]
    · have differs : (key == own) = false := beq_eq_false_iff_ne.mpr same
      by_cases keep : kept own = true
      · simp [keep, List.lookup_cons, differs, ih]
      · simp [keep, List.lookup_cons, differs, ih]

/-- A lookup in a table of changed values finds the changed value. -/
theorem lookup_map_values [BEq κ] (change : ν → μ) (entries : List (κ × ν)) (key : κ) :
    (entries.map fun entry => (entry.1, change entry.2)).lookup key =
      (entries.lookup key).map change := by
  induction entries with
  | nil => rfl
  | cons entry rest ih =>
    rw [List.map_cons, List.lookup_cons, List.lookup_cons, ih]
    split <;> rfl

/-- The keys of a table are those under which a value is found. -/
theorem mem_keys_iff [BEq κ] [LawfulBEq κ] {entries : List (κ × ν)} {key : κ} :
    key ∈ entries.map (·.1) ↔ ∃ value, entries.lookup key = some value := by
  rw [← Option.isSome_iff_exists, List.lookup_isSome_iff, List.mem_map]
  exact exists_congr fun entry => and_congr_right fun _ => by rw [beq_iff_eq, eq_comm]

variable [DecidableEq κ]

/-- It does not matter whether values are changed before or after one of them is put. -/
theorem putEntry_map_values (change : ν → μ) (entries : List (κ × ν)) (key : κ) (value : ν) :
    putEntry (entries.map fun entry => (entry.1, change entry.2)) key (change value) =
      (putEntry entries key value).map fun entry => (entry.1, change entry.2) := by
  induction entries with
  | nil => rfl
  | cons entry rest ih =>
    rw [List.map_cons, putEntry, putEntry, ih]
    split <;> rfl

/-- What stands in a table after an entry was put is that entry or stood there before. -/
theorem mem_putEntry {entries : List (κ × ν)} {key : κ} {value : ν} {entry : κ × ν}
    (inside : entry ∈ putEntry entries key value) : entry = (key, value) ∨ entry ∈ entries := by
  induction entries with
  | nil => exact .inl (List.mem_singleton.mp inside)
  | cons first rest ih =>
    rw [putEntry] at inside
    split at inside
    · next same => exact (List.mem_cons.mp (same ▸ inside)).imp_right (List.mem_cons_of_mem _)
    · rcases List.mem_cons.mp inside with rfl | later
      · exact .inr List.mem_cons_self
      · exact (ih later).imp_right (List.mem_cons_of_mem _)

/-- What holds of all entries and of a new one holds of the entries with the new one. -/
theorem forall_lookup_putEntry {entries : List (κ × ν)} {holds : κ → ν → Prop}
    (all : ∀ key value, entries.lookup key = some value → holds key value) {key : κ} {value : ν}
    (own : holds key value) (other : κ) (kept : ν)
    (present : (putEntry entries key value).lookup other = some kept) : holds other kept := by
  rw [lookup_putEntry] at present
  split at present
  · next same =>
    cases present
    exact same ▸ own
  · exact all other kept present

/-- To put an entry adds its key at the end, unless the table has it already. -/
theorem map_fst_putEntry (entries : List (κ × ν)) (key : κ) (value : ν) :
    (putEntry entries key value).map (·.1) =
      if key ∈ entries.map (·.1) then entries.map (·.1) else entries.map (·.1) ++ [key] := by
  induction entries with
  | nil => rfl
  | cons entry rest ih =>
    obtain ⟨own, kept⟩ := entry
    by_cases same : own = key
    · subst same
      simp [putEntry]
    · have differs : ¬ key = own := fun equal => same equal.symm
      simp only [putEntry, same, ↓reduceIte, List.map_cons, ih, List.mem_cons, differs, false_or]
      split <;> rfl

/-- Putting an entry does not give a table a key twice. -/
theorem nodup_putEntry {entries : List (κ × ν)} (distinct : (entries.map (·.1)).Nodup) (key : κ)
    (value : ν) : ((putEntry entries key value).map (·.1)).Nodup := by
  rw [map_fst_putEntry]
  split
  · exact distinct
  · next fresh =>
    rw [← List.concat_eq_append]
    exact distinct.concat fresh

/-- A value for a key without an entry is put at the end. -/
theorem putEntry_absent {entries : List (κ × ν)} {key : κ} (absent : entries.lookup key = none)
    (value : ν) : putEntry entries key value = entries ++ [(key, value)] := by
  induction entries with
  | nil => rfl
  | cons entry rest ih =>
    obtain ⟨own, kept⟩ := entry
    rw [List.lookup_cons] at absent
    by_cases same : own = key
    · subst same
      rw [beq_self_eq_true] at absent
      cases absent
    · have differs : (key == own) = false :=
        beq_eq_false_iff_ne.mpr fun equal => same equal.symm
      rw [differs] at absent
      rw [putEntry, if_neg same, ih absent]
      rfl

/-- Entries with keys of their own are put behind the others, one after the other. -/
theorem foldl_putEntry {entries fresh : List (κ × ν)}
    (distinct : ((entries ++ fresh).map (·.1)).Nodup) :
    fresh.foldl (fun entries entry => putEntry entries entry.1 entry.2) entries =
      entries ++ fresh := by
  induction fresh generalizing entries with
  | nil => simp
  | cons entry rest ih =>
    have absent : entries.lookup entry.1 = none := by
      rw [List.map_append, List.map_cons, List.nodup_append] at distinct
      apply List.lookup_eq_none_iff.mpr
      intro other inside
      exact bne_iff_ne.mpr
        (distinct.2.2 other.1 (List.mem_map_of_mem inside) entry.1 List.mem_cons_self).symm
    rw [List.foldl_cons, putEntry_absent absent, ih (by simpa using distinct), List.append_assoc]
    rfl

/-- Looking up all keys, each once and in any order, finds all values. -/
theorem filterMap_lookup_perm {entries : List (κ × ν)} {order : List κ}
    (single : (entries.map (·.1)).Nodup) (once : order.Nodup)
    (covered : ∀ entry ∈ entries, entry.1 ∈ order) :
    (order.filterMap fun key => entries.lookup key).Perm (entries.map (·.2)) := by
  induction entries generalizing order with
  | nil => simp
  | cons entry rest ih =>
    obtain ⟨key, value⟩ := entry
    obtain ⟨fresh, restSingle⟩ := List.nodup_cons.mp single
    have others : ∀ other ∈ order.erase key, ((key, value) :: rest).lookup other =
        rest.lookup other := by
      intro other inside
      have differs : (other == key) = false :=
        beq_eq_false_iff_ne.mpr (once.mem_erase_iff.mp inside).1
      rw [List.lookup_cons, differs]
    have restCovered : ∀ entry ∈ rest, entry.1 ∈ order.erase key := by
      intro entry inside
      apply once.mem_erase_iff.mpr
      refine ⟨?_, covered entry (List.mem_cons_of_mem _ inside)⟩
      intro same
      exact fresh (List.mem_map.mpr ⟨entry, inside, same⟩)
    have first : order.Perm (key :: order.erase key) :=
      List.perm_cons_erase (covered _ List.mem_cons_self)
    have found : (key :: order.erase key).filterMap
        (fun other => ((key, value) :: rest).lookup other) =
          value :: (order.erase key).filterMap fun other => rest.lookup other := by
      rw [List.filterMap_cons, List.lookup_cons_self, List.filterMap_congr others]
    apply (first.filterMap _).trans
    rw [found]
    exact (ih restSingle (once.erase key) restCovered).cons value

/-- Entries with the same keys in the same order, and related values. -/
def EntriesPair {α β : Type} (related : α → β → Prop) (entries : List (Text × α))
    (others : List (Text × β)) : Prop :=
  List.Forall₂ (fun entry other => entry.1 = other.1 ∧ related entry.2 other.2) entries others

namespace EntriesPair

variable {α β : Type} {related : α → β → Prop} {entries : List (Text × α)}
  {others : List (Text × β)}

/-- What entries have under a key is related, if they have it. -/
theorem lookup (pairs : EntriesPair related entries others) (key : Text) :
    Option.Rel related (entries.lookup key) (others.lookup key) := by
  induction pairs with
  | nil => exact .none
  | @cons entry other _ _ first rest ih =>
    rw [List.lookup_cons, List.lookup_cons, ← first.1]
    cases key == entry.1 with
    | true => exact .some first.2
    | false => exact ih

/-- Related tables stay so when related values are put under one key. -/
theorem put (pairs : EntriesPair related entries others) (key : Text) {value : α}
    {otherValue : β} (values : related value otherValue) :
    EntriesPair related (putEntry entries key value) (putEntry others key otherValue) := by
  induction pairs with
  | nil => exact .cons ⟨rfl, values⟩ .nil
  | cons first rest ih =>
    rw [putEntry, putEntry, ← first.1]
    split
    · exact .cons ⟨rfl, values⟩ rest
    · exact .cons ⟨rfl, first.2⟩ ih

end EntriesPair

end ObjectStorage
