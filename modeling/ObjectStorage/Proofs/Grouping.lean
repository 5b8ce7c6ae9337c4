import Mathlib.Data.List.Induction
import ObjectStorage.BucketStore

/-!
# Groups in the order of first appearance

Members put into groups one after the other end up as the filter of each group's own members, the
groups standing in the order in which they first appear (`groupAll_eq`). The keys that a batch
delete collects for its buckets are an instance (`keysByBucket_eq`). The batch ends in the failures
of its groups (`batchEnd`).
-/

namespace ObjectStorage

variable {α : Type}

/-- What is left without its doubles has none. -/
theorem nodup_eraseDups {γ : Type} [DecidableEq γ] (list : List γ) : list.eraseDups.Nodup := by
  match list with
  | [] => exact List.nodup_nil
  | first :: rest =>
    rw [List.eraseDups_cons]
    refine List.nodup_cons.mpr ⟨fun again => ?_, nodup_eraseDups _⟩
    have kept := (List.mem_filter.mp (List.mem_eraseDups.mp again)).2
    simp at kept
termination_by list.length
decreasing_by exact Nat.lt_succ_of_le (List.length_filter_le _ _)

/-- A last item is added to what is left without doubles, unless it is there already. -/
theorem eraseDups_append_singleton {γ : Type} [DecidableEq γ] (list : List γ) (last : γ) :
    (list ++ [last]).eraseDups =
      if last ∈ list then list.eraseDups else list.eraseDups ++ [last] := by
  rw [List.eraseDups_append]
  by_cases known : last ∈ list
  · simp [known, List.removeAll]
  · simp [known, List.removeAll, List.eraseDups_cons]

/-- Puts members into their groups, one after the other. -/
def groupAll (members : List (Text × α)) : List (Text × List α) :=
  members.foldl (fun groups entry => addToGroup groups entry.1 entry.2) []

/-- The members of a group, in order. -/
def membersOf (members : List (Text × α)) (group : Text) : List α :=
  (members.filter fun entry => entry.1 = group).map (·.2)

/-- One more member joins its own group only. -/
theorem membersOf_append_singleton (members : List (Text × α)) (entry : Text × α)
    (group : Text) : membersOf (members ++ [entry]) group =
      if entry.1 = group then membersOf members group ++ [entry.2]
      else membersOf members group := by
  unfold membersOf
  by_cases own : entry.1 = group <;> simp [List.filter_append, own]

/-- A member goes to the end of its group, or opens one at the end. -/
theorem addToGroup_map (names : List Text) (distinct : names.Nodup) (members : Text → List α)
    (group : Text) (member : α) :
    addToGroup (names.map fun name => (name, members name)) group member =
      if group ∈ names then
        names.map fun name =>
          (name, if group = name then members name ++ [member] else members name)
      else (names.map fun name => (name, members name)) ++ [(group, [member])] := by
  induction names with
  | nil => simp [addToGroup]
  | cons name rest ih =>
    obtain ⟨fresh, restDistinct⟩ := List.nodup_cons.mp distinct
    by_cases own : name = group
    · subst own
      have others : ∀ other ∈ rest, (other, members other) =
          (other, if name = other then members other ++ [member] else members other) := by
        intro other inside
        have differs : name ≠ other := fun same => fresh (same ▸ inside)
        simp only [differs, ↓reduceIte]
      simp only [List.map_cons, addToGroup, ↓reduceIte, List.mem_cons, true_or,
        List.map_congr_left others]
    · have differs : ¬ group = name := fun same => own same.symm
      simp only [List.map_cons, addToGroup, own, ↓reduceIte, ih restDistinct, List.mem_cons,
        differs, false_or]
      split <;> rfl

/-- Putting all members into their groups leaves the groups in the order of first appearance, each
with its own members. -/
theorem groupAll_eq (members : List (Text × α)) :
    groupAll members =
      (members.map (·.1)).eraseDups.map fun name => (name, membersOf members name) := by
  induction members using List.reverseRecOn with
  | nil => rfl
  | append_singleton members entry ih =>
    have step : groupAll (members ++ [entry]) = addToGroup (groupAll members) entry.1 entry.2 := by
      simp only [groupAll, List.foldl_append, List.foldl_cons, List.foldl_nil]
    rw [step, ih, addToGroup_map _ (nodup_eraseDups _), List.map_append, List.map_cons,
      List.map_nil,
      eraseDups_append_singleton]
    simp only [List.mem_eraseDups, membersOf_append_singleton]
    split
    · rfl
    · next fresh =>
      have empty : membersOf members entry.1 = [] := by
        unfold membersOf
        rw [List.map_eq_nil_iff, List.filter_eq_nil_iff]
        intro other inside
        have differs : other.1 ≠ entry.1 := fun same =>
          fresh (List.mem_map.mpr ⟨other, inside, same⟩)
        simpa using differs
      rw [List.map_append, List.map_cons, List.map_nil]
      simp only [↓reduceIte, empty, List.nil_append]
      congr 1
      apply List.map_congr_left
      intro name inside
      have differs : entry.1 ≠ name := fun same => fresh (same ▸ List.mem_eraseDups.mp inside)
      simp only [differs, ↓reduceIte]

/-- The keys that locations have in a bucket, in order. -/
def keysIn (locations : List Location) (bucket : Text) : List Text :=
  (locations.filter fun location => location.authority = bucket).map fun location =>
    Location.keyOfPath location.path

/-- The keys of locations are grouped by bucket, the buckets in the order of first appearance. -/
theorem keysByBucket_eq (locations : List Location) :
    keysByBucket locations = (locations.map Location.authority).eraseDups.map fun bucket =>
      (bucket, keysIn locations bucket) := by
  have asGroups : keysByBucket locations = groupAll (locations.map fun location =>
      (location.authority, Location.keyOfPath location.path)) := by
    simp only [keysByBucket, groupAll, List.foldl_map]
  rw [asGroups, groupAll_eq, List.map_map]
  apply List.map_congr_left
  intro bucket _
  simp only [membersOf, keysIn, List.filter_map, List.map_map, Function.comp_def]

/-- The groups of a batch are the buckets of its places, each with the keys that places have in
it. -/
theorem mem_keysByBucket {places : List Location} {bucket : Text} {keys : List Text}
    (group : (bucket, keys) ∈ keysByBucket places) :
    (∃ place ∈ places, place.authority = bucket) ∧ keys = keysIn places bucket := by
  rw [keysByBucket_eq] at group
  obtain ⟨own, known, same⟩ := List.mem_map.mp group
  obtain ⟨rfl, rfl⟩ := Prod.mk.inj same
  exact ⟨List.mem_map.mp (List.mem_eraseDups.mp known), rfl⟩

/-- What a batch ends in: the failures of its groups, if there are any. -/
def batchEnd : List (Text × Fault) → Except Fault Unit
  | [] => .ok ()
  | failures => .error (.storage (.batchDelete failures) .nothing)

/-- A batch ends well exactly if nothing failed in it. -/
theorem batchEnd_ok_iff {failures : List (Text × Fault)} :
    batchEnd failures = .ok () ↔ failures = [] := by
  cases failures with
  | nil => exact ⟨fun _ => rfl, fun _ => rfl⟩
  | cons first rest => exact ⟨nofun, nofun⟩

/-- The fault that a batch ends in has all that failed, and something did. -/
theorem batchEnd_error_iff {failures : List (Text × Fault)} {fault : Fault} :
    batchEnd failures = .error fault ↔
      failures ≠ [] ∧ fault = .storage (.batchDelete failures) .nothing := by
  cases failures with
  | nil => exact ⟨nofun, fun told => (told.1 rfl).elim⟩
  | cons first rest =>
    refine ⟨fun ended => ?_, fun told => told.2 ▸ rfl⟩
    cases ended
    exact ⟨List.cons_ne_nil first rest, rfl⟩

/-- An act that ends a batch by its failures leaves the state as it is. -/
theorem failBatch_apply {τ : Type} (failures : List (Text × Fault)) (state : τ) :
    (do if !failures.isEmpty then Act.fail (.storage (.batchDelete failures) .nothing) :
      Act τ Unit) state = (batchEnd failures, state) := by
  cases failures <;> rfl

end ObjectStorage
