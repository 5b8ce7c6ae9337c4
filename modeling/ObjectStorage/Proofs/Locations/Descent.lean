import ObjectStorage.Proofs.Locations.Printing

/-!
# Below a location

The path below a location is its own path and a name with one slash between them, whatever slashes
the two bring along. Joining so is associative (`Text.joined_assoc`), so going down by several names
is going down once, by their join (`Location.descend_eq_child`), and what is reached stays below the
base (`Location.descend_below`). What is reached by going down from a text is lost in print exactly
if the last name ends with a blank (`Location.descend_survives_iff`).
-/

namespace ObjectStorage

open Text

namespace Text

def isSlash (point : CodePoint) : Bool :=
  point == .char '/'

def withoutFinalSlashes (text : Text) : Text :=
  ⟨trimRight isSlash text.points⟩

def withoutLeadingSlashes (text : Text) : Text :=
  ⟨trimLeft isSlash text.points⟩

/-- Two texts with one slash between them. -/
def joined (front behind : Text) : Text :=
  front.withoutFinalSlashes ++ "/" ++ behind.withoutLeadingSlashes

/-- What is left of a row from its first item outside a class on: nothing, where all items are in
the class, or a row that begins with an item outside. -/
theorem trimLeft_cases {ρ : Type} (inClass : ρ → Bool) (row : List ρ) :
    (trimLeft inClass row = [] ∧ ∀ item ∈ row, inClass item = true) ∨
      ∃ item rest, trimLeft inClass row = item :: rest ∧ inClass item = false := by
  unfold trimLeft
  cases left : row.dropWhile inClass with
  | nil => exact .inl ⟨rfl, List.dropWhile_eq_nil_iff.mp left⟩
  | cons item rest =>
    have filled : row.dropWhile inClass ≠ [] := by
      rw [left]
      exact List.cons_ne_nil item rest
    have outside := List.head_dropWhile_not inClass filled
    simp only [left, List.head_cons] at outside
    exact .inr ⟨item, rest, rfl, outside⟩

/-- A joint between two rows, at which each is trimmed, may be laid before or after another. -/
theorem trim_joints {ρ : Type} {inClass : ρ → Bool} {joint : ρ} (inside : inClass joint = true)
    (front middle behind : List ρ) :
    trimRight inClass (trimRight inClass front ++ joint :: trimLeft inClass middle) ++
        joint :: trimLeft inClass behind =
      trimRight inClass front ++
        joint :: trimLeft inClass (trimRight inClass middle ++ joint :: trimLeft inClass behind) := by
  rcases trimLeft_cases inClass middle with ⟨nothing, all⟩ | ⟨item, rest, left, outside⟩
  -- Between the joints there is nothing to keep: they become one.
  · have front' : trimRight inClass (trimRight inClass front ++ [joint]) = trimRight inClass front :=
      (List.rdropWhile_concat_pos inClass _ joint inside).trans (List.rdropWhile_idempotent ..)
    have middle' : trimRight inClass middle = [] := List.rdropWhile_eq_nil_iff.mpr all
    have behind' : trimLeft inClass (joint :: trimLeft inClass behind) = trimLeft inClass behind := by
      rw [trimLeft, List.dropWhile_cons_of_pos inside]
      exact List.dropWhile_idempotent ..
    rw [nothing, front', middle', List.nil_append, behind']
  · have whole : middle = middle.takeWhile inClass ++ item :: rest := by
      rw [← left]
      exact List.takeWhile_append_dropWhile.symm
    have trimmed : trimRight inClass middle =
        middle.takeWhile inClass ++ item :: trimRight inClass rest := by
      conv_lhs => rw [whole]
      exact trimRight_append outside ..
    have kept : trimLeft inClass (trimRight inClass middle ++ joint :: trimLeft inClass behind) =
        item :: trimRight inClass rest ++ joint :: trimLeft inClass behind := by
      rw [trimmed, List.append_assoc, trimLeft,
        List.dropWhile_append_of_pos fun _ => List.mem_takeWhile_imp, List.cons_append,
        List.dropWhile_cons, outside]
      rfl
    have first : trimRight inClass (trimRight inClass front ++ joint :: item :: rest) =
        trimRight inClass front ++ joint :: item :: trimRight inClass rest := by
      have moved := trimRight_append outside (trimRight inClass front ++ [joint]) rest
      simpa using moved
    rw [left, first, kept]
    simp

/-- Two texts are joined by one slash, with no other slash around it. -/
theorem joined_points (front behind : Text) : (front.joined behind).points =
    trimRight isSlash front.points ++ .char '/' :: trimLeft isSlash behind.points := by
  unfold joined
  rw [points_append, points_append, List.append_assoc]
  rfl

/-- Texts can be joined from the front or from behind. -/
theorem joined_assoc (front middle behind : Text) :
    (front.joined middle).joined behind = front.joined (middle.joined behind) := by
  have slash : isSlash (.char '/') = true := by decide
  rw [Text.mk.injEq, joined_points, joined_points, joined_points, joined_points]
  exact trim_joints slash front.points middle.points behind.points

/-- Joined texts are never empty: there is the slash. -/
theorem joined_ne_empty (front behind : Text) : front.joined behind ≠ "" := by
  intro empty
  have points := joined_points front behind
  rw [empty] at points
  exact (List.append_ne_nil_of_right_ne_nil _ (List.cons_ne_nil _ _)) points.symm

/-- A slash in front of a text gets lost when something is joined to it. -/
theorem joined_empty_joined (front behind : Text) :
    front.joined (Text.joined "" behind) = front.joined behind := by
  have slash : isSlash (.char '/') = true := by decide
  have once : trimLeft isSlash (.char '/' :: trimLeft isSlash behind.points) =
      trimLeft isSlash behind.points := by
    rw [trimLeft, List.dropWhile_cons_of_pos slash]
    exact List.dropWhile_idempotent ..
  have nothing : trimRight isSlash (Text.points "") = [] := rfl
  rw [Text.mk.injEq, joined_points, joined_points, joined_points, nothing, List.nil_append, once]

/-- A text without the slashes in front of it does not begin with one. -/
theorem withoutLeadingSlashes_ne (text rest : Text) : text.withoutLeadingSlashes ≠ "/" ++ rest := by
  intro same
  have points : trimLeft isSlash text.points = .char '/' :: rest.points := Text.mk.inj same
  rcases trimLeft_cases isSlash text.points with ⟨nothing, -⟩ | ⟨item, others, left, outside⟩
  · cases nothing.symm.trans points
  · cases left.symm.trans points
    cases outside

/-- A text behind a slash ends as it does with the slashes in front of it. -/
theorem endsBlank_joined (scheme front : Text) {behind : Text} (filled : behind ≠ "") :
    (scheme ++ front.joined behind).endsBlank = behind.endsBlank := by
  have last : (scheme ++ front.joined behind).points.getLast? =
      (.char '/' :: trimLeft isSlash behind.points).getLast? := by
    rw [points_append, joined_points, ← List.append_assoc,
      List.getLast?_append_of_ne_nil _ (List.cons_ne_nil _ _)]
  unfold endsBlank
  rw [last]
  rcases trimLeft_cases isSlash behind.points with ⟨nothing, all⟩ | ⟨item, rest, left, -⟩
  · have points : behind.points ≠ [] := fun empty => filled (congrArg Text.mk empty)
    have slash : behind.points.getLast points = .char '/' :=
      beq_iff_eq.mp (all _ (List.getLast_mem points))
    rw [nothing, List.getLast?_eq_some_getLast points, slash]
    rfl
  · have whole : behind.points = behind.points.takeWhile isSlash ++ item :: rest := by
      rw [← left]
      exact List.takeWhile_append_dropWhile.symm
    have own : behind.points.getLast? = (item :: rest).getLast? := by
      rw [whole, List.getLast?_append_of_ne_nil _ (List.cons_ne_nil _ _)]
    rw [left, own, List.getLast?_cons_cons]

/-- A text is empty or begins with a slash exactly if its first character, if there is one, is a
slash. -/
theorem slashed_iff {text : Text} : (text = "" ∨ ∃ rest, text = "/" ++ rest) ↔
    ∀ point ∈ text.points.head?, isSlash point = true := by
  obtain ⟨row⟩ := text
  cases row with
  | nil => exact ⟨fun _ => nofun, fun _ => .inl rfl⟩
  | cons first rest =>
    constructor
    · rintro (empty | ⟨others, same⟩)
      · cases empty
      · cases same
        rintro _ ⟨⟩
        decide
    · intro head
      have slash : first = .char '/' := beq_iff_eq.mp (head first rfl)
      exact .inr ⟨⟨rest⟩, by rw [slash]; rfl⟩

/-- Joining something behind a path does not change whether the path begins with a slash, where a
path that is empty counts as one that does. -/
theorem joined_slashed_iff (front behind : Text) :
    (front.joined behind = "" ∨ ∃ rest, front.joined behind = "/" ++ rest) ↔
      (front = "" ∨ ∃ rest, front = "/" ++ rest) := by
  rw [slashed_iff, slashed_iff, joined_points]
  cases base : trimRight isSlash front.points with
  | nil =>
    have all := List.rdropWhile_eq_nil_iff.mp base
    constructor
    · intro _ point head
      exact all point (List.mem_of_head? head)
    · rintro _ _ ⟨⟩
      decide
  | cons first rest =>
    have leading : trimRight isSlash front.points <+: front.points := List.rdropWhile_prefix ..
    obtain ⟨others, whole⟩ := leading
    rw [← whole, base]
    exact Iff.rfl

end Text

namespace Location

variable {location : Location} {names : List Text}

/-- The location reached by going down by names, one after the other. -/
def descend (location : Location) (names : List Text) : Location :=
  names.foldl child location

theorem child_empty (location : Location) : location.child "" = location := rfl

/-- A name that is not empty is joined to the path. -/
theorem child_eq (location : Location) {name : Text} (named : name ≠ "") :
    location.child name = { location with path := location.path.joined name } := by
  have filled : ¬ name.isEmpty = true := fun empty => named (Text.isEmpty_iff.mp empty)
  unfold child
  rw [if_neg filled, mk.injEq]
  exact ⟨rfl, rfl, congrArg Text.mk (joined_points location.path name).symm⟩

/-- Going down twice is going down once by the join. -/
theorem child_child (location : Location) (first : Text) {second : Text} (named : second ≠ "") :
    (location.child first).child second = location.child (first.joined second) := by
  rw [child_eq _ named, child_eq location (joined_ne_empty first second)]
  by_cases empty : first = ""
  · rw [empty, child_empty, joined_empty_joined]
  · rw [child_eq location empty, joined_assoc]

/-- To go down by names one after the other is to go down once, by the names joined. -/
theorem descend_eq_child (location : Location) (name : Text)
    (named : ∀ next ∈ names, next ≠ "") :
    location.descend (name :: names) = location.child (names.foldl joined name) := by
  induction names generalizing name with
  | nil => rfl
  | cons next rest ih =>
    obtain ⟨here, others⟩ := List.forall_mem_cons.mp named
    have twice : location.descend (name :: next :: rest) =
        location.descend (name.joined next :: rest) :=
      congrArg (descend · rest) (child_child location name here)
    rw [twice]
    exact ih (name.joined next) others

/-- Names joined to one that is not empty are not empty. -/
theorem foldl_joined_ne_empty {name : Text} (named : name ≠ "") (names : List Text) :
    names.foldl joined name ≠ "" := by
  induction names generalizing name with
  | nil => exact named
  | cons next rest ih => exact ih (joined_ne_empty name next)

/-- The scheme and the authority are the same below a location. -/
theorem child_place (location : Location) (name : Text) :
    (location.child name).scheme = location.scheme ∧
      (location.child name).authority = location.authority := by
  unfold child
  split <;> exact ⟨rfl, rfl⟩

/-- Going down keeps the scheme and the authority. -/
theorem descend_place (location : Location) (names : List Text) :
    (location.descend names).scheme = location.scheme ∧
      (location.descend names).authority = location.authority := by
  induction names generalizing location with
  | nil => exact ⟨rfl, rfl⟩
  | cons name rest ih =>
    obtain ⟨scheme, authority⟩ := ih (location.child name)
    obtain ⟨own, bucket⟩ := location.child_place name
    exact ⟨scheme.trans own, authority.trans bucket⟩

/-- Going down by two names is going down by the two with one slash between them. Going down never
changes the scheme and the authority, and by names that are not empty it leads to a path that is the
one at the start without the slashes at its end, one slash, and a text without a slash in front. -/
theorem descend_below (location : Location) :
    (∀ first second : Text, second ≠ "" → (location.child first).child second =
      location.child (first.withoutFinalSlashes ++ "/" ++ second.withoutLeadingSlashes)) ∧
    (∀ names, (location.descend names).scheme = location.scheme ∧
      (location.descend names).authority = location.authority) ∧
    ∀ names : List Text, names ≠ [] → (∀ name ∈ names, name ≠ "") → ∃ below : Text,
      (location.descend names).path = location.path.withoutFinalSlashes ++ "/" ++ below ∧
        ∀ rest : Text, below ≠ "/" ++ rest := by
  refine ⟨fun first second named => child_child location first named, location.descend_place, ?_⟩
  intro names nonempty named
  obtain ⟨name, rest, rfl⟩ := List.exists_cons_of_ne_nil nonempty
  obtain ⟨here, others⟩ := List.forall_mem_cons.mp named
  have path : (location.descend (name :: rest)).path =
      location.path.joined (rest.foldl joined name) := by
    rw [descend_eq_child location name others, child_eq _ (foldl_joined_ne_empty here rest)]
  exact ⟨_, path, withoutLeadingSlashes_ne _⟩

/-- A location with slashes at the end of its path. -/
def slashedBase : Location :=
  ⟨"s3", "b", "/a//"⟩

/-- Names with slashes at both ends, and one that is nothing but slashes. -/
def slashedNames : List Text :=
  ["//x/", "//", "/y"]

/-- Below a path with slashes at its end there is one slash for each name. -/
theorem slashedBase_descend_below :
    (∀ name ∈ slashedNames, name ≠ "") ∧ slashedNames ≠ [] ∧
    (slashedBase.descend slashedNames).path = "/a/x/y" ∧
    (slashedBase.child "//x/").child "//" = slashedBase.child
      (Text.withoutFinalSlashes "//x/" ++ "/" ++ Text.withoutLeadingSlashes "//") ∧
    ∃ below : Text, (slashedBase.descend slashedNames).path =
      slashedBase.path.withoutFinalSlashes ++ "/" ++ below ∧ ∀ rest : Text, below ≠ "/" ++ rest := by
  obtain ⟨twice, -, stays⟩ := slashedBase.descend_below
  have named : ∀ name ∈ slashedNames, name ≠ "" := by decide
  exact ⟨named, by decide, by decide, twice _ _ (by decide), stays _ (by decide) named⟩

/-- The location below one, by any name, has the form in which it is read exactly if the one has. -/
theorem child_shaped_iff (location : Location) (name : Text) :
    (location.child name).Shaped ↔ location.Shaped := by
  by_cases empty : name = ""
  · rw [empty, child_empty]
  rw [child_eq location empty]
  have slashed := joined_slashed_iff location.path name
  constructor
  · intro shaped
    exact ⟨shaped.schemed, shaped.small, shaped.slashless, slashed.mp shaped.slashed⟩
  · intro shaped
    exact ⟨shaped.schemed, shaped.small, shaped.slashless, slashed.mpr shaped.slashed⟩

/-- Going down, by any names, neither gives a location the form in which it is read nor takes it
away. -/
theorem descend_shaped_iff (location : Location) (names : List Text) :
    (location.descend names).Shaped ↔ location.Shaped := by
  induction names generalizing location with
  | nil => exact Iff.rfl
  | cons name rest ih => exact (ih (location.child name)).trans (location.child_shaped_iff name)

/-- The text of a location below another one ends as the name does. -/
theorem child_endsBlank (location : Location) {name : Text} (named : name ≠ "") :
    (location.child name).text.endsBlank = name.endsBlank := by
  rw [child_eq location named]
  exact endsBlank_joined _ _ named

/-- The text of what is reached by going down ends as the last name does. -/
theorem descend_endsBlank (location : Location) (named : ∀ name ∈ names, name ≠ "") :
    (location.descend names).text.endsBlank = (names.getLast?.getD location.text).endsBlank := by
  rcases List.eq_nil_or_concat names with rfl | ⟨front, last, rfl⟩
  · rfl
  · have final : last ≠ "" := named last (by simp)
    have reached : location.descend (front ++ [last]) = (location.descend front).child last :=
      List.foldl_append
    rw [List.concat_eq_append, reached, child_endsBlank _ final, List.getLast?_concat,
      Option.getD_some]

/-- Below a location as it is read there are only such. -/
theorem Written.descend (written : location.Written) (names : List Text) :
    (location.descend names).Written := by
  induction names generalizing location with
  | nil => exact written
  | cons name rest ih => exact ih (written.child name)

/-- A location without the blanks at the end of its path. -/
def unblanked (location : Location) : Location :=
  { location with path := ⟨trimRight isBlankPoint location.path.points⟩ }

/-- A location that was read survives in its text exactly if there are no blanks to be lost at the
end of its path. -/
theorem Written.survives_iff_unblanked (written : location.Written) :
    location.Survives ↔ location.unblanked = location := by
  have read : (Datum.text location.text).toLocation = .ok location.unblanked :=
    toLocation_text_iff.mpr written.ofText_text
  unfold Survives
  rw [read, Except.ok.injEq]

/-- Behind a slash there is a key, or nothing. -/
theorem key_toOption (scheme authority rest : Text) :
    (Location.key ⟨scheme, authority, "/" ++ rest⟩).toOption =
      if rest = "" then none else some rest := by
  by_cases empty : rest = ""
  · rw [if_pos empty, empty]
    rfl
  · rw [if_neg empty, key_slash scheme authority empty]
    rfl

/-- Paths that begin with a slash and give the same key are the same. -/
theorem key_toOption_inj {scheme authority rest other : Text}
    (same : (Location.key ⟨scheme, authority, "/" ++ rest⟩).toOption =
      (Location.key ⟨scheme, authority, "/" ++ other⟩).toOption) : rest = other := by
  rw [key_toOption, key_toOption] at same
  by_cases empty : rest = "" <;> by_cases nothing : other = ""
  · rw [empty, nothing]
  · simp [empty, nothing] at same
  · simp [empty, nothing] at same
  · simpa [empty, nothing] using same

/-- A location keeps its key in print only if it survives. -/
theorem Written.key_unblanked_iff (written : location.Written) :
    location.unblanked.key.toOption = location.key.toOption ↔ location.Survives := by
  rw [written.survives_iff_unblanked]
  refine ⟨fun same => ?_, fun same => by rw [same]⟩
  obtain ⟨scheme, authority, path⟩ := location
  rcases written.slashed with empty | ⟨rest, slash⟩
  · have nothing : path = "" := congrArg Text.mk empty
    rw [nothing]
    rfl
  · have stays : isBlankPoint (.char '/') = false := by decide
    have own : path = "/" ++ ⟨rest⟩ := congrArg Text.mk slash
    have trimmed : unblanked ⟨scheme, authority, path⟩ =
        ⟨scheme, authority, "/" ++ ⟨trimRight isBlankPoint rest⟩⟩ := by
      have points : trimRight isBlankPoint path.points = .char '/' :: trimRight isBlankPoint rest :=
        (congrArg (trimRight isBlankPoint) slash).trans (trimRight_append stays [] rest)
      exact congrArg (fun row => Location.mk scheme authority ⟨row⟩) points
    rw [trimmed, own] at same
    rw [trimmed, own, key_toOption_inj same]

/-- What is reached by going down by names that are not empty survives in print exactly if the
location at the start has the form in which locations are read and the last name does not end with a
blank. A location that was read from a text has that form; what its descendant reads as has the
blanks at the end of the path cut off, and so another key or none, unless it survives. -/
theorem descend_survives_iff (named : ∀ name ∈ names, name ≠ "") :
    ((location.descend names).Survives ↔
      location.Shaped ∧ (names.getLast?.getD location.text).endsBlank = false) ∧
    ∀ raw : Text, (Datum.text raw).toLocation = .ok location →
      ((location.descend names).Survives ↔ ∀ last ∈ names.getLast?, last.endsBlank = false) ∧
      (Datum.text (location.descend names).text).toLocation =
        .ok (location.descend names).unblanked ∧
      ((location.descend names).unblanked.key.toOption = (location.descend names).key.toOption ↔
        ∀ last ∈ names.getLast?, last.endsBlank = false) := by
  have general : (location.descend names).Survives ↔
      location.Shaped ∧ (names.getLast?.getD location.text).endsBlank = false := by
    rw [survives_iff, descend_shaped_iff, descend_endsBlank location named]
  refine ⟨general, fun raw read => ?_⟩
  rw [toLocation_text_iff] at read
  have written := (Written.of_ofText read).descend names
  obtain ⟨shaped, ended⟩ := shaped_of_ofText read
  have survives : (location.descend names).Survives ↔
      ∀ last ∈ names.getLast?, last.endsBlank = false := by
    rw [general]
    cases names.getLast? with
    | none => exact ⟨fun _ => nofun, fun _ => ⟨shaped, ended⟩⟩
    | some last =>
      refine ⟨?_, fun all => ⟨shaped, all last rfl⟩⟩
      rintro ⟨_, unblank⟩ _ ⟨⟩
      exact unblank
  exact ⟨survives, toLocation_text_iff.mpr written.ofText_text,
    written.key_unblanked_iff.trans survives⟩

/-- The root of a bucket. -/
def bucketRoot : Location :=
  ⟨"s3", "b", "/"⟩

theorem bucketRoot_descend_survives_iff :
    (∀ name ∈ (["a/", " k"] : List Text), name ≠ "") ∧
    (Datum.text "s3://b/").toLocation = .ok bucketRoot ∧
    (bucketRoot.descend ["a/", " k"]).path = "/a/ k" ∧
    ((bucketRoot.descend ["a/", " k"]).Survives ↔
      ∀ last ∈ (["a/", " k"] : List Text).getLast?, last.endsBlank = false) := by
  have named : ∀ name ∈ (["a/", " k"] : List Text), name ≠ "" := by decide
  have read : (Datum.text "s3://b/").toLocation = .ok bucketRoot := rfl
  exact ⟨named, read, by decide, ((descend_survives_iff named).2 _ read).1⟩

/-- Below the root of a bucket, the object whose name is a blank is written down as a text that
reads as the root, which has no key. -/
theorem bucketRoot_descend_lost :
    (Datum.text "s3://b/").toLocation = .ok bucketRoot ∧
    bucketRoot.descend [" "] = ⟨"s3", "b", "/ "⟩ ∧ (bucketRoot.descend [" "]).key = .ok " " ∧
    (Datum.text (bucketRoot.descend [" "]).text).toLocation = .ok bucketRoot ∧
    bucketRoot.key = .error (.noPath bucketRoot) ∧ ¬ (bucketRoot.descend [" "]).Survives := by
  have lost : (Datum.text (bucketRoot.descend [" "]).text).toLocation = .ok bucketRoot := rfl
  refine ⟨rfl, rfl, rfl, lost, rfl, fun survives => ?_⟩
  cases lost.symm.trans survives

end Location

end ObjectStorage
