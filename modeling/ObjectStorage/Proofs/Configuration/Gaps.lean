import ObjectStorage.Environment
import ObjectStorage.Proofs.Dialogue
import ObjectStorage.Proofs.Validation

/-!
# Gaps of an environment

A file fills the gaps of an environment and does nothing else (`Environment.load_fills_gaps`): what
is set stays, and a variable that is not set gets the value that the first line for it gives. So the
file can be loaded again, and the settings that it leads to are those of the environment that it
leaves. No line of a file can fail to set its variable (`Environment.entriesOf_settable`).
-/

namespace ObjectStorage

open Text

namespace Text

/-- Trimming keeps no character that was not there. -/
theorem mem_trimBoth {ρ : Type} {inClass : ρ → Bool} {row : List ρ} {item : ρ}
    (inside : item ∈ trimBoth inClass row) : item ∈ row := by
  have kept : item ∈ (trimLeft inClass row).reverse :=
    (List.dropWhile_sublist inClass).mem (List.mem_reverse.mp inside)
  exact (List.dropWhile_sublist inClass).mem (List.mem_reverse.mp kept)

/-- The characters of a line are those of the text. -/
theorem mem_of_mem_linesFrom {line row : List CodePoint} {piece : List CodePoint}
    {point : CodePoint} (listed : piece ∈ linesFrom line row) (inside : point ∈ piece) :
    point ∈ line ∨ point ∈ row := by
  fun_induction linesFrom line row with
  | case1 line empty => cases listed
  | case2 line filled =>
    rw [List.mem_singleton.mp listed] at inside
    exact .inl (List.mem_reverse.mp inside)
  | case3 line rest ih | case4 line head rest _ ends ih =>
    rcases List.mem_cons.mp listed with rfl | later
    · exact .inl (List.mem_reverse.mp inside)
    · rcases ih later with none | behind
      · cases none
      · simp [behind]
  | case5 line head rest _ goes ih =>
    rcases ih listed with own | behind
    · rcases List.mem_cons.mp own with rfl | before
      · exact .inr List.mem_cons_self
      · exact .inl before
    · exact .inr (List.mem_cons_of_mem _ behind)

/-- The lines of a text have no code points but its own. -/
theorem mem_of_mem_lines {text line : Text} {point : CodePoint} (listed : line ∈ lines text)
    (inside : point ∈ line.points) : point ∈ text.points := by
  obtain ⟨piece, isPiece, rfl⟩ := List.mem_map.mp listed
  exact (mem_of_mem_linesFrom isPiece inside).resolve_left List.not_mem_nil

/-- A row is cut at the first separator in it. -/
theorem cutAt?_append {ρ : Type} [DecidableEq ρ] {separator : ρ} {before : List ρ}
    (outside : separator ∉ before) (after : List ρ) :
    cutAt? separator (before ++ separator :: after) = some (before, after) := by
  induction before with
  | nil => simp [cutAt?]
  | cons first rest ih =>
    obtain ⟨differs, later⟩ := not_or.mp (mt List.mem_cons.mpr outside)
    have other : (first == separator) = false := beq_eq_false_iff_ne.mpr (Ne.symm differs)
    simp [cutAt?, other, ih later]

/-- A row is cut exactly at its first separator. -/
theorem cutAt?_eq_some_iff {ρ : Type} [DecidableEq ρ] {separator : ρ} {row before after : List ρ} :
    cutAt? separator row = some (before, after) ↔
      row = before ++ separator :: after ∧ separator ∉ before := by
  refine ⟨eq_append_of_cutAt?, ?_⟩
  rintro ⟨rfl, outside⟩
  exact cutAt?_append outside after

end Text

namespace Environment

/-- A value without the quotes around it, first the double ones and then the single ones. -/
def unquoted (value : Text) : Text :=
  ⟨trimBoth (· == .char '\'') (trimBoth (· == .char '"') value.points)⟩

/-- A line gives a variable a value. Without the blanks around it the line is no comment and has an
equals sign; what stands before the first one is the name, which is not empty, and what stands
behind is the value, both without blanks around them. -/
def Gives (line name value : Text) : Prop :=
  ∃ front back : List CodePoint, (strip line).points = front ++ .char '=' :: back ∧
    CodePoint.char '=' ∉ front ∧ (strip line).points.head? ≠ some (.char '#') ∧
    name = strip ⟨front⟩ ∧ name ≠ "" ∧ value = unquoted (strip ⟨back⟩)

/-- The first of some lines that gives a variable a value gives it this one. -/
def FirstGives (rows : List Text) (name value : Text) : Prop :=
  ∃ before line behind, rows = before ++ line :: behind ∧ Gives line name value ∧
    ∀ earlier ∈ before, ∀ other, ¬ Gives earlier name other

/-- The entry of a line is what the line gives. -/
theorem entryOfLine?_eq_some_iff {line name value : Text} :
    entryOfLine? line = some (name, value) ↔ Gives line name value := by
  unfold entryOfLine? Gives
  dsimp only
  by_cases comment : (strip line).points.head? = some (.char '#')
  · rw [if_pos comment]
    exact ⟨nofun, fun ⟨_, _, _, _, uncommented, _⟩ => (uncommented comment).elim⟩
  rw [if_neg comment]
  cases cut : cutAt? (.char '=') (strip line).points with
  | none =>
    refine ⟨nofun, ?_⟩
    rintro ⟨front, back, split, outside, _⟩
    cases cut.symm.trans (cutAt?_eq_some_iff.mpr ⟨split, outside⟩)
  | some parts =>
    obtain ⟨front, back⟩ := parts
    obtain ⟨split, outside⟩ := cutAt?_eq_some_iff.mp cut
    dsimp only
    constructor
    · intro entered
      split at entered
      · cases entered
      · next named =>
        cases entered
        exact ⟨front, back, split, outside, comment, rfl, mt Text.isEmpty_iff.mpr named, rfl⟩
    · rintro ⟨otherFront, otherBack, otherSplit, otherOutside, _, rfl, named, rfl⟩
      cases cut.symm.trans (cutAt?_eq_some_iff.mpr ⟨otherSplit, otherOutside⟩)
      rw [if_neg (mt Text.isEmpty_iff.mp named)]
      rfl

/-- A line has no entry exactly if it gives no name a value. -/
theorem entryOfLine?_eq_none_iff {line : Text} :
    entryOfLine? line = none ↔ ∀ name value, ¬ Gives line name value := by
  rw [Option.eq_none_iff_forall_ne_some, Prod.forall]
  exact forall₂_congr fun name value => not_congr entryOfLine?_eq_some_iff

variable {environment : Environment} {line name value : Text} {rows : List Text}

theorem not_firstGives_nil : ¬ FirstGives [] name value := by
  rintro ⟨before, line, behind, split, _⟩
  cases before <;> cases split

/-- The first line to give a name a value is the one at the front, or it gives none and the first
one is among the rest. -/
theorem firstGives_cons_iff : FirstGives (line :: rows) name value ↔
    Gives line name value ∨ (∀ other, ¬ Gives line name other) ∧ FirstGives rows name value := by
  constructor
  · rintro ⟨before, own, behind, split, gives, earlier⟩
    cases before with
    | nil =>
      cases split
      exact .inl gives
    | cons first rest =>
      cases split
      obtain ⟨here, later⟩ := List.forall_mem_cons.mp earlier
      exact .inr ⟨here, rest, own, behind, rfl, gives, later⟩
  · rintro (gives | ⟨here, before, own, behind, rfl, gives, earlier⟩)
    · exact ⟨[], line, rows, rfl, gives, List.forall_mem_nil _⟩
    · exact ⟨line :: before, own, behind, rfl, gives, List.forall_mem_cons.mpr ⟨here, earlier⟩⟩

/-- Looking a name up among the entries of lines finds what the first line for it gives. -/
theorem lookup_entries_iff : (rows.filterMap entryOfLine?).lookup name = some value ↔
    FirstGives rows name value := by
  induction rows with
  | nil => exact ⟨nofun, fun gives => (not_firstGives_nil gives).elim⟩
  | cons line rest ih =>
    rw [firstGives_cons_iff]
    cases entered : entryOfLine? line with
    | none =>
      have nothing := entryOfLine?_eq_none_iff.mp entered
      rw [List.filterMap_cons_none entered, ih]
      exact ⟨fun later => .inr ⟨nothing name, later⟩,
        fun given => (given.resolve_left (nothing name value)).2⟩
    | some entry =>
      obtain ⟨own, gift⟩ := entry
      have only (other kept : Text) : Gives line other kept ↔ other = own ∧ kept = gift := by
        rw [← entryOfLine?_eq_some_iff, entered, Option.some.injEq, Prod.mk.injEq]
        exact and_congr eq_comm eq_comm
      rw [List.filterMap_cons_some entered, List.lookup_cons]
      by_cases same : name = own
      · subst same
        rw [beq_self_eq_true]
        constructor
        · rintro ⟨⟩
          exact .inl ((only _ _).mpr ⟨rfl, rfl⟩)
        · rintro (gives | ⟨absent, _⟩)
          · exact congrArg some ((only _ _).mp gives).2.symm
          · exact (absent gift ((only _ _).mpr ⟨rfl, rfl⟩)).elim
      · rw [beq_eq_false_iff_ne.mpr same, ih]
        have absent : ∀ other, ¬ Gives line name other :=
          fun other gives => same ((only _ _).mp gives).1
        exact ⟨fun later => .inr ⟨absent, later⟩,
          fun given => (given.resolve_left (absent value)).2⟩

/-- A line for a variable is among the lines exactly if the entries of the lines have it. -/
theorem lookup_entries_isSome_iff : ((rows.filterMap entryOfLine?).lookup name).isSome = true ↔
    ∃ line ∈ rows, ∃ value, Gives line name value := by
  rw [List.lookup_isSome_iff]
  simp only [List.mem_filterMap, beq_iff_eq, Prod.exists, entryOfLine?_eq_some_iff]
  constructor
  · rintro ⟨_, value, ⟨line, inside, gives⟩, rfl⟩
    exact ⟨line, inside, value, gives⟩
  · rintro ⟨line, inside, value, gives⟩
    exact ⟨name, value, ⟨line, inside, gives⟩, rfl⟩

/-- A name and a value that a variable can have. -/
structure Settable (name value : Text) : Prop where
  wholeName : name.isWhole = true
  wholeValue : value.isWhole = true
  nameWithoutNul : hasNul name = false
  valueWithoutNul : hasNul value = false
  nameWithoutEquals : name.points.contains (.char '=') = false
  named : name.isEmpty = false

/-- A name and a value that can be set are set. -/
theorem Settable.set_apply (settable : Settable name value) (environment : Environment) :
    set name value environment = (.ok (), putEntry environment name value) := by
  have keepsName : held name = .ok name := if_pos settable.wholeName
  have keepsValue : held value = .ok value := if_pos settable.wholeValue
  unfold set
  simp only [keepsName, keepsValue, Act.bind_apply, Act.ofExcept_apply,
    settable.nameWithoutNul, settable.valueWithoutNul, settable.nameWithoutEquals, settable.named,
    Bool.or_self, Bool.false_eq_true, ↓reduceIte]
  rfl

/-- A name that has a value is left alone. -/
theorem fill_set {entry : Text × Text} (taken : (environment.lookup entry.1).isSome = true) :
    fill entry environment = (.ok (), environment) := by
  obtain ⟨value, found⟩ := Option.isSome_iff_exists.mp taken
  unfold fill
  simp [Act.bind_apply, Act.get, found]

/-- A name without a value is given that of the entry. -/
theorem fill_unset {entry : Text × Text} (free : environment.lookup entry.1 = none)
    (settable : Settable entry.1 entry.2) :
    fill entry environment = (.ok (), putEntry environment entry.1 entry.2) := by
  unfold fill
  simp only [Act.bind_apply, Act.get, free, Option.isNone_none, ↓reduceIte]
  exact settable.set_apply environment

/-- Filling a gap leaves what is set and adds the entry behind it. -/
theorem fill_apply {entry : Text × Text} (settable : Settable entry.1 entry.2)
    (environment : Environment) : ∃ after, fill entry environment = (.ok (), after) ∧
      ∀ name, after.lookup name = (environment.lookup name).or ([entry].lookup name) := by
  cases known : environment.lookup entry.1 with
  | some kept =>
    refine ⟨environment, fill_set (known ▸ rfl), fun name => ?_⟩
    by_cases same : name = entry.1
    · rw [same, known, Option.some_or]
    · rw [List.lookup_cons, beq_eq_false_iff_ne.mpr same, List.lookup_nil, Option.or_none]
  | none =>
    refine ⟨_, fill_unset known settable, fun name => ?_⟩
    rw [lookup_putEntry]
    by_cases same : name = entry.1
    · rw [if_pos same, same, known, Option.none_or, List.lookup_cons, beq_self_eq_true]
    · rw [if_neg same, List.lookup_cons, beq_eq_false_iff_ne.mpr same, List.lookup_nil,
        Option.or_none]

/-- Filling gaps with entries leaves what is set, and looks up anything else among the entries. -/
theorem fillAll_apply {entries : List (Text × Text)}
    (settable : ∀ entry ∈ entries, Settable entry.1 entry.2) (environment : Environment) :
    ∃ after, fillAll entries environment = (.ok (), after) ∧
      ∀ name, after.lookup name = (environment.lookup name).or (entries.lookup name) := by
  induction entries generalizing environment with
  | nil => exact ⟨environment, rfl, fun name => (Option.or_none).symm⟩
  | cons entry rest ih =>
    obtain ⟨here, others⟩ := List.forall_mem_cons.mp settable
    obtain ⟨between, filled, first⟩ := fill_apply here environment
    obtain ⟨after, ran, last⟩ := ih others between
    refine ⟨after, ?_, fun name => ?_⟩
    · unfold fillAll
      rw [Act.bind_ok filled]
      exact ran
    · rw [last, first, Option.or_assoc, ← List.lookup_append]
      rfl

/-- Where there are no gaps for entries, nothing happens. -/
theorem fillAll_filled {entries : List (Text × Text)}
    (filled : ∀ entry ∈ entries, (environment.lookup entry.1).isSome = true) :
    fillAll entries environment = (.ok (), environment) := by
  induction entries with
  | nil => rfl
  | cons entry rest ih =>
    obtain ⟨here, others⟩ := List.forall_mem_cons.mp filled
    unfold fillAll
    rw [Act.bind_ok (fill_set here)]
    exact ih others

/-- The text has characters only, and NUL is not among them. -/
def IsPlain (text : Text) : Prop :=
  ∀ point ∈ text.points, point.isHalf = false ∧ point ≠ .char '\x00'

/-- A plain text has no lone surrogates. -/
theorem IsPlain.whole {text : Text} (plain : IsPlain text) : text.isWhole = true :=
  List.all_eq_true.mpr fun point inside => Bool.not_eq_true' _ ▸ (plain point inside).1

/-- A plain text has no NUL in it. -/
theorem IsPlain.withoutNul {text : Text} (plain : IsPlain text) : hasNul text = false := by
  unfold hasNul
  rw [List.contains_eq_mem, decide_eq_false_iff_not]
  exact fun inside => (plain _ inside).2 rfl

/-- What bytes are read as is plain, if it has no NUL. -/
theorem isPlain_of_decode {bytes : List UInt8} {text : Text} (decoded : Utf8.decode bytes = .ok text)
    (clean : hasNul text = false) : IsPlain text := by
  intro point inside
  constructor
  · unfold Utf8.decode at decoded
    cases read : Utf8.decodeFrom 0 0 bytes with
    | error defect =>
      rw [read] at decoded
      cases decoded
    | ok chars =>
      rw [read] at decoded
      cases decoded
      obtain ⟨c, _, rfl⟩ := List.mem_map.mp inside
      rfl
  · rintro rfl
    unfold hasNul at clean
    rw [List.contains_eq_mem, decide_eq_false_iff_not] at clean
    exact clean inside

/-- What a plain line gives can be set. -/
theorem Gives.settable (gives : Gives line name value) (plain : IsPlain line) :
    Settable name value := by
  obtain ⟨front, back, split, outside, _, rfl, named, rfl⟩ := gives
  have own : ∀ point ∈ front ++ .char '=' :: back, point ∈ line.points :=
    fun point inside => mem_trimBoth (split ▸ inside)
  have plainName : IsPlain (strip ⟨front⟩) := fun point inside =>
    plain point (own point (List.mem_append_left _ (mem_trimBoth inside)))
  have plainValue : IsPlain (unquoted (strip ⟨back⟩)) := fun point inside =>
    plain point (own point (List.mem_append_right _ (List.mem_cons_of_mem _
      (mem_trimBoth (mem_trimBoth (mem_trimBoth inside))))))
  refine ⟨plainName.whole, plainValue.whole, plainName.withoutNul, plainValue.withoutNul, ?_,
    Bool.eq_false_iff.mpr (mt Text.isEmpty_iff.mp named)⟩
  rw [List.contains_eq_mem, decide_eq_false_iff_not]
  exact fun inside => outside (mem_trimBoth inside)

/-- The entries of a plain text can all be set. -/
theorem entriesOf_settable {text : Text} (plain : IsPlain text) :
    ∀ entry ∈ entriesOf text, Settable entry.1 entry.2 := by
  intro entry inside
  obtain ⟨line, listed, entered⟩ := List.mem_filterMap.mp inside
  exact (entryOfLine?_eq_some_iff.mp entered).settable fun point own =>
    plain point (mem_of_mem_lines listed own)

/-- Loading a plain file leaves what is set and looks up anything else in the file. Loaded again, it
finds no gaps. -/
theorem load_apply {bytes : List UInt8} {text : Text} (decoded : Utf8.decode bytes = .ok text)
    (clean : hasNul text = false) (environment : Environment) :
    ∃ after, load (some bytes) environment = (.ok (), after) ∧
      (∀ name, after.lookup name = (environment.lookup name).or ((entriesOf text).lookup name)) ∧
      load (some bytes) after = (.ok (), after) := by
  have loads : load (some bytes) = fillAll (entriesOf text) := by
    unfold load
    dsimp only
    rw [decoded]
  obtain ⟨after, filled, looked⟩ :=
    fillAll_apply (entriesOf_settable (isPlain_of_decode decoded clean)) environment
  rw [loads]
  refine ⟨after, filled, looked, fillAll_filled fun entry inside => ?_⟩
  have present : ((entriesOf text).lookup entry.1).isSome = true :=
    List.lookup_isSome_iff.mpr ⟨entry, inside, beq_self_eq_true _⟩
  rw [looked, Option.isSome_or, present, Bool.or_true]

/-- Once a file is loaded, the settings are those of the environment that it left. -/
theorem settings_of_load {file : Option (List UInt8)} {after : Environment}
    (loaded : load file environment = (.ok (), after)) :
    settings file environment = settings none after := by
  unfold settings
  rw [Act.bind_ok loaded]
  rfl

/-- A file of UTF-8 without NUL fills the gaps of an environment and does nothing else. What is set
stays. A variable that is not set is set then exactly if a line gives it a value, and to what the
first such line gives. Loading the file again changes nothing, and the settings that come of the
file are those of the environment that it leaves. -/
theorem load_fills_gaps {bytes : List UInt8} {text : Text}
    (decoded : Utf8.decode bytes = .ok text) (clean : hasNul text = false)
    (environment : Environment) : ∃ after, load (some bytes) environment = (.ok (), after) ∧
      (∀ name value, environment.lookup name = some value → after.lookup name = some value) ∧
      (∀ name, environment.lookup name = none →
        ((after.lookup name).isSome = true ↔ ∃ line ∈ lines text, ∃ value, Gives line name value) ∧
        ∀ value, after.lookup name = some value ↔ FirstGives (lines text) name value) ∧
      load (some bytes) after = (.ok (), after) ∧
      settings (some bytes) environment = settings none after := by
  obtain ⟨after, loaded, looked, again⟩ := load_apply decoded clean environment
  refine ⟨after, loaded, ?_, ?_, again, settings_of_load loaded⟩
  · intro name value known
    rw [looked, known, Option.some_or]
  · intro name free
    rw [looked, free, Option.none_or]
    exact ⟨lookup_entries_isSome_iff, fun value => lookup_entries_iff⟩

/-- A file that gives one variable two values, and another one a value in quotes. -/
def repetitiveText : Text :=
  "A=1\n#B=4\nB='2'\n A = 3"

/-- The bytes of that file. -/
def repetitiveFile : List UInt8 :=
  [65, 61, 49, 10, 35, 66, 61, 52, 10, 66, 61, 39, 50, 39, 10, 32, 65, 32, 61, 32, 51]

/-- An environment with one of the two variables. -/
def sparse : Environment :=
  [("B", "5")]

theorem repetitiveFile_fills_gaps :
    Utf8.decode repetitiveFile = .ok repetitiveText ∧ hasNul repetitiveText = false ∧
    ∃ after, load (some repetitiveFile) sparse = (.ok (), after) ∧
      (∀ name value, sparse.lookup name = some value → after.lookup name = some value) ∧
      (∀ name, sparse.lookup name = none →
        ((after.lookup name).isSome = true ↔
          ∃ line ∈ lines repetitiveText, ∃ value, Gives line name value) ∧
        ∀ value, after.lookup name = some value ↔ FirstGives (lines repetitiveText) name value) ∧
      load (some repetitiveFile) after = (.ok (), after) ∧
      settings (some repetitiveFile) sparse = settings none after :=
  ⟨rfl, by decide, load_fills_gaps rfl (by decide) sparse⟩

example : (load (some repetitiveFile) sparse).2 = ([("B", "5"), ("A", "1")] : Environment) := by
  decide +kernel

end Environment

end ObjectStorage
