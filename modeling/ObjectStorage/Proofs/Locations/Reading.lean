import Mathlib.Data.List.DropRight
import ObjectStorage.Client.Options

/-!
# Reading locations

A text is read as a location at the first mark `://` in it, and the scheme in front of the mark has
no colon (`Location.ofText_ok`, `Location.ofText_schemed`). A location that was read from a text,
and every location below it, is written as a text that reads as the location again, but for the
blanks at the end of its path (`Location.Written.ofText_text`).
-/

namespace ObjectStorage

open Text

/-- What holds of every ASCII character and of every character that is its own small letter. -/
theorem forall_toLower (holds : Char → Char → Prop) [∀ c d, Decidable (holds c d)]
    (ascii : ∀ n < 128, holds (Char.ofNat n) (Char.ofNat n).toLower)
    (same : ∀ c, c.toLower = c → holds c c) (c : Char) : holds c c.toLower := by
  by_cases small : c.toNat < 128
  · have own := ascii c.toNat small
    rwa [Char.ofNat_toNat] at own
  · have unchanged : c.toLower = c := by
      unfold Char.toLower
      rw [dif_neg]
      intro capital
      have bound : c.val.toNat ≤ 90 := UInt32.le_iff_toNat_le.mp capital.2
      exact small (Nat.lt_of_le_of_lt bound (by decide))
    rw [unchanged]
    exact same c unchanged

/-- A small letter is its own small letter. -/
theorem toLower_toLower (c : Char) : c.toLower.toLower = c.toLower :=
  forall_toLower (fun _ small => small.toLower = small) (by decide) (fun _ same => same) c

theorem isAlpha_toLower (c : Char) : c.toLower.isAlpha = c.isAlpha :=
  forall_toLower (fun own small => small.isAlpha = own.isAlpha) (by decide)
    (fun _ _ => rfl) c

theorem isAlphanum_toLower (c : Char) : c.toLower.isAlphanum = c.isAlphanum :=
  forall_toLower (fun own small => small.isAlphanum = own.isAlphanum) (by decide)
    (fun _ _ => rfl) c

/-- Whether a character can be in a scheme does not depend on its case. -/
theorem isSchemeChar_toLower (c : Char) :
    Location.isSchemeChar c.toLower = Location.isSchemeChar c :=
  forall_toLower (fun own small => Location.isSchemeChar small = Location.isSchemeChar own)
    (by decide) (fun _ _ => rfl) c

/-- No other character becomes a line feed. -/
theorem toLower_eq_lineFeed_iff (c : Char) : c.toLower = '\n' ↔ c = '\n' :=
  forall_toLower (fun own small => small = '\n' ↔ own = '\n') (by decide)
    (fun _ _ => Iff.rfl) c

theorem CodePoint.map_toLower_eq_lineFeed_iff (point : CodePoint) :
    point.map Char.toLower = .char '\n' ↔ point = .char '\n' := by
  cases point with
  | char c =>
    rw [CodePoint.map, CodePoint.char.injEq, CodePoint.char.injEq]
    exact toLower_eq_lineFeed_iff c
  | half offset => exact ⟨nofun, nofun⟩

/-- A class of characters that has its small letters has those of code points. -/
theorem CodePoint.isIn_map_toLower {inClass : Char → Bool}
    (closed : ∀ c, inClass c.toLower = inClass c) (point : CodePoint) :
    (point.map Char.toLower).isIn inClass = point.isIn inClass := by
  cases point with
  | char c => exact closed c
  | half offset => rfl

/-- Letters and digits lie between the digit 0 and the small z. -/
theorem toNat_of_isAlphanum {c : Char} (plain : c.isAlphanum = true) :
    48 ≤ c.toNat ∧ c.toNat ≤ 122 := by
  unfold Char.isAlphanum Char.isAlpha Char.isUpper Char.isLower Char.isDigit at plain
  have number : c.val.toNat = c.toNat := rfl
  simp only [Bool.or_eq_true, Bool.and_eq_true, decide_eq_true_eq, ge_iff_le,
    UInt32.le_iff_toNat_le, number] at plain
  have capitalA : ('A' : Char).val.toNat = 65 := rfl
  have capitalZ : ('Z' : Char).val.toNat = 90 := rfl
  have smallA : ('a' : Char).val.toNat = 97 := rfl
  have smallZ : ('z' : Char).val.toNat = 122 := rfl
  have zero : ('0' : Char).val.toNat = 48 := rfl
  have nine : ('9' : Char).val.toNat = 57 := rfl
  omega

/-- No letter and no digit is a blank. -/
theorem isBlank_of_isAlphanum {c : Char} (plain : c.isAlphanum = true) : isBlank c = false := by
  have bounds := toNat_of_isAlphanum plain
  unfold isBlank
  simp only [Bool.or_eq_false_iff, Bool.and_eq_false_iff, decide_eq_false_iff_not,
    beq_eq_false_iff_ne]
  omega

/-- Trimming stops at the last item that stays. -/
theorem trimRight_append {ρ : Type} {inClass : ρ → Bool} {item : ρ} (stays : inClass item = false)
    (front rest : List ρ) :
    trimRight inClass (front ++ item :: rest) = front ++ item :: trimRight inClass rest := by
  have halt : (item :: front.reverse).dropWhile inClass = item :: front.reverse := by
    rw [List.dropWhile_cons, stays]
    rfl
  unfold trimRight
  rw [List.reverse_append, List.reverse_cons, List.append_assoc, List.singleton_append,
    List.dropWhile_append, halt]
  split
  · next blank => simp [List.isEmpty_iff.mp blank]
  · simp

namespace Location

/-- The mark of a location and what stands behind it. -/
def marked (rest : List CodePoint) : List CodePoint :=
  .char ':' :: .char '/' :: .char '/' :: rest

/-- A row is cut at its first mark. -/
theorem cutScheme?_append {row : List CodePoint} (unmarked : CodePoint.char ':' ∉ row)
    (rest : List CodePoint) : cutScheme? (row ++ marked rest) = some (row, rest) := by
  induction row with
  | nil => rfl
  | cons point row ih =>
    obtain ⟨differs, unmarked⟩ := List.ne_and_not_mem_of_not_mem_cons unmarked
    rw [List.cons_append, cutScheme?, ih unmarked]
    · rfl
    · intro others same
      exact absurd same differs.symm

/-- The parts of a cut are those in front of the mark and behind it. -/
theorem eq_append_of_cutScheme? {row front rest : List CodePoint}
    (cut : cutScheme? row = some (front, rest)) : row = front ++ marked rest := by
  fun_induction cutScheme? row generalizing front with
  | case1 behind =>
    cases cut
    rfl
  | case2 point behind _ ih =>
    obtain ⟨⟨later, _⟩, found, same⟩ := Option.map_eq_some_iff.mp cut
    cases same
    rw [ih found]
    rfl
  | case3 => cases cut

/-- The characters of a scheme, of which only the last can be a line feed. -/
theorem isScheme_chars {row : List CodePoint} (scheme : isScheme row = true) :
    ∀ point ∈ row, point.isIn isSchemeChar = true ∨ point = .char '\n' := by
  have kept : ∀ point ∈ dropFinal (.char '\n') row, point.isIn isSchemeChar = true := by
    unfold isScheme at scheme
    split at scheme
    · cases scheme
    · next first others split =>
      rw [split]
      obtain ⟨letter, all⟩ := Bool.and_eq_true_iff.mp scheme
      refine List.forall_mem_cons.mpr ⟨?_, List.all_eq_true.mp all⟩
      cases first with
      | char c =>
        have alpha : c.isAlpha = true := letter
        simp only [CodePoint.isIn, isSchemeChar, Char.isAlphanum, alpha, Bool.true_or]
      | half offset => cases letter
  intro point inside
  unfold dropFinal at kept
  split at kept
  · next ended =>
    rw [← List.dropLast_append_getLast? _ ended] at inside
    rcases List.mem_append.mp inside with front | last
    · exact .inl (kept point front)
    · exact .inr (List.mem_singleton.mp last)
  · exact .inl (kept point inside)

/-- There is no colon in a scheme. -/
theorem colon_of_isScheme {row : List CodePoint} (scheme : isScheme row = true) :
    CodePoint.char ':' ∉ row := by
  intro inside
  rcases isScheme_chars scheme _ inside with own | same
  · exact absurd own (by decide)
  · cases same

/-- A scheme begins with a letter. -/
theorem isScheme_first {row : List CodePoint} (scheme : isScheme row = true) :
    ∃ first others, row = first :: others ∧ isBlankPoint first = false := by
  cases row with
  | nil => cases scheme
  | cons first others =>
    refine ⟨first, others, rfl, ?_⟩
    unfold isScheme dropFinal at scheme
    split at scheme
    · cases scheme
    next letter rest split =>
    have same : letter = first := by
      split at split
      · cases others with
        | nil => cases split
        | cons second others => exact (List.cons.inj split).1.symm
      · exact (List.cons.inj split).1.symm
    have alpha := (Bool.and_eq_true_iff.mp scheme).1
    rw [same] at alpha
    cases first with
    | char c =>
      have plain : c.isAlphanum = true := by
        have own : c.isAlpha = true := alpha
        simp only [Char.isAlphanum, own, Bool.true_or]
      exact isBlank_of_isAlphanum plain
    | half offset => rfl

/-- The small letters of a scheme are a scheme. -/
theorem isScheme_small {row : List CodePoint} (scheme : isScheme row = true) :
    isScheme (row.map (.map Char.toLower)) = true := by
  have final : dropFinal (CodePoint.char '\n') (row.map (CodePoint.map Char.toLower)) =
      (dropFinal (CodePoint.char '\n') row).map (CodePoint.map Char.toLower) := by
    unfold dropFinal
    rw [List.getLast?_map]
    by_cases ended : row.getLast? = some (.char '\n')
    · have small : (some (CodePoint.char '\n')).map (CodePoint.map Char.toLower) =
          some (.char '\n') := rfl
      rw [if_pos ended, ended, if_pos small, List.map_dropLast]
    -- No other character has a line feed for its small letter.
    · rw [if_neg ended, if_neg]
      intro small
      obtain ⟨last, isLast, same⟩ := Option.map_eq_some_iff.mp small
      exact ended ((CodePoint.map_toLower_eq_lineFeed_iff last).mp same ▸ isLast)
  unfold isScheme at scheme ⊢
  rw [final]
  split at scheme
  · cases scheme
  next first others split =>
  rw [split]
  obtain ⟨letter, all⟩ := Bool.and_eq_true_iff.mp scheme
  apply Bool.and_eq_true_iff.mpr
  constructor
  · exact (CodePoint.isIn_map_toLower isAlpha_toLower first).trans letter
  · rw [List.all_map, ← all]
    congr 1
    funext point
    exact CodePoint.isIn_map_toLower isSchemeChar_toLower point

/-- A text that is a location has a scheme in front of its first mark. Behind the mark, the first
slash begins the path. -/
theorem ofText_ok {raw : Text} {location : Location} (read : ofText raw = .ok location) :
    ∃ scheme rest, isScheme scheme = true ∧ (strip raw).points = scheme ++ marked rest ∧
      location = ⟨⟨scheme.map (.map Char.toLower)⟩, ⟨rest.takeWhile (· != '/')⟩,
        ⟨rest.dropWhile (· != '/')⟩⟩ := by
  unfold ofText at read
  dsimp only at read
  split at read
  · cases read
  split at read
  · cases read
  next scheme rest cut =>
  split at read
  · next schemed =>
    cases read
    exact ⟨scheme, rest, schemed, eq_append_of_cutScheme? cut, rfl⟩
  · cases read

/-- A scheme, the mark of a location and anything behind it are a location. -/
theorem ofText_schemed {scheme : Text} (schemed : isScheme scheme.points = true) (rest : Text) :
    ofText (scheme ++ "://" ++ rest) = .ok {
      scheme := ⟨scheme.points.map (.map Char.toLower)⟩
      authority := ⟨(trimRight isBlankPoint rest.points).takeWhile (· != '/')⟩
      path := ⟨(trimRight isBlankPoint rest.points).dropWhile (· != '/')⟩ } := by
  obtain ⟨first, others, row, unblank⟩ := isScheme_first schemed
  have stripped : (strip (scheme ++ "://" ++ rest)).points =
      scheme.points ++ marked (trimRight isBlankPoint rest.points) := by
    have left : trimLeft isBlankPoint (scheme ++ "://" ++ rest).points =
        (scheme.points ++ [.char ':', .char '/']) ++ .char '/' :: rest.points := by
      have whole : (scheme ++ "://" ++ rest).points =
          (scheme.points ++ [.char ':', .char '/']) ++ .char '/' :: rest.points := by
        rw [points_append, points_append, List.append_assoc, List.append_assoc]
        rfl
      rw [whole, row, trimLeft, List.cons_append, List.cons_append, List.dropWhile_cons, unblank]
      rfl
    have slash : isBlankPoint (.char '/') = false := by decide
    rw [strip, trimBoth, left, trimRight_append slash, List.append_assoc]
    rfl
  have filled : (strip (scheme ++ "://" ++ rest)).isEmpty = false := by
    rw [Text.isEmpty, stripped, row]
    rfl
  unfold ofText
  simp only [filled, stripped, cutScheme?_append (colon_of_isScheme schemed), schemed,
    Bool.false_eq_true, ↓reduceIte]

/-- A location as it is read from a text: the scheme is one in small letters, the authority has no
slash, and the path, if there is one, begins with a slash. Without a path, the authority does not
end with blanks. -/
structure Written (location : Location) : Prop where
  schemed : isScheme location.scheme.points = true
  small : location.scheme.points.map (.map Char.toLower) = location.scheme.points
  slashless : CodePoint.char '/' ∉ location.authority.points
  slashed : location.path.points = [] ∨ ∃ rest, location.path.points = .char '/' :: rest
  trimmed : location.path.points = [] →
    trimRight isBlankPoint location.authority.points = location.authority.points

/-- The end of a stripped text is trimmed. -/
theorem trimRight_of_strip {raw : Text} {front rest : List CodePoint}
    (stripped : (strip raw).points = front ++ marked rest) :
    trimRight isBlankPoint rest = rest := by
  have twice : trimRight isBlankPoint (strip raw).points = (strip raw).points :=
    List.rdropWhile_idempotent ..
  have slash : isBlankPoint (.char '/') = false := by decide
  have split : front ++ marked rest = (front ++ [.char ':', .char '/']) ++ .char '/' :: rest := by
    rw [List.append_assoc]
    rfl
  rw [stripped, split, trimRight_append slash] at twice
  exact (List.cons.inj (List.append_cancel_left twice)).2

/-- A location that was read from a text has the form of one that is read. -/
theorem Written.of_ofText {raw : Text} {location : Location} (read : ofText raw = .ok location) :
    location.Written := by
  obtain ⟨scheme, rest, schemed, stripped, rfl⟩ := ofText_ok read
  constructor
  · exact isScheme_small schemed
  · simp only [List.map_map]
    apply List.map_congr_left
    intro point _
    cases point with
    | char c => exact congrArg CodePoint.char (toLower_toLower c)
    | half offset => rfl
  · intro inside
    have differs := List.all_eq_true.mp List.all_takeWhile _ inside
    simp at differs
  · change rest.dropWhile (· != CodePoint.char '/') = [] ∨
      ∃ others, rest.dropWhile (· != CodePoint.char '/') = .char '/' :: others
    cases ended : rest.dropWhile (· != CodePoint.char '/') with
    | nil => exact .inl rfl
    | cons first others =>
      have halts := List.head_dropWhile_not (· != CodePoint.char '/')
        (show rest.dropWhile (· != CodePoint.char '/') ≠ [] by simp [ended])
      simp only [ended, List.head_cons, bne_eq_false_iff_eq] at halts
      exact .inr ⟨others, by rw [halts]⟩
  · intro pathless
    have joined : rest.takeWhile (· != CodePoint.char '/') ++
        rest.dropWhile (· != CodePoint.char '/') = rest := List.takeWhile_append_dropWhile
    have whole : rest.takeWhile (· != CodePoint.char '/') = rest := by
      rwa [show rest.dropWhile (· != CodePoint.char '/') = [] from pathless,
        List.append_nil] at joined
    change trimRight isBlankPoint (rest.takeWhile (· != CodePoint.char '/')) =
      rest.takeWhile (· != CodePoint.char '/')
    rw [whole]
    exact trimRight_of_strip stripped

/-- Whatever is read as a location and is not one itself is written. -/
theorem Written.of_toLocation {source : Datum} {location : Location}
    (plain : ∀ own, source ≠ .location own) (read : source.toLocation = .ok location) :
    location.Written := by
  unfold Datum.toLocation at read
  split at read
  · next own => exact (plain own rfl).elim
  · cases read
  · cases given : ofText source.plain with
    | error problem =>
      rw [given] at read
      cases read
    | ok place =>
      rw [given] at read
      cases read
      exact .of_ofText given

/-- The location below a written one is written. -/
theorem Written.child {location : Location} (written : location.Written) (name : Text) :
    (location.child name).Written := by
  unfold Location.child
  split
  · exact written
  · have slashed : ∃ rest, trimRight (· == .char '/') location.path.points ++
        .char '/' :: trimLeft (· == .char '/') name.points = .char '/' :: rest := by
      cases base : trimRight (· == .char '/') location.path.points with
      | nil => exact ⟨_, rfl⟩
      | cons first others =>
        have front : trimRight (· == .char '/') location.path.points <+: location.path.points :=
          List.rdropWhile_prefix ..
        rw [base] at front
        rcases written.slashed with empty | ⟨rest, slash⟩
        · rw [empty] at front
          cases List.prefix_nil.mp front
        · rw [slash, List.cons_prefix_cons] at front
          exact ⟨_, by rw [front.1]; rfl⟩
    obtain ⟨rest, slash⟩ := slashed
    exact ⟨written.schemed, written.small, written.slashless, .inr ⟨rest, slash⟩, fun pathless => by
      cases slash.symm.trans pathless⟩

/-- The first slash of an authority and a path is that of the path. -/
theorem cut_authority {authority path : List CodePoint} (slashless : CodePoint.char '/' ∉ authority)
    (slashed : path = [] ∨ ∃ rest, path = .char '/' :: rest) :
    (authority ++ path).takeWhile (· != CodePoint.char '/') = authority ∧
      (authority ++ path).dropWhile (· != CodePoint.char '/') = path := by
  have others : ∀ point ∈ authority, (point != CodePoint.char '/') = true := by
    intro point inside
    rw [bne_iff_ne]
    rintro rfl
    exact slashless inside
  rw [List.takeWhile_append_of_pos others, List.dropWhile_append_of_pos others]
  rcases slashed with rfl | ⟨rest, rfl⟩
  · exact ⟨List.append_nil _, rfl⟩
  · exact ⟨List.append_nil _, rfl⟩

/-- The text of a written location reads as the location without the blanks at the end of its
path. -/
theorem Written.ofText_text {location : Location} (written : location.Written) :
    ofText location.text = .ok
      { location with path := ⟨trimRight isBlankPoint location.path.points⟩ } := by
  obtain ⟨scheme, authority, path⟩ := location
  obtain ⟨schemed, small, slashless, slashed, trimmed⟩ := written
  dsimp only at schemed small slashless slashed trimmed ⊢
  have whole : Location.text ⟨scheme, authority, path⟩ = scheme ++ "://" ++ (authority ++ path) :=
    congrArg Text.mk (List.append_assoc ..)
  have ended : trimRight isBlankPoint (authority.points ++ path.points) =
        authority.points ++ trimRight isBlankPoint path.points ∧
      (trimRight isBlankPoint path.points = [] ∨
        ∃ rest, trimRight isBlankPoint path.points = .char '/' :: rest) := by
    rcases slashed with empty | ⟨rest, slash⟩
    · rw [empty, List.append_nil, trimmed empty]
      exact ⟨(List.append_nil _).symm, .inl rfl⟩
    · have stays : isBlankPoint (.char '/') = false := by decide
      have kept : trimRight isBlankPoint (.char '/' :: rest) =
          .char '/' :: trimRight isBlankPoint rest := trimRight_append stays [] rest
      rw [slash, trimRight_append stays, kept]
      exact ⟨rfl, .inr ⟨_, rfl⟩⟩
  obtain ⟨front, behind⟩ := cut_authority slashless ended.2
  rw [whole, ofText_schemed schemed, small, points_append, ended.1, front, behind]

/-- A name without a slash has no mark of a location. -/
theorem not_looksLikeLocation {bucket : Text} (slashless : CodePoint.char '/' ∉ bucket.points) :
    StoreOptions.looksLikeLocation bucket = false := by
  unfold StoreOptions.looksLikeLocation
  cases cut : cutScheme? bucket.points with
  | none => rfl
  | some parts =>
    have whole := eq_append_of_cutScheme? cut
    exact (slashless (by rw [whole]; simp [marked])).elim

/-- The text of a location that was read looks like a location. -/
theorem Written.looksLikeLocation {location : Location} (written : location.Written) :
    StoreOptions.looksLikeLocation location.text = true := by
  have shape : location.text.points =
      location.scheme.points ++ marked (location.authority.points ++ location.path.points) := by
    rw [text, points_append, points_append, points_append, List.append_assoc, List.append_assoc]
    rfl
  unfold StoreOptions.looksLikeLocation
  rw [shape, cutScheme?_append (colon_of_isScheme written.schemed)]
  rfl

end Location

end ObjectStorage
