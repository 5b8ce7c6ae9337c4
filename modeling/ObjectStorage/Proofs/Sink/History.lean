import ObjectStorage.Proofs.Sink.Uses

/-!
# Histories of sinks

A sink that is watched has a history: its uses as they begin and end, those that a commit makes of
it included, and the commits. A history says when the collecting ended and what was accepted before,
so it says what was to be committed (`SinkHistory.due`) and what every write, flush and tell had to
answer (`SinkHistory.Truthful`).
-/

namespace ObjectStorage

/-- What is noted when a sink is watched. -/
inductive SinkEvent
  | begins (deed : SinkUse)
  | commits (payload : List UInt8)
  | ends (deed : SinkUse) (result : Except Fault SinkAnswer)

/-- The events of a sink, the oldest first. -/
abbrev SinkHistory := List SinkEvent

namespace SinkUse

/-- Makes a use of a sink and notes when it begins and ends. -/
def watched (commit : List UInt8 → Act (Sink × SinkHistory) Unit) (deed : SinkUse) :
    Act (Sink × SinkHistory) SinkAnswer := do
  Act.modify fun state => (state.1, state.2 ++ [.begins deed])
  let result ← (deed.run commit).outcome
  Act.modify fun state => (state.1, state.2 ++ [.ends deed result])
  Act.ofExcept result

end SinkUse

namespace SinkEvent

/-- The use that ends the collecting as it begins. -/
def ending? : SinkEvent → Option SinkUse
  | .begins deed => if deed.isTerminal then some deed else none
  | _ => none

/-- The bytes of a write that went well. -/
def written : SinkEvent → List UInt8
  | .ends deed (.ok _) => deed.writes
  | _ => []

/-- What a commit gets. -/
def payload? : SinkEvent → Option (List UInt8)
  | .commits payload => some payload
  | _ => none

end SinkEvent

namespace SinkHistory

/-- The first use that ends the collecting. -/
def ending? (history : SinkHistory) : Option SinkUse :=
  history.findSome? SinkEvent.ending?

/-- The events before the collecting ends. -/
def opening (history : SinkHistory) : SinkHistory :=
  history.takeWhile fun event => event.ending?.isNone

/-- The bytes of all writes that went well. -/
def accepted (history : SinkHistory) : List UInt8 :=
  history.flatMap SinkEvent.written

/-- What the commits get. -/
def payloads (history : SinkHistory) : List (List UInt8) :=
  history.filterMap SinkEvent.payload?

/-- What is to be committed: what was accepted, if the collecting ends by a commit. -/
def due (history : SinkHistory) : List (List UInt8) :=
  match history.ending? with
  | none => []
  | some deed => if deed.isCommitting then [accepted history.opening] else []

/-- What a write, a flush or a tell answers after a history. -/
def answer? (name : Text) (history : SinkHistory) : SinkUse → Option (Except Fault SinkAnswer)
  | .write data => some <|
    match history.ending?, data with
    | none, some bytes => .ok (.count bytes.length)
    | none, none => .error (.mishap (.wrongType "not bytes"))
    | some _, _ => .error (.mishap (.closedSink name))
  | .flush => some <|
    match history.ending? with
    | none => .ok .nothing
    | some _ => .error (.mishap (.closedSink name))
  | .tell => some <|
    match history.ending? with
    | none => .ok (.count (accepted history).length)
    | some _ => .error (.mishap (.closedSink name))
  | _ => none

/-- Every write, flush and tell of a history came to what the history before it says. -/
def Truthful (name : Text) (history : SinkHistory) : Prop :=
  ∀ before deed result after answer, history = before ++ .ends deed result :: after →
    answer? name before deed = some answer → result = answer

variable {name : Text} {history later : SinkHistory}

theorem ending?_append : ending? (history ++ later) = (ending? history).or (ending? later) :=
  List.findSome?_append

theorem accepted_append : accepted (history ++ later) = accepted history ++ accepted later :=
  List.flatMap_append

theorem payloads_append : payloads (history ++ later) = payloads history ++ payloads later :=
  List.filterMap_append

/-- A use that begins and ends without a commit adds none. -/
theorem payloads_begin_end (deed : SinkUse) (result : Except Fault SinkAnswer) :
    payloads (history ++ [.begins deed] ++ [.ends deed result]) = payloads history := by
  rw [payloads_append, payloads_append]
  exact (List.append_nil _).trans (List.append_nil _)

/-- What happens after the collecting ended does not belong to the opening. -/
theorem opening_append_of_some {deed : SinkUse} (ended : history.ending? = some deed) :
    opening (history ++ later) = opening history := by
  induction history with
  | nil => cases ended
  | cons event rest ih =>
    unfold ending? at ended
    cases own : event.ending? with
    | some deed =>
      simp only [opening, List.cons_append, List.takeWhile_cons, own, Option.isNone_some,
        Bool.false_eq_true, ↓reduceIte]
    | none =>
      rw [List.findSome?_cons, own] at ended
      have tail := ih ended
      simp only [opening] at tail
      simp only [opening, List.cons_append, List.takeWhile_cons, own, Option.isNone_none,
        ↓reduceIte, tail]

/-- As long as the collecting has not ended, everything belongs to the opening. -/
theorem opening_append_of_none (unended : history.ending? = none) :
    opening (history ++ later) = history ++ opening later := by
  unfold ending? at unended
  rw [List.findSome?_eq_none_iff] at unended
  exact List.takeWhile_append_of_pos fun event inside => by rw [unended event inside]; rfl

/-- What is due is settled once the collecting has ended. -/
theorem due_append {deed : SinkUse} (ended : history.ending? = some deed) :
    due (history ++ later) = due history := by
  unfold due
  rw [ending?_append, ended, Option.some_or, opening_append_of_some ended]

theorem truthful_nil : Truthful name [] := by
  intro before deed result after answer split
  cases before <;> cases split

/-- A truthful history stays so with an event that says what it has to. -/
theorem Truthful.concat (truthful : history.Truthful name) (event : SinkEvent)
    (fits : ∀ deed result answer, event = .ends deed result →
      answer? name history deed = some answer → result = answer) :
    Truthful name (history ++ [event]) := by
  intro before deed result after answer split expected
  rcases List.eq_nil_or_concat after with rfl | ⟨others, last, rfl⟩
  · obtain ⟨rfl, same⟩ := List.append_inj' split rfl
    exact fits deed result answer (List.cons.inj same).1 expected
  · rw [List.concat_eq_append, ← List.cons_append, ← List.append_assoc] at split
    obtain ⟨rfl, _⟩ := List.append_inj' split rfl
    exact truthful before deed result others answer rfl expected

/-- Only the end of a use has to be true. -/
theorem Truthful.concat_begins (truthful : history.Truthful name) (deed : SinkUse) :
    Truthful name (history ++ [.begins deed]) :=
  truthful.concat (.begins deed) (by rintro _ _ _ ⟨⟩)

/-- A commit says nothing that could be wrong. -/
theorem Truthful.concat_commits (truthful : history.Truthful name) (payload : List UInt8) :
    Truthful name (history ++ [.commits payload]) :=
  truthful.concat (.commits payload) (by rintro _ _ _ ⟨⟩)

/-- Never is more than one commit due. -/
theorem length_due_le (history : SinkHistory) : history.due.length ≤ 1 := by
  unfold due
  split
  · exact Nat.zero_le 1
  · split
    · exact Nat.le_refl 1
    · exact Nat.zero_le 1

end SinkHistory

end ObjectStorage
