import ObjectStorage.Proofs.Clients.Calls
import ObjectStorage.Proofs.Desks
import ObjectStorage.Proofs.Stacks.Wiring

/-!
# Sessions with stacks

A caller of a stack asks for its parts, uses those that it was given, and closes the stack, in any
order. What it sees is what it would see of the components wired by hand (`Stack.session_follows`),
for at each time the stack has made the first few of these, and there is nothing to see of the
others (`Stack.Follows`).
-/

namespace ObjectStorage

open Text

variable {σ ω : Type}

/-- What is asked of a store. -/
inductive Errand
  | ping (location : Datum)
  | read (location : Datum)
  | readWhole (location : Datum)
  | openSink (id : Text) (location : Datum)
  | writeWhole (location : Datum) (data : Option (List UInt8))
  | delete (locations : Datum)

/-- Does an errand at a store. -/
def ObjectStore.answer (store : ObjectStore (Scene σ)) : Errand → Act (Desk σ) ClientAnswer
  | .ping location => do
    Desk.onScene (store.ping location)
    return .nothing
  | .read location => .body <$> Desk.onScene (store.read location)
  | .readWhole location => .bytes <$> Desk.onScene (store.readWhole location)
  | .openSink id location => do
    let target ← Desk.onScene (store.openSink location)
    Desk.hold id target
    return .text target.name
  | .writeWhole location data => do
    Desk.onScene (store.writeWhole location data)
    return .nothing
  | .delete locations => do
    Desk.onScene (store.delete locations)
    return .nothing

namespace Piece

def store? : Piece σ → Option (ObjectStore (Scene σ))
  | .clients _ => none
  | .store made => some made.component.toObjectStore
  | .router made => some made.component.toObjectStore
  | .facade made => some made.component.toObjectStore

def clients? : Piece σ → Option (ClientPool σ)
  | .clients made => some made.component
  | _ => none

end Piece

/-- What is asked of the components that were given, which are known by the order in which they
came, or done with a sink. -/
inductive Deed
  | ask (holding : Nat) (errand : Errand)
  | askClients (holding : Nat) (call : PoolCall)
  | useSink (id : Text) (operation : SinkOp)

/-- Answers a deed with the components held. -/
def Deed.answer (held : List (Piece σ)) : Deed → Act (Desk σ) ClientAnswer
  | .ask holding errand =>
    match held[holding]?.bind Piece.store? with
    | some store => store.answer errand
    | none => Act.fail (.mishap (.wrongType "not a store"))
  | .askClients holding call =>
    match held[holding]?.bind Piece.clients? with
    | some pool => .client <$> Desk.onScene (pool.call call)
    | none => Act.fail (.mishap (.wrongType "not a pool of clients"))
  | .useSink id operation => Desk.useSink id operation

/-- What is asked of a component is asked of the store that was given, or there is none. -/
theorem Deed.answer_ask (held : List (Piece σ)) (holding : Nat) (errand : Errand) :
    (∃ store, held[holding]?.bind Piece.store? = some store ∧
        Deed.answer held (.ask holding errand) = store.answer errand) ∨
      Deed.answer held (.ask holding errand) = Act.fail (.mishap (.wrongType "not a store")) := by
  simp only [Deed.answer]
  cases held[holding]?.bind Piece.store? with
  | none => exact .inr rfl
  | some store => exact .inl ⟨store, rfl, rfl⟩

/-- So it is with what is asked of a pool. -/
theorem Deed.answer_askClients (held : List (Piece σ)) (holding : Nat) (call : PoolCall) :
    (∃ pool, held[holding]?.bind Piece.clients? = some pool ∧
        Deed.answer held (.askClients holding call) = .client <$> Desk.onScene (pool.call call)) ∨
      Deed.answer held (.askClients holding call) =
        Act.fail (.mishap (.wrongType "not a pool of clients")) := by
  simp only [Deed.answer]
  cases held[holding]?.bind Piece.clients? with
  | none => exact .inr rfl
  | some pool => exact .inl ⟨pool, rfl, rfl⟩

/-- A call of one who uses a stack. -/
inductive StackCall
  | give (part : Part)
  | deed (deed : Deed)
  | close

/-- What a call answers: a component, or what came of a deed. -/
inductive StackAnswer (σ : Type)
  | piece (piece : Piece σ)
  | told (answer : ClientAnswer)

/-- What is seen of a call. -/
structure StackReport (σ : Type) where
  result : Except Fault (StackAnswer σ)
  journal : Journal

/-- What gives parts, as its states let it, and can be closed. -/
structure Provider (ω σ : Type) where
  give : Part → Act ω (Piece σ)
  close : ω → Act (Scene σ) Unit

/-- A stack gives its parts, which it makes if need be. -/
def Stack.provider : Provider (Stack σ) σ :=
  ⟨Stack.piece, Stack.close⟩

/-- An assembly gives its parts. What closes it closes its pool. -/
def Assembly.provider (assembly : Assembly σ) : Provider Unit σ :=
  ⟨fun part => pure (assembly.piece part), fun _ => assembly.clients.component.close⟩

/-- Where calls are made: the state of what gives parts, the components that were given, and a
desk. -/
structure Bench (ω σ : Type) where
  source : ω
  held : List (Piece σ)
  desk : Desk σ

namespace Bench

/-- A bench at which nothing has happened. -/
def start (source : ω) (remote : σ) : Bench ω σ :=
  ⟨source, [], .start remote⟩

def onDesk {α : Type} (act : Act (Desk σ) α) : Act (Bench ω σ) α :=
  act.onPart Bench.desk fun bench desk => { bench with desk }

/-- A bench as a call finds it when what happens in it is to be reported. -/
def cleared (bench : Bench ω σ) : Bench ω σ :=
  { bench with desk := bench.desk.cleared }

end Bench

namespace Provider

/-- Answers a call. -/
def answer (provider : Provider ω σ) : StackCall → Act (Bench ω σ) (StackAnswer σ)
  | .give part => do
    let piece ← (provider.give part).onPart Bench.source fun bench source => { bench with source }
    Act.modify fun bench => { bench with held := bench.held ++ [piece] }
    return .piece piece
  | .deed deed => do
    let bench ← Act.get
    .told <$> Bench.onDesk (deed.answer bench.held)
  | .close => do
    let bench ← Act.get
    (fun _ => .told .nothing) <$> Bench.onDesk (Desk.onScene (provider.close bench.source))

/-- A deed is done at the desk, with the components held. -/
theorem answer_deed (provider : Provider ω σ) (deed : Deed) (bench : Bench ω σ) :
    provider.answer (.deed deed) bench =
      ((deed.answer bench.held bench.desk).1.map .told,
        { bench with desk := (deed.answer bench.held bench.desk).2 }) :=
  Act.map_onPart_apply (deed.answer bench.held) Bench.desk (fun bench desk => { bench with desk })
    StackAnswer.told bench

/-- Closing acts on the scene. -/
theorem answer_close (provider : Provider ω σ) (bench : Bench ω σ) :
    provider.answer .close bench =
      ((provider.close bench.source bench.desk.scene).1.map fun _ => .told .nothing,
        { bench with desk :=
          { bench.desk with scene := (provider.close bench.source bench.desk.scene).2 } }) :=
  Act.map_onPart_apply (Desk.onScene (provider.close bench.source)) Bench.desk
    (fun bench desk => { bench with desk }) (fun _ => StackAnswer.told .nothing) bench

/-- Answers a call and reports what happened in it. -/
def report (provider : Provider ω σ) (call : StackCall) (bench : Bench ω σ) :
    StackReport σ × Bench ω σ :=
  let ran := provider.answer call bench.cleared
  (⟨ran.1, ran.2.desk.scene.journal⟩, ran.2)

/-- The reports of calls, made one after the other, and the bench that they leave. -/
def session (provider : Provider ω σ) : List StackCall → Bench ω σ →
    List (StackReport σ) × Bench ω σ
  | [], bench => ([], bench)
  | call :: rest, bench =>
    let first := provider.report call bench
    let others := provider.session rest first.2
    (first.1 :: others.1, others.2)

end Provider

/-- The reports of a row of calls are those of its parts. -/
theorem Provider.session_append (provider : Provider ω σ) (earlier later : List StackCall)
    (bench : Bench ω σ) : provider.session (earlier ++ later) bench =
      ((provider.session earlier bench).1 ++
          (provider.session later (provider.session earlier bench).2).1,
        (provider.session later (provider.session earlier bench).2).2) := by
  induction earlier generalizing bench with
  | nil => rfl
  | cons call rest ih =>
    rw [List.cons_append, session, ih]
    rfl

/-- Closing a pool that nobody has used changes nothing. -/
theorem ClientPool.close_unused (pool : ClientPool σ) {scene : Scene σ}
    (unused : scene.pools pool.name = .empty) : pool.close scene = (.ok (), scene) := by
  have same : (fun other => if other = pool.name then PoolState.empty.forget
      else scene.pools other) = scene.pools := by
    funext other
    by_cases own : other = pool.name
    · rw [if_pos own, own, unused]
      rfl
    · rw [if_neg own]
  unfold close
  simp only [Act.bind_apply, Scene.pool_apply, unused, Scene.setPool_apply, same]
  rfl

namespace Stack

/-- A bench with a stack and one with the assembly that it makes. The same components were given,
and the desks are the same; a stack that has made nothing has nothing to show. -/
structure Follows (name : Text) (remote : Remote σ) (settings : Settings) (assembly : Assembly σ)
    (bench : Bench (Stack σ) σ) (other : Bench Unit σ) : Prop where
  held : bench.held = other.held
  desk : bench.desk = other.desk
  made : ∃ count, bench.source = stage name remote settings assembly count ∧
    (count = 0 →
      other.held = [] ∧ other.desk.sinks = [] ∧ other.desk.scene.pools name = .empty)

/-- Without components and sinks nothing can be done. -/
theorem deed_idle {desk : Desk σ} (sinks : desk.sinks = []) (deed : Deed) :
    (deed.answer [] desk).2 = desk := by
  cases deed with
  | ask | askClients => rfl
  | useSink id operation =>
    change (Desk.useSink id operation desk).2 = desk
    unfold Desk.useSink
    rw [sinks]
    rfl

variable {name : Text} {remote : Remote σ} {settings : Settings} {options : StoreOptions}
  (given : settings.storeOptions = .ok options) {bench : Bench (Stack σ) σ} {other : Bench Unit σ}
include given

/-- One call: the reports are the same, and the stack goes on following the assembly. -/
theorem report_follows (follows : Follows name remote settings (.wired name remote options) bench other)
    (call : StackCall) :
    (provider.report call bench).1 =
        ((Assembly.wired name remote options).provider.report call other).1 ∧
      Follows name remote settings (.wired name remote options) (provider.report call bench).2
        ((Assembly.wired name remote options).provider.report call other).2 := by
  obtain ⟨source, held, desk⟩ := bench
  obtain ⟨⟨⟩, otherHeld, otherDesk⟩ := other
  obtain ⟨rfl, rfl, count, rfl, untouched⟩ := follows
  unfold Provider.report
  cases call with
  | give part =>
    have gave : (provider.give part).onPart Bench.source
        (fun bench source => { bench with source })
        ⟨stage name remote settings (.wired name remote options) count, held, desk.cleared⟩ =
        (.ok ((Assembly.wired name remote options).piece part),
          ⟨stage name remote settings (.wired name remote options) (max count (part.rank + 1)),
            held, desk.cleared⟩) := by
      unfold Act.onPart
      rw [show provider.give part (stage name remote settings (.wired name remote options) count) =
        _ from piece_stage name remote given part count]
    have answered : provider.answer (.give part)
        ⟨stage name remote settings (.wired name remote options) count, held, desk.cleared⟩ =
        _ := Act.bind_ok gave
    dsimp only [Bench.cleared]
    rw [answered]
    refine ⟨rfl, rfl, rfl, _, rfl, fun none => ?_⟩
    omega
  | deed deed =>
    rw [Provider.answer_deed, Provider.answer_deed]
    refine ⟨rfl, rfl, rfl, count, rfl, fun none => ?_⟩
    obtain ⟨nothing, sinks, unused⟩ := untouched none
    have idle : (deed.answer held desk.cleared).2 = desk.cleared := by
      have noSinks : desk.cleared.sinks = [] := sinks
      rw [show held = [] from nothing, deed_idle noSinks]
    change held = [] ∧ (deed.answer held desk.cleared).2.sinks = [] ∧
      (deed.answer held desk.cleared).2.scene.pools name = .empty
    rw [idle]
    exact ⟨nothing, sinks, unused⟩
  | close =>
    rw [Provider.answer_close, Provider.answer_close]
    rcases Nat.eq_zero_or_pos count with rfl | made
    · -- The stack has no pool to close, and the assembly's pool has nothing to close.
      obtain ⟨nothing, sinks, unused⟩ := untouched rfl
      have closes : (Assembly.wired name remote options).provider.close () desk.cleared.scene =
          (.ok (), desk.cleared.scene) := ClientPool.close_unused _ unused
      dsimp only [Bench.cleared]
      rw [closes]
      exact ⟨rfl, rfl, rfl, 0, rfl, fun _ => ⟨nothing, sinks, unused⟩⟩
    · have closes : provider.close
          (stage name remote settings (.wired name remote options) count) =
          (Assembly.wired name remote options).provider.close () := by
        change close (stage name remote settings (.wired name remote options) count) = _
        unfold close stage
        rw [if_pos made]
        rfl
      dsimp only [Bench.cleared]
      rw [closes]
      exact ⟨rfl, rfl, rfl, count, rfl, fun none => (Nat.ne_of_gt made none).elim⟩

/-- A session with a stack is the session with the components wired by hand. -/
theorem session_follows (calls : List StackCall)
    (follows : Follows name remote settings (.wired name remote options) bench other) :
    (provider.session calls bench).1 =
        ((Assembly.wired name remote options).provider.session calls other).1 ∧
      Follows name remote settings (.wired name remote options) (provider.session calls bench).2
        ((Assembly.wired name remote options).provider.session calls other).2 := by
  induction calls generalizing bench other with
  | nil => exact ⟨rfl, follows⟩
  | cons call rest ih =>
    obtain ⟨first, between⟩ := report_follows given follows call
    obtain ⟨others, last⟩ := ih between
    exact ⟨congrArg₂ List.cons first others, last⟩

end Stack

end ObjectStorage
