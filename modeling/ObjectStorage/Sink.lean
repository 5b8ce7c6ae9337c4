import ObjectStorage.Act

/-!
# Sinks

A sink collects what is written to it and commits everything at once when it is closed. It is
collecting first, then either closing and closed, or aborted; only the change from collecting to
closing commits. What ends the collecting takes the buffer away. A commit may itself use the sink,
which it finds closing.
-/

namespace ObjectStorage

open Text

/-- Where a sink is in its life. -/
inductive Phase
  | collecting
  | closing
  | closed
  | aborted
  deriving DecidableEq, Repr

namespace Phase

def name : Phase → String
  | .collecting => "open"
  | .closing => "closing"
  | .closed => "closed"
  | .aborted => "aborted"

def isCollecting : Phase → Bool
  | .collecting => true
  | _ => false

end Phase

/-- A sink, known by its name in texts, with what was written to it as long as that is there. -/
structure Sink where
  name : Text
  phase : Phase
  buffer? : Option (List UInt8)
  deriving DecidableEq, Repr

namespace Sink

variable {τ : Type}

def fresh (name : Text) : Sink :=
  ⟨name, .collecting, some []⟩

/-- A sink counts as closed once it no longer collects. -/
def isClosed (sink : Sink) : Bool :=
  !sink.phase.isCollecting

/-- What a close commits. -/
def payload (sink : Sink) : List UInt8 :=
  sink.buffer?.getD []

/-- The sink in a phase in which nothing is there to be written to. -/
def ended (sink : Sink) (phase : Phase) : Sink :=
  { sink with phase, buffer? := none }

def described (sink : Sink) : Text :=
  "<PendingWrite name=" ++ quoted sink.name ++ " state=" ++ sink.phase.name ++ ">"

/-- The mishap of using a sink that does not collect. -/
def closedFault (sink : Sink) : Fault :=
  .mishap (.closedSink sink.name)

/-- Writes data, which must be bytes, and answers how many they are. The sink must collect and have
a buffer. -/
def write (data : Option (List UInt8)) : Act Sink Nat := do
  let sink ← Act.get
  match sink.phase, sink.buffer?, data with
  | .collecting, some buffer, some bytes => do
    Act.modify fun sink => { sink with buffer? := some (buffer ++ bytes) }
    return bytes.length
  | .collecting, some _, none => Act.fail (.mishap (.wrongType "not bytes"))
  | _, _, _ => Act.fail sink.closedFault

/-- Writes one item after the other, up to the first that fails. -/
def writeEach : List (Option (List UInt8)) → Act Sink Unit
  | [] => pure ()
  | item :: rest => do
    let _ ← write item
    writeEach rest

/-- Flushes a sink, which does nothing to a collecting one. -/
def flush : Act Sink Unit := do
  let sink ← Act.get
  if sink.isClosed then Act.fail sink.closedFault

/-- How much was written so far. Only the buffer tells. -/
def tell : Act Sink Nat := do
  let sink ← Act.get
  match sink.buffer? with
  | some buffer => return buffer.length
  | none => Act.fail sink.closedFault

/-- Discards what a collecting sink has, without a commit. -/
def abort : Act Sink Unit :=
  Act.modify fun sink => if sink.isClosed then sink else sink.ended .aborted

def alone {α : Type} (act : Act Sink α) : Act (Sink × τ) α :=
  act.onPart Prod.fst fun state sink => (sink, state.2)

/-- Closes a collecting sink: commits what it has, and is closed then however the commit ends. Any
other sink stays as it is. -/
def close (commit : List UInt8 → Act (Sink × τ) Unit) : Act (Sink × τ) Unit := do
  let (sink, _) ← Act.get
  if sink.isClosed then
    return ()
  else
    alone (Act.modify fun sink => sink.ended .closing)
    let result ← (commit sink.payload).outcome
    alone (Act.modify fun sink => { sink with phase := .closed })
    Act.ofExcept result

end Sink

end ObjectStorage
