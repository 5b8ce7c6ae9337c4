import ObjectStorage.Sink

/-!
# Operations on sinks

The operations on a sink as data, so that they can be listed, nested in blocks and run
(`SinkOp.run`). A block closes the sink when its body ends normally and aborts it otherwise.
-/

namespace ObjectStorage

/-- An operation on a sink. Data that is not bytes is none. -/
inductive SinkOp
  | write (data : Option (List UInt8))
  | writeEach (items : List (Option (List UInt8)))
  | flush
  | tell
  | close
  | abort
  | writable
  | readable
  | seekable
  | describe
  | name
  | state
  /-- An operation that comes to nothing but a fault. -/
  | fail (fault : Fault)
  /-- A body of operations, left by a fault at its end if one is given. -/
  | block (body : List SinkOp) (leave : Option Fault)

/-- What an operation on a sink answers. -/
inductive SinkAnswer
  | nothing
  | flag (value : Bool)
  | count (value : Nat)
  | text (value : Text)
  | state (phase : String) (closed : Bool)
  /-- How a block was left, and the answers of the operations that ended normally. -/
  | block (fault : Option Fault) (answers : List SinkAnswer)

namespace SinkOp

variable {τ : Type}

mutual

/-- Runs an operation, committing by an act. -/
def run (commit : List UInt8 → Act (Sink × τ) Unit) : SinkOp → Act (Sink × τ) SinkAnswer
  | .write data => .count <$> Sink.alone (Sink.write data)
  | .writeEach items => do
    Sink.alone (Sink.writeEach items)
    return .nothing
  | .flush => do
    Sink.alone Sink.flush
    return .nothing
  | .tell => .count <$> Sink.alone Sink.tell
  | .close => do
    Sink.close commit
    return .nothing
  | .abort => do
    Sink.alone Sink.abort
    return .nothing
  | .writable => return .flag true
  | .readable => return .flag false
  | .seekable => return .flag false
  | .describe => do
    let (sink, _) ← Act.get
    return .text sink.described
  | .name => do
    let (sink, _) ← Act.get
    return .text sink.name
  | .state => do
    let (sink, _) ← Act.get
    return .state sink.phase.name sink.isClosed
  | .fail fault => Act.fail fault
  | .block body leave => do
    let (answers, fault) ← runBody commit body
    match fault <|> leave with
    | some fault =>
      Sink.alone Sink.abort
      return .block (some fault) answers
    | none =>
      match ← (Sink.close commit).outcome with
      | .ok _ => return .block none answers
      | .error fault => return .block (some fault) answers

/-- Runs operations up to the first that fails, and answers what those before it answered and the
fault, if there is one. -/
def runBody (commit : List UInt8 → Act (Sink × τ) Unit) :
    List SinkOp → Act (Sink × τ) (List SinkAnswer × Option Fault)
  | [] => return ([], none)
  | operation :: rest => do
    match ← (run commit operation).outcome with
    | .error fault => return ([], some fault)
    | .ok answer =>
      let (answers, fault) ← runBody commit rest
      return (answer :: answers, fault)

end

end SinkOp

end ObjectStorage
