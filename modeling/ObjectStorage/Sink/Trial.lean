import ObjectStorage.Sink.Operation

/-!
# Trials of sinks

A sink whose commit is scripted: each commit is written down, uses the sink in its turn and fails
when the script says so.
-/

namespace ObjectStorage

/-- What is seen of the commits of a sink, and the faults that are still to come. -/
structure Trial where
  faults : List (Option Fault)
  commits : List (List UInt8)
  hooks : List (Except Fault SinkAnswer)

/-- What is seen of one operation. -/
structure TrialStep where
  result : Except Fault SinkAnswer
  sink : Sink
  commits : List (List UInt8)
  hooks : List (Except Fault SinkAnswer)

namespace Trial

def change (f : Trial → Trial) : Act (Sink × Trial) Unit :=
  Act.modify fun state => (state.1, f state.2)

/-- Uses the sink within a commit. The sink is closing, so nothing can be committed again. -/
def hook (operation : SinkOp) : Act (Sink × Trial) Unit := do
  let result ← (operation.run fun _ => pure ()).outcome
  change fun trial => { trial with hooks := trial.hooks ++ [result] }

/-- Uses the sink by several operations within a commit. -/
def hookAll : List SinkOp → Act (Sink × Trial) Unit
  | [] => pure ()
  | operation :: rest => do
    hook operation
    hookAll rest

def commit (hooks : List SinkOp) (payload : List UInt8) : Act (Sink × Trial) Unit := do
  change fun trial => { trial with commits := trial.commits ++ [payload] }
  hookAll hooks
  let (_, trial) ← Act.get
  match trial.faults with
  | [] => pure ()
  | fault :: rest => do
    change fun trial => { trial with faults := rest }
    match fault with
    | some fault => Act.fail fault
    | none => pure ()

def run (hooks : List SinkOp) (sink : Sink) (faults : List (Option Fault)) :
    List SinkOp → List TrialStep
  | [] => []
  | operation :: rest =>
    match operation.run (commit hooks) (sink, ⟨faults, [], []⟩) with
    | (result, (sink, trial)) =>
      ⟨result, sink, trial.commits, trial.hooks⟩ :: run hooks sink trial.faults rest

end Trial

end ObjectStorage
