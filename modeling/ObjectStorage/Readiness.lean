import ObjectStorage.Store

/-!
# Readiness

Whether the locations that a service depends on can be reached. Every location is probed in its
turn, whatever became of those before it; for each that failed the last failure is told.
-/

namespace ObjectStorage

def probeText (problem : StorageProblem) : Text :=
  problem.kind.name ++ ": " ++ problem.text

/-- Probes locations one after the other and puts the failures among those so far. What is no
failure of the store ends the probes. -/
def probeAll {τ : Type} (store : ObjectStore τ) (failures : List (Text × Text)) :
    List Text → Act τ (List (Text × Text))
  | [] => return failures
  | location :: rest => do
    match ← (store.ping (.text location)).outcome with
    | .ok _ => probeAll store failures rest
    | .error (.storage problem _) =>
      probeAll store (putEntry failures location (probeText problem)) rest
    | .error fault => Act.fail fault

/-- The locations that cannot be reached, each with the text of its failure. -/
def unreachableAmong {τ : Type} (store : ObjectStore τ) (locations : List Text) :
    Act τ (List (Text × Text)) :=
  probeAll store [] locations

end ObjectStorage
