import ObjectStorage.Act
import ObjectStorage.Scene

/-!
# Stores

What every store of objects offers: a probe, reading, writing by a sink, and deleting many objects
at once. Locations are given as data and each store says itself which it serves.
-/

namespace ObjectStorage

/-- Where a new sink commits to, and the name that the sink goes by. -/
structure SinkTarget (τ : Type) where
  name : Text
  commit : List UInt8 → Act τ Unit

/-- A store that acts on states of type `τ`. -/
structure ObjectStore (τ : Type) where
  ping : (location : Datum) → Act τ Unit
  read : (location : Datum) → Act τ Body
  openSink : (location : Datum) → Act τ (SinkTarget τ)
  delete : (locations : Datum) → Act τ Unit

namespace ObjectStore

variable {τ : Type}

/-- The bytes of a body, if it is a stream. -/
def bytesOf : Body → Act τ (List UInt8)
  | .stream bytes => pure bytes
  | .other _ => Act.fail (.mishap (.noMethod "object" "read"))

def readWhole (store : ObjectStore τ) (location : Datum) : Act τ (List UInt8) := do
  bytesOf (← store.read location)

/-- Writes a whole object. Data that is not bytes is not committed. -/
def writeWhole (store : ObjectStore τ) (location : Datum) (data : Option (List UInt8)) :
    Act τ Unit := do
  let target ← store.openSink location
  match data with
  | some bytes => target.commit bytes
  | none => Act.fail (.mishap (.wrongType "not bytes"))

end ObjectStore

end ObjectStorage
