import ClusterKv.Client.Call
import ClusterKv.Client.KeyCall
import ClusterKv.Simulation.Session

/-! What a client can be called for, as calls of a session. -/

namespace ClusterKv

/-- What became of some submissions. -/
structure Submitted where
  /-- In the order of submission. -/
  results : List (Except Error Reply)
  /-- When the last one was accepted. -/
  acceptedAt : Instant

namespace Client

variable {σ : Type}

/-- Submits commands. -/
def submit (drafts : List Draft) : SessionCall σ Submitted := fun w number =>
  (w.startCall number drafts, fun w => do
    let (results, time) ← w.callResults? number
    let call ← w.calls.get? number
    return (⟨results, call.acceptedAt⟩, time))

/-- Makes one call for each of some keys. -/
def many (calls : List (Bytes × KeyCall)) : SessionCall σ (MultiResult KeyResult) := fun w =>
  let operations := calls.map fun (key, call) => call.operation key
  SessionCall.map (submit (Draft.forKeys w.config operations)) (fun submitted =>
    ⟨(calls.zip submitted.results).map fun ((key, call), result) =>
      (key, result.map call.result)⟩) w

/-- Makes a call for one key. -/
def one (key : Bytes) (call : KeyCall) : SessionCall σ (Except Error KeyResult) :=
  SessionCall.map (many [(key, call)]) fun result =>
    (result.entries.head?.map (·.2)).getD (.error .shutdown)

/-- Removes all items of all nodes. -/
def flush : SessionCall σ (Except Error Unit) := fun w number =>
  (w.startFlush number, fun w =>
    (w.callResults? number).map fun (results, time) => (flushResult results, time))

/-- Fetches the partition table. -/
def refresh (net : Network σ) : SessionCall σ (Except TopologyError Topology) := fun w number =>
  (w.startFetch net (.call number), fun w => w.fetches.get? number)

/-- Gets a connection to a node; its generation. -/
def acquire (net : Network σ) (node : NodeId) : SessionCall σ (Except ConnectionError Nat) :=
  fun w number => (w.acquire net number node, fun w => w.leases.get? number)

/-- Shuts the client down. -/
def shutdown : SessionCall σ Unit := fun w number =>
  (w.startShutdown number, fun w => (w.stops.get? number).map ((), ·))

end Client

end ClusterKv
