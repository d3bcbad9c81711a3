import ClusterKv.Simulation.World

/-! What happened in a world: the requests that were written and the attempts to connect. Things
that happen at the same instant have no order in time; they can be put in order by what they are. -/

namespace ClusterKv

/-- Orders requests by instant, node, verb and key. A request without a key comes last. -/
def SentRecord.compare (a b : SentRecord) : Ordering :=
  let verb (r : SentRecord) : String := r.request.operation.verb.text
  let keys : Ordering := match a.request.operation.key?, b.request.operation.key? with
    | some a, some b => compareOfLessAndEq a b
    | some _, none => .lt
    | none, some _ => .gt
    | none, none => .eq
  (Ord.compare a.time b.time).then <| (Ord.compare a.node.address b.node.address).then <|
    (Ord.compare (verb a) (verb b)).then keys

/-- Orders attempts to connect by instant and node. -/
def DialRecord.compare (a b : DialRecord) : Ordering :=
  (Ord.compare a.time b.time).then (Ord.compare a.node.address b.node.address)

namespace World

variable {σ : Type}

/-- The requests that were written, in order of writing or else of what they are. -/
def sent (w : World σ) (ordered : Bool) : List SentRecord :=
  let records := w.sentLog.reverse
  if ordered then records.mergeSort fun a b => (a.compare b).isLE else records

/-- The attempts to connect, in order of time or else of what they are. -/
def dials (w : World σ) (ordered : Bool) : List DialRecord :=
  let records := w.dialLog.reverse
  if ordered then records.mergeSort fun a b => (a.compare b).isLE else records

end World

end ClusterKv
