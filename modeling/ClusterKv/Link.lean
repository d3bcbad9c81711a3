import ClusterKv.Error

/-! Links: one end of a connection to a node, and what it reports. -/

namespace ClusterKv

/-- What connections report. -/
inductive NodeEvent where
  | response (node : NodeId) (response : Response)
  /-- A connection died. -/
  | closed (node : NodeId) (generation : Nat) (reason : String)
deriving DecidableEq, Repr

/-- A connection to a node, dead or alive. The generation tells apart the connections that follow
one another. -/
structure Link where
  node : NodeId
  generation : Nat
  live : Bool := true
deriving DecidableEq, Repr

namespace Link

/-- Reports a response. -/
def deliver (link : Link) (response : Response) : NodeEvent := .response link.node response

/-- Marks a link dead, which is reported the first time. -/
def shut (link : Link) (reason : String) : Link × Option NodeEvent :=
  if link.live then
    ({ link with live := false }, some (.closed link.node link.generation reason))
  else (link, none)

@[simp] theorem live_shut (link : Link) (reason : String) : (link.shut reason).1.live = false := by
  unfold shut
  split <;> simp_all

end Link

end ClusterKv
