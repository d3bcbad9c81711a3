import ClusterKv.Config.Basic
import ClusterKv.Error
import ClusterKv.Text.Debug

/-! Commands: an operation with everything that is needed while it is under way. -/

namespace ClusterKv

/-- Where a command is to be sent. -/
inductive Target where
  /-- To the owner of the partition of its key. -/
  | key
  /-- To one node, whoever owns what. -/
  | node (node : NodeId)
deriving DecidableEq, Repr

/-- A target as it stands in logs. -/
def Target.text : Target → String
  | key => "Key"
  | node id => "Node(NodeId(" ++ Text.debug id.address ++ "))"

/-- An operation under way, until it is resolved. -/
structure Command where
  /-- The number of the present attempt; zero before the command is accepted. -/
  id : Nat
  /-- The caller's handle on the result. -/
  ticket : Nat
  operation : Operation
  target : Target
  /-- The partition of the last route. -/
  partition : Option UInt16
  /-- Has a node turned the command away? Then the forward map counts. -/
  fastForward : Bool
  deadline : Instant
  /-- The time from creation to the deadline. -/
  timeout : Duration
  /-- How often the command has been tried again, as far as a word can count: after the largest
  number comes zero. -/
  retries : UInt32
  routeRefreshes : Nat
  lastFailure : Option String
deriving DecidableEq, Repr

namespace Command

/-- A command created now. -/
def create (ticket : Nat) (operation : Operation) (target : Target) (timeout : Duration)
    (now : Instant) : Command where
  id := 0
  ticket := ticket
  operation := operation
  target := target
  partition := none
  fastForward := false
  deadline := now + timeout.nanos
  timeout := timeout
  retries := 0
  routeRefreshes := 0
  lastFailure := none

/-- A command as it stands in logs. A command that can still be looked at is not resolved. -/
def text (command : Command) : String :=
  let partition := match command.partition with
    | some partition => s!"Some({partition})"
    | none => "None"
  "Command \x7b id: " ++ toString command.id ++ ", kind: " ++ command.operation.verb.label
    ++ ", target: " ++ command.target.text ++ ", partition: " ++ partition
    ++ ", fastforward: " ++ toString command.fastForward
    ++ ", retries: " ++ toString command.retries ++ ", resolved: false \x7d"

end Command

/-- An expiry in whole seconds, the rest dropped, up to what a node can be told; zero if there is
none. -/
def expirySeconds : Option Duration → UInt32
  | none => 0
  | some expiry => (min expiry.toSeconds (UInt32.size - 1)).toUInt32

end ClusterKv
