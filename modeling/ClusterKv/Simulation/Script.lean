import ClusterKv.Simulation.Network
import ClusterKv.Store.Basic

/-! Networks that follow a script: what each node makes of one attempt to connect after another
and of one request after another, and the tables that are fetched in turn. -/

namespace ClusterKv

/-- The ways in which a connection fails. -/
inductive Refusal where
  | connect
  | auth
  | closed
  | poolClosed
deriving DecidableEq, Repr

def Refusal.toError (node : NodeId) (reason : String) : Refusal → ConnectionError
  | connect => .connect node reason
  | auth => .auth node reason
  | closed => .closed node
  | poolClosed => .poolClosed

/-- What becomes of an attempt to connect. -/
inductive Dialing where
  | hang
  /-- It ends after some time, well or not. -/
  | ended (delay : Duration) (failure : Option (Refusal × String))
deriving DecidableEq, Repr

/-- The number in a scripted response. -/
inductive OpaqueRule where
  /-- That of the request. -/
  | same
  | exactly (id : UInt64)
  /-- That of the request and so many more. -/
  | shifted (more : UInt64)
deriving DecidableEq, Repr

/-- Something that a scripted node does. -/
inductive ScriptedAct where
  /-- It responds. If `echo` is set, the value is the key of the request. -/
  | respond (rule : OpaqueRule) (response : Response) (echo : Bool)
  | hangUp (reason : String)
  | sever
  /-- It executes the request on its store. -/
  | perform
deriving DecidableEq, Repr

/-- What becomes of one request. -/
structure Answer where
  stall : Duration := .zero
  failure : Option (Refusal × String) := none
  acts : List (Duration × ScriptedAct) := []
deriving DecidableEq, Repr

/-- The script of one node. -/
structure NodeScript where
  /-- The last one repeats. -/
  dials : List Dialing := []
  /-- The answers to the requests for certain keys. -/
  byKey : Assoc Bytes (List Answer) := []
  /-- The answers to all other requests. -/
  script : List Answer := []
  /-- The answer when there is no other left. -/
  default : Answer := { acts := [(.zero, .respond .same (.success 0 1) false)] }
  store : Store := .ofOwned []
deriving DecidableEq, Repr

/-- The script of a network. -/
structure Script where
  nodes : Assoc NodeId NodeScript
  /-- The last one repeats. -/
  fetches : List (Duration × Except TopologyError Topology)

namespace Script

def node (s : Script) (id : NodeId) : NodeScript := (s.nodes.get? id).getD {}

def setNode (s : Script) (id : NodeId) (node : NodeScript) : Script :=
  { s with nodes := s.nodes.put id node }

/-- The head of a list whose last element repeats, and the list after it. -/
def next? {α : Type} : List α → Option (α × List α)
  | [] => none
  | [a] => some (a, [a])
  | a :: rest => some (a, rest)

def dial (s : Script) (id : NodeId) : Script × Option (Duration × Except ConnectionError Unit) :=
  let node := s.node id
  match next? node.dials with
  | none => (s, some (.zero, .ok ()))
  | some (dialing, dials) =>
    let s := s.setNode id { node with dials }
    match dialing with
    | .hang => (s, none)
    | .ended delay none => (s, some (delay, .ok ()))
    | .ended delay (some (refusal, reason)) => (s, some (delay, .error (refusal.toError id reason)))

/-- The number of a response to a request. -/
def OpaqueRule.apply (request : UInt64) : OpaqueRule → UInt64
  | .same => request
  | .exactly id => id
  | .shifted more => request + more

/-- What a scripted act means for a request. -/
def actOf (request : Request) : ScriptedAct → Act
  | .respond rule response echo =>
    .respond { response with
      opaqueId := OpaqueRule.apply request.opaqueId rule
      value := if echo then request.operation.key? else response.value }
  | .hangUp reason => .hangUp reason
  | .sever => .sever
  | .perform => .perform request

/-- The next answer of a node to a request, and the script after it. -/
def NodeScript.answer (node : NodeScript) (request : Request) : NodeScript × Answer :=
  let key := request.operation.key?.getD []
  match request.operation.key?.bind node.byKey.get? with
  | some (answer :: rest) => ({ node with byKey := node.byKey.put key rest }, answer)
  | some [] => (node, node.default)
  | none =>
    match node.script with
    | answer :: script => ({ node with script }, answer)
    | [] => (node, node.default)

def write (s : Script) (id : NodeId) (request : Request) : Script × WritePlan :=
  let (node, answer) := NodeScript.answer (s.node id) request
  let result := match answer.failure with
    | some (refusal, reason) => .error (refusal.toError id reason)
    | none => .ok (answer.acts.map fun (after, act) => (after, actOf request act))
  (s.setNode id node, ⟨answer.stall, result⟩)

def perform (s : Script) (id : NodeId) (request : Request) (now : Instant) : Script × Response :=
  let node := s.node id
  let (store, response) := node.store.execute request now
  (s.setNode id { node with store }, response)

def fetch (s : Script) : Script × Duration × Except TopologyError Topology :=
  match next? s.fetches with
  | none => (s, .zero, .error (.unavailable "no table scripted"))
  | some (fetched, fetches) => ({ s with fetches }, fetched)

/-- The network that follows its script. Its nodes are always up. -/
def network : Network Script where
  dial := dial
  isUp := fun _ _ => true
  write := write
  perform := perform
  fetch := fetch

end Script

end ClusterKv
