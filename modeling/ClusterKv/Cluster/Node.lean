import ClusterKv.Error
import ClusterKv.Store.Basic

/-! Nodes of a simulated cluster. -/

namespace ClusterKv

/-- Why a node turns a client away. -/
inductive Rejection where
  | unknownBucket (bucket : String)
  | badPassword
  /-- The client did not greet first. -/
  | noGreeting
deriving DecidableEq, Repr

def Rejection.message : Rejection → String
  | unknownBucket bucket => "unknown bucket " ++ bucket
  | badPassword => "bad password"
  | noGreeting => "expected hello"

/-- What a client shows when it connects. -/
structure Credentials where
  bucket : String
  password : String
deriving DecidableEq, Repr

structure Node where
  id : NodeId
  credentials : Credentials
  store : Store
  isUp : Bool := true
  /-- How many requests have been executed. -/
  requests : Nat := 0
deriving DecidableEq, Repr

namespace Node

/-- Checks what a client shows: the bucket first. -/
def authenticate (node : Node) (shown : Credentials) : Except Rejection Unit :=
  if shown.bucket ≠ node.credentials.bucket then .error (.unknownBucket shown.bucket)
  else if shown.password ≠ node.credentials.password then .error .badPassword
  else .ok ()

def execute (node : Node) (request : Request) (now : Instant) : Node × Response :=
  let (store, response) := node.store.execute request now
  ({ node with store, requests := node.requests + 1 }, response)

/-- What comes of connecting to one of some nodes. -/
def connect (nodes : List Node) (shown : Credentials) (id : NodeId) :
    Except ConnectionError Unit :=
  match nodes.find? (·.id = id) with
  | none => .error (.connect id "no such node")
  | some node =>
    if !node.isUp then .error (.connect id "connection refused")
    else match node.authenticate shown with
      | .error rejection => .error (.auth id rejection.message)
      | .ok () => .ok ()

end Node

end ClusterKv
