import ClusterKv.Error
import ClusterKv.Topology.Basic

/-! Networks, as far as a client can tell: what becomes of its attempts to connect, of the requests
it writes, and of its questions for the partition table. -/

namespace ClusterKv

/-- Something that happens to a connection after a request. -/
inductive Act where
  | respond (response : Response)
  | hangUp (reason : String)
  /-- The connection dies without a word. -/
  | sever
  /-- The node executes a request and responds. -/
  | perform (request : Request)
deriving DecidableEq, Repr

/-- What becomes of a request that is written. -/
structure WritePlan where
  /-- How long the writing takes. -/
  stall : Duration := .zero
  /-- What follows, each act after some time. -/
  result : Except ConnectionError (List (Duration × Act))

/-- How a network behaves whose state is a `σ`. -/
structure Network (σ : Type) where
  /-- How long connecting takes and what comes of it; nothing, if it never ends. -/
  dial : σ → NodeId → σ × Option (Duration × Except ConnectionError Unit)
  /-- Is the node up? One that is not has no live connection. -/
  isUp : σ → NodeId → Bool
  write : σ → NodeId → Request → σ × WritePlan
  /-- Executes a request on a node. -/
  perform : σ → NodeId → Request → Instant → σ × Response
  /-- How long it takes to fetch the partition table, and what comes of it. -/
  fetch : σ → σ × Duration × Except TopologyError Topology

end ClusterKv
