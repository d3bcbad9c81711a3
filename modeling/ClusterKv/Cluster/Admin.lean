import ClusterKv.Cluster.Basic
import ClusterKv.Topology.Document

/-! The administrative endpoint of a cluster, where clients get the published map. -/

namespace ClusterKv.Cluster

/-- The status of a request that is not answered with a document. -/
inductive AdminStatus where
  | notFound
  | serviceUnavailable
  | internalServerError
deriving DecidableEq, Repr

/-- The document of a bucket, if it is the one that there is, and the map is to be had. -/
def bucketConfig (c : Cluster) (bucket : String) : Except AdminStatus BucketDocument :=
  if bucket ≠ c.credentials.bucket then .error .notFound
  else if !c.available then .error .serviceUnavailable
  else match c.table with
    | .ok table => .ok (table.toDocument bucket)
    | .error _ => .error .internalServerError

/-- What a client makes of the answer: the table that the document describes, if there is one. -/
def fetchTable (c : Cluster) (bucket : String) : Option Topology :=
  match c.bucketConfig bucket with
  | .ok document => (Topology.ofDocument document).toOption
  | .error _ => none

end ClusterKv.Cluster
