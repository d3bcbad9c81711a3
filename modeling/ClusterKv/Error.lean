import ClusterKv.Json.Basic
import ClusterKv.Operation
import ClusterKv.Time

/-! What can go wrong, as callers see it and on the way there. -/

namespace ClusterKv

/-- The address of a node, `host:port`. -/
structure NodeId where
  address : String
deriving DecidableEq, Repr, Inhabited

/-- Why a command failed. -/
inductive Error where
  /-- The node gave a definitive answer that is no success. -/
  | application (status : Status)
  /-- The deadline passed; `after` is the time that was allowed. -/
  | timeout (after : Duration)
  /-- Every attempt ended in something worth another try. -/
  | retriesExhausted (retries : Nat) (last : String)
  /-- No node owns the partition. -/
  | noRoute (partition : UInt16)
  /-- No partition table could be had. -/
  | topologyUnavailable (reason : String)
  /-- The connection to the node asked for failed on every attempt. -/
  | connection (reason : String)
  /-- The configuration cannot be used. -/
  | config (reason : String)
  /-- The client is closed. -/
  | shutdown
deriving DecidableEq, Repr

namespace Error

def message : Error → String
  | application status => "operation failed: " ++ status.text
  | timeout after => "operation timed out after " ++ after.text
  | retriesExhausted retries last => s!"gave up after {retries} retries; last failure: {last}"
  | noRoute partition => s!"no node owns partition {partition}"
  | topologyUnavailable reason => "cluster topology unavailable: " ++ reason
  | connection reason => "connection failed: " ++ reason
  | config reason => "invalid configuration: " ++ reason
  | shutdown => "client is shut down"

/-- The name of the kind of an error. -/
def kind : Error → String
  | application _ => "Application"
  | timeout _ => "Timeout"
  | retriesExhausted .. => "RetriesExhausted"
  | noRoute _ => "NoRoute"
  | topologyUnavailable _ => "TopologyUnavailable"
  | connection _ => "Connection"
  | config _ => "Config"
  | shutdown => "Shutdown"

/-- The status of the answer, if there was one. -/
def status? : Error → Option Status
  | application status => some status
  | _ => none

/-- Was there no such key? -/
def isNotFound (error : Error) : Bool := error.status? = some .keyNotFound

/-- Did the key exist already, or have another cas? -/
def isExists (error : Error) : Bool := error.status? = some .keyExists

/-- Was the item locked? -/
def isLocked (error : Error) : Bool := error.status? = some .locked

/-- Did the deadline pass? -/
def isTimeout : Error → Bool
  | timeout _ => true
  | _ => false

end Error

/-- Why a connection could not be made or used. -/
inductive ConnectionError where
  | connect (node : NodeId) (reason : String)
  /-- The node turned down the bucket or the password. -/
  | auth (node : NodeId) (reason : String)
  | closed (node : NodeId)
  /-- The whole pool is closed. -/
  | poolClosed
deriving DecidableEq, Repr

@[inherit_doc Error.kind]
def ConnectionError.kind : ConnectionError → String
  | connect .. => "Connect"
  | auth .. => "Auth"
  | closed _ => "Closed"
  | poolClosed => "PoolClosed"

def ConnectionError.message : ConnectionError → String
  | connect node reason => s!"connect to {node.address} failed: {reason}"
  | auth node reason => s!"authentication to {node.address} rejected: {reason}"
  | closed node => s!"connection to {node.address} is closed"
  | poolClosed => "connection pool is closed"

/-- The table has no owner for the partition of a key. -/
structure RoutingError where
  partition : UInt16
deriving DecidableEq, Repr

def RoutingError.message (error : RoutingError) : String :=
  s!"topology has no owner for partition {error.partition}"

/-- What is wrong with a partition table. -/
inductive Malformation where
  | tooManyPartitions (count : Nat)
  | unknownOwner
  | forwardLength (forward current : Nat)
  | unknownForwardOwner
  | hashAlgorithm (name : String)
  | emptyRow (partition : Nat)
  /-- The document cannot be read. -/
  | unreadable (fault : Json.Fault)
  /-- Whoever supplied the table says so. -/
  | reported (reason : String)
deriving DecidableEq, Repr

def Malformation.message : Malformation → String
  | tooManyPartitions count => s!"{count} partitions exceeds the partition id space"
  | unknownOwner => "partition map references an unknown server"
  | forwardLength forward current =>
    s!"forward map has {forward} partitions, current map has {current}"
  | unknownForwardOwner => "forward map references an unknown server"
  | hashAlgorithm name => "unsupported hash algorithm " ++ name
  | emptyRow partition => s!"partition {partition} has an empty server row"
  | unreadable fault => fault.message
  | reported reason => reason

/-- Why a table could not be fetched. -/
inductive TopologyError where
  /-- Nobody supplied a table. -/
  | unavailable (reason : String)
  | malformed (fault : Malformation)
deriving DecidableEq, Repr

@[inherit_doc Error.kind]
def TopologyError.kind : TopologyError → String
  | unavailable _ => "Unavailable"
  | malformed _ => "Malformed"

def TopologyError.message : TopologyError → String
  | unavailable reason => reason
  | malformed fault => "malformed bucket configuration: " ++ fault.message

/-- The error that callers see. -/
def TopologyError.toError (error : TopologyError) : Error := .topologyUnavailable error.message

end ClusterKv
