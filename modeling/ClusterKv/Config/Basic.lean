import ClusterKv.Json.Basic
import ClusterKv.Time

/-! What a client can be told: where the cluster is, how long to try and how much to hold. -/

namespace ClusterKv

structure Config where
  /-- Administrative endpoints, tried in order. -/
  bootstrapUrls : List String := ["http://127.0.0.1:8091"]
  bucket : String := "default"
  password : String := ""
  /-- The time one operation may take, with all its retries. -/
  operationTimeout : Duration := .ofMillis 2500
  connectTimeout : Duration := .ofMillis 2000
  /-- How many retries a command gets. -/
  maxRetries : UInt32 := 64
  /-- How many refreshes a command may ask for because its partition has no owner. -/
  maxRouteRefreshes : Nat := 3
  backoffBase : Duration := .ofMillis 2
  backoffMax : Duration := .ofMillis 250
  /-- The time between refreshes in the background, if there are any. -/
  pollInterval : Option Duration := some (.ofMillis 10000)
  /-- Passes over the endpoints before a fetch fails. -/
  fetchRounds : Nat := 3
  fetchBackoff : Duration := .ofMillis 100
  /-- Submissions that wait to be accepted. -/
  inboundDepth : Nat := 4096
  /-- Requests that wait for the socket of one node. -/
  maxQueuedPerNode : Nat := 1024
  /-- Requests to one node without an answer yet. Further commands for it wait. -/
  maxInFlightPerNode : Nat := 1024
  /-- Commands that wait for busy nodes. When there are this many, nothing more is accepted. -/
  maxWaiting : Nat := 4096
deriving DecidableEq, Repr, Inhabited

namespace Config

/-- Why a configuration cannot be used. -/
inductive Fault where
  | fileMissing (path : String)
  | fileNotText (path : String)
  | fileUnreadable (path : String) (fault : Json.Fault)
  | emptyBucket
  | zeroTimeout
  | zeroDepth
  | zeroLimit
  | backoffOrder
  | zeroPoll
  | noUrls
deriving DecidableEq, Repr

def Fault.message : Fault → String
  | fileMissing path => s!"read {path}: No such file or directory (os error 2)"
  | fileNotText path => s!"read {path}: stream did not contain valid UTF-8"
  | fileUnreadable path fault => s!"parse {path}: {fault.message}"
  | emptyBucket => "bucket name must not be empty"
  | zeroTimeout => "operation_timeout must be positive"
  | zeroDepth => "queue depths must be positive"
  | zeroLimit => "in-flight and waiting limits must be positive"
  | backoffOrder => "retry_backoff_base exceeds retry_backoff_max"
  | zeroPoll => "topology_poll_interval must be positive when set"
  | noUrls => "at least one bootstrap url is required"

/-- The first rule that a configuration breaks. -/
def fault? (config : Config) : Option Fault :=
  if config.bucket.isEmpty then some .emptyBucket
  else if config.operationTimeout.nanos = 0 then some .zeroTimeout
  else if config.inboundDepth = 0 ∨ config.maxQueuedPerNode = 0 then some .zeroDepth
  else if config.maxInFlightPerNode = 0 ∨ config.maxWaiting = 0 then some .zeroLimit
  else if config.backoffBase.nanos > config.backoffMax.nanos then some .backoffOrder
  else if config.pollInterval.any (·.nanos = 0) then some .zeroPoll
  else none

/-- A configuration that breaks no rule. -/
def validate (config : Config) : Except Fault Config :=
  match config.fault? with
  | some fault => .error fault
  | none => .ok config

/-- The pause before a retry: it doubles each time, up to the longest pause. -/
def backoff (config : Config) (attempt : Nat) : Duration :=
  (config.backoffBase.times (1 <<< min attempt 16)).shorter config.backoffMax

/-- The configuration for one endpoint and one bucket. -/
def ofUrl (url bucket : String) : Config := { bootstrapUrls := [url], bucket }

end Config

end ClusterKv
