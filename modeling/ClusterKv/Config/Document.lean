import ClusterKv.Bytes
import ClusterKv.Config.Basic
import ClusterKv.Json.Reader
import ClusterKv.Json.Writer

/-! The JSON form of a configuration. Every field may be left out; lengths of time are whole
milliseconds. -/

namespace ClusterKv.Config

/-- A configuration being read, and the names of the fields that have been. -/
structure Draft where
  config : Config := {}
  filled : List String := []

/-- Reads a length of time. -/
def readMillis : Json.Reader Duration := fun fuel text =>
  (Json.natural (UInt64.size - 1) fuel text).map fun (n, rest) => (.ofMillis n, rest)

/-- Reads a number of 32 bits. -/
def readWord : Json.Reader Nat := Json.natural (UInt32.size - 1)

/-- Reads a number of 64 bits. -/
def readCount : Json.Reader Nat := Json.natural (UInt64.size - 1)

/-- A field of the configuration. -/
def field {α : Type} (name : String) (read : Json.Reader α) (fill : Config → α → Config) :
    Json.Field Draft where
  name := name
  filled := fun draft => draft.filled.contains name
  read := fun draft fuel text =>
    (read fuel text).map fun (value, rest) =>
      (⟨fill draft.config value, name :: draft.filled⟩, rest)

def fields : List (Json.Field Draft) :=
  [ field "bootstrap_urls" (Json.list Json.string) fun c v => { c with bootstrapUrls := v },
    field "bucket" Json.string fun c v => { c with bucket := v },
    field "password" Json.string fun c v => { c with password := v },
    field "operation_timeout" readMillis fun c v => { c with operationTimeout := v },
    field "connect_timeout" readMillis fun c v => { c with connectTimeout := v },
    field "max_retries" readWord fun c v => { c with maxRetries := v.toUInt32 },
    field "max_route_refreshes" readWord fun c v => { c with maxRouteRefreshes := v },
    field "retry_backoff_base" readMillis fun c v => { c with backoffBase := v },
    field "retry_backoff_max" readMillis fun c v => { c with backoffMax := v },
    field "topology_poll_interval" (Json.optional readMillis) fun c v => { c with pollInterval := v },
    field "topology_fetch_rounds" readWord fun c v => { c with fetchRounds := v },
    field "topology_fetch_backoff" readMillis fun c v => { c with fetchBackoff := v },
    field "inbound_queue_depth" readCount fun c v => { c with inboundDepth := v },
    field "max_queued_per_node" readCount fun c v => { c with maxQueuedPerNode := v },
    field "max_in_flight_per_node" readCount fun c v => { c with maxInFlightPerNode := v },
    field "max_waiting_commands" readCount fun c v => { c with maxWaiting := v } ]

def read : Json.Reader Config := Json.record fields {} fun draft => some draft.config

/-- Writes a length of time. -/
def writeMillis (d : Duration) : String := toString d.toMillis

/-- The configuration as one line of JSON. -/
def write (config : Config) : String :=
  Json.writeObject
    [ ("bootstrap_urls", Json.writeList (config.bootstrapUrls.map Json.writeString)),
      ("bucket", Json.writeString config.bucket),
      ("password", Json.writeString config.password),
      ("operation_timeout", writeMillis config.operationTimeout),
      ("connect_timeout", writeMillis config.connectTimeout),
      ("max_retries", toString config.maxRetries),
      ("max_route_refreshes", toString config.maxRouteRefreshes),
      ("retry_backoff_base", writeMillis config.backoffBase),
      ("retry_backoff_max", writeMillis config.backoffMax),
      ("topology_poll_interval", config.pollInterval.elim "null" writeMillis),
      ("topology_fetch_rounds", toString config.fetchRounds),
      ("topology_fetch_backoff", writeMillis config.fetchBackoff),
      ("inbound_queue_depth", toString config.inboundDepth),
      ("max_queued_per_node", toString config.maxQueuedPerNode),
      ("max_in_flight_per_node", toString config.maxInFlightPerNode),
      ("max_waiting_commands", toString config.maxWaiting) ]

/-- The configuration in a file, whose content is absent if there is no such file. -/
def ofFile (path : String) (content : Option Bytes) : Except Fault Config :=
  match content with
  | none => .error (.fileMissing path)
  | some bytes =>
    match Bytes.toString? bytes with
    | none => .error (.fileNotText path)
    | some text =>
      match Json.parse read text with
      | .error fault => .error (.fileUnreadable path fault)
      | .ok config => validate config

end ClusterKv.Config
