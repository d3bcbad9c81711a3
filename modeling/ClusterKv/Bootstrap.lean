import ClusterKv.Client.Call

/-! Fetching the partition table from the administrative endpoints of a cluster. -/

namespace ClusterKv

/-- The endpoints of a cluster, and how patiently they are asked. -/
structure Bootstrap where
  bucket : String
  /-- In the order in which they are asked. -/
  urls : List String
  /-- How often all of them are asked before a fetch fails. -/
  rounds : Nat
  /-- The time between two rounds. -/
  pause : Duration
deriving DecidableEq, Repr

namespace Bootstrap

/-- The endpoints of a configuration. There has to be one, and there is at least one round. -/
def ofConfig (config : Config) : Except Config.Fault Bootstrap :=
  if config.bootstrapUrls.isEmpty then .error .noUrls
  else .ok ⟨config.bucket, config.bootstrapUrls, max config.fetchRounds 1, config.fetchBackoff⟩

/-- Where an endpoint keeps the document of a bucket. -/
def documentUrl (base bucket : String) : String :=
  let chars := (base.toList.reverse.dropWhile (· = '/')).reverse
  String.ofList chars ++ "/pools/default/buckets/" ++ bucket

/-- Asks one endpoint after another until one has a table. A reason names the document; the last
one counts. -/
def askAll (bucket : String) (ask : String → Except String Topology) :
    List String → String → Except String Topology
  | [], last => .error last
  | base :: rest, _ =>
    let url := documentUrl base bucket
    match ask url with
    | .ok table => .ok table
    | .error reason => askAll bucket ask rest (url ++ ": " ++ reason)

/-- Asks in rounds, of which so many are left. The first part is how often it has paused. -/
def askRounds (b : Bootstrap) (ask : Nat → String → Except String Topology) :
    Nat → Nat → String → Nat × Except String Topology
  | 0, round, last => (round - 1, .error last)
  | left + 1, round, last =>
    match askAll b.bucket (ask round) b.urls last with
    | .ok table => (round, .ok table)
    | .error last => askRounds b ask left (round + 1) last

/-- Fetches the table: how long the pauses take, and what comes of it. What an endpoint says may
depend on the round. -/
def fetch (b : Bootstrap) (ask : Nat → String → Except String Topology) :
    Duration × Except TopologyError Topology :=
  let (pauses, result) := b.askRounds ask b.rounds 0 "no bootstrap urls"
  (b.pause.times pauses, result.mapError fun last => .unavailable
    s!"no bootstrap endpoint answered after {b.rounds} rounds; last error: {last}")

/-- Starts a client that finds its cluster through the endpoints of its configuration, in the
network that they belong to. -/
def connect {σ : Type} (net : Bootstrap → Network σ) (config : Config) (network : σ) :
    Except Error (Network σ × World σ) :=
  match config.validate.bind ofConfig with
  | .error fault => .error (.config fault.message)
  | .ok b => (World.connect (net b) config network).map fun w => (net b, w)

end Bootstrap

/-- A network in which nothing can be reached, always for the same reason. -/
def Network.isolated (bootstrap : Bootstrap) (reason : String) : Network Unit where
  dial := fun _ id => ((), some (.zero, .error (.connect id reason)))
  isUp := fun _ _ => false
  write := fun _ id _ => ((), { result := .error (.closed id) })
  perform := fun _ _ request _ => ((), .ofStatus request.opaqueId .temporaryFailure)
  fetch := fun _ => ((), bootstrap.fetch fun _ _ => .error reason)

end ClusterKv
