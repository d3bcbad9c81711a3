import ClusterKv.Simulation.Run

/-! Sessions: calls that are started in a world and waited for later. -/

namespace ClusterKv

/-- What a call comes to and when, once it is over. -/
abbrev Eventual (σ ρ : Type) := World σ → Option (ρ × Instant)

/-- A call, which is started under a number. -/
abbrev SessionCall (σ ρ : Type) := World σ → Nat → World σ × Eventual σ ρ

/-- A world, and the calls in it that have not been waited for. -/
structure Session (σ ρ : Type) where
  world : World σ
  /-- The number of the next call. -/
  next : Nat := 1
  /-- In the order in which they were started. -/
  pending : List (Eventual σ ρ) := []

namespace Session

variable {σ ρ : Type}

/-- Starts a call under the next number. -/
def start (s : Session σ ρ) (call : SessionCall σ ρ) : Session σ ρ :=
  let (world, outcome) := call s.world s.next
  { world, next := s.next + 1, pending := s.pending ++ [outcome] }

/-- Waits for all calls, and tells what they came to. -/
def join (net : Network σ) (s : Session σ ρ) : Session σ ρ × List (ρ × Instant) :=
  let world := s.world.await net fun w => s.pending.all fun outcome => (outcome w).isSome
  ({ s with world, pending := [] }, s.pending.filterMap (· world))

/-- Starts some calls together and waits for them alone. -/
def perform (net : Network σ) (s : Session σ ρ) (calls : List (SessionCall σ ρ)) :
    Session σ ρ × List (ρ × Instant) :=
  let (after, outcomes) := (calls.foldl start { s with pending := [] }).join net
  ({ after with pending := s.pending }, outcomes)

end Session

/-- Turns what a call comes to into something else. -/
def SessionCall.map {σ ρ τ : Type} (call : SessionCall σ ρ) (f : ρ → τ) : SessionCall σ τ :=
  fun w number =>
    let (w, outcome) := call w number
    (w, fun w => (outcome w).map fun (result, time) => (f result, time))

end ClusterKv
