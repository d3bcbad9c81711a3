import ClusterKv.Topology.Basic

/-! The current partition table, and how fetched tables replace it. -/

namespace ClusterKv

structure Refresher where
  current : Topology := .empty
  /-- How many refreshes have been started. -/
  refreshes : Nat := 0
  /-- How often the current table has changed. -/
  version : Nat := 0
deriving DecidableEq, Repr

namespace Refresher

/-- Counts a refresh that starts. -/
def start (r : Refresher) : Refresher := { r with refreshes := r.refreshes + 1 }

/-- Makes a table the current one, unless that is newer or equal. -/
def publish (r : Refresher) (table : Topology) : Refresher :=
  if table.revision < r.current.revision ∨ table = r.current then r
  else { r with current := table, version := r.version + 1 }

/-- Publishes a table and gives it back, or the current one if that is newer. -/
def install (r : Refresher) (table : Topology) : Refresher × Topology :=
  (r.publish table, if table.revision < r.current.revision then r.current else table)

/-- Ends a refresh with what was fetched. -/
def finish (r : Refresher) (fetched : Except TopologyError Topology) :
    Refresher × Except TopologyError Topology :=
  match fetched with
  | .ok table =>
    let (r, table) := r.install table
    (r, .ok table)
  | .error error => (r, .error error)

end Refresher

end ClusterKv
