import ClusterKv.Bootstrap
import ClusterKv.Client.Session
import ClusterKv.Cluster.Basic
import ClusterKv.CommandLine.Invocation
import ClusterKv.Text.Utf8

/-! The program: what it does for a command, what it prints and how it ends. -/

namespace ClusterKv.CommandLine

/-- How a run of the program ends. -/
structure Report where
  code : Nat := 0
  output : String := ""
  errors : String := ""
deriving DecidableEq, Repr

namespace Report

/-- A line of output. -/
def line (text : String) : Report := { output := text ++ "\n" }

/-- A failure. -/
def failure (message : String) : Report := { code := 1, errors := "Error: " ++ message ++ "\n" }

/-- A failure of something that the program was about, and its cause. -/
def failureOf (subject : String) (cause : Error) : Report :=
  failure (subject ++ "\n\nCaused by:\n    " ++ cause.message)

end Report

namespace Invocation

/-- What a command asks of one key, and what is printed if it goes well. -/
structure KeyTask where
  key : String
  call : KeyCall
  report : KeyResult → Report

/-- What is printed of an item that was read, stored, counted or deleted. -/
def KeyTask.silent : KeyResult → Report := fun _ => {}

@[inherit_doc KeyTask.silent]
def KeyTask.value : KeyResult → Report
  | .found item => .line (Utf8.decodeLossy item.value)
  | .counted counter => .line (toString counter.value)
  | .changed _ => {}

@[inherit_doc KeyTask.silent]
def KeyTask.cas : KeyResult → Report
  | .changed item => .line ("cas " ++ toString item.cas)
  | .found _ | .counted _ => {}

/-- What a command asks of one key. An expiry of zero is none. -/
def keyTask? : Invocation → Option KeyTask
  | get _ key => some ⟨key, .get, KeyTask.value⟩
  | set _ key value expiry flags =>
    let expiry := if expiry = 0 then none else some (Duration.ofMillis (expiry * 1000))
    some ⟨key, .store .set (Bytes.ofString value) { flags := flags.toUInt32, expiry },
      KeyTask.cas⟩
  | delete _ key => some ⟨key, .delete none, KeyTask.silent⟩
  | increment _ key delta initial =>
    some ⟨key, .counter .increment delta.toUInt64 (initial.map Nat.toUInt64), KeyTask.value⟩
  | decrement _ key delta initial =>
    some ⟨key, .counter .decrement delta.toUInt64 (initial.map Nat.toUInt64), KeyTask.value⟩
  | sim .. | flush _ => none

end Invocation

namespace Program

variable {σ : Type} (net : Network σ)

/-- Makes a call and waits for it. -/
def await {ρ : Type} (world : World σ) (call : SessionCall σ ρ) : Option ρ :=
  ((Session.perform net { world } [call]).2.head?).map (·.1)

/-- What a command comes to once the client is connected. -/
def report (world : World σ) (invocation : Invocation) : Report :=
  match invocation.keyTask? with
  | some task =>
    match await net world (Client.one (Bytes.ofString task.key) task.call) with
    | some (.ok result) => task.report result
    | some (.error error) => .failureOf (invocation.name ++ " " ++ task.key) error
    | none => {}
  | none =>
    match await net world Client.flush with
    | some (.error error) => .failureOf invocation.name error
    | some (.ok ()) | none => {}

/-- Starts the cluster of a command that runs one. -/
def startCluster (nodes partitions : Nat) (credentials : Credentials) :
    Except ClusterFault Cluster :=
  let names := (List.range nodes).map fun index => NodeId.mk s!"127.0.0.1:{11210 + index}"
  Cluster.start { nodes := names, partitions, credentials }

/-- Runs a command in a network, which may depend on the configuration. A file has a content if
there is one. A cluster runs until it is interrupted, which is a good end. -/
def run (net : Bootstrap → Network σ) (state : σ) (content : String → Option Bytes)
    (invocation : Invocation) : Report :=
  match invocation, invocation.connect? with
  | .sim nodes partitions bucket password, _ =>
    match startCluster nodes partitions ⟨bucket, password⟩ with
    | .error fault => .failure fault.message
    | .ok _ => {}
  | _, none => {}
  | _, some connect =>
    match connect.config content with
    | .error fault => .failure (Error.config fault.message).message
    | .ok config =>
      match Bootstrap.connect net config state with
      | .error error => .failureOf ("connect to " ++ connect.url) error
      | .ok (net, world) => report net world invocation

/-- Runs the command that a command line asks for. -/
def runLine (net : Bootstrap → Network σ) (state : σ) (content : String → Option Bytes)
    (words : List String) : Except Fault Report :=
  (Invocation.parse words).map (run net state content)

end Program

end ClusterKv.CommandLine
