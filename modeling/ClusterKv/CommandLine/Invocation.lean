import ClusterKv.CommandLine.Arguments
import ClusterKv.Config.Document

/-! The commands of the program and the configuration that their flags ask for. -/

namespace ClusterKv.CommandLine

/-- How to reach a cluster. -/
structure ConnectArgs where
  /-- The administrative endpoint of any of its nodes. -/
  url : String
  bucket : String
  password : String
  /-- A file with a configuration. -/
  configPath : Option String
  timeoutMillis : Option Nat
deriving DecidableEq, Repr

/-- What the program is asked to do. -/
inductive Invocation where
  /-- To run a cluster until interrupted. -/
  | sim (nodes partitions : Nat) (bucket password : String)
  | get (connect : ConnectArgs) (key : String)
  | set (connect : ConnectArgs) (key value : String) (expiry flags : Nat)
  | delete (connect : ConnectArgs) (key : String)
  | increment (connect : ConnectArgs) (key : String) (delta : Nat) (initial : Option Nat)
  | decrement (connect : ConnectArgs) (key : String) (delta : Nat) (initial : Option Nat)
  | flush (connect : ConnectArgs)
deriving DecidableEq, Repr

namespace Invocation

/-- The name of the command. -/
def name : Invocation → String
  | sim .. => "sim"
  | get .. => "get"
  | set .. => "set"
  | delete .. => "delete"
  | increment .. => "incr"
  | decrement .. => "decr"
  | flush _ => "flush"

/-- How to reach the cluster, if there is to be one already. -/
def connect? : Invocation → Option ConnectArgs
  | sim .. => none
  | get connect .. | set connect .. | delete connect _ | increment connect ..
  | decrement connect .. | flush connect => some connect

end Invocation

/-- The largest numbers of 16, 32 and 64 bits. -/
abbrev most16 : Nat := UInt16.size - 1

@[inherit_doc most16] abbrev most32 : Nat := UInt32.size - 1

@[inherit_doc most16] abbrev most64 : Nat := UInt64.size - 1

/-- The options that say how to reach a cluster. -/
def connectOptions : List (String × ValueKind) :=
  [ ("url", .text), ("bucket", .text), ("password", .text), ("config", .path),
    ("timeout-ms", .natural most64) ]

/-- The value of a numeric option that has been checked. -/
def numberOf (options : Assoc String String) (name : String) : Option Nat :=
  (options.get? name).bind fun word => Text.signed? word.toList

def connectArgs (options : Assoc String String) : ConnectArgs where
  url := (options.get? "url").getD "http://127.0.0.1:8091"
  bucket := (options.get? "bucket").getD "default"
  password := (options.get? "password").getD ""
  configPath := options.get? "config"
  timeoutMillis := numberOf options "timeout-ms"

/-- Reads a command that needs a key. -/
def readKeyed (build : ConnectArgs → String → Invocation) (words : List String) :
    Except Fault Invocation :=
  match readShape ⟨connectOptions, 1⟩ words with
  | .error fault => .error fault
  | .ok (options, positionals) => .ok (build (connectArgs options) (positionals.headD ""))

/-- Reads a command that counts. -/
def readCounter (build : ConnectArgs → String → Nat → Option Nat → Invocation)
    (words : List String) : Except Fault Invocation :=
  let options := connectOptions ++ [("delta", .natural most64), ("initial", .natural most64)]
  match readShape ⟨options, 1⟩ words with
  | .error fault => .error fault
  | .ok (options, positionals) =>
    .ok (build (connectArgs options) (positionals.headD "") ((numberOf options "delta").getD 1)
      (numberOf options "initial"))

def readSet (words : List String) : Except Fault Invocation :=
  let options := connectOptions ++ [("expiry", .natural most64), ("flags", .bounded most32)]
  match readShape ⟨options, 2⟩ words with
  | .error fault => .error fault
  | .ok (options, positionals) =>
    .ok (.set (connectArgs options) (positionals.headD "") (positionals.tail.headD "")
      ((numberOf options "expiry").getD 0) ((numberOf options "flags").getD 0))

def readFlush (words : List String) : Except Fault Invocation :=
  (readShape ⟨connectOptions, 0⟩ words).map fun (options, _) => .flush (connectArgs options)

def readSim (words : List String) : Except Fault Invocation :=
  let options : List (String × ValueKind) :=
    [ ("nodes", .natural most64), ("partitions", .bounded most16), ("bucket", .text),
      ("password", .text) ]
  (readShape ⟨options, 0⟩ words).map fun (options, _) =>
    .sim ((numberOf options "nodes").getD 3) ((numberOf options "partitions").getD 64)
      ((options.get? "bucket").getD "default") ((options.get? "password").getD "")

/-- The commands by their names. -/
def commands : List (String × (List String → Except Fault Invocation)) :=
  [ ("sim", readSim), ("get", readKeyed .get), ("set", readSet), ("delete", readKeyed .delete),
    ("incr", readCounter .increment), ("decr", readCounter .decrement), ("flush", readFlush) ]

/-- Is a word the name of a command, or of the help on commands? -/
def isCommand (word : String) : Bool := word = "help" ∨ commands.any (·.1 = word)

/-- What a request for help comes to: at most one name of a command may follow. -/
def readHelp : List String → Fault
  | [] => .displayHelp
  | [word] => if isCommand word then .displayHelp else .invalidSubcommand
  | _ => .invalidSubcommand

/-- Reads a command line, without the name of the program. -/
def Invocation.parse (words : List String) : Except Fault Invocation :=
  match words with
  | [] => .error .displayHelpOnMissingArgumentOrSubcommand
  | "--" :: [] => .error .displayHelpOnMissingArgumentOrSubcommand
  | "--" :: word :: _ =>
    .error (if isCommand word then .unknownArgument else .invalidSubcommand)
  | word :: rest =>
    match word.toList with
    | '-' :: '-' :: chars =>
      match splitOption chars with
      | ("help", none) => .error .displayHelp
      | ("version", none) => .error .displayVersion
      | ("help", some _) | ("version", some _) => .error .tooManyValues
      | _ => .error .unknownArgument
    | '-' :: 'h' :: _ => .error .displayHelp
    | '-' :: 'V' :: _ => .error .displayVersion
    | '-' :: _ :: _ => .error .unknownArgument
    | _ =>
      if word = "help" then .error (readHelp rest)
      else match commands.find? (·.1 = word) with
        | some (_, read) => read rest
        | none => .error .invalidSubcommand

/-- The configuration that the flags ask for, given the content of the file they name. Endpoint,
bucket and password always come from the flags, and there is no polling. -/
def ConnectArgs.config (connect : ConnectArgs) (content : String → Option Bytes) :
    Except Config.Fault Config :=
  let base := match connect.configPath with
    | some path => Config.ofFile path (content path)
    | none => .ok {}
  match base with
  | .error fault => .error fault
  | .ok base =>
    Config.validate
      { base with
        bootstrapUrls := [connect.url]
        bucket := connect.bucket
        password := connect.password
        pollInterval := none
        operationTimeout := connect.timeoutMillis.elim base.operationTimeout Duration.ofMillis }

end ClusterKv.CommandLine
