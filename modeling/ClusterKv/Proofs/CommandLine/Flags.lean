import ClusterKv.Proofs.CommandLine.Words

/-! # Flags and the configuration file

A command that connects takes its configuration from a file, if one is named, and from its flags.
The endpoint, the bucket and the password are always those of the flags, which have defaults of
their own: what the file says of them counts for nothing. -/

namespace ClusterKv.CommandLine

/-- What commands can be given that need a key, store a value or count. -/
def keyed : Shape := ⟨connectOptions, 1⟩

@[inherit_doc keyed]
def storing : Shape :=
  ⟨connectOptions ++ [("expiry", .natural most64), ("flags", .bounded most32)], 2⟩

@[inherit_doc keyed]
def counting : Shape :=
  ⟨connectOptions ++ [("delta", .natural most64), ("initial", .natural most64)], 1⟩

/-- The commands that connect to a cluster, and what they can be given. -/
def connecting : List (String × Shape) :=
  [ ("get", keyed), ("set", storing), ("delete", keyed), ("incr", counting), ("decr", counting),
    ("flush", ⟨connectOptions, 0⟩) ]

variable {name : String} {shape : Shape} {given : Assoc String String}
  {positionals words : List String}

theorem connecting_named (h : (name, shape) ∈ connecting) : shape.Named := by
  have hall : ∀ command ∈ connecting,
      ∀ option ∈ command.2.options, option.1 ≠ "" ∧ '=' ∉ option.1.toList := by
    decide +kernel
  exact hall (name, shape) h

/-- A number for the timeout is checked in the same way for every command. -/
theorem connecting_timeout (h : (name, shape) ∈ connecting) :
    shape.options.find? (·.1 = "timeout-ms") = some ("timeout-ms", .natural most64) := by
  have hall : ∀ command ∈ connecting,
      command.2.options.find? (·.1 = "timeout-ms") = some ("timeout-ms", .natural most64) := by
    decide +kernel
  exact hall (name, shape) h

theorem readKeyed_eq (build : ConnectArgs → String → Invocation)
    (hread : readShape keyed words = .ok (given, positionals)) :
    readKeyed build words = .ok (build (connectArgs given) (positionals.headD "")) := by
  rw [keyed] at hread
  simp only [readKeyed, hread]

theorem readCounter_eq (build : ConnectArgs → String → Nat → Option Nat → Invocation)
    (hread : readShape counting words = .ok (given, positionals)) :
    readCounter build words =
      .ok (build (connectArgs given) (positionals.headD "") ((numberOf given "delta").getD 1)
        (numberOf given "initial")) := by
  rw [counting] at hread
  simp only [readCounter, hread]

/-- What such a command is asked to do keeps all that its options say of the connection. -/
theorem parse_connecting (h : (name, shape) ∈ connecting)
    (hread : readShape shape words = .ok (given, positionals)) :
    ∃ invocation, Invocation.parse (name :: words) = .ok invocation ∧ invocation.name = name ∧
      invocation.connect? = some (connectArgs given) := by
  simp only [connecting, List.mem_cons, Prod.mk.injEq, List.not_mem_nil, or_false] at h
  rcases h with ⟨rfl, rfl⟩ | ⟨rfl, rfl⟩ | ⟨rfl, rfl⟩ | ⟨rfl, rfl⟩ | ⟨rfl, rfl⟩ | ⟨rfl, rfl⟩
  · have hparse : Invocation.parse ("get" :: words) = readKeyed .get words := rfl
    exact ⟨_, hparse.trans (readKeyed_eq .get hread), rfl, rfl⟩
  · have hparse : Invocation.parse ("set" :: words) = readSet words := rfl
    refine ⟨.set (connectArgs given) (positionals.headD "") (positionals.tail.headD "")
      ((numberOf given "expiry").getD 0) ((numberOf given "flags").getD 0), ?_, rfl, rfl⟩
    rw [storing] at hread
    simp only [hparse, readSet, hread]
  · have hparse : Invocation.parse ("delete" :: words) = readKeyed .delete words := rfl
    exact ⟨_, hparse.trans (readKeyed_eq .delete hread), rfl, rfl⟩
  · have hparse : Invocation.parse ("incr" :: words) = readCounter .increment words := rfl
    exact ⟨_, hparse.trans (readCounter_eq .increment hread), rfl, rfl⟩
  · have hparse : Invocation.parse ("decr" :: words) = readCounter .decrement words := rfl
    exact ⟨_, hparse.trans (readCounter_eq .decrement hread), rfl, rfl⟩
  · have hparse : Invocation.parse ("flush" :: words) = readFlush words := rfl
    refine ⟨.flush (connectArgs given), ?_, rfl, rfl⟩
    simp only [hparse, readFlush, hread, Except.map]

/-! ## What becomes of the file -/

/-- The configuration in the file that is named, or what holds without one. -/
def base (given : Assoc String String) (content : String → Option Bytes) :
    Except Config.Fault Config :=
  match given.get? "config" with
  | some path => Config.ofFile path (content path)
  | none => .ok {}

/-- The number of milliseconds that an operation may take, if it is given. -/
def millis? (given : Assoc String String) : Option Nat :=
  (given.get? "timeout-ms").bind fun word => Text.natural? word.toList

/-- A configuration with what is given in place of what it says. Endpoint, bucket and password are
those of another one where they are not given. There is no polling. -/
def overridden (given : Assoc String String) (other config : Config) : Config :=
  { config with
    bootstrapUrls := (given.get? "url").elim other.bootstrapUrls ([·])
    bucket := (given.get? "bucket").getD other.bucket
    password := (given.get? "password").getD other.password
    pollInterval := none
    operationTimeout := (millis? given).elim config.operationTimeout Duration.ofMillis }

/-- Endpoint, bucket and password are given, or the file does not say anything else than the
flags do by themselves. -/
structure Heeded (given : Assoc String String) (file : Config) : Prop where
  url : given.get? "url" = none → file.bootstrapUrls = ({} : Config).bootstrapUrls
  bucket : given.get? "bucket" = none → file.bucket = ({} : Config).bucket
  password : given.get? "password" = none → file.password = ({} : Config).password

theorem heeded_iff {file : Config} :
    Heeded given file ↔ overridden given {} file = overridden given file file := by
  refine ⟨fun h => ?_, fun h => ⟨?_, ?_, ?_⟩⟩
  · have hurl : (given.get? "url").elim ({} : Config).bootstrapUrls ([·]) =
        (given.get? "url").elim file.bootstrapUrls ([·]) := by
      cases hget : given.get? "url" with
      | none => exact (h.url hget).symm
      | some url => rfl
    have hbucket : (given.get? "bucket").getD ({} : Config).bucket =
        (given.get? "bucket").getD file.bucket := by
      cases hget : given.get? "bucket" with
      | none => exact (h.bucket hget).symm
      | some bucket => rfl
    have hpassword : (given.get? "password").getD ({} : Config).password =
        (given.get? "password").getD file.password := by
      cases hget : given.get? "password" with
      | none => exact (h.password hget).symm
      | some password => rfl
    rw [overridden, hurl, hbucket, hpassword, overridden]
  · intro hget
    simpa [overridden, hget] using (congrArg Config.bootstrapUrls h).symm
  · intro hget
    simpa [overridden, hget] using (congrArg Config.bucket h).symm
  · intro hget
    simpa [overridden, hget] using (congrArg Config.password h).symm

/-- A number that passes its check has no minus sign. -/
theorem signed?_of_valid {word : String} {most : Nat}
    (h : (ValueKind.natural most).fault? word = none) :
    Text.signed? word.toList = Text.natural? word.toList := by
  unfold Text.signed?
  split
  · next rest hword =>
      have hnone : Text.natural? word.toList = none := by
        simp [hword, Text.natural?, Text.digits?]
      simp [ValueKind.fault?, hnone] at h
  · rfl

theorem Says.valid (h : Says shape given positionals words) {option value : String}
    (hoption : (option, value) ∈ given) :
    ∃ kind, shape.options.find? (·.1 = option) = some (option, kind) ∧
      kind.fault? value = none := by
  induction h with
  | nothing | literally => cases hoption
  | positional plain rest ih => exact ih hoption
  | joined known valid once rest ih | apart known valid once plain rest ih =>
      rcases List.mem_cons.mp hoption with hhead | htail
      · obtain ⟨rfl, rfl⟩ := Prod.mk.inj hhead
        exact ⟨_, known, valid⟩
      · exact ih htail

theorem Says.numberOf_timeout (h : Says shape given positionals words)
    (hknown : shape.options.find? (·.1 = "timeout-ms") = some ("timeout-ms", .natural most64)) :
    numberOf given "timeout-ms" = millis? given := by
  unfold numberOf millis?
  cases hget : given.get? "timeout-ms" with
  | none => rfl
  | some word =>
      obtain ⟨kind, hkind, hvalid⟩ := h.valid (Assoc.mem_of_get? hget)
      rw [hknown] at hkind
      obtain ⟨-, rfl⟩ := Prod.mk.inj (Option.some.inj hkind)
      exact signed?_of_valid hvalid

theorem config_connectArgs {content : String → Option Bytes} {file : Config}
    (hbase : base given content = .ok file)
    (hmillis : numberOf given "timeout-ms" = millis? given) :
    (connectArgs given).config content = Config.validate (overridden given {} file) := by
  have hurl : [(connectArgs given).url] =
      (given.get? "url").elim ({} : Config).bootstrapUrls ([·]) := by
    cases hget : given.get? "url" <;> simp [connectArgs, hget]
  have hpath : (connectArgs given).configPath = given.get? "config" := rfl
  have htimeout : (connectArgs given).timeoutMillis = millis? given := hmillis
  rw [ConnectArgs.config, hpath, hurl, htimeout]
  unfold base at hbase
  cases hget : given.get? "config" with
  | none =>
      simp only [hget] at hbase
      obtain rfl := Except.ok.inj hbase
      rfl
  | some path =>
      simp only [hget] at hbase
      simp only [hbase]
      rfl

/-- A command that connects, with flags in any order and spelling and a file that is valid or none:
what is given counts, and otherwise the file, but for endpoint, bucket and password. What comes of
it is the configuration, if that is valid. The file's endpoint, bucket and password are heeded only
where that makes no difference. -/
theorem flags_over_file (hcommand : (name, shape) ∈ connecting)
    (hspelled : Says shape given positionals words) (hcount : positionals.length = shape.positionals)
    {content : String → Option Bytes} {file : Config} (hbase : base given content = .ok file) :
    ∃ invocation connect, Invocation.parse (name :: words) = .ok invocation ∧
      invocation.name = name ∧ invocation.connect? = some connect ∧
      connect.config content = Config.validate (overridden given {} file) ∧
      (Heeded given file ↔ overridden given {} file = overridden given file file) := by
  have hread := hspelled.readShape (connecting_named hcommand) hcount
  obtain ⟨invocation, hparse, hname, hconnect⟩ := parse_connecting hcommand hread
  have hmillis := hspelled.numberOf_timeout (connecting_timeout hcommand)
  exact ⟨invocation, _, hparse, hname, hconnect, config_connectArgs hbase hmillis, heeded_iff⟩

/-- The files there are: one that names a bucket. -/
def travelFiles (path : String) : Option Bytes :=
  if path = "f" then
    some (Bytes.ofString "\x7b\"bucket\":\"travel\",\"max_retries\":5\x7d")
  else none

def travel : Config := { bucket := "travel", maxRetries := 5 }

theorem base_travel (h : given.get? "config" = some "f") : base given travelFiles = .ok travel := by
  have hread : Config.ofFile "f" (travelFiles "f") = .ok travel := by
    decide +kernel
  rw [base, h]
  exact hread

/-- What is given in one word, in two and after two dashes alone. -/
theorem mixed_words : Says storing [("bucket", "b"), ("config", "f"), ("timeout-ms", "750")]
    ["k", "-v"] ["--bucket=b", "--config", "f", "k", "--timeout-ms", "750", "--", "-v"] := by
  have htimeout : Says storing [("timeout-ms", "750")] ["-v"] ["--timeout-ms", "750", "--", "-v"] :=
    .apart rfl (by decide) rfl (isPlain_of_head (by decide)) (.literally ["-v"])
  have hconfig : Says storing [("config", "f"), ("timeout-ms", "750")] ["k", "-v"]
      ["--config", "f", "k", "--timeout-ms", "750", "--", "-v"] :=
    .apart rfl (by decide) rfl (isPlain_of_head (by decide))
      (.positional (isPlain_of_head (by decide)) htimeout)
  exact .joined rfl (by decide) rfl hconfig

/-- The configuration of a command whose timeout and bucket are given. -/
def hurriedTravel : Config :=
  { bucket := "b", maxRetries := 5, pollInterval := none, operationTimeout := .ofMillis 750 }

/-- The number of retries is that of the file, and the rest is given. -/
theorem set_over_travel : ∃ invocation connect,
    Invocation.parse
      ["set", "--bucket=b", "--config", "f", "k", "--timeout-ms", "750", "--", "-v"] =
        .ok invocation ∧
      invocation.connect? = some connect ∧ connect.config travelFiles = .ok hurriedTravel := by
  have hset : ("set", storing) ∈ connecting := by simp [connecting]
  obtain ⟨invocation, connect, hparse, -, hconnect, hconfig, -⟩ :=
    flags_over_file hset mixed_words rfl (base_travel rfl)
  refine ⟨invocation, connect, hparse, hconnect, hconfig.trans ?_⟩
  decide +kernel

/-- The bucket of the file is dropped, though none is given. -/
theorem file_bucket_dropped : ∃ connect,
    Invocation.parse ["flush", "--config=f"] = .ok (.flush connect) ∧
      base [("config", "f")] travelFiles = .ok travel ∧
      connect.config travelFiles = .ok { maxRetries := 5, pollInterval := none } ∧
      connect.config travelFiles ≠ Config.validate (overridden [("config", "f")] travel travel) := by
  refine ⟨connectArgs [("config", "f")], rfl, base_travel rfl, ?_, ?_⟩
  · decide +kernel
  · decide +kernel

end ClusterKv.CommandLine
