import ClusterKv.Proofs.Store.Sizes
import ClusterKv.Proofs.Wire.Frames
import ClusterKv.Wire.Session

/-! # Nothing before the greeting, everything after it

A node executes the requests of a client that greets first with what the node asks for: all of them,
in order, up to the first frame that cannot be read. It answers each. For any other client it
executes none. -/

namespace ClusterKv

open Wire

/-! ## What a stream of messages asks for -/

/-- The requests among messages that are counted from some number on, each with the time of its
message. -/
def requestsFrom (clock : Nat → Instant) (count : Nat) (messages : List ClientMessage) :
    List (Instant × Request) :=
  (messages.zipIdx count).filterMap fun
    | (.request request, i) => some (clock i, request)
    | (.hello _ _, _) => none

namespace Node

/-- Executes requests one after another, each at its time. -/
def executeAll : Node → List (Instant × Request) → Node × List Response
  | node, [] => (node, [])
  | node, (now, request) :: rest =>
    let (node, response) := node.execute request now
    let (node, responses) := executeAll node rest
    (node, response :: responses)

/-- The client is let in: it greets first, with the bucket and the password of the node. (A name
too long for a frame keeps a node from letting anybody in.) -/
def Admits (node : Node) (messages : List ClientMessage) : Prop :=
  messages.head? = some (.hello node.credentials.bucket node.credentials.password) ∧
    Party.node.Fits (.welcome node.id.address)

/-- Why a client is turned away. -/
def refusal? (node : Node) : List ClientMessage → Option Rejection
  | [] => none
  | .request _ :: _ => some .noGreeting
  | .hello bucket password :: _ =>
    match node.authenticate ⟨bucket, password⟩ with
    | .error rejection => some rejection
    | .ok () => none

end Node

/-! ## What is written -/

/-- What a node writes is read back, if there is a frame for each message. -/
theorem yields_framed {messages : List ServerMessage}
    (h : ∀ message ∈ messages, Party.node.Fits message) :
    Yields (Party.read .node) (messages.flatMap fun message => framed message.write) messages
      none [] := by
  have hframes : List.Forall₂ (Party.Frames .node) messages
      (messages.map fun message => framed message.write) := by
    rw [List.forall₂_map_right_iff]
    refine List.forall₂_same.mpr fun message hmessage => ⟨[], ?_, by rw [List.append_nil]; rfl⟩
    simpa using h message hmessage
  have hend : Yields (Party.read .node) [] [] none [] := .ended rfl
  simpa [List.flatMap_def] using (Party.yields_flatten_iff hframes).mpr hend

/-- Does a response hold no longer value than nodes do by default? -/
abbrev Response.Short (response : Response) : Prop :=
  ∀ value, response.value = some value → value.length ≤ Store.defaultMaxValueLength

/-- There is a frame for each response with a value that a node may hold. -/
theorem Response.Short.fits {response : Response} (h : response.Short) :
    Party.node.Fits (.response response) := by
  have hvalue : (writeOption writeBytes response.value).length ≤
      9 + Store.defaultMaxValueLength := by
    cases hvalue : response.value with
    | none =>
        simp only [writeOption, List.length_singleton]
        omega
    | some value =>
        have := h value hvalue
        simp only [writeOption, writeBytes, List.length_cons, List.length_append,
          length_littleEndian]
        omega
  have hcounter : (writeOption write64 response.counter).length ≤ 9 := by
    cases response.counter <;> simp [writeOption, write64]
  have hstatus : (writeStatus response.status).length = 4 := by
    cases response.status <;> exact length_littleEndian ..
  have hroom : 46 + Store.defaultMaxValueLength ≤ maxFrameLength := by decide
  simp only [Party.Fits, Party.write, ServerMessage.write, writeResponse, writeChoice, write64,
    write32, List.length_append, length_littleEndian, hstatus] at hvalue hcounter ⊢
  omega

namespace Node

variable {node : Node} {clock : Nat → Instant} {stream rest left : Bytes}
  {messages : List ClientMessage} {fault : Option FrameFault}

theorem execute_made (made : node.store.Made Store.defaultMaxValueLength) (request : Request)
    (now : Instant) :
    (node.execute request now).1.store.Made Store.defaultMaxValueLength :=
  made.execute request now

theorem execute_short (made : node.store.Made Store.defaultMaxValueLength) (request : Request)
    (now : Instant) : (node.execute request now).2.Short :=
  ((made.bounded (by decide)).execute (by decide) request now).2

theorem executeAll_short (made : node.store.Made Store.defaultMaxValueLength)
    (requests : List (Instant × Request)) :
    ∀ response ∈ (node.executeAll requests).2, response.Short := by
  induction requests generalizing node with
  | nil => exact nofun
  | cons first requests ih =>
      obtain ⟨now, request⟩ := first
      rw [executeAll, List.forall_mem_cons]
      exact ⟨execute_short made request now, ih (execute_made made request now)⟩

theorem executeAll_opaqueId (node : Node) (requests : List (Instant × Request)) :
    (node.executeAll requests).2.map (·.opaqueId) = requests.map (·.2.opaqueId) := by
  induction requests generalizing node with
  | nil => rfl
  | cons first requests ih =>
      obtain ⟨now, request⟩ := first
      simp only [executeAll, List.map_cons, ih]
      exact congrArg (· :: _) (node.store.execute_opaqueId request now)

/-- Behind the greeting the requests are executed in order, and what is written is the frames of
the responses. -/
theorem answerAll_eq (made : node.store.Made Store.defaultMaxValueLength) (clock : Nat → Instant)
    (count : Nat) (messages : List ClientMessage) :
    node.answerAll clock count messages =
      ((node.executeAll (requestsFrom clock count messages)).1,
        (node.executeAll (requestsFrom clock count messages)).2.flatMap fun response =>
          framed (ServerMessage.response response).write) := by
  induction messages generalizing node count with
  | nil => rfl
  | cons message messages ih =>
      cases message with
      | hello bucket password => exact ih made (count + 1)
      | request request =>
          have hframe : frame? (ServerMessage.response
              (node.execute request (clock count)).2).write =
                some (framed
                  (ServerMessage.response (node.execute request (clock count)).2).write) :=
            if_pos (execute_short made request (clock count)).fits
          simp only [answerAll, hframe, ih (execute_made made request (clock count)) (count + 1)]
          rfl

/-! ## Who is let in -/

theorem authenticate_eq_ok_iff {bucket password : String} :
    node.authenticate ⟨bucket, password⟩ = .ok () ↔
      bucket = node.credentials.bucket ∧ password = node.credentials.password := by
  unfold authenticate
  split
  · simp_all
  split <;> simp_all

theorem serve_admitted (made : node.store.Made Store.defaultMaxValueLength)
    (yields : Yields ClientMessage.read stream messages fault left) (h : node.Admits messages) :
    let requests := requestsFrom clock 0 messages.tail
    node.serve clock stream =
      ((node.executeAll requests).1,
        framed (ServerMessage.welcome node.id.address).write ++
          (node.executeAll requests).2.flatMap fun response =>
            framed (ServerMessage.response response).write) := by
  obtain ⟨hfirst, hfits⟩ := h
  have hwelcome : frame? (ServerMessage.welcome node.id.address).write =
      some (framed (ServerMessage.welcome node.id.address).write) := if_pos hfits
  cases yields with
  | ended | failed => cases hfirst
  | message hread later =>
      cases hfirst
      simp only [serve, hread, authenticate_eq_ok_iff.mpr ⟨rfl, rfl⟩, hwelcome, yields_iff.mp later,
        answerAll_eq made, List.tail_cons]

/-- A client that is not let in gets at most the reason, and nothing done. -/
theorem serve_refused (yields : Yields ClientMessage.read stream messages fault left)
    (h : ¬node.Admits messages) :
    node.serve clock stream =
      (node, (((node.refusal? messages).map fun rejection =>
        ServerMessage.rejected rejection.message).bind fun message =>
          frame? message.write).getD []) := by
  cases yields with
  | ended hread | failed hread => simp only [serve, hread]; rfl
  | @message _ message _ _ _ _ hread later =>
      cases message with
      | request request => simp only [serve, hread]; rfl
      | hello bucket password =>
          simp only [serve, hread, refusal?]
          cases hcheck : node.authenticate ⟨bucket, password⟩ with
          | error rejection => rfl
          | ok =>
              -- the node would let the client in, but cannot say so
              obtain ⟨rfl, rfl⟩ := authenticate_eq_ok_iff.mp hcheck
              have hunfit : ¬Party.node.Fits (.welcome node.id.address) :=
                fun hfits => h ⟨rfl, hfits⟩
              have hwelcome : frame? (ServerMessage.welcome node.id.address).write = none :=
                if_neg hunfit
              simp only [hwelcome]
              rfl

/-- What is written for a message, if there is a frame for it. -/
theorem yields_frame? (message : Option ServerMessage) :
    Yields (Party.read .node) ((message.bind fun message => frame? message.write).getD [])
      (message.filter fun message => Party.node.Fits message).toList none [] := by
  cases message with
  | none => exact .ended rfl
  | some message =>
      by_cases hfits : Party.node.Fits message
      · have hframe : frame? message.write = some (framed message.write) := if_pos hfits
        have hone : ∀ m ∈ [message], Party.node.Fits m := by simpa using hfits
        simpa [hfits, hframe, Option.filter_some] using yields_framed hone
      · have hframe : frame? message.write = none := if_neg hfits
        simp only [Option.bind_some, hframe, Option.filter_some, hfits]
        exact .ended rfl

/-- A node executes nothing before a valid greeting and answers everything after it, whatever octets
a client sends. -/
theorem serves_greeted (made : node.store.Made Store.defaultMaxValueLength)
    (clock : Nat → Instant) (stream : Bytes) :
    ∃ messages fault left, Yields (Party.read .client) stream messages fault left ∧
      ∃ answers, Yields (Party.read .node) (node.serve clock stream).2 answers none [] ∧
        (node.Admits messages →
          ∃ responses,
            node.executeAll (requestsFrom clock 0 messages.tail) =
              ((node.serve clock stream).1, responses) ∧
            answers = .welcome node.id.address :: responses.map .response ∧
            responses.map (·.opaqueId) =
              (requestsFrom clock 0 messages.tail).map (·.2.opaqueId)) ∧
        (¬node.Admits messages →
          (node.serve clock stream).1 = node ∧
            answers = (((node.refusal? messages).map fun rejection =>
              ServerMessage.rejected rejection.message).filter fun message =>
                Party.node.Fits message).toList) := by
  obtain ⟨messages, fault, left, yields⟩ :
      ∃ messages fault left, Yields ClientMessage.read stream messages fault left :=
    yields_of_lt _ stream (Nat.lt_succ_self _)
  refine ⟨messages, fault, left, yields, ?_⟩
  by_cases hadmits : node.Admits messages
  · have hserve : node.serve clock stream = _ := serve_admitted made yields hadmits
    rw [hserve]
    refine ⟨_, ?_, fun _ => ⟨_, rfl, rfl, node.executeAll_opaqueId _⟩, fun h => absurd hadmits h⟩
    have hfits : ∀ message ∈ ServerMessage.welcome node.id.address ::
        (node.executeAll (requestsFrom clock 0 messages.tail)).2.map .response,
        Party.node.Fits message := by
      rw [List.forall_mem_cons, List.forall_mem_map]
      exact ⟨hadmits.2, fun response hresponse => (executeAll_short made _ response hresponse).fits⟩
    simpa [List.flatMap_map] using yields_framed hfits
  · rw [serve_refused yields hadmits]
    exact ⟨_, yields_frame? _, fun h => absurd h hadmits, fun _ => ⟨rfl, rfl⟩⟩

end Node

/-- A client that greets a node, stores a value, greets again with something else, asks for a
partition that is not there, and breaks off within the length of a frame. -/
def visit : Bytes :=
  [ClientMessage.hello "default" "", .request ⟨5, 0, .store .set [107] [118] 0 0 none⟩,
    .hello "other" "", .request ⟨6, 1, .get [107]⟩].flatMap (fun message => framed message.write) ++
      [0, 0, 0]

theorem serves_visit :
    (Store.ofOwned [0]).Made Store.defaultMaxValueLength ∧
    let node : Node := ⟨⟨"n:1"⟩, ⟨"default", ""⟩, .ofOwned [0], true, 0⟩
    ∃ messages fault left, Yields (Party.read .client) visit messages fault left ∧
      ∃ answers, Yields (Party.read .node) (node.serve id visit).2 answers none [] ∧
        (node.Admits messages →
          ∃ responses,
            node.executeAll (requestsFrom id 0 messages.tail) =
              ((node.serve id visit).1, responses) ∧
            answers = .welcome node.id.address :: responses.map .response ∧
            responses.map (·.opaqueId) = (requestsFrom id 0 messages.tail).map (·.2.opaqueId)) ∧
        (¬node.Admits messages →
          (node.serve id visit).1 = node ∧
            answers = (((node.refusal? messages).map fun rejection =>
              ServerMessage.rejected rejection.message).filter fun message =>
                Party.node.Fits message).toList) :=
  have made : (Store.ofOwned [0]).Made Store.defaultMaxValueLength := .ofOwned [0] le_rfl
  ⟨made, Node.serves_greeted made id visit⟩

end ClusterKv
