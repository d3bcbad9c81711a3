import ClusterKv.Proofs.Wire.Elements
import ClusterKv.Wire.Codec

/-! # The encoding of messages

Every message of either side is read back from what is written for it, and from nothing else. -/

namespace ClusterKv.Wire

/-! ## Operations -/

theorem codec_storeMode : Codec writeStoreMode readStoreMode :=
  codec_of_all [StoreMode.set, .add, .replace] (fun mode => by cases mode <;> simp) (by decide) rfl

theorem codec_concatMode : Codec writeConcatMode readConcatMode :=
  codec_of_all [ConcatMode.append, .prepend] (fun mode => by cases mode <;> simp) (by decide) rfl

theorem codec_direction : Codec writeDirection readDirection :=
  codec_of_all [CounterDirection.increment, .decrement]
    (fun direction => by cases direction <;> simp) (by decide) rfl

theorem operation_spells (operation : Operation) :
    Spells readOperation (writeOperation operation) operation := by
  have optional64 := (codec_option codec64).spells
  -- fields are read from left to right, so that what is written groups to the right
  cases operation with
  | get key => exact .choice rfl (by decide) (.last (codec_bytes.spells key) rfl)
  | getAndTouch key expiry =>
      simp only [writeOperation, List.append_assoc]
      exact .choice rfl (by decide)
        (.bind (codec_bytes.spells key) (.last (codec32.spells expiry) rfl))
  | getAndLock key lockSeconds =>
      simp only [writeOperation, List.append_assoc]
      exact .choice rfl (by decide)
        (.bind (codec_bytes.spells key) (.last (codec32.spells lockSeconds) rfl))
  | unlock key cas =>
      simp only [writeOperation, List.append_assoc]
      exact .choice rfl (by decide)
        (.bind (codec_bytes.spells key) (.last (codec64.spells cas) rfl))
  | store mode key value flags expiry cas =>
      simp only [writeOperation, List.append_assoc]
      exact .choice rfl (by decide)
        (.bind (codec_storeMode.spells mode) (.bind (codec_bytes.spells key)
          (.bind (codec_bytes.spells value) (.bind (codec32.spells flags)
            (.bind (codec32.spells expiry) (.last (optional64 cas) rfl))))))
  | concat mode key value cas =>
      simp only [writeOperation, List.append_assoc]
      exact .choice rfl (by decide)
        (.bind (codec_concatMode.spells mode) (.bind (codec_bytes.spells key)
          (.bind (codec_bytes.spells value) (.last (optional64 cas) rfl))))
  | counter direction key delta initial expiry =>
      simp only [writeOperation, List.append_assoc]
      exact .choice rfl (by decide)
        (.bind (codec_direction.spells direction) (.bind (codec_bytes.spells key)
          (.bind (codec64.spells delta) (.bind (optional64 initial)
            (.last (codec32.spells expiry) rfl)))))
  | delete key cas =>
      simp only [writeOperation, List.append_assoc]
      exact .choice rfl (by decide)
        (.bind (codec_bytes.spells key) (.last (optional64 cas) rfl))
  | touch key expiry =>
      simp only [writeOperation, List.append_assoc]
      exact .choice rfl (by decide)
        (.bind (codec_bytes.spells key) (.last (codec32.spells expiry) rfl))
  | flushAll => exact .last (readWord_spells (by decide : 9 < 256 ^ 4)) rfl

theorem operation_exact : Exact readOperation [] writeOperation := by
  have bytes := codec_bytes.canonical
  have optional64 := (codec_option codec64).canonical
  refine .choice fun number hnumber => ?_
  match number, hnumber with
  | 0, _ => exact bytes.bind fun _ => .pure rfl
  | 1, _ => exact bytes.bind fun _ => codec32.canonical.bind fun _ => .pure rfl
  | 2, _ => exact bytes.bind fun _ => codec32.canonical.bind fun _ => .pure rfl
  | 3, _ => exact bytes.bind fun _ => codec64.canonical.bind fun _ => .pure rfl
  | 4, _ =>
      exact codec_storeMode.canonical.bind fun _ => bytes.bind fun _ => bytes.bind fun _ =>
        codec32.canonical.bind fun _ => codec32.canonical.bind fun _ => optional64.bind fun _ =>
          .pure rfl
  | 5, _ =>
      exact codec_concatMode.canonical.bind fun _ => bytes.bind fun _ => bytes.bind fun _ =>
        optional64.bind fun _ => .pure rfl
  | 6, _ =>
      exact codec_direction.canonical.bind fun _ => bytes.bind fun _ =>
        codec64.canonical.bind fun _ => optional64.bind fun _ => codec32.canonical.bind fun _ =>
          .pure rfl
  | 7, _ => exact bytes.bind fun _ => optional64.bind fun _ => .pure rfl
  | 8, _ => exact bytes.bind fun _ => codec32.canonical.bind fun _ => .pure rfl
  | 9, _ => exact .pure rfl

theorem codec_operation : Codec writeOperation readOperation := ⟨operation_spells, operation_exact⟩

/-! ## Requests and responses -/

theorem codec_status : Codec writeStatus readStatus :=
  codec_of_all Status.all (fun status => by cases status <;> decide) (by decide) rfl

theorem codec_request : Codec writeRequest readRequest where
  spells request := by
    simp only [writeRequest, List.append_assoc]
    exact .bind (codec64.spells request.opaqueId) (.bind (codec16.spells request.partition)
      (.last (codec_operation.spells request.operation) rfl))
  canonical :=
    codec64.canonical.bind fun _ => codec16.canonical.bind fun _ =>
      codec_operation.canonical.bind fun _ => .pure rfl

theorem codec_response : Codec writeResponse readResponse where
  spells response := by
    simp only [writeResponse, List.append_assoc]
    exact .bind (codec64.spells response.opaqueId) (.bind (codec_status.spells response.status)
      (.bind (codec64.spells response.cas) (.bind (codec32.spells response.flags)
        (.bind ((codec_option codec_bytes).spells response.value)
          (.last ((codec_option codec64).spells response.counter) rfl)))))
  canonical :=
    codec64.canonical.bind fun _ => codec_status.canonical.bind fun _ =>
      codec64.canonical.bind fun _ => codec32.canonical.bind fun _ =>
        (codec_option codec_bytes).canonical.bind fun _ =>
          (codec_option codec64).canonical.bind fun _ => .pure rfl

/-! ## Messages -/

theorem codec_clientMessage : Codec ClientMessage.write ClientMessage.read where
  spells
    | .hello bucket password => by
        simp only [ClientMessage.write, List.append_assoc]
        exact .choice rfl (by decide)
          (.bind (codec_text.spells bucket) (.last (codec_text.spells password) rfl))
    | .request request => .choice rfl (by decide) (.last (codec_request.spells request) rfl)
  canonical := by
    refine .choice fun number hnumber => ?_
    match number, hnumber with
    | 0, _ => exact codec_text.canonical.bind fun _ => codec_text.canonical.bind fun _ => .pure rfl
    | 1, _ => exact codec_request.canonical.bind fun _ => .pure rfl

theorem codec_serverMessage : Codec ServerMessage.write ServerMessage.read where
  spells
    | .welcome node => .choice rfl (by decide) (.last (codec_text.spells node) rfl)
    | .rejected reason => .choice rfl (by decide) (.last (codec_text.spells reason) rfl)
    | .response response => .choice rfl (by decide) (.last (codec_response.spells response) rfl)
  canonical := by
    refine .choice fun number hnumber => ?_
    match number, hnumber with
    | 0, _ => exact codec_text.canonical.bind fun _ => .pure rfl
    | 1, _ => exact codec_text.canonical.bind fun _ => .pure rfl
    | 2, _ => exact codec_response.canonical.bind fun _ => .pure rfl

/-- The two ends of a connection. -/
inductive Party where
  | client
  | node
deriving DecidableEq, Repr

namespace Party

/-- What an end sends. -/
abbrev Message : Party → Type
  | client => ClientMessage
  | node => ServerMessage

def write : (party : Party) → party.Message → Bytes
  | client => ClientMessage.write
  | node => ServerMessage.write

def read : (party : Party) → Decoder party.Message
  | client => ClientMessage.read
  | node => ServerMessage.read

theorem codec : ∀ party : Party, Codec party.write party.read
  | client => codec_clientMessage
  | node => codec_serverMessage

end Party

end ClusterKv.Wire
