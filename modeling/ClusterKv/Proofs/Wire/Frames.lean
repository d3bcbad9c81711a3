import ClusterKv.Proofs.Wire.Messages
import ClusterKv.Wire.Frame
import Mathlib.Data.List.Forall2

/-! # Streams of frames

What is written as frames is read back in the same order, what is read is what somebody could have
written, and a stream that ends inside a frame shows it, if only it ends after the length of the
frame. -/

namespace ClusterKv.Wire

/-! ## One frame -/

/-- The number that octets spell, the greatest first. -/
def ofBigEndian (octets : Bytes) : Nat := octets.foldl (fun n octet => 256 * n + octet.toNat) 0

theorem ofBigEndian_reverse (octets : Bytes) : ofBigEndian octets.reverse = ofLittleEndian octets := by
  induction octets with
  | nil => rfl
  | cons octet rest ih =>
      rw [ofBigEndian] at ih ⊢
      rw [List.reverse_cons, List.foldl_append, ih, ofLittleEndian, Nat.add_comm]
      rfl

theorem ofBigEndian_four (a b c d : UInt8) :
    ofBigEndian [a, b, c, d] = ofLittleEndian [d, c, b, a] :=
  ofBigEndian_reverse [d, c, b, a]

theorem length_framed (payload : Bytes) : (framed payload).length = 4 + payload.length := by
  simp [framed]

/-- A frame begins with the length of what it holds. -/
theorem header_framed {payload : Bytes} (h : payload.length ≤ maxFrameLength) :
    ofBigEndian (littleEndian 4 payload.length).reverse = payload.length := by
  rw [ofBigEndian_reverse, ofLittleEndian_littleEndian]
  exact Nat.mod_eq_of_lt (Nat.lt_of_le_of_lt h (by decide))

/-- Four octets head every payload that is as long as they say. -/
theorem framed_of_header {header payload : Bytes} (hheader : header.length = 4)
    (h : payload.length = ofBigEndian header) : framed payload = header ++ payload := by
  have hoctets := littleEndian_ofLittleEndian header.reverse
  rw [← ofBigEndian_reverse, List.reverse_reverse, List.length_reverse, hheader] at hoctets
  rw [framed, h, hoctets, List.reverse_reverse]

/-- The rules by which one frame is read: a stream that has not even its length ends cleanly, and of
a whole frame nothing but what it holds matters. -/
inductive Reads {α : Type} (read : Decoder α) : Bytes → FrameRead α → Prop where
  | ended {bytes} (h : bytes.length < 4) : Reads read bytes .ended
  | tooLong {header rest} (hheader : header.length = 4) (h : maxFrameLength < ofBigEndian header) :
      Reads read (header ++ rest) (.failed (.tooLong (ofBigEndian header)) rest)
  | cutShort {header rest} (hheader : header.length = 4)
      (hfits : ofBigEndian header ≤ maxFrameLength) (h : rest.length < ofBigEndian header) :
      Reads read (header ++ rest) (.failed .cutShort [])
  | malformed {payload rest fault} (hfits : payload.length ≤ maxFrameLength)
      (h : read payload = .error fault) :
      Reads read (framed payload ++ rest) (.failed (.malformed fault) rest)
  | message {payload rest message extra} (hfits : payload.length ≤ maxFrameLength)
      (h : read payload = .ok (message, extra)) :
      Reads read (framed payload ++ rest) (.message message rest)

section

variable {α : Type} {read : Decoder α} {bytes header rest payload : Bytes} {message : α}
  {result : FrameRead α}

theorem readFrame_short (h : bytes.length < 4) : readFrame read bytes = .ended := by
  match bytes, h with
  | [], _ | [_], _ | [_, _], _ | [_, _, _], _ => rfl

theorem readFrame_append (hheader : header.length = 4) :
    readFrame read (header ++ rest) =
      if maxFrameLength < ofBigEndian header then .failed (.tooLong (ofBigEndian header)) rest
      else if rest.length < ofBigEndian header then .failed .cutShort []
      else match read (rest.take (ofBigEndian header)) with
        | .error fault => .failed (.malformed fault) (rest.drop (ofBigEndian header))
        | .ok (message, _) => .message message (rest.drop (ofBigEndian header)) := by
  match header, hheader with
  | [a, b, c, d], _ => rw [ofBigEndian_four]; rfl

theorem readFrame_framed (h : payload.length ≤ maxFrameLength) :
    readFrame read (framed payload ++ rest) =
      match read payload with
      | .error fault => .failed (.malformed fault) rest
      | .ok (message, _) => .message message rest := by
  rw [framed, List.append_assoc, readFrame_append (by simp), header_framed h,
    if_neg (Nat.not_lt.mpr h), if_neg (by simp), List.take_left, List.drop_left]

theorem Reads.readFrame_eq (h : Reads read bytes result) : readFrame read bytes = result := by
  cases h with
  | ended h => exact readFrame_short h
  | tooLong hheader h => rw [readFrame_append hheader, if_pos h]
  | cutShort hheader hfits h =>
      rw [readFrame_append hheader, if_neg (Nat.not_lt.mpr hfits), if_pos h]
  | malformed hfits h => rw [readFrame_framed hfits, h]
  | message hfits h => rw [readFrame_framed hfits, h]

theorem readFrame_reads (read : Decoder α) (bytes : Bytes) :
    Reads read bytes (readFrame read bytes) := by
  -- the cases of the reader, once the four octets of the length are told from the rest
  by_cases hshort : bytes.length < 4
  · rw [readFrame_short hshort]
    exact .ended hshort
  obtain ⟨header, rest, rfl, hheader⟩ : ∃ header rest, bytes = header ++ rest ∧ header.length = 4 :=
    ⟨bytes.take 4, bytes.drop 4, (List.take_append_drop 4 bytes).symm,
      List.length_take_of_le (Nat.le_of_not_lt hshort)⟩
  rw [readFrame_append hheader]
  split
  · next h => exact .tooLong hheader h
  split
  · next hfits h => exact .cutShort hheader (Nat.le_of_not_lt hfits) h
  next hfits hwhole =>
    have hlength := List.length_take_of_le (Nat.le_of_not_lt hwhole)
    have hpayload : (rest.take (ofBigEndian header)).length ≤ maxFrameLength :=
      Nat.le_trans (Nat.le_of_eq hlength) (Nat.le_of_not_lt hfits)
    have hframe : header ++ rest =
        framed (rest.take (ofBigEndian header)) ++ rest.drop (ofBigEndian header) := by
      rw [framed_of_header hheader hlength, List.append_assoc, List.take_append_drop]
    rw [hframe]
    split
    · next h => exact .malformed hpayload h
    · next h => exact .message hpayload h

theorem reads_iff : Reads read bytes result ↔ readFrame read bytes = result :=
  ⟨Reads.readFrame_eq, fun h => h ▸ readFrame_reads read bytes⟩

/-- A stream ends cleanly if there is not even the length of a frame. -/
theorem readFrame_ended_iff : readFrame read bytes = .ended ↔ bytes.length < 4 := by
  refine ⟨fun h => ?_, readFrame_short⟩
  cases reads_iff.mpr h
  assumption

end

/-! ## Frame after frame -/

/-- What comes of reading a stream frame by frame: its messages, the fault that stops it unless it
ends cleanly, and what is left unread. -/
inductive Yields {α : Type} (read : Decoder α) :
    Bytes → List α → Option FrameFault → Bytes → Prop where
  | ended {bytes} (h : readFrame read bytes = .ended) : Yields read bytes [] none []
  | failed {bytes fault rest} (h : readFrame read bytes = .failed fault rest) :
      Yields read bytes [] (some fault) rest
  | message {bytes message rest messages fault left}
      (h : readFrame read bytes = .message message rest)
      (later : Yields read rest messages fault left) :
      Yields read bytes (message :: messages) fault left

section

variable {α : Type} {read : Decoder α} {bytes rest left : Bytes} {message : α} {messages : List α}
  {fault : Option FrameFault}

/-- Each message takes its length and what is behind it. -/
theorem length_of_message (h : readFrame read bytes = .message message rest) :
    4 + rest.length ≤ bytes.length := by
  cases reads_iff.mpr h with
  | message => rw [List.length_append, length_framed]; omega

theorem Yields.length_le (h : Yields read bytes messages fault left) :
    4 * messages.length ≤ bytes.length := by
  induction h with
  | ended | failed => exact Nat.zero_le _
  | message h _ ih =>
      have := length_of_message h
      rw [List.length_cons]
      omega

/-- There is fuel enough for every frame. -/
theorem Yields.loop_eq (h : Yields read bytes messages fault left) :
    ∀ fuel, bytes.length ≤ fuel → readFramesLoop read (fuel + 1) bytes = (messages, fault, left) := by
  induction h with
  | ended h | failed h =>
      intro fuel _
      simp only [readFramesLoop, h]
  | message h _ ih =>
      intro fuel hfuel
      have hshorter := length_of_message h
      obtain ⟨spare, rfl⟩ : ∃ spare, fuel = spare + 1 := ⟨fuel - 1, by omega⟩
      have hlater := ih spare (by omega)
      rw [readFramesLoop]
      simp only [h, hlater]

/-- Every stream comes to its end. -/
theorem yields_of_lt : ∀ (fuel : Nat) (bytes : Bytes), bytes.length < fuel →
    ∃ messages fault left, Yields read bytes messages fault left
  | 0, _, h => nomatch h
  | fuel + 1, bytes, hfuel => by
      cases h : readFrame read bytes with
      | ended => exact ⟨[], none, [], .ended h⟩
      | failed fault rest => exact ⟨[], some fault, rest, .failed h⟩
      | message message rest =>
          have hshorter := length_of_message h
          obtain ⟨messages, fault, left, later⟩ := yields_of_lt fuel rest (by omega)
          exact ⟨_, fault, left, .message h later⟩

theorem yields_iff :
    Yields read bytes messages fault left ↔ readFrames read bytes = (messages, fault, left) := by
  constructor
  · exact fun h => h.loop_eq _ le_rfl
  · intro h
    obtain ⟨_, _, _, yields⟩ : ∃ messages fault left, Yields read bytes messages fault left :=
      yields_of_lt _ bytes (Nat.lt_succ_self _)
    have heq := (yields.loop_eq _ le_rfl).symm.trans h
    cases heq
    exact yields

end

/-! ## What either end reads -/

namespace Party

variable {party : Party}

/-- Is there a frame for a message? -/
abbrev Fits (party : Party) (message : party.Message) : Prop :=
  (party.write message).length ≤ maxFrameLength

/-- A whole frame of a message. There may be more in it. -/
def Frames (party : Party) (message : party.Message) (frame : Bytes) : Prop :=
  ∃ extra, (party.write message ++ extra).length ≤ maxFrameLength ∧
    frame = framed (party.write message ++ extra)

theorem read_write {message : party.Message} {extra : Bytes}
    (h : (party.write message ++ extra).length ≤ maxFrameLength) :
    party.read (party.write message ++ extra) = .ok (message, extra) := by
  refine party.codec.spells message ?_ extra
  rw [List.length_append] at h
  exact Nat.lt_of_le_of_lt (Nat.le_of_add_right_le h) (by decide)

theorem Frames.readFrame {message : party.Message} {frame : Bytes} (h : party.Frames message frame)
    (rest : Bytes) : readFrame party.read (frame ++ rest) = .message message rest := by
  obtain ⟨extra, hfits, rfl⟩ := h
  exact (Reads.message hfits (read_write hfits)).readFrame_eq

/-- Only whole frames are read. -/
theorem frames_of_message {message : party.Message} {bytes rest : Bytes}
    (h : Wire.readFrame party.read bytes = .message message rest) :
    ∃ frame, party.Frames message frame ∧ bytes = frame ++ rest := by
  cases reads_iff.mpr h with
  | @message payload _ _ extra hfits hread =>
      have hpayload : payload = party.write message ++ extra :=
        party.codec.canonical payload message extra hread
      exact ⟨_, ⟨extra, hpayload ▸ hfits, hpayload ▸ rfl⟩, rfl⟩

/-- Whole frames are read one after another, and then what follows them. -/
theorem yields_flatten_iff {messages : List party.Message} {frames : List Bytes}
    (h : List.Forall₂ party.Frames messages frames) {remainder left : Bytes}
    {more : List party.Message} {fault : Option FrameFault} :
    Yields party.read (frames.flatten ++ remainder) (messages ++ more) fault left ↔
      Yields party.read remainder more fault left := by
  induction h with
  | nil => exact Iff.rfl
  | @cons message frame messages frames hframe _ ih =>
      have hread := hframe.readFrame (frames.flatten ++ remainder)
      rw [List.flatten_cons, List.append_assoc, List.cons_append, ← ih]
      constructor
      · intro h
        cases h with
        | message h later =>
            cases hread.symm.trans h
            exact later
      · exact .message hread

end Party

/-! ## Writing and reading -/

theorem writeFrame_eq (written encoding : Bytes) :
    writeFrame written encoding =
      if encoding.length ≤ maxFrameLength then (.ok (), written ++ framed encoding)
      else (.error .tooLarge, written) := by
  unfold writeFrame frame?
  split <;> split at * <;> simp_all

/-- What is written is the frames of all encodings that are not too long. -/
theorem writeFrames_eq (written : Bytes) (encodings : List Bytes) :
    writeFrames written encodings =
      (encodings.map fun encoding =>
        if encoding.length ≤ maxFrameLength then .ok () else .error .tooLarge,
        written ++ ((encodings.filter (·.length ≤ maxFrameLength)).map framed).flatten) := by
  induction encodings generalizing written with
  | nil => simp [writeFrames]
  | cons encoding rest ih =>
      simp only [writeFrames, writeFrame_eq, List.map_cons]
      by_cases h : encoding.length ≤ maxFrameLength
      · simp [h, ih]
      · simp [h, ih]

/-- Frames round-trip as a stream: of all messages that are written, exactly those that fit into a
frame are read, in order, and then the stream ends cleanly. For one that does not fit the writer
says so and writes nothing. -/
theorem frames_round_trip (party : Party) (messages : List party.Message) :
    Yields party.read (writeFrames [] (messages.map party.write)).2
        (messages.filter fun message => party.Fits message) none [] ∧
      (writeFrames [] (messages.map party.write)).1 = messages.map (fun message =>
        if party.Fits message then .ok () else .error .tooLarge) ∧
      ∀ (message : party.Message) (written : Bytes),
        (party.Fits message →
          writeFrame written (party.write message) =
            (.ok (), written ++ framed (party.write message))) ∧
        (¬party.Fits message → ∃ fault, fault.kind = "InvalidInput" ∧
          writeFrame written (party.write message) = (.error fault, written)) := by
  have hframes : List.Forall₂ party.Frames (messages.filter fun message => party.Fits message)
      ((messages.filter fun message => party.Fits message).map (framed ∘ party.write)) := by
    rw [List.forall₂_map_right_iff]
    refine List.forall₂_same.mpr fun message hmessage => ?_
    have hfits : party.Fits message := by simpa using (List.mem_filter.mp hmessage).2
    exact ⟨[], by simpa using hfits, by simp⟩
  refine ⟨?_, ?_, fun message written => ⟨fun h => ?_, fun h => ⟨.tooLarge, rfl, ?_⟩⟩⟩
  · have hend : Yields party.read [] [] none [] := .ended rfl
    simpa [writeFrames_eq, List.filter_map, Function.comp_def] using
      (Party.yields_flatten_iff hframes).mpr hend
  · simp [writeFrames_eq]
  · rw [writeFrame_eq, if_pos h]
  · rw [writeFrame_eq, if_neg h]

/-- Whatever is accepted is canonical: a message that is read is all there is before the rest of
the stream, after a length that is right and not too large; what holds it begins with what is
written for it and for no other message. And every stream comes to its end after finitely many
messages. -/
theorem accepted_canonical (party : Party) (stream : Bytes) :
    (∀ message rest, readFrame party.read stream = .message message rest →
      ∃ header payload extra, stream = header ++ payload ++ rest ∧ header.length = 4 ∧
        payload.length = ofBigEndian header ∧ payload.length ≤ maxFrameLength ∧
        payload = party.write message ++ extra ∧
        ∀ other more, payload = party.write other ++ more → other = message) ∧
    ∃ messages fault left, Yields party.read stream messages fault left ∧
      readFrames party.read stream = (messages, fault, left) ∧
      4 * messages.length ≤ stream.length := by
  constructor
  · intro message rest hread
    obtain ⟨frame, ⟨extra, hfits, rfl⟩, rfl⟩ := Party.frames_of_message hread
    refine ⟨_, _, extra, rfl, by simp, (header_framed hfits).symm, hfits, rfl, ?_⟩
    intro other more hother
    have hread := Party.read_write hfits
    -- what is written for either is read first
    rw [hother] at hread hfits
    cases (Party.read_write hfits).symm.trans hread
    rfl
  · obtain ⟨messages, fault, left, yields⟩ := yields_of_lt _ stream (Nat.lt_succ_self _)
    exact ⟨messages, fault, left, yields, yields_iff.mp yields, yields.length_le⟩

/-- The frame of a request to drop everything, with two octets more in it than the request. -/
def roomy : Bytes :=
  [0, 0, 0, 20, 1, 0, 0, 0, 7, 0, 0, 0, 0, 0, 0, 0, 3, 0, 9, 0, 0, 0, 5, 5]

theorem roomy_canonical :
    readFrame (Party.read .client) (roomy ++ [0, 0, 0]) =
        .message (.request ⟨7, 3, .flushAll⟩) [0, 0, 0] ∧
      ∃ header payload extra, roomy ++ [0, 0, 0] = header ++ payload ++ [0, 0, 0] ∧
        header.length = 4 ∧ payload.length = ofBigEndian header ∧
        payload.length ≤ maxFrameLength ∧
        payload = Party.write .client (.request ⟨7, 3, .flushAll⟩) ++ extra ∧
        ∀ other more, payload = Party.write .client other ++ more →
          other = .request ⟨7, 3, .flushAll⟩ :=
  have hread : readFrame (Party.read .client) (roomy ++ [0, 0, 0]) =
      .message (.request ⟨7, 3, .flushAll⟩) [0, 0, 0] := by rfl
  ⟨hread, (accepted_canonical .client (roomy ++ [0, 0, 0])).1 _ _ hread⟩

/-- Truncation is noticed if it is not in the length of a frame: behind whole frames a stream ends
cleanly if and only if there are less than four octets more, and it is an error if and only if
there are more than that and no whole frame begins there. -/
theorem truncation_noticed {party : Party} {messages : List party.Message} {frames : List Bytes}
    (whole : List.Forall₂ party.Frames messages frames) (remainder : Bytes) :
    (Yields party.read (frames.flatten ++ remainder) messages none [] ↔ remainder.length < 4) ∧
      ((∃ fault left, Yields party.read (frames.flatten ++ remainder) messages (some fault) left) ↔
        4 ≤ remainder.length ∧
          ¬∃ message frame, party.Frames message frame ∧ frame <+: remainder) := by
  have hbehind (fault : Option FrameFault) (left : Bytes) :
      Yields party.read (frames.flatten ++ remainder) messages fault left ↔
        Yields party.read remainder [] fault left := by
    rw [← List.append_nil messages]
    exact Party.yields_flatten_iff whole
  simp only [hbehind]
  refine ⟨⟨?_, ?_⟩, ⟨?_, ?_⟩⟩
  · rintro (h | -)
    exact readFrame_ended_iff.mp h
  · exact fun h => .ended (readFrame_ended_iff.mpr h)
  · rintro ⟨fault, left, yields⟩
    cases yields with
    | failed h =>
        refine ⟨Nat.le_of_not_lt fun hshort => ?_, ?_⟩
        · cases (readFrame_short hshort).symm.trans h
        · rintro ⟨message, frame, hframe, rest, rfl⟩
          cases (hframe.readFrame rest).symm.trans h
  · rintro ⟨hlong, hnone⟩
    cases h : readFrame party.read remainder with
    | ended => exact absurd (readFrame_ended_iff.mp h) (Nat.not_lt.mpr hlong)
    | failed fault left => exact ⟨fault, left, .failed h⟩
    | message message rest =>
        obtain ⟨frame, hframe, rfl⟩ := Party.frames_of_message h
        exact absurd ⟨message, frame, hframe, List.prefix_append frame rest⟩ hnone

/-- The stream ends inside the request behind one that is whole. -/
theorem roomy_then_cut :
    List.Forall₂ (Party.Frames .client) [.request ⟨7, 3, .flushAll⟩] [roomy] ∧
      (Yields (Party.read .client) ([roomy].flatten ++ roomy.take 9)
          [.request ⟨7, 3, .flushAll⟩] none [] ↔ (roomy.take 9).length < 4) ∧
      ((∃ fault left, Yields (Party.read .client) ([roomy].flatten ++ roomy.take 9)
          [.request ⟨7, 3, .flushAll⟩] (some fault) left) ↔
        4 ≤ (roomy.take 9).length ∧
          ¬∃ message frame, Party.Frames .client message frame ∧ frame <+: roomy.take 9) :=
  have whole : List.Forall₂ (Party.Frames .client) [.request ⟨7, 3, .flushAll⟩] [roomy] :=
    .cons ⟨[5, 5], by decide, by decide⟩ .nil
  ⟨whole, truncation_noticed whole (roomy.take 9)⟩

/-- A stream that ends inside the length of a frame is taken for one that has ended cleanly. -/
theorem cut_length_unnoticed :
    ¬∀ (party : Party) (messages : List party.Message) (frames : List Bytes) (remainder : Bytes),
      List.Forall₂ party.Frames messages frames →
        (Yields party.read (frames.flatten ++ remainder) messages none [] ↔ remainder = []) := by
  intro h
  have hempty := (h .client [] [] [0, 0] .nil).mp (.ended rfl)
  cases hempty

end ClusterKv.Wire
