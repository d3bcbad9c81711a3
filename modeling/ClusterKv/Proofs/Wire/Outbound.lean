import ClusterKv.Proofs.Wire.Frames
import ClusterKv.Wire.Outbound
import Mathlib.Data.List.Induction
import Mathlib.Data.List.TakeWhile

/-! # The sending half of a connection

Requests that have been taken in are written in order, up to the first that no frame can hold: there
the connection ends for all of them. -/

namespace ClusterKv

/-- Is there a frame for a request? -/
abbrev Request.Fits (request : Request) : Prop := Wire.Party.client.Fits (.request request)

/-- The frame of a request. -/
def Request.frame (request : Request) : Bytes := Wire.framed (ClientMessage.request request).write

namespace Outbound

variable {link : Link} {o : Outbound} {sent lost : List Request} {request misfit : Request}
  {depth : Nat} {events later : List Event}

/-! ## Step by step -/

@[simp] theorem run_nil (o : Outbound) : o.run [] = o := rfl

@[simp] theorem run_cons (o : Outbound) (event : Event) (events : List Event) :
    o.run (event :: events) = (o.step event).run events := rfl

@[simp] theorem run_append (o : Outbound) (events later : List Event) :
    o.run (events ++ later) = (o.run events).run later :=
  List.foldl_append

theorem accepted_answer_ok (o : Outbound) (request : Request) :
    (o.answer request (.ok ())).accepted = o.accepted ++ [request] := by
  simp [accepted, answer]

theorem accepted_answer_error (o : Outbound) (request : Request) (error : ConnectionError) :
    (o.answer request (.error error)).accepted = o.accepted := by
  simp [accepted, answer]

/-- The writer is at work: what has been taken in has been written, is in its hands or is in the
queue, in this order, and nothing has happened to the link. -/
structure Working (link : Link) (sent : List Request) (o : Outbound) : Prop where
  fits : ∀ request ∈ sent, request.Fits
  written : o.written = sent.flatMap Request.frame
  accepted : o.accepted = sent ++ o.inHand.toList ++ o.queue
  writing : o.writing = true
  unharmed : o.link = link
  reports : o.reports = []

/-- The writer has met a request that no frame can hold: those before it have been written, it and
those behind it are lost, and the link is shut. -/
structure Broken (link : Link) (sent : List Request) (misfit : Request) (lost : List Request)
    (o : Outbound) : Prop where
  fits : ∀ request ∈ sent, request.Fits
  unfit : ¬misfit.Fits
  written : o.written = sent.flatMap Request.frame
  accepted : o.accepted = sent ++ misfit :: lost
  idle : o.inHand = none ∧ o.queue = []
  writing : o.writing = false
  dead : o.link = { link with live := false }
  reports : o.reports = [.closed link.node link.generation "write failed: frame too large"]

theorem start_working (link : Link) (depth : Nat) : Working link [] (start link depth) :=
  ⟨nofun, rfl, rfl, rfl, rfl, rfl⟩

theorem Working.send (h : Working link sent o) (request : Request) :
    Working link sent (o.send request) := by
  unfold Outbound.send
  split
  · exact ⟨h.fits, h.written, h.accepted, h.writing, h.unharmed, h.reports⟩
  · exact ⟨h.fits, h.written, (accepted_answer_error ..).trans h.accepted, h.writing, h.unharmed,
      h.reports⟩

theorem Working.enqueue (h : Working link sent o) : Working link sent o.enqueue := by
  unfold Outbound.enqueue
  split
  · exact h
  · next request waiting _ =>
      rw [if_neg (by simp [h.writing])]
      split
      · refine ⟨h.fits, h.written, ?_, h.writing, h.unharmed, h.reports⟩
        rw [accepted_answer_ok]
        change o.accepted ++ [request] = sent ++ o.inHand.toList ++ (o.queue ++ [request])
        rw [h.accepted, List.append_assoc (sent ++ _)]
      · exact h

theorem Working.take (h : Working link sent o) : Working link sent o.take := by
  unfold Outbound.take
  split
  · next request queue hnone hqueue =>
      refine ⟨h.fits, h.written, ?_, h.writing, h.unharmed, h.reports⟩
      change o.accepted = sent ++ [request] ++ queue
      rw [h.accepted, hnone, hqueue]
      simp
  · exact h

theorem write_of_fits (hhand : o.inHand = some request) (hfits : request.Fits) :
    o.write = { o with inHand := none, written := o.written ++ request.frame } := by
  have hwrite : Wire.writeFrame o.written (ClientMessage.request request).write =
      (.ok (), o.written ++ request.frame) := (Wire.writeFrame_eq ..).trans (if_pos hfits)
  simp only [Outbound.write, hhand, hwrite]

theorem write_of_unfit (hhand : o.inHand = some request) (hunfit : ¬request.Fits)
    (hlive : o.link.live = true) :
    o.write = { o with
      link := { o.link with live := false }, inHand := none, queue := [], writing := false
      reports := o.reports ++
        [.closed o.link.node o.link.generation "write failed: frame too large"] } := by
  have hwrite : Wire.writeFrame o.written (ClientMessage.request request).write =
      (.error .tooLarge, o.written) := (Wire.writeFrame_eq ..).trans (if_neg hunfit)
  simp only [Outbound.write, hhand, hwrite, Link.shut, hlive]
  rfl

/-- What becomes of the request in the writer's hands depends on its length alone. -/
theorem Working.write (hlive : link.live = true) (h : Working link sent o) :
    (∃ sent, Working link sent o.write) ∨ ∃ sent misfit lost, Broken link sent misfit lost o.write := by
  cases hhand : o.inHand with
  | none =>
      simp only [Outbound.write, hhand]
      exact .inl ⟨sent, h⟩
  | some request =>
      have haccepted : o.accepted = sent ++ request :: o.queue := by simp [h.accepted, hhand]
      by_cases hfits : request.Fits
      · rw [write_of_fits hhand hfits]
        refine .inl ⟨sent ++ [request], ?_, ?_, ?_, h.writing, h.unharmed, h.reports⟩
        · simpa [or_imp, forall_and] using ⟨h.fits, hfits⟩
        · simp [h.written]
        · change o.accepted = sent ++ [request] ++ [] ++ o.queue
          simp [haccepted]
      · rw [write_of_unfit hhand hfits (h.unharmed ▸ hlive), h.unharmed, h.reports]
        exact .inr ⟨sent, request, o.queue, h.fits, hfits, h.written, haccepted, ⟨rfl, rfl⟩, rfl, rfl,
          rfl⟩

/-- Nothing more comes of it. -/
theorem Broken.step (h : Broken link sent misfit lost o) (event : Event) :
    Broken link sent misfit lost (o.step event) := by
  obtain ⟨hhand, hqueue⟩ := h.idle
  cases event with
  | send request =>
      have hdead : ¬o.link.live = true := by simp [h.dead]
      simp only [Outbound.step, Outbound.send, if_neg hdead]
      exact ⟨h.fits, h.unfit, h.written, (accepted_answer_error ..).trans h.accepted, h.idle,
        h.writing, h.dead, h.reports⟩
  | enqueue =>
      simp only [Outbound.step, Outbound.enqueue]
      split
      · exact h
      · rw [if_pos (by simp [h.writing])]
        exact ⟨h.fits, h.unfit, h.written, (accepted_answer_error ..).trans h.accepted, h.idle,
          h.writing, h.dead, h.reports⟩
  | take =>
      simp only [Outbound.step, Outbound.take, hhand, hqueue]
      exact h
  | write =>
      simp only [Outbound.step, Outbound.write, hhand]
      exact h

theorem Broken.run (h : Broken link sent misfit lost o) (events : List Event) :
    Broken link sent misfit lost (o.run events) := by
  induction events generalizing o with
  | nil => exact h
  | cons event events ih => exact ih (h.step event)

theorem working_or_broken (hlive : link.live = true) (depth : Nat) (events : List Event) :
    (∃ sent, Working link sent ((start link depth).run events)) ∨
      ∃ sent misfit lost, Broken link sent misfit lost ((start link depth).run events) := by
  -- only writing breaks what works, and what is broken stays so
  induction events using List.reverseRecOn with
  | nil => exact .inl ⟨[], start_working link depth⟩
  | append_singleton events event ih =>
      rw [run_append]
      obtain ⟨sent, h⟩ | ⟨sent, misfit, lost, h⟩ := ih
      · cases event with
        | send request => exact .inl ⟨sent, h.send request⟩
        | enqueue => exact .inl ⟨sent, h.enqueue⟩
        | take => exact .inl ⟨sent, h.take⟩
        | write => exact h.write hlive
      · exact .inr ⟨sent, misfit, lost, h.run [event]⟩

/-! ## The writer goes on -/

/-- What the writer does to take and write so many requests, after the one in its hands. -/
def rounds : Nat → List Event
  | 0 => [.write]
  | count + 1 => .write :: .take :: rounds count

/-- The writer has nothing to do. -/
def Idle (o : Outbound) : Prop := o.inHand = none ∧ o.queue = []

theorem write_inHand (o : Outbound) : o.write.inHand = none := by
  unfold Outbound.write
  split
  · assumption
  split <;> rfl

theorem length_queue_write (o : Outbound) : o.write.queue.length ≤ o.queue.length := by
  unfold Outbound.write
  split
  · exact le_rfl
  split
  · exact le_rfl
  · exact Nat.zero_le _

/-- By itself the writer comes to the end of the queue. -/
theorem run_rounds_idle : ∀ (count : Nat) (o : Outbound), o.queue.length ≤ count →
    (o.run (rounds count)).Idle
  | 0, o, h => by
      have hqueue := Nat.le_zero.mp ((length_queue_write o).trans h)
      exact ⟨write_inHand o, List.length_eq_zero_iff.mp hqueue⟩
  | count + 1, o, h => by
      refine run_rounds_idle count o.write.take ?_
      have hqueue := (length_queue_write o).trans h
      unfold Outbound.take
      split
      · next heq =>
          rw [heq] at hqueue
          simpa using hqueue
      · next hrest =>
          have hnil : o.write.queue = [] := by
            cases hqueue : o.write.queue with
            | nil => rfl
            | cons request queue => exact absurd hqueue (hrest request queue (write_inHand o))
          simp [hnil]

theorem accepted_take (o : Outbound) : o.take.accepted = o.accepted := by
  unfold Outbound.take
  split <;> rfl

theorem accepted_write (o : Outbound) : o.write.accepted = o.accepted := by
  unfold Outbound.write
  split
  · rfl
  split <;> rfl

theorem accepted_rounds : ∀ (count : Nat) (o : Outbound),
    (o.run (rounds count)).accepted = o.accepted
  | 0, o => accepted_write o
  | count + 1, o =>
      (accepted_rounds count o.write.take).trans ((accepted_take _).trans (accepted_write o))

/-! ## What is written in the end -/

/-- What comes of the requests that a connection has taken in. -/
structure WritesToMisfit (link : Link) (o : Outbound) : Prop where
  /-- At any time those that have been written are the first ones, and all others are there still
  or lost behind one that no frame can hold. -/
  now : (∃ sent, Working link sent o) ∨ ∃ sent misfit lost, Broken link sent misfit lost o
  /-- The writer comes to the end of the queue by itself, -/
  idle : (o.run (rounds o.queue.length)).Idle
  /-- and has written everything up to the first that no frame can hold. -/
  written : (o.run (rounds o.queue.length)).written =
    (o.accepted.takeWhile fun request => request.Fits).flatMap Request.frame
  /-- The connection has ended if and only if there is one. -/
  link : (o.run (rounds o.queue.length)).link.live = true ↔ ∀ request ∈ o.accepted, request.Fits

theorem takeWhile_of_fits (h : ∀ request ∈ sent, request.Fits) :
    (sent.takeWhile fun request => request.Fits) = sent :=
  List.takeWhile_eq_self_iff.mpr fun request hrequest => decide_eq_true (h request hrequest)

theorem takeWhile_of_unfit (h : ∀ request ∈ sent, request.Fits) (hunfit : ¬misfit.Fits) :
    ((sent ++ misfit :: lost).takeWhile fun request => request.Fits) = sent := by
  rw [List.takeWhile_append_of_pos fun request hrequest => decide_eq_true (h request hrequest),
    List.takeWhile_cons_of_neg (by simpa using hunfit), List.append_nil]

theorem Working.accepted_of_idle (h : Working link sent o) (hidle : o.Idle) : o.accepted = sent := by
  rw [h.accepted, hidle.1, hidle.2]
  simp

/-- A connection whose socket does not fail writes the requests that it has taken in one after
another, all of them if there is a frame for each; the first for which there is none ends it, for
those behind as well. -/
theorem writes_to_misfit (link : Link) (hlive : link.live = true) (depth : Nat)
    (events : List Event) : WritesToMisfit link ((start link depth).run events) := by
  generalize ho : (start link depth).run events = o
  have hidle := run_rounds_idle o.queue.length o le_rfl
  have haccepted := accepted_rounds o.queue.length o
  have hdone := working_or_broken hlive depth (events ++ rounds o.queue.length)
  rw [run_append, ho] at hdone
  refine ⟨ho ▸ working_or_broken hlive depth events, hidle, ?_, ?_⟩
  · obtain ⟨sent, h⟩ | ⟨sent, misfit, lost, h⟩ := hdone
    · rw [h.written, ← haccepted, h.accepted_of_idle hidle, takeWhile_of_fits h.fits]
    · rw [h.written, ← haccepted, h.accepted, takeWhile_of_unfit h.fits h.unfit]
  · obtain ⟨sent, h⟩ | ⟨sent, misfit, lost, h⟩ := hdone
    · rw [h.unharmed, ← haccepted, h.accepted_of_idle hidle]
      exact iff_of_true hlive h.fits
    · rw [h.dead, ← haccepted, h.accepted]
      refine iff_of_false Bool.false_ne_true fun hfits => h.unfit (hfits misfit ?_)
      exact List.mem_append_right _ List.mem_cons_self

/-! ## One that no frame can hold -/

/-- Two requests are taken in, and the writer comes to the first. -/
def jam (first second : Request) : List Event :=
  [.send first, .enqueue, .send second, .enqueue, .take, .write]

/-- If no frame can hold the first, nothing is written, whatever the second is. -/
theorem run_jam (hlive : link.live = true) (hunfit : ¬misfit.Fits) (request : Request) :
    (start link 2).run (jam misfit request) =
      { start link 2 with
        link := { link with live := false }, writing := false
        reports := [.closed link.node link.generation "write failed: frame too large"]
        answers := [(misfit, .ok ()), (request, .ok ())] } := by
  have hqueued : (start link 2).run [.send misfit, .enqueue, .send request, .enqueue, .take] =
      { start link 2 with
        inHand := some misfit, queue := [request]
        answers := [(misfit, .ok ()), (request, .ok ())] } := by
    simp [step, Outbound.send, Outbound.enqueue, Outbound.take, answer, start, hlive]
  calc (start link 2).run (jam misfit request)
      = ((start link 2).run [.send misfit, .enqueue, .send request, .enqueue, .take]).write := rfl
    _ = _ := by
      rw [hqueued, write_of_unfit rfl hunfit hlive]
      rfl

/-- There is no frame for a value that is as long as a frame may be. -/
theorem unfit_of_length {opaqueId : UInt64} {partition : UInt16} {key value : Bytes}
    (h : Wire.maxFrameLength ≤ value.length) :
    ¬Request.Fits ⟨opaqueId, partition, .store .set key value 0 0 none⟩ := by
  simp only [Request.Fits, Wire.Party.Fits, Wire.Party.write, ClientMessage.write, Wire.writeChoice,
    Wire.writeRequest, Wire.writeOperation, Wire.writeBytes, List.length_append,
    Wire.length_littleEndian]
  omega

/-- A request with such a value, -/
def oversized : Request :=
  ⟨1, 0, .store .set [] (List.replicate Wire.maxFrameLength 0) 0 0 none⟩

theorem oversized_unfit : ¬oversized.Fits :=
  unfit_of_length (Nat.le_of_eq List.length_replicate.symm)

/-- a small one behind it, -/
def behind : Request := ⟨2, 0, .get [1]⟩

/-- and the link that both are sent over. -/
def live : Link := ⟨⟨"a:1"⟩, 1, true⟩

theorem jam_writes :
    live.live = true ∧ WritesToMisfit live ((start live 2).run (jam oversized behind)) :=
  ⟨rfl, writes_to_misfit live rfl 2 (jam oversized behind)⟩

/-- A request that no frame can hold takes the connection from those behind it. -/
theorem small_request_lost :
    ¬∀ (link : Link) (depth : Nat) (events : List Event), link.live = true →
      ((start link depth).run events).Idle →
      ((start link depth).run events).written =
          (((start link depth).run events).accepted.filter fun request => request.Fits).flatMap
            Request.frame ∧
        ((start link depth).run events).link.live = true := by
  intro h
  have hjam := h live 2 (jam oversized behind) rfl
  rw [run_jam rfl oversized_unfit] at hjam
  cases (hjam ⟨rfl, rfl⟩).2

end Outbound

end ClusterKv
