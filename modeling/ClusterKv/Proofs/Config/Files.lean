import ClusterKv.Config.Document

/-! # Configurations in files

In a file a length of time is a number of milliseconds in 64 bits. That leaves no room for a pause
whose end the clock could not show. -/

namespace ClusterKv

/-! ## What readers give -/

namespace Json

/-- A reader gives nothing but values of a kind. -/
def Gives {α : Type} (read : Reader α) (Q : α → Prop) : Prop :=
  ∀ fuel text value rest, read fuel text = .ok (value, rest) → Q value

variable {α P : Type} {Q : α → Prop} {I : P → Prop} {fields : List (Field P)} {record : P}

theorem Gives.mono {read : Reader α} {Q' : α → Prop} (h : Gives read Q)
    (hkind : ∀ value, Q value → Q' value) : Gives read Q' := fun fuel text value rest hread =>
  hkind value (h fuel text value rest hread)

theorem ok_of_map {ε β : Type} {x : Except ε α} {f : α → β} {b : β} (h : x.map f = .ok b) :
    ∃ a, x = .ok a ∧ f a = b := by
  cases x with
  | error => cases h
  | ok a => exact ⟨a, rfl, Except.ok.inj h⟩

theorem natural_gives (most : Nat) : Gives (natural most) (· ≤ most) := by
  intro fuel text value rest h
  unfold natural at h
  split at h
  · split at h
    · next hmost =>
      cases h
      exact hmost
    · cases h
  · cases h
  · cases h

theorem optional_gives {read : Reader α} (hread : Gives read Q) :
    Gives (optional read) fun value? => ∀ value ∈ value?, Q value := by
  intro fuel text value? rest h
  unfold optional at h
  split at h
  · obtain ⟨_, -, hsame⟩ := ok_of_map h
    cases hsame
    simp
  · obtain ⟨⟨value, left⟩, hvalue, hsame⟩ := ok_of_map h
    obtain ⟨rfl, rfl⟩ := Prod.mk.inj hsame
    simpa using hread fuel _ value left hvalue

/-- What the readers of the fields keep of a record, a list of them keeps. -/
theorem fieldElements_gives
    (hfields : ∀ field ∈ fields, ∀ record, I record → Gives (field.read record) I) (first : Bool)
    (hrecord : I record) : Gives (fieldElements first fields record) I := by
  intro fuel text final rest h
  induction fields generalizing first record text with
  | nil =>
      obtain ⟨_, -, hsame⟩ := ok_of_map h
      cases hsame
      exact hrecord
  | cons field more ih =>
      obtain ⟨hfield, hmore⟩ := List.forall_mem_cons.mp hfields
      unfold fieldElements at h
      split at h
      · cases h
      · obtain ⟨_, -, hsame⟩ := ok_of_map h
        cases hsame
        exact hrecord
      split at h
      · cases h
      · next filled left hfilled =>
        exact ih hmore false (hfield record hrecord fuel _ filled left hfilled) _ h

/-- So do the members of an object. -/
theorem members_gives
    (hfields : ∀ field ∈ fields, ∀ record, I record → Gives (field.read record) I) (first : Bool)
    (hrecord : I record) : Gives (members fields first record) I := by
  intro fuel text final rest h
  induction fuel generalizing first record text with
  | zero => cases h
  | succ fuel ih =>
      unfold members at h
      split at h
      · cases h
      · cases h
        exact hrecord
      split at h
      · cases h
      split at h
      · next field hfield =>
        split at h
        · cases h
        split at h
        · cases h
        split at h
        · cases h
        · next filled left hfilled =>
          have hkept := hfields field (List.mem_of_find?_eq_some hfield) record hrecord
          exact ih false (hkept fuel _ filled left hfilled) _ h
      · split at h
        · cases h
        split at h
        · cases h
        · exact ih false hrecord _ h

/-- A record that is read is finished from one that has kept it. -/
theorem record_gives {finish : P → Option α} (hstart : I record)
    (hfields : ∀ field ∈ fields, ∀ record, I record → Gives (field.read record) I)
    (hfinish : ∀ record value, I record → finish record = some value → Q value) :
    Gives (Json.record fields record finish) Q := by
  intro fuel text value rest h
  unfold Json.record at h
  dsimp only at h
  split at h
  · cases h
  · next gathered left hgathered =>
    have hkept : I gathered := by
      split at hgathered
      · exact members_gives hfields true hstart fuel _ gathered left hgathered
      · exact fieldElements_gives hfields true hstart fuel _ gathered left hgathered
      · cases hgathered
    split at h
    · next hfinal =>
      cases h
      exact hfinish gathered _ hkept hfinal
    · cases h

theorem parse_gives {read : Reader α} (hread : Gives read Q) {text : String} {value : α}
    (h : parse read text = .ok value) : Q value := by
  unfold parse at h
  dsimp only at h
  split at h
  · cases h
  · next found rest hfound =>
    split at h
    · cases h
      exact hread _ _ _ _ hfound
    · cases h

end Json

namespace Config

/-! ## Lengths of time -/

/-- The most milliseconds that a file can name. -/
def mostMillis : Duration := .ofMillis (UInt64.size - 1)

/-- All lengths of time of a configuration. -/
def durations (config : Config) : List Duration :=
  config.pollInterval.toList ++
    [config.operationTimeout, config.connectTimeout, config.backoffBase, config.backoffMax,
      config.fetchBackoff]

/-- A file can name each length of time. -/
def Named (config : Config) : Prop := ∀ d ∈ config.durations, d.nanos ≤ mostMillis.nanos

theorem readMillis_gives : Json.Gives readMillis (·.nanos ≤ mostMillis.nanos) := by
  intro fuel text d rest h
  obtain ⟨⟨n, left⟩, hn, hsame⟩ := Json.ok_of_map h
  obtain ⟨rfl, rfl⟩ := Prod.mk.inj hsame
  have hmost := Json.natural_gives _ fuel text n left hn
  simp only [mostMillis, Duration.ofMillis, Duration.nanos_ofNanos, Duration.perMilli] at hmost ⊢
  omega

/-- What a field adds to the lengths of time is what has been read for it. -/
theorem field_named {α : Type} {name : String} {read : Json.Reader α}
    {fill : Config → α → Config} (given : α → List Duration)
    (hread : Json.Gives read fun value => ∀ d ∈ given value, d.nanos ≤ mostMillis.nanos)
    (hfill : ∀ config value, (fill config value).durations ⊆ given value ++ config.durations)
    (draft : Draft) (hdraft : draft.config.Named) :
    Json.Gives ((field name read fill).read draft) (·.config.Named) := by
  intro fuel text filled rest h
  obtain ⟨⟨value, left⟩, hvalue, hsame⟩ := Json.ok_of_map h
  obtain ⟨rfl, rfl⟩ := Prod.mk.inj hsame
  intro d hd
  rcases List.mem_append.mp (hfill _ _ hd) with hnew | hold
  · exact hread fuel text value left hvalue d hnew
  · exact hdraft d hold

theorem field_beside {α : Type} {name : String} {read : Json.Reader α}
    {fill : Config → α → Config}
    (hfill : ∀ config value, (fill config value).durations = config.durations) (draft : Draft)
    (hdraft : draft.config.Named) :
    Json.Gives ((field name read fill).read draft) (·.config.Named) := by
  refine field_named (fun _ => []) (fun _ _ _ _ _ => by simp) (fun config value => ?_) draft hdraft
  rw [hfill]
  exact List.Subset.refl _

theorem field_millis {name : String} {fill : Config → Duration → Config}
    (hfill : ∀ config value, (fill config value).durations ⊆ value :: config.durations) :
    ∀ draft : Draft, draft.config.Named →
      Json.Gives ((field name readMillis fill).read draft) (·.config.Named) :=
  field_named (fun d => [d]) (readMillis_gives.mono fun _ hd => by simpa using hd) hfill

theorem fields_named : ∀ field ∈ fields, ∀ draft : Draft, draft.config.Named →
    Json.Gives (field.read draft) (·.config.Named) := by
  have hpoll : Json.Gives (Json.optional readMillis) fun value =>
      ∀ d ∈ value.toList, d.nanos ≤ mostMillis.nanos :=
    (Json.optional_gives readMillis_gives).mono fun _ hd => by simpa using hd
  simp only [fields, List.forall_mem_cons]
  refine ⟨field_beside fun _ _ => rfl, field_beside fun _ _ => rfl, field_beside fun _ _ => rfl,
    field_millis ?_, field_millis ?_, field_beside fun _ _ => rfl, field_beside fun _ _ => rfl,
    field_millis ?_, field_millis ?_, field_named Option.toList hpoll ?_,
    field_beside fun _ _ => rfl, field_millis ?_, field_beside fun _ _ => rfl,
    field_beside fun _ _ => rfl, field_beside fun _ _ => rfl, field_beside fun _ _ => rfl, by simp⟩
  all_goals
    intro config value d hd
    simp only [durations, List.mem_append, List.mem_cons] at hd ⊢
    grind

theorem validate_eq {config valid : Config} (h : validate config = .ok valid) :
    valid = config ∧ config.fault? = none := by
  unfold validate at h
  split at h
  · cases h
  · next hfault => exact ⟨(Except.ok.inj h).symm, hfault⟩

/-- A configuration that has been read breaks no rule, and the file names its lengths of time. -/
theorem ofFile_named {path : String} {content : Option Bytes} {config : Config}
    (h : ofFile path content = .ok config) : config.fault? = none ∧ config.Named := by
  unfold ofFile at h
  split at h
  · cases h
  split at h
  · cases h
  split at h
  · cases h
  · next found hfound =>
    obtain ⟨rfl, hfault⟩ := validate_eq h
    have hread : Json.Gives read Named := by
      refine Json.record_gives (I := fun draft => draft.config.Named) ?_ fields_named ?_
      · unfold Named
        decide
      · rintro draft _ hdraft ⟨⟩
        exact hdraft
    exact ⟨hfault, Json.parse_gives hread hfound⟩

/-- Before half its time is over the clock shows the end of whatever pause a file can ask for. -/
theorem Named.lasts {config : Config} (h : config.Named) {now : Instant}
    (early : now < Instant.limit / 2) (attempt : Nat) :
    now + (config.backoff attempt).nanos < Instant.limit := by
  have hlongest : config.backoffMax.nanos ≤ mostMillis.nanos := h _ (by simp [durations])
  have hpause : (config.backoff attempt).nanos ≤ config.backoffMax.nanos := by
    rw [backoff, Duration.nanos_shorter]
    exact Nat.min_le_right _ _
  have hbound : mostMillis.nanos ≤ Instant.limit / 2 := by decide
  have hhalf : (config.backoff attempt).nanos ≤ Instant.limit / 2 :=
    Nat.le_trans hpause (Nat.le_trans hlongest hbound)
  calc now + (config.backoff attempt).nanos
      < Instant.limit / 2 + Instant.limit / 2 :=
        Nat.add_lt_add_of_lt_of_le early hhalf
    _ = Instant.limit := by decide

end Config

end ClusterKv
