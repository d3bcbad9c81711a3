import ClusterKv.Json.Reader
import ClusterKv.Proofs.Json.Numbers
import ClusterKv.Proofs.Json.Texts

/-! # Values in JSON

What is written for a value is read back from whatever text it stands in: numbers and strings, and
then lists, optional values and records of what is read back itself. -/

namespace ClusterKv.Json

/-- A character that begins a value. It tells the value from the end of a list and from `null`. -/
structure Begins (c : Char) : Prop where
  solid : isBlank c = false
  notEnd : c ≠ ']'
  notNull : c ≠ 'n'

/-- A text spells a value: a reader with fuel for each of its characters takes it off, whatever may
follow a value there. -/
structure Spells {α : Type} (read : Reader α) (text : String) (a : α) : Prop where
  begins : ∃ c more, text.toList = c :: more ∧ Begins c
  reads : ∀ fuel rest, text.toList.length ≤ fuel → Closed rest →
    read fuel (text.toList ++ rest) = .ok (a, rest)

section

variable {α P : Type} {read : Reader α} {text : String} {a : α} {rest : List Char} {fuel : Nat}

theorem skipBlank_cons {c : Char} (h : isBlank c = false) (rest : List Char) :
    skipBlank (c :: rest) = c :: rest := by
  simp [skipBlank, h]

theorem begins_of_digit {c : Char} (h : (digit? c).isSome = true) : Begins c := by
  unfold digit? at h
  split at h
  · next hrange =>
    refine ⟨?_, ?_, ?_⟩
    · have low : ∀ b ∈ [' ', '\n', '\t', '\r'], ¬ '0' ≤ b := by simp [Char.le_def]
      have hne : ∀ b ∈ [' ', '\n', '\t', '\r'], c ≠ b := fun b hb heq => low b hb (heq ▸ hrange.1)
      simpa [isBlank, and_assoc] using hne
    · rintro rfl
      exact absurd hrange.2 (by decide)
    · rintro rfl
      exact absurd hrange.2 (by decide)
  · cases h

/-- A text in which a value is spelt is all that there is. -/
theorem Spells.parse (h : Spells read text a) : parse read text = .ok a := by
  have hread := h.reads (text.toList.length + 1) [] (Nat.le_succ _) closed_nil
  rw [List.append_nil] at hread
  simp [Json.parse, hread, skipBlank]

/-! ## Numbers and strings -/

theorem toList_toString_nat (n : Nat) : (toString n).toList = Nat.toDigits 10 n := by
  rw [Nat.toString_eq_ofList_toDigits, String.toList_ofList]

theorem number_natural {n : Nat} (hmost : n ≤ Number.maxSignificand) (h : Closed rest) :
    number fuel ((toString n).toList ++ rest) = .ok (.natural n, rest) := by
  have hread := Number.unsigned_toDigits true hmost h
  obtain ⟨c, more, hdigits, hdigit⟩ := Number.toDigits_eq_cons n
  have hsign : c ≠ '-' := by
    rintro rfl
    cases hdigit
  rw [toList_toString_nat]
  rw [hdigits, List.cons_append] at hread ⊢
  rw [number, skipBlank_cons (begins_of_digit hdigit).solid]
  split
  · next heq => exact absurd (List.cons.inj heq).1 hsign
  · next heq =>
      cases heq
      rw [if_pos hdigit, hread]
      rfl
  · next heq => cases heq

theorem number_negative {n : Nat} (hpos : 0 < n) (hmost : n ≤ 1 <<< 63) (h : Closed rest) :
    number fuel ('-' :: (toString n).toList ++ rest) = .ok (.negative n, rest) := by
  have hsignificand : n ≤ Number.maxSignificand := Nat.le_trans hmost (by decide)
  rw [toList_toString_nat, List.cons_append]
  refine (Number.unsigned_toDigits false hsignificand h).trans ?_
  rw [Number.signed, if_neg Bool.false_ne_true, if_pos ⟨hpos, hmost⟩]

theorem begins_nat (n : Nat) : ∃ c more, (toString n).toList = c :: more ∧ Begins c := by
  obtain ⟨c, more, hdigits, hdigit⟩ := Number.toDigits_eq_cons n
  exact ⟨c, more, (toList_toString_nat n).trans hdigits, begins_of_digit hdigit⟩

theorem spells_natural {n most : Nat} (h : n ≤ most) (hmost : n ≤ Number.maxSignificand) :
    Spells (natural most) (toString n) n where
  begins := begins_nat n
  reads fuel rest _ hrest := by
    rw [natural, number_natural hmost hrest]
    exact if_pos h

theorem spells_integer {i least most : Int} (hleast : least ≤ i) (hmost : i ≤ most)
    (hlow : -0x8000000000000000 ≤ i) (hhigh : i ≤ 0xFFFFFFFFFFFFFFFF) :
    Spells (integer least most) (toString i) i := by
  cases i with
  | ofNat n =>
      refine ⟨begins_nat n, fun fuel rest _ hrest => ?_⟩
      have hsignificand : n ≤ Number.maxSignificand := Int.ofNat_le.mp hhigh
      change integer least most fuel ((toString n).toList ++ rest) = _
      rw [integer, number_natural hsignificand hrest]
      exact if_pos hmost
  | negSucc n =>
      have htext : (toString (Int.negSucc n)).toList = '-' :: (toString (n + 1)).toList := by
        change ("-" ++ (n + 1).repr).toList = _
        rw [String.toList_append]
        rfl
      refine ⟨⟨'-', _, htext, by decide, by decide, by decide⟩, fun fuel rest _ hrest => ?_⟩
      have hbound : n + 1 ≤ 1 <<< 63 := by
        have : (1 <<< 63 : Nat) = 0x8000000000000000 := by decide
        omega
      rw [htext, integer, number_negative n.succ_pos hbound hrest]
      exact if_pos hleast

theorem spells_string (s : String) : Spells string (writeString s) s where
  begins := ⟨'"', _, by rw [toList_writeString, List.cons_append], by decide, by decide, by decide⟩
  reads fuel rest hfuel _ := by
    obtain ⟨body, htext, hread⟩ := textLoop_string s rest fuel (Nat.le_succ_of_le hfuel)
    rw [htext]
    exact hread

/-! ## Optional values -/

theorem Spells.optional (h : Spells read text a) : Spells (optional read) text (some a) where
  begins := h.begins
  reads fuel rest hfuel hrest := by
    have hread := h.reads fuel rest hfuel hrest
    obtain ⟨c, more, htext, hbegins⟩ := h.begins
    rw [htext, List.cons_append] at hread ⊢
    rw [Json.optional, skipBlank_cons hbegins.solid]
    split
    · next heq => exact absurd (List.cons.inj heq).1 hbegins.notNull
    · rw [hread]
      rfl

/-! ## Lists -/

/-- Behind the first of several values each other has a comma before it. -/
def further (texts : List String) : List Char := texts.flatMap fun text => ',' :: text.toList

theorem further_cons (text : String) (texts : List String) (rest : List Char) :
    further (text :: texts) ++ rest = ',' :: (text.toList ++ (further texts ++ rest)) := by
  simp [further]

theorem length_further_cons (text : String) (texts : List String) :
    (further (text :: texts)).length = 1 + text.toList.length + (further texts).length := by
  simp only [further, List.flatMap_cons, List.length_append, List.length_cons]
  omega

theorem toList_intercalate_cons (first : String) (texts : List String) :
    (String.intercalate "," (first :: texts)).toList = first.toList ++ further texts := by
  induction texts generalizing first with
  | nil => simp [further]
  | cons second texts ih =>
      rw [String.intercalate_cons_cons, String.toList_append, ih, String.toList_append]
      simp [further]

theorem closed_further {c : Char} (h : c = ',' ∨ c = ']' ∨ c = '\x7d') (texts : List String)
    (rest : List Char) : Closed (further texts ++ c :: rest) := by
  cases texts with
  | nil => exact closed_cons h rest
  | cons text texts => exact closed_cons (.inl rfl) _

theorem nextElement_first (h : Spells read text a) (rest : List Char) :
    nextElement true (text.toList ++ rest) = .ok (some (text.toList ++ rest)) := by
  obtain ⟨c, more, htext, hbegins⟩ := h.begins
  rw [htext, List.cons_append, nextElement, skipBlank_cons hbegins.solid]
  split
  · next heq => cases heq
  · next heq => exact absurd (List.cons.inj heq).1 hbegins.notEnd
  · next heq =>
      cases heq
      rfl

theorem nextElement_comma (text : List Char) :
    nextElement false (',' :: text) =
      match skipBlank text with
      | ']' :: _ => .error .malformed
      | [] => .error .truncated
      | rest => .ok (some rest) := rfl

theorem nextElement_further (h : Spells read text a) (rest : List Char) :
    nextElement false (',' :: (text.toList ++ rest)) = .ok (some (text.toList ++ rest)) := by
  obtain ⟨c, more, htext, hbegins⟩ := h.begins
  rw [nextElement_comma, htext, List.cons_append, skipBlank_cons hbegins.solid]
  split
  · next heq => exact absurd (List.cons.inj heq).1 hbegins.notEnd
  · next heq => cases heq
  · rfl

theorem elements_further {write : α → String} {items : List α}
    (h : ∀ a ∈ items, Spells read (write a) a) (before : List α) (rest : List Char)
    (hfuel : (further (items.map write)).length < fuel) :
    elements read false before fuel (further (items.map write) ++ ']' :: rest) =
      .ok (before.reverse ++ items, rest) := by
  induction items generalizing before fuel with
  | nil =>
      obtain ⟨spare, rfl⟩ : ∃ spare, fuel = spare + 1 := ⟨fuel - 1, by omega⟩
      rw [List.append_nil]
      rfl
  | cons a items ih =>
      obtain ⟨ha, hitems⟩ := List.forall_mem_cons.mp h
      rw [List.map_cons, length_further_cons] at hfuel
      obtain ⟨spare, rfl⟩ : ∃ spare, fuel = spare + 1 := ⟨fuel - 1, by omega⟩
      have hread := ha.reads spare _ (by omega)
        (closed_further (.inr (.inl rfl)) (items.map write) rest)
      rw [List.map_cons, further_cons, elements, nextElement_further ha]
      simp only [hread]
      rw [ih hitems _ (by omega)]
      simp

/-- A list is read back if each of its elements is. -/
theorem spells_list {write : α → String} {items : List α}
    (h : ∀ a ∈ items, Spells read (write a) a) :
    Spells (list read) (writeList (items.map write)) items where
  begins := ⟨'[', _, by rw [writeList, String.toList_append, String.toList_append]; rfl,
    by decide, by decide, by decide⟩
  reads fuel rest hfuel _ := by
    have htext : (writeList (items.map write)).toList ++ rest =
        '[' :: ((String.intercalate "," (items.map write)).toList ++ ']' :: rest) := by
      simp [writeList]
    have hlength : (String.intercalate "," (items.map write)).toList.length + 2 ≤ fuel := by
      refine Nat.le_trans (Nat.le_of_eq ?_) hfuel
      simp [writeList]
    rw [htext]
    change elements read true [] fuel _ = _
    obtain ⟨spare, rfl⟩ : ∃ spare, fuel = spare + 1 := ⟨fuel - 1, by omega⟩
    cases items with
    | nil => rfl
    | cons a items =>
        obtain ⟨ha, hitems⟩ := List.forall_mem_cons.mp h
        rw [List.map_cons, toList_intercalate_cons] at hlength ⊢
        rw [List.length_append] at hlength
        have hread := ha.reads spare _ (by omega)
          (closed_further (.inr (.inl rfl)) (items.map write) rest)
        rw [List.append_assoc, elements, nextElement_first ha]
        simp only [hread]
        exact elements_further hitems [a] rest (by omega)

/-! ## Records -/

/-- The fields of a record are filled one after another from the members of an object. -/
inductive Fills (fields : List (Field P)) : P → List (String × String) → P → Prop where
  | done (record : P) : Fills fields record [] record
  | fill {record filled final : P} {name text : String} {more : List (String × String)}
      {field : Field P} (named : fields.find? (·.name = name) = some field)
      (open_ : field.filled record = false) (spelt : Spells (field.read record) text filled)
      (later : Fills fields filled more final) : Fills fields record ((name, text) :: more) final

/-- A member of an object. -/
def member (m : String × String) : String := writeString m.1 ++ ":" ++ m.2

theorem writeObject_eq (ms : List (String × String)) :
    writeObject ms = "\x7b" ++ String.intercalate "," (ms.map member) ++ "\x7d" := rfl

theorem toList_member (m : String × String) (rest : List Char) :
    (member m).toList ++ rest = (writeString m.1).toList ++ ':' :: (m.2.toList ++ rest) := by
  simp [member]

/-- One member is read, and then those after it. -/
theorem members_fill {fields : List (Field P)} {first : Bool} {record filled : P}
    {name value : String} {field : Field P} {start body : List Char}
    (named : fields.find? (·.name = name) = some field) (open_ : field.filled record = false)
    (spelt : Spells (field.read record) value filled)
    (hkey : nextKey first start = .ok (.inl body))
    (hname : textLoop fuel [] body = .ok (name, ':' :: (value.toList ++ rest)))
    (hfuel : value.toList.length ≤ fuel) (hrest : Closed rest) :
    members fields first record (fuel + 1) start = members fields false filled fuel rest := by
  have hread := spelt.reads fuel rest hfuel hrest
  have hcolon : colon (':' :: (value.toList ++ rest)) = .ok (value.toList ++ rest) := rfl
  rw [members, hkey]
  simp only [hname, named, open_, hcolon, hread, Bool.false_eq_true, if_false]

/-- A name and the colon behind it are read back. -/
theorem textLoop_member (m : String × String) (rest : List Char) (fuel : Nat)
    (hfuel : (member m).toList.length ≤ fuel + 1) :
    ∃ body, (member m).toList ++ rest = '"' :: body ∧
      textLoop fuel [] body = .ok (m.1, ':' :: (m.2.toList ++ rest)) := by
  rw [member, String.toList_append, String.toList_append, List.length_append,
    List.length_append] at hfuel
  rw [toList_member]
  exact textLoop_string m.1 _ fuel (by omega)

theorem length_value_lt (m : String × String) : m.2.toList.length < (member m).toList.length := by
  rw [member, String.toList_append, String.toList_append, List.length_append, List.length_append,
    toList_writeString]
  simp only [List.cons_append, List.length_cons]
  omega

theorem members_further {fields : List (Field P)} {record final : P}
    {ms : List (String × String)} (h : Fills fields record ms final) (rest : List Char)
    (hfuel : (further (ms.map member)).length < fuel) :
    members fields false record fuel (further (ms.map member) ++ '\x7d' :: rest) =
      .ok (final, rest) := by
  induction h generalizing fuel with
  | done record =>
      obtain ⟨spare, rfl⟩ : ∃ spare, fuel = spare + 1 := ⟨fuel - 1, by omega⟩
      rfl
  | @fill record filled final name value more field named open_ spelt later ih =>
      rw [List.map_cons, length_further_cons] at hfuel
      have hvalue : value.toList.length < (member (name, value)).toList.length :=
        length_value_lt (name, value)
      obtain ⟨spare, rfl⟩ : ∃ spare, fuel = spare + 1 := ⟨fuel - 1, by omega⟩
      obtain ⟨body, htext, hname⟩ := textLoop_member (name, value)
        (further (more.map member) ++ '\x7d' :: rest) spare (by omega)
      have hkey : nextKey false (',' :: '"' :: body) = .ok (.inl body) := rfl
      rw [List.map_cons, further_cons, htext,
        members_fill named open_ spelt hkey hname (by omega)
          (closed_further (.inr (.inr rfl)) _ rest)]
      exact ih (by omega)

/-- A record is read back from an object if its fields are from the members. -/
theorem spells_record {fields : List (Field P)} {start final : P} {finish : P → Option α}
    {ms : List (String × String)} (h : Fills fields start ms final)
    (hfinish : finish final = some a) :
    Spells (record fields start finish) (writeObject ms) a where
  begins := ⟨'\x7b', _, by rw [writeObject, String.toList_append, String.toList_append]; rfl,
    by decide, by decide, by decide⟩
  reads fuel rest hfuel _ := by
    have htext : (writeObject ms).toList ++ rest =
        '\x7b' :: ((String.intercalate "," (ms.map member)).toList ++ '\x7d' :: rest) := by
      simp [writeObject_eq]
    have hlength : (String.intercalate "," (ms.map member)).toList.length + 2 ≤ fuel := by
      refine Nat.le_trans (Nat.le_of_eq ?_) hfuel
      simp [writeObject_eq]
    have hread : members fields true start fuel
        ((String.intercalate "," (ms.map member)).toList ++ '\x7d' :: rest) =
          .ok (final, rest) := by
      obtain ⟨spare, rfl⟩ : ∃ spare, fuel = spare + 1 := ⟨fuel - 1, by omega⟩
      cases h with
      | done => rfl
      | @fill _ filled _ name value more field named open_ spelt later =>
          rw [List.map_cons, toList_intercalate_cons, List.length_append] at hlength
          have hvalue : value.toList.length < (member (name, value)).toList.length :=
            length_value_lt (name, value)
          obtain ⟨body, htext, hname⟩ := textLoop_member (name, value)
            (further (more.map member) ++ '\x7d' :: rest) spare (by omega)
          have hkey : nextKey true ('"' :: body) = .ok (.inl body) := rfl
          rw [List.map_cons, toList_intercalate_cons, List.append_assoc, htext,
            members_fill named open_ spelt hkey hname (by omega)
              (closed_further (.inr (.inr rfl)) _ rest)]
          exact members_further later rest (by omega)
    rw [htext, record, skipBlank_cons (by decide)]
    simp only [hread, hfinish]

/-- A field kept as an optional part of a record is filled with its value. -/
theorem Spells.field (h : Spells read text a) (name : String) (part : P → Option α)
    (fill : P → Option α → P) (record : P) :
    Spells ((Field.ofReader name read part fill).read record) text (fill record (some a)) where
  begins := h.begins
  reads fuel rest hfuel hrest := by
    simp only [Field.ofReader, h.reads fuel rest hfuel hrest]

end

end ClusterKv.Json
