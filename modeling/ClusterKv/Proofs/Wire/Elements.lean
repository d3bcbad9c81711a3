import ClusterKv.Wire.Decoder
import Mathlib.Algebra.Order.Group.Nat

/-! # Elements of the wire encoding

What is written is read back whatever follows it, and a decoder takes off nothing but what is
written for the value that it gives. Both laws pass from decoders to what is built from them: one
after another, an option, a choice. -/

namespace ClusterKv

/-! ## Texts -/

/-- The octets of an array, from one on, behind those before it, last first. -/
theorem loop_toList (bytes : ByteArray) (i : Nat) (before : Bytes) :
    ByteArray.toList.loop bytes i before = before.reverse ++ bytes.data.toList.drop i := by
  fun_induction ByteArray.toList.loop bytes i before with
  | case1 i before h ih =>
      have hi : i < bytes.data.toList.length := h
      have hoctet : bytes.get! i = bytes.data.toList[i] := getElem!_pos bytes.data i h
      rw [ih, List.drop_eq_getElem_cons hi, hoctet, List.reverse_cons, List.append_assoc]
      rfl
  | case2 i before h =>
      have hi : bytes.data.toList.length ≤ i := Nat.le_of_not_lt h
      rw [List.drop_eq_nil_of_le hi, List.append_nil]

theorem Bytes.ofString_eq (text : String) : Bytes.ofString text = text.toByteArray.data.toList :=
  (loop_toList text.toByteArray 0 []).trans (by simp)

/-- A byte string spells a text if and only if it is the octets of it. -/
theorem Bytes.toString?_eq_some_iff {bytes : Bytes} {text : String} :
    bytes.toString? = some text ↔ bytes = Bytes.ofString text := by
  unfold toString? String.fromUTF8?
  rw [ofString_eq]
  constructor
  · intro h
    split at h
    · cases h
      rfl
    · cases h
  · rintro rfl
    exact dif_pos text.isValidUTF8

theorem Utf8.decode_eq_ok_iff {bytes : Bytes} {text : String} :
    Utf8.decode bytes = .ok text ↔ bytes = Bytes.ofString text := by
  rw [← Bytes.toString?_eq_some_iff, decode]
  split <;> simp_all

namespace Wire

/-! ## Numbers -/

@[simp] theorem length_littleEndian (width n : Nat) : (littleEndian width n).length = width := by
  induction width generalizing n with
  | zero => rfl
  | succ width ih => simp [littleEndian, ih]

/-- Octets spell what is left of a number when its higher octets are dropped. -/
theorem ofLittleEndian_littleEndian (width n : Nat) :
    ofLittleEndian (littleEndian width n) = n % 256 ^ width := by
  induction width generalizing n with
  | zero => simp [littleEndian, ofLittleEndian, Nat.mod_one]
  | succ width ih =>
      have hlow : n.toUInt8.toNat = n % 256 := by simp
      rw [littleEndian, ofLittleEndian, ih, hlow, Nat.pow_succ', Nat.mod_mul]

/-- Octets are the lowest ones of the number that they spell. -/
theorem littleEndian_ofLittleEndian (bytes : Bytes) :
    littleEndian bytes.length (ofLittleEndian bytes) = bytes := by
  induction bytes with
  | nil => rfl
  | cons octet rest ih =>
      have hoctet := octet.toNat_lt
      have hlow : (octet.toNat + 256 * ofLittleEndian rest).toUInt8 = octet := by
        apply UInt8.toNat_inj.mp
        simp
      have hhigh : (octet.toNat + 256 * ofLittleEndian rest) / 256 = ofLittleEndian rest := by
        omega
      rw [List.length_cons, littleEndian, ofLittleEndian, hlow, hhigh, ih]

/-- The octets above the width do not show. -/
theorem littleEndian_mod (width n : Nat) :
    littleEndian width (n % 256 ^ width) = littleEndian width n := by
  have h := littleEndian_ofLittleEndian (littleEndian width n)
  rwa [length_littleEndian, ofLittleEndian_littleEndian] at h

/-! ## Decoders -/

section

variable {α β : Type} {read : Decoder α} {next : α → Decoder β} {bytes rest more before : Bytes}
  {a : α} {b : β} {write : α → Bytes} {writes : β → Bytes}

theorem Decoder.bind_run_eq_ok (h : (read >>= next) bytes = .ok (b, rest)) :
    ∃ a mid, read bytes = .ok (a, mid) ∧ next a mid = .ok (b, rest) := by
  change andThen read next bytes = _ at h
  unfold andThen at h
  split at h
  · cases h
  · next a mid heq => exact ⟨a, mid, heq, h⟩

theorem Decoder.bind_assoc {γ : Type} (last : β → Decoder γ) :
    (read >>= next) >>= last = read >>= fun a => next a >>= last := by
  funext bytes
  change andThen (andThen read next) last bytes = andThen read (fun a => andThen (next a) last) bytes
  simp only [andThen]
  cases read bytes <;> rfl

/-- Octets spell a value: they are taken off whatever follows them. There has to be room for the
length of each byte string among them. -/
def Spells (read : Decoder α) (bytes : Bytes) (a : α) : Prop :=
  bytes.length < 2 ^ 64 → ∀ rest, read (bytes ++ rest) = .ok (a, rest)

namespace Spells

theorem bind (h : Spells read bytes a) (hnext : Spells (next a) more b) :
    Spells (read >>= next) (bytes ++ more) b := by
  intro hlength rest
  rw [List.length_append] at hlength
  rw [List.append_assoc, Decoder.bind_run_ok (h (by omega) _), hnext (by omega)]

/-- The last thing that is read says it all. -/
theorem last (h : Spells read bytes a) (hnext : next a = pure b) :
    Spells (read >>= next) bytes b := by
  intro hlength rest
  rw [Decoder.bind_run_ok (h hlength rest), hnext, Decoder.pure_run]

end Spells

/-- Whatever a decoder gives, what was taken off before and what it takes off are what is written
for it. -/
def Exact (read : Decoder α) (before : Bytes) (write : α → Bytes) : Prop :=
  ∀ bytes a rest, read bytes = .ok (a, rest) → before ++ bytes = write a ++ rest

namespace Exact

theorem bind (h : Exact read [] write) (hnext : ∀ a, Exact (next a) (before ++ write a) writes) :
    Exact (read >>= next) before writes := by
  intro bytes b rest hread
  obtain ⟨a, mid, ha, hb⟩ := Decoder.bind_run_eq_ok hread
  have hbytes : bytes = write a ++ mid := h bytes a mid ha
  rw [hbytes, ← List.append_assoc]
  exact hnext a mid b rest hb

theorem pure (h : before = write a) : Exact (pure a) before write := by
  intro bytes a' rest hread
  cases hread
  rw [h]

theorem fail {fault : Malformed} : Exact (.fail fault) before write :=
  fun _ _ _ hread => nomatch hread

end Exact

/-- A decoder for an encoding: it reads what is written, and nothing else. -/
structure Codec (write : α → Bytes) (read : Decoder α) : Prop where
  spells : ∀ a, Spells read (write a) a
  canonical : Exact read [] write

end

/-! ## Words -/

theorem takeOctets_spells {short : Malformed} {count : Nat} {bytes : Bytes}
    (h : bytes.length = count) : Spells (takeOctets short count) bytes bytes := by
  intro _ rest
  subst h
  simp [takeOctets]

/-- What is taken off is what is left after as many octets as were asked for. -/
theorem takeOctets_eq_ok {short : Malformed} {count : Nat} {bytes taken rest : Bytes}
    (h : takeOctets short count bytes = .ok (taken, rest)) :
    taken.length = count ∧ bytes = taken ++ rest := by
  unfold takeOctets at h
  split at h
  · cases h
    simp [*]
  · cases h

theorem readWord_spells {width n : Nat} (h : n < 256 ^ width) :
    Spells (readWord width) (littleEndian width n) n := by
  refine .last (takeOctets_spells (length_littleEndian width n)) ?_
  rw [ofLittleEndian_littleEndian, Nat.mod_eq_of_lt h]

theorem readWord_exact (width : Nat) : Exact (readWord width) [] (littleEndian width) := by
  intro bytes n rest hread
  obtain ⟨taken, mid, htaken, hn⟩ := Decoder.bind_run_eq_ok hread
  obtain ⟨hlength, hbytes⟩ := takeOctets_eq_ok htaken
  cases hn
  rw [hbytes, ← hlength, littleEndian_ofLittleEndian, List.nil_append]

/-- Words of any width: `width` octets for numbers that have no more. -/
theorem codec_word {ω : Type} {width : Nat} {toNat : ω → Nat} {ofNat : Nat → ω}
    (toNat_ofNat : ∀ n, toNat (ofNat n) = n % 256 ^ width)
    (ofNat_toNat : ∀ word, ofNat (toNat word) = word) (toNat_lt : ∀ word, toNat word < 256 ^ width) :
    Codec (fun word => littleEndian width (toNat word)) (do return ofNat (← readWord width)) where
  spells word := .last (readWord_spells (toNat_lt word)) (by rw [ofNat_toNat])
  canonical := .bind (readWord_exact width) fun n => .pure (by
    rw [toNat_ofNat, littleEndian_mod, List.nil_append])

theorem codec16 : Codec write16 read16 :=
  codec_word (fun _ => UInt16.toNat_ofNat') (fun _ => UInt16.ofNat_toNat) UInt16.toNat_lt

theorem codec32 : Codec write32 read32 :=
  codec_word (fun _ => UInt32.toNat_ofNat') (fun _ => UInt32.ofNat_toNat) UInt32.toNat_lt

theorem codec64 : Codec write64 read64 :=
  codec_word (fun _ => UInt64.toNat_ofNat') (fun _ => UInt64.ofNat_toNat) UInt64.toNat_lt

/-! ## Byte strings, texts and options -/

/-- Octets are read as they are after their length. -/
theorem prefixed_spells {short : Malformed} (bytes : Bytes) :
    Spells (readWord 8 >>= takeOctets short) (writeBytes bytes) bytes := by
  intro hlength
  have hroom : bytes.length < 256 ^ 8 := by
    simp only [writeBytes, List.length_append, length_littleEndian] at hlength
    omega
  exact (readWord_spells hroom).bind (takeOctets_spells rfl) hlength

theorem prefixed_exact {short : Malformed} :
    Exact (readWord 8 >>= takeOctets short) [] writeBytes := by
  refine .bind (readWord_exact 8) fun count => ?_
  intro bytes taken rest hread
  obtain ⟨rfl, rfl⟩ := takeOctets_eq_ok hread
  simp [writeBytes]

theorem codec_bytes : Codec writeBytes readBytes := ⟨prefixed_spells, prefixed_exact⟩

theorem readText_eq : readText = (readWord 8 >>= takeOctets .textCutShort) >>= fun bytes =>
    match Utf8.decode bytes with
    | .ok text => pure text
    | .error fault => .fail (.notText fault) :=
  (Decoder.bind_assoc _).symm

theorem codec_text : Codec writeText readText where
  spells text := by
    rw [readText_eq]
    refine .last (prefixed_spells (Bytes.ofString text)) ?_
    rw [Utf8.decode_eq_ok_iff.mpr rfl]
  canonical := by
    rw [readText_eq]
    refine prefixed_exact.bind fun bytes => ?_
    split
    · next text h => exact .pure (by rw [Utf8.decode_eq_ok_iff.mp h]; rfl)
    · exact .fail

theorem codec_option {α : Type} {write : α → Bytes} {read : Decoder α} (h : Codec write read) :
    Codec (writeOption write) (readOption read) where
  spells
    | none => .last (readWord_spells (by decide : 0 < 256 ^ 1)) rfl
    | some a => .bind (readWord_spells (by decide : 1 < 256 ^ 1)) (.last (h.spells a) rfl)
  canonical := by
    refine (readWord_exact 1).bind fun octet => ?_
    match octet with
    | 0 => exact .pure rfl
    | 1 => exact h.canonical.bind fun a => .pure rfl
    | _ + 2 => exact .fail

/-! ## Choices -/

section

variable {α : Type} {choices : List (Decoder α)} {write : α → Bytes}

theorem Spells.choice {read : Decoder α} {number : Nat} {bytes : Bytes} {a : α}
    (hread : choices[number]? = some read) (hnumber : number < 256 ^ 4) (h : Spells read bytes a) :
    Spells (readChoice choices) (writeChoice number ++ bytes) a := by
  refine .bind (readWord_spells hnumber) ?_
  rw [hread]
  exact h

theorem Exact.choice
    (h : ∀ number (hnumber : number < choices.length),
      Exact choices[number] (writeChoice number) write) :
    Exact (readChoice choices) [] write := by
  refine (readWord_exact 4).bind fun number => ?_
  cases hread : choices[number]? with
  | none => exact .fail
  | some read =>
      obtain ⟨hnumber, rfl⟩ := List.getElem?_eq_some_iff.mp hread
      exact h number hnumber

/-- A choice of one of some values, each of which is written as its place among them. -/
theorem codec_of_all (all : List α) (hall : ∀ a, a ∈ all) (hcount : all.length ≤ 256 ^ 4)
    (hwrite : all.map write = (List.range all.length).map writeChoice) :
    Codec write (readChoice (all.map pure)) := by
  have hplace : ∀ number (hnumber : number < all.length), write all[number] = writeChoice number := by
    intro number hnumber
    have h := List.getElem_of_eq hwrite (by simpa using hnumber)
    simpa using h
  constructor
  · intro a
    obtain ⟨number, hnumber, rfl⟩ := List.getElem_of_mem (hall a)
    rw [hplace number hnumber]
    refine .last (readWord_spells (by omega)) ?_
    simp [hnumber]
  · refine .choice fun number hnumber => ?_
    have hnumber : number < all.length := by simpa using hnumber
    simpa using Exact.pure (hplace number hnumber).symm

end

end Wire

end ClusterKv
