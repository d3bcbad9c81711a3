import ClusterKv.Json.Text
import ClusterKv.Json.Writer
import Mathlib.Algebra.Order.Group.Nat

/-! # Strings in JSON

Every string is read back from what is written for it, escapes and all. -/

namespace ClusterKv.Json

/-! ## Escapes -/

theorem hexDigit?_hexDigit (n : Nat) : hexDigit? (hexDigit n) = some (n % 16) := by
  have all : ∀ d < 16, hexDigit? (Nat.digitChar d) = some d := by decide
  exact all (n % 16) (Nat.mod_lt n (by decide))

/-- A control is read back from its number. -/
theorem escape_control {c : Char} (h : c < ' ') (rest : List Char) :
    escape ('u' :: '0' :: '0' :: hexDigit (c.toNat / 16) :: hexDigit c.toNat :: rest) =
      .ok (c, rest) := by
  have hsmall : c.toNat < 32 := h
  have hzero : hexDigit? '0' = some 0 := by decide
  have hunit : (((0 * 16 + 0) * 16 + c.toNat / 16 % 16) * 16 + c.toNat % 16) = c.toNat := by omega
  have hread : codeUnit ('0' :: '0' :: hexDigit (c.toNat / 16) :: hexDigit c.toNat :: rest) =
      .ok (c.toNat, rest) := by
    simp only [codeUnit, hzero, hexDigit?_hexDigit, hunit]
  have hlow : ¬(0xDC00 ≤ c.toNat ∧ c.toNat ≤ 0xDFFF) := by omega
  have hhigh : ¬(0xD800 ≤ c.toNat ∧ c.toNat ≤ 0xDBFF) := by omega
  simp only [escape, codePoint, hread, if_neg hlow, if_neg hhigh, Char.ofNat_toNat]

/-- However a character is written, one round takes it in. -/
theorem textLoop_writeChar (fuel : Nat) (before : List Char) (c : Char) (rest : List Char) :
    textLoop (fuel + 1) before ((writeChar c).toList ++ rest) =
      textLoop fuel (c :: before) rest := by
  unfold writeChar
  iterate 7
    split
    · next h => subst h; rfl
  split
  · next hcontrol =>
    have htext : ("\\u00" ++ String.ofList [hexDigit (c.toNat / 16), hexDigit c.toNat]).toList ++
        rest = '\\' :: 'u' :: '0' :: '0' ::
          hexDigit (c.toNat / 16) :: hexDigit c.toNat :: rest := by
      simp
    rw [htext, textLoop, if_neg (by decide), if_pos rfl, escape_control hcontrol]
  · next hquote hbackslash _ _ _ _ _ hplain =>
    have htext : c.toString.toList ++ rest = c :: rest := by simp
    rw [htext, textLoop, if_neg hquote, if_neg hbackslash, if_neg hplain]

/-! ## Strings -/

theorem toList_writeString (s : String) :
    (writeString s).toList =
      '"' :: (s.toList.flatMap fun c => (writeChar c).toList) ++ ['"'] := by
  have hfold : ∀ (chars : List Char) (text : String),
      (chars.foldl (fun text c => text ++ writeChar c) text).toList =
        text.toList ++ chars.flatMap fun c => (writeChar c).toList := by
    intro chars
    induction chars with
    | nil => simp
    | cons c chars ih => simp [ih]
  rw [writeString, String.foldl_eq_foldl_toList, String.toList_append, hfold]
  rfl

theorem length_writeChar_pos (c : Char) : 0 < (writeChar c).toList.length := by
  unfold writeChar
  repeat' split
  all_goals simp

/-- The characters of a string are read back behind those before it, and the quote ends it. -/
theorem textLoop_written (chars before rest : List Char) (fuel : Nat)
    (hfuel : (chars.flatMap fun c => (writeChar c).toList).length < fuel) :
    textLoop fuel before ((chars.flatMap fun c => (writeChar c).toList) ++ '"' :: rest) =
      .ok (String.ofList (before.reverse ++ chars), rest) := by
  induction chars generalizing before fuel with
  | nil =>
      obtain ⟨spare, rfl⟩ : ∃ spare, fuel = spare + 1 := ⟨fuel - 1, by omega⟩
      simp [textLoop]
  | cons c chars ih =>
      have hc := length_writeChar_pos c
      rw [List.flatMap_cons, List.length_append] at hfuel
      obtain ⟨spare, rfl⟩ : ∃ spare, fuel = spare + 1 := ⟨fuel - 1, by omega⟩
      rw [List.flatMap_cons, List.append_assoc, textLoop_writeChar, ih _ _ (by omega)]
      simp

/-- A string is read back after its opening quote. -/
theorem textLoop_string (s : String) (rest : List Char) (fuel : Nat)
    (hfuel : (writeString s).toList.length ≤ fuel + 1) :
    ∃ body, (writeString s).toList ++ rest = '"' :: body ∧
      textLoop fuel [] body = .ok (s, rest) := by
  rw [toList_writeString] at hfuel ⊢
  refine ⟨_, by rw [List.cons_append, List.cons_append, List.append_assoc], ?_⟩
  have hlength : (s.toList.flatMap fun c => (writeChar c).toList).length < fuel := by
    simp only [List.cons_append, List.length_cons, List.length_append, List.length_nil] at hfuel
    omega
  rw [List.singleton_append, textLoop_written _ _ _ _ hlength, List.reverse_nil, List.nil_append,
    String.ofList_toList]

end ClusterKv.Json
