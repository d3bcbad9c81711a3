import ClusterKv.CommandLine.Invocation
import ClusterKv.Proofs.Assoc
import Mathlib.Data.List.TakeWhile

/-! # Words on a command line

What the words after the name of a command say: options with their values, each given once and in
either spelling, between positional arguments. Words that say so are read so. -/

namespace ClusterKv.CommandLine

/-- A word that is not taken for an option. -/
def IsPlain (word : String) : Prop := ∀ c rest, word.toList ≠ '-' :: c :: rest

theorem isPlain_of_head {word : String} (h : word.toList.head? ≠ some '-') : IsPlain word := by
  intro c rest hword
  simp [hword] at h

/-- Some words say which options are given, and which positional arguments. -/
inductive Says (shape : Shape) : Assoc String String → List String → List String → Prop where
  | nothing : Says shape [] [] []
  /-- After two dashes alone every word is positional. -/
  | literally (positionals : List String) : Says shape [] positionals ("--" :: positionals)
  | positional {given : Assoc String String} {positionals words : List String} {word : String}
      (plain : IsPlain word) (rest : Says shape given positionals words) :
      Says shape given (word :: positionals) (word :: words)
  /-- An option and its value in one word. -/
  | joined {given : Assoc String String} {positionals words : List String} {name value : String}
      {kind : ValueKind} (known : shape.options.find? (·.1 = name) = some (name, kind))
      (valid : kind.fault? value = none) (once : given.get? name = none)
      (rest : Says shape given positionals words) :
      Says shape ((name, value) :: given) positionals (("--" ++ name ++ "=" ++ value) :: words)
  /-- An option and then its value. -/
  | apart {given : Assoc String String} {positionals words : List String} {name value : String}
      {kind : ValueKind} (known : shape.options.find? (·.1 = name) = some (name, kind))
      (valid : kind.fault? value = none) (once : given.get? name = none) (plain : IsPlain value)
      (rest : Says shape given positionals words) :
      Says shape ((name, value) :: given) positionals (("--" ++ name) :: value :: words)

/-- The names of the options are not empty, and nothing in them begins a value. -/
def Shape.Named (shape : Shape) : Prop :=
  ∀ option ∈ shape.options, option.1 ≠ "" ∧ '=' ∉ option.1.toList

/-! ## Options that are still to be checked -/

namespace Progress

variable {shape : Shape} {progress checked : Progress}

theorem settle_of_none (h : progress.pending = none) : progress.settle = .ok progress := by
  simp [settle, h]

theorem settle_fresh {options : Assoc String String} (taken : List String) {name value : String}
    {kind : ValueKind} (hvalid : kind.fault? value = none) (honce : options.get? name = none) :
    settle ⟨options, taken, some ⟨name, kind, some value⟩⟩ =
      .ok ⟨options ++ [(name, value)], taken, none⟩ := by
  simp [settle, hvalid, Assoc.has, honce, Assoc.put_of_get?_eq_none]

theorem settle_cases (h : progress.settle = .ok checked) :
    checked.pending = none ∧ checked.positionals = progress.positionals ∧
      ∀ name kind, progress.pending ≠ some ⟨name, kind, none⟩ := by
  unfold settle at h
  split at h
  · next hnone =>
      obtain rfl := Except.ok.inj h
      exact ⟨hnone, rfl, by simp [hnone]⟩
  · next name kind value hpending =>
      split at h
      · cases h
      split at h
      · cases h
      · split at h
        · cases h
        · obtain rfl := Except.ok.inj h
          exact ⟨rfl, rfl, by simp [hpending]⟩

/-- An option may as well be checked at once. -/
theorem positional_settled (h : progress.settle = .ok checked) (word : String) :
    progress.positional shape word = checked.positional shape word := by
  obtain ⟨hpending, hpositionals, -⟩ := settle_cases h
  simp only [positional, h, settle_of_none hpending, hpositionals]

@[inherit_doc positional_settled]
theorem option_settled (h : progress.settle = .ok checked) (name : String)
    (value : Option String) :
    progress.option shape name value = checked.option shape name value := by
  simp only [option, h, settle_of_none (settle_cases h).1]

end Progress

@[inherit_doc Progress.positional_settled]
theorem readWords_settled {shape : Shape} {progress checked : Progress}
    (h : progress.settle = .ok checked) (literal : Bool) (words : List String) :
    readWords shape literal progress words = readWords shape literal checked words := by
  obtain ⟨hpending, -, hvalue⟩ := Progress.settle_cases h
  have hchecked := Progress.settle_of_none hpending
  induction words generalizing literal with
  | nil => cases literal <;> simp only [readWords, h, hchecked]
  | cons word rest ih =>
      cases literal with
      | true => simp only [readWords, Progress.positional_settled h]
      | false =>
          simp only [readWords, Progress.positional_settled h, Progress.option_settled h, h,
            hchecked, hpending]
          split
          · exact ih true
          · rfl
          · rfl
          · rfl

/-! ## Words are read as what they say -/

theorem splitOption_name {name : String} (h : '=' ∉ name.toList) :
    splitOption name.toList = (name, none) := by
  have hdrop : name.toList.dropWhile (· ≠ '=') = [] := by
    rw [List.dropWhile_eq_nil_iff]
    intro c hc
    simpa using fun heq : c = '=' => h (heq ▸ hc)
  simp only [splitOption, hdrop, String.ofList_toList]

theorem splitOption_joined {name : String} (h : '=' ∉ name.toList) (value : String) :
    splitOption (name.toList ++ '=' :: value.toList) = (name, some value) := by
  have hname : ∀ c ∈ name.toList, decide (c ≠ '=') = true := by
    intro c hc
    simpa using fun heq : c = '=' => h (heq ▸ hc)
  have hdrop : (name.toList ++ '=' :: value.toList).dropWhile (· ≠ '=') = '=' :: value.toList := by
    rw [List.dropWhile_append_of_pos hname]
    simp
  have htake : (name.toList ++ '=' :: value.toList).takeWhile (· ≠ '=') = name.toList := by
    rw [List.takeWhile_append_of_pos hname]
    simp
  simp only [splitOption, hdrop, htake, String.ofList_toList]

section

variable {shape : Shape} {options : Assoc String String} {taken : List String}

theorem positional_room (hroom : taken.length < shape.positionals) (word : String) :
    Progress.positional shape word ⟨options, taken, none⟩ = .ok ⟨options, word :: taken, none⟩ := by
  simp [Progress.positional, hroom, Progress.settle, Except.map]

theorem option_apart {name : String} {kind : ValueKind}
    (hknown : shape.options.find? (·.1 = name) = some (name, kind)) :
    Progress.option shape name none ⟨options, taken, none⟩ =
      .ok ⟨options, taken, some ⟨name, kind, none⟩⟩ := by
  simp [Progress.option, hknown, Progress.settle]

theorem option_joined (taken : List String) {name value : String} {kind : ValueKind}
    (hknown : shape.options.find? (·.1 = name) = some (name, kind))
    (hvalid : kind.fault? value = none) (honce : options.get? name = none) :
    Progress.option shape name (some value) ⟨options, taken, none⟩ =
      .ok ⟨options ++ [(name, value)], taken, none⟩ := by
  have hsettle := Progress.settle_fresh taken hvalid honce
  simp [Progress.option, hknown, Progress.settle_of_none, hsettle]

/-- A word that is not taken for an option is the value of the option before it, or positional. -/
theorem readWords_plain {word : String} (hplain : IsPlain word) (progress : Progress)
    (rest : List String) :
    readWords shape false progress (word :: rest) =
      match progress.pending with
      | some ⟨name, kind, none⟩ =>
        readWords shape false { progress with pending := some ⟨name, kind, some word⟩ } rest
      | _ =>
        match progress.positional shape word with
        | .error fault => .error fault
        | .ok progress => readWords shape false progress rest := by
  rw [readWords]
  split
  · next h => exact absurd h (hplain _ _)
  · next h => exact absurd h (hplain _ _)
  · next h => exact absurd h (hplain _ _)
  · rfl

theorem readWords_option {word : String} {chars : List Char}
    (hword : word.toList = '-' :: '-' :: chars) (hchars : chars ≠ []) {progress next : Progress}
    (hoption : progress.option shape (splitOption chars).1 (splitOption chars).2 = .ok next)
    (rest : List String) :
    readWords shape false progress (word :: rest) = readWords shape false next rest := by
  obtain ⟨c, more, rfl⟩ := List.exists_cons_of_ne_nil hchars
  rw [readWords]
  simp only [hword, hoption]

theorem readWords_literally (options : Assoc String String) (positionals : List String)
    (hroom : taken.length + positionals.length ≤ shape.positionals) :
    readWords shape true ⟨options, taken, none⟩ positionals =
      .ok ⟨options, positionals.reverse ++ taken, none⟩ := by
  induction positionals generalizing taken with
  | nil => rfl
  | cons word rest ih =>
      rw [List.length_cons] at hroom
      have htaken : taken.length < shape.positionals := by omega
      have hrest := @ih (word :: taken) (by rw [List.length_cons]; omega)
      simp only [readWords, positional_room htaken, hrest]
      simp

theorem get?_append_once {name value : String} {given : Assoc String String}
    (honce : given.get? name = none)
    (hapart : ∀ other ∈ Assoc.keys ((name, value) :: given), options.get? other = none) :
    ∀ other ∈ given.keys, Assoc.get? (options ++ [(name, value)]) other = none := by
  intro other hother
  have hne : other ≠ name := by
    rintro rfl
    exact Assoc.get?_eq_none_iff.mp honce hother
  rw [← Assoc.put_of_get?_eq_none value (hapart name List.mem_cons_self),
    Assoc.get?_put_of_ne _ _ hne]
  exact hapart other (List.mem_cons_of_mem _ hother)

/-- What some words say is added to what has been read before them. -/
theorem Says.readWords (hnamed : shape.Named) {given : Assoc String String}
    {positionals words : List String} (h : Says shape given positionals words)
    (hapart : ∀ name ∈ given.keys, options.get? name = none)
    (hroom : taken.length + positionals.length ≤ shape.positionals) :
    readWords shape false ⟨options, taken, none⟩ words =
      .ok ⟨options ++ given, positionals.reverse ++ taken, none⟩ := by
  induction h generalizing options taken with
  | nothing => simp [CommandLine.readWords, Progress.settle]
  | literally positionals =>
      have hread := readWords_literally options positionals hroom
      simp [CommandLine.readWords, hread]
  | @positional given positionals words word plain rest ih =>
      rw [List.length_cons] at hroom
      have htaken : taken.length < shape.positionals := by omega
      have hrest := @ih options (word :: taken) hapart (by rw [List.length_cons]; omega)
      simp only [readWords_plain plain, positional_room htaken, hrest]
      simp
  | @joined given positionals words name value kind known valid once rest ih =>
      have hoption := option_joined taken known valid (hapart name List.mem_cons_self)
      have hrest := @ih (options ++ [(name, value)]) taken (get?_append_once once hapart) hroom
      obtain ⟨-, hends⟩ := hnamed (name, kind) (List.mem_of_find?_eq_some known)
      have hword : ("--" ++ name ++ "=" ++ value).toList =
          '-' :: '-' :: (name.toList ++ '=' :: value.toList) := by
        simp
      have hsplit := splitOption_joined hends value
      rw [readWords_option hword (by simp) (by rw [hsplit]; exact hoption), hrest]
      simp
  | @apart given positionals words name value kind known valid once plain rest ih =>
      have hhead := hapart name List.mem_cons_self
      have hrest := @ih (options ++ [(name, value)]) taken (get?_append_once once hapart) hroom
      obtain ⟨hsome, hends⟩ := hnamed (name, kind) (List.mem_of_find?_eq_some known)
      have hword : ("--" ++ name).toList = '-' :: '-' :: name.toList := by simp
      have hchars : name.toList ≠ [] := by simpa using hsome
      have hoption : Progress.option shape (splitOption name.toList).1 (splitOption name.toList).2
          ⟨options, taken, none⟩ = .ok ⟨options, taken, some ⟨name, kind, none⟩⟩ := by
        rw [splitOption_name hends]
        exact option_apart known
      have hvalue : CommandLine.readWords shape false ⟨options, taken, some ⟨name, kind, none⟩⟩
          (value :: words) =
            CommandLine.readWords shape false ⟨options, taken, some ⟨name, kind, some value⟩⟩ words :=
        readWords_plain plain _ _
      rw [readWords_option hword hchars hoption, hvalue,
        readWords_settled (Progress.settle_fresh taken valid hhead), hrest]
      simp

end

/-- The words of a command are read as the options and the positional arguments that they say. -/
theorem Says.readShape {shape : Shape} (hnamed : shape.Named) {given : Assoc String String}
    {positionals words : List String} (h : Says shape given positionals words)
    (hcount : positionals.length = shape.positionals) :
    readShape shape words = .ok (given, positionals) := by
  have hapart : ∀ name ∈ given.keys, Assoc.get? ([] : Assoc String String) name = none :=
    fun _ _ => Assoc.get?_nil _
  have hroom : ([] : List String).length + positionals.length ≤ shape.positionals := by
    simp [hcount]
  have hread := h.readWords hnamed hapart hroom
  rw [List.nil_append, List.append_nil] at hread
  simp [CommandLine.readShape, hread, hcount]

end ClusterKv.CommandLine
