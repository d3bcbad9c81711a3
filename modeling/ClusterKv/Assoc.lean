/-! Finite maps that keep their keys in the order of first insertion. -/

namespace ClusterKv

/-- A finite map as the list of its entries. The operations keep each key single. -/
abbrev Assoc (κ α : Type) := List (κ × α)

namespace Assoc

variable {κ α : Type} [DecidableEq κ]

/-- The value at a key. -/
def get? : Assoc κ α → κ → Option α
  | [], _ => none
  | (k, v) :: rest, key => if k = key then some v else get? rest key

/-- Is there a value at the key? -/
def has (m : Assoc κ α) (key : κ) : Bool := (get? m key).isSome

/-- Sets the value at a key, in its old place if it has one. -/
def put : Assoc κ α → κ → α → Assoc κ α
  | [], key, value => [(key, value)]
  | (k, v) :: rest, key, value =>
    if k = key then (k, value) :: rest else (k, v) :: put rest key value

/-- Forgets a key. -/
def erase (m : Assoc κ α) (key : κ) : Assoc κ α := m.filter fun e => e.1 ≠ key

/-- The keys, oldest first. -/
def keys (m : Assoc κ α) : List κ := m.map (·.1)

@[simp] theorem get?_nil (key : κ) : get? ([] : Assoc κ α) key = none := rfl

@[simp] theorem get?_put_self (m : Assoc κ α) (key : κ) (value : α) :
    get? (put m key value) key = some value := by
  induction m with
  | nil => simp [put, get?]
  | cons e rest ih =>
    obtain ⟨k, v⟩ := e
    by_cases h : k = key <;> simp [put, get?, h, ih]

@[simp] theorem get?_put_of_ne (m : Assoc κ α) {key other : κ} (value : α) (h : other ≠ key) :
    get? (put m key value) other = get? m other := by
  induction m with
  | nil => simp [put, get?, h.symm]
  | cons e rest ih =>
    obtain ⟨k, v⟩ := e
    unfold put
    split
    · next hk => subst hk; simp [get?, h.symm]
    · simp only [get?, ih]

@[simp] theorem get?_erase_self (m : Assoc κ α) (key : κ) : get? (erase m key) key = none := by
  induction m with
  | nil => rfl
  | cons e rest ih =>
    rw [erase, List.filter_cons]
    split
    · next he => simp_all [erase, get?]
    · exact ih

@[simp] theorem get?_erase_of_ne (m : Assoc κ α) {key other : κ} (h : other ≠ key) :
    get? (erase m key) other = get? m other := by
  induction m with
  | nil => rfl
  | cons e rest ih =>
    rw [erase, List.filter_cons]
    split
    · simp only [get?]
      rw [← ih, erase]
    · next he =>
      have hk : e.1 = key := by simpa using he
      simp only [get?, hk, if_neg h.symm]
      exact ih

end Assoc

end ClusterKv
