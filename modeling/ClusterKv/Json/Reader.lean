import ClusterKv.Json.Number
import ClusterKv.Json.Skip

/-! Readers of the values that are wanted: numbers within bounds, strings, lists, optional values
and records.

A record is written as an object, or as the list of its fields in order. Each reader is given
fuel, one unit for each character at least. -/

namespace ClusterKv.Json

/-- Reads a value of a given kind from a text, with fuel for as many characters. -/
abbrev Reader (α : Type) := Nat → List Char → Reading α

/-- The fault of a value of the wrong kind: its own, where it is not even JSON. -/
def wrongKind (fuel : Nat) : List Char → Fault
  | [] => .truncated
  | 'n' :: rest => fault (word ['u', 'l', 'l'] rest)
  | 't' :: rest => fault (word ['r', 'u', 'e'] rest)
  | 'f' :: rest => fault (word ['a', 'l', 's', 'e'] rest)
  | '-' :: rest => fault (Number.unsigned false rest)
  | '"' :: rest => fault (textLoop fuel [] rest)
  | '[' :: _ => .mismatch
  | '\x7b' :: _ => .mismatch
  | c :: rest =>
    if (digit? c).isSome then fault (Number.unsigned true (c :: rest)) else .malformed
where
  /-- A value that can be read is of the wrong kind. -/
  fault {α : Type} : Except Fault α → Fault
    | .ok _ => .mismatch
    | .error fault => fault

/-- Reads a number of any kind. -/
def number : Reader Number := fun fuel text =>
  match skipBlank text with
  | '-' :: rest => Number.unsigned false rest
  | c :: rest =>
    if (digit? c).isSome then Number.unsigned true (c :: rest)
    else .error (wrongKind fuel (c :: rest))
  | [] => .error .truncated

/-- Reads a natural number up to a bound. -/
def natural (most : Nat) : Reader Nat := fun fuel text =>
  match number fuel text with
  | .ok (.natural n, rest) => if n ≤ most then .ok (n, rest) else .error .mismatch
  | .ok _ => .error .mismatch
  | .error fault => .error fault

/-- Reads a whole number between two bounds. -/
def integer (least most : Int) : Reader Int := fun fuel text =>
  match number fuel text with
  | .ok (.natural n, rest) =>
    if (n : Int) ≤ most then .ok ((n : Int), rest) else .error .mismatch
  | .ok (.negative n, rest) => if least ≤ -(n : Int) then .ok (-(n : Int), rest) else .error .mismatch
  | .ok (.fractional, _) => .error .mismatch
  | .error fault => .error fault

/-- Reads a string. -/
def string : Reader String := fun fuel text =>
  match skipBlank text with
  | '"' :: rest => textLoop fuel [] rest
  | other => .error (wrongKind fuel other)

/-- Reads `null` as nothing, and anything else as a value. -/
def optional {α : Type} (read : Reader α) : Reader (Option α) := fun fuel text =>
  match skipBlank text with
  | 'n' :: rest => (word ['u', 'l', 'l'] rest).map fun rest => (none, rest)
  | rest => (read fuel rest).map fun (value, rest) => (some value, rest)

/-- The end of a list after its last wanted element. -/
def endList (text : List Char) : Except Fault (List Char) :=
  match skipBlank text with
  | ']' :: rest => .ok rest
  | [] => .error .truncated
  | _ => .error .malformed

/-- Where the next element of a list starts, if there is one. The end is left unread. -/
def nextElement (first : Bool) (text : List Char) : Except Fault (Option (List Char)) :=
  match skipBlank text with
  | [] => .error .truncated
  | ']' :: _ => .ok none
  | c :: rest =>
    if first then .ok (some (c :: rest))
    else if c = ',' then
      match skipBlank rest with
      | ']' :: _ => .error .malformed
      | [] => .error .truncated
      | rest => .ok (some rest)
    else .error .malformed

/-- The elements of a list and its end, added to those before them, last first. -/
def elements {α : Type} (read : Reader α) (first : Bool) (before : List α) : Reader (List α)
  | 0, _ => .error .truncated
  | fuel + 1, text =>
    match nextElement first text with
    | .error fault => .error fault
    | .ok none => (endList text).map fun rest => (before.reverse, rest)
    | .ok (some rest) =>
      match read fuel rest with
      | .error fault => .error fault
      | .ok (value, rest) => elements read false (value :: before) fuel rest

/-- Reads a list. -/
def list {α : Type} (read : Reader α) : Reader (List α) := fun fuel text =>
  match skipBlank text with
  | '[' :: rest => elements read true [] fuel rest
  | other => .error (wrongKind fuel other)

/-- A field of a record that is being gathered in a `P`. -/
structure Field (P : Type) where
  name : String
  /-- Has the field been read already? -/
  filled : P → Bool
  /-- Reads the field into the record. -/
  read : P → Reader P

/-- A field kept as an optional part of the record. -/
def Field.ofReader {P α : Type} (name : String) (read : Reader α) (part : P → Option α)
    (fill : P → Option α → P) : Field P where
  name := name
  filled := fun record => (part record).isSome
  read := fun record fuel text =>
    match read fuel text with
    | .error fault => .error fault
    | .ok (value, rest) => .ok (fill record (some value), rest)

/-- The fields of a record written as a list. Those beyond its end stay unfilled. -/
def fieldElements {P : Type} (first : Bool) : List (Field P) → P → Reader P
  | [], record, _, text => (endList text).map fun rest => (record, rest)
  | field :: more, record, fuel, text =>
    match nextElement first text with
    | .error fault => .error fault
    | .ok none => (endList text).map fun rest => (record, rest)
    | .ok (some rest) =>
      match field.read record fuel rest with
      | .error fault => .error fault
      | .ok (record, rest) => fieldElements false more record fuel rest

/-- Where the next key of an object starts, after its quote, if there is one; otherwise the text
after the object's end. -/
def nextKey (first : Bool) (text : List Char) : Except Fault (List Char ⊕ List Char) :=
  match skipBlank text with
  | [] => .error .truncated
  | '\x7d' :: rest => .ok (.inr rest)
  | c :: rest =>
    let key : Except Fault (List Char) :=
      if first then .ok (c :: rest)
      else if c = ',' then .ok (skipBlank rest) else .error .malformed
    match key with
    | .error fault => .error fault
    | .ok ('"' :: rest) => .ok (.inl rest)
    | .ok [] => .error .truncated
    | .ok _ => .error .malformed

/-- The colon after a key. -/
def colon (text : List Char) : Except Fault (List Char) :=
  match skipBlank text with
  | ':' :: rest => .ok rest
  | [] => .error .truncated
  | _ => .error .malformed

/-- The members of a record written as an object. A field may come once; a key that names no
field is passed over with its value. -/
def members {P : Type} (fields : List (Field P)) (first : Bool) (record : P) : Reader P
  | 0, _ => .error .truncated
  | fuel + 1, text =>
    match nextKey first text with
    | .error fault => .error fault
    | .ok (.inr rest) => .ok (record, rest)
    | .ok (.inl rest) =>
      match textLoop fuel [] rest with
      | .error fault => .error fault
      | .ok (key, rest) =>
        match fields.find? (·.name = key) with
        | some field =>
          if field.filled record then .error .mismatch else
            match colon rest with
            | .error fault => .error fault
            | .ok rest =>
              match field.read record fuel rest with
              | .error fault => .error fault
              | .ok (record, rest) => members fields false record fuel rest
        | none =>
          match colon rest with
          | .error fault => .error fault
          | .ok rest =>
            match skipValue fuel rest with
            | .error fault => .error fault
            | .ok rest => members fields false record fuel rest

/-- Reads a record. `finish` refuses one in which a field without a default is missing. -/
def record {P α : Type} (fields : List (Field P)) (start : P) (finish : P → Option α) : Reader α :=
  fun fuel text =>
    let gathered := match skipBlank text with
      | '\x7b' :: rest => members fields true start fuel rest
      | '[' :: rest => fieldElements true fields start fuel rest
      | other => .error (wrongKind fuel other)
    match gathered with
    | .error fault => .error fault
    | .ok (gathered, rest) =>
      match finish gathered with
      | some value => .ok (value, rest)
      | none => .error .mismatch

/-- Reads a text that holds one value and nothing else. -/
def parse {α : Type} (read : Reader α) (text : String) : Except Fault α :=
  let chars := text.toList
  match read (chars.length + 1) chars with
  | .error fault => .error fault
  | .ok (value, rest) => if skipBlank rest = [] then .ok value else .error .malformed

end ClusterKv.Json
