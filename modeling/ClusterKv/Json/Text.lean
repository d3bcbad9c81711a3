import ClusterKv.Bytes
import ClusterKv.Json.Basic

/-! Strings, after their opening quote. -/

namespace ClusterKv.Json

/-- The four hexadecimal digits of a code unit. Four octets have to be left at all. -/
def codeUnit : List Char → Reading Nat
  | a :: b :: c :: d :: rest =>
    match hexDigit? a, hexDigit? b, hexDigit? c, hexDigit? d with
    | some a, some b, some c, some d => .ok (((a * 16 + b) * 16 + c) * 16 + d, rest)
    | _, _, _, _ => .error .malformed
  | short =>
    .error (if short.foldl (fun size c => size + c.utf8Size) 0 < 4 then .truncated else .malformed)

/-- The second half of a pair of surrogates, with its escape. -/
def trailingSurrogate (leading : Nat) : List Char → Reading Char
  | [] => .error .truncated
  | '\\' :: [] => .error .truncated
  | '\\' :: 'u' :: rest =>
    match codeUnit rest with
    | .error fault => .error fault
    | .ok (unit, rest) =>
      if unit < 0xDC00 ∨ 0xDFFF < unit then .error .malformed
      else .ok (Char.ofNat ((leading - 0xD800) * 1024 + (unit - 0xDC00) + 0x10000), rest)
  | _ => .error .malformed

/-- A character given by its code units. -/
def codePoint (text : List Char) : Reading Char :=
  match codeUnit text with
  | .error fault => .error fault
  | .ok (unit, rest) =>
    if 0xDC00 ≤ unit ∧ unit ≤ 0xDFFF then .error .malformed
    else if 0xD800 ≤ unit ∧ unit ≤ 0xDBFF then trailingSurrogate unit rest
    else .ok (Char.ofNat unit, rest)

/-- A character given by an escape, after its backslash. -/
def escape : List Char → Reading Char
  | [] => .error .truncated
  | 'u' :: rest => codePoint rest
  | c :: rest =>
    match c with
    | '"' | '\\' | '/' => .ok (c, rest)
    | 'b' => .ok ('\x08', rest)
    | 'f' => .ok ('\x0c', rest)
    | 'n' => .ok ('\n', rest)
    | 'r' => .ok ('\r', rest)
    | 't' => .ok ('\t', rest)
    | _ => .error .malformed

/-- The characters of a string up to its closing quote, added to those before it, last first.
Each round takes at least one character, so the length of the text is fuel enough. -/
def textLoop : Nat → List Char → List Char → Reading String
  | 0, _, _ => .error .truncated
  | _, _, [] => .error .truncated
  | fuel + 1, before, c :: rest =>
    if c = '"' then .ok (String.ofList before.reverse, rest)
    else if c = '\\' then
      match escape rest with
      | .ok (c, rest) => textLoop fuel (c :: before) rest
      | .error fault => .error fault
    else if c < ' ' then .error .malformed
    else textLoop fuel (c :: before) rest

/-- Passes over an escape whose character does not matter. -/
def skipEscape : List Char → Except Fault (List Char)
  | [] => .error .truncated
  | 'u' :: rest => (codeUnit rest).map (·.2)
  | c :: rest =>
    if c ∈ ['"', '\\', '/', 'b', 'f', 'n', 'r', 't'] then .ok rest else .error .malformed

/-- Passes over a string whose characters do not matter. -/
def skipText : Nat → List Char → Except Fault (List Char)
  | 0, _ => .error .truncated
  | _, [] => .error .truncated
  | fuel + 1, c :: rest =>
    if c = '"' then .ok rest
    else if c = '\\' then
      match skipEscape rest with
      | .ok rest => skipText fuel rest
      | .error fault => .error fault
    else if c < ' ' then .error .malformed
    else skipText fuel rest

end ClusterKv.Json
