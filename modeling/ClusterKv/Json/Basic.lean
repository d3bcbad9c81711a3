/-! What every part of the JSON reader shares: the kinds of fault, blanks and fixed words.

A reader takes the text that is left and gives back a value and the text after it. Reading goes
from left to right and stops at the first fault. -/

namespace ClusterKv.Json

/-- Why a text could not be read. -/
inductive Fault where
  /-- The text is not JSON. -/
  | malformed
  /-- The text is JSON so far, but not the value that is wanted here. -/
  | mismatch
  /-- The text ends too early. -/
  | truncated
deriving DecidableEq, Repr

/-- The name of the kind of a fault. -/
def Fault.kind : Fault → String
  | malformed => "syntax"
  | mismatch => "data"
  | truncated => "eof"

def Fault.message : Fault → String
  | malformed => "malformed text"
  | mismatch => "unexpected value"
  | truncated => "unexpected end of text"

/-- A value and the text after it, or the first fault. -/
abbrev Reading (α : Type) := Except Fault (α × List Char)

/-- The four blanks of JSON. -/
def isBlank (c : Char) : Bool := c = ' ' || c = '\n' || c = '\t' || c = '\r'

/-- The text from its first character that is not blank. -/
def skipBlank : List Char → List Char
  | [] => []
  | c :: rest => if isBlank c then skipBlank rest else c :: rest

/-- Passes over a fixed word. -/
def word : List Char → List Char → Except Fault (List Char)
  | [], text => .ok text
  | _ :: _, [] => .error .truncated
  | w :: more, c :: rest => if c = w then word more rest else .error .malformed

/-- The value of a decimal digit. -/
def digit? (c : Char) : Option Nat :=
  if '0' ≤ c ∧ c ≤ '9' then some (c.toNat - '0'.toNat) else none

/-- The text after the digits at its front. -/
def skipDigits : List Char → List Char
  | [] => []
  | c :: rest => if (digit? c).isSome then skipDigits rest else c :: rest

end ClusterKv.Json
