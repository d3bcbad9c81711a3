/-! Natural numbers in decimal digits. -/

namespace ClusterKv.Text

/-- The number that decimal digits spell, if there are any. -/
def digits? (chars : List Char) : Option Nat :=
  if chars.isEmpty then none else
    chars.foldlM (fun n c => if c.isDigit then some (n * 10 + (c.toNat - '0'.toNat)) else none) 0

/-- The number that digits spell after a plus sign or nothing. -/
def natural? : List Char → Option Nat
  | '+' :: rest => digits? rest
  | chars => digits? chars

/-- The same, where zero may have a minus sign. -/
def signed? : List Char → Option Nat
  | '-' :: rest => (digits? rest).filter (· = 0)
  | chars => natural? chars

/-- Is a character white space? -/
def isBlank (c : Char) : Bool :=
  ('\x09' ≤ c && c ≤ '\x0d') || c = ' ' || c = '\u0085' || c = '\u00a0' || c = '\u1680'
    || ('\u2000' ≤ c && c ≤ '\u200a') || c = '\u2028' || c = '\u2029' || c = '\u202f'
    || c = '\u205f' || c = '\u3000'

/-- The characters without the white space at both ends. -/
def trim (chars : List Char) : List Char :=
  ((chars.dropWhile isBlank).reverse.dropWhile isBlank).reverse

end ClusterKv.Text
