import ClusterKv.Json.Basic

/-! Numbers where a whole number is wanted.

The significand is gathered in 64 bits; a number that leaves that range, or has a fraction or an
exponent, is a binary fraction, of which only one thing matters here: whether it is too large
to be one. -/

namespace ClusterKv.Json

/-- A number as far as readers of whole numbers care. -/
inductive Number where
  | natural (n : Nat)
  /-- The negative of a positive number. -/
  | negative (n : Nat)
  /-- Zero with a sign, a fraction, or out of the 64-bit range. -/
  | fractional
deriving DecidableEq, Repr

namespace Number

/-- The largest significand. -/
abbrev maxSignificand : Nat := UInt64.size - 1

/-- A natural number rounded to 53 significant bits, ties to even. -/
def round53 (n : Nat) : Nat :=
  let bits := n.log2 + 1
  if bits ≤ 53 then n else
    let unit := 1 <<< (bits - 53)
    let kept := n / unit
    let twice := 2 * (n % unit)
    if twice > unit ∨ (twice = unit ∧ kept % 2 = 1) then (kept + 1) * unit else kept * unit

/-- Is `significand * 10 ^ exponent` beyond the largest binary fraction of 64 bits? -/
def overflows (significand : Nat) (exponent : Int) : Bool :=
  if significand = 0 ∨ exponent < 0 then false
  else if exponent > 308 then true
  else round53 significand * round53 (Nat.pow 10 exponent.toNat) ≥ 1 <<< 1024 - 1 <<< 970

/-- A number with a fraction or an exponent, once all its parts are known. -/
def fraction (significand : Nat) (exponent : Int) (rest : List Char) : Reading Number :=
  if overflows significand exponent then .error .malformed else .ok (.fractional, rest)

/-- The digits of an exponent from its second on. -/
def exponentDigits (significand : Nat) (start : Int) (below : Bool) :
    Nat → List Char → Reading Number
  | exponent, [] => fraction significand (start + scaled exponent) []
  | exponent, c :: rest =>
    match digit? c with
    | none => fraction significand (start + scaled exponent) (c :: rest)
    | some d =>
      if exponent * 10 + d > 0x7fffffff then
        if significand ≠ 0 ∧ !below then .error .malformed
        else .ok (.fractional, skipDigits rest)
      else exponentDigits significand start below (exponent * 10 + d) rest
where
  /-- The exponent with its sign. -/
  scaled (exponent : Nat) : Int := if below then -(exponent : Int) else exponent

/-- An exponent, after its letter. -/
def exponent (significand : Nat) (start : Int) (text : List Char) : Reading Number :=
  let (below, text) := match text with
    | '+' :: rest => (false, rest)
    | '-' :: rest => (true, rest)
    | rest => (false, rest)
  match text with
  | [] => .error .truncated
  | c :: rest =>
    match digit? c with
    | none => .error .malformed
    | some d => exponentDigits significand start below d rest

/-- What may follow the digits of a significand. -/
def suffix (significand : Nat) (start : Int) : List Char → Reading Number
  | 'e' :: rest | 'E' :: rest => exponent significand start rest
  | rest => fraction significand start rest

/-- The digits after a point, `places` of which have been read. Digits that would leave the
64-bit range are passed over. -/
def decimals (start : Int) : Nat → Nat → List Char → Reading Number
  | _, 0, [] => .error .truncated
  | significand, places, [] => suffix significand (start - places) []
  | significand, places, c :: rest =>
    match digit? c with
    | some d =>
      if significand * 10 + d > maxSignificand then
        suffix significand (start - places) (skipDigits rest)
      else decimals start (significand * 10 + d) (places + 1) rest
    | none =>
      if places = 0 then .error .malformed else suffix significand (start - places) (c :: rest)

/-- The rest of a whole part that has left the 64-bit range; each further digit scales by ten. -/
def wholeOverflow (significand : Nat) : Nat → List Char → Reading Number
  | scale, [] => fraction significand scale []
  | scale, '.' :: rest => decimals scale significand 0 rest
  | scale, c :: rest =>
    if (digit? c).isSome then wholeOverflow significand (scale + 1) rest
    else suffix significand scale (c :: rest)

/-- A whole number with its sign; the negative ones are those of 64-bit two's complement. -/
def signed (positive : Bool) (significand : Nat) : Number :=
  if positive then .natural significand
  else if 0 < significand ∧ significand ≤ 1 <<< 63 then .negative significand
  else .fractional

/-- What follows a whole part within the 64-bit range. -/
def afterWhole (positive : Bool) (significand : Nat) : List Char → Reading Number
  | '.' :: rest => decimals 0 significand 0 rest
  | 'e' :: rest | 'E' :: rest => exponent significand 0 rest
  | rest => .ok (signed positive significand, rest)

/-- The digits of a whole part from its second on. -/
def wholeDigits (positive : Bool) : Nat → List Char → Reading Number
  | significand, [] => afterWhole positive significand []
  | significand, c :: rest =>
    match digit? c with
    | some d =>
      if significand * 10 + d > maxSignificand then wholeOverflow significand 1 rest
      else wholeDigits positive (significand * 10 + d) rest
    | none => afterWhole positive significand (c :: rest)

/-- A number after its sign: one zero, or digits that do not start with one. -/
def unsigned (positive : Bool) : List Char → Reading Number
  | [] => .error .truncated
  | '0' :: rest =>
    match rest with
    | c :: _ => if (digit? c).isSome then .error .malformed else afterWhole positive 0 rest
    | [] => afterWhole positive 0 rest
  | c :: rest =>
    match digit? c with
    | some d => wholeDigits positive d rest
    | none => .error .malformed

end Number

end ClusterKv.Json
