import ClusterKv.Json.Text

/-! Passing over a value of any kind, such as that of a key nobody asked for. Here a number that
breaks off is malformed and not truncated, and its size does not matter. -/

namespace ClusterKv.Json

/-- Passes over an exponent, after its letter. -/
def skipExponent (text : List Char) : Except Fault (List Char) :=
  let text := match text with
    | '+' :: rest | '-' :: rest => rest
    | rest => rest
  match text with
  | c :: rest => if (digit? c).isSome then .ok (skipDigits rest) else .error .malformed
  | [] => .error .malformed

/-- Passes over the rest of a number, after its whole part. -/
def skipFraction : List Char → Except Fault (List Char)
  | '.' :: c :: rest =>
    if (digit? c).isSome then
      match skipDigits rest with
      | 'e' :: rest | 'E' :: rest => skipExponent rest
      | rest => .ok rest
    else .error .malformed
  | '.' :: [] => .error .malformed
  | 'e' :: rest | 'E' :: rest => skipExponent rest
  | rest => .ok rest

/-- Passes over a number, after its sign. -/
def skipNumber : List Char → Except Fault (List Char)
  | [] => .error .malformed
  | '0' :: rest =>
    match rest with
    | c :: _ => if (digit? c).isSome then .error .malformed else skipFraction rest
    | [] => .ok []
  | c :: rest => if (digit? c).isSome then skipFraction (skipDigits rest) else .error .malformed

mutual

/-- Passes over a value. Each call takes at least one character. -/
def skipValue : Nat → List Char → Except Fault (List Char)
  | 0, _ => .error .truncated
  | fuel + 1, text =>
    match skipBlank text with
    | [] => .error .truncated
    | 'n' :: rest => word ['u', 'l', 'l'] rest
    | 't' :: rest => word ['r', 'u', 'e'] rest
    | 'f' :: rest => word ['a', 'l', 's', 'e'] rest
    | '-' :: rest => skipNumber rest
    | '"' :: rest => skipText fuel rest
    | '[' :: rest =>
      match skipBlank rest with
      | [] => .error .truncated
      | ']' :: rest => .ok rest
      | rest => skipElements fuel rest
    | '\x7b' :: rest =>
      match skipBlank rest with
      | [] => .error .truncated
      | '\x7d' :: rest => .ok rest
      | rest => skipMembers fuel rest
    | c :: rest => if (digit? c).isSome then skipNumber (c :: rest) else .error .malformed

/-- Passes over the elements of a list and its end. -/
def skipElements : Nat → List Char → Except Fault (List Char)
  | 0, _ => .error .truncated
  | fuel + 1, text =>
    match skipValue fuel text with
    | .error fault => .error fault
    | .ok rest =>
      match skipBlank rest with
      | [] => .error .truncated
      | ',' :: rest => skipElements fuel rest
      | ']' :: rest => .ok rest
      | _ => .error .malformed

/-- Passes over the members of an object and its end. -/
def skipMembers : Nat → List Char → Except Fault (List Char)
  | 0, _ => .error .truncated
  | fuel + 1, text =>
    match skipBlank text with
    | [] => .error .truncated
    | '"' :: rest =>
      match skipText fuel rest with
      | .error fault => .error fault
      | .ok rest =>
        match skipBlank rest with
        | [] => .error .truncated
        | ':' :: rest =>
          match skipValue fuel rest with
          | .error fault => .error fault
          | .ok rest =>
            match skipBlank rest with
            | [] => .error .truncated
            | ',' :: rest => skipMembers fuel rest
            | '\x7d' :: rest => .ok rest
            | _ => .error .malformed
        | _ => .error .malformed
    | _ => .error .malformed

end

end ClusterKv.Json
