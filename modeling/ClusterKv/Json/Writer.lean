/-! Writing JSON without blanks: keys in the order given, and in strings no escape that JSON does
not ask for. -/

namespace ClusterKv.Json

/-- A hexadecimal digit, lower case. -/
def hexDigit (n : Nat) : Char := Nat.digitChar (n % 16)

/-- A character as it stands in a string: quotes, backslashes and controls are escaped, the
controls that have one by their letter. -/
def writeChar (c : Char) : String :=
  if c = '"' then "\\\"" else if c = '\\' then "\\\\"
  else if c = '\x08' then "\\b" else if c = '\x0c' then "\\f" else if c = '\n' then "\\n"
  else if c = '\r' then "\\r" else if c = '\t' then "\\t"
  else if c < ' ' then
    "\\u00" ++ String.ofList [hexDigit (c.toNat / 16), hexDigit c.toNat]
  else c.toString

/-- A string in quotes. -/
def writeString (s : String) : String :=
  s.foldl (fun text c => text ++ writeChar c) "\"" ++ "\""

/-- A list of written values. -/
def writeList (items : List String) : String := "[" ++ String.intercalate "," items ++ "]"

/-- An object of written values. -/
def writeObject (members : List (String × String)) : String :=
  "\x7b" ++ String.intercalate "," (members.map fun (k, v) => writeString k ++ ":" ++ v) ++ "\x7d"

end ClusterKv.Json
