import ClusterKv.Assoc
import ClusterKv.Text.Decimal

/-! Reading the words of a command line: options with one value each, and positional arguments. -/

namespace ClusterKv.CommandLine

/-- Why a command line cannot be followed, or what it asks for instead. -/
inductive Fault where
  | displayHelp
  | displayHelpOnMissingArgumentOrSubcommand
  | displayVersion
  | unknownArgument
  | invalidSubcommand
  | missingRequiredArgument
  | invalidValue
  | valueValidation
  | argumentConflict
  | tooManyValues
deriving DecidableEq, Repr

/-- The name of the kind of a fault. -/
def Fault.kind : Fault → String
  | displayHelp => "DisplayHelp"
  | displayHelpOnMissingArgumentOrSubcommand => "DisplayHelpOnMissingArgumentOrSubcommand"
  | displayVersion => "DisplayVersion"
  | unknownArgument => "UnknownArgument"
  | invalidSubcommand => "InvalidSubcommand"
  | missingRequiredArgument => "MissingRequiredArgument"
  | invalidValue => "InvalidValue"
  | valueValidation => "ValueValidation"
  | argumentConflict => "ArgumentConflict"
  | tooManyValues => "TooManyValues"

/-- How the program ends. What was asked for by name is no failure. -/
def Fault.exitCode : Fault → Nat
  | displayHelp | displayVersion => 0
  | _ => 2

/-- The values that an option takes. -/
inductive ValueKind where
  | text
  /-- A text that is not empty. -/
  | path
  /-- A natural number up to a bound. -/
  | natural (most : Nat)
  /-- The same, where zero may have a minus sign. -/
  | bounded (most : Nat)
deriving DecidableEq, Repr

/-- What is wrong with a value. -/
def ValueKind.fault? (word : String) : ValueKind → Option Fault
  | text => none
  | path => if word.isEmpty then some .invalidValue else none
  | natural most => if (Text.natural? word.toList).any (· ≤ most) then none else some .valueValidation
  | bounded most => if (Text.signed? word.toList).any (· ≤ most) then none else some .valueValidation

/-- What a command can be given. -/
structure Shape where
  /-- The options, by the word after the two dashes. -/
  options : List (String × ValueKind)
  /-- How many positional arguments there are, all of them required. -/
  positionals : Nat

/-- An option that has been met and not yet checked. -/
structure Pending where
  name : String
  kind : ValueKind
  value : Option String

/-- What has been read so far. -/
structure Progress where
  /-- The options with their values. -/
  options : Assoc String String := []
  /-- The positional arguments, last first. -/
  positionals : List String := []
  pending : Option Pending := none

namespace Progress

/-- Checks the last option met. -/
def settle (progress : Progress) : Except Fault Progress :=
  match progress.pending with
  | none => .ok progress
  | some ⟨name, kind, value⟩ =>
    if progress.options.has name then .error .argumentConflict
    else match value with
      | none => .error .invalidValue
      | some word =>
        match kind.fault? word with
        | some fault => .error fault
        | none => .ok { progress with options := progress.options.put name word, pending := none }

/-- Takes a positional argument. -/
def positional (shape : Shape) (word : String) (progress : Progress) : Except Fault Progress :=
  if progress.positionals.length < shape.positionals then
    progress.settle.map fun progress =>
      { progress with positionals := word :: progress.positionals }
  else .error .unknownArgument

/-- Takes an option, which may have its value with it. -/
def option (shape : Shape) (name : String) (value : Option String) (progress : Progress) :
    Except Fault Progress :=
  match shape.options.find? (·.1 = name) with
  | some (_, kind) =>
    match progress.settle with
    | .error fault => .error fault
    | .ok progress =>
      let progress := { progress with pending := some ⟨name, kind, value⟩ }
      if value.isSome then progress.settle else .ok progress
  | none =>
    if name ≠ "help" then .error .unknownArgument
    else if value.isSome then .error .tooManyValues
    else match progress.settle with
      | .error fault => .error fault
      | .ok _ => .error .displayHelp

end Progress

/-- The name and the value of a word that starts with two dashes. -/
def splitOption (rest : List Char) : String × Option String :=
  match rest.dropWhile (· ≠ '=') with
  | [] => (String.ofList rest, none)
  | _ :: value => (String.ofList (rest.takeWhile (· ≠ '=')), some (String.ofList value))

/-- Reads the words of a command. After two dashes alone, every word is positional. -/
def readWords (shape : Shape) : Bool → Progress → List String → Except Fault Progress
  | _, progress, [] => progress.settle
  | true, progress, word :: rest =>
    match progress.positional shape word with
    | .error fault => .error fault
    | .ok progress => readWords shape true progress rest
  | false, progress, word :: rest =>
    match word.toList with
    | ['-', '-'] => readWords shape true progress rest
    | '-' :: '-' :: chars =>
      let (name, value) := splitOption chars
      match progress.option shape name value with
      | .error fault => .error fault
      | .ok progress => readWords shape false progress rest
    | '-' :: c :: _ =>
      if c ≠ 'h' then .error .unknownArgument
      else match progress.settle with
        | .error fault => .error fault
        | .ok _ => .error .displayHelp
    | _ =>
      match progress.pending with
      | some ⟨name, kind, none⟩ =>
        readWords shape false { progress with pending := some ⟨name, kind, some word⟩ } rest
      | _ =>
        match progress.positional shape word with
        | .error fault => .error fault
        | .ok progress => readWords shape false progress rest

/-- The options and the positional arguments of a command. -/
def readShape (shape : Shape) (words : List String) :
    Except Fault (Assoc String String × List String) :=
  match readWords shape false {} words with
  | .error fault => .error fault
  | .ok progress =>
    if progress.positionals.length < shape.positionals then .error .missingRequiredArgument
    else .ok (progress.options, progress.positionals.reverse)

end ClusterKv.CommandLine
