/-!
# Arguments of a command line

A command line consists of options and of the name of a command. An option with a value is written
`--name value` or `--name=value`, one with a letter also `-l value`, `-lvalue` or `-l=value`. The
value of an option that stands behind it is looked at only when the next option comes or the
arguments end, so of two faults an unknown argument is reported before a value that does not fit.
-/

namespace Promotions

/-- Why a command line is not understood. -/
inductive UsageError where
  /-- No option or command is spelled that way. -/
  | unknownArgument
  /-- An option has no value, or one that is none of its names. -/
  | invalidValue
  /-- A value is not of its form. -/
  | valueValidation
  /-- An option stands twice. -/
  | argumentConflict
  /-- A value stands behind an option that takes none. -/
  | tooManyValues
  /-- A command or an option that is needed is not given. -/
  | missingRequiredArgument
  /-- Help is asked for. -/
  | displayHelp
  deriving DecidableEq

namespace UsageError

/-- The short name of the error. -/
def kind : UsageError → String
  | unknownArgument => "UnknownArgument"
  | invalidValue => "InvalidValue"
  | valueValidation => "ValueValidation"
  | argumentConflict => "ArgumentConflict"
  | tooManyValues => "TooManyValues"
  | missingRequiredArgument => "MissingRequiredArgument"
  | displayHelp => "DisplayHelp"

end UsageError

/-- What an option does to the settings. -/
inductive OptionEffect (σ : Type) where
  /-- Its value is taken up. -/
  | value (take : String → σ → Except UsageError σ)
  /-- It takes no value. -/
  | flag (take : σ → σ)
  /-- It asks for help. -/
  | help

namespace OptionEffect

variable {σ : Type}

/-- The option has a value. -/
def takesValue : OptionEffect σ → Bool
  | value _ => true
  | flag _ => false
  | help => false

end OptionEffect

/-- An option of a command. -/
structure CommandOption (σ : Type) where
  /-- What stands behind the two hyphens. -/
  name : String
  /-- What stands behind the one hyphen. -/
  letter : Option Char := none
  /-- What it does to the settings. -/
  effect : OptionEffect σ

/-- The option that every command has. -/
def CommandOption.help {σ : Type} : CommandOption σ where
  name := "help"
  letter := some 'h'
  effect := .help

/-- An argument by its spelling. -/
inductive Argument where
  /-- Two hyphens, behind which no options stand. -/
  | separator
  /-- An option by its name, with a value if there is an equals sign. -/
  | long (name : String) (value : Option String)
  /-- Options by their letters. -/
  | short (letters : List Char)
  /-- A value or the name of a command. -/
  | plain (text : String)

/-- The argument that a text is. -/
def Argument.ofText (text : String) : Argument :=
  match text.toList with
  | '-' :: '-' :: [] => .separator
  | '-' :: '-' :: rest =>
    let name := String.ofList (rest.takeWhile (· ≠ '='))
    match rest.dropWhile (· ≠ '=') with
    | [] => .long name none
    | _ :: value => .long name (some (String.ofList value))
  | '-' :: c :: rest => .short (c :: rest)
  | _ => .plain text

/-- How far the reading of a command line has come. -/
structure ArgumentReading (σ : Type) where
  /-- The settings so far. -/
  settings : σ
  /-- The names of the options taken up. -/
  given : List String := []
  /-- The option that stood last, with the value behind it, if it is not yet taken up. -/
  pending : Option (CommandOption σ × Option String) := none

namespace ArgumentReading

variable {σ : Type}

/-- The reading after an option is taken up. A missing value is reported before a repetition, and
that before a value that does not fit. -/
def accept (r : ArgumentReading σ) (o : CommandOption σ) (value : Option String) :
    Except UsageError (ArgumentReading σ) :=
  let known (take : σ → Except UsageError σ) : Except UsageError (ArgumentReading σ) :=
    if o.name ∈ r.given then .error .argumentConflict
    else (take r.settings).map fun settings => { r with settings, given := o.name :: r.given }
  match o.effect, value with
  | .help, _ => .error .displayHelp
  | .flag take, _ => known fun settings => .ok (take settings)
  | .value _, none => .error .invalidValue
  | .value take, some text => known (take text)

/-- The reading after the option that stood last is taken up. -/
def resolve (r : ArgumentReading σ) : Except UsageError (ArgumentReading σ) :=
  match r.pending with
  | none => .ok r
  | some (o, value) => accept { r with pending := none } o value

/-- The reading after an option whose value, if it has one, is part of the same argument. -/
def attach (r : ArgumentReading σ) (o : CommandOption σ) (value : Option String) :
    Except UsageError (ArgumentReading σ) := do
  (← r.resolve).accept o value

/-- The reading after an option whose value is still to come. -/
def await (r : ArgumentReading σ) (o : CommandOption σ) :
    Except UsageError (ArgumentReading σ) := do
  return { ← r.resolve with pending := some (o, none) }

/-- The reading after an option by its name. -/
def readLong (options : List (CommandOption σ)) (r : ArgumentReading σ) (name : String)
    (value : Option String) : Except UsageError (ArgumentReading σ) :=
  match options.find? (·.name = name) with
  | none => .error .unknownArgument
  | some o =>
    match o.effect.takesValue, value with
    | true, none => r.await o
    | false, some _ => .error .tooManyValues
    | _, value => r.attach o value

/-- The reading after options by their letters. What stands behind the letter of an option with a
value is its value. -/
def readShort (options : List (CommandOption σ)) (r : ArgumentReading σ) :
    List Char → Except UsageError (ArgumentReading σ)
  | [] => .ok r
  | c :: rest =>
    match options.find? (·.letter = some c) with
    | none => .error .unknownArgument
    | some o =>
      match o.effect.takesValue, rest with
      | false, rest => do readShort options (← r.attach o none) rest
      | true, [] => r.await o
      | true, '=' :: value => r.attach o (some (String.ofList value))
      | true, value => r.attach o (some (String.ofList value))

/-- The reading after all arguments or, if the name of a command comes, that name and what stands
behind it. -/
def read (options : List (CommandOption σ)) (commands : List String) (r : ArgumentReading σ) :
    List String → Except UsageError (ArgumentReading σ × Option (String × List String))
  | [] => .ok (r, none)
  | text :: rest =>
    match Argument.ofText text with
    | .separator => if rest.isEmpty then .ok (r, none) else .error .unknownArgument
    | .long name value => do read options commands (← readLong options r name value) rest
    | .short letters => do read options commands (← readShort options r letters) rest
    | .plain value =>
      match r.pending with
      | some (o, none) => read options commands { r with pending := some (o, some value) } rest
      | _ =>
        if value ∈ commands then .ok (r, some (value, rest)) else .error .unknownArgument

end ArgumentReading

/-- The settings that arguments with no command among them lead to. -/
def readOptions {σ : Type} (options : List (CommandOption σ)) (settings : σ)
    (arguments : List String) : Except UsageError σ := do
  let (r, _) ← ArgumentReading.read options [] { settings } arguments
  return (← r.resolve).settings

end Promotions
