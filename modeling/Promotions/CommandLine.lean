import Promotions.CommandLine.Arguments
import Promotions.Service.Record

/-!
# The command line

The program compiles for a store or for the whole company, or judges a bill, and prints the answer
as JSON. Options in front of the command name the set of files to work on and the promotions that
are selected by date; options behind it belong to the command.
-/

namespace Promotions

/-! ## Settings -/

/-- How promotions are selected by date. -/
inductive WindowName where
  /-- Those that are valid today. -/
  | current
  /-- Those that are valid today, start soon or ended lately. -/
  | includeFuture
  /-- All. -/
  | allActive
  deriving DecidableEq

instance : Named WindowName where
  all := [.current, .includeFuture, .allActive]
  name
    | .current => "current"
    | .includeFuture => "include-future"
    | .allActive => "all-active"

/-- The form of log lines. -/
inductive LogFormat where
  /-- Lines to be read by people. -/
  | compact
  /-- Lines of JSON. -/
  | json
  deriving DecidableEq

instance : Named LogFormat where
  all := [.compact, .json]
  name
    | .compact => "compact"
    | .json => "json"

/-- What the options in front of a command say. -/
structure Settings where
  /-- The directory of the files. -/
  fixturesDir : String := "crates/core/fixtures"
  /-- The name of the set. -/
  set : String := "nusantara"
  /-- How promotions are selected by date. -/
  windowName : WindowName := .current
  /-- How many days ahead a promotion may start. -/
  futureDays : Count := 7
  /-- How many days ago a promotion may have ended. -/
  pastDays : Count := 0
  /-- The date to compile for. -/
  today : Option Date := none
  /-- How much is logged. -/
  logLevel : String := "warn"
  /-- The form of log lines. -/
  logFormat : LogFormat := .compact
  deriving DecidableEq

namespace Settings

/-- Which promotions are selected. -/
def window (s : Settings) : SelectionWindow :=
  match s.windowName with
  | .current => .currentOnly
  | .includeFuture => .includeFuture s.futureDays s.pastDays
  | .allActive => .allActive

/-- What a batch works by, where the date is that of today unless another is set. -/
def batchOptions (s : Settings) (today : Date) (now : Timestamp) : BatchOptions where
  today := s.today.getD today
  compiledAt := now
  window := s.window

/-- A value, or the error for one that does not fit. -/
def orInvalid {α : Type} (e : UsageError) : Option α → Except UsageError α
  | some a => .ok a
  | none => .error e

/-- One of the names of a type. -/
def readName {α : Type} [Named α] (text : String) : Except UsageError α :=
  orInvalid .invalidValue (Named.ofName? text)

/-- A number of days, which may have a sign and zeros in front. -/
def readCount (text : String) : Except UsageError Count :=
  let bounded : Option Nat → Option Count
    | some n => if h : n < UInt32.size then some (UInt32.ofNatLT n h) else none
    | none => none
  let found := match text.toList with
    | '+' :: digits => bounded (Digits.read? digits)
    | '-' :: digits => if Digits.read? digits = some 0 then some 0 else none
    | digits => bounded (Digits.read? digits)
  orInvalid .valueValidation found

/-- A path, which must not be empty. -/
def readPath (text : String) : Except UsageError String :=
  if text.isEmpty then .error .invalidValue else .ok text

/-- The options for what is compiled. -/
def compileOptions : List (CommandOption Settings) :=
  [{ name := "fixtures-dir"
     effect := .value fun text s => do return { s with fixturesDir := ← readPath text } },
   { name := "set"
     effect := .value fun text s => .ok { s with set := text } },
   { name := "window"
     effect := .value fun text s => do return { s with windowName := ← readName text } },
   { name := "future-days"
     effect := .value fun text s => do return { s with futureDays := ← readCount text } },
   { name := "past-days"
     effect := .value fun text s => do return { s with pastDays := ← readCount text } },
   { name := "today"
     effect := .value fun text s => do
      return { s with today := some (← orInvalid .valueValidation (Calendar.date? text)) } },
   .help]

/-- The options for what is logged. -/
def logOptions : List (CommandOption Settings) :=
  [{ name := "log-level"
     letter := some 'l'
     effect := .value fun text s => .ok { s with logLevel := text } },
   { name := "log-format"
     effect := .value fun text s => do return { s with logFormat := ← readName text } }]

/-- The settings that arguments without a command say. -/
def ofArguments (arguments : List String) : Except UsageError Settings :=
  readOptions compileOptions {} arguments

/-- The settings of what is compiled as JSON. -/
protected def toJson (s : Settings) : Json :=
  .obj
    [("fixtures_dir", .str s.fixturesDir),
     ("set", .str s.set),
     ("future_days", Promotions.toJson s.futureDays),
     ("past_days", Promotions.toJson s.pastDays),
     ("today", Promotions.toJson s.today),
     ("window", Promotions.toJson s.window)]

end Settings

/-! ## Commands -/

/-- What the program is asked for. -/
inductive Command where
  /-- The documents of a store. -/
  | compileStore (store : StoreId)
  /-- The documents of the open stores of the company. -/
  | compileCompany
  /-- What comes of a bill. -/
  | evaluate (bill : String) (customer : Option String)
  /-- What comes of a bill that is settled. -/
  | settle (bill : String) (customer : Option String)

namespace Command

/-- A value that has to be given. -/
def required {α : Type} : Option α → Except UsageError α :=
  Settings.orInvalid .missingRequiredArgument

/-- The options behind `compile-store`. -/
def storeOptions : List (CommandOption (Option StoreId)) :=
  [{ name := "store"
     effect := .value fun text _ => do
      return some (← Settings.orInvalid .valueValidation (Id.ofText? text)) },
   .help]

/-- What the options behind `evaluate` say. -/
structure BillSettings where
  /-- The key of the bill. -/
  bill : Option String := none
  /-- The key of the customer. -/
  customer : Option String := none
  /-- The bill is settled. -/
  settle : Bool := false

/-- The options behind `evaluate`. -/
def billOptions : List (CommandOption BillSettings) :=
  [{ name := "bill", effect := .value fun text s => .ok { s with bill := some text } },
   { name := "customer", effect := .value fun text s => .ok { s with customer := some text } },
   { name := "settle", effect := .flag fun s => { s with settle := true } },
   .help]

/-- The commands by their names, with how what stands behind the name is read. -/
def byName : List (String × (List String → Except UsageError Command)) :=
  [("compile-store", fun arguments => do
      return compileStore (← required (← readOptions storeOptions none arguments))),
   ("compile-company", fun arguments => do
      readOptions [.help] () arguments
      return compileCompany),
   ("evaluate", fun arguments => do
      let s ← readOptions billOptions {} arguments
      let bill ← required s.bill
      return if s.settle then settle bill s.customer else evaluate bill s.customer),
   ("help", fun _ => .error .displayHelp)]

end Command

/-- A command with its settings. -/
structure Invocation where
  /-- The settings. -/
  settings : Settings
  /-- The command. -/
  command : Command

/-- The invocation that arguments say. -/
def Invocation.ofArguments (arguments : List String) : Except UsageError Invocation := do
  let options := Settings.logOptions ++ Settings.compileOptions
  let commands := Command.byName.map (·.1)
  let (r, found) ← ArgumentReading.read options commands { settings := ({} : Settings) } arguments
  let command ← found.mapM fun (name, rest) =>
    match Command.byName.lookup name with
    | some ofArguments => ofArguments rest
    | none => .error .unknownArgument
  let settings := (← r.resolve).settings
  return { settings, command := ← Command.required command }

/-! ## Running -/

/-- Why a command has no answer. -/
inductive CommandError where
  /-- The files of a set cannot be loaded. -/
  | load (set : String) (error : SourceError)
  /-- There are no documents of a store. -/
  | compileStore (store : StoreId) (error : ServiceError)
  /-- There are no documents of the company. -/
  | compileCompany (error : ServiceError)
  /-- Nothing comes of a bill. -/
  | evaluate (bill : String) (error : ServiceError)
  /-- A bill cannot be settled. -/
  | settle (bill : String) (error : ServiceError)

/-- The wording of the error. -/
def CommandError.message : CommandError → String
  | load set e => s!"failed to load fixture set {set}: {e.message}"
  | compileStore store e => s!"failed to compile store {store.toText}: {e.message}"
  | compileCompany e => s!"failed to compile company: {e.message}"
  | evaluate bill e => s!"failed to evaluate bill {bill}: {e.message}"
  | settle bill e => s!"failed to settle bill {bill}: {e.message}"

/-- The error of a service as that of a command. -/
def CommandError.orElse {α : Type} (encode : ServiceError → CommandError) :
    Except ServiceError α → Except CommandError α
  | .ok a => .ok a
  | .error e => .error (encode e)

namespace Invocation

/-- The answer to a command on the files of its set. A bill is settled against an empty ledger. -/
def run (i : Invocation) (files : FixtureFiles) (today : Date) (now : Timestamp) :
    Except CommandError Json := do
  let f ← match Fixture.ofSet files with
    | .ok f => pure f
    | .error e => throw (.load i.settings.set (.ofFixture e))
  let options := i.settings.batchOptions today now
  match i.command with
  | .compileStore store => do
    let answer ← CommandError.orElse (.compileStore store) (Service.compileStore f store options)
    return answer.toJson
  | .compileCompany => do
    let answer ← CommandError.orElse .compileCompany (Service.compileCompany f options)
    return answer.toJson
  | .evaluate bill customer => do
    let request := { bill, customer, compiledAt := now }
    let answer ← CommandError.orElse (.evaluate bill) (Service.evaluate f .empty request)
    return answer.toJson
  | .settle bill customer => do
    let request := { bill, customer, compiledAt := now }
    let (answer, _) ← CommandError.orElse (.settle bill) (Service.settle f .empty request)
    return answer.toJson

end Invocation

end Promotions
