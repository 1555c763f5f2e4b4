import Promotions.CommandLine
import Promotions.Json.Indented
import Promotions.Json.Parser
import Std.Time.Format

/-!
# The program

Reads the files of the set, runs the command and prints its answer. An error of the command is
written to the error stream and ends the program with code one, a command line that is not
understood ends it with code two.
-/

namespace Promotions.Program

/-- What stands in a file. -/
def readFixtureFile (settings : Settings) (folder : String) : IO FileContent := do
  let path := s!"{settings.fixturesDir}/{folder}/{settings.set}.yml"
  match ← (IO.FS.readFile path).toBaseIO with
  | .error _ => return .error .unreadable
  | .ok text =>
    match Json.ofText? text with
    | some j => return .ok j
    | none => return .error .malformed

/-- The files of a set. -/
def readFixtureFiles (settings : Settings) : IO FixtureFiles := do
  return {
    reference := ← readFixtureFile settings "reference"
    promotions := ← readFixtureFile settings "promotions"
    bills := ← readFixtureFile settings "bills"
  }

/-- The time that documents are stamped with. -/
def currentTimestamp : IO Timestamp := do
  let now ← Std.Time.Timestamp.now
  let epoch : LocalMoment := ⟨Date.epoch, .midnight⟩
  let moment := LocalMoment.ofNanos? (epoch.nanos + now.toNanosecondsSinceUnixEpoch.val)
  return (moment.bind Timestamp.of?).getD .epoch

/-- The date in the time zone of the system. -/
def currentDate : IO Date := do
  let today ← Std.Time.PlainDate.now
  return (Date.of? today.year.toInt today.month.val.toNat today.day.val.toNat).getD .epoch

/-- How the program is called. -/
def usage : String :=
  "Usage: promotions [OPTIONS] compile-store --store UUID\n" ++
  "       promotions [OPTIONS] compile-company\n" ++
  "       promotions [OPTIONS] evaluate --bill KEY [--customer KEY] [--settle]"

end Promotions.Program

open Promotions Program

/-- Runs the program. -/
def main (arguments : List String) : IO UInt32 := do
  match Invocation.ofArguments arguments with
  | .error .displayHelp =>
    IO.println usage
    return 0
  | .error e =>
    IO.eprintln s!"error: {e.kind}\n{usage}"
    return 2
  | .ok invocation =>
    let files ← readFixtureFiles invocation.settings
    match invocation.run files (← currentDate) (← currentTimestamp) with
    | .ok answer =>
      IO.println answer.toIndentedText
      return 0
    | .error e =>
      IO.eprintln e.message
      return 1
