import BrokerConnector.Loopback.Arguments
import BrokerConnector.Loopback.Run
import Std.Time.DateTime.Timestamp

/-!
# The command

`loopback --config FILE [--count N]` runs a loopback and prints its report. Time passes only inside
the loopback, so nothing is waited for.
-/

namespace BrokerConnector.Command

open Loopback

/-- The help of the command. -/
def help : String := "\n".intercalate
  ["Write records through the connector and read them back",
   "",
   "Usage: loopback [OPTIONS] --config <CONFIG>",
   "",
   "Options:",
   "  -c, --config <CONFIG>  Path to the YAML configuration file",
   "  -n, --count <COUNT>    Number of records to write, overrides the configuration file",
   "  -h, --help             Print help"]

/-- The text of a fault in the arguments. -/
def usageText : UsageFault → String
  | .help => help
  | .unknownArgument => "error: unexpected argument found"
  | .missingArgument => "error: the required argument --config <CONFIG> was not provided"
  | .noValue => "error: a value is required for an option but none was supplied"
  | .badValue => "error: invalid value for --count <COUNT>"
  | .repeatedArgument => "error: an option cannot be used multiple times"
  | .unexpectedValue => "error: unexpected value for an option"

/-- The text of a failure. -/
def failureText (chain : List String) : String :=
  match chain with
  | [] => "Error"
  | [only] => "Error: " ++ only
  | first :: causes =>
    "Error: " ++ first ++ "\n\nCaused by:\n" ++
      "\n".intercalate (causes.map fun cause => "    " ++ cause)

/-- The time of day, in milliseconds since the epoch. -/
def timeOfDay : IO Int64 := do
  let now ← Std.Time.Timestamp.now
  return Int64.ofInt now.toMillisecondsSinceUnixEpoch.val

/-- The content of a file, if it can be read. -/
def contentOf (path : String) : IO (Option String) := do
  try
    return some (← IO.FS.readFile path)
  catch _ =>
    return none

/-- Runs the loopback that arguments ask for. -/
def execute (arguments : Arguments) : IO UInt32 := do
  let content ← contentOf arguments.config
  match load arguments.config content arguments.count with
  | .error failure =>
    IO.eprintln (failureText failure.chain)
    return 1
  | .ok configuration =>
    let seed ← IO.rand 0 1000000
    match run (← timeOfDay) (fun turn => (turn + 1) * seed) configuration with
    | .done report =>
      for line in report.lines (fun stamp => toString stamp.toInt) do
        IO.println line
      for line in report.failureLines do
        IO.eprintln line
      return 0
    | .failed failure =>
      IO.eprintln (failureText failure.chain)
      return 1
    | .abandoned =>
      IO.eprintln "Error: the records to read never came"
      return 1

end BrokerConnector.Command

open BrokerConnector in
/-- Runs the command. -/
def main (arguments : List String) : IO UInt32 := do
  let arguments := if arguments.head? = some "loopback" then arguments.drop 1 else arguments
  match Loopback.Arguments.parse arguments with
  | .ok arguments => Command.execute arguments
  | .error .help =>
    IO.println Command.help
    return 0
  | .error fault =>
    IO.eprintln (Command.usageText fault)
    return 2
