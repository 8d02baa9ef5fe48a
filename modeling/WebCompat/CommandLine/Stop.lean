/-!
# Stops

A command line may be no invocation, because it asks for help or because it
makes no sense.
-/

namespace WebCompat
namespace CommandLine

inductive Level where
  | program
  | scan
  | lookup
deriving DecidableEq, Repr

inductive Stop where
  | help (level : Level)
  | version (level : Level)
  | nothingGiven
  | missingCommand
  | unknownCommand
  /-- There is no such option, or there is no use for one more word. -/
  | unknownArgument
  | invalidValue
  | missingArgument
  /-- An option stands twice at one level. -/
  | repeatedOption
  | unneededValue
deriving DecidableEq, Repr

namespace Level

def programName : Level → String
  | program => "baseline-scanner"
  | scan => "baseline-scanner-scan"
  | lookup => "baseline-scanner-lookup"

def usage : Level → String
  | program =>
      "Usage: baseline-scanner [OPTIONS] <COMMAND>\n" ++
      "\n" ++
      "Commands:\n" ++
      "  scan    Scan files, directories or stdin for problematic APIs\n" ++
      "  lookup  Show what the knowledge base knows about one API\n" ++
      "  help    Print this message or the help of the given subcommand(s)\n"
  | scan => "Usage: baseline-scanner scan [OPTIONS] [PATH]...\n"
  | lookup => "Usage: baseline-scanner lookup [OPTIONS] <API>\n"

end Level

namespace Stop

def versionNumber : String := "0.3.1"

def exitCode : Stop → Nat
  | help _ => 0
  | version _ => 0
  | _ => 2

def output : Stop → String
  | help level => level.usage
  | version level => level.programName ++ " " ++ versionNumber ++ "\n"
  | _ => ""

def complaint? : Stop → Option String
  | help _ => none
  | version _ => none
  | nothingGiven => some Level.program.usage
  | missingCommand => some "error: a command is required but was not provided"
  | unknownCommand => some "error: unrecognized subcommand"
  | unknownArgument => some "error: unexpected argument"
  | invalidValue => some "error: invalid or missing value of an argument"
  | missingArgument => some "error: a required argument was not provided"
  | repeatedOption => some "error: an argument cannot be used multiple times"
  | unneededValue => some "error: unexpected value for an argument"

end Stop
end CommandLine
end WebCompat
