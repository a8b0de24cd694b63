import Shortlist.CommandLine.Arguments
import Shortlist.CommandLine.Terminal

/-!
# Texts of the command line

The help, the version, and what is written about arguments that are misused, each with the styles
that a terminal shows it in.
-/

namespace Shortlist.CommandLine

/-- The name of the program. -/
def programName : String := "curatord"

/-- The version of the program. -/
def version : String := "0.1.0"

/-- The line that shows the version. -/
def versionText : String := programName ++ " " ++ version ++ "\n"

/-- The variable that stands in for the option. -/
def variableName : String := "CURATOR_CONFIG"

open Terminal

/-- How an option is shown in the line that tells the usage. -/
def usageOf (name : String) : String :=
  styled literal ("--" ++ name) ++ if name = "config" then " <CONFIG>" else ""

/-- The line that tells the usage; options that are known to be meant are shown in it. -/
def usageLine (named : List String) : String :=
  let parts := if named.isEmpty then ["[OPTIONS]"] else named.map usageOf
  styled heading "Usage:" ++ " " ++
    String.intercalate " " (styled literal programName :: parts) ++ "\n\n"

/-- The width of the column that the options stand in. -/
def optionWidth : Nat := 25

/-- The line of an option. -/
def optionLine (short long value about : String) : String :=
  let width := ("  " ++ short ++ ", " ++ long ++ value).length
  "  " ++ styled literal short ++ ", " ++ styled literal long ++ value ++
    String.ofList (List.replicate (optionWidth - width) ' ') ++ about ++ "\n"

/-- A text whose lines after the first begin below it. -/
def hanging (s : String) : String :=
  String.ofList (s.toList.flatMap fun c =>
    if c = '\n' then '\n' :: List.replicate optionWidth ' ' else [c])

/-- The help, which shows the variable with its value. -/
def helpText (fallback? : Option String) : String :=
  "Curator recommendation daemon\n\n" ++ usageLine [] ++ styled heading "Options:" ++ "\n" ++
  optionLine "-c" "--config" " <CONFIG>" (hanging
    ("Path to configuration file [env: " ++ variableName ++ "=" ++ fallback?.getD "" ++ "]")) ++
  optionLine "-h" "--help" "" "Print help" ++
  optionLine "-V" "--version" "" "Print version"

/-- The paragraphs about a misuse. -/
def Misuse.body : Misuse → String
  | unexpected arg similar? named =>
    let tip := match similar? with
      | none => ""
      | some s => "  " ++ styled proposed "tip:" ++ " a similar argument exists: '" ++
        styled proposed s ++ "'\n\n"
    "unexpected argument '" ++ styled wrong arg ++ "' found\n\n" ++ tip ++ usageLine named
  | noValue => "a value is required for '" ++ usageOf "config" ++ "' but none was supplied\n\n"
  | repeated =>
    "the argument '" ++ usageOf "config" ++ "' cannot be used multiple times\n\n" ++ usageLine []
  | needlessValue value flag named =>
    "unexpected value '" ++ styled wrong value ++ "' for '" ++ styled literal flag ++
      "' found; no more were expected\n\n" ++ usageLine named

/-- The text about a misuse. -/
def Misuse.text (m : Misuse) : String :=
  styled alarm "error:" ++ " " ++ m.body ++ "For more information, try '" ++
    styled literal "--help" ++ "'.\n"

end Shortlist.CommandLine
