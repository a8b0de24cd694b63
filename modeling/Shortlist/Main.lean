import Shortlist.Daemon

/-!
# The command

The outer layer of the program: it looks at the system, starts the daemon, and writes what that
says. It serves until its standard input ends.
-/

namespace Shortlist

/-- What stands at a path. -/
def readContent (path : String) : IO FileContent := do
  try
    return .bytes (← IO.FS.readBinFile path)
  catch
    | .noFileOrDirectory .. => return .missing
    | _ => return .directory

/-- The variables that the program looks at. -/
def variableNames : List String :=
  [CommandLine.variableName, "OTEL_SERVICE_NAME", "RECOMMENDATION_PORT", "PRODUCT_CATALOG_ADDR",
    "FLAGD_HOST", "FLAGD_OFREP_PORT"]

/-- Looks at the system, as far as the program with these arguments does. -/
def lookAround (args : List String) : IO System := do
  let environment ← variableNames.filterMapM fun name => do
    return (← IO.getEnv name).map (name, ·)
  let home? ← IO.getEnv "HOME"
  let named := match CommandLine.read args (List.lookup CommandLine.variableName environment) with
    | .ok (.run (some file)) => [file]
    | _ => []
  let paths := named ++ (home?.map Daemon.userFile).toList ++ [Daemon.systemFile]
  let contents ← paths.mapM fun path => do return (path, ← readContent path)
  return {
    environment := fun name => List.lookup name environment
    contentAt := fun path => (List.lookup path contents).getD .missing
    home? }

/-- Starts the program and writes its log. -/
def run (args : List String) : IO UInt32 := do
  match Daemon.start (← lookAround args) args with
  | .error e =>
    (← IO.getStdout).putStr e.out
    (← IO.getStderr).putStr e.err
    return UInt32.ofNat e.code
  | .ok d =>
    match d.logLines with
    | first :: last =>
      IO.println first
      let _ ← (← IO.getStdin).readToEnd
      last.forM fun line => IO.println line
    | [] => pure ()
    return 0

end Shortlist

/-- The entry of the program. -/
def main (args : List String) : IO UInt32 := Shortlist.run args
