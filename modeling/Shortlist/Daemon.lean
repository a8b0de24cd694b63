import Shortlist.CommandLine.Texts
import Shortlist.Service
import Shortlist.Settings.File
import Shortlist.Settings.Overrides
import Shortlist.Settings.Validation

/-!
# The daemon

What the program does before it serves: it reads its arguments, loads the settings, applies the
overrides of the environment, and checks that the service can be put together from them. Each of
these steps can end the program with an exit code and a text; `Daemon.start` takes them in order.
-/

namespace Shortlist

/-- An ended program. -/
structure Exit where
  code : Nat
  out : String := ""
  err : String := ""
  deriving DecidableEq, Repr

/-- What a program sees of the system it is started on. -/
structure System where
  /-- The variables of the environment. -/
  environment : Environment
  /-- What stands at a path. -/
  contentAt : String → FileContent
  /-- The user's directory. -/
  home? : Option String

/-- A program that is ready to serve. -/
structure Daemon where
  settings : Settings
  address : Address.Socket
  /-- What happened while the service was put together. -/
  signals : List Signal

namespace Daemon

/-- How the text of a fault that ends the program names its kind. -/
def kindName : Fault → String
  | .catalogUnavailable _ => "UpstreamUnavailable"
  | .catalogTimeout _ => "UpstreamTimeout"
  | .flagService _ => "FlagService"
  | .malformedInput _ => "MalformedInput"
  | .configuration _ => "Configuration"

/-- What a fault says, without its kind. -/
def detail : Fault → String
  | .catalogUnavailable text | .flagService text | .malformedInput text | .configuration text =>
    Text.quote text
  | .catalogTimeout after => after.text

/-- The exit that a fault leads to. -/
def exitOf (f : Fault) : Exit :=
  { code := 1, err := "Error: " ++ kindName f ++ "(" ++ detail f ++ ")\n" }

/-- The file with the settings of all users. -/
def systemFile : String := "/etc/curator/config.toml"

/-- The file with the settings of a user. -/
def userFile (home : String) : String := home ++ "/.curator/config.toml"

/-- The files that are looked for when none is named. -/
def defaultFiles (s : System) : List SettingsFile :=
  ((s.home?.map userFile).toList ++ [systemFile]).map fun path =>
    { path, content := s.contentAt path }

/-- Loads the settings, overrides them and puts the service together. -/
def prepare (s : System) (file? : Option String) : Except Fault Daemon := do
  let named? := file?.map fun path => { path, content := s.contentAt path }
  let loaded ← Settings.load named? (defaultFiles s)
  let (settings, applied) := loaded.override s.environment
  applied
  settings.validate
  let address ← settings.server.socketAddress
  let (_, signals) ← Service.build settings Http.Unreachable.mk CatalogPeer.Absent.mk
    ({} : Random.Fixed) ({} : Random.Fixed)
  return { settings, address, signals }

open CommandLine.Terminal in
/-- Starts the program. What it writes before it ends is not shown on a terminal. -/
def start (s : System) (args : List String) : Except Exit Daemon :=
  let fallback? := s.environment CommandLine.variableName
  match CommandLine.read args fallback? with
  | .error m => .error { code := 2, err := plain m.text }
  | .ok .help => .error { code := 0, out := plain (CommandLine.helpText fallback?) }
  | .ok .version => .error { code := 0, out := CommandLine.versionText }
  | .ok (.run file?) => (prepare s file?).mapError exitOf

/-- The lines that are logged before the first and after the last request is served. -/
def logLines (d : Daemon) : List String :=
  ["curatord starting version=" ++ Text.quote CommandLine.version ++ " service=" ++
      d.settings.server.serviceName ++ " addr=" ++ d.address.text ++ " catalog=" ++
      d.settings.catalog.address,
    "shutdown signal received",
    "curatord stopped"]

end Daemon

end Shortlist
