import Shortlist.Settings.Document
import Shortlist.Text.Quoted
import Shortlist.Toml.Reader

/-!
# Settings from a file

Settings are read from a file that the caller names, which must then be there, else from the user's
file, else from the system's; where there is none of these the defaults hold. What stands at each
path is found out beforehand.
-/

namespace Shortlist

/-- What stands at a path. -/
inductive FileContent where
  | missing
  | directory
  | bytes (data : ByteArray)

/-- A path with what stands there. -/
structure SettingsFile where
  path : String
  content : FileContent

namespace SettingsFile

/-- What is wrong with a file. -/
inductive Problem where
  | notFound
  /-- It cannot be read as a text, for a reason. -/
  | unreadable (reason : String)
  /-- It holds no settings. -/
  | unparsable

/-- The text of a problem, up to the path that it ends in or the reason behind that. -/
def Problem.message (path : String) : Problem → String
  | notFound => "Config file not found: " ++ Text.quote path
  | unreadable reason => "Failed to read config file " ++ Text.quote path ++ ": " ++ reason
  | unparsable => "Failed to parse config file " ++ Text.quote path

/-- The settings of a file. -/
def read (f : SettingsFile) : Except Problem Settings :=
  match f.content with
  | .missing => .error .notFound
  | .directory => .error (.unreadable "Is a directory (os error 21)")
  | .bytes data =>
    match String.fromUTF8? data with
    | none => .error (.unreadable "stream did not contain valid UTF-8")
    | some text =>
      match (Toml.read text).bind Settings.ofEntries with
      | none => .error .unparsable
      | some s => .ok s

/-- Whether something stands at the path. -/
def isThere (f : SettingsFile) : Bool :=
  match f.content with
  | .missing => false
  | _ => true

end SettingsFile

namespace Settings

/-- The file to read: the named one, or the first of the others that is there. -/
def chooseFile (named? : Option SettingsFile) (others : List SettingsFile) : Option SettingsFile :=
  named?.or (others.find? (·.isThere))

/-- Loads the settings. -/
def load (named? : Option SettingsFile) (others : List SettingsFile) : Except Fault Settings :=
  match chooseFile named? others with
  | none => .ok {}
  | some f =>
    f.read.mapError fun problem => .configuration (problem.message f.path)

end Settings

end Shortlist
