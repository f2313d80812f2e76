import DetailPanel.Config.Overrides
import DetailPanel.Files

/-!
# Loading a configuration

A configuration file may be absent, and each of its fields may be.  The file
has to be valid by itself, before anything overrides it.  How its text is
decoded is a parameter.
-/

namespace DetailPanel.Config

inductive LoadError where
  | unreadable (fault : FileFault)
  /-- The file is no TOML, or a field has the wrong type. -/
  | illFormed
  | noDirectory
  | invalid (cause : Invalid)
  deriving DecidableEq, Repr

def LoadError.message : LoadError → String
  | .unreadable fault => "Failed to read panel config: " ++ fault.message
  | .illFormed => "Invalid panel config TOML: "
  | .noDirectory => "No config directory for metacard-panel on this platform"
  | .invalid cause => cause.message

/-- The fault behind an error, if there is one. -/
def LoadError.inner? : LoadError → Option String
  | .unreadable fault => some fault.message
  | .illFormed | .noDirectory | .invalid _ => none

/-! ## Files -/

/-- How a text is decoded: what it gives under each key, or nothing if it is no TOML
or a field has the wrong type. -/
abbrev Decoder := String → Option Draft

section Files

variable (decode : Decoder)

/-- Keys that the text does not give have their defaults. -/
def ofText (text : String) : Except LoadError Config :=
  match decode text with
  | none => .error .illFormed
  | some d =>
      match d.complete.validate with
      | .ok () => .ok d.complete
      | .error e => .error (.invalid e)

/-- The configuration of a file.  Where no file can be told to be present there are
the defaults, whatever the reason; that is asked for before the file is read. -/
def ofFile (present : Bool) (file : Reading) : Except LoadError Config :=
  if present then
    match file with
    | .ok text => ofText decode text
    | .error fault => .error (.unreadable fault)
  else .ok {}

/-- The configuration of a file with the overrides of an environment. -/
def load (present : Bool) (file : Reading) (lookup : String → Option String) :
    Except LoadError Config :=
  match ofFile decode present file with
  | .error e => .error e
  | .ok c =>
      match c.override lookup with
      | (.ok (), c) => .ok c
      | (.error e, _) => .error (.invalid e)

end Files

/-! ## Where the file is -/

/-- The file below a directory for the configurations of programs. -/
def pathBelow (base : String) : String := joinPath (joinPath base "metacard-panel") "panel.toml"

/-- The default place: below the directory for configurations if one is set, else
below the home directory if there is one. -/
def path (configHome home : Option String) : Except LoadError String :=
  match configHome, home with
  | some base, _ => .ok (pathBelow base)
  | none, some home => .ok (pathBelow (joinPath home ".config"))
  | none, none => .error .noDirectory

/-- The home directory: that of the environment unless it is empty, else that of
the account. -/
def home (fromEnvironment account : Option String) : Option String :=
  match fromEnvironment with
  | some home => if home.isEmpty then account else some home
  | none => account

end DetailPanel.Config
