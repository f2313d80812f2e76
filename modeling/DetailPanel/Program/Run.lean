import DetailPanel.Config.Load
import DetailPanel.Program.Arguments
import DetailPanel.Replay.Json
import DetailPanel.Scenario.Load
import DetailPanel.Table

/-!
# The program

The program replays one scenario and prints its timeline, one entry a line, or
its summary.  It prints all of that or none of it: the configuration, then the
scenario, then the replay may fail, and the first that does is reported.  How
the text of a configuration is decoded is a parameter.
-/

namespace DetailPanel.Program

/-- What the program can see of its surroundings, once the environment file has been
read into the variables.  A run begins only then: if reading that file ends the
process, there is no run. -/
structure Surroundings where
  /-- The variables that hold text, those of the environment file included. -/
  environment : Table String String
  /-- The home directory of the account, if there is one. -/
  accountHome : Option String := none
  /-- Whether anything can be told to stand at a path. -/
  present : String → Bool
  read : String → Reading

/-- What ends a run early. -/
inductive Failure where
  | config (path : Option String) (e : Config.LoadError)
  | throttle (e : Config.Invalid)
  | scenario (path : String) (e : Scenario.LoadError)
  | replay (e : Replay.Fault)
  deriving DecidableEq, Repr

inductive Outcome where
  | printed (text : String)
  | failed (e : Failure)
  | misuse
  deriving DecidableEq, Repr

/-! ## Failures -/

def Failure.headline : Failure → String
  | .config (some path) _ => "loading config " ++ path
  | .config none _ => "loading panel config"
  | .throttle e => e.message
  | .scenario path _ => "loading scenario " ++ path
  | .replay e => e.message

/-- What lies behind a failure, from the outside in, where its headline does not
say it. -/
def Failure.causes : Failure → List String
  | .config _ e => e.message :: e.inner?.toList
  | .scenario _ e => e.message :: e.inner?.toList
  | .throttle _ | .replay _ => []

/-- Indent the lines of a text after the first. -/
def indented (width : Nat) (s : String) : String :=
  ("\n" ++ String.ofList (List.replicate width ' ')).intercalate (s.splitOn "\n")

/-- The causes below each other; they are numbered if there are several. -/
def causeLines : List String → List String
  | [] => []
  | [cause] => ["    " ++ indented 4 cause]
  | causes => causes.zipIdx.map fun c => "    " ++ toString c.2 ++ ": " ++ indented 7 c.1

/-- A failure as it is reported to a reader. -/
def Failure.report (e : Failure) : String :=
  let headline := "Error: " ++ e.headline
  match causeLines e.causes with
  | [] => headline
  | lines => headline ++ "\n\nCaused by:\n" ++ "\n".intercalate lines

/-! ## Running -/

/-- The path of the default configuration. -/
def Surroundings.configPath (s : Surroundings) : Except Config.LoadError String :=
  let env := s.environment
  Config.path (env.get? "XDG_CONFIG_HOME") (Config.home (env.get? "HOME") s.accountHome)

section Running

variable (decode : Config.Decoder)

/-- The configuration at a path, under the overrides of the environment. -/
def loadAt (s : Surroundings) (path : String) : Except Config.LoadError Config :=
  Config.load decode (s.present path) (s.read path) fun name => s.environment.get? name

def loadFile (s : Surroundings) (o : Options) : Except Failure Config :=
  match o.config with
  | some path => (loadAt decode s path).mapError (.config (some path))
  | none =>
      match s.configPath with
      | .error e => .error (.config none e)
      | .ok path => (loadAt decode s path).mapError (.config none)

/-- The configuration of a run: a window among the options goes before all else. -/
def loadConfig (s : Surroundings) (o : Options) : Except Failure Config :=
  match loadFile decode s o, o.throttleMs with
  | .error e, _ => .error e
  | .ok c, none => .ok c
  | .ok c, some throttleMs =>
      let c := { c with throttleMs }
      match c.validate with
      | .ok () => .ok c
      | .error e => .error (.throttle e)

def loadScenario (s : Surroundings) (o : Options) : Except Failure Scenario :=
  (Scenario.load (s.read o.scenario)).mapError (.scenario o.scenario)

def replay (s : Surroundings) (o : Options) : Except Failure Replay.Outcome :=
  match loadConfig decode s o with
  | .error e => .error e
  | .ok config =>
      match loadScenario s o with
      | .error e => .error e
      | .ok scenario => (Replay.run config scenario).mapError .replay

/-- The lines that show an outcome. -/
def printout (o : Options) (r : Replay.Outcome) : String :=
  if o.summary then r.summary.toJson.pretty ++ "\n"
  else String.join (r.timeline.map fun e => e.toJson.compact ++ "\n")

def versionText : String := "metacard-replay 0.1.0\n"

def usageText : String := "Usage: metacard-replay [OPTIONS] <SCENARIO>"

def helpText : String :=
  "Replay a selection/search scenario against the metacard panel and print how its status " ++
    "flags evolve\n\n" ++ usageText ++ "\n"

def run (s : Surroundings) (arguments : List String) : Outcome :=
  match Request.ofArguments arguments with
  | .misuse => .misuse
  | .version => .printed versionText
  | .help => .printed helpText
  | .run o =>
      match replay decode s o with
      | .ok r => .printed (printout o r)
      | .error e => .failed e

end Running

def Outcome.exitCode : Outcome → UInt8
  | .printed _ => 0
  | .failed _ => 1
  | .misuse => 2

/-- What goes to standard output. -/
def Outcome.output : Outcome → String
  | .printed text => text
  | .failed _ | .misuse => ""

/-- What goes to standard error, as a line. -/
def Outcome.complaint? : Outcome → Option String
  | .printed _ => none
  | .failed e => some e.report
  | .misuse => some usageText

/-! ## What a run looks at -/

/-- The files that a run may read. -/
def filesOf (s : Surroundings) (arguments : List String) : List String :=
  match Request.ofArguments arguments with
  | .run o => o.scenario :: (o.config.or s.configPath.toOption).toList
  | _ => []

end DetailPanel.Program
