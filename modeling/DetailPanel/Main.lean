import DetailPanel.Config.Toml
import DetailPanel.Program.EnvFile
import DetailPanel.Program.Run

/-!
# The command line

Reads the files and variables that a run looks at, runs it, and prints what it
gives: the printout to standard output, or the failure to standard error.
-/

open DetailPanel DetailPanel.Program

namespace DetailPanel.Main

/-- The system's number of an error, which may come negated. -/
def systemCode (code : UInt32) : Nat :=
  if code.toNat < 0x80000000 then code.toNat else 0x100000000 - code.toNat

/-- A fault by its number, or in the given words. -/
def fault (code : UInt32) (details : String) : FileFault :=
  match systemCode code with
  | 2 => .missing
  | 20 => .notDirectory
  | 21 => .isDirectory
  | 36 => .nameTooLong
  | code => .other code details

def faultOf : IO.Error → FileFault
  | .noFileOrDirectory _ _ _ => .missing
  | .inappropriateType _ code details => fault code details
  | .invalidArgument _ code details => fault code details
  | .permissionDenied _ code _ => fault code "Permission denied"
  | .otherError code details => fault code details
  | e => .other 0 (toString e)

def readText (path : String) : IO Reading := do
  match ← (IO.FS.readBinFile path).toBaseIO with
  | .error e => return .error (faultOf e)
  | .ok bytes =>
      match String.fromUTF8? bytes with
      | some text => return .ok text
      | none => return .error .notText

/-- Whether anything can be told to stand at a path. -/
def isPresent (path : String) : IO Bool :=
  if path.isEmpty then return false else (System.mkFilePath [path]).pathExists

/-- The text of the nearest `.env` file, in this directory or in one above it. -/
def readEnvFile : IO String := do
  let depth := ((toString (← IO.currentDir)).splitOn "/").length
  for level in List.range depth do
    match ← (IO.FS.readBinFile (String.join (List.replicate level "../") ++ ".env")).toBaseIO with
    | .ok bytes => return EnvFile.textOf bytes
    | .error e =>
        match faultOf e with
        | .missing | .isDirectory => pure ()
        | _ => return ""
  return ""

/-- The variables that a run may look up, given the text of the environment file:
its own, and every word of that text. -/
def variablesOf (text : String) : List String :=
  ["XDG_CONFIG_HOME", "HOME", Config.throttleVariable, Config.layoutVariable] ++
    (text.toList.splitBy fun a b => isWordChar a == isWordChar b).filterMap fun cs =>
      if cs.all isWordChar then some (String.ofList cs) else none
where
  isWordChar (c : Char) : Bool := c.isAlphanum || c == '_' || c == '.'

def readEnvironment (names : List String) : IO Environment := do
  let mut env : Environment := []
  for name in names do
    if let some value ← IO.getEnv name then
      env := env.set name value
  return env

/-- What this process can see of its surroundings, unless the environment file ends it. -/
def look (arguments : List String) : IO (Option Surroundings) := do
  let envFile ← readEnvFile
  let environment ← readEnvironment (variablesOf envFile)
  match EnvFile.apply environment envFile with
  | none => return none
  | some environment =>
      let surroundings : Surroundings :=
        { environment, present := fun _ => false, read := fun _ => .error .missing }
      let mut files : Table String (Bool × Reading) := []
      for path in filesOf surroundings arguments do
        files := files.set path (← isPresent path, ← readText path)
      let known := files
      return some { surroundings with
        present := fun path => ((known.get? path).map Prod.fst).getD false
        read := fun path => ((known.get? path).map Prod.snd).getD (.error .missing) }

/-- The exit code of a process that is ended from within. -/
def abortCode : UInt32 := 134

end DetailPanel.Main

def main (arguments : List String) : IO UInt32 := do
  match ← DetailPanel.Main.look arguments with
  | none => return DetailPanel.Main.abortCode
  | some surroundings =>
      let outcome := run Config.decodeToml surroundings arguments
      IO.print outcome.output
      for line in outcome.complaint? do
        IO.eprintln line
      return outcome.exitCode.toUInt32
