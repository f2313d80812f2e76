import DetailPanel.Config.Overrides

/-!
# Arguments of the program

One scenario, perhaps a configuration file and a throttle window, and a switch
for the summary.  Each may be given once.  After two dashes every argument is
taken as it stands.
-/

namespace DetailPanel.Program

structure Options where
  scenario : String
  config : Option String := none
  throttleMs : Option UInt64 := none
  summary : Bool := false
  deriving DecidableEq, Repr

inductive Request where
  | run (options : Options)
  | version
  | help
  /-- The arguments make no sense. -/
  | misuse
  deriving DecidableEq, Repr

/-- An option that takes a value. -/
inductive Valued where
  | config
  | throttle
  deriving DecidableEq, Repr

/-- The options as far as they have been read. -/
structure Draft where
  scenario : Option String := none
  config : Option String := none
  throttleMs : Option UInt64 := none
  summary : Bool := false
  deriving DecidableEq, Repr

namespace Draft

/-- Paths are not empty. -/
def setScenario (d : Draft) (path : String) : Option Draft :=
  if path.isEmpty || d.scenario.isSome then none else some { d with scenario := some path }

def setValue (d : Draft) (o : Valued) (value : String) : Option Draft :=
  match o with
  | .config =>
      if value.isEmpty || d.config.isSome then none else some { d with config := some value }
  | .throttle =>
      match Config.natural64? value.toList, d.throttleMs with
      | some n, none => some { d with throttleMs := some n }
      | _, _ => none

def setSummary (d : Draft) : Option Draft :=
  if d.summary then none else some { d with summary := true }

def request (d : Draft) : Request :=
  match d.scenario with
  | none => .misuse
  | some scenario =>
      .run { scenario, config := d.config, throttleMs := d.throttleMs, summary := d.summary }

end Draft

/-- What an argument is, when two dashes have not come yet. -/
inductive Shape where
  | dashes
  /-- A long option with the value attached to it, if there is one. -/
  | long (name : String) (value : Option String)
  | short (letters : List Char)
  | plain (text : String)
  deriving DecidableEq, Repr

def shape (argument : String) : Shape :=
  match argument.toList with
  | ['-', '-'] => .dashes
  | '-' :: '-' :: cs =>
      let name := String.ofList (cs.takeWhile (· != '='))
      match cs.dropWhile (· != '=') with
      | [] => .long name none
      | _ :: value => .long name (some (String.ofList value))
  | '-' :: c :: cs => .short (c :: cs)
  | _ => .plain argument

/-- What to do with a long option. -/
inductive Known where
  | valued (o : Valued)
  | summary
  | version
  | help
  deriving DecidableEq, Repr

def known? (name : String) : Option Known :=
  match name with
  | "config" => some (.valued .config)
  | "throttle-ms" => some (.valued .throttle)
  | "summary" => some .summary
  | "version" => some .version
  | "help" => some .help
  | _ => none

/-- Go on with a draft, unless there is none. -/
def orMisuse (d : Option Draft) (f : Draft → Request) : Request := (d.map f).getD .misuse

mutual
/-- Read arguments; `trailing` says whether two dashes have come. -/
def readFrom (trailing : Bool) (d : Draft) : List String → Request
  | [] => d.request
  | a :: as =>
      if trailing then orMisuse (d.setScenario a) fun d => readFrom true d as
      else
        match shape a with
        | .dashes => readFrom true d as
        | .plain text => orMisuse (d.setScenario text) fun d => readFrom false d as
        | .short ('V' :: _) => .version
        | .short ('h' :: _) => .help
        | .short _ => .misuse
        | .long name value =>
            match known? name, value with
            | some .version, none => .version
            | some .help, none => .help
            | some .summary, none => orMisuse d.setSummary fun d => readFrom false d as
            | some (.valued o), some value =>
                orMisuse (d.setValue o value) fun d => readFrom false d as
            | some (.valued o), none => readValue o d as
            | _, _ => .misuse
/-- Read the value of an option; what looks like an option is none. -/
def readValue (o : Valued) (d : Draft) : List String → Request
  | [] => .misuse
  | a :: as =>
      match shape a with
      | .plain text => orMisuse (d.setValue o text) fun d => readFrom false d as
      | _ => .misuse
end

def Request.ofArguments (arguments : List String) : Request := readFrom false {} arguments

end DetailPanel.Program
