import DetailPanel.Files
import DetailPanel.Scenario.Reader

/-!
# Loading a scenario
-/

namespace DetailPanel.Scenario

inductive LoadError where
  | unreadable (fault : FileFault)
  | illFormed (e : Json.Failure)
  deriving DecidableEq, Repr

/-- The beginning of the message for a text that is no scenario. -/
def illFormedText : String := "Failed to parse scenario: "

def LoadError.message : LoadError → String
  | .unreadable fault => "Failed to read scenario: " ++ fault.message
  | .illFormed e => illFormedText ++ e.detail

/-- The fault behind an error, if it can be put into words. -/
def LoadError.inner? : LoadError → Option String
  | .unreadable fault => some fault.message
  | .illFormed e => if e.detail.isEmpty then none else some e.detail

def load (file : Reading) : Except LoadError Scenario :=
  match file with
  | .error fault => .error (.unreadable fault)
  | .ok text => (ofJson text).mapError .illFormed

end DetailPanel.Scenario
