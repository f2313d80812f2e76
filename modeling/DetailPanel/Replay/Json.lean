import DetailPanel.Json.Writer
import DetailPanel.Replay.Basic

/-!
# Replays as JSON
-/

namespace DetailPanel

open Json

def Flags.toJson (f : Flags) : Value :=
  .object [("not_found", .ofBool f.notFound), ("is_searching", .ofBool f.isSearching)]

/-- Counts are written as naturals of 64 bits. -/
def countJson (n : Nat) : Value := .ofNatural n.toUInt64

def Entry.toJson (e : Entry) : Value :=
  .object [("step", countJson e.step), ("at_ms", .ofNatural e.atMs),
    ("cause", .ofText e.cause.text), ("flags", e.flags.toJson)]

def Replay.Summary.toJson (s : Replay.Summary) : Value :=
  .object [("scenario", Value.ofOption .ofText s.scenario), ("steps", countJson s.steps),
    ("elapsed_ms", .ofNatural s.elapsedMs), ("renders", countJson s.renders),
    ("recomputes", countJson s.recomputes), ("throttled_runs", countJson s.throttledRuns),
    ("layout_mounts", countJson s.layoutMounts), ("final_flags", s.finalFlags.toJson)]

end DetailPanel
