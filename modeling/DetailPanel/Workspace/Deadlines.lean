import DetailPanel.Workspace.Tracking

/-!
# Deadlines of panels

A poll at or after the deadline of a panel runs the throttled recompute and
leaves the panel without a deadline (`poll_of_deadline`, `deadline_poll`).
-/

namespace DetailPanel

theorem Tracker.takeDue_of_deadline {t : Tracker} {d now : Nat} (h : t.deadline = some d)
    (hd : d ≤ now) : (t.takeDue now).1 = true ∧ (t.takeDue now).2.deadline = none := by
  obtain ⟨b, hb, hbd⟩ := Option.bind_eq_some_iff.1 h
  obtain ⟨l, hl, -⟩ := Option.bind_eq_some_iff.1 hb
  have htake : t.takeDue now =
      (true, t.setBinding (some { b with throttle := { b.throttle with armedAt := none } })) := by
    simp only [takeDue, hb, Throttle.poll_deadline hbd hd]
  rw [htake]
  exact ⟨rfl, by simp [deadline, binding, setBinding, hl, Throttle.deadline]⟩

@[simp] theorem Tracker.deadline_paint (t : Tracker) (f : Flags) :
    (t.paint f).deadline = t.deadline := rfl

namespace Workspace

/-- When the throttled recompute of a panel falls due, if one is pending. -/
def deadline (w : Workspace) (p : PanelId) : Option Nat := (w.trackers.get? p).bind (·.deadline)

theorem get?_recompute (w : Workspace) (p : PanelId) :
    (w.recompute p).trackers.get? p = (w.trackers.get? p).map (·.paint w.liveFlags) := by
  unfold recompute
  split
  · rename_i h
    simp [h]
  · simp [emit, modifyTracker, Table.get?_modify]

theorem deadline_recompute (w : Workspace) (p : PanelId) :
    (w.recompute p).deadline p = w.deadline p := by
  simp [deadline, get?_recompute, Option.bind_map, Function.comp_def]

theorem poll_of_deadline {w : Workspace} {p : PanelId} {d now : Nat}
    (h : w.deadline p = some d) (hd : d ≤ now) : (w.poll p now).1 = true := by
  obtain ⟨t, ht, htd⟩ := Option.bind_eq_some_iff.1 h
  simpa [poll, ht] using (Tracker.takeDue_of_deadline htd hd).1

theorem deadline_poll {w : Workspace} {p : PanelId} {d now : Nat}
    (h : w.deadline p = some d) (hd : d ≤ now) : (w.poll p now).2.deadline p = none := by
  obtain ⟨t, ht, htd⟩ := Option.bind_eq_some_iff.1 h
  obtain ⟨hdue, hnone⟩ := Tracker.takeDue_of_deadline htd hd
  simp only [poll, ht, hdue, if_true, deadline_recompute]
  simp [deadline, modifyTracker, Table.get?_modify, ht, hnone]

end Workspace

end DetailPanel
