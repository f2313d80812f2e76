import DetailPanel.Proofs.Session.Soundness
import Mathlib.Logic.Relation

/-!
# Moments

Between two jobs of a run there is a moment: the jobs that are still to be done
and the session so far.  A moment is reachable if some run from the empty
session comes by.  Every step that is carried out gets from a reachable moment
to a reachable one, and the session is sound at all of them.

    Reachable ⟨[], s⟩ → Reachable ⟨[], (s.apply t).2⟩     (Reachable.apply)
    Reachable m → ∃ held, m.session.Sound held             (Reachable.sound)
-/

namespace DetailPanel

open Workspace

namespace Session

def Job.delivery? : Job → Option Delivery
  | .step _ => none
  | .deliver d => some d

/-- The deliveries among the jobs. -/
def deliveries (js : List Job) : List Delivery := js.filterMap Job.delivery?

@[simp] theorem deliveries_append (as bs : List Job) :
    deliveries (as ++ bs) = deliveries as ++ deliveries bs := List.filterMap_append

@[simp] theorem deliveries_cons_deliver (d : Delivery) (js : List Job) :
    deliveries (.deliver d :: js) = d :: deliveries js := rfl

@[simp] theorem deliveries_map_deliver (ds : List Delivery) : deliveries (ds.map .deliver) = ds := by
  simp [deliveries, List.filterMap_map, Function.comp_def, Job.delivery?]

@[simp] theorem deliveries_map_step (ts : List Step) : deliveries (ts.map .step) = [] := by
  simp [deliveries, List.filterMap_map, Function.comp_def, Job.delivery?]

theorem mem_deliveries {d : Delivery} {js : List Job} : d ∈ deliveries js ↔ .deliver d ∈ js := by
  simp only [deliveries, List.mem_filterMap]
  constructor
  · rintro ⟨j, hj, hd⟩
    cases j with
    | step t => cases hd
    | deliver d' =>
        obtain rfl := Option.some.inj hd
        exact hj
  · intro hd
    exact ⟨.deliver d, hd, rfl⟩

/-- A delivery announces nothing itself. -/
theorem deliveries_deliver (d : Delivery) (s : Session) : deliveries (s.deliver d).1 = [] := by
  unfold deliver
  split
  · unfold tell
    split
    · rfl
    · exact deliveries_map_step _
  · rfl

variable {held : Holdings} {s : Session}

/-- A job binds a tracker, or goes by moves. -/
theorem bind_or_advances (hs : s.Sound held) (j : Job) :
    (∃ name, j = .step (.bind name)) ∨
      Advances (s.licence j) held s (deliveries (perform j s).1) (perform j s).2 := by
  cases j with
  | step t =>
      by_cases ht : ∃ name, t = .bind name
      · obtain ⟨name, rfl⟩ := ht
        exact .inl ⟨name, rfl⟩
      · refine .inr ?_
        rw [perform, deliveries_map_deliver]
        exact (advances_begin hs t fun name hname => ht ⟨name, hname⟩).settle
  | deliver d =>
      refine .inr ?_
      rw [perform, deliveries_deliver]
      exact advances_deliver hs d

theorem Sound.perform (hs : s.Sound held) (j : Job) : ∃ held', (perform j s).2.Sound held' := by
  rcases bind_or_advances hs j with ⟨name, rfl⟩ | ⟨held', -, hs'⟩
  · exact ⟨held, (sound_bind hs name).settle⟩
  · exact ⟨held', hs'⟩

end Session

/-- The jobs that are still to be done, and the session so far. -/
structure Moment where
  agenda : List Session.Job
  session : Session

namespace Moment

open Session

/-- The deliveries that are under way. -/
def pending (m : Moment) : List Delivery := deliveries m.agenda

/-- The panel that the next job makes handle a change of the current result. -/
def resynced? (m : Moment) : Option PanelId := m.agenda.head?.bind m.session.resynced?

/-- Whether the next job says without an announcement that the current result is
searching, or that it is not. -/
def silences (m : Moment) : Bool := m.agenda.head?.any m.session.silences

/-- The moment when the next job is done. -/
def after (m : Moment) : Moment :=
  match m.agenda with
  | [] => m
  | j :: js => ⟨(perform j m.session).1 ++ js, (perform j m.session).2⟩

/-- A step is called for, or the log is taken, when nothing is left to do; else
the next job is done. -/
inductive Next : Moment → Moment → Prop
  | call (t : Session.Step) (s : Session) : Next ⟨[], s⟩ ⟨[.step t], s⟩
  | takeLog (s : Session) : Next ⟨[], s⟩ ⟨[], s.takeLog.2⟩
  | perform (j : Job) (js : List Job) (s : Session) : Next ⟨j :: js, s⟩ (after ⟨j :: js, s⟩)

abbrev Later : Moment → Moment → Prop := Relation.ReflTransGen Next

/-- Some run from the empty session comes by. -/
def Reachable (m : Moment) : Prop := Later ⟨[], {}⟩ m

theorem reachable_empty : Reachable ⟨[], {}⟩ := .refl

theorem Reachable.next {m m' : Moment} (h : Reachable m) (hn : Next m m') : Reachable m' :=
  h.tail hn

theorem later_after (m : Moment) : Later m m.after := by
  obtain ⟨agenda, s⟩ := m
  cases agenda with
  | nil => exact .refl
  | cons j js => exact .single (.perform j js s)

theorem later_call {m : Moment} (hm : m.agenda = []) (t : Session.Step) :
    Later m ⟨[.step t], m.session⟩ := by
  obtain ⟨agenda, s⟩ := m
  obtain rfl : agenda = [] := hm
  exact .single (.call t s)

theorem Reachable.later {m m' : Moment} (h : Reachable m) (hl : Later m m') : Reachable m' :=
  h.trans hl

theorem Reachable.after {m : Moment} (h : Reachable m) : Reachable m.after :=
  h.later (later_after m)

theorem Reachable.call {m : Moment} (h : Reachable m) (hm : m.agenda = []) (t : Session.Step) :
    Reachable ⟨[.step t], m.session⟩ := h.later (later_call hm t)

/-- The jobs in front are worked off, with all that they set off. -/
theorem later_run (as bs : List Job) (s : Session) :
    Later ⟨as ++ bs, s⟩ ⟨bs, machine.run as s⟩ := by
  fun_induction machine.run as s with
  | case1 s => exact .refl
  | case2 j js s ih =>
      rw [List.append_assoc] at ih
      exact .head (.perform j (js ++ bs) s) ih

/-- Carrying a step out gets from one moment to a later one. -/
theorem later_apply (s : Session) (t : Session.Step) : Later ⟨[], s⟩ ⟨[], (s.apply t).2⟩ := by
  have hrun := later_run ((perform (.step t) s).1) [] (perform (.step t) s).2
  exact .head (.call t s) (.head (.perform (.step t) [] s) hrun)

theorem Reachable.apply {s : Session} (h : Reachable ⟨[], s⟩) (t : Session.Step) :
    Reachable ⟨[], (s.apply t).2⟩ := h.later (later_apply s t)

theorem sound_next {m m' : Moment} {held : Holdings} (hs : m.session.Sound held)
    (hn : Next m m') : ∃ held', m'.session.Sound held' := by
  cases hn with
  | call t s => exact ⟨held, hs⟩
  | takeLog s =>
      exact ⟨held, hs.congr rfl rfl (fun k => by cases k <;> rfl) rfl⟩
  | perform j js s => exact hs.perform j

theorem Reachable.sound {m : Moment} (h : Reachable m) : ∃ held, m.session.Sound held := by
  induction h with
  | refl => exact ⟨_, sound_empty⟩
  | tail _ hn ih =>
      obtain ⟨held, hs⟩ := ih
      exact sound_next hs hn

end Moment

end DetailPanel
