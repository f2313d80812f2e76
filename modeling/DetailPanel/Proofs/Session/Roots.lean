import DetailPanel.Proofs.Flags
import DetailPanel.Proofs.Session.Faces
import DetailPanel.Proofs.Session.Staleness

/-!
# Roots

A panel may be made on any root that shows neither flag.  At every moment its root
shows the stored flags and, apart from that, is what it was made on.

    roots on which panels are made : PanelId → ClassList
    m has t at p → t.root = t.flags.applyTo (roots p)     (ReachableOn.root_eq)
-/

namespace DetailPanel

open Workspace Session

/-- A class list that shows neither of the flags. -/
structure ClassList.Plain (root : ClassList) : Prop where
  ascending : root.Ascending
  notFound : root.has Flags.notFoundClass = false
  isSearching : root.has Flags.isSearchingClass = false

/-- Showing no flag on a plain root leaves it as it is. -/
theorem ClassList.Plain.applyTo_none {root : ClassList} (h : root.Plain) :
    ({} : Flags).applyTo root = root := by
  refine (Flags.ascending_applyTo h.ascending {}).ext h.ascending fun c => ?_
  rw [Flags.has_applyTo]
  split
  · rename_i hc
    rw [hc, h.isSearching]
  · split
    · rename_i hc
      rw [hc, h.notFound]
    · rfl

/-- The root is what it was made on, with the stored flags shown on it. -/
def Face.On (root : ClassList) (x : Face) : Prop := x.root = x.flags.applyTo root

theorem Face.On.paint {root : ClassList} {x : Face} (h : x.On root) (hroot : root.Ascending)
    (live : Flags) : (x.paint live).On root := by
  show live.applyTo x.root = live.applyTo root
  rw [h, Flags.applyTo_shown hroot]

/-! ## Panels that are made on roots -/

namespace Session

/-- Put a root under a panel. -/
def furnish (s : Session) (p : PanelId) (root : ClassList) : Session :=
  s.setWorkspace (s.workspace.modifyTracker p fun t => { t with root })

variable {s : Session} {held : Holdings}

theorem get?_furnish (s : Session) (p q : PanelId) (root : ClassList) :
    (s.furnish p root).workspace.trackers.get? q =
      if q = p then (s.workspace.trackers.get? q).map fun t => { t with root }
      else s.workspace.trackers.get? q := Table.get?_modify ..

theorem Sound.furnish (hs : s.Sound held) (p : PanelId) (root : ClassList) :
    (s.furnish p root).Sound held := by
  refine hs.setWorkspace ?_ (fun r hr => hr) (.of_modify rfl)
  exact hs.wired.keep (.modifyTracker _ p _) rfl (registry_modifyTracker _ _ _) fun t => rfl

end Session

namespace Moment

variable {roots : PanelId → ClassList} {m m' : Moment} {p : PanelId} {t : Tracker} {name : String}

/-- The tracker of a panel. -/
def tracker? (m : Moment) (p : PanelId) : Option Tracker := m.session.workspace.trackers.get? p

/-- The flags that the selection calls for. -/
def live (m : Moment) : Flags := m.session.workspace.liveFlags

/-- The panel that the next job makes, and its name. -/
def made? (m : Moment) : Option (PanelId × String) := m.agenda.head?.bind m.session.made?

/-- The moment when the next job is done; a panel that it makes is made on its root. -/
def afterOn (roots : PanelId → ClassList) (m : Moment) : Moment :=
  match m.made? with
  | none => m.after
  | some (p, _) => ⟨m.after.agenda, m.after.session.furnish p (roots p)⟩

/-- As `Next`, where every panel is made on a root of its own. -/
inductive NextOn (roots : PanelId → ClassList) : Moment → Moment → Prop
  | call (t : Session.Step) (s : Session) : NextOn roots ⟨[], s⟩ ⟨[.step t], s⟩
  | takeLog (s : Session) : NextOn roots ⟨[], s⟩ ⟨[], s.takeLog.2⟩
  | perform (j : Job) (js : List Job) (s : Session) :
      NextOn roots ⟨j :: js, s⟩ (afterOn roots ⟨j :: js, s⟩)

abbrev LaterOn (roots : PanelId → ClassList) : Moment → Moment → Prop :=
  Relation.ReflTransGen (NextOn roots)

/-- Some run from the empty session comes by. -/
def ReachableOn (roots : PanelId → ClassList) (m : Moment) : Prop := LaterOn roots ⟨[], {}⟩ m

/-- A later moment, all through to which the selection calls for the same flags. -/
abbrev Undisturbed (roots : PanelId → ClassList) : Moment → Moment → Prop :=
  Relation.ReflTransGen fun m m' => NextOn roots m m' ∧ m'.live = m.live

theorem afterOn_of_none {j : Job} {js : List Job} {s : Session} (hj : s.made? j = none) :
    afterOn roots ⟨j :: js, s⟩ = ⟨(perform j s).1 ++ js, (perform j s).2⟩ := by
  simp [afterOn, made?, after, hj]

theorem afterOn_of_made {j : Job} {js : List Job} {s : Session} (hj : s.made? j = some (p, name)) :
    afterOn roots ⟨j :: js, s⟩ =
      ⟨(perform j s).1 ++ js, (perform j s).2.furnish p (roots p)⟩ := by
  simp [afterOn, made?, after, hj]

theorem sound_afterOn {j : Job} {js : List Job} {s : Session} {held : Holdings}
    (hs : s.Sound held) : ∃ held', (afterOn roots ⟨j :: js, s⟩).session.Sound held' := by
  obtain ⟨held', hs'⟩ := hs.perform j
  cases hj : s.made? j with
  | none =>
      rw [afterOn_of_none hj]
      exact ⟨held', hs'⟩
  | some made =>
      rw [afterOn_of_made hj]
      exact ⟨held', hs'.furnish made.1 (roots made.1)⟩

theorem ReachableOn.sound (h : ReachableOn roots m) : ∃ held, m.session.Sound held := by
  induction h with
  | refl => exact ⟨_, sound_empty⟩
  | tail _ hn ih =>
      obtain ⟨held, hs⟩ := ih
      cases hn with
      | call t s => exact ⟨held, hs⟩
      | takeLog s => exact sound_next hs (.takeLog s)
      | perform j js s => exact sound_afterOn hs

/-! ## One moment and the next -/

/-- What the tracker of a panel was before. -/
inductive Was (roots : PanelId → ClassList) (m m' : Moment) (p : PanelId) (t' : Tracker) : Prop
  | kept (t : Tracker) (ht : m.tracker? p = some t) (h : t'.face = t.face)
  | painted (t : Tracker) (ht : m.tracker? p = some t) (h : t'.face = t.face.paint m.live)
      (hlive : m'.live = m.live)
  | made (name : String) (hp : p = m.session.workspace.nextPanel)
      (h : t'.face = { name, root := roots p })

theorem was_of_repaints {t' : Tracker}
    (h : Repaints p m.session.workspace m'.session.workspace) (ht' : m'.tracker? p = some t') :
    Was roots m m' p t' := by
  obtain ⟨t, ht, hface | ⟨hface, hlive⟩⟩ := h t' ht'
  · exact .kept t ht hface
  · exact .painted t ht hface hlive

theorem was_afterOn {j : Job} {js : List Job} {s : Session} {held : Holdings}
    (hs : s.Sound held) {t' : Tracker} (ht' : (afterOn roots ⟨j :: js, s⟩).tracker? p = some t') :
    Was roots ⟨j :: js, s⟩ (afterOn roots ⟨j :: js, s⟩) p t' := by
  cases hj : s.made? j with
  | none =>
      rw [afterOn_of_none hj] at ht' ⊢
      exact was_of_repaints (repaints_perform fun name => by rw [hj]; exact nofun) ht'
  | some made =>
      obtain ⟨q, name⟩ := made
      obtain ⟨hq, hface⟩ := face_made hs hj
      rw [afterOn_of_made hj] at ht' ⊢
      have hget := get?_furnish (perform j s).2 q p (roots q)
      by_cases hpq : p = q
      · subst hpq
        obtain ⟨u, hu, hbare⟩ := Option.map_eq_some_iff.1 hface
        rw [if_pos rfl, hu] at hget
        obtain rfl := Option.some.inj (ht'.symm.trans hget)
        simp only [Tracker.face, Face.mk.injEq] at hbare
        refine .made name hq ?_
        simp only [Tracker.face, hbare]
      · -- the other panels, and the flags that are live, are as the job has left them
        rw [if_neg hpq] at hget
        have hrep : Repaints p s.workspace (perform j s).2.workspace :=
          repaints_perform fun n hmade => hpq (congrArg Prod.fst (Option.some.inj (hmade.symm.trans hj)))
        exact was_of_repaints (fun u hu => hrep u (hget ▸ hu)) ht'

theorem ReachableOn.was (hr : ReachableOn roots m) (hn : NextOn roots m m') {t' : Tracker}
    (ht' : m'.tracker? p = some t') : Was roots m m' p t' := by
  obtain ⟨held, hs⟩ := hr.sound
  cases hn with
  | call | takeLog => exact .kept t' ht' rfl
  | perform j js s => exact was_afterOn hs ht'

/-! ## Runs -/

/-- At every moment a root is what it was made on, with the stored flags shown on it. -/
theorem ReachableOn.root_eq (hroots : ∀ p, (roots p).Plain) (hr : ReachableOn roots m)
    (ht : m.tracker? p = some t) : t.root = t.flags.applyTo (roots p) := by
  show t.face.On (roots p)
  induction hr generalizing t with
  | refl => cases ht
  | tail hr hn ih =>
      cases ReachableOn.was hr hn ht with
      | kept u hu h =>
          rw [h]
          exact ih hu
      | painted u hu h =>
          rw [h]
          exact (ih hu).paint (hroots p).ascending _
      | made name hp h =>
          rw [h]
          exact (hroots p).applyTo_none.symm

theorem ReachableOn.tail (hr : ReachableOn roots m) (hn : NextOn roots m m') :
    ReachableOn roots m' := Relation.ReflTransGen.tail hr hn

theorem ReachableOn.call (hr : ReachableOn roots m) (hm : m.agenda = []) (t : Session.Step) :
    ReachableOn roots ⟨[.step t], m.session⟩ := by
  obtain ⟨agenda, s⟩ := m
  obtain rfl : agenda = [] := hm
  exact hr.tail (.call t s)

theorem ReachableOn.after (hr : ReachableOn roots m) : ReachableOn roots (m.afterOn roots) := by
  obtain ⟨agenda, s⟩ := m
  cases agenda with
  | nil => exact hr
  | cons j js => exact hr.tail (.perform j js s)

theorem ReachableOn.panel_lt (hr : ReachableOn roots m) (ht : m.tracker? p = some t) :
    p < m.session.workspace.nextPanel := by
  obtain ⟨held, hs⟩ := hr.sound
  refine hs.wired.panel_lt p ?_
  show (m.tracker? p).isSome
  rw [ht]
  rfl

theorem ReachableOn.nextPanel_le (hr : ReachableOn roots m) (hn : NextOn roots m m') :
    m.session.workspace.nextPanel ≤ m'.session.workspace.nextPanel := by
  obtain ⟨held, hs⟩ := hr.sound
  cases hn with
  | call | takeLog => exact Nat.le_refl _
  | perform j js s =>
      have hle := (progress_perform hs j).nextPanel
      cases hj : s.made? j with
      | none =>
          rw [afterOn_of_none hj]
          exact hle
      | some made =>
          rw [afterOn_of_made hj]
          exact hle

theorem ReachableOn.undisturbed (hr : ReachableOn roots m) (h : Undisturbed roots m m') :
    ReachableOn roots m' := by
  induction h with
  | refl => exact hr
  | tail _ hn ih => exact ih.tail hn.1

/-- Flags that are live stay painted for as long as they are live. -/
theorem flags_of_undisturbed {m₁ m₂ : Moment} {t₁ t₂ : Tracker} (hr : ReachableOn roots m₁)
    (h₁ : m₁.tracker? p = some t₁) (hlive : t₁.flags = m₁.live) (h : Undisturbed roots m₁ m₂)
    (h₂ : m₂.tracker? p = some t₂) : t₂.flags = t₁.flags := by
  have hrun : m₂.live = m₁.live ∧ p < m₂.session.workspace.nextPanel ∧
      ∀ t, m₂.tracker? p = some t → t.flags = t₁.flags := by
    clear h₂
    induction h with
    | refl =>
        refine ⟨rfl, hr.panel_lt h₁, fun t ht => ?_⟩
        rw [Option.some.inj (ht.symm.trans h₁)]
    | tail hrun hn ih =>
        obtain ⟨hsame, hlt, hflags⟩ := ih
        have hr' := hr.undisturbed hrun
        refine ⟨hn.2.trans hsame, Nat.lt_of_lt_of_le hlt (hr'.nextPanel_le hn.1), fun t ht => ?_⟩
        cases hr'.was hn.1 ht with
        | kept u hu h => exact (congrArg Face.flags h).trans (hflags u hu)
        | painted u hu h => exact (congrArg Face.flags h).trans (hsame.trans hlive.symm)
        | made name hp => exact absurd hp (Nat.ne_of_lt hlt)
  exact hrun.2.2 t₂ h₂

/-- The root of a panel mirrors its flags. -/
structure Mirrored (roots : PanelId → ClassList) (m : Moment) (p : PanelId) (t : Tracker) :
    Prop where
  notFound : t.root.has Flags.notFoundClass = t.flags.notFound
  isSearching : t.root.has Flags.isSearchingClass = t.flags.isSearching
  /-- No other class was added or removed since the panel was made. -/
  others : ∀ c, c ≠ Flags.notFoundClass → c ≠ Flags.isSearchingClass →
    t.root.has c = (roots p).has c
  /-- By whichever way a recompute came about, it was one only, which has stored and
  painted the flags that are live; where there was none, all that is shown stays. -/
  recomputed : ∀ m' t', NextOn roots m m' → m'.tracker? p = some t' →
    t'.recomputes = t.recomputes ∧ t'.flags = t.flags ∧ t'.root = t.root ∨
      t'.recomputes = t.recomputes + 1 ∧ t'.flags = m.live ∧ t'.flags = m'.live ∧
        t'.root = t'.flags.applyTo t.root
  /-- A direct recompute returns what it stores. -/
  returned : ∀ name js, m.agenda = .step (.recompute name) :: js →
    m.session.trackers.get? name = some p → ∃ t', (m.afterOn roots).tracker? p = some t' ∧
      t'.recomputes = t.recomputes + 1 ∧ (m.session.begin (.recompute name)).1 = .flags t'.flags
  /-- From a recompute on, as long as the selection calls for the same flags, flags and
  root stay, through any number of recomputes. -/
  repeated : ∀ m₁ t₁ m₂ t₂, NextOn roots m m₁ → m₁.tracker? p = some t₁ →
    t₁.recomputes ≠ t.recomputes → Undisturbed roots m₁ m₂ → m₂.tracker? p = some t₂ →
      t₂.flags = t₁.flags ∧ t₂.root = t₁.root

theorem ReachableOn.recomputed (hr : ReachableOn roots m) (ht : m.tracker? p = some t)
    (hn : NextOn roots m m') {t' : Tracker} (ht' : m'.tracker? p = some t') :
    t'.face = t.face ∨ t'.face = t.face.paint m.live ∧ m'.live = m.live := by
  cases hr.was hn ht' with
  | kept u hu h =>
      obtain rfl := Option.some.inj (ht.symm.trans hu)
      exact .inl h
  | painted u hu h hlive =>
      obtain rfl := Option.some.inj (ht.symm.trans hu)
      exact .inr ⟨h, hlive⟩
  | made name hp => exact absurd hp (Nat.ne_of_lt (hr.panel_lt ht))

theorem tracker?_after_recompute {js : List Job} (hagenda : m.agenda = .step (.recompute name) :: js)
    (hname : m.session.trackers.get? name = some p) (ht : m.tracker? p = some t) :
    (m.afterOn roots).tracker? p = some (t.paint m.live) := by
  obtain ⟨agenda, s⟩ := m
  obtain rfl : agenda = .step (.recompute name) :: js := hagenda
  have hbegin : (s.begin (.recompute name)).2.2 = s.setWorkspace (s.workspace.recompute p) := by
    have hname : s.trackers.get? name = some p := hname
    simp [begin, withTracker, hname]
  rw [afterOn_of_none rfl]
  show (s.begin (.recompute name)).2.2.workspace.trackers.get? p = _
  rw [hbegin]
  show (s.workspace.recompute p).trackers.get? p = _
  rw [trackers_recompute, Table.get?_modify, if_pos rfl]
  exact congrArg (Option.map fun t => t.paint s.workspace.liveFlags) ht

/-- Panels are made on any plain roots; at every moment of every run, within an
announcement or not, whether a panel listens or not, its root mirrors its flags. -/
theorem roots_mirror_flags (hroots : ∀ p, (roots p).Plain) (hr : ReachableOn roots m)
    (ht : m.tracker? p = some t) : Mirrored roots m p t := by
  have hroot := hr.root_eq hroots ht
  have hclasses := t.flags.has_classes_applyTo (roots p)
  refine ⟨?_, ?_, fun c hnf hs => ?_, fun m' t' hn ht' => ?_, fun name js hagenda hname => ?_,
    fun m₁ t₁ m₂ t₂ hn h₁ hcount hrun h₂ => ?_⟩
  · rw [hroot, hclasses.1]
  · rw [hroot, hclasses.2]
  · rw [hroot, Flags.has_applyTo, if_neg hs, if_neg hnf]
  · rcases hr.recomputed ht hn ht' with h | ⟨h, hlive⟩ <;>
      simp only [Tracker.face, Face.paint, Face.mk.injEq] at h <;>
      obtain ⟨-, hroot', hflags, hcount⟩ := h
    · exact .inl ⟨hcount, hflags, hroot'⟩
    · exact .inr ⟨hcount, hflags, hflags.trans hlive.symm, by rw [hroot', hflags]⟩
  · refine ⟨_, tracker?_after_recompute hagenda hname ht, rfl, ?_⟩
    simp [begin, withTracker, hname, Tracker.paint, live]
  · have hr₁ := hr.tail hn
    have hflags₁ : t₁.flags = m₁.live := by
      rcases hr.recomputed ht hn h₁ with h | ⟨h, hlive⟩
      · exact absurd (congrArg Face.recomputes h) hcount
      · exact (congrArg Face.flags h).trans hlive.symm
    have hflags := flags_of_undisturbed hr₁ h₁ hflags₁ hrun h₂
    have hr₂ : ReachableOn roots m₂ := hr₁.undisturbed hrun
    refine ⟨hflags, ?_⟩
    rw [hr₂.root_eq hroots h₂, hr₁.root_eq hroots h₁, hflags]

/-- The first panel is made on a root with classes of its own. -/
def furnished : PanelId → ClassList
  | 0 => ⟨["dark", "wide"]⟩
  | _ => {}

/-- A view has been told that a result was selected, and a tracker is to be told next. -/
def halfTold : Moment :=
  let setup : List Session.Step :=
    [.addResult "a" "A" true, .view "v" {} false, .tracker "t" 60, .bind "t"]
  let made := setup.foldl (fun m t => afterOn furnished ⟨[.step t], m.session⟩) ⟨[], {}⟩
  (afterOn furnished)^[2] ⟨[.step (.select (some "a"))], made.session⟩

theorem plain_furnished (p : PanelId) : (furnished p).Plain := by
  cases p with
  | zero => exact ⟨by decide, rfl, rfl⟩
  | succ p => exact ⟨ClassList.ascending_empty, rfl, rfl⟩

theorem halfTold_mirrored :
    (∀ p, (furnished p).Plain) ∧ ReachableOn furnished halfTold ∧
      halfTold.pending = [⟨.resync 1, .resultChanged none (some 1)⟩] ∧
      ∃ t, halfTold.tracker? 0 = some t ∧
        t.root = ⟨["dark", "is-searching", "not-found", "wide"]⟩ ∧ t.flags = ⟨true, true⟩ ∧
        Mirrored furnished halfTold 0 t := by
  have hempty : ReachableOn furnished ⟨[], {}⟩ := .refl
  have hadded := (hempty.call rfl (.addResult "a" "A" true)).after
  have hviewed := (hadded.call rfl (.view "v" {} false)).after
  have hmade := (hviewed.call rfl (.tracker "t" 60)).after
  have hbound := (hmade.call rfl (.bind "t")).after
  have htold : ReachableOn furnished halfTold := (hbound.call rfl (.select (some "a"))).after.after
  exact ⟨plain_furnished, htold, rfl, _, rfl, rfl, rfl, roots_mirror_flags plain_furnished htold rfl⟩

end Moment

end DetailPanel
