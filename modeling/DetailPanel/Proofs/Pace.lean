import Mathlib.Data.List.Basic

/-!
# The pace of throttled runs

A log lists what matters to a trailing throttle with window `w`: the fetches
that trigger it, the changes and renders that give its open window up, the
throttled runs, and where the clock was moved to.  A log is kept in pace if
every run closes the window that is open (`Pace.Log`).  Then

    a run comes exactly `w` after a fetch, with nothing but fetches
      and moves of the clock in between                          (Paced.opened)
    runs are `w` apart, so they number at most `elapsed / w`      (Paced.apart, Paced.runs_mul_le)
    there are at most as many runs as fetches                    (Paced.runs_le)
    a fetch is followed by a run within `w`, unless a change or
      a render comes first or the log ends too early             (Paced.followed)
-/

namespace DetailPanel

/-- What matters to the throttle of a panel. -/
inductive Mark where
  /-- A fetch of the current result. -/
  | fetch
  /-- The current result changes. -/
  | change
  | render
  /-- A throttled run. -/
  | run
  /-- The clock has been moved. -/
  | advance
  deriving DecidableEq, Repr

structure Event where
  time : Nat
  mark : Mark
  deriving DecidableEq, Repr

namespace Event

/-- An open window stays open. -/
def Quiet (e : Event) : Prop := e.mark = .fetch ∨ e.mark = .advance

def isRun (e : Event) : Bool := e.mark == .run

def isFetch (e : Event) : Bool := e.mark == .fetch

end Event

/-- After the fetch `f` comes, first of all that is not quiet, a change, a
render, or a throttled run within the window. -/
def Followed (w : Nat) (f : Event) (l : List Event) : Prop :=
  ∃ c e l', l = c ++ e :: l' ∧ (∀ x ∈ c, x.Quiet) ∧
    (e.mark = .change ∨ e.mark = .render ∨
      e.mark = .run ∧ f.time ≤ e.time ∧ e.time ≤ f.time + w)

/-- What a log says about a window `w`, when `elapsed` is the time at its end. -/
structure Paced (w elapsed : Nat) (l : List Event) : Prop where
  /-- A run comes exactly a window after the fetch that opened it. -/
  opened : ∀ a e b, l = a ++ e :: b → e.mark = .run →
    ∃ a' f c, a = a' ++ f :: c ∧ f.mark = .fetch ∧ e.time = f.time + w ∧ ∀ x ∈ c, x.Quiet
  apart : (l.filter Event.isRun).Pairwise fun d e => d.time + w ≤ e.time
  runs_mul_le : (l.filter Event.isRun).length * w ≤ elapsed
  runs_le : (l.filter Event.isRun).length ≤ (l.filter Event.isFetch).length
  /-- A fetch is followed up, unless the clock is not moved by a window after
  it, or, where the window is zero, is not moved at all. -/
  followed : ∀ a f b, l = a ++ f :: b → f.mark = .fetch →
    Followed w f b ∨ elapsed < f.time + w ∨ w = 0 ∧ ∀ x ∈ b, x.mark ≠ .advance

/-- The time, and when the open window was opened. -/
structure Pace where
  now : Nat := 0
  since : Option Nat := none

namespace Pace

/-- How an event follows on the log. -/
inductive Next (w : Nat) : Pace → Event → Pace → Prop
  | opens (now : Nat) : Next w ⟨now, none⟩ ⟨now, .fetch⟩ ⟨now, some now⟩
  | absorbed (now t : Nat) : Next w ⟨now, some t⟩ ⟨now, .fetch⟩ ⟨now, some t⟩
  | change (now : Nat) (since : Option Nat) : Next w ⟨now, since⟩ ⟨now, .change⟩ ⟨now, none⟩
  | render (now : Nat) (since : Option Nat) : Next w ⟨now, since⟩ ⟨now, .render⟩ ⟨now, none⟩
  | run (now t : Nat) : Next w ⟨now, some t⟩ ⟨t + w, .run⟩ ⟨t + w, none⟩
  /-- The clock is moved to before the end of the open window. -/
  | advance (now now' : Nat) (since : Option Nat) (hle : now ≤ now')
      (hopen : ∀ t, since = some t → now' < t + w) :
      Next w ⟨now, since⟩ ⟨now', .advance⟩ ⟨now', since⟩

/-- A log that is kept in pace, from the beginning. -/
inductive Log (w : Nat) : List Event → Pace → Prop
  | nil : Log w [] {}
  | snoc {l : List Event} {p p' : Pace} {e : Event} (hl : Log w l p) (he : Next w p e p') :
      Log w (l ++ [e]) p'

/-- A log with one more event, split at an event: at the new one or before it. -/
theorem concat_eq_split {l a b : List Event} {x e : Event} (h : l ++ [x] = a ++ e :: b) :
    (b = [] ∧ a = l ∧ e = x) ∨ ∃ b', b = b' ++ [x] ∧ l = a ++ e :: b' := by
  rcases List.eq_nil_or_concat b with rfl | ⟨b', y, rfl⟩
  · left
    obtain ⟨rfl, hx⟩ := List.append_inj' h rfl
    exact ⟨rfl, rfl, by simpa using hx.symm⟩
  · right
    rw [List.concat_eq_append] at h ⊢
    have h : l ++ [x] = (a ++ e :: b') ++ [y] := by simpa using h
    obtain ⟨rfl, hx⟩ := List.append_inj' h rfl
    obtain rfl : x = y := by simpa using hx
    exact ⟨b', rfl, rfl⟩

variable {w : Nat} {l : List Event} {p p' : Pace} {e : Event}

/-! ## The open window -/

/-- The open window was opened by a fetch, with nothing but quiet events since;
it has not closed yet, and no run comes after its opening. -/
structure Open (w : Nat) (l : List Event) (p : Pace) (t : Nat) : Prop where
  opened_le : t ≤ p.now
  now_le : p.now ≤ t + w
  runs_before : ∀ e ∈ l, e.mark = .run → e.time ≤ t
  opened : ∃ a c, l = a ++ ⟨t, .fetch⟩ :: c ∧ ∀ x ∈ c, x.Quiet

/-- What a fetch can still expect: everything after it was quiet, and a window
is open that closes in time. -/
structure Awaited (w : Nat) (f : Event) (l : List Event) (p : Pace) (t : Nat) : Prop where
  since_eq : p.since = some t
  opened_le : t ≤ f.time
  quiet : ∀ x ∈ l, x.Quiet
  moved : (∃ x ∈ l, x.mark = .advance) → p.now < t + w
  unmoved : (∀ x ∈ l, x.mark ≠ .advance) → p.now = f.time

/-- What is kept of a log, event by event. -/
structure Kept (w : Nat) (l : List Event) (p : Pace) : Prop where
  times : ∀ e ∈ l, e.time ≤ p.now
  window : ∀ t, p.since = some t → Open w l p t
  opened : ∀ a e b, l = a ++ e :: b → e.mark = .run →
    ∃ a' f c, a = a' ++ f :: c ∧ f.mark = .fetch ∧ e.time = f.time + w ∧ ∀ x ∈ c, x.Quiet
  apart : (l.filter Event.isRun).Pairwise fun d e => d.time + w ≤ e.time
  runs_mul_le : (l.filter Event.isRun).length * w ≤ p.since.getD p.now
  runs_le : (l.filter Event.isRun).length + p.since.isSome.toNat ≤
    (l.filter Event.isFetch).length
  followed : ∀ a f b, l = a ++ f :: b → f.mark = .fetch →
    Followed w f b ∨ ∃ t, Awaited w f b p t

theorem kept_nil (w : Nat) : Kept w [] {} where
  times := by simp
  window := by simp
  opened := by simp
  apart := .nil
  runs_mul_le := by simp
  runs_le := by simp
  followed := by simp

/-! ## One event -/

theorem Next.time_eq (he : Next w p e p') : e.time = p'.now := by
  cases he <;> rfl

theorem Kept.now_le (h : Kept w l p) (he : Next w p e p') : p.now ≤ p'.now := by
  cases he with
  | opens | absorbed | change | render => exact Nat.le_refl _
  | run now t => exact (h.window t rfl).now_le
  | advance now now' since hle hopen => exact hle

theorem Kept.times_next (h : Kept w l p) (he : Next w p e p') :
    ∀ x ∈ l ++ [e], x.time ≤ p'.now := by
  intro x hx
  rcases List.mem_append.1 hx with hx | hx
  · exact Nat.le_trans (h.times x hx) (h.now_le he)
  · obtain rfl := List.mem_singleton.1 hx
    exact Nat.le_of_eq he.time_eq

/-- A quiet event that comes in time leaves the window open. -/
theorem Open.quiet {t : Nat} (h : Open w l p t) (he : e.Quiet) {p' : Pace} (hle : p.now ≤ p'.now)
    (hw : p'.now ≤ t + w) : Open w (l ++ [e]) p' t where
  opened_le := Nat.le_trans h.opened_le hle
  now_le := hw
  runs_before := by
    intro x hx hrun
    rcases List.mem_append.1 hx with hx | hx
    · exact h.runs_before x hx hrun
    · obtain rfl := List.mem_singleton.1 hx
      rcases he with he | he <;> simp [he] at hrun
  opened := by
    obtain ⟨a, c, rfl, hc⟩ := h.opened
    refine ⟨a, c ++ [e], by simp, ?_⟩
    intro x hx
    rcases List.mem_append.1 hx with hx | hx
    · exact hc x hx
    · obtain rfl := List.mem_singleton.1 hx
      exact he

theorem Kept.window_next (h : Kept w l p) (he : Next w p e p') :
    ∀ t, p'.since = some t → Open w (l ++ [e]) p' t := by
  intro t ht
  cases he with
  | opens now =>
      obtain rfl : now = t := by simpa using ht
      refine ⟨Nat.le_refl _, Nat.le_add_right .., ?_, l, [], rfl, by simp⟩
      intro x hx hrun
      rcases List.mem_append.1 hx with hx | hx
      · exact h.times x hx
      · obtain rfl := List.mem_singleton.1 hx
        simp at hrun
  | absorbed now t' =>
      have hopen := h.window t ht
      exact hopen.quiet (.inl rfl) (Nat.le_refl _) hopen.now_le
  | advance now now' since hle hopen =>
      exact (h.window t ht).quiet (.inr rfl) hle (Nat.le_of_lt (hopen t ht))
  | change | render | run => simp at ht

theorem Kept.opened_next (h : Kept w l p) (he : Next w p e p') :
    ∀ a x b, l ++ [e] = a ++ x :: b → x.mark = .run →
      ∃ a' f c, a = a' ++ f :: c ∧ f.mark = .fetch ∧ x.time = f.time + w ∧
        ∀ y ∈ c, y.Quiet := by
  intro a x b heq hrun
  rcases concat_eq_split heq with ⟨-, rfl, rfl⟩ | ⟨b', -, hl⟩
  · cases he with
    | run now t =>
        obtain ⟨a', c, hl, hc⟩ := (h.window t rfl).opened
        exact ⟨a', _, c, hl, rfl, rfl, hc⟩
    | opens | absorbed | change | render | advance => simp at hrun
  · exact h.opened a x b' hl hrun

theorem Kept.apart_next (h : Kept w l p) (he : Next w p e p') :
    ((l ++ [e]).filter Event.isRun).Pairwise fun d e => d.time + w ≤ e.time := by
  rw [List.filter_append]
  refine List.pairwise_append.2 ⟨h.apart, ?_, ?_⟩
  · exact (List.pairwise_singleton _ e).sublist List.filter_sublist
  · intro d hd x hx
    obtain ⟨hd, hdrun⟩ := List.mem_filter.1 hd
    obtain ⟨hx, hxrun⟩ := List.mem_filter.1 hx
    obtain rfl := List.mem_singleton.1 hx
    cases he with
    | run now t =>
        have hle := (h.window t rfl).runs_before d hd (by simpa [Event.isRun] using hdrun)
        exact Nat.add_le_add_right hle w
    | opens | absorbed | change | render | advance => simp [Event.isRun] at hxrun

theorem Kept.getD_le (h : Kept w l p) : p.since.getD p.now ≤ p.now := by
  cases hs : p.since with
  | none => exact Nat.le_refl _
  | some t => exact (h.window t hs).opened_le

theorem Kept.runs_mul_le_next (h : Kept w l p) (he : Next w p e p') :
    ((l ++ [e]).filter Event.isRun).length * w ≤ p'.since.getD p'.now := by
  have hruns := h.runs_mul_le
  have hle := h.getD_le
  cases he with
  | run now t =>
      simp only [List.filter_append, List.length_append]
      simp [Event.isRun, Nat.add_mul] at hruns ⊢
      exact hruns
  | change now since | render now since =>
      simp [Event.isRun]
      exact Nat.le_trans hruns hle
  | opens | absorbed => simpa [Event.isRun] using hruns
  | advance now now' since hnow hopen =>
      cases since with
      | none =>
          simp [Event.isRun] at hruns ⊢
          exact Nat.le_trans hruns hnow
      | some t => simpa [Event.isRun] using hruns

theorem Kept.runs_le_next (h : Kept w l p) (he : Next w p e p') :
    ((l ++ [e]).filter Event.isRun).length + p'.since.isSome.toNat ≤
      ((l ++ [e]).filter Event.isFetch).length := by
  have hruns := h.runs_le
  cases he with
  | opens | absorbed | run | change | render | advance =>
      simp [Event.isRun, Event.isFetch] at hruns ⊢
      omega

theorem followed_concat {f : Event} (h : Followed w f l) (e : Event) : Followed w f (l ++ [e]) := by
  obtain ⟨c, x, l', rfl, hc, hx⟩ := h
  exact ⟨c, x, l' ++ [e], by simp, hc, hx⟩

theorem Awaited.next {f : Event} {b : List Event} {t : Nat} (h : Awaited w f b p t)
    (hle : f.time ≤ p'.now) (he : Next w p e p') :
    Followed w f (b ++ [e]) ∨ Awaited w f (b ++ [e]) p' t := by
  have hquiet : e.Quiet → ∀ x ∈ b ++ [e], x.Quiet := by
    intro hq x hx
    rcases List.mem_append.1 hx with hx | hx
    · exact h.quiet x hx
    · obtain rfl := List.mem_singleton.1 hx
      exact hq
  cases he with
  | opens now => exact absurd h.since_eq (by simp)
  | absorbed now t' =>
      right
      refine ⟨h.since_eq, h.opened_le, hquiet (.inl rfl), ?_, ?_⟩
      · rintro ⟨x, hx, hm⟩
        rcases List.mem_append.1 hx with hx | hx
        · exact h.moved ⟨x, hx, hm⟩
        · obtain rfl := List.mem_singleton.1 hx
          simp at hm
      · exact fun hstill => h.unmoved fun x hx => hstill x (List.mem_append_left _ hx)
  | change now since => exact .inl ⟨b, _, [], rfl, h.quiet, .inl rfl⟩
  | render now since => exact .inl ⟨b, _, [], rfl, h.quiet, .inr (.inl rfl)⟩
  | run now t' =>
      obtain rfl : t' = t := by simpa using h.since_eq
      have hend : t' + w ≤ f.time + w := Nat.add_le_add_right h.opened_le w
      exact .inl ⟨b, _, [], rfl, h.quiet, .inr (.inr ⟨rfl, hle, hend⟩)⟩
  | advance now now' since hnow hopen =>
      right
      refine ⟨h.since_eq, h.opened_le, hquiet (.inr rfl), fun _ => hopen t h.since_eq, ?_⟩
      intro hstill
      exact absurd rfl (hstill ⟨now', .advance⟩ (by simp))

theorem Kept.followed_next (h : Kept w l p) (he : Next w p e p') :
    ∀ a f b, l ++ [e] = a ++ f :: b → f.mark = .fetch →
      Followed w f b ∨ ∃ t, Awaited w f b p' t := by
  intro a f b heq hfetch
  rcases concat_eq_split heq with ⟨rfl, rfl, rfl⟩ | ⟨b', rfl, rfl⟩
  · right
    cases he with
    | opens now => exact ⟨now, rfl, Nat.le_refl _, by simp, by simp, fun _ => rfl⟩
    | absorbed now t =>
        exact ⟨t, rfl, (h.window t rfl).opened_le, by simp, by simp, fun _ => rfl⟩
    | change | render | run | advance => simp at hfetch
  · have hle : f.time ≤ p'.now := h.times_next he f (by simp)
    rcases h.followed a f b' rfl hfetch with hfollowed | ⟨t, hawaited⟩
    · exact .inl (followed_concat hfollowed e)
    · exact (hawaited.next hle he).imp_right fun h => ⟨t, h⟩

theorem Kept.next (h : Kept w l p) (he : Next w p e p') : Kept w (l ++ [e]) p' where
  times := h.times_next he
  window := h.window_next he
  opened := h.opened_next he
  apart := h.apart_next he
  runs_mul_le := h.runs_mul_le_next he
  runs_le := h.runs_le_next he
  followed := h.followed_next he

/-! ## Whole logs -/

theorem Log.kept (h : Log w l p) : Kept w l p := by
  induction h with
  | nil => exact kept_nil w
  | snoc _ he ih => exact ih.next he

theorem Log.paced (h : Log w l p) : Paced w p.now l where
  opened := h.kept.opened
  apart := h.kept.apart
  runs_mul_le := Nat.le_trans h.kept.runs_mul_le h.kept.getD_le
  runs_le := Nat.le_trans (Nat.le_add_right ..) h.kept.runs_le
  followed a f b hl hf := by
    rcases h.kept.followed a f b hl hf with hfollowed | ⟨t, hawaited⟩
    · exact .inl hfollowed
    · right
      by_cases hmoved : ∃ x ∈ b, x.mark = .advance
      · left
        have hlt := hawaited.moved hmoved
        have hle := hawaited.opened_le
        omega
      · have hstill : ∀ x ∈ b, x.mark ≠ .advance := fun x hx hm => hmoved ⟨x, hx, hm⟩
        have hnow := hawaited.unmoved hstill
        rcases Nat.eq_zero_or_pos w with hw | hw
        · exact .inr ⟨hw, hstill⟩
        · left
          omega

end Pace

end DetailPanel
