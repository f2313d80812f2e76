import DetailPanel.Throttle
import Mathlib.Data.List.Chain
import Mathlib.Data.List.Induction

/-!
# What a throttle answers

The history of a throttle lists its calls with their answers.  A trigger that is
answered with true opens the window; a poll or a cancel that is answered with true
closes it.  What the throttle holds can be read off its history (`Accounted`), and
if time does not go back, the polls that fire are a window apart (`Spaced`).

    Next t a t'  : the call of `a` is answered as in `a` and leads from t to t'
    Accounted w h t → Next t a t' → Accounted w (h ++ [a]) t'         (Accounted.next)
    Spaced w h t → Next t a t' → Spaced w (h ++ [a]) t'                  (Spaced.next)

`calls_accounted` says so of all calls of a new throttle.
-/

namespace DetailPanel.Throttle

inductive Call where
  | trigger (now : Nat)
  | poll (now : Nat)
  | cancel
  deriving DecidableEq, Repr

/-- The time that a call is told. -/
def Call.time? : Call → Option Nat
  | .trigger now | .poll now => some now
  | .cancel => none

def call (t : Throttle) : Call → Bool × Throttle
  | .trigger now => t.trigger now
  | .poll now => t.poll now
  | .cancel => t.cancel

/-- The throttle after some calls. -/
def callAll (t : Throttle) (cs : List Call) : Throttle := cs.foldl (fun t c => (t.call c).2) t

/-- A call with its answer. -/
structure Answered where
  call : Call
  answer : Bool
  deriving DecidableEq, Repr

def history (t : Throttle) : List Call → List Answered
  | [] => []
  | c :: cs => ⟨c, (t.call c).1⟩ :: (t.call c).2.history cs

namespace Answered

/-- A trigger that opened a window. -/
def arms : Answered → Bool
  | ⟨.trigger _, true⟩ => true
  | _ => false

/-- A trigger that fell into an open window. -/
def isAbsorbed : Answered → Bool
  | ⟨.trigger _, false⟩ => true
  | _ => false

def fires : Answered → Bool
  | ⟨.poll _, true⟩ => true
  | _ => false

/-- A cancel that found a window open. -/
def givesUp : Answered → Bool
  | ⟨.cancel, true⟩ => true
  | _ => false

/-- A call that opened or closed a window. -/
def turns (a : Answered) : Bool := a.arms || a.fires || a.givesUp

/-- An arming trigger, or a cancel whatever it found. -/
def resets : Answered → Bool
  | ⟨.trigger _, true⟩ | ⟨.cancel, _⟩ => true
  | _ => false

/-- The time of a call that armed. -/
def armingTime? (a : Answered) : Option Nat := if a.arms then a.call.time? else none

/-- The time of a poll that fired. -/
def firingTime? (a : Answered) : Option Nat := if a.fires then a.call.time? else none

end Answered

/-- The calls of a history that opened or closed a window. -/
def turnsOf (h : List Answered) : List Answered := h.filter Answered.turns

/-- The calls of a history after the last one that armed or cancelled, the latest first. -/
def sinceReset (h : List Answered) : List Answered := h.reverse.takeWhile fun a => !a.resets

/-- What a throttle holds after a history, for a window `w`. -/
structure Accounted (w : Nat) (h : List Answered) (t : Throttle) : Prop where
  window_eq : t.window = w
  /-- Every window that was opened was closed by a poll or a cancel, or is open. -/
  balance : h.countP Answered.arms =
    h.countP Answered.fires + h.countP Answered.givesUp + t.isPending.toNat
  /-- Windows are opened and closed in turn. -/
  alternate : (turnsOf h).IsChain fun a b => a.arms ≠ b.arms
  /-- The first turn opens a window. -/
  begins : ∀ a, (turnsOf h).head? = some a → a.arms = true
  /-- The deadline is a window after the last turn, if that opened a window; there is none
  otherwise. -/
  deadline_eq : t.deadline = ((turnsOf h).getLast?.bind Answered.armingTime?).map (· + w)
  absorbed_eq : t.absorbed = min absorbedLimit ((sinceReset h).countP Answered.isAbsorbed)
  /-- As long as nothing has armed or cancelled, no trigger is counted. -/
  unreset : (∀ a ∈ h, a.resets = false) → t.absorbed = 0

/-- The times of the calls of a history. -/
def times (h : List Answered) : List Nat := h.filterMap (·.call.time?)

/-- The times of the polls that fired. -/
def firings (h : List Answered) : List Nat := h.filterMap Answered.firingTime?

/-- Polls that fire are a window apart. -/
structure Spaced (w : Nat) (h : List Answered) (t : Throttle) : Prop where
  apart : (firings h).Pairwise fun s s' => s + w ≤ s'
  before : ∀ since, t.armedAt = some since → ∀ s ∈ firings h, s ≤ since
  armed : ∀ since, t.armedAt = some since → since ∈ times h

/-! ## One call -/

/-- What a call is answered, and what it leads to. -/
inductive Next (t : Throttle) : Answered → Throttle → Prop
  | arms (now : Nat) (h : t.armedAt = none) :
      Next t ⟨.trigger now, true⟩ { t with armedAt := some now, absorbed := 0 }
  | absorbs (now since : Nat) (h : t.armedAt = some since) :
      Next t ⟨.trigger now, false⟩ { t with absorbed := min absorbedLimit (t.absorbed + 1) }
  | fires (now since : Nat) (h : t.armedAt = some since) (hdue : t.window ≤ now - since) :
      Next t ⟨.poll now, true⟩ { t with armedAt := none }
  | waits (now : Nat) (h : t.isDue now = false) : Next t ⟨.poll now, false⟩ t
  | givesUp (since : Nat) (h : t.armedAt = some since) :
      Next t ⟨.cancel, true⟩ { t with armedAt := none, absorbed := 0 }
  | idles (h : t.armedAt = none) : Next t ⟨.cancel, false⟩ { t with absorbed := 0 }

theorem next_call (t : Throttle) (c : Call) : Next t ⟨c, (t.call c).1⟩ (t.call c).2 := by
  cases c with
  | trigger now =>
      show Next t ⟨_, (t.trigger now).1⟩ (t.trigger now).2
      unfold trigger
      split
      · rename_i since h
        exact .absorbs now since h
      · rename_i h
        exact .arms now h
  | poll now =>
      show Next t ⟨_, (t.poll now).1⟩ (t.poll now).2
      unfold poll
      by_cases hdue : t.isDue now = true
      · rw [if_pos hdue]
        unfold isDue at hdue
        split at hdue
        · rename_i since h
          exact .fires now since h (by simpa using hdue)
        · cases hdue
      · rw [if_neg hdue]
        exact .waits now (by simpa using hdue)
  | cancel =>
      show Next t ⟨_, t.isPending⟩ { t with armedAt := none, absorbed := 0 }
      cases h : t.armedAt with
      | none =>
          have hkeep : ({ t with armedAt := none, absorbed := 0 } : Throttle) =
              { t with absorbed := 0 } := by rw [← h]
          have hidle : t.isPending = false := by simp [isPending, h]
          rw [hkeep, hidle]
          exact .idles h
      | some since =>
          have hpending : t.isPending = true := by simp [isPending, h]
          rw [hpending]
          exact .givesUp since h

variable {w : Nat} {h : List Answered} {t t' : Throttle} {a : Answered}

/-- A poll fires exactly if a window is open and its deadline has come, or has length zero. -/
theorem poll_eq_true_iff (t : Throttle) (now : Nat) :
    (t.poll now).1 = true ↔ ∃ d, t.deadline = some d ∧ (d ≤ now ∨ t.window = 0) := by
  have hfst : (t.poll now).1 = t.isDue now := by
    unfold poll
    split
    · rename_i hdue
      exact hdue.symm
    · rename_i hdue
      simpa using hdue
  rw [hfst]
  unfold isDue deadline
  cases t.armedAt with
  | none => simp
  | some since =>
      simp only [decide_eq_true_eq, Option.map_some, Option.some.injEq, exists_eq_left']
      omega

theorem absorbed_poll (t : Throttle) (now : Nat) : (t.poll now).2.absorbed = t.absorbed := by
  unfold poll
  split <;> rfl

theorem turnsOf_concat (h : List Answered) (a : Answered) :
    turnsOf (h ++ [a]) = turnsOf h ++ if a.turns then [a] else [] := by
  unfold turnsOf
  rw [List.filter_append]
  cases ha : a.turns <;> simp [ha]

theorem sinceReset_concat (h : List Answered) (a : Answered) :
    sinceReset (h ++ [a]) = if a.resets then [] else a :: sinceReset h := by
  unfold sinceReset
  rw [List.reverse_append, List.reverse_singleton, List.singleton_append, List.takeWhile_cons]
  cases a.resets <;> rfl

/-- A call that turns finds the window as it does not leave it, and one that does not turn
leaves it as it is. -/
theorem Next.turn (he : Next t a t') :
    (a.turns = false → t'.armedAt = t.armedAt) ∧
      (a.turns = true → t.isPending = !a.arms ∧ t'.armedAt = a.armingTime?) := by
  cases he with
  | arms now h | absorbs now since h | fires now since h hdue | givesUp since h | idles h =>
      simp [Answered.turns, Answered.arms, Answered.fires, Answered.givesUp, isPending, h,
        Answered.armingTime?, Call.time?]
  | waits now h => simp [Answered.turns, Answered.arms, Answered.fires, Answered.givesUp]

theorem Next.window (he : Next t a t') : t'.window = t.window := by
  cases he <;> rfl

theorem armingTime?_of_arms (ha : a.arms = true) : ∃ now, a.armingTime? = some now := by
  obtain ⟨c, answer⟩ := a
  cases c with
  | trigger now => exact ⟨now, by rw [Answered.armingTime?, if_pos ha]; rfl⟩
  | poll now => cases ha
  | cancel => cases ha

theorem resets_of_arms (ha : a.arms = true) : a.resets = true := by
  obtain ⟨c, answer⟩ := a
  cases c with
  | trigger now =>
      cases answer with
      | true => rfl
      | false => cases ha
  | poll now => cases ha
  | cancel => rfl

namespace Accounted

/-- The last turn opened the window if it is open, and closed it otherwise. -/
theorem last_arms (hacc : Accounted w h t) (hlast : (turnsOf h).getLast? = some a) :
    a.arms = t.isPending := by
  have hdeadline := hacc.deadline_eq
  rw [hlast] at hdeadline
  have hpending : t.isPending = t.deadline.isSome := by simp [isPending, deadline]
  rw [hpending, hdeadline]
  cases ha : a.arms with
  | true =>
      obtain ⟨now, hnow⟩ := armingTime?_of_arms ha
      simp [hnow]
  | false => simp [Answered.armingTime?, ha]

/-- A window that is open was opened by a turn. -/
theorem turned (hacc : Accounted w h t) (hp : t.isPending = true) : turnsOf h ≠ [] := by
  intro hnil
  have hdeadline := hacc.deadline_eq
  rw [hnil] at hdeadline
  simp [deadline] at hdeadline
  simp [isPending, hdeadline] at hp

theorem balance_next (hacc : Accounted w h t) (he : Next t a t') :
    (h ++ [a]).countP Answered.arms = (h ++ [a]).countP Answered.fires +
      (h ++ [a]).countP Answered.givesUp + t'.isPending.toNat := by
  have hbalance := hacc.balance
  simp only [List.countP_append, List.countP_singleton]
  cases he with
  | arms now h | absorbs now since h | fires now since h hdue | givesUp since h | idles h =>
      simp [Answered.arms, Answered.fires, Answered.givesUp, isPending, h] at hbalance ⊢
      omega
  | waits now h =>
      simp [Answered.arms, Answered.fires, Answered.givesUp] at hbalance ⊢
      omega

theorem alternate_next (hacc : Accounted w h t) (he : Next t a t') :
    (turnsOf (h ++ [a])).IsChain fun a b => a.arms ≠ b.arms := by
  rw [turnsOf_concat]
  cases ha : a.turns with
  | false => simpa using hacc.alternate
  | true =>
      refine List.isChain_append.2 ⟨hacc.alternate, List.isChain_singleton a, ?_⟩
      intro x hx y hy
      obtain rfl : a = y := by simpa using hy
      have hlast := hacc.last_arms hx
      have hturn := (he.turn.2 ha).1
      rw [hlast, hturn]
      simp

theorem begins_next (hacc : Accounted w h t) (he : Next t a t') :
    ∀ x, (turnsOf (h ++ [a])).head? = some x → x.arms = true := by
  intro x hx
  rw [turnsOf_concat, List.head?_append] at hx
  cases hfirst : (turnsOf h).head? with
  | some y =>
      rw [hfirst] at hx
      obtain rfl : y = x := by simpa using hx
      exact hacc.begins y hfirst
  | none =>
      have hnil : turnsOf h = [] := List.head?_eq_none_iff.1 hfirst
      rw [hfirst] at hx
      cases ha : a.turns with
      | false => simp [ha] at hx
      | true =>
          obtain rfl : a = x := by simpa [ha] using hx
          have hturn := (he.turn.2 ha).1
          have hclosed : ¬ t.isPending = true := fun hp => hacc.turned hp hnil
          simpa [hturn] using hclosed

theorem deadline_next (hacc : Accounted w h t) (he : Next t a t') :
    t'.deadline = ((turnsOf (h ++ [a])).getLast?.bind Answered.armingTime?).map (· + w) := by
  have hwindow : t'.window = w := he.window.trans hacc.window_eq
  rw [turnsOf_concat]
  cases ha : a.turns with
  | false =>
      have hsame : t'.deadline = t.deadline := by
        rw [deadline, deadline, he.turn.1 ha, he.window]
      rw [hsame, hacc.deadline_eq]
      simp
  | true =>
      rw [deadline, (he.turn.2 ha).2, hwindow]
      simp

theorem absorbed_next (hacc : Accounted w h t) (he : Next t a t') :
    t'.absorbed = min absorbedLimit ((sinceReset (h ++ [a])).countP Answered.isAbsorbed) := by
  have habsorbed := hacc.absorbed_eq
  rw [sinceReset_concat]
  cases he with
  | arms | givesUp | idles => simp [Answered.resets]
  | absorbs now since h =>
      have hcount : ∀ l : List Answered,
          (⟨.trigger now, false⟩ :: l).countP Answered.isAbsorbed =
            l.countP Answered.isAbsorbed + 1 := fun l => List.countP_cons_of_pos rfl
      simp only [Answered.resets, Bool.false_eq_true, if_false, hcount]
      omega
  | fires | waits => simpa [Answered.resets, Answered.isAbsorbed] using habsorbed

theorem unreset_next (hacc : Accounted w h t) (he : Next t a t')
    (hnone : ∀ x ∈ h ++ [a], x.resets = false) : t'.absorbed = 0 := by
  have hh : ∀ x ∈ h, x.resets = false := fun x hx => hnone x (List.mem_append_left _ hx)
  have ha : a.resets = false := hnone a (by simp)
  have hzero := hacc.unreset hh
  cases he with
  | arms | givesUp | idles => cases ha
  | fires | waits => exact hzero
  | absorbs now since hpending =>
      -- the window is open, so a trigger opened it
      have hopen : t.isPending = true := by simp [isPending, hpending]
      obtain ⟨x, hlast⟩ : ∃ x, (turnsOf h).getLast? = some x :=
        ⟨_, List.getLast?_eq_some_getLast (hacc.turned hopen)⟩
      have hmem : x ∈ h := List.mem_of_mem_filter (List.mem_of_getLast? hlast)
      have harms : x.arms = true := (hacc.last_arms hlast).trans hopen
      have hreset := hh x hmem
      rw [resets_of_arms harms] at hreset
      cases hreset

theorem next (hacc : Accounted w h t) (he : Next t a t') : Accounted w (h ++ [a]) t' where
  window_eq := he.window.trans hacc.window_eq
  balance := hacc.balance_next he
  alternate := hacc.alternate_next he
  begins := hacc.begins_next he
  deadline_eq := hacc.deadline_next he
  absorbed_eq := hacc.absorbed_next he
  unreset := hacc.unreset_next he

end Accounted

theorem accounted_new (w : Nat) : Accounted w [] { window := w } where
  window_eq := rfl
  balance := rfl
  alternate := List.isChain_nil
  begins := by simp [turnsOf]
  deadline_eq := rfl
  absorbed_eq := rfl
  unreset _ := rfl

/-! ## Times that do not go back -/

theorem firings_concat (h : List Answered) (a : Answered) :
    firings (h ++ [a]) = firings h ++ a.firingTime?.toList := by
  unfold firings
  rw [List.filterMap_append]
  cases ha : a.firingTime? <;> simp [ha]

theorem times_concat (h : List Answered) (a : Answered) :
    times (h ++ [a]) = times h ++ a.call.time?.toList := by
  unfold times
  rw [List.filterMap_append]
  cases ha : a.call.time? <;> simp [ha]

/-- A poll that fires is a call that is told a time. -/
theorem firings_subset (h : List Answered) : ∀ s ∈ firings h, s ∈ times h := by
  intro s hs
  obtain ⟨a, ha, hfired⟩ := List.mem_filterMap.1 hs
  refine List.mem_filterMap.2 ⟨a, ha, ?_⟩
  unfold Answered.firingTime? at hfired
  split at hfired
  · exact hfired
  · cases hfired

/-- A call that neither fires nor arms keeps the firings as they are. -/
theorem Spaced.keep (hs : Spaced w h t) (hquiet : a.firingTime? = none)
    (harmed : ∀ since, t'.armedAt = some since → t.armedAt = some since) :
    Spaced w (h ++ [a]) t' := by
  have hfirings : firings (h ++ [a]) = firings h := by
    rw [firings_concat, hquiet]
    simp
  constructor
  · rw [hfirings]
    exact hs.apart
  · intro since hsince
    rw [hfirings]
    exact hs.before since (harmed since hsince)
  · intro since hsince
    rw [times_concat]
    exact List.mem_append_left _ (hs.armed since (harmed since hsince))

/-- A call that is told no time before that of an earlier call keeps the firings apart. -/
theorem Spaced.next (hs : Spaced w h t) (hw : t.window = w) (he : Next t a t')
    (hle : ∀ now, a.call.time? = some now → ∀ s ∈ times h, s ≤ now) :
    Spaced w (h ++ [a]) t' := by
  cases he with
  | arms now hidle =>
      have hfirings : firings (h ++ [⟨.trigger now, true⟩]) = firings h ++ [] := firings_concat ..
      rw [List.append_nil] at hfirings
      constructor
      · rw [hfirings]
        exact hs.apart
      · intro since hsince s hfired
        obtain rfl : now = since := by simpa using hsince
        rw [hfirings] at hfired
        exact hle now rfl s (firings_subset h s hfired)
      · intro since hsince
        obtain rfl : now = since := by simpa using hsince
        rw [times_concat]
        simp [Call.time?]
  | fires now since hopen hdue =>
      have hfirings : firings (h ++ [⟨.poll now, true⟩]) = firings h ++ [now] := firings_concat ..
      have hsince : since ≤ now := hle now rfl since (hs.armed since hopen)
      constructor
      · rw [hfirings]
        refine List.pairwise_append.2 ⟨hs.apart, List.pairwise_singleton .., ?_⟩
        intro s hs' s' hs''
        obtain rfl : s' = now := by simpa using hs''
        have hbefore := hs.before since hopen s hs'
        omega
      · intro since' hnone
        cases hnone
      · intro since' hnone
        cases hnone
  | absorbs | waits | idles => exact hs.keep rfl fun _ hsince => hsince
  | givesUp => exact hs.keep rfl fun _ hnone => by cases hnone

theorem spaced_new (w : Nat) : Spaced w [] { window := w } where
  apart := List.Pairwise.nil
  before := by simp
  armed := by simp

/-! ## All calls -/

theorem history_concat (t : Throttle) (cs : List Call) (c : Call) :
    t.history (cs ++ [c]) = t.history cs ++ [⟨c, ((t.callAll cs).call c).1⟩] := by
  induction cs generalizing t with
  | nil => rfl
  | cons d cs ih =>
      rw [List.cons_append, history, ih]
      rfl

theorem callAll_concat (t : Throttle) (cs : List Call) (c : Call) :
    t.callAll (cs ++ [c]) = ((t.callAll cs).call c).2 := by
  unfold callAll
  rw [List.foldl_append]
  rfl

theorem times_history (t : Throttle) (cs : List Call) :
    times (t.history cs) = cs.filterMap Call.time? := by
  unfold times
  induction cs generalizing t with
  | nil => rfl
  | cons c cs ih =>
      rw [history, List.filterMap_cons, List.filterMap_cons, ih]

theorem accounted (w : Nat) (cs : List Call) :
    Accounted w (({ window := w } : Throttle).history cs)
      (({ window := w } : Throttle).callAll cs) := by
  induction cs using List.reverseRecOn with
  | nil => exact accounted_new w
  | append_singleton cs c ih =>
      rw [history_concat, callAll_concat]
      exact ih.next (next_call _ c)

theorem spaced (w : Nat) (cs : List Call) (hcs : (cs.filterMap Call.time?).Pairwise (· ≤ ·)) :
    Spaced w (({ window := w } : Throttle).history cs)
      (({ window := w } : Throttle).callAll cs) := by
  induction cs using List.reverseRecOn with
  | nil => exact spaced_new w
  | append_singleton cs c ih =>
      rw [List.filterMap_append] at hcs
      obtain ⟨hbefore, -, hlast⟩ := List.pairwise_append.1 hcs
      rw [history_concat, callAll_concat]
      refine (ih hbefore).next (accounted w cs).window_eq (next_call _ c) ?_
      intro now hnow s hs
      rw [times_history] at hs
      have hnow : c.time? = some now := hnow
      exact hlast s hs now (by simp [hnow])

theorem map_call_history (t : Throttle) (cs : List Call) : (t.history cs).map Answered.call = cs := by
  induction cs generalizing t with
  | nil => rfl
  | cons c cs ih => rw [history, List.map_cons, ih]

/-- Whatever a throttle is told, in whatever order of times, its windows are opened and closed
in turn, its deadline is a window after the arming that is open, a poll fires exactly if that
has come or the window is zero, and it counts the triggers that it absorbed since it last
armed or was cancelled, a poll leaving the count alone.  If the times do not go back, the polls
that fire are a window apart. -/
theorem calls_accounted (w : Nat) (cs : List Call) :
    let h := ({ window := w } : Throttle).history cs
    let t := ({ window := w } : Throttle).callAll cs
    h.map Answered.call = cs ∧ Accounted w h t ∧
      (∀ now, (t.poll now).1 = true ↔ ∃ d, t.deadline = some d ∧ (d ≤ now ∨ w = 0)) ∧
      (∀ now, (t.poll now).2.absorbed = t.absorbed) ∧
      ((cs.filterMap Call.time?).Pairwise (· ≤ ·) →
        (firings h).Pairwise fun s s' => s + w ≤ s') := by
  intro h t
  have hacc : Accounted w h t := accounted w cs
  refine ⟨map_call_history _ cs, hacc, ?_, absorbed_poll t, ?_⟩
  · intro now
    have hpoll := poll_eq_true_iff t now
    rwa [hacc.window_eq] at hpoll
  · intro hcs
    exact (spaced w cs hcs).apart

/-- Two bursts, each of which fires once; the trigger after them is given up. -/
theorem bursts_accounted :
    let cs : List Call := [.trigger 0, .trigger 5, .poll 59, .poll 60, .trigger 70, .poll 200,
      .trigger 201, .cancel]
    let h := ({ window := 60 } : Throttle).history cs
    h.map Answered.answer = [true, false, false, true, true, true, true, true] ∧
      firings h = [60, 200] ∧ (cs.filterMap Call.time?).Pairwise (· ≤ ·) ∧
      (firings h).Pairwise fun s s' => s + 60 ≤ s' := by
  intro cs h
  have hcs : (cs.filterMap Call.time?).Pairwise (· ≤ ·) := by decide
  exact ⟨by decide, by decide, hcs, (calls_accounted 60 cs).2.2.2.2 hcs⟩

end DetailPanel.Throttle
