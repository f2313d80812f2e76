import DetailPanel.Proofs.Workspace.Solo
import DetailPanel.Replay.Basic

/-!
# A reference machine for replays

What a replay shows depends on six variables only: the time, which results are
searching, the current result by its name, the metacard, the flags shown, and
the deadline of the throttled recompute.  `Reference.step` says what each step
makes of them, without listeners, bindings or generations.  A workspace agrees
with the machine if it has the same selection by the names of the results.

    Agrees names w q → w.liveFlags = q.live                                 (Agrees.live)
    Agrees names w q → (w.result = current.bind names.get? ↔ q.current = current)
                                                                  (Agrees.result_eq_iff)
-/

namespace DetailPanel.Replay

/-- What can be seen of a replay after the panel was first shown. -/
structure Reference where
  now : Nat := 0
  /-- Whether the results that were added are searching. -/
  searching : Table String Bool := []
  current : Option String := none
  /-- The metacard by its identifier and its title. -/
  card : Option (String × Option String) := none
  flags : Flags := { notFound := true }
  deadline : Option Nat := none
  deriving DecidableEq, Repr

namespace Reference

def live (q : Reference) : Flags where
  notFound := q.card.isNone
  isSearching := q.current.any fun x => q.searching.get? x = some true

/-- Show the live flags. -/
def refresh (q : Reference) : Reference := { q with flags := q.live }

def render (q : Reference) : Reference := { q.refresh with deadline := none }

def select (q : Reference) (current : Option String) : Reference :=
  if q.current = current then q else { q with current }.render

def selectCard (q : Reference) (card : Option (String × Option String)) : Reference :=
  if q.card = card then q else { q with card }.refresh

def setSearching (q : Reference) (x : String) (on : Bool) : Reference :=
  { q with searching := q.searching.set x on }

def fetch (q : Reference) (window : Nat) (x : String) (on : Bool) : Reference :=
  if q.current = some x ∧ q.deadline = none then
    { q.setSearching x on with deadline := some (q.now + window) }
  else q.setSearching x on

/-- A fetch of the current result leaves a deadline. -/
theorem fetch_current {q : Reference} {x : String} (h : q.current = some x) (window : Nat)
    (on : Bool) : q.fetch window x on =
      { q.setSearching x on with deadline := some (q.deadline.getD (q.now + window)) } := by
  unfold fetch
  cases hd : q.deadline with
  | none => simp [h]
  | some d => simp [setSearching, hd]

/-- Run what falls due on the way. -/
def advance (q : Reference) (ms : Nat) : Reference :=
  if q.deadline.any (· ≤ q.now + ms) then { q.render with now := q.now + ms }
  else { q with now := q.now + ms }

/-- A step that names a result which was added. -/
def withResult (q : Reference) (n : Nat) (x : String) (q' : Reference) : Except Fault Reference :=
  if q.searching.contains x then .ok q' else .error (.unknownResult n x)

def step (window : Nat) (q : Reference) (n : Nat) : Step → Except Fault Reference
  | .addResult x on =>
      if q.searching.contains x then .error (.duplicateResult n x) else .ok (q.setSearching x on)
  | .selectResult x => q.withResult n x (q.select (some x))
  | .clearResult => .ok (q.select none)
  | .selectMetacard id title => .ok (q.selectCard (some (id, title)))
  | .clearMetacard => .ok (q.selectCard none)
  | .beginFetch x => q.withResult n x (q.fetch window x true)
  | .completeFetch x => q.withResult n x (q.fetch window x false)
  | .failFetch x => q.withResult n x (q.fetch window x false)
  | .advance ms => .ok (q.advance ms.toNat)
  | .render => .ok q.render

/-- What a step adds to the timeline: an entry if it changed the flags, in an
advance at the deadline. -/
def entries (q : Reference) (n : Nat) (s : Step) (q' : Reference) : List Entry :=
  if q'.flags = q.flags then []
  else
    match s with
    | .advance _ => [⟨n, writtenTime (q.deadline.getD q.now), .throttle, q'.flags⟩]
    | s => [⟨n, writtenTime q.now, .step s.kind, q'.flags⟩]

end Reference

/-! ## The selection by names -/

/-- A workspace has the selection that the machine has by names. -/
structure Agrees (names : Table String ResultId) (w : Workspace) (q : Reference) : Prop where
  now : w.now = q.now
  searching : ∀ x, q.searching.get? x = (names.get? x).map w.isSearching
  known : ∀ x id, names.get? x = some id → (w.results.get? id).isSome
  inj : ∀ x y id, names.get? x = some id → names.get? y = some id → x = y
  result : w.result = q.current.bind names.get?
  current : ∀ x, q.current = some x → (names.get? x).isSome
  card : w.card = q.card.map fun c => { id := c.1, title := c.2 }

namespace Agrees

variable {names : Table String ResultId} {w w' : Workspace} {q q' : Reference}

theorem transport (h : Agrees names w q) (hw : Workspace.PanelsOnly w w') : Agrees names w' q where
  now := hw.now.trans h.now
  searching x := by
    have hs : w'.isSearching = w.isSearching := funext hw.searching
    rw [hs]
    exact h.searching x
  known x id hx := by
    rw [hw.known]
    exact h.known x id hx
  inj := h.inj
  result := hw.result.trans h.result
  current := h.current
  card := hw.card.trans h.card

/-- What is shown says nothing of the selection. -/
theorem shown (h : Agrees names w q) (flags : Flags) (deadline : Option Nat) :
    Agrees names w { q with flags, deadline } :=
  ⟨h.now, h.searching, h.known, h.inj, h.result, h.current, h.card⟩

theorem contains (h : Agrees names w q) (x : String) :
    q.searching.contains x = names.contains x := by
  simp [Table.contains, h.searching]

/-- The flags that the selection calls for are the live flags of the machine. -/
theorem live (h : Agrees names w q) : w.liveFlags = q.live := by
  have hcard : w.card.isNone = q.card.isNone := by simp [h.card]
  have hsearching : w.result.any w.isSearching =
      q.current.any fun x => q.searching.get? x = some true := by
    rw [h.result]
    cases hx : q.current with
    | none => rfl
    | some x =>
        obtain ⟨id, hid⟩ := Option.isSome_iff_exists.1 (h.current x hx)
        simp [h.searching, hid]
  simp [Workspace.liveFlags, Workspace.flagsOf, Reference.live, hcard, hsearching]

/-- Names stand for results of their own. -/
theorem result_eq_iff (h : Agrees names w q) {current : Option String}
    (hk : ∀ x, current = some x → (names.get? x).isSome) :
    w.result = current.bind names.get? ↔ q.current = current := by
  constructor
  · rw [h.result]
    intro heq
    cases hx : q.current with
    | none =>
        cases current with
        | none => rfl
        | some y =>
            obtain ⟨id, hid⟩ := Option.isSome_iff_exists.1 (hk y rfl)
            simp [hx, hid] at heq
    | some x =>
        obtain ⟨id, hid⟩ := Option.isSome_iff_exists.1 (h.current x hx)
        rw [hx, Option.bind_some, hid] at heq
        obtain ⟨y, rfl, hy⟩ := Option.bind_eq_some_iff.1 heq.symm
        rw [h.inj x y id hid hy]
  · rintro rfl
    exact h.result

theorem select (h : Agrees names w q) {current : Option String}
    (hk : ∀ x, current = some x → (names.get? x).isSome) :
    Agrees names { w with result := current.bind names.get? } { q with current } where
  now := h.now
  searching := h.searching
  known := h.known
  inj := h.inj
  result := rfl
  current := hk
  card := h.card

theorem sameCard_iff (h : Agrees names w q) (card : Option (String × Option String)) :
    Workspace.sameCard w.card (card.map fun c => { id := c.1, title := c.2 }) ↔ q.card = card := by
  rw [h.card]
  cases q.card <;> cases card <;>
    simp [Workspace.sameCard, Metacard.same, Json.Value.sameEntries, Prod.ext_iff]

theorem selectCard (h : Agrees names w q) (card : Option (String × Option String)) :
    Agrees names { w with card := card.map fun c => { id := c.1, title := c.2 } } { q with card } where
  now := h.now
  searching := h.searching
  known := h.known
  inj := h.inj
  result := h.result
  current := h.current
  card := rfl

theorem setSearching (h : Agrees names w q) {x : String} {id : ResultId}
    (hx : names.get? x = some id) (on : Bool) :
    Agrees names (w.setSearching id on) (q.setSearching x on) where
  now := h.now
  searching y := by
    have hset : (q.setSearching x on).searching.get? y = _ := Table.get?_set ..
    rw [hset]
    split
    · rename_i hy
      obtain ⟨o, ho⟩ := Option.isSome_iff_exists.1 (h.known x id hx)
      simp [hy, hx, Workspace.isSearching, Workspace.setSearching, Workspace.modifyResult,
        Table.get?_modify, ho]
    · rename_i hne
      rw [h.searching]
      refine Option.map_congr fun id' hid' => ?_
      refine (Workspace.isSearching_setSearching ?_ on).symm
      rintro rfl
      exact hne (h.inj y x id' hid' hx)
  known y id' hy := by
    have hsome : ((w.setSearching id on).results.get? id').isSome = _ :=
      Table.isSome_get?_modify ..
    rw [hsome]
    exact h.known y id' hy
  inj := h.inj
  result := h.result
  current := h.current
  card := h.card

/-- A new name is given to the result that is added. -/
theorem addResult (h : Agrees names w q) (hw : w.Numbered) {x : String}
    (hx : names.get? x = none) (label : String) (on : Bool) :
    Agrees (names.set x w.nextResult) (w.addResult label on).2 (q.setSearching x on) where
  now := h.now
  searching y := by
    have hset : (q.setSearching x on).searching.get? y = _ := Table.get?_set ..
    rw [hset, Table.get?_set]
    split
    · simp [Workspace.isSearching, Workspace.addResult, Table.get?_set]
    · rw [h.searching]
      refine Option.map_congr fun id hid => ?_
      have hne : id ≠ w.nextResult := Nat.ne_of_lt (hw.result_lt id (h.known y id hid))
      simp [Workspace.isSearching, Workspace.addResult, Table.get?_set, hne]
  known y id hy := by
    have hadd : (w.addResult label on).2.results.get? id = _ := Table.get?_set ..
    rw [hadd]
    rw [Table.get?_set] at hy
    split at hy
    · obtain rfl := Option.some.inj hy
      simp
    · split
      · rfl
      · exact h.known y id hy
  inj y z id hy hz := by
    have hold : ∀ y, names.get? y ≠ some w.nextResult := by
      intro y hy
      exact Nat.lt_irrefl _ (hw.result_lt _ (h.known y _ hy))
    rw [Table.get?_set] at hy hz
    split at hy <;> split at hz
    · rename_i ey ez
      exact ey.trans ez.symm
    · exact absurd (hz.trans hy.symm) (hold z)
    · exact absurd (hy.trans hz.symm) (hold y)
    · exact h.inj y z id hy hz
  result := by
    show w.result = _
    rw [h.result]
    cases hcur : q.current with
    | none => simp [Reference.setSearching, hcur]
    | some y =>
        have hne : y ≠ x := by
          rintro rfl
          have := h.current y hcur
          simp [hx] at this
        simp [Reference.setSearching, hcur, Table.get?_set, hne]
  current y hy := by
    rw [Table.get?_set]
    split
    · rfl
    · exact h.current y hy
  card := h.card

theorem setClock (h : Agrees names w q) (clock : Clock) :
    Agrees names { w with clock } { q with now := clock.now } :=
  ⟨rfl, h.searching, h.known, h.inj, h.result, h.current, h.card⟩

end Agrees

end DetailPanel.Replay
