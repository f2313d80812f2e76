import DetailPanel.Proofs.Switchboard.Dispatch
import DetailPanel.Proofs.Table

/-!
# Numbers and handles

The registry of a board hands out the numbers one, two, three, … in the order of
subscription, at whatever depth of callbacks, and lists its entries in that order.  As
long as it is open, its entries and the handles that are held belong together by number
(`Sound.live_perm`), and giving a handle up takes its own entry out and no other.

    the numbers that a program is given are 1, 2, 3, …               (Orderly.issued)
    giving a name up once it has no handle changes nothing            (Orderly.spent)
    nor does it reach anything but the handle if the registry is gone (Orderly.gone)
-/

namespace DetailPanel.Switchboard

variable {b : Switchboard} {r : Registry Nat} {E : Entry} {name : String}

/-- The number in an answer. -/
def Answer.id? : Answer → Option Nat
  | .subscribed id => some id
  | .nothing | .found _ => none

/-- The number that a task is given by the registry. -/
def issued? (E : Entry) : Option Nat :=
  match E.task with
  | .step s => (E.before.begin s).1.id?
  | .deliver .. => none

/-- The board that a task leaves. -/
def after (E : Entry) : Switchboard := (perform E.task E.before).2

/-- All boards of a run: the new one, and those that the tasks leave. -/
def boards (H : List Entry) : List Switchboard := {} :: H.map after

/-- The number that the registry hands out next. -/
def nextId? (b : Switchboard) : Option Nat := b.registry.map (·.nextId)

/-- The numbers of the handles that are held and have not been cancelled. -/
def live (b : Switchboard) : List Nat := (b.handles.filter (·.2.active)).map (·.2.id)

/-- The task gives the handle of a name up, by the one route or the other. -/
def GivesUp (G : Entry) (name : String) : Prop :=
  G.task = .step (.unsubscribe name) ∨ G.task = .step (.drop name)

/-- All entries but that of a number, in their order. -/
def Without (es : List (Nat × Nat)) (id : Nat) (es' : List (Nat × Nat)) : Prop :=
  ∃ front e back, es = front ++ e :: back ∧ e.1 = id ∧ es' = front ++ back

/-- Subscribing under a name adds an entry at the end of an open registry, and a handle on it;
a handle that had the name is given up. -/
structure Enrols (S : Entry) (name : String) (r : Registry Nat) : Prop where
  held : ∀ n, (after S).handles.get? n =
    if n = name then some { id := r.nextId } else S.before.handles.get? n
  listed : ∃ kept, (after S).registry = some
      { nextId := r.nextId + 1, entries := kept ++ [(r.nextId, S.before.callbacks.length)] } ∧
    ((S.before.handles.get? name = none ∧ kept = r.entries) ∨
      ∃ g, S.before.handles.get? name = some g ∧ Without r.entries g.id kept)

/-- Giving a handle up takes its own entry out of an open registry, keeps the others in their
order, and changes nothing else. -/
structure Cancels (G : Entry) (name : String) (g : Handle) (r : Registry Nat) : Prop where
  live : g.active = true
  gap : ∃ kept, Without r.entries g.id kept ∧ after G =
    { G.before with
      registry := some { r with entries := kept }, handles := G.before.handles.erase name }

/-! ## Entries and handles -/

namespace Sound

/-- A handle that is held is on the entry of its number. -/
theorem exists_entry (h : b.Sound) (hr : b.registry = some r) {g : Handle}
    (hn : b.handles.get? name = some g) : g.active = true ∧ ∃ e ∈ r.entries, e.1 = g.id := by
  obtain ⟨e, he, rfl, -⟩ := h.held r hr name g hn
  exact ⟨rfl, e, he, rfl⟩

/-- No two names have a handle of the same number. -/
theorem eq_of_id (h : b.Sound) (hr : b.registry = some r) {n n' : String} {g g' : Handle}
    (hn : b.handles.get? n = some g) (hn' : b.handles.get? n' = some g') (hid : g.id = g'.id) :
    n = n' := by
  obtain ⟨e, he, rfl, hname⟩ := h.held r hr n g hn
  obtain ⟨e', he', rfl, hname'⟩ := h.held r hr n' g' hn'
  obtain rfl : e = e' := (h.ascending r hr).eq_of_id he he' hid
  exact Option.some.inj (hname.symm.trans hname')

theorem mem_live (h : b.Sound) (hd : b.handles.Distinct) (hr : b.registry = some r) {id : Nat} :
    id ∈ b.live ↔ ∃ e ∈ r.entries, e.1 = id := by
  simp only [live, List.mem_map, List.mem_filter]
  constructor
  · rintro ⟨⟨n, g⟩, ⟨hmem, -⟩, rfl⟩
    exact (h.exists_entry hr (hd.mem_iff.1 hmem)).2
  · rintro ⟨e, he, rfl⟩
    obtain ⟨n, -, hheld⟩ := h.named r hr e he
    exact ⟨(n, _), ⟨hd.mem_iff.2 hheld, rfl⟩, rfl⟩

theorem nodup_live (h : b.Sound) (hd : b.handles.Distinct) (hr : b.registry = some r) :
    b.live.Nodup := by
  refine (List.Nodup.of_map _ hd).filter _ |>.map_on ?_
  rintro ⟨n, g⟩ hmem ⟨n', g'⟩ hmem' hid
  have hn := hd.mem_iff.1 (List.mem_filter.1 hmem).1
  have hn' := hd.mem_iff.1 (List.mem_filter.1 hmem').1
  obtain rfl := h.eq_of_id hr hn hn' hid
  rw [Option.some.inj (hn.symm.trans hn')]

/-- The handles that are held and the entries belong together by number. -/
theorem live_perm (h : b.Sound) (hd : b.handles.Distinct) (hr : b.registry = some r) :
    b.live.Perm (r.entries.map (·.1)) := by
  have hnodup : (r.entries.map (·.1)).Nodup :=
    List.pairwise_map.2 ((h.ascending r hr).ordered.imp Nat.ne_of_lt)
  refine (List.perm_ext_iff_of_nodup (h.nodup_live hd hr) hnodup).2 fun id => ?_
  rw [h.mem_live hd hr, List.mem_map]

end Sound

/-! ## Giving a name up -/

/-- The names of handles are not repeated, whatever is done. -/
theorem distinct_giveUp {release : Handle → Registry Nat → Registry Nat}
    (hd : b.handles.Distinct) : (b.giveUp name release).handles.Distinct := by
  unfold giveUp
  split
  · exact hd.erase name
  · exact hd

theorem distinct_perform (hd : b.handles.Distinct) (j : Job) :
    (perform j b).2.handles.Distinct := by
  cases j with
  | deliver k event =>
      show (b.deliver k event).2.handles.Distinct
      rwa [handles_deliver]
  | step s =>
      cases s with
      | subscribe name script =>
          show (b.subscribe name script).2.handles.Distinct
          unfold subscribe
          split
          · exact hd
          · refine Table.Distinct.set ?_ _ _
            exact distinct_giveUp hd
      | unsubscribe name | drop name => exact distinct_giveUp hd
      | emit | close => exact hd

theorem GivesUp.after_eq {G : Entry} (hG : GivesUp G name) :
    after G = G.before.giveUp name Handle.drop := by
  rcases hG with htask | htask
  · rw [after, htask]
    exact giveUp_unsubscribe ..
  · rw [after, htask]
    rfl

theorem GivesUp.jobs_eq_nil {G : Entry} (hG : GivesUp G name) :
    (perform G.task G.before).1 = [] := by
  rcases hG with htask | htask <;> rw [htask] <;> rfl

namespace Sound

theorem cancels {G : Entry} (h : G.before.Sound) (hG : GivesUp G name) {g : Handle}
    (hn : G.before.handles.get? name = some g) (hr : G.before.registry = some r) :
    Cancels G name g r := by
  obtain ⟨e, he, rfl, -⟩ := h.held r hr name g hn
  obtain ⟨front, back, heq, hcancel⟩ := (h.ascending r hr).exists_cancel he
  refine ⟨rfl, front ++ back, ⟨front, e, back, heq, rfl, rfl⟩, ?_⟩
  rw [hG.after_eq, giveUp_some hr hn, hcancel]

theorem enrols {S : Entry} {script : Script Step} (h : S.before.Sound)
    (htask : S.task = .step (.subscribe name script)) (hr : S.before.registry = some r) :
    Enrols S name r := by
  obtain ⟨r', hr', -, heq⟩ := h.subscribe_eq hr name script
  have hafter : after S = (S.before.giveUp name Handle.drop).enrol r' name script := by
    rw [after, htask]
    exact heq
  cases hn : S.before.handles.get? name with
  | none =>
      rw [giveUp_none hn] at hr' hafter
      obtain rfl := Option.some.inj (hr.symm.trans hr')
      refine ⟨fun n => ?_, r.entries, by rw [hafter]; rfl, .inl ⟨hn, rfl⟩⟩
      rw [hafter]
      exact Table.get?_set ..
  | some g =>
      obtain ⟨e, he, rfl, -⟩ := h.held r hr name g hn
      obtain ⟨front, back, hentries, hcancel⟩ := (h.ascending r hr).exists_cancel he
      rw [giveUp_some hr hn, hcancel] at hr' hafter
      obtain rfl := Option.some.inj hr'
      refine ⟨fun n => ?_, front ++ back, by rw [hafter]; rfl,
        .inr ⟨_, hn, front, e, back, hentries, rfl, rfl⟩⟩
      rw [hafter]
      by_cases hnew : n = name <;>
        simp [Switchboard.enrol, Table.get?_set, Table.get?_erase, hnew]

end Sound

/-- All other tasks leave the registry and the handles alone, but that closing takes the
registry away. -/
theorem after_of_other (hsubscribe : ∀ name script, E.task ≠ .step (.subscribe name script))
    (hup : ∀ name, ¬ GivesUp E name) : (after E).handles = E.before.handles ∧
      (after E).registry = if E.task matches .step .close then none else E.before.registry := by
  cases htask : E.task with
  | deliver k event =>
      rw [after, htask]
      exact ⟨handles_deliver, registry_deliver⟩
  | step s =>
      cases s with
      | subscribe name script => exact absurd htask (hsubscribe name script)
      | unsubscribe name => exact absurd (.inl htask) (hup name)
      | drop name => exact absurd (.inr htask) (hup name)
      | emit | close =>
          rw [after, htask]
          exact ⟨rfl, rfl⟩

/-! ## Numbers -/

theorem nextId_drop (g : Handle) (r : Registry Nat) : (g.drop r).nextId = r.nextId := by
  unfold Handle.drop Handle.cancel
  split <;> rfl

theorem nextId?_giveUp (b : Switchboard) (name : String) :
    (b.giveUp name Handle.drop).nextId? = b.nextId? := by
  unfold giveUp nextId?
  split
  · simp [Function.comp_def, nextId_drop]
  · rfl

theorem nextId?_subscribe (b : Switchboard) (name : String) (script : Script Step) :
    (b.subscribe name script).2.nextId? = b.nextId?.map (· + 1) := by
  unfold subscribe
  split
  · rename_i hr
    simp [nextId?, hr]
  · rename_i r hr
    -- the handle that had the name is dropped after the callback has its number
    have hnext : b.nextId? = some r.nextId := by simp [nextId?, hr]
    rw [hnext]
    exact nextId?_giveUp ..

theorem issued?_subscribe {script : Script Step} (htask : E.task = .step (.subscribe name script)) :
    issued? E = E.before.nextId? := by
  simp only [issued?, htask, begin, subscribe, nextId?]
  cases E.before.registry <;> rfl

/-- A task is given no number or the next one. -/
theorem issued?_cases (E : Entry) : issued? E = none ∨ issued? E = E.before.nextId? := by
  cases htask : E.task with
  | deliver k event => simp [issued?, htask]
  | step s =>
      cases s with
      | subscribe name script => exact .inr (issued?_subscribe htask)
      | unsubscribe | drop | emit | close => simp [issued?, htask, begin, Answer.id?]

theorem GivesUp.issued? {G : Entry} (hG : GivesUp G name) : Switchboard.issued? G = none := by
  rcases hG with htask | htask <;> simp [Switchboard.issued?, htask, begin, Answer.id?]

/-- As long as the registry is open, a number that has been given is not given again. -/
theorem nextId?_after (E : Entry) : (after E).nextId? = none ∨
    (after E).nextId? = E.before.nextId?.map (· + (issued? E).toList.length) := by
  cases htask : E.task with
  | deliver k event =>
      right
      have hafter : (after E).nextId? = E.before.nextId? := by
        rw [after, htask]
        exact congrArg (Option.map Registry.nextId) registry_deliver
      simp [hafter, issued?, htask]
  | step s =>
      cases s with
      | subscribe name script =>
          right
          have hafter : (after E).nextId? = E.before.nextId?.map (· + 1) := by
            rw [after, htask]
            exact nextId?_subscribe ..
          rw [hafter, issued?_subscribe htask]
          cases E.before.nextId? <;> rfl
      | unsubscribe name | drop name =>
          right
          have hup : GivesUp E name := by simp [GivesUp, htask]
          rw [hup.after_eq, nextId?_giveUp, hup.issued?]
          simp
      | emit event =>
          right
          simp [after, htask, perform, begin, issued?, Answer.id?]
      | close =>
          left
          rw [after, htask]
          rfl

/-- What the record of a run and the board that it has led to say about numbers. -/
structure Counted (L : Ledger Switchboard Job) : Prop where
  issued : L.done.filterMap issued? = List.range' 1 (L.done.filterMap issued?).length
  next : ∀ n, L.state.nextId? = some n → n = (L.done.filterMap issued?).length + 1

theorem counted_start : Counted { state := {} } where
  issued := rfl
  next := by
    rintro n ⟨⟩
    rfl

theorem Counted.perform {L : Ledger Switchboard Job} (h : Counted L) (e : Nat × Job) :
    Counted (machine.recorded.perform e L).2 := by
  let E : Entry := ⟨L.next, e.1, e.2, L.state⟩
  have hids : (machine.recorded.perform e L).2.done.filterMap issued? =
      L.done.filterMap issued? ++ (issued? E).toList := by
    rw [Machine.done_recorded, List.filterMap_append]
    cases hi : issued? E <;> simp [E, hi]
  refine ⟨?_, ?_⟩
  · rw [hids]
    rcases issued?_cases E with hnone | hsome
    · simpa [hnone] using h.issued
    · cases hn : L.state.nextId? with
      | none => simpa [hsome, E, hn] using h.issued
      | some n =>
          have hnew : issued? E = some n := hsome.trans hn
          simp only [hnew, Option.toList_some, List.length_append, List.length_singleton]
          rw [List.range'_concat, ← h.issued, h.next n hn]
          simp [Nat.add_comm]
  · intro n hn
    have hafter : (after E).nextId? = some n := hn
    rcases nextId?_after E with hnone | hsome
    · simp [hnone] at hafter
    · rw [hsome] at hafter
      obtain ⟨m, hm, rfl⟩ := Option.map_eq_some_iff.1 hafter
      rw [hids, List.length_append, h.next m hm]
      omega

/-! ## The whole program -/

variable {ss : List Step}

/-- Numbers and handles in the course of a program `ss` and of all that it does. -/
structure Orderly (ss : List Step) (H : List Entry) : Prop where
  /-- A task finds the board that the one before it left, and the last one leaves the board of
  the program. -/
  continued :
    H.map (·.before) ++ [ss.foldl (fun b s => (b.apply s).2) ({} : Switchboard)] = boards H
  /-- The numbers are given in ascending order, and none is given twice. -/
  issued : H.filterMap issued? = List.range' 1 (H.filterMap issued?).length
  next : ∀ E ∈ H, ∀ r, E.before.registry = some r →
    r.nextId = ((H.filter (·.number < E.number)).filterMap issued?).length + 1
  /-- At all times the entries ascend, below the next number. -/
  ascending : ∀ b ∈ boards H, ∀ r, b.registry = some r → r.Ascending
  /-- At all times the live handles and the entries belong together by number. -/
  matched : ∀ b ∈ boards H, ∀ r, b.registry = some r →
    b.live.Nodup ∧ b.live.Perm (r.entries.map (·.1)) ∧ r.size = b.live.length
  /-- Who subscribes is given the next number, and the handle and the entry of it. -/
  subscribed : ∀ S ∈ H, ∀ name script, S.task = .step (.subscribe name script) →
    ∀ r, S.before.registry = some r → issued? S = some r.nextId ∧ Enrols S name r
  /-- To give a handle up is to take its own entry out. -/
  cancelled : ∀ G ∈ H, ∀ name, GivesUp G name →
    ∀ g, G.before.handles.get? name = some g → ∀ r, G.before.registry = some r → Cancels G name g r
  /-- Nothing else is done to the registry and the handles, but that the registry is closed. -/
  other : ∀ E ∈ H, (∀ name script, E.task ≠ .step (.subscribe name script)) →
    (∀ name, ¬ GivesUp E name) → (after E).handles = E.before.handles ∧
      (after E).registry = if E.task matches .step .close then none else E.before.registry
  /-- A name without a handle has nothing left to cancel. -/
  spent : ∀ G ∈ H, ∀ name, GivesUp G name → G.before.handles.get? name = none →
    after G = G.before
  /-- To unsubscribe is to cancel once: dropping the spent handle does nothing, whatever has
  become of the registry. -/
  once : ∀ (g : Handle) (r r' : Registry Nat),
    g.unsubscribe r = g.drop r ∧ (g.cancel r).1.drop r' = r'
  /-- Once the registry is gone, giving a handle up has no effect but that it is given up. -/
  gone : ∀ G ∈ H, ∀ name, GivesUp G name → G.before.registry = none →
    ∀ g, G.before.handles.get? name = some g →
      after G = { G.before with handles := G.before.handles.erase name } ∧
        H.filter (·.cause == G.number) = []

/-- What holds of a board and the record that led to it. -/
structure Filed (L : Ledger Switchboard Job) : Prop where
  sound : L.state.Sound
  distinct : L.state.handles.Distinct
  counted : Counted L
  continued : L.done.map (·.before) ++ [L.state] = boards L.done

theorem filed_start : Filed { state := {} } := ⟨sound_empty, Table.distinct_nil, counted_start, rfl⟩

theorem Filed.perform {L : Ledger Switchboard Job} (h : Filed L) (e : Nat × Job) :
    Filed (machine.recorded.perform e L).2 where
  sound := h.sound.perform e.2
  distinct := distinct_perform h.distinct e.2
  counted := h.counted.perform e
  continued := by
    simp only [Machine.done_recorded, boards, List.map_append, List.map_cons, List.map_nil]
    rw [h.continued]
    rfl

theorem filed (ss : List Step) : Filed (programLedger ss) :=
  machine.recorded.run_preserves (fun e _ h => h.perform e) _ _ filed_start

theorem filed_upTo (hE : E ∈ transcript ss) : Filed ((programLedger ss).upTo E) :=
  Machine.past_run (fun e _ h => h.perform e) _ _ filed_start E hE

/-- At all times the board is in order. -/
theorem sound_of_mem_boards (hb : b ∈ boards (transcript ss)) : b.Sound ∧ b.handles.Distinct := by
  rcases List.mem_cons.1 hb with rfl | hb
  · exact ⟨sound_empty, Table.distinct_nil⟩
  · obtain ⟨E, hE, rfl⟩ := List.mem_map.1 hb
    have h := filed_upTo hE
    exact ⟨h.sound.perform E.task, distinct_perform h.distinct E.task⟩

/-- In every program, numbers are given once, and handles and entries go together. -/
theorem transcript_orderly (ss : List Step) : Orderly ss (transcript ss) where
  continued := by
    rw [foldl_apply, ← machine.state_ledger]
    exact (filed ss).continued
  issued := (filed ss).counted.issued
  next E hE r hr := (filed_upTo hE).counted.next _ (by simp [nextId?, hr, Ledger.upTo])
  ascending b hb r hr := (sound_of_mem_boards hb).1.ascending r hr
  matched b hb r hr := by
    obtain ⟨hsound, hd⟩ := sound_of_mem_boards hb
    have hperm := hsound.live_perm hd hr
    refine ⟨hsound.nodup_live hd hr, hperm, ?_⟩
    rw [Registry.size, hperm.length_eq, List.length_map]
  subscribed S hS name script htask r hr := by
    refine ⟨?_, (filed_upTo hS).sound.enrols htask hr⟩
    rw [issued?_subscribe htask, nextId?, hr]
    rfl
  cancelled G hG name hup g hn r hr := (filed_upTo hG).sound.cancels hup hn hr
  other E _ hsubscribe hup := after_of_other hsubscribe hup
  spent G hG name hup hn := by rw [hup.after_eq, giveUp_none hn]
  once g r r' := by
    refine ⟨g.unsubscribe_eq_drop r, ?_⟩
    cases hg : g.active <;> simp [Handle.cancel, Handle.drop, hg]
  gone G hG name hup hr g hn := by
    refine ⟨?_, ?_⟩
    · rw [hup.after_eq]
      simp [giveUp, hn, hr]
    · rw [← List.map_eq_nil_iff, setOff_of_mem hG]
      exact hup.jobs_eq_nil

/-- A callback that gives up another name and takes a new one leaves a gap, and the number
in the gap is not used again. -/
example : (List.foldl (fun (b : Switchboard) s => (b.apply s).2) {}
      [.subscribe "a" (.onFirst 1 [.drop "b", .subscribe "b" .silent]), .subscribe "b" .silent,
        .subscribe "c" .silent, .emit "x"]).registry.map (·.entries) =
    some [(1, 0), (3, 2), (4, 3)] := by
  cbv

end DetailPanel.Switchboard
