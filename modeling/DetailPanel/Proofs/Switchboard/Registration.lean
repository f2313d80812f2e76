import DetailPanel.Switchboard
import DetailPanel.Proofs.Registry

/-!
# Who is registered

On a board that started empty every entry of the registry belongs to a callback
whose name has a handle on just that entry, and every handle is on an entry
(`Sound`).  So giving a name up, in whichever way, takes away the callback of
that name and no other, and a callback stays registered until then:

    k ∈ (perform j b).2.registered ↔ k ∈ b.registered ∧ ¬ j.Ends n
        for a position k that is taken, under the name n    (Sound.registered_perform)
-/

namespace DetailPanel.Switchboard

variable {b : Switchboard} {r : Registry Nat} {name : String} {k : Nat}

/-- The callbacks that an event emitted now goes to, in order. -/
def registered (b : Switchboard) : List Nat := b.registry.elim [] Registry.subscribers

/-- The name that the callback of a position was registered under. -/
def nameOf (b : Switchboard) (k : Nat) : Option String := (b.callbacks[k]?).map (·.name)

theorem registered_open (hr : b.registry = some r) : b.registered = r.subscribers := by
  simp [registered, hr]

theorem registered_closed (hr : b.registry = none) : b.registered = [] := by
  simp [registered, hr]

theorem mem_registered (hr : b.registry = some r) :
    k ∈ b.registered ↔ ∃ id, (id, k) ∈ r.entries := by
  rw [registered_open hr, Registry.mem_subscribers]

theorem lt_of_nameOf (h : b.nameOf k = some name) : k < b.callbacks.length := by
  obtain ⟨c, hc, -⟩ := Option.map_eq_some_iff.1 h
  exact (List.getElem?_eq_some_iff.1 hc).1

/-- The steps after which no callback registered before under the name is
registered any more. -/
def Step.Ends (name : String) : Step → Prop
  | .subscribe n _ => n = name
  | .unsubscribe n => n = name
  | .drop n => n = name
  | .emit _ => False
  | .close => True

def Job.Ends (name : String) : Job → Prop
  | .step s => s.Ends name
  | .deliver .. => False

/-- Entries and handles of an open registry belong together. -/
structure Sound (b : Switchboard) : Prop where
  ascending : ∀ r, b.registry = some r → r.Ascending
  /-- The order of registration is the order of the positions. -/
  ordered : ∀ r, b.registry = some r → r.subscribers.Pairwise (· < ·)
  /-- The name of a registered callback has a handle on its entry. -/
  named : ∀ r, b.registry = some r → ∀ e ∈ r.entries,
    ∃ n, b.nameOf e.2 = some n ∧ b.handles.get? n = some { id := e.1 }
  /-- A handle is on the entry of a callback of its name. -/
  held : ∀ r, b.registry = some r → ∀ n h, b.handles.get? n = some h →
    ∃ e ∈ r.entries, h = { id := e.1 } ∧ b.nameOf e.2 = some n

theorem sound_open (hr : b.registry = some r) (ascending : r.Ascending)
    (ordered : r.subscribers.Pairwise (· < ·))
    (named : ∀ e ∈ r.entries,
      ∃ n, b.nameOf e.2 = some n ∧ b.handles.get? n = some { id := e.1 })
    (held : ∀ n h, b.handles.get? n = some h →
      ∃ e ∈ r.entries, h = { id := e.1 } ∧ b.nameOf e.2 = some n) : b.Sound := by
  have hall : ∀ r', b.registry = some r' → r = r' := by
    intro r' hr'
    rw [hr] at hr'
    simpa using hr'
  refine ⟨?_, ?_, ?_, ?_⟩
  · intro r' hr'
    exact hall r' hr' ▸ ascending
  · intro r' hr'
    exact hall r' hr' ▸ ordered
  · intro r' hr'
    exact hall r' hr' ▸ named
  · intro r' hr'
    exact hall r' hr' ▸ held

theorem sound_empty : Sound {} :=
  sound_open rfl Registry.ascending_empty .nil (by simp) (by simp)

/-- Without a registry there is nothing to keep in order. -/
theorem sound_closed (hr : b.registry = none) : b.Sound where
  ascending := by simp [hr]
  ordered := by simp [hr]
  named := by simp [hr]
  held := by simp [hr]

namespace Sound

/-- Each callback is registered once, in the order of their subscription. -/
theorem registered_ordered (h : b.Sound) : b.registered.Pairwise (· < ·) := by
  cases hr : b.registry with
  | none => simp [registered_closed hr]
  | some r => exact registered_open hr ▸ h.ordered r hr

theorem lt_of_registered (h : b.Sound) (hk : k ∈ b.registered) : k < b.callbacks.length := by
  cases hr : b.registry with
  | none => simp [registered_closed hr] at hk
  | some r =>
      obtain ⟨id, he⟩ := (mem_registered hr).1 hk
      obtain ⟨n, hn, -⟩ := h.named r hr _ he
      exact lt_of_nameOf hn

/-- The handle of a name is on the entries of callbacks of that name. -/
theorem id_eq_iff (h : b.Sound) (hr : b.registry = some r) {e : Nat × Nat} (he : e ∈ r.entries)
    {n : String} (hn : b.nameOf e.2 = some n) {id : Nat}
    (hid : b.handles.get? name = some { id }) : e.1 = id ↔ n = name := by
  constructor
  · rintro rfl
    obtain ⟨e', he', heq, hn'⟩ := h.held r hr name _ hid
    obtain rfl : e = e' := (h.ascending r hr).eq_of_id he he' (by simpa using heq)
    rw [hn] at hn'
    simpa using hn'
  · rintro rfl
    obtain ⟨n', hn', hheld⟩ := h.named r hr e he
    rw [hn] at hn'
    obtain rfl : n = n' := by simpa using hn'
    rw [hid] at hheld
    simpa using hheld.symm

end Sound

/-! ## Giving a name up -/

/-- Unsubscribing and dropping come to the same. -/
theorem giveUp_unsubscribe (b : Switchboard) (name : String) :
    b.giveUp name Handle.unsubscribe = b.giveUp name Handle.drop := by
  unfold giveUp
  simp only [funext (Handle.unsubscribe_eq_drop _)]

theorem giveUp_none {release : Handle → Registry Nat → Registry Nat}
    (hn : b.handles.get? name = none) : b.giveUp name release = b := by
  simp [giveUp, hn]

theorem giveUp_some {id : Nat} (hr : b.registry = some r)
    (hn : b.handles.get? name = some { id }) :
    b.giveUp name Handle.drop =
      { b with registry := some (r.cancel id), handles := b.handles.erase name } := by
  simp [giveUp, hn, hr, Handle.drop, Handle.cancel]

@[simp] theorem nameOf_giveUp {release : Handle → Registry Nat → Registry Nat} :
    (b.giveUp name release).nameOf k = b.nameOf k := by
  simp [nameOf]

theorem registry_giveUp (hr : b.registry = none) :
    (b.giveUp name Handle.drop).registry = none := by
  unfold giveUp
  split <;> simp [hr]

namespace Sound

/-- A name that has a handle has it on an entry. -/
theorem exists_id (h : b.Sound) (hr : b.registry = some r) {g : Handle}
    (hn : b.handles.get? name = some g) : ∃ id, g = { id } ∧ id < r.nextId := by
  obtain ⟨e, he, rfl, -⟩ := h.held r hr name g hn
  exact ⟨e.1, rfl, (h.ascending r hr).below e he⟩

theorem giveUp (h : b.Sound) (name : String) : (b.giveUp name Handle.drop).Sound := by
  cases hr : b.registry with
  | none => exact sound_closed (registry_giveUp hr)
  | some r =>
      cases hn : b.handles.get? name with
      | none => rwa [giveUp_none hn]
      | some g =>
          obtain ⟨id, rfl, -⟩ := h.exists_id hr hn
          rw [giveUp_some hr hn]
          refine sound_open rfl ((h.ascending r hr).cancel id) ?_ ?_ ?_
          · exact (h.ordered r hr).sublist (List.filter_sublist.map _)
          · intro e he
            obtain ⟨he, hne⟩ := Registry.mem_entries_cancel.1 he
            obtain ⟨n, hname, hheld⟩ := h.named r hr e he
            have hother : n ≠ name := fun heq => hne ((h.id_eq_iff hr he hname hn).2 heq)
            exact ⟨n, hname, by simpa [Table.get?_erase, hother] using hheld⟩
          · intro n g hg
            rw [Table.get?_erase] at hg
            split at hg
            · simp at hg
            · rename_i hother
              obtain ⟨e, he, rfl, hname⟩ := h.held r hr n g hg
              have hne : e.1 ≠ id := fun heq => hother ((h.id_eq_iff hr he hname hn).1 heq)
              exact ⟨e, Registry.mem_entries_cancel.2 ⟨he, hne⟩, rfl, hname⟩

/-- Giving a name up takes away the callback of that name. -/
theorem registered_giveUp (h : b.Sound) {n : String} (hk : b.nameOf k = some n) :
    k ∈ (b.giveUp name Handle.drop).registered ↔ k ∈ b.registered ∧ n ≠ name := by
  cases hr : b.registry with
  | none => simp [registered_closed hr, registered_closed (registry_giveUp hr)]
  | some r =>
      cases hn : b.handles.get? name with
      | none =>
          rw [giveUp_none hn]
          refine ⟨fun hreg => ⟨hreg, ?_⟩, And.left⟩
          rintro rfl
          obtain ⟨id, he⟩ := (mem_registered hr).1 hreg
          obtain ⟨n', hname, hheld⟩ := h.named r hr _ he
          rw [hk] at hname
          obtain rfl : n = n' := by simpa using hname
          simp [hn] at hheld
      | some g =>
          obtain ⟨id, rfl, -⟩ := h.exists_id hr hn
          rw [giveUp_some hr hn, mem_registered rfl, mem_registered hr]
          constructor
          · rintro ⟨i, he⟩
            obtain ⟨he, hne⟩ := Registry.mem_entries_cancel.1 he
            exact ⟨⟨i, he⟩, fun heq => hne ((h.id_eq_iff hr he hk hn).2 heq)⟩
          · rintro ⟨⟨i, he⟩, hother⟩
            refine ⟨i, Registry.mem_entries_cancel.2 ⟨he, ?_⟩⟩
            exact fun heq => hother ((h.id_eq_iff hr he hk hn).1 heq)

end Sound

/-! ## Subscribing -/

/-- The board with one more callback, under a name that has no handle. -/
def enrol (b : Switchboard) (r : Registry Nat) (name : String) (script : Script Step) :
    Switchboard :=
  { b with
    registry := some (r.subscribe b.callbacks.length).2
    handles := b.handles.set name { id := r.nextId }
    callbacks := b.callbacks ++ [{ name, script }] }

variable {script : Script Step}

theorem nameOf_enrol (hk : k < b.callbacks.length) :
    (b.enrol r name script).nameOf k = b.nameOf k := by
  simp [enrol, nameOf, List.getElem?_append_left hk]

theorem nameOf_enrol_new : (b.enrol r name script).nameOf b.callbacks.length = some name := by
  simp [enrol, nameOf]

theorem registered_enrol (hr : b.registry = some r) :
    (b.enrol r name script).registered = b.registered ++ [b.callbacks.length] := by
  simp [enrol, registered, hr]

namespace Sound

theorem enrol (h : b.Sound) (hr : b.registry = some r) (hn : b.handles.get? name = none) :
    (b.enrol r name script).Sound := by
  refine sound_open rfl ((h.ascending r hr).subscribe _) ?_ ?_ ?_
  · rw [Registry.subscribers_subscribe]
    refine List.pairwise_append.2 ⟨h.ordered r hr, List.pairwise_singleton _ _, ?_⟩
    intro k hk k' hk'
    obtain rfl := List.mem_singleton.1 hk'
    exact h.lt_of_registered (registered_open hr ▸ hk)
  · intro e he
    rcases Registry.mem_entries_subscribe.1 he with he | rfl
    · obtain ⟨n, hname, hheld⟩ := h.named r hr e he
      have hother : n ≠ name := by
        rintro rfl
        simp [hn] at hheld
      refine ⟨n, ?_, by simpa [Switchboard.enrol, Table.get?_set, hother] using hheld⟩
      rw [nameOf_enrol (lt_of_nameOf hname)]
      exact hname
    · exact ⟨name, nameOf_enrol_new, by simp [Switchboard.enrol, Table.get?_set]⟩
  · intro n g hg
    simp only [Switchboard.enrol, Table.get?_set] at hg
    split at hg
    · rename_i heq
      subst heq
      refine ⟨_, Registry.mem_entries_subscribe.2 (.inr rfl), ?_, nameOf_enrol_new⟩
      simpa using hg.symm
    · obtain ⟨e, he, rfl, hname⟩ := h.held r hr n g hg
      refine ⟨e, Registry.mem_entries_subscribe.2 (.inl he), rfl, ?_⟩
      rw [nameOf_enrol (lt_of_nameOf hname)]
      exact hname

/-- Subscribing gives the name up and then enrols it anew, although the old
handle is dropped last. -/
theorem subscribe_eq (h : b.Sound) (hr : b.registry = some r) (name : String)
    (script : Script Step) :
    ∃ r', (b.giveUp name Handle.drop).registry = some r' ∧
      (b.giveUp name Handle.drop).handles.get? name = none ∧
      (b.subscribe name script).2 = (b.giveUp name Handle.drop).enrol r' name script := by
  cases hn : b.handles.get? name with
  | none =>
      refine ⟨r, ?_, ?_, ?_⟩
      · rw [giveUp_none hn, hr]
      · rw [giveUp_none hn, hn]
      · rw [giveUp_none hn]
        simp [subscribe, hr, Switchboard.giveUp, hn, Switchboard.enrol, Registry.subscribe]
  | some g =>
      obtain ⟨id, rfl, hlt⟩ := h.exists_id hr hn
      have hnew : r.nextId ≠ id := by omega
      rw [giveUp_some hr hn]
      refine ⟨r.cancel id, rfl, by simp [Table.get?_erase], ?_⟩
      simp [subscribe, hr, Switchboard.giveUp, hn, Switchboard.enrol, Registry.subscribe,
        Handle.drop, Handle.cancel, Registry.cancel, hnew]

end Sound

/-- A closed registry takes nobody. -/
theorem subscribe_closed (hr : b.registry = none) : (b.subscribe name script).2 = b := by
  simp [subscribe, hr]

theorem callbacks_subscribe (hr : b.registry = some r) :
    (b.subscribe name script).2.callbacks = b.callbacks ++ [(⟨name, script⟩ : Callback)] := by
  simp [subscribe, hr]

namespace Sound

theorem subscribe (h : b.Sound) : (b.subscribe name script).2.Sound := by
  cases hr : b.registry with
  | none => rwa [subscribe_closed hr]
  | some r =>
      obtain ⟨r', hr', hn, heq⟩ := h.subscribe_eq hr name script
      rw [heq]
      exact (h.giveUp name).enrol hr' hn

/-- The callback that subscribes is registered, and the one that had its name no longer is. -/
theorem registered_subscribe (h : b.Sound) (hr : b.registry = some r) :
    (b.subscribe name script).2.registered =
      (b.giveUp name Handle.drop).registered ++ [b.callbacks.length] := by
  obtain ⟨r', hr', -, heq⟩ := h.subscribe_eq hr name script
  rw [heq, registered_enrol hr', callbacks_giveUp]

end Sound

/-! ## Any job -/

variable {j : Job} {event : String}

theorem nameOf_deliver : (b.deliver k event).2.nameOf = b.nameOf := by
  funext i
  unfold deliver
  split
  · rfl
  · rename_i c hc
    by_cases hi : k = i
    · subst hi
      obtain ⟨hlt, rfl⟩ := List.getElem?_eq_some_iff.1 hc
      simp [nameOf, hlt]
    · simp [nameOf, hi]

theorem registry_deliver : (b.deliver k event).2.registry = b.registry := by
  unfold deliver
  split <;> rfl

theorem handles_deliver : (b.deliver k event).2.handles = b.handles := by
  unfold deliver
  split <;> rfl

/-- Positions are never taken back. -/
theorem nameOf_perform {n : String} (hk : b.nameOf k = some n) :
    (perform j b).2.nameOf k = some n := by
  cases j with
  | deliver i event =>
      show (b.deliver i event).2.nameOf k = some n
      rw [nameOf_deliver, hk]
  | step s =>
      cases s with
      | subscribe name script =>
          show (b.subscribe name script).2.nameOf k = some n
          cases hr : b.registry with
          | none => rwa [subscribe_closed hr]
          | some r =>
              rw [nameOf, callbacks_subscribe hr, List.getElem?_append_left (lt_of_nameOf hk)]
              exact hk
      | unsubscribe name | drop name => simpa [perform, begin] using hk
      | emit | close => exact hk

namespace Sound

theorem perform (h : b.Sound) (j : Job) : (perform j b).2.Sound := by
  cases j with
  | deliver i event =>
      show (b.deliver i event).2.Sound
      refine ⟨?_, ?_, ?_, ?_⟩
      · rw [registry_deliver]
        exact h.ascending
      · rw [registry_deliver]
        exact h.ordered
      · rw [registry_deliver, nameOf_deliver, handles_deliver]
        exact h.named
      · rw [registry_deliver, nameOf_deliver, handles_deliver]
        exact h.held
  | step s =>
      cases s with
      | subscribe name script => exact h.subscribe
      | unsubscribe name =>
          show (b.giveUp name Handle.unsubscribe).Sound
          rw [giveUp_unsubscribe]
          exact h.giveUp name
      | drop name => exact h.giveUp name
      | emit event => exact h
      | close => exact sound_closed rfl

/-- A callback stays registered until its name is given up or the registry closed. -/
theorem registered_perform (h : b.Sound) {n : String} (hk : b.nameOf k = some n) :
    k ∈ (Switchboard.perform j b).2.registered ↔ k ∈ b.registered ∧ ¬ j.Ends n := by
  cases j with
  | deliver i event =>
      show k ∈ (b.deliver i event).2.registered ↔ _
      simp [registered, registry_deliver, Job.Ends]
  | step s =>
      cases s with
      | subscribe name script =>
          show k ∈ (b.subscribe name script).2.registered ↔ _
          cases hr : b.registry with
          | none => simp [subscribe_closed hr, registered_closed hr]
          | some r =>
              have hlt : k ≠ b.callbacks.length := Nat.ne_of_lt (lt_of_nameOf hk)
              rw [h.registered_subscribe hr, List.mem_append, h.registered_giveUp hk]
              simp [hlt, Job.Ends, Step.Ends, eq_comm]
      | unsubscribe name =>
          show k ∈ (b.giveUp name Handle.unsubscribe).registered ↔ _
          rw [giveUp_unsubscribe, h.registered_giveUp hk]
          simp [Job.Ends, Step.Ends, eq_comm]
      | drop name =>
          show k ∈ (b.giveUp name Handle.drop).registered ↔ _
          rw [h.registered_giveUp hk]
          simp [Job.Ends, Step.Ends, eq_comm]
      | emit event =>
          show k ∈ b.registered ↔ _
          simp [Job.Ends, Step.Ends]
      | close =>
          show k ∈ ({ b with registry := none } : Switchboard).registered ↔ _
          simp [registered, Job.Ends, Step.Ends]

end Sound

end DetailPanel.Switchboard
