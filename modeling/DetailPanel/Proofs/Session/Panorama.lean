import DetailPanel.Proofs.Session.Conduct
import Mathlib.Logic.Function.Basic

/-!
# The panorama of a session

A panorama is what a session shows: its scene, the names of its results, its
class list, who observes, and of each view the portrait, by its name.  Where the
observers only look on, a step makes of the panorama what depends on the
panorama alone.  A step that is for a view changes this one in the light of the
scene (`Scene.act`); any other step changes the rest, and every view in the same
manner (`Backdrop.step`).

    seen (s.begin t) = s.panorama.step t                                 (seen_begin)
-/

namespace DetailPanel.Session

open Workspace

/-! ## Panoramas -/

/-- What a session shows beside its views. -/
@[ext]
structure Backdrop where
  scene : Scene
  results : Table String ResultId
  classes : ClassList
  observing : String → Bool

@[ext]
structure Panorama extends Backdrop where
  views : String → Option Portrait

def panorama (s : Session) : Panorama where
  scene := s.workspace.scene
  results := s.results
  classes := s.classes
  observing name := (s.observers.get? name).isSome
  views name := (s.views.get? name).map s.workspace.portrait

/-- The view that a step is for. -/
def Step.view? : Step → Option String
  | .view name _ _ | .dropView name | .showView name | .render name | .beforeShow name
  | .teardown name | .tick name _ | .update name _ => some name
  | _ => none

/-- The steps of a session without panels but views, whose observers only look on. -/
def Step.OnViews : Step → Prop
  | .tracker .. | .dropTracker _ | .bind _ | .unbind _ | .resync _ | .recompute _ | .poll .. => False
  | .observe _ _ script => script = .silent
  | _ => True

/-- An answer without the number of a subscription. -/
def Answer.unnumbered : Answer → Answer
  | .subscribed _ => .subscribed 0
  | a => a

/-! ## Steps for no view in particular -/

/-- What comes of such a step: its answer, what is shown beside the views, and what
each view makes of it. -/
structure Turn where
  answer : Answer
  backdrop : Backdrop
  change : Portrait → Portrait := id

namespace Backdrop

def withResult (b : Backdrop) (key : String) (f : ResultId → Turn) : Turn :=
  match b.results.get? key with
  | some r => f r
  | none => { answer := .absent .result, backdrop := b }

def addResult (b : Backdrop) (key : String) (searching : Bool) : Backdrop :=
  { b with
    results := b.results.set key b.scene.nextResult
    scene := { b.scene with
      searching := Function.update b.scene.searching b.scene.nextResult searching
      nextResult := b.scene.nextResult + 1 } }

def setSearching (b : Backdrop) (r : ResultId) (on : Bool) : Backdrop :=
  { b with scene := { b.scene with searching := Function.update b.scene.searching r on } }

def announce (b : Backdrop) (answer : Answer) (c : Channel) : Turn where
  answer
  backdrop := b
  change := (·.heard b.scene c)

def selectResult (b : Backdrop) (r : Option ResultId) : Turn :=
  if b.scene.result = r then { answer := .bool false, backdrop := b }
  else announce { b with scene := { b.scene with result := r } } (.bool true) .result

def selectCard (b : Backdrop) (card : Option Metacard) : Turn :=
  if sameCard b.scene.card card then { answer := .bool false, backdrop := b }
  else announce { b with scene := { b.scene with card } } (.bool true) .card

def setClock (b : Backdrop) (clock : Clock) : Turn where
  answer := .nothing
  backdrop := { b with scene := { b.scene with clock } }

def observe (b : Backdrop) (name : String) : Turn where
  answer := .subscribed 0
  backdrop := { b with observing := Function.update b.observing name true }

def unobserve (b : Backdrop) (name : String) : Turn where
  answer := .bool (b.observing name)
  backdrop := { b with observing := Function.update b.observing name false }

def reflect (b : Backdrop) : Turn :=
  let classes := b.scene.live.applyTo b.classes
  { answer := .reflected b.scene.live classes.classes, backdrop := { b with classes } }

def step (b : Backdrop) : Step → Turn
  | .addResult key label searching => { answer := .label label, backdrop := b.addResult key searching }
  | .setSearching key on =>
      b.withResult key fun r => { answer := .nothing, backdrop := b.setSearching r on }
  | .fetch key move =>
      b.withResult key fun r => (b.setSearching r move.searching).announce .nothing (.lifecycle r)
  | .announce key _ => b.withResult key fun r => b.announce .nothing (.lifecycle r)
  | .select none => b.selectResult none
  | .select (some key) => b.withResult key fun r => b.selectResult (some r)
  | .selectCard card => b.selectCard card
  | .advance ms => b.setClock (b.scene.clock.advance ms)
  | .advanceTo target => b.setClock (b.scene.clock.advanceTo target)
  | .passWall ms => b.setClock (b.scene.clock.pass ms)
  | .observe name (.lifecycle key) _ => b.withResult key fun _ => b.observe name
  | .observe name _ _ => b.observe name
  | .unobserve name => b.unobserve name
  | .reflect => b.reflect
  | _ => { answer := .nothing, backdrop := b }

end Backdrop

/-! ## Steps for a view -/

/-- What comes of a step that is for a view; there may be none. -/
def present (v : Option Portrait) (f : Portrait → Answer × Portrait) : Answer × Option Portrait :=
  match v with
  | some v => ((f v).1, some (f v).2)
  | none => (.absent .view, none)

/-- Poll a view at a time, or at what the clock reads. -/
def pollPortrait (v : Portrait) (c : Scene) (time : Option Nat) : Answer × Portrait :=
  (.bool (v.isDue (time.getD c.now)), v.polled c (time.getD c.now))

/-- What a step makes of the view that it is for, if there is one. -/
def actOn (c : Scene) (v : Option Portrait) : Step → Answer × Option Portrait
  | .view name config wall =>
      (.mountPoint config.region config.layout, some (.made name config wall))
  | .dropView _ => (.bool v.isSome, none)
  | .showView _ => present v fun v => (.nothing, v.shown c)
  | .render _ => present v fun v => (.nothing, v.rendered c)
  | .beforeShow _ => present v fun v => (.nothing, v.mapView View.mounted)
  | .teardown _ => present v fun v => (.nothing, v.tornDown)
  | .tick _ time => present v fun v => pollPortrait v c time
  | .update _ message => present v fun v => (v.update c message).map Answer.bool id
  | _ => (.nothing, v)

namespace Panorama

def turn (g : Panorama) (u : Turn) : Answer × Panorama :=
  (u.answer, { toBackdrop := u.backdrop, views := fun name => (g.views name).map u.change })

def place (g : Panorama) (name : String) (u : Answer × Option Portrait) : Answer × Panorama :=
  (u.1, { g with views := Function.update g.views name u.2 })

def step (g : Panorama) (t : Step) : Answer × Panorama :=
  match t.view? with
  | some name => g.place name (actOn g.scene (g.views name) t)
  | none => g.turn (g.toBackdrop.step t)

end Panorama

/-! ## What is seen of a step -/

variable {held : Holdings} {s s' : Session}

/-- What a session shows when a step is done, with all that it sets off. -/
def seen (r : Result) : Answer × Panorama :=
  (r.1.unnumbered, (machine.run (r.2.1.map .deliver) r.2.2.settle).panorama)

theorem seen_quiet (a : Answer) (s : Session) : seen (a, [], s) = (a.unnumbered, s.panorama) := by
  show (_, (machine.run [] s.settle).panorama) = _
  rw [Machine.run_nil]
  rfl

theorem seen_announce (hs : s.Sound held) (hsilent : s.Silent) (a : Answer) (c : Channel)
    (n : Notice) : seen (a, s.workspace.announce c n, s) =
      s.panorama.turn (s.panorama.announce a.unnumbered c) := by
  have hregistry : s.settle.workspace.registry c = s.workspace.registry c :=
    (viewsOnly_settle s).registry c
  -- the effects of the step are logged before anybody is told
  have hds : s.workspace.announce c n = s.settle.workspace.announce c n := by
    rw [Workspace.announce, Workspace.announce, hregistry]
  have hportrait := portrait_announce hs.settle hsilent c n
  have hpanels := (told_run (s := s.settle) hsilent
    (hs.settle.wired.pairwise_announce c n)).panels
  obtain ⟨log, hkept⟩ := Silent.kept_run (s := s.settle) hsilent (s.settle.workspace.announce c n)
  unfold seen
  dsimp only
  rw [hds]
  generalize machine.run _ s.settle = s' at hkept hpanels hportrait
  have hscene : s'.workspace.scene = s.workspace.scene := hpanels.scene
  have hviews : s'.panorama.views = fun name =>
      (s.panorama.views name).map (·.heard s.workspace.scene c) := by
    funext name
    have hname : s'.views = s.views := by rw [hkept]; rfl
    show (s'.views.get? name).map s'.workspace.portrait = _
    rw [hname]
    show _ = ((s.views.get? name).map s.workspace.portrait).map _
    rw [Option.map_map]
    exact congrArg (Option.map · _) (funext hportrait)
  refine Prod.ext rfl (Panorama.ext hscene ?_ ?_ ?_ hviews) <;> rw [hkept] <;> rfl

/-! ## Each step is seen as a step of the panorama -/

/-- A step that no view takes notice of. -/
theorem turn_unnoticed (g : Panorama) (a : Answer) (b : Backdrop) :
    g.turn { answer := a, backdrop := b } = (a, { toBackdrop := b, views := g.views }) := by
  rw [Panorama.turn, Option.map_id]
  rfl

theorem seen_unnoticed {a : Answer} {b : Backdrop}
    (h : s'.panorama = { toBackdrop := b, views := s.panorama.views }) :
    seen (a, [], s') = s.panorama.turn { answer := a.unnumbered, backdrop := b } := by
  rw [seen_quiet, turn_unnoticed, h]

theorem seen_withResult {key : String} {f : ResultId → Result} {g : ResultId → Turn}
    (h : ∀ r, s.results.get? key = some r → seen (f r) = s.panorama.turn (g r)) :
    seen (s.withResult key f) = s.panorama.turn (s.panorama.withResult key g) := by
  unfold withResult Backdrop.withResult
  show _ = s.panorama.turn (match s.results.get? key with | some r => g r | none => _)
  cases hr : s.results.get? key with
  | some r => exact h r hr
  | none =>
      rw [seen_quiet, turn_unnoticed]
      rfl

/-- A step for a view that is not there leaves the panorama as it is. -/
theorem place_absent {g : Panorama} {name : String} (h : g.views name = none) (a : Answer) :
    g.place name (a, none) = (a, g) := by
  rw [Panorama.place, Function.update_eq_self_iff.2 h.symm]

/-- What becomes of one panel is seen in no view but its own. -/
theorem views_panorama_of_ne {p : PanelId} {name n : String} {w : Workspace} (hs : s.Sound held)
    (hname : s.views.get? name = some p) (hn : n ≠ name)
    (h : ∀ q ≠ p, w.portrait q = s.workspace.portrait q) :
    (s.views.get? n).map w.portrait = s.panorama.views n := by
  refine Option.map_congr fun q hq => h q ?_
  rintro rfl
  exact hn (hs.named.inj .view .view _ _ _ hq hname).2

theorem seen_withView (hs : s.Sound held) {name : String} {f : PanelId → Answer × Workspace}
    {g : Portrait → Answer × Portrait}
    (hanswer : ∀ p, (f p).1.unnumbered = (g (s.workspace.portrait p)).1)
    (honly : ∀ p, PanelsOnly s.workspace (f p).2)
    (hportrait : ∀ p q, (f p).2.portrait q =
      if q = p then (g (s.workspace.portrait q)).2 else s.workspace.portrait q) :
    seen (s.withView name f) =
      s.panorama.place name (present (s.panorama.views name) g) := by
  have hview : s.panorama.views name = (s.views.get? name).map s.workspace.portrait := rfl
  unfold withView
  cases hname : s.views.get? name with
  | none =>
      rw [hname] at hview
      rw [seen_quiet, hview]
      exact (place_absent hview _).symm
  | some p =>
      rw [hname] at hview
      rw [seen_quiet, hview]
      refine Prod.ext (hanswer p) (Panorama.ext (honly p).scene rfl rfl rfl (funext fun n => ?_))
      show (s.views.get? n).map (f p).2.portrait =
        Function.update s.panorama.views name (some (g (s.workspace.portrait p)).2) n
      by_cases hn : n = name
      · subst hn
        rw [Function.update_self, hname, Option.map_some, hportrait, if_pos rfl]
      · rw [Function.update_of_ne hn]
        exact views_panorama_of_ne hs hname hn fun q hq => by rw [hportrait, if_neg hq]

theorem seen_dropView (hs : s.Sound held) (name : String) :
    seen (s.dropView name) =
      s.panorama.place name (.bool (s.panorama.views name).isSome, none) := by
  have hview : s.panorama.views name = (s.views.get? name).map s.workspace.portrait := rfl
  unfold dropView
  cases hname : s.views.get? name with
  | none =>
      rw [hname] at hview
      rw [seen_quiet, hview]
      exact (place_absent hview _).symm
  | some p =>
      rw [hname] at hview
      rw [seen_quiet, hview]
      have hscene := (PanelsOnly.dropView s.workspace p).scene
      refine Prod.ext rfl (Panorama.ext hscene rfl rfl rfl (funext fun n => ?_))
      show ((s.views.erase name).get? n).map (s.workspace.dropView p).portrait =
        Function.update s.panorama.views name none n
      rw [Table.get?_erase]
      by_cases hn : n = name
      · rw [if_pos hn, hn, Function.update_self]
        rfl
      · rw [if_neg hn, Function.update_of_ne hn]
        exact views_panorama_of_ne hs hname hn fun q hq => portrait_dropView _ p hq

theorem seen_addView (hs : s.Sound held) (name : String) (config : Config) (wall : Bool)
    (a : Answer) : seen (a, [], s.addView name config wall) =
      s.panorama.place name (a.unnumbered, some (.made name config wall)) := by
  have hscene : (s.addView name config wall).workspace.scene = s.workspace.scene :=
    (kept_getD scene fun old _ => (PanelsOnly.dropView _ old).scene).trans (scene_addView ..)
  rw [seen_quiet]
  refine Prod.ext rfl (Panorama.ext hscene rfl rfl rfl (funext fun n => ?_))
  show ((s.addView name config wall).views.get? n).map
      (s.addView name config wall).workspace.portrait =
    Function.update s.panorama.views name (some (.made name config wall)) n
  rw [views_addView]
  by_cases hn : n = name
  · rw [if_pos hn, hn, Function.update_self, Option.map_some, portrait_addView_self hs]
  · rw [if_neg hn, Function.update_of_ne hn]
    exact Option.map_congr fun q hq => portrait_addView_of_named hs hq (Ne.symm hn) config wall

theorem isSome_get?_set {α : Type} (t : Table String α) (name : String) (v : α) :
    (fun n => ((t.set name v).get? n).isSome) =
      Function.update (fun n => (t.get? n).isSome) name true := by
  funext n
  rw [Table.get?_set, Function.update_apply]
  split <;> rfl

theorem isSome_get?_erase {α : Type} (t : Table String α) (name : String) :
    (fun n => ((t.erase name).get? n).isSome) =
      Function.update (fun n => (t.get? n).isSome) name false := by
  funext n
  rw [Table.get?_erase, Function.update_apply]
  split <;> rfl

theorem seen_observe (s : Session) (name : String) (c : Channel) (script : Script Step) :
    seen (.subscribed (s.observe name c script).1, [], (s.observe name c script).2) =
      s.panorama.turn (s.panorama.observe name) := by
  have hscene : (s.observe name c script).2.workspace.scene = s.workspace.scene :=
    (kept_getD scene fun _ _ => (PanelsOnly.cancel ..).scene).trans (PanelsOnly.subscribe ..).scene
  rw [seen_quiet, Backdrop.observe, turn_unnoticed]
  refine Prod.ext rfl (Panorama.ext hscene rfl rfl (isSome_get?_set ..) (funext fun n => ?_))
  exact congrArg (Option.map · (s.views.get? n)) (portrait_observe s name c script)

theorem seen_unobserve (s : Session) (name : String) :
    seen (s.unobserve name) = s.panorama.turn (s.panorama.unobserve name) := by
  have hobserving : s.panorama.observing name = (s.observers.get? name).isSome := rfl
  rw [Backdrop.unobserve, turn_unnoticed]
  unfold unobserve
  cases hname : s.observers.get? name with
  | none =>
      rw [hname] at hobserving
      rw [seen_quiet, Function.update_eq_self_iff.2 hobserving.symm, hobserving]
      rfl
  | some h =>
      rw [hname] at hobserving
      rw [seen_quiet, hobserving]
      have hscene := (PanelsOnly.cancel s.workspace h.channel h.id).scene
      refine Prod.ext rfl (Panorama.ext hscene rfl rfl (isSome_get?_erase ..) (funext fun n => ?_))
      exact congrArg (Option.map · (s.views.get? n)) (portrait_cancel s.workspace _ _)

theorem panorama_setSearching {r : ResultId} (hr : (s.workspace.results.get? r).isSome)
    (on : Bool) : (s.setWorkspace (s.workspace.setSearching r on)).panorama =
      { s.panorama with toBackdrop := s.panorama.setSearching r on } := by
  have hsearching : (s.workspace.setSearching r on).isSearching =
      Function.update s.workspace.isSearching r on := by
    funext r'
    rw [Function.update_apply]
    split
    · rename_i heq
      subst heq
      obtain ⟨h, hh⟩ := Option.isSome_iff_exists.1 hr
      simp [isSearching, setSearching, modifyResult, Table.get?_modify, hh]
    · rename_i hne
      exact isSearching_setSearching hne on
  refine Panorama.ext ?_ rfl rfl rfl rfl
  show (s.workspace.setSearching r on).scene = _
  rw [Workspace.scene, hsearching]
  rfl

theorem panorama_addResult (s : Session) (key label : String) (searching : Bool) :
    (s.addResult key label searching).panorama =
      { s.panorama with toBackdrop := s.panorama.addResult key searching } := by
  have hsearching : (s.workspace.addResult label searching).2.isSearching =
      Function.update s.workspace.isSearching s.workspace.nextResult searching := by
    funext r
    rw [Function.update_apply]
    simp only [isSearching, Workspace.addResult, Table.get?_set]
    split <;> rfl
  refine Panorama.ext ?_ rfl rfl rfl rfl
  show (s.workspace.addResult label searching).2.scene = _
  rw [Workspace.scene, hsearching]
  rfl

theorem seen_selectResult (hs : s.Sound held) (hsilent : s.Silent) {r : Option ResultId}
    (hr : ∀ r', r = some r' → (s.workspace.results.get? r').isSome) :
    seen (s.selectResult r) = s.panorama.turn (s.panorama.selectResult r) := by
  obtain ⟨held', -, hs'⟩ := advances_selectResult (l := s.licence (.step .reflect)) hs hr
  have hresult : s.panorama.scene.result = s.workspace.result := rfl
  unfold selectResult Backdrop.selectResult at *
  rw [hresult]
  rcases s.workspace.selectResult_spec r with ⟨hsame, heq⟩ | ⟨hne, heq⟩
  · rw [heq, if_pos hsame]
    exact seen_unnoticed rfl
  · rw [heq] at hs' ⊢
    rw [if_neg hne]
    exact seen_announce hs' hsilent (.bool true) .result _

theorem seen_selectCard (hs : s.Sound held) (hsilent : s.Silent) (card : Option Metacard) :
    seen (s.selectCard card) = s.panorama.turn (s.panorama.selectCard card) := by
  obtain ⟨held', -, hs'⟩ := advances_selectCard (l := s.licence (.step .reflect)) hs card
  have hcard : s.panorama.scene.card = s.workspace.card := rfl
  unfold selectCard Backdrop.selectCard at *
  rw [hcard]
  rcases s.workspace.selectCard_spec card with ⟨hsame, heq⟩ | ⟨hne, heq⟩
  · rw [heq, if_pos hsame]
    exact seen_unnoticed rfl
  · rw [heq] at hs' ⊢
    rw [if_neg (by simp [hne])]
    exact seen_announce hs' hsilent (.bool true) .card _

theorem seen_fetch (hs : s.Sound held) (hsilent : s.Silent) {r : ResultId}
    (hr : (s.workspace.results.get? r).isSome) (move : Fetch) :
    seen (s.fetch move r) = s.panorama.turn
      ((s.panorama.setSearching r move.searching).announce .nothing (.lifecycle r)) := by
  obtain ⟨held', -, hs'⟩ : Advances (s.licence (.step .reflect)) held s (s.fetch move r).2.1
      (s.fetch move r).2.2 := .of_move hs (.fetch r move) (.of_eq rfl)
  have hpanorama := panorama_setSearching hr move.searching
  have hseen := seen_announce hs' hsilent .nothing (.lifecycle r) (.lifecycle move.event)
  refine hseen.trans ?_
  show (s.setWorkspace (s.workspace.setSearching r move.searching)).panorama.turn
    ((s.setWorkspace (s.workspace.setSearching r move.searching)).panorama.announce _ _) = _
  rw [hpanorama]
  rfl

/-- Every step is seen as a step of the panorama. -/
theorem seen_begin (hs : s.Sound held) (hsilent : s.Silent) {t : Step} (ht : t.OnViews) :
    seen (s.begin t) = s.panorama.step t := by
  cases t with
  | addResult key label searching => exact seen_unnoticed (panorama_addResult s key label searching)
  | setSearching key on =>
      refine seen_withResult fun r hr => ?_
      exact seen_unnoticed (panorama_setSearching (hs.results key r hr) on)
  | fetch key move =>
      exact seen_withResult fun r hr => seen_fetch hs hsilent (hs.results key r hr) move
  | announce key event =>
      exact seen_withResult fun r hr => seen_announce hs hsilent .nothing (.lifecycle r) _
  | select key =>
      cases key with
      | none => exact seen_selectResult hs hsilent (by simp)
      | some key =>
          refine seen_withResult fun r hr => seen_selectResult hs hsilent ?_
          rintro r' ⟨⟩
          exact hs.results key r hr
  | selectCard card => exact seen_selectCard hs hsilent card
  | advance ms =>
      exact seen_unnoticed rfl
  | advanceTo target =>
      exact seen_unnoticed rfl
  | passWall ms =>
      exact seen_unnoticed rfl
  | view name config wall => exact seen_addView hs name config wall _
  | dropView name => exact seen_dropView hs name
  | showView name =>
      exact seen_withView hs (fun p => rfl) (fun p => .showView _ p) fun p => portrait_showView _ p
  | render name =>
      exact seen_withView hs (fun p => rfl) (fun p => .render _ p) fun p => portrait_render _ p
  | beforeShow name =>
      exact seen_withView hs (fun p => rfl) (fun p => (ViewsOnly.beforeShow _ p).panelsOnly) fun p =>
        portrait_beforeShow _ p
  | teardown name =>
      exact seen_withView hs (fun p => rfl) (fun p => .teardown _ p) fun p => portrait_teardown _ p
  | tick name time =>
      exact seen_withView hs (fun p => congrArg Answer.bool (poll_eq_isDue ..))
        (fun p => .poll _ p _) fun p => portrait_poll _ p _
  | update name message =>
      exact seen_withView hs (fun p => congrArg Answer.bool (update_eq_portrait ..))
        (fun p => .update _ p _) fun p => portrait_update _ p _
  | observe name topic script =>
      cases topic with
      | result | card => exact seen_observe s name _ script
      | lifecycle key =>
          have hbegin : s.begin (.observe name (.lifecycle key) script) = s.withResult key fun r =>
              (.subscribed (s.observe name (.lifecycle r) script).1, [],
                (s.observe name (.lifecycle r) script).2) := by
            simp only [begin, channel?, withResult]
            cases s.results.get? key <;> rfl
          rw [hbegin]
          exact seen_withResult fun r _ => seen_observe s name (.lifecycle r) script
  | unobserve name => exact seen_unobserve s name
  | snapshot name =>
      exact seen_unnoticed rfl
  | reflect =>
      exact seen_unnoticed rfl
  | tracker | dropTracker | bind | unbind | resync | recompute | poll => exact ht.elim

end DetailPanel.Session
