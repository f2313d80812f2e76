import DetailPanel.Config.Toml
import DetailPanel.Program.Run

/-!
# The layers of a configuration

A configuration comes from four layers: the defaults, a file, the environment and the
options of the program.  Each field is that of the highest layer that gives it.  What
the file gives must be valid over the defaults alone, and again with the environment over
it, so that no layer makes up for a fault below it.  How the text of the file is decoded
does not matter.

    loadConfig decode s o = .ok c ↔
      ∃ l, Gathered decode s o l ∧ l.Sound ∧ c = l.config                (loadConfig_eq_ok)
-/

namespace DetailPanel

namespace Config

variable {c c' : Config} {lookup : String → Option String} {decode : Decoder} {present : Bool}
  {file : Reading}

/-- What is required of a configuration. -/
structure Valid (c : Config) : Prop where
  throttle : 0 < c.throttleMs
  layout : Text.allBlank c.layout = false
  region : Text.allBlank c.region = false

theorem validate_eq_ok : c.validate = .ok () ↔ c.Valid := by
  unfold validate
  constructor
  · intro h
    split at h
    · cases h
    · rename_i hthrottle
      split at h
      · cases h
      · rename_i hlayout
        split at h
        · cases h
        · rename_i hregion
          exact ⟨UInt64.pos_iff_ne_zero.2 hthrottle, by simpa using hlayout, by simpa using hregion⟩
  · rintro ⟨hthrottle, hlayout, hregion⟩
    simp [UInt64.pos_iff_ne_zero.1 hthrottle, hlayout, hregion]

theorem valid_default : Valid {} := ⟨by decide, by decide, by decide⟩

/-! ## The file -/

/-- The keys that a file gives, if it can be read and decoded; where none is present no key is
given. -/
def fileLayer (decode : Decoder) (present : Bool) (file : Reading) : Option Draft :=
  if present then file.toOption.bind decode else some {}

theorem ofText_eq_ok {text : String} :
    ofText decode text = .ok c ↔ ∃ d, decode text = some d ∧ d.complete.Valid ∧ c = d.complete := by
  unfold ofText
  cases decode text with
  | none => simp
  | some d =>
      have hvalid : d.complete.validate = .ok () ↔ d.complete.Valid := validate_eq_ok
      cases hval : d.complete.validate with
      | ok =>
          rw [hval] at hvalid
          simp [hval, hvalid.1 rfl, eq_comm]
      | error e =>
          rw [hval] at hvalid
          have hnot : ¬ d.complete.Valid := by
            intro h
            cases hvalid.2 h
          simp [hval, hnot]

theorem ofFile_eq_ok : ofFile decode present file = .ok c ↔
    ∃ d, fileLayer decode present file = some d ∧ d.complete.Valid ∧ c = d.complete := by
  cases present with
  | false =>
      simp only [ofFile, fileLayer, Bool.false_eq_true, if_false, Except.ok.injEq,
        Option.some.injEq]
      constructor
      · rintro rfl
        exact ⟨{}, rfl, valid_default, rfl⟩
      · rintro ⟨d, rfl, -, rfl⟩
        rfl
  | true =>
      cases file with
      | error fault => simp [ofFile, fileLayer, Except.toOption]
      | ok text => simp [ofFile, fileLayer, Except.toOption, ofText_eq_ok]

/-! ## The environment -/

/-- The window that the environment gives, if it is a number. -/
def windowLayer (lookup : String → Option String) : Option (Option UInt64) :=
  match lookup throttleVariable with
  | none => some none
  | some raw => (throttleOverride raw).toOption.map some

/-- A configuration with the environment over it. -/
def beneath (c : Config) (window : Option UInt64) (layout : Option String) : Config :=
  { c with throttleMs := window.getD c.throttleMs, layout := layout.getD c.layout }

theorem override_eq_ok : c.override lookup = (.ok (), c') ↔
    ∃ window, windowLayer lookup = some window ∧
      c' = c.beneath window (lookup layoutVariable) ∧ c'.Valid := by
  have hvalid : ∀ d : Config, (d.validate, d) = (.ok (), c') ↔ c' = d ∧ c'.Valid := by
    intro d
    rw [Prod.mk.injEq, validate_eq_ok]
    constructor
    · rintro ⟨h, rfl⟩
      exact ⟨rfl, h⟩
    · rintro ⟨rfl, h⟩
      exact ⟨h, rfl⟩
  unfold override windowLayer
  cases lookup throttleVariable with
  | none => simpa [beneath] using hvalid { c with layout := (lookup layoutVariable).getD c.layout }
  | some raw =>
      cases hraw : throttleOverride raw with
      | error e => simp [hraw, Except.map, Except.toOption]
      | ok n =>
          simpa [hraw, Except.map, Except.toOption, beneath] using
            hvalid { c with throttleMs := n, layout := (lookup layoutVariable).getD c.layout }

theorem load_eq_ok : load decode present file lookup = .ok c ↔
    ∃ d window, fileLayer decode present file = some d ∧ d.complete.Valid ∧
      windowLayer lookup = some window ∧
      c = d.complete.beneath window (lookup layoutVariable) ∧ c.Valid := by
  cases hfile : ofFile decode present file with
  | error e =>
      rw [load, hfile]
      constructor
      · intro h
        cases h
      · rintro ⟨d, window, hd, hvalid, -⟩
        rw [ofFile_eq_ok.2 ⟨d, hd, hvalid, rfl⟩] at hfile
        cases hfile
  | ok d =>
      obtain ⟨d, hd, hvalid, rfl⟩ := ofFile_eq_ok.1 hfile
      have hload : load decode present file lookup = .ok c ↔
          d.complete.override lookup = (.ok (), c) := by
        simp only [load, hfile]
        rcases d.complete.override lookup with ⟨_ | _, c'⟩ <;> simp
      rw [hload, override_eq_ok]
      constructor
      · rintro ⟨window, hwindow, hc, hc'⟩
        exact ⟨d, window, hd, hvalid, hwindow, hc, hc'⟩
      · rintro ⟨d', window, hd', -, hwindow, hc, hc'⟩
        obtain rfl := Option.some.inj (hd.symm.trans hd')
        exact ⟨window, hwindow, hc, hc'⟩

/-! ## All layers -/

/-- What the layers above the defaults give. -/
structure Layers where
  file : Draft
  window : Option UInt64
  layout : Option String
  flag : Option UInt64

namespace Layers

/-- Each field comes from the highest layer that gives it. -/
def config (l : Layers) : Config :=
  let standard : Config := {}
  { throttleMs := (l.flag.or (l.window.or l.file.throttleMs)).getD standard.throttleMs
    layout := (l.layout.or l.file.layout).getD standard.layout
    region := l.file.region.getD standard.region }

/-- No layer makes up for a fault below it. -/
structure Sound (l : Layers) : Prop where
  file : l.file.complete.Valid
  environment : { l with flag := none }.config.Valid
  flag : l.flag ≠ some 0

theorem config_without_flag (l : Layers) :
    { l with flag := none }.config = l.file.complete.beneath l.window l.layout := by
  obtain ⟨⟨throttleMs, layout, region⟩, window, override, flag⟩ := l
  cases window <;> cases override <;> rfl

theorem config_flag (l : Layers) : l.config =
    { ({ l with flag := none } : Layers).config with
      throttleMs := l.flag.getD ({ l with flag := none } : Layers).config.throttleMs } := by
  obtain ⟨file, window, override, flag⟩ := l
  cases flag <;> rfl

theorem Sound.valid {l : Layers} (h : l.Sound) : l.config.Valid := by
  rw [config_flag]
  refine ⟨?_, h.environment.layout, h.environment.region⟩
  cases hflag : l.flag with
  | none => exact h.environment.throttle
  | some n => exact UInt64.pos_iff_ne_zero.2 fun hzero => h.flag (hzero ▸ hflag)

end Layers

end Config

/-! ## The program -/

namespace Program

open Config

variable {decode : Decoder} {s : Surroundings} {o : Options} {c : Config}

/-- Where the configuration file is, if that can be told. -/
def located? (s : Surroundings) (o : Options) : Option String :=
  o.config.or s.configPath.toOption

/-- What the layers of a run give: they can be located, read and decoded. -/
structure Gathered (decode : Decoder) (s : Surroundings) (o : Options) (l : Layers) : Prop where
  file : ∃ path, located? s o = some path ∧
    fileLayer decode (s.present path) (s.read path) = some l.file
  window : windowLayer s.environment.get? = some l.window
  layout : s.environment.get? layoutVariable = l.layout
  flag : o.throttleMs = l.flag

theorem mapError_eq_ok {ε ε' α : Type} {x : Except ε α} {f : ε → ε'} {a : α} :
    x.mapError f = .ok a ↔ x = .ok a := by
  cases x with
  | error e =>
      constructor <;> intro h <;> cases h
  | ok b =>
      have hkept : (Except.ok b : Except ε α).mapError f = .ok b := rfl
      rw [hkept, Except.ok.injEq, Except.ok.injEq]

theorem loadFile_eq_ok : loadFile decode s o = .ok c ↔ ∃ path, located? s o = some path ∧
    loadAt decode s path = .ok c := by
  unfold loadFile located?
  cases o.config with
  | some path => simp [mapError_eq_ok]
  | none =>
      cases s.configPath with
      | error e => simp [Except.toOption]
      | ok path => simp [Except.toOption, mapError_eq_ok]

theorem valid_of_loadFile (h : loadFile decode s o = .ok c) : c.Valid := by
  obtain ⟨path, -, hload⟩ := loadFile_eq_ok.1 h
  obtain ⟨d, window, -, -, -, -, hvalid⟩ := load_eq_ok.1 hload
  exact hvalid

/-- A window among the options replaces the one that was loaded, and must not be zero. -/
theorem loadConfig_eq_ok_of_flag : loadConfig decode s o = .ok c ↔
    ∃ d, loadFile decode s o = .ok d ∧ o.throttleMs ≠ some 0 ∧
      c = { d with throttleMs := o.throttleMs.getD d.throttleMs } := by
  unfold loadConfig
  cases hfile : loadFile decode s o with
  | error e => simp
  | ok d =>
      cases o.throttleMs with
      | none => simp [eq_comm]
      | some n =>
          have hd := valid_of_loadFile hfile
          by_cases hzero : n = 0
          · have hval : ({ d with throttleMs := n } : Config).validate = .error .zeroThrottle := by
              simp [validate, hzero]
            subst hzero
            simp [hval]
          · have hval : ({ d with throttleMs := n } : Config).validate = .ok () :=
              validate_eq_ok.2 ⟨UInt64.pos_iff_ne_zero.2 hzero, hd.layout, hd.region⟩
            simp [hval, hzero, eq_comm]

/-- A configuration is loaded where the layers can be gathered and are sound, and is the
one that they make up. -/
theorem loadConfig_eq_ok :
    loadConfig decode s o = .ok c ↔ ∃ l, Gathered decode s o l ∧ l.Sound ∧ c = l.config := by
  rw [loadConfig_eq_ok_of_flag]
  constructor
  · rintro ⟨d, hfile, hflag, rfl⟩
    obtain ⟨path, hpath, hload⟩ := loadFile_eq_ok.1 hfile
    obtain ⟨file, window, hlayer, hvalid, hwindow, rfl, hvalid'⟩ := load_eq_ok.1 hload
    let l : Layers := ⟨file, window, s.environment.get? layoutVariable, o.throttleMs⟩
    have hbeneath := l.config_without_flag
    refine ⟨l, ⟨⟨path, hpath, hlayer⟩, hwindow, rfl, rfl⟩, ⟨hvalid, hbeneath ▸ hvalid', hflag⟩, ?_⟩
    rw [l.config_flag, hbeneath]
  · rintro ⟨l, hgathered, hsound, rfl⟩
    obtain ⟨path, hpath, hlayer⟩ := hgathered.file
    have hbeneath := l.config_without_flag
    have hload : loadAt decode s path = .ok (l.file.complete.beneath l.window l.layout) := by
      rw [loadAt, load_eq_ok, hgathered.layout]
      exact ⟨l.file, l.window, hlayer, hsound.file, hgathered.window, rfl,
        hbeneath ▸ hsound.environment⟩
    refine ⟨_, loadFile_eq_ok.2 ⟨path, hpath, hload⟩, hgathered.flag ▸ hsound.flag, ?_⟩
    rw [l.config_flag, hbeneath, hgathered.flag]

/-- A replay runs a valid configuration, or fails before it begins. -/
theorem replay_valid (decode : Decoder) (s : Surroundings) (o : Options) :
    (∃ c scenario, loadConfig decode s o = .ok c ∧ loadScenario s o = .ok scenario ∧ c.Valid ∧
        replay decode s o = (Replay.run c scenario).mapError .replay) ∨
      ∃ e, replay decode s o = .error e ∧
        (loadConfig decode s o = .error e ∨ loadScenario s o = .error e) := by
  unfold replay
  cases hconfig : loadConfig decode s o with
  | error e => exact .inr ⟨e, rfl, .inl rfl⟩
  | ok c =>
      cases hscenario : loadScenario s o with
      | error e => exact .inr ⟨e, rfl, .inr rfl⟩
      | ok scenario =>
          obtain ⟨l, -, hsound, rfl⟩ := loadConfig_eq_ok.1 hconfig
          exact .inl ⟨_, scenario, rfl, rfl, hsound.valid, rfl⟩

/-- However texts are decoded, loading succeeds exactly if the file can be located and is absent,
or can be read and decoded and is valid by itself, the environment parses and leaves a
configuration that is valid, and the window among the options is not zero.  A file counts as
absent where nothing can be told to be present, whatever the reason.  The result is valid, and
each of its fields comes from the highest layer that gives it.  So every replay that begins
has a valid configuration. -/
theorem config_layering (decode : Decoder) (s : Surroundings) (o : Options) :
    ((∃ c, loadConfig decode s o = .ok c) ↔
      ∃ path file window, located? s o = some path ∧
        fileLayer decode (s.present path) (s.read path) = some file ∧
        file.complete.Valid ∧ windowLayer s.environment.get? = some window ∧
        (file.complete.beneath window (s.environment.get? layoutVariable)).Valid ∧
        o.throttleMs ≠ some 0) ∧
    (∀ c, loadConfig decode s o = .ok c → c.validate = .ok () ∧
      ∃ path file window, located? s o = some path ∧
        fileLayer decode (s.present path) (s.read path) = some file ∧
        windowLayer s.environment.get? = some window ∧
        c.throttleMs = (o.throttleMs.or (window.or file.throttleMs)).getD 60 ∧
        c.layout = ((s.environment.get? layoutVariable).or file.layout).getD "goldenLayoutMetacard" ∧
        c.region = file.region.getD "details-tabular") ∧
    ((∃ c scenario, loadConfig decode s o = .ok c ∧ loadScenario s o = .ok scenario ∧ c.Valid ∧
        replay decode s o = (Replay.run c scenario).mapError .replay) ∨
      ∃ e, replay decode s o = .error e ∧
        (loadConfig decode s o = .error e ∨ loadScenario s o = .error e)) := by
  refine ⟨⟨?_, ?_⟩, fun c hc => ?_, replay_valid decode s o⟩
  · rintro ⟨c, hc⟩
    obtain ⟨l, ⟨⟨path, hpath, hfile⟩, hwindow, hlayout, hflag⟩, hsound, -⟩ :=
      loadConfig_eq_ok.1 hc
    refine ⟨path, l.file, l.window, hpath, hfile, hsound.file, hwindow, ?_, hflag ▸ hsound.flag⟩
    rw [hlayout, ← l.config_without_flag]
    exact hsound.environment
  · rintro ⟨path, file, window, hpath, hfile, hvalid, hwindow, hvalid', hflag⟩
    let l : Layers := ⟨file, window, s.environment.get? layoutVariable, o.throttleMs⟩
    refine ⟨l.config, loadConfig_eq_ok.2 ⟨l, ⟨⟨path, hpath, hfile⟩, hwindow, rfl, rfl⟩, ?_, rfl⟩⟩
    exact ⟨hvalid, l.config_without_flag ▸ hvalid', hflag⟩
  · obtain ⟨l, ⟨⟨path, hpath, hfile⟩, hwindow, hlayout, hflag⟩, hsound, rfl⟩ :=
      loadConfig_eq_ok.1 hc
    refine ⟨validate_eq_ok.2 hsound.valid, path, l.file, l.window, hpath, hfile, hwindow, ?_⟩
    rw [hlayout, hflag]
    exact ⟨rfl, rfl, rfl⟩

/-- A file gives the window and the region, the environment the window and the layout, and
the options the window once more. -/
example :
    let s : Surroundings :=
      { environment := [(throttleVariable, " 40 "), (layoutVariable, "wide")]
        present := fun _ => true
        read := fun _ => .ok "throttle_ms = 10\nregion = \"left\"\n" }
    let o : Options := { scenario := "s.json", config := some "panel.toml", throttleMs := some 5 }
    loadConfig decodeToml s o = .ok { throttleMs := 5, layout := "wide", region := "left" } := rfl

end Program

end DetailPanel
