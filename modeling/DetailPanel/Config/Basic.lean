import DetailPanel.Json.Reader
import DetailPanel.Json.Writer
import DetailPanel.Text.Blank

/-!
# Panel configuration

The throttle window, the layout to mount, and the region to mount it in.  Every
field has a default, and a configuration may be held before it is known to be
valid.
-/

namespace DetailPanel

open Json

structure Config where
  throttleMs : UInt64 := 60
  layout : String := "goldenLayoutMetacard"
  region : String := "details-tabular"
  deriving DecidableEq, Repr

namespace Config

/-- What makes a configuration invalid. -/
inductive Invalid where
  | zeroThrottle
  | blankLayout
  | blankRegion
  /-- The override of the throttle window is no number of 64 bits. -/
  | throttleOverride (raw : String)
  deriving DecidableEq, Repr

def throttleVariable : String := "METACARD_THROTTLE_MS"
def layoutVariable : String := "METACARD_LAYOUT_CONFIG"

def Invalid.message : Invalid → String
  | .zeroThrottle => "Invalid panel config: throttle_ms must be greater than zero"
  | .blankLayout => "Invalid panel config: layout_config_name cannot be empty"
  | .blankRegion => "Invalid panel config: region cannot be empty"
  | .throttleOverride raw =>
      "Invalid panel config: " ++ throttleVariable ++ " must be an integer, got " ++ Text.quote raw

def validate (c : Config) : Except Invalid Unit :=
  if c.throttleMs = 0 then .error .zeroThrottle
  else if Text.allBlank c.layout then .error .blankLayout
  else if Text.allBlank c.region then .error .blankRegion
  else .ok ()

/-- The length of the throttle window in milliseconds. -/
def window (c : Config) : Nat := c.throttleMs.toNat

/-! ## JSON -/

structure Draft where
  throttleMs : Option UInt64 := none
  layout : Option String := none
  region : Option String := none

def Draft.complete (d : Draft) : Config :=
  let standard : Config := {}
  { throttleMs := d.throttleMs.getD standard.throttleMs
    layout := d.layout.getD standard.layout
    region := d.region.getD standard.region }

def record : Record Draft Config where
  name := "PanelConfig"
  empty := {}
  fields := [
    { name := "throttle_ms", optional := true, given := (·.throttleMs.isSome)
      read := fun d l cs =>
        (scalar natural64 l cs).map fun n => { d with throttleMs := some n } },
    { name := "layout_config_name", optional := true, given := (·.layout.isSome)
      read := fun d l cs => (scalar text l cs).map fun s => { d with layout := some s } },
    { name := "region", optional := true, given := (·.region.isSome)
      read := fun d l cs => (scalar text l cs).map fun s => { d with region := some s } }]
  make d := .ok d.complete

def ofJson (s : String) : Except Failure Config := readAll record.read s

def toJson (c : Config) : Value :=
  .object [("throttle_ms", .ofNatural c.throttleMs), ("layout_config_name", .ofText c.layout),
    ("region", .ofText c.region)]

end Config

end DetailPanel
