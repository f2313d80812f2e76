import DetailPanel.Config.Basic

/-!
# Overrides from the environment

Two variables may override the throttle window and the layout.  A window that
is no number leaves the configuration as it was; otherwise both overrides are
in place before the result is validated, and they stay in place if it fails.
-/

namespace DetailPanel.Config

/-- Digits after an optional plus sign, for a number of 64 bits. -/
def natural64? (cs : List Char) : Option UInt64 :=
  let ds :=
    match cs with
    | '+' :: ds => ds
    | ds => ds
  if !ds.isEmpty && ds.all Json.isDigit && Decimal.value ds ≤ Json.largest64 then
    some (Decimal.value ds).toUInt64
  else none

/-- The window that an override asks for; white space around it is ignored. -/
def throttleOverride (raw : String) : Except Invalid UInt64 :=
  match natural64? (Text.trim raw.toList) with
  | some n => .ok n
  | none => .error (.throttleOverride raw)

/-- Apply the overrides that `lookup` finds: the outcome, and what has become of
the configuration. -/
def override (c : Config) (lookup : String → Option String) : Except Invalid Unit × Config :=
  let throttled : Except Invalid Config :=
    match lookup throttleVariable with
    | none => .ok c
    | some raw => (throttleOverride raw).map fun n => { c with throttleMs := n }
  match throttled with
  | .error e => (.error e, c)
  | .ok c =>
      let c := { c with layout := (lookup layoutVariable).getD c.layout }
      (c.validate, c)

end DetailPanel.Config
