import DetailPanel.Config.Load
import DetailPanel.Toml.Document

/-!
# Configurations in TOML

The decoder that the program is run with.
-/

namespace DetailPanel.Config

/-- What the root table gives under a key; nothing if the key is absent. -/
def given {α : Type} (es : Toml.Entries) (name : String) (read : Toml.Scalar → Option α) :
    Option (Option α) :=
  match es.lookup name with
  | none => some none
  | some (.scalar s) => (read s).map some
  | some _ => none

def tomlText : Toml.Scalar → Option String
  | .text s => some s
  | _ => none

def tomlNatural64 : Toml.Scalar → Option UInt64
  | .integer n => if 0 ≤ n ∧ n.toNat ≤ Json.largest64 then some n.toNat.toUInt64 else none
  | _ => none

/-- The keys that a text gives.  Other keys and tables are passed over. -/
def decodeToml : Decoder := fun text => do
  let es ← Toml.parse text
  let throttleMs ← given es "throttle_ms" tomlNatural64
  let layout ← given es "layout_config_name" tomlText
  let region ← given es "region" tomlText
  some { throttleMs, layout, region }

end DetailPanel.Config
