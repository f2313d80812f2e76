import DetailPanel.Json.Value
import DetailPanel.Text.Quoted

/-!
# Why a text is refused

A text can end too early, be no JSON, or be JSON of the wrong shape.  Only the
last kind has a wording of its own, made from what was found and what was
wanted.
-/

namespace DetailPanel.Json

/-- What stood where something else was wanted. -/
inductive Found where
  | atom (a : Atom)
  | sequence
  | map
  deriving DecidableEq, Repr

inductive Expected where
  | text
  | boolean
  | natural64
  | sequence
  | map
  | unit
  | variant
  | record (name : String)
  /-- A record written as a sequence, with this many fields. -/
  | recordOf (name : String) (fields : Nat)
  | variantOf (name : String) (fields : Nat)
  | tagged (name : String)
  /-- A sequence of exactly this length. -/
  | items (n : Nat)
  deriving DecidableEq, Repr

inductive Mismatch where
  | invalidType (found : Found) (expected : Expected)
  /-- A number of the right type outside the wanted range. -/
  | invalidValue (found : Number) (expected : Expected)
  | invalidLength (n : Nat) (expected : Expected)
  | missingField (name : String)
  | duplicateField (name : String)
  | unknownVariant (name : String) (known : List String)
  deriving DecidableEq, Repr

inductive Failure where
  /-- The text ended too early. -/
  | ended
  | malformed
  | mismatched (m : Mismatch)
  deriving DecidableEq, Repr

def elementCount (n : Nat) : String :=
  Decimal.text n ++ if n = 1 then " element" else " elements"

def Atom.describe : Atom → String
  | .null => "null"
  | .bool b => if b then "boolean `true`" else "boolean `false`"
  | .number (.double bits) =>
      "floating point `" ++ String.ofList (Number.double bits).text ++ "`"
  | .number n => "integer `" ++ String.ofList n.text ++ "`"
  | .text s => "string " ++ Text.quote s

def Found.describe : Found → String
  | .atom a => a.describe
  | .sequence => "sequence"
  | .map => "map"

def Expected.describe : Expected → String
  | .text => "a string"
  | .boolean => "a boolean"
  | .natural64 => "u64"
  | .sequence => "a sequence"
  | .map => "a map"
  | .unit => "unit"
  | .variant => "variant identifier"
  | .record name => "struct " ++ name
  | .recordOf name n => "struct " ++ name ++ " with " ++ elementCount n
  | .variantOf name n => "struct variant " ++ name ++ " with " ++ elementCount n
  | .tagged name => "internally tagged enum " ++ name
  | .items n => elementCount n ++ " in sequence"

def quoteName (name : String) : String := "`" ++ name ++ "`"

def Mismatch.message : Mismatch → String
  | .invalidType found expected =>
      "invalid type: " ++ found.describe ++ ", expected " ++ expected.describe
  | .invalidValue found expected =>
      "invalid value: " ++ (Atom.number found).describe ++ ", expected " ++ expected.describe
  | .invalidLength n expected =>
      "invalid length " ++ Decimal.text n ++ ", expected " ++ expected.describe
  | .missingField name => "missing field " ++ quoteName name
  | .duplicateField name => "duplicate field " ++ quoteName name
  | .unknownVariant name known =>
      "unknown variant " ++ quoteName name ++ ", expected one of " ++
        ", ".intercalate (known.map quoteName)

/-- The wording after the name of the failure; empty unless the shape is wrong. -/
def Failure.detail : Failure → String
  | .mismatched m => m.message
  | .ended | .malformed => ""

end DetailPanel.Json
