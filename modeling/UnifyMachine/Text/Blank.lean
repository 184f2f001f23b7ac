import UnifyMachine.Text.CodePointSet

/-!
# White space

The Unicode property White_Space (Unicode 17.0). These are the characters that separate
tokens, that may follow the full stop ending a clause, and that trimming removes from a line.
-/

namespace UnifyMachine.Text

/-- Code points with the property White_Space, as flip boundaries. -/
def blank : CodePointSet := ⟨#[
  0x9, 0xE, 0x20, 0x21, 0x85, 0x86, 0xA0, 0xA1, 0x1680, 0x1681,
  0x2000, 0x200B, 0x2028, 0x202A, 0x202F, 0x2030, 0x205F, 0x2060, 0x3000, 0x3001
]⟩

/-- Whether `c` has the Unicode property White_Space. -/
def isBlank (c : Char) : Bool :=
  blank.contains c

end UnifyMachine.Text
