/-!
# Colours and control sequences

The terminal writes colours as control sequences: an escape character, an opening square
bracket, parameters, and a final letter. A name may hold such a sequence too, and then it is
written as it is, inside the coloured text around it.

A text as a screen shows it, without its colours, is the text with every control sequence
removed. A sequence starts with an escape character followed by an opening square bracket, and
runs to its final character, the first ASCII letter after the bracket. A sequence that the text
ends before its final character runs to the end of the text. So a sequence left open in a name
runs on into the text written after the name, up to the first letter there, which may be the
final letter of the next colour. An escape character that no bracket follows, and every other
control character, stays as it is.
-/

namespace UnifyMachine.Text

/-- Whether `c` ends a control sequence: an ASCII letter. -/
def isFinalChar (c : Char) : Bool :=
  c.isAlpha

/-- The characters after the control sequence whose body starts `cs`: those after its final
character, or none when no final character comes. -/
def afterSequence : List Char → List Char
  | [] => []
  | c :: rest => if isFinalChar c then rest else afterSequence rest

theorem length_afterSequence_le (cs : List Char) : (afterSequence cs).length ≤ cs.length := by
  induction cs with
  | nil => simp [afterSequence]
  | cons c rest ih =>
    unfold afterSequence
    split <;> simp only [List.length_cons] <;> omega

/-- The characters of `cs` without its control sequences. -/
def shownChars : List Char → List Char
  | [] => []
  | '\x1b' :: '[' :: rest => shownChars (afterSequence rest)
  | c :: rest => c :: shownChars rest
termination_by cs => cs.length
decreasing_by
  all_goals simp only [List.length_cons]
  · have := length_afterSequence_le rest
    omega
  · omega

/-- A text as a screen shows it: without its control sequences. -/
def shown (s : String) : String :=
  String.ofList (shownChars s.toList)

/-- The control sequence with parameters `params` that sets how the text after it is drawn. -/
def styleSequence (params : String) : String :=
  "\x1b[" ++ params ++ "m"

/-- A foreground colour, as the parameters of the sequence that selects it. -/
structure Colour where
  params : String
deriving Inhabited

namespace Colour

/-- Colour `n` of the 256-colour palette. -/
def palette (n : Nat) : Colour :=
  ⟨"38;5;" ++ toString n⟩

/-- Red among the eight basic colours. -/
def basicRed : Colour :=
  ⟨"31"⟩

/-- The red of the terminal's answers. -/
def red : Colour :=
  palette 9

/-- The green of the terminal's answers. -/
def green : Colour :=
  palette 10

/-- The dark grey of the terminal's answers. -/
def darkGrey : Colour :=
  palette 8

end Colour

/-- `text` in colour `c`, followed by the sequence back to the default foreground colour. -/
def paint (c : Colour) (text : String) : String :=
  styleSequence c.params ++ text ++ styleSequence "39"

/-- `text` in colour `c`, followed by the sequence back to the default style. -/
def paintThenReset (c : Colour) (text : String) : String :=
  styleSequence c.params ++ text ++ styleSequence "0"

theorem shownChars_append_sequence (params text : List Char)
    (hp : ∀ c ∈ params, isFinalChar c = false) :
    shownChars ('\x1b' :: '[' :: (params ++ 'm' :: text)) = shownChars text := by
  rw [shownChars]
  congr 1
  induction params with
  | nil =>
    have hm : isFinalChar 'm' = true := by decide
    simp [afterSequence, hm]
  | cons c rest ih =>
    simp only [List.cons_append, afterSequence]
    rw [if_neg (by simp [hp c (by simp)])]
    exact ih fun d hd => hp d (by simp [hd])

end UnifyMachine.Text
