import UnifyMachine.Syntax.Token
import UnifyMachine.Term.Basic
import UnifyMachine.Text.Blank
import UnifyMachine.Text.Lexical

/-!
# Scanning a source into tokens

The whole source is cut into tokens once, before any clause is read. Layout (white space,
`%` line comments and closed `/* */` comments) may stand before and after every token. At each
offset the token kinds are tried in a fixed order: a full stop ending a clause, a number, a
variable, a name (possibly a functor), punctuation.

Scanning fails where no token starts. The failure reported is the furthest offset at which any
attempt that scanning passed over failed: a quoted name left open, for instance, fails at the
end of the source even when scanning stops earlier. A failure at the end of the source means
that the input ended too soon.
-/

namespace UnifyMachine.Syntax

open Text

/-- The outcome of a scanning rule started at some offset: a value, the offset after it, and the
furthest offset at which an attempt passed over on the way failed (zero if none); or the
furthest offset at which the rule failed. -/
inductive Scan (α : Type) where
  | ok (value : α) (next : Nat) (reach : Nat)
  | fail (reach : Nat)

namespace Scan

/-- The value changed by `f`. -/
def map (f : α → β) : Scan α → Scan β
  | .ok v q r => .ok (f v) q r
  | .fail r => .fail r

/-- The first rule that succeeds; if both fail, the further failure. -/
def orElse : Scan α → (Unit → Scan α) → Scan α
  | .ok v q r, _ => .ok v q r
  | .fail f, k =>
    match k () with
    | .ok v q r => .ok v q r
    | .fail g => .fail (max f g)

end Scan

variable (src : Array Char)

/-- Whether the character at offset `p` exists and satisfies `pred`. -/
def charIs (p : Nat) (pred : Char → Bool) : Bool :=
  match src[p]? with
  | some c => pred c
  | none => false

/-- The first offset at or after `p` whose character fails `pred`, or the end. -/
def skipWhile (pred : Char → Bool) (p : Nat) : Nat :=
  if h : p < src.size then
    if pred src[p] then skipWhile pred (p + 1) else p
  else p
termination_by src.size - p

/-- The text between two offsets. -/
def textBetween (p q : Nat) : String :=
  String.ofList (src.extract p q).toList

/-- The first offset at or after `p` where `*/` starts. -/
def commentEnd (p : Nat) : Option Nat :=
  if h : p < src.size then
    if src[p] == '*' && src[p + 1]? == some '/' then some p else commentEnd (p + 1)
  else none
termination_by src.size - p

/-- One piece of layout at `p`: a blank, a line comment up to the line's end, or a block comment
closed by its `*/`. A block comment that is never closed fails at the end of the source. -/
def layoutPiece (p : Nat) : Scan Unit :=
  if charIs src p isBlank then .ok () (p + 1) 0
  else if charIs src p (fun c => c == '%') then
    let q := skipWhile src (fun c => c != '\n') (p + 1)
    .ok () q q
  else if charIs src p (fun c => c == '/') then
    if charIs src (p + 1) (fun c => c == '*') then
      match commentEnd src (p + 2) with
      | some q => .ok () (q + 2) 0
      | none => .fail src.size
    else .fail (p + 1)
  else .fail p

/-- Skips all layout from `p`: the offset after it and the furthest failure met, merged into
`reach`. -/
def layout (p reach : Nat) : Nat × Nat :=
  match layoutPiece src p with
  | .ok _ q r => if p < q ∧ q ≤ src.size then layout q (max reach r) else (p, reach)
  | .fail f => (p, max reach f)
termination_by src.size - p

/-- The full stop that ends a clause: a `.` followed by a blank (which it takes), by a line
comment (which it takes), or by the end of the source. -/
def fullStop (p : Nat) : Scan Token :=
  if charIs src p (fun c => c == '.') then
    let q := p + 1
    if charIs src q isBlank then .ok .stop (q + 1) 0
    else if charIs src q (fun c => c == '%') then
      let r := skipWhile src (fun c => c != '\n') (q + 1)
      .ok .stop r r
    else if src.size ≤ q then .ok .stop q 0
    else .fail q
  else .fail p

/-- A number literal: ASCII digits, then a point and more digits if a digit follows the point. -/
def number (p : Nat) : Scan Decimal :=
  if charIs src p isDigit then
    let q := skipWhile src isDigit p
    let integral := (src.extract p q).toList
    if charIs src q (fun c => c == '.') then
      if charIs src (q + 1) isDigit then
        let r := skipWhile src isDigit (q + 1)
        .ok (Decimal.ofDigits integral (src.extract (q + 1) r).toList) r r
      else .ok (Decimal.ofDigits integral []) q (q + 1)
    else .ok (Decimal.ofDigits integral []) q q
  else .fail p

/-- A variable: an uppercase letter or `_`, then letters, digits and underscores. -/
def variableName (p : Nat) : Scan String :=
  if charIs src p isVariableStart then
    let q := skipWhile src isNameChar (p + 1)
    .ok (textBetween src p q) q q
  else .fail p

/-- A plain name: a lowercase letter, then letters, digits and underscores. -/
def letterName (p : Nat) : Scan String :=
  if charIs src p isLowercase then
    let q := skipWhile src isNameChar (p + 1)
    .ok (textBetween src p q) q q
  else .fail p

/-- One character inside quotes at `r` and the offset after it: a doubled quote stands for a
quote, a backslash escapes `n`, `t`, a backslash or a quote, and any other character but a
quote or a backslash stands for itself. Otherwise, the offset at which it fails. -/
def quotedChar (r : Nat) : Except Nat (Char × Nat) :=
  match src[r]? with
  | none => .error r
  | some '\'' => if src[r + 1]? == some '\'' then .ok ('\'', r + 2) else .error (r + 1)
  | some '\\' =>
    match src[r + 1]? with
    | some 'n' => .ok ('\n', r + 2)
    | some 't' => .ok ('\t', r + 2)
    | some '\\' => .ok ('\\', r + 2)
    | some '\'' => .ok ('\'', r + 2)
    | _ => .error (r + 1)
  | some c => .ok (c, r + 1)

/-- The characters inside quotes from `r` (reversed onto `acc`), the offset where they stop,
and the offset at which the next character failed. -/
def quotedBody (r : Nat) (acc : List Char) : List Char × Nat × Nat :=
  match quotedChar src r with
  | .ok (c, r') => if r < r' ∧ r' ≤ src.size then quotedBody r' (c :: acc) else (acc.reverse, r, r)
  | .error f => (acc.reverse, r, f)
termination_by src.size - r

/-- A quoted name: a quote, quoted characters, and the closing quote. -/
def quotedName (p : Nat) : Scan String :=
  if charIs src p (fun c => c == '\'') then
    let (chars, r, f) := quotedBody src (p + 1) []
    if charIs src r (fun c => c == '\'') then .ok (String.ofList chars) (r + 1) f
    else .fail (max r f)
  else .fail p

/-- A symbol name: a run of symbol characters. -/
def symbolName (p : Nat) : Scan String :=
  if charIs src p isSymbolChar then
    let q := skipWhile src isSymbolChar p
    .ok (textBetween src p q) q q
  else .fail p

/-- A solo name: `!`, `;`, or a pair of brackets `[]` or braces `{}` with only layout
between them. -/
def soloName (p : Nat) : Scan String :=
  match src[p]? with
  | some '!' => .ok "!" (p + 1) 0
  | some ';' => .ok ";" (p + 1) 0
  | some '[' => closedBy ']' Term.emptyList
  | some '{' => closedBy '}' Term.curlyBrackets
  | _ => .fail p
where
  /-- Layout after the opening character, then `close`. -/
  closedBy (close : Char) (name : String) : Scan String :=
    let (q, r) := layout src (p + 1) 0
    if charIs src q (fun c => c == close) then .ok name (q + 1) r else .fail (max q r)

/-- A name of any of the four forms, tried in order. -/
def bareName (p : Nat) : Scan String :=
  (letterName src p).orElse fun _ =>
  (quotedName src p).orElse fun _ =>
  (symbolName src p).orElse fun _ =>
  soloName src p

/-- A name, which is a functor when an opening bracket follows it directly. -/
def nameToken (p : Nat) : Scan Token :=
  match bareName src p with
  | .ok name q r =>
    if charIs src q (fun c => c == '(') then .ok (.functor name) (q + 1) r
    else .ok (.name name) q (max r q)
  | .fail f => .fail f

/-- A bracket, a brace, a comma or a bar. -/
def punctuation (p : Nat) : Scan Token :=
  match src[p]? with
  | some '(' => .ok .openParen (p + 1) 0
  | some ')' => .ok .closeParen (p + 1) 0
  | some '[' => .ok .openList (p + 1) 0
  | some ']' => .ok .closeList (p + 1) 0
  | some '{' => .ok .openCurly (p + 1) 0
  | some '}' => .ok .closeCurly (p + 1) 0
  | some ',' => .ok .comma (p + 1) 0
  | some '|' => .ok .bar (p + 1) 0
  | _ => .fail p

/-- The token at `p`, the kinds tried in order. -/
def token (p : Nat) : Scan Token :=
  (fullStop src p).orElse fun _ =>
  ((number src p).map .number).orElse fun _ =>
  ((variableName src p).map .var).orElse fun _ =>
  (nameToken src p).orElse fun _ =>
  punctuation src p

/-- Tokens from `p`, each followed by its layout, pushed onto `acc`: the tokens with their
spans, the offset where no further token starts, and the furthest failure met. -/
def tokensFrom (p reach : Nat) (acc : Array (Token × Span)) : Array (Token × Span) × Nat × Nat :=
  match token src p with
  | .ok t q r =>
    let (q', r') := layout src q 0
    let acc := acc.push (t, ⟨p, q⟩)
    if p < q' ∧ q' ≤ src.size then tokensFrom q' (max reach (max r r')) acc
    else (acc, q', max reach (max r r'))
  | .fail f => (acc, p, max reach f)
termination_by src.size - p

/-- The tokens of a whole source with their spans, or the offset of the furthest failure if
some part of it is no token. -/
def scan : Except Nat (Array (Token × Span)) :=
  let (p₀, r₀) := layout src 0 0
  let (tokens, p, reach) := tokensFrom src p₀ r₀ #[]
  if src.size ≤ p then .ok tokens else .error (max p reach)

end UnifyMachine.Syntax
