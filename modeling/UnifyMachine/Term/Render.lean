import UnifyMachine.Term.Basic
import UnifyMachine.Text.Lexical

/-!
# Writing terms

The canonical text of a term: every compound term in functional notation, `name(a1, a2)`, with
no operators, and an atom in quotes exactly when its bare text would not read back as the same
name. Inside quotes a quote, a backslash, a newline and a tab are escaped.
-/

namespace UnifyMachine

open Text

namespace Term

/-- Whether an atom must be quoted. A name that starts with a lowercase letter is bare when the
rest is letters, digits and underscores. Any other name is bare when it is a solo name other
than the comma, or a run of symbol characters other than the lone full stop. -/
def needsQuotes (name : String) : Bool :=
  match name.toList with
  | [] => true
  | first :: rest =>
    if isLowercase first then
      !(rest.all isNameChar)
    else
      name == "," || name == "." || !(soloNames.contains name || name.toList.all isSymbolChar)

/-- How one character of a quoted atom is written. -/
def quotedChar : Char → List Char
  | '\'' => ['\\', '\'']
  | '\\' => ['\\', '\\']
  | '\n' => ['\\', 'n']
  | '\t' => ['\\', 't']
  | c => [c]

/-- The text of an atom or functor name, quoted when it needs quotes. -/
def atomText (name : String) : String :=
  if needsQuotes name then
    "'" ++ String.ofList (name.toList.flatMap quotedChar) ++ "'"
  else
    name

mutual
/-- The canonical text of a term. -/
def render : Term → String
  | .atom name => atomText name
  | .number value => value.render
  | .var name => name
  | .compound name args => atomText name ++ "(" ++ renderArgs args ++ ")"

/-- The texts of arguments, separated by a comma and a space. -/
def renderArgs : List Term → String
  | [] => ""
  | [t] => render t
  | t :: ts => render t ++ ", " ++ renderArgs ts
end

end Term

end UnifyMachine
