import UnifyMachine.Term.Basic
import UnifyMachine.Text.Printable

/-!
# The outline of a term

A one-line account of how a term is built, constructor by constructor, with every name in
double quotes: `Callable { name: "f", terms: [Atom { name: "a" }] }`. Inside the quotes the
usual escapes are used, and a character that would not print as itself, or that would fuse with
its neighbour, is written by its code point in hexadecimal.
-/

namespace UnifyMachine

open Text

/-- The outline of a number. -/
def Decimal.outline (d : Decimal) : String :=
  "Number \x7b mantissa: " ++ toString d.mantissa ++ ", scale: " ++ toString d.scale ++ " \x7d"

namespace Term

/-- A character written by its code point: a backslash, `u`, and the lowercase hexadecimal
digits in braces. -/
def codePointEscape (c : Char) : List Char :=
  "\\u\x7b".toList ++ Nat.toDigits 16 c.toNat ++ ['\x7d']

/-- How one character of a name is written inside double quotes. -/
def quotedNameChar (c : Char) : List Char :=
  match c with
  | '\x00' => ['\\', '0']
  | '\t' => ['\\', 't']
  | '\r' => ['\\', 'r']
  | '\n' => ['\\', 'n']
  | '\\' => ['\\', '\\']
  | '"' => ['\\', '"']
  | _ =>
    if isCombiningExtender c then codePointEscape c
    else if isPrintable c then [c]
    else codePointEscape c

/-- A name in double quotes, escaped. -/
def quotedName (name : String) : String :=
  "\"" ++ String.ofList (name.toList.flatMap quotedNameChar) ++ "\""

mutual
/-- The outline of a term. -/
def outline : Term → String
  | .atom name => "Atom \x7b name: " ++ quotedName name ++ " \x7d"
  | .number value => "Number \x7b value: " ++ Decimal.outline value ++ " \x7d"
  | .var name => "Variable \x7b name: " ++ quotedName name ++ " \x7d"
  | .compound name args =>
    "Callable \x7b name: " ++ quotedName name ++ ", terms: [" ++ outlineList args ++ "] \x7d"

/-- The outlines of a list of terms, separated by a comma and a space. -/
def outlineList : List Term → String
  | [] => ""
  | [t] => outline t
  | t :: ts => outline t ++ ", " ++ outlineList ts
end

end Term

end UnifyMachine
