import UnifyMachine.Text.Lowercase
import UnifyMachine.Text.Uppercase
import UnifyMachine.Text.Alphabetic
import UnifyMachine.Text.Numeric

/-!
# Character classes of the term language

Which characters start and continue names, variables and numbers. Letters and digits are taken
from the Unicode tables, so `été` is a plain name and `Ärger` a variable; number literals use the
ASCII digits only.
-/

namespace UnifyMachine.Text

/-- The characters of symbol names such as `:-`, `=..` or `\+`. -/
def symbolChars : List Char :=
  "+-*/\\^<>=~:.?@#&$".toList

/-- Whether `c` may occur in a symbol name. -/
def isSymbolChar (c : Char) : Bool :=
  symbolChars.contains c

/-- Letters and digits of any script: the property Alphabetic or the general category N. -/
def isAlphanumeric (c : Char) : Bool :=
  isAlphabetic c || isNumeric c

/-- Whether `c` may continue a plain name or a variable. -/
def isNameChar (c : Char) : Bool :=
  isAlphanumeric c || c == '_'

/-- Whether `c` starts a variable: an uppercase letter or an underscore. -/
def isVariableStart (c : Char) : Bool :=
  isUppercase c || c == '_'

/-- Whether `c` is one of the ASCII digits that number literals are made of. -/
def isDigit (c : Char) : Bool :=
  '0' ≤ c && c ≤ '9'

/-- The names that are written alone and need no quotes although they are not symbol names. -/
def soloNames : List String :=
  ["[]", "{}", "!", ";", ","]

end UnifyMachine.Text
