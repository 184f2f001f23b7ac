import UnifyMachine.Syntax.Reader
import UnifyMachine.Text.Blank
import UnifyMachine.Text.Screen

/-!
# Diagnostics

A refused clause is reported with the lines of the source it concerns, drawn in a fixed layout:

```
Error: Operator priority clash
   ╭─[<query>:1:3]
   │
 1 │ a b.
   ·   ┬
   ·   ╰── Operator priority clash
───╯
```

The header names the source and the line and column where the blamed span starts. A span on
one line is underlined, with a stem at its middle that carries the message. A span over several
lines is marked in the margin from its first line to its last, the lines between them are
elided, and the message hangs below the last line. The line numbers are as wide as the largest
one shown. A tab stretches to the next multiple of four, counted in characters of its line;
every other character takes one column. The rows under a line are padded to two columns past
the end of the span.

Lines are cut at newlines only, so a carriage return belongs to the line it ends and counts
like any other character. Each line counts its characters plus one for its newline (the last
line too, whether or not one follows it), and is shown without trailing white space. A source
with no lines at all, the empty one, cannot be drawn.

The report is written in colour: the kind in red, the margin in grey, the span's marks in red,
and each character of a source line in a colour of its own, red inside the span and light grey
outside it. The messages are written plain. Since every source character is followed by the
sequence that ends its colour, an escape character in a source line never starts a control
sequence, and a screen shows the line as it is; a control sequence in a message is shown as a
screen shows it.
-/

namespace UnifyMachine.Syntax

open Text

/-- A line of the source as the layout sees it. -/
structure SourceLine where
  /-- The offset at which the line starts, counting each earlier line's length. -/
  offset : Nat
  /-- The characters of the line, plus one for its end. -/
  len : Nat
  /-- The line without trailing white space. -/
  text : List Char
deriving Inhabited

/-- The pieces of a text, each ended by a newline that it keeps, except perhaps the last; there
is no empty last piece. -/
def splitAfterNewlines (cs : List Char) : List (List Char) :=
  let step := fun (acc : List (List Char) × List Char) (c : Char) =>
    if c == '\n' then (acc.1 ++ [acc.2 ++ [c]], []) else (acc.1, acc.2 ++ [c])
  let (done, current) := cs.foldl step ([], [])
  if current.isEmpty then done else done ++ [current]

/-- A piece without its newline, and without a carriage return just before that newline. -/
def stripLineEnd (piece : List Char) : List Char :=
  match piece.reverse with
  | '\n' :: '\r' :: rest => rest.reverse
  | '\n' :: rest => rest.reverse
  | _ => piece

/-- Removes trailing white space. -/
def trimEnd (cs : List Char) : List Char :=
  (cs.reverse.dropWhile isBlank).reverse

/-- A piece without its newline. -/
def dropNewline (piece : List Char) : List Char :=
  match piece.reverse with
  | '\n' :: rest => rest.reverse
  | _ => piece

/-- The lines of a source, with their offsets. -/
def sourceLines (source : String) : List SourceLine :=
  let pieces := (splitAfterNewlines source.toList).map dropNewline
  let step := fun (acc : List SourceLine × Nat) (piece : List Char) =>
    let len := piece.length + 1
    (acc.1 ++ [⟨acc.2, len, trimEnd piece⟩], acc.2 + len)
  (pieces.foldl step ([], 0)).1

/-- The line holding an offset, its index and the column of the offset in it. An offset past
the total length of the lines is on no line; the end of the last line is on it. -/
def lineAt (lines : List SourceLine) (offset : Nat) : Option (Nat × SourceLine × Nat) :=
  if offset ≤ lines.foldl (fun total l => total + l.len) 0 then
    let idx := (lines.filter fun l => l.offset ≤ offset).length - 1
    lines[idx]?.map fun l => (idx, l, offset - l.offset)
  else none

namespace Layout

/-- The colour of the kind of report. -/
def kindColour : Colour := Colour.basicRed

/-- The colour of the span and of its marks. -/
def labelColour : Colour := Colour.basicRed

/-- The colour of the margin. -/
def marginColour : Colour := Colour.palette 246

/-- The colour of the margin on rows under a line. -/
def skippedMarginColour : Colour := Colour.palette 240

/-- The colour of source characters outside the span. -/
def unimportantColour : Colour := Colour.palette 249

/-- A cell of `w` columns in colour `c`: `first` in its first column and `tail` in each other
one. -/
def paintedCell (c : Colour) (first tail : String) (w : Nat) : String :=
  String.join ((List.range w).map fun i => paintThenReset c (if i = 0 then first else tail))

/-- `n` copies of a character. -/
def repeatChar (c : Char) (n : Nat) : String := "".pushn c n

/-- `n` spaces. -/
def spaces (n : Nat) : String := repeatChar ' ' n

/-- The number of decimal digits of `n`. -/
def digitCount (n : Nat) : Nat := (toString n).length

/-- The columns a character at index `col` of its line takes: a tab reaches the next multiple
of four, counting characters rather than columns, and any other character takes one. -/
def charWidth (c : Char) (col : Nat) : Nat := if c = '\t' then 4 - col % 4 else 1

/-- How the character at index `col` of a line is written in colour `colour`: white space as
spaces, as many as the character takes, each in the colour. -/
def showChar (colour : Colour) (c : Char) (col : Nat) : String :=
  if isBlank c then paintedCell colour " " " " (charWidth c col)
  else paintThenReset colour c.toString

/-- The columns the character at index `col` of a line takes; one past its end. -/
def columnWidth (text : List Char) (col : Nat) : Nat :=
  (text[col]?.map fun c => charWidth c col).getD 1

/-- The left margin: a line number, or a dot (a colon-like mark on an elided line). -/
def gutter (width : Nat) (lineNo : Option Nat) (elided : Bool) : String :=
  match lineNo with
  | some n =>
    " " ++ paintThenReset marginColour (spaces (width - digitCount n) ++ toString n ++ " │") ++ " "
  | none =>
    " " ++ paintThenReset skippedMarginColour (spaces (width + 1) ++ (if elided then "⋮" else "·")) ++
      " "

/-- Whether the character at index `col` of a line lies in `span`. -/
def inSpan (span : Span) (l : SourceLine) (col : Nat) : Bool :=
  decide (span.start ≤ l.offset + col ∧ l.offset + col < span.stop)

/-- A line as written, each character in its own colour. -/
def showLine (span : Span) (l : SourceLine) : String :=
  String.join <| l.text.zipIdx.map fun (c, col) =>
    showChar (if inSpan span l col then labelColour else unimportantColour) c col

/-- The row under a line that underlines `span` and puts a stem at column `stem`, over `len`
columns. -/
def underlineRow (l : SourceLine) (span : Span) (stem len : Nat) : String :=
  String.join <| (List.range len).map fun col =>
    let w := columnWidth l.text col
    let under := inSpan span l col
    if col = stem then
      if under then paintedCell labelColour "┬" "─" w else paintedCell labelColour "│" " " w
    else if under then paintedCell labelColour "─" "─" w
    else spaces w

/-- The row that turns the stem at column `stem` towards the message, over `len` columns. -/
def arrowRow (l : SourceLine) (stem len : Nat) : String :=
  String.join <| (List.range len).map fun col =>
    let w := columnWidth l.text col
    if col = stem then paintedCell labelColour "╰" "─" w
    else if stem < col then paintedCell labelColour "─" "─" w
    else spaces w

/-- The columns taken by the first `len` columns of a line. -/
def columnsWidth (l : SourceLine) (len : Nat) : Nat :=
  ((List.range len).map (columnWidth l.text)).foldl (· + ·) 0

/-- What a line is to the span. -/
inductive Role where
  /-- The span lies within this line. -/
  | inline
  /-- The span starts on this line and ends on a later one. -/
  | first
  /-- The span ends on this line and started on an earlier one. -/
  | last
  /-- The span runs over this whole line. -/
  | between
  /-- The span does not touch this line. -/
  | outside

/-- The role of a line for a span, which covers several lines when `multi`. -/
def role (span : Span) (multi : Bool) (l : SourceLine) : Role :=
  let finalOffset := max (span.stop - 1) span.start
  if !multi then
    if l.offset ≤ span.start ∧ span.stop ≤ l.offset + l.len then .inline else .outside
  else if l.offset ≤ span.start ∧ span.start < l.offset + l.len then .first
  else if l.offset ≤ finalOffset ∧ finalOffset < l.offset + l.len then .last
  else if span.start ≤ l.offset ∧ l.offset < span.stop then .between
  else .outside

/-- The rows drawn for a line of the span with index `idx`. -/
def lineRows (width : Nat) (span : Span) (message : String) (idx : Nat) (l : SourceLine) :
    Role → String
  | .inline =>
    let stem := (span.start + span.stop) / 2 - l.offset
    let len := span.stop - l.offset + 2
    gutter width (some (idx + 1)) false ++ showLine span l ++ "\n" ++
    gutter width none false ++ underlineRow l span stem len ++ "\n" ++
    gutter width none false ++ arrowRow l stem len ++ " " ++ message ++ "\n"
  | .first =>
    gutter width (some (idx + 1)) false ++ paintThenReset labelColour "╭─▶" ++ " " ++
      showLine span l ++ "\n"
  | .last =>
    let cols := columnsWidth l (l.len + 2)
    gutter width (some (idx + 1)) false ++ paintThenReset labelColour "├─▶" ++ " " ++
      showLine span l ++ "\n" ++
    gutter width none false ++ paintThenReset labelColour "│" ++ "   " ++ spaces cols ++ "\n" ++
    gutter width none false ++ paintThenReset labelColour ("╰───" ++ repeatChar '─' cols) ++ " " ++
      message ++ "\n"
  | .between => gutter width none true ++ paintThenReset labelColour "⋮" ++ "   " ++ "\n"
  | .outside => gutter width none false ++ "\n"

/-- The rows for the lines with indices `idxs`. A run of lines the span runs over, or of lines
it does not touch, is drawn once as a single elided row; `elided` says whether such a row was
just drawn. -/
def body (lines : List SourceLine) (width : Nat) (span : Span) (multi : Bool) (message : String) :
    List Nat → Bool → String
  | [], _ => ""
  | idx :: rest, elided =>
    match lines[idx]? with
    | none => body lines width span multi message rest elided
    | some l =>
      match role span multi l with
      | .between =>
        (if elided then "" else lineRows width span message idx l .between) ++
          body lines width span multi message rest true
      | .outside =>
        (if elided then "" else lineRows width span message idx l .outside) ++
          body lines width span multi message rest true
      | r => lineRows width span message idx l r ++ body lines width span multi message rest false

end Layout

open Layout in
/-- The report of `message` about `span` of the source named `id`, as written in colour, or
nothing when the source has no lines to draw. -/
def drawReport (id source message : String) (span : Span) : Option String :=
  let lines := sourceLines source
  if lines.isEmpty then none
  else
    let firstLine := (lineAt lines span.start).map (·.1)
    let lastLine := (lineAt lines (max (span.stop - 1) span.start)).map (·.1)
    let rangeStart := firstLine.getD 0
    let rangeEnd := (lastLine.map (· + 1)).getD lines.length
    let width := digitCount rangeEnd
    let location := match lineAt lines span.start with
      | some (idx, _, col) => toString (idx + 1) ++ ":" ++ toString (col + 1)
      | none => "?:?"
    some <|
      paintThenReset kindColour "Error:" ++ " " ++ message ++ "\n" ++
      spaces (width + 2) ++ paintThenReset marginColour "╭" ++ paintThenReset marginColour "─" ++
        paintThenReset marginColour "[" ++ id ++ ":" ++ location ++ paintThenReset marginColour "]" ++
        "\n" ++
      spaces (width + 2) ++ paintThenReset marginColour "│" ++ "\n" ++
      body lines width span (firstLine != lastLine) message
        (List.range' rangeStart (rangeEnd - rangeStart)) false ++
      paintThenReset marginColour (repeatChar '─' (width + 2) ++ "╯") ++ "\n"

/-- How a syntax error is reported against its source. -/
inductive Report where
  /-- The drawn report of a refusal, as written in colour. -/
  | drawn (text : String)
  /-- A report that lists the tokens that would have been accepted, in no fixed order, so that
  its text is not determined. -/
  | unordered
  /-- A refusal in a source with no lines, which cannot be drawn: drawing it stops at an index
  out of bounds. -/
  | undrawable
deriving DecidableEq, Inhabited

/-- The report of a syntax error in the source named `id`. -/
def SyntaxError.report (e : SyntaxError) (id source : String) : Report :=
  match e with
  | .rejected r =>
    match drawReport id source r.message r.span with
    | some text => .drawn text
    | none => .undrawable
  | _ => .unordered

/-- The text of a report whose text is determined, as written in colour. -/
def Report.text? : Report → Option String
  | .drawn text => some text
  | _ => none

end UnifyMachine.Syntax
