import UnifyMachine.Syntax.Resolve

/-!
# The clause grammar

A clause is a non-empty sequence of items followed by a full stop. An item is an operand (a
compound term `f(...)`, a term in round brackets, a term in braces, a list in square brackets,
a variable or a number), a bare name, a comma or a bar. The items of a clause, of a bracketed
term and of the arguments of a compound are grouped by operator priorities (`resolve`).

Alternatives are tried in order and the first that succeeds is taken. When reading fails, the
failure reported is the furthest one among those the reading passed over: a sequence that
stops keeps the failure that stopped it, and a later failure further on replaces it. A rule
that refuses what it read (a missing term, a priority clash) fails just after what it read,
and that failure replaces whatever failures were met inside it.
-/

namespace UnifyMachine.Syntax

/-- The tokens of one clause, the character offset at the end of the whole source, and the
operators in force. -/
structure TokenStream where
  tokens : Array (Token × Span)
  endOffset : Nat
  ops : OperatorTable

namespace TokenStream

/-- The number of tokens. -/
def size (s : TokenStream) : Nat := s.tokens.size

/-- The token at index `p`, if any. -/
def tokenAt? (s : TokenStream) (p : Nat) : Option Token :=
  s.tokens[p]?.map fun e => e.1

/-- Whether the token at index `p` is `t`. -/
def isAt (s : TokenStream) (p : Nat) (t : Token) : Bool :=
  s.tokenAt? p == some t

/-- The span of the token at index `p`, or the empty span at the end of the source. -/
def spanAt (s : TokenStream) (p : Nat) : Span :=
  match s.tokens[p]? with
  | some e => e.2
  | none => ⟨s.endOffset, s.endOffset⟩

/-- The source span of the tokens from index `start` up to `next`: from the start of the first
to the end of the last, or the span of the token at `start` when none was taken. -/
def spanSince (s : TokenStream) (start next : Nat) : Span :=
  ⟨(s.spanAt start).start, (s.spanAt (max (next - 1) start)).stop⟩

end TokenStream

/-- The outcome of a grammar rule started at some token index: a value, the index after it and
the furthest failure passed over on the way; or the failure. -/
inductive Parse (α : Type) where
  | ok (value : α) (next : Nat) (alt : Option Failure)
  | fail (failure : Failure)

namespace Parse

/-- The value changed by `f`. -/
def map (f : α → β) : Parse α → Parse β
  | .ok v q a => .ok (f v) q a
  | .fail e => .fail e

/-- The first rule that succeeds; if both fail, the further failure, the later one on a tie. -/
def orElse : Parse α → (Unit → Parse α) → Parse α
  | .ok v q a, _ => .ok v q a
  | .fail f, k =>
    match k () with
    | .ok v q a => .ok v q a
    | .fail g => .fail (g.furthest f)

end Parse

variable (s : TokenStream)

/-- A bare name token as an item. -/
def nameItem (p : Nat) : Parse Item :=
  match s.tokenAt? p with
  | some (.name n) => .ok (.name n (s.spanAt p)) (p + 1) none
  | _ => .fail (Failure.unexpectedAt p)

/-- A comma as an item. -/
def commaItem (p : Nat) : Parse Item :=
  match s.tokenAt? p with
  | some .comma => .ok (.comma (s.spanAt p)) (p + 1) none
  | _ => .fail (Failure.unexpectedAt p)

/-- A bar as an item. -/
def barItem (p : Nat) : Parse Item :=
  match s.tokenAt? p with
  | some .bar => .ok (.bar (s.spanAt p)) (p + 1) none
  | _ => .fail (Failure.unexpectedAt p)

/-- A variable or a number as an operand term. -/
def atomicOperand (p : Nat) : Parse Term :=
  let asVariable : Parse Term :=
    match s.tokenAt? p with
    | some (.var n) => .ok (.var n) (p + 1) none
    | _ => .fail (Failure.unexpectedAt p)
  asVariable.orElse fun _ =>
    match s.tokenAt? p with
    | some (.number d) => .ok (.number d) (p + 1) none
    | _ => .fail (Failure.unexpectedAt p)

/-- After a sequence that ended at `c` with the furthest failure `alt`, the closing token
`close`. -/
def closing (close : Token) (c : Nat) (alt : Option Failure) (value : α) : Parse α :=
  if s.isAt c close then .ok value (c + 1) alt
  else .fail ((Failure.unexpectedAt c).overOpt alt)

mutual
/-- One or more items from index `p`. -/
def items (p : Nat) : Parse (List Item) :=
  match item p with
  | .fail f => .fail f
  | .ok i q a => if p < q ∧ q ≤ s.size then itemsMore q [i] a else .ok [i] q a
termination_by (s.size - p) * 8 + 6

/-- More items from index `q` after those in `acc`; the sequence ends at the first index where no
item starts, keeping that failure. -/
def itemsMore (q : Nat) (acc : List Item) (alt : Option Failure) : Parse (List Item) :=
  match item q with
  | .ok i q' a => if q < q' ∧ q' ≤ s.size then itemsMore q' (acc ++ [i]) (mergeAlt alt a)
    else .ok (acc ++ [i]) q' (mergeAlt alt a)
  | .fail f => .ok acc q (some (f.overOpt alt))
termination_by (s.size - q) * 8 + 7

/-- One item at index `p`: an operand, a name, a comma or a bar. -/
def item (p : Nat) : Parse Item :=
  (operand p).orElse fun _ =>
  (nameItem s p).orElse fun _ =>
  (commaItem s p).orElse fun _ =>
  barItem s p
termination_by (s.size - p) * 8 + 5

/-- An operand at index `p`, with the span of its tokens. -/
def operand (p : Nat) : Parse Item :=
  let found :=
    (compound p).orElse fun _ =>
    (bracketed .openParen .closeParen p).orElse fun _ =>
    ((bracketed .openCurly .closeCurly p).map fun t => .compound Term.curlyBrackets [t]).orElse
      fun _ =>
    (list p).orElse fun _ =>
    atomicOperand s p
  match found with
  | .ok t q a => .ok (.operand t (s.spanSince p q)) q a
  | .fail f => .fail f
termination_by (s.size - p) * 8 + 4

/-- A compound term at index `p`: a functor token, the arguments if any item follows, and the
closing round bracket. Arguments that cannot be read count as absent, and their failure is kept
for the closing bracket's. -/
def compound (p : Nat) : Parse Term :=
  if _hp : p < s.size then
    match s.tokenAt? p with
    | some (.functor name) =>
      let q := p + 1
      let (args, c, alt) : Option (List Term) × Nat × Option Failure :=
        match items q with
        | .ok its r a =>
          match arguments s.ops its (s.spanSince q r) with
          | .ok ts => (some ts, r, a)
          | .error e => (none, q, some ⟨r, .rejected e⟩)
        | .fail f => (none, q, some f)
      closing s .closeParen c alt (.compound name (args.getD []))
    | _ => .fail (Failure.unexpectedAt p)
  else .fail (Failure.unexpectedAt p)
termination_by (s.size - p) * 8 + 3

/-- A term between the brackets `opening` and `close`, read at the highest priority. -/
def bracketed (opening close : Token) (p : Nat) : Parse Term :=
  if _hp : p < s.size then
    if s.isAt p opening then
      match items (p + 1) with
      | .ok its r a =>
        match resolve s.ops its maxPriority (s.spanSince (p + 1) r) with
        | .ok t => closing s close r a t
        | .error e => .fail ⟨r, .rejected e⟩
      | .fail f => .fail f
    else .fail (Failure.unexpectedAt p)
  else .fail (Failure.unexpectedAt p)
termination_by (s.size - p) * 8 + 3

/-- A list at index `p`: items between square brackets, made into list cells. -/
def list (p : Nat) : Parse Term :=
  if _hp : p < s.size then
    if s.isAt p .openList then
      match items (p + 1) with
      | .ok its r a =>
        if s.isAt r .closeList then
          match listTerm s.ops its (s.spanSince p (r + 1)) with
          | .ok t => .ok t (r + 1) a
          | .error e => .fail ⟨r + 1, .rejected e⟩
        else .fail ((Failure.unexpectedAt r).overOpt a)
      | .fail f => .fail f
    else .fail (Failure.unexpectedAt p)
  else .fail (Failure.unexpectedAt p)
termination_by (s.size - p) * 8 + 3
end

/-- The term of a whole clause: its items, resolved at the highest priority, then the full stop,
then nothing more. -/
def clause : Except Failure Term :=
  match items s 0 with
  | .fail f => .error f
  | .ok its r a =>
    match resolve s.ops its maxPriority (s.spanSince 0 r) with
    | .error e => .error ⟨r, .rejected e⟩
    | .ok t =>
      if s.isAt r .stop then
        if s.size ≤ r + 1 then .ok t else .error ((Failure.unexpectedAt (r + 1)).overOpt a)
      else .error ((Failure.unexpectedAt r).overOpt a)

end UnifyMachine.Syntax
