import UnifyMachine.Syntax.Reader

/-!
# Names that read as comments

The canonical text of a term leaves a name of symbol characters bare. Such a name can start
with `/*` and end with `*/`, and the scanner takes that text for a block comment: layout, not a
token. The text of the atom followed by a full stop then scans as a full stop alone, which is no
term. So the canonical text of such an atom does not read back as the atom.
-/

namespace UnifyMachine.Syntax

open Text

/-! ## Bare names -/

theorem not_isLowercase_of_isSymbolChar {c : Char} (hc : isSymbolChar c = true) :
    isLowercase c = false := by
  have hall : symbolChars.all (fun d => !isLowercase d) = true := by decide +kernel
  simpa using List.all_eq_true.1 hall c (by simpa [isSymbolChar] using hc)

theorem atomText_of_symbolChars {name : String} (hsym : ∀ c ∈ name.toList, isSymbolChar c = true)
    (hne : name.toList ≠ []) (hdot : name ≠ ".") : Term.atomText name = name := by
  have hcomma : name ≠ "," := by
    rintro rfl
    exact absurd (hsym ',' (by decide)) (by decide)
  obtain ⟨first, rest, hcons⟩ := List.exists_cons_of_ne_nil hne
  have hfirst : isLowercase first = false :=
    not_isLowercase_of_isSymbolChar (hsym first (by simp [hcons]))
  have hall : (first :: rest).all isSymbolChar = true := hcons ▸ List.all_eq_true.2 hsym
  have hquotes : Term.needsQuotes name = false := by
    unfold Term.needsQuotes
    rw [hcons]
    simp [hfirst, hcomma, hdot, hall]
  simp [Term.atomText, hquotes]

/-! ## Scanning a block comment -/

theorem commentEnd_append (body post : List Char) (hbody : '*' ∉ body) :
    ∀ pre : List Char,
      commentEnd (pre ++ body ++ '*' :: '/' :: post).toArray pre.length =
        some (pre.length + body.length) := by
  induction body with
  | nil =>
      intro pre
      rw [commentEnd]
      simp
  | cons c body ih =>
      intro pre
      have hc : c ≠ '*' := fun h => hbody (h ▸ List.mem_cons_self)
      have hrest := ih (fun h => hbody (List.mem_cons_of_mem _ h)) (pre ++ [c])
      rw [commentEnd]
      simp only [List.append_assoc, List.cons_append, List.nil_append, List.length_append,
        List.length_singleton] at hrest ⊢
      have hat : (pre ++ c :: (body ++ '*' :: '/' :: post)).toArray[pre.length]? = some c := by
        simp
      have hbeq : (c == '*') = false := by simpa using hc
      rw [dif_pos (by simp), hrest, Array.getElem_eq_iff.2 hat, hbeq, Bool.false_and,
        if_neg Bool.false_ne_true, List.length_cons, Nat.add_right_comm, Nat.add_assoc]

section Source

variable {src : Array Char} {p : Nat}

theorem charIs_of_end (hp : src.size ≤ p) (pred : Char → Bool) : charIs src p pred = false := by
  simp [charIs, Array.getElem?_eq_none hp]

theorem layoutPiece_of_end (hp : src.size ≤ p) : layoutPiece src p = .fail p := by
  simp [layoutPiece, charIs_of_end hp]

theorem token_of_end (hp : src.size ≤ p) : token src p = .fail p := by
  have hnone : src[p]? = none := Array.getElem?_eq_none hp
  simp [token, fullStop, number, variableName, nameToken, bareName, letterName, quotedName,
    symbolName, soloName, punctuation, charIs_of_end hp, hnone, Scan.orElse, Scan.map]

theorem layoutPiece_of_plain {c : Char} (hp : src[p]? = some c) (hblank : isBlank c = false)
    (hpercent : c ≠ '%') (hslash : c ≠ '/') : layoutPiece src p = .fail p := by
  simp [layoutPiece, charIs, hp, hblank, hpercent, hslash]

theorem layout_of_plain {c : Char} (hp : src[p]? = some c) (hblank : isBlank c = false)
    (hpercent : c ≠ '%') (hslash : c ≠ '/') (reach : Nat) :
    layout src p reach = (p, max reach p) := by
  rw [layout, layoutPiece_of_plain hp hblank hpercent hslash]

theorem tokensFrom_final_stop (hp : src[p]? = some '.') (hsize : src.size = p + 1) (reach : Nat)
    (acc : Array (Token × Span)) :
    ∃ r, tokensFrom src p reach acc = (acc.push (.stop, ⟨p, p + 1⟩), p + 1, r) := by
  have hend : src[p + 1]? = none := Array.getElem?_eq_none (by omega)
  have hfull : fullStop src p = .ok .stop (p + 1) 0 := by
    simp only [fullStop, charIs, hp, hend, beq_self_eq_true, if_true, Bool.false_eq_true,
      if_false, hsize, Nat.le_refl]
  have htoken : token src p = .ok .stop (p + 1) 0 := by
    rw [token, hfull]
    rfl
  have hafter : layout src (p + 1) 0 = (p + 1, p + 1) := by
    rw [layout, layoutPiece_of_end (by omega)]
    simp
  rw [tokensFrom, htoken]
  simp only [hafter]
  rw [if_pos (show p < p + 1 ∧ p + 1 ≤ src.size by omega), tokensFrom,
    token_of_end (by omega)]
  exact ⟨_, rfl⟩

theorem quotedBody_plain (chars post : List Char) (hplain : ∀ c ∈ chars, c ≠ '\'' ∧ c ≠ '\\')
    (next : Char) (hnext : next ≠ '\'') :
    ∀ pre acc : List Char,
      quotedBody (pre ++ chars ++ '\'' :: next :: post).toArray pre.length acc =
        (acc.reverse ++ chars, pre.length + chars.length, pre.length + chars.length + 1) := by
  induction chars with
  | nil =>
      intro pre acc
      rw [quotedBody]
      simp [quotedChar, hnext]
  | cons c chars ih =>
      intro pre acc
      obtain ⟨hq, hb⟩ := hplain c List.mem_cons_self
      have hrest := ih (fun d hd => hplain d (List.mem_cons_of_mem _ hd)) (pre ++ [c]) (c :: acc)
      simp only [List.append_assoc, List.cons_append, List.nil_append, List.length_append,
        List.length_singleton] at hrest ⊢
      rw [quotedBody]
      -- the discharger closes the character's case split with `hq` and `hb`
      have hchar : quotedChar (pre ++ c :: (chars ++ '\'' :: next :: post)).toArray pre.length =
          .ok (c, pre.length + 1) := by
        simp [quotedChar]
      rw [hchar]
      simp only
      rw [if_pos (by simp), hrest]
      simp [Nat.add_right_comm, Nat.add_assoc]

end Source

/-! ## Two sources -/

/-- The text of a name `/*…*/` whose body has no `*`, then a blank and a full stop, scans as
the full stop alone: the name is a block comment. -/
theorem scan_commentName (body : List Char) (hstar : '*' ∉ body) :
    scan ('/' :: '*' :: (body ++ ['*', '/', ' ', '.'])).toArray =
      .ok #[(.stop, ⟨body.length + 5, body.length + 6⟩)] := by
  let src := ('/' :: '*' :: (body ++ ['*', '/', ' ', '.'])).toArray
  have hsize : src.size = body.length + 6 := by simp [src]
  have hat0 : src[0]? = some '/' := by simp [src]
  have hat1 : src[1]? = some '*' := by simp [src]
  have hatBlank : src[body.length + 4]? = some ' ' := by simp [src]
  have hatStop : src[body.length + 5]? = some '.' := by simp [src]
  have hend : commentEnd src 2 = some (body.length + 2) := by
    have h := commentEnd_append body [' ', '.'] hstar ['/', '*']
    simpa [src, Nat.add_comm] using h
  have hslash : isBlank '/' = false := by decide +kernel
  have hdot : isBlank '.' = false := by decide +kernel
  have hblank : isBlank ' ' = true := by decide +kernel
  have h0 : layoutPiece src 0 = .ok () (body.length + 4) 0 := by
    simp [layoutPiece, charIs, hat0, hat1, hslash, hend]
  have h1 : layoutPiece src (body.length + 4) = .ok () (body.length + 5) 0 := by
    simp [layoutPiece, charIs, hatBlank, hblank]
  -- the comment and the blank are layout, which ends at the full stop
  have hlayout : layout src 0 0 = (body.length + 5, body.length + 5) := by
    rw [layout, h0]
    simp only
    rw [if_pos (by omega), layout, h1]
    simp only
    rw [if_pos (by omega), layout_of_plain hatStop hdot (by decide) (by decide)]
    simp
  obtain ⟨r, hrun⟩ := tokensFrom_final_stop hatStop hsize (body.length + 5) #[]
  show scan src = _
  unfold scan
  rw [hlayout]
  simp only
  rw [hrun]
  simp only
  rw [if_pos (by omega)]
  rfl

/-- A quoted name of plain characters, then a full stop, scans as the name and the full stop. -/
theorem scan_quotedName (chars : List Char) (hplain : ∀ c ∈ chars, c ≠ '\'' ∧ c ≠ '\\') :
    scan ('\'' :: (chars ++ ['\'', '.'])).toArray =
      .ok #[(.name (String.ofList chars), ⟨0, chars.length + 2⟩),
        (.stop, ⟨chars.length + 2, chars.length + 3⟩)] := by
  let src := ('\'' :: (chars ++ ['\'', '.'])).toArray
  have hsize : src.size = chars.length + 3 := by simp [src]
  have hat0 : src[0]? = some '\'' := by simp [src]
  have hatClose : src[chars.length + 1]? = some '\'' := by simp [src]
  have hatStop : src[chars.length + 2]? = some '.' := by simp [src]
  have hbody : quotedBody src 1 [] = (chars, chars.length + 1, chars.length + 2) := by
    have h := quotedBody_plain chars [] hplain '.' (by decide) ['\''] []
    simp only [List.length_singleton, List.nil_append, List.reverse_nil, List.cons_append] at h
    rw [Nat.add_comm 1 chars.length] at h
    exact h
  have hquote : isBlank '\'' = false := by decide +kernel
  have hdot : isBlank '.' = false := by decide +kernel
  have hdigit : isDigit '\'' = false := by decide +kernel
  have hvar : isVariableStart '\'' = false := by decide +kernel
  have hlower : isLowercase '\'' = false := by decide +kernel
  have hname : token src 0 =
      .ok (.name (String.ofList chars)) (chars.length + 2) (chars.length + 2) := by
    have hquoted : quotedName src 0 =
        .ok (String.ofList chars) (chars.length + 2) (chars.length + 2) := by
      simp [quotedName, charIs, hat0, hbody, hatClose]
    simp [token, fullStop, number, variableName, nameToken, bareName, letterName, charIs, hat0,
      hquoted, hatStop, hdigit, hvar, hlower, Scan.orElse, Scan.map]
  have hlayout : layout src 0 0 = (0, 0) :=
    layout_of_plain hat0 hquote (by decide) (by decide) 0
  obtain ⟨r, hrun⟩ := tokensFrom_final_stop hatStop hsize (chars.length + 2)
    (#[].push (.name (String.ofList chars), ⟨0, chars.length + 2⟩))
  show scan src = _
  unfold scan
  rw [hlayout]
  simp only
  rw [tokensFrom, hname]
  simp only [layout_of_plain hatStop hdot (by decide) (by decide), Nat.zero_max, Nat.max_self]
  rw [if_pos (show 0 < chars.length + 2 ∧ chars.length + 2 ≤ src.size by omega), hrun]
  simp only
  rw [if_pos (by omega)]
  rfl

/-! ## Reading a clause -/

section Clause

variable {s : TokenStream} {p : Nat}

theorem operand_of_plain {t : Token} (hp : s.tokenAt? p = some t)
    (ht : t = .stop ∨ ∃ n, t = .name n) : operand s p = .fail (Failure.unexpectedAt p) := by
  have hopen : ∀ o : Token, (o = .openParen ∨ o = .openCurly ∨ o = .openList) →
      s.isAt p o = false := by
    intro o ho
    rcases ht with rfl | ⟨n, rfl⟩ <;> rcases ho with rfl | rfl | rfl <;>
      simp [TokenStream.isAt, hp]
  have hcompound : compound s p = .fail (Failure.unexpectedAt p) := by
    rw [compound]
    split <;> rcases ht with rfl | ⟨n, rfl⟩ <;> simp [hp]
  have hbracketed : ∀ opening close : Token, (opening = .openParen ∨ opening = .openCurly) →
      bracketed s opening close p = .fail (Failure.unexpectedAt p) := by
    intro opening close ho
    rw [bracketed]
    split <;> simp [hopen opening (ho.imp_right .inl)]
  have hlist : list s p = .fail (Failure.unexpectedAt p) := by
    rw [list]
    split <;> simp [hopen .openList (.inr (.inr rfl))]
  rw [operand]
  rcases ht with rfl | ⟨n, rfl⟩ <;>
    simp [hcompound, hbracketed _ _ (.inl rfl), hbracketed _ _ (.inr rfl), hlist,
      atomicOperand, hp, Parse.orElse, Parse.map, Failure.furthest]

theorem item_of_stop (hp : s.tokenAt? p = some .stop) :
    item s p = .fail (Failure.unexpectedAt p) := by
  rw [item, operand_of_plain hp (.inl rfl)]
  simp [nameItem, commaItem, barItem, hp, Parse.orElse, Failure.furthest]

theorem item_of_name {n : String} (hp : s.tokenAt? p = some (.name n)) :
    item s p = .ok (.name n (s.spanAt p)) (p + 1) none := by
  rw [item, operand_of_plain hp (.inr ⟨n, rfl⟩)]
  simp [nameItem, hp, Parse.orElse]

theorem clause_of_stop (h0 : s.tokenAt? 0 = some .stop) :
    clause s = .error (Failure.unexpectedAt 0) := by
  rw [clause, items, item_of_stop h0]

theorem resolve_name {ops : OperatorTable} {n : String} {sp whole : Span} {limit : Nat}
    (hpre : ops.prefixOp n = none) : resolve ops [.name n sp] limit whole = .ok (.atom n) := by
  rw [resolve, expr, primary]
  simp only [negativeLiteral]
  rw [prefixed]
  simp only [hpre]
  rw [operators]

theorem clause_of_name {n : String} (h0 : s.tokenAt? 0 = some (.name n))
    (h1 : s.tokenAt? 1 = some .stop) (hsize : s.size = 2) (hpre : s.ops.prefixOp n = none) :
    clause s = .ok (.atom n) := by
  have hitems : items s 0 = .ok [.name n (s.spanAt 0)] 1 (some (Failure.unexpectedAt 1)) := by
    rw [items, item_of_name h0]
    simp only
    rw [if_pos (by omega), itemsMore, item_of_stop h1]
    rfl
  rw [clause, hitems]
  simp only
  rw [resolve_name hpre]
  simp [TokenStream.isAt, h1, hsize]

end Clause

theorem readTerm_of_lone_stop {ops : OperatorTable} {source : String} {sp : Span}
    (hscan : scan source.toList.toArray = .ok #[(.stop, sp)]) :
    readTerm ops source = .error .unexpectedToken := by
  have hclause : clause ⟨#[(.stop, sp)], source.toList.length, ops⟩ =
      .error (Failure.unexpectedAt 0) :=
    clause_of_stop (by simp [TokenStream.tokenAt?])
  simp [readTerm, readClauses, hscan, cutClauses, cutClauses.go, hclause]
  rfl

/-- A source that scans as a name that is no prefix operator and a full stop reads as the
atom. -/
theorem readTerm_of_name {ops : OperatorTable} {source n : String} {sp₀ sp₁ : Span}
    (hscan : scan source.toList.toArray = .ok #[(.name n, sp₀), (.stop, sp₁)])
    (hpre : ops.prefixOp n = none) : readTerm ops source = .ok (.atom n) := by
  have hclause : clause ⟨#[(.name n, sp₀), (.stop, sp₁)], source.toList.length, ops⟩ =
      .ok (.atom n) :=
    clause_of_name (by simp [TokenStream.tokenAt?]) (by simp [TokenStream.tokenAt?]) rfl hpre
  simp [readTerm, readClauses, hscan, cutClauses, cutClauses.go, hclause]
  rfl

theorem standard_prefixOp_of_commentStart {name : String} (h : name.toList.take 2 = ['/', '*']) :
    OperatorTable.standard.prefixOp name = none := by
  have hall : OperatorTable.standard.entries.all (fun e => e.1.toList.take 2 != ['/', '*']) =
      true := by
    decide +kernel
  simp only [OperatorTable.prefixOp, OperatorTable.lookup, Option.map_eq_none_iff,
    List.find?_eq_none]
  intro e he hmatch
  simp only [Bool.and_eq_true, beq_iff_eq] at hmatch
  have hne : e.1.toList.take 2 ≠ ['/', '*'] := by simpa using List.all_eq_true.1 hall e he
  exact hne (hmatch.1 ▸ h)

/-! ## An atom whose text is a comment -/

/-- An atom named `/*…*/`, its body symbol characters other than `*` and the backslash, is read
from its quoted text and written bare; but its bare text followed by a full stop is a block
comment and a full stop, and reads as no term. -/
theorem commentName_text_not_read_back (body : List Char)
    (hsym : ∀ c ∈ body, isSymbolChar c = true) (hstar : '*' ∉ body) (hbackslash : '\\' ∉ body) :
    let name := String.ofList ('/' :: '*' :: (body ++ ['*', '/']))
    readTerm OperatorTable.standard ("'" ++ name ++ "'.") = .ok (.atom name) ∧
      (Term.atom name).render = name ∧
      readTerm OperatorTable.standard ((Term.atom name).render ++ " .") =
        .error .unexpectedToken := by
  intro name
  have hsymbols : ∀ c ∈ name.toList, isSymbolChar c = true := by
    have hslash : isSymbolChar '/' = true := by decide
    have hstarSym : isSymbolChar '*' = true := by decide
    intro c hc
    simp only [name, String.toList_ofList, List.mem_cons, List.mem_append] at hc
    rcases hc with rfl | rfl | hc | rfl | rfl | hc
    all_goals first | assumption | exact hsym c hc | simp at hc
  -- no symbol character is a quote, and the body has no backslash
  have hplain : ∀ c ∈ name.toList, c ≠ '\'' ∧ c ≠ '\\' := by
    intro c hc
    refine ⟨fun h => absurd (h ▸ hsymbols c hc) (by decide), fun h => ?_⟩
    subst h
    simp [name, hbackslash] at hc
  have hdot : name ≠ "." := fun h => by
    have hlen := congrArg (fun n : String => n.toList.length) h
    simp [name] at hlen
  have hrender : (Term.atom name).render = name :=
    atomText_of_symbolChars hsymbols (by simp [name]) hdot
  have hquoted : scan ("'" ++ name ++ "'.").toList.toArray =
      .ok #[(.name name, ⟨0, name.toList.length + 2⟩),
        (.stop, ⟨name.toList.length + 2, name.toList.length + 3⟩)] := by
    simpa using scan_quotedName name.toList hplain
  refine ⟨readTerm_of_name hquoted (standard_prefixOp_of_commentStart (by simp [name])),
    hrender, ?_⟩
  rw [hrender]
  exact readTerm_of_lone_stop (by simpa [name] using scan_commentName body hstar)

/-- The atom `/**/` is read from `'/**/'.` and written `/**/`, which reads as no term. -/
theorem emptyComment_not_read_back :
    (∀ c ∈ ([] : List Char), isSymbolChar c = true) ∧ '*' ∉ ([] : List Char) ∧
      '\\' ∉ ([] : List Char) ∧
      readTerm OperatorTable.standard "'/**/'." = .ok (.atom "/**/") ∧
      (Term.atom "/**/").render = "/**/" ∧
      readTerm OperatorTable.standard ("/**/" ++ " .") = .error .unexpectedToken := by
  have hname : String.ofList ('/' :: '*' :: ([] ++ ['*', '/'])) = "/**/" := by decide
  have hquoted : "'" ++ "/**/" ++ "'." = "'/**/'." := by decide
  have h := commentName_text_not_read_back [] (by simp) (by simp) (by simp)
  simp only [hname, hquoted] at h
  obtain ⟨hread, hrender, hback⟩ := h
  exact ⟨by simp, by simp, by simp, hread, hrender, hrender ▸ hback⟩

end UnifyMachine.Syntax
