import Mathlib.Data.Rat.Cast.Order
import Mathlib.Tactic.FieldSimp
import Mathlib.Tactic.Linarith
import Mathlib.Tactic.Ring
import UnifyMachine.Term.Decimal

/-!
# Decimal numerals

A number literal is a sign, integral digits and an optional fraction. Reading one drops the
zeros at the end of the fraction, so that with digits after the point the last of them is never
zero: a number read is in lowest terms, and two literals read as the same number exactly when
they denote the same rational. Writing a number back gives a numeral of its value whose
fraction again has no zero at its end; a numeral's text gives back its sign, digits and
fraction, so two numbers are written alike exactly when they are equal. The machine compares
numbers only through these written names, which is why the three agree.
-/

namespace UnifyMachine

namespace Decimal

/-- The rational a decimal stands for, `mantissa / 10 ^ scale`. -/
def value (d : Decimal) : ℚ := d.mantissa / 10 ^ d.scale

/-- A decimal in lowest terms: with digits after the point, the mantissa does not end in zero. -/
def Canonical (d : Decimal) : Prop := d.scale = 0 ∨ ¬ (10 : ℤ) ∣ d.mantissa

theorem value_negate (d : Decimal) : d.negate.value = -d.value := by
  simp [value, negate, neg_div]

theorem Canonical.negate {d : Decimal} (hd : d.Canonical) : d.negate.Canonical := by
  rcases hd with h | h
  · exact .inl h
  · exact .inr fun h' => h (by simpa [Decimal.negate] using h')

/-- Of two decimals in lowest terms with one value, the one with more digits after the point
would have a mantissa ending in zero; so the scales agree, and then the mantissas. -/
theorem Canonical.eq_of_scale_le {d₁ d₂ : Decimal} (h₂ : d₂.Canonical)
    (hs : d₁.scale ≤ d₂.scale) (h : d₁.value = d₂.value) : d₁ = d₂ := by
  obtain ⟨m₁, s₁⟩ := d₁
  obtain ⟨m₂, s₂⟩ := d₂
  obtain ⟨k, rfl⟩ := Nat.exists_eq_add_of_le hs
  have hq : (m₂ : ℚ) = m₁ * 10 ^ k := by
    simp only [value, pow_add] at h
    field_simp at h
    linarith
  have hm : m₂ = m₁ * 10 ^ k := by exact_mod_cast hq
  cases k with
  | zero => simp_all
  | succ k =>
      -- a mantissa scaled up by a power of ten ends in zero
      have hdvd : (10 : ℤ) ∣ m₂ := ⟨m₁ * 10 ^ k, by rw [hm]; ring⟩
      rcases h₂ with h₂ | h₂
      · simp at h₂
      · exact absurd hdvd h₂

theorem Canonical.eq_of_value_eq {d₁ d₂ : Decimal} (h₁ : d₁.Canonical) (h₂ : d₂.Canonical)
    (h : d₁.value = d₂.value) : d₁ = d₂ := by
  rcases le_total d₁.scale d₂.scale with hs | hs
  · exact h₂.eq_of_scale_le hs h
  · exact (h₁.eq_of_scale_le hs h.symm).symm

/-! ## Digits -/

theorem digitsValue_eq (ds : List Char) : digitsValue ds = Nat.ofDigitChars 10 ds 0 := by
  simp only [digitsValue, Nat.ofDigitChars, Nat.mul_comm]

theorem ofDigitChars_append_zero (a b : List Char) :
    Nat.ofDigitChars 10 (a ++ b) 0 =
      10 ^ b.length * Nat.ofDigitChars 10 a 0 + Nat.ofDigitChars 10 b 0 := by
  rw [Nat.ofDigitChars_append, Nat.ofDigitChars_eq_ofDigitChars_zero]

theorem ofDigitChars_zeros_append (k : Nat) (ds : List Char) :
    Nat.ofDigitChars 10 (List.replicate k '0' ++ ds) 0 = Nat.ofDigitChars 10 ds 0 := by
  rw [Nat.ofDigitChars_append, Nat.ofDigitChars_replicate_zero, Nat.mul_zero]

theorem trimFraction_append_zeros (ds : List Char) :
    ∃ k, trimFraction ds ++ List.replicate k '0' = ds := by
  have hzeros : ds.reverse.takeWhile (fun c => c == '0') =
      List.replicate (ds.reverse.takeWhile (fun c => c == '0')).length '0' := by
    rw [List.eq_replicate_iff]
    refine ⟨rfl, fun c hc => ?_⟩
    simpa using List.all_eq_true.1 List.all_takeWhile c hc
  refine ⟨(ds.reverse.takeWhile (fun c => c == '0')).length, ?_⟩
  rw [trimFraction, ← List.reverse_replicate, ← hzeros, ← List.reverse_append,
    List.takeWhile_append_dropWhile, List.reverse_reverse]

theorem trimFraction_getLast? (ds : List Char) : (trimFraction ds).getLast? ≠ some '0' := by
  rw [trimFraction, List.getLast?_reverse]
  have hhead := List.head?_dropWhile_not (fun c => c == '0') ds.reverse
  intro h
  rw [h] at hhead
  simp at hhead

theorem mem_of_mem_trimFraction {ds : List Char} {c : Char} (hc : c ∈ trimFraction ds) : c ∈ ds := by
  obtain ⟨k, hk⟩ := trimFraction_append_zeros ds
  rw [← hk]
  exact List.mem_append_left _ hc

theorem fraction_value_trimFraction (ds : List Char) :
    (Nat.ofDigitChars 10 (trimFraction ds) 0 : ℚ) / 10 ^ (trimFraction ds).length =
      Nat.ofDigitChars 10 ds 0 / 10 ^ ds.length := by
  obtain ⟨k, hk⟩ := trimFraction_append_zeros ds
  generalize trimFraction ds = t at hk
  subst hk
  rw [Nat.ofDigitChars_append, Nat.ofDigitChars_replicate_zero, List.length_append,
    List.length_replicate, pow_add]
  push_cast
  field_simp

theorem value_ofDigits (integral fractional : List Char) :
    (ofDigits integral fractional).value =
      Nat.ofDigitChars 10 integral 0 + Nat.ofDigitChars 10 fractional 0 / 10 ^ fractional.length := by
  rw [← fraction_value_trimFraction, value, ofDigits]
  dsimp only
  rw [digitsValue_eq, ofDigitChars_append_zero]
  push_cast
  field_simp

theorem not_ten_dvd_of_last_digit (a : List Char) {c : Char} (hc : c.isDigit) (h0 : c ≠ '0') :
    ¬ (10 : ℤ) ∣ (Nat.ofDigitChars 10 (a ++ [c]) 0 : ℕ) := by
  have hbounds := Char.isDigit_iff_toNat.1 hc
  have hne : c.toNat ≠ '0'.toNat := fun h => h0 (Char.toNat_inj.1 h)
  simp only [Char.reduceToNat] at hbounds hne
  rw [ofDigitChars_append_zero]
  simp only [List.length_singleton, pow_one, Nat.ofDigitChars_cons, Nat.ofDigitChars_nil,
    Char.reduceToNat]
  omega

theorem ofDigits_canonical (integral : List Char) {fractional : List Char}
    (hf : ∀ c ∈ fractional, c.isDigit) : (ofDigits integral fractional).Canonical := by
  unfold ofDigits
  dsimp only
  rcases List.eq_nil_or_concat (trimFraction fractional) with ht | ⟨t, c, ht⟩
  · exact .inl (by simp [ht])
  · right
    have hlast := trimFraction_getLast? fractional
    rw [ht, List.concat_eq_append, List.getLast?_concat] at hlast
    have hc : c.isDigit := hf c (mem_of_mem_trimFraction (by simp [ht]))
    rw [ht, List.concat_eq_append, digitsValue_eq, ← List.append_assoc]
    exact not_ten_dvd_of_last_digit _ hc (fun h => hlast (by rw [h]))

/-! ## Written numbers -/

theorem render_toList_of_scale_zero {d : Decimal} (hs : d.scale = 0) :
    d.render.toList =
      (if d.mantissa < 0 then ['-'] else []) ++ Nat.toDigits 10 d.mantissa.natAbs := by
  rw [render, if_pos hs, Int.toString_eq_repr, Int.repr_eq_if]
  by_cases hm : d.mantissa < 0
  · rw [if_neg (by omega), if_pos hm]
    simp [Nat.toList_repr, show (-d.mantissa).toNat = d.mantissa.natAbs by omega]
  · rw [if_pos (by omega), if_neg hm]
    simp [Nat.toList_repr, show d.mantissa.toNat = d.mantissa.natAbs by omega]

theorem render_toList_of_scale_ne_zero {d : Decimal} (hs : d.scale ≠ 0) :
    d.render.toList =
      (if d.mantissa < 0 then ['-'] else []) ++
        d.paddedDigits.take (d.paddedDigits.length - d.scale) ++
          '.' :: d.paddedDigits.drop (d.paddedDigits.length - d.scale) := by
  rw [render, if_neg hs]
  by_cases hm : d.mantissa < 0 <;> simp [hm]

theorem length_paddedDigits (d : Decimal) : d.scale + 1 ≤ d.paddedDigits.length := by
  simp only [paddedDigits, List.length_append, List.length_replicate]
  omega

theorem paddedDigits_value (d : Decimal) :
    Nat.ofDigitChars 10 d.paddedDigits 0 = d.mantissa.natAbs := by
  rw [paddedDigits, ofDigitChars_zeros_append, Nat.ofDigitChars_ten_toDigits]

theorem isDigit_of_mem_paddedDigits {d : Decimal} {c : Char} (hc : c ∈ d.paddedDigits) :
    c.isDigit := by
  rcases List.mem_append.1 hc with hz | hd
  · rw [List.eq_of_mem_replicate hz]
    decide
  · exact Nat.isDigit_of_mem_toDigits (by decide) (by decide) hd

theorem toDigits_getLast? (n : Nat) :
    (Nat.toDigits 10 n).getLast? = some (Nat.digitChar (n % 10)) := by
  rw [Nat.toDigits_eq_if (by decide)]
  split
  · simp [Nat.mod_eq_of_lt ‹n < 10›]
  · simp

theorem paddedDigits_getLast? (d : Decimal) :
    d.paddedDigits.getLast? = some (Nat.digitChar (d.mantissa.natAbs % 10)) := by
  rw [paddedDigits, List.getLast?_append, toDigits_getLast?]
  rfl

theorem digitChar_ne_zero {n : Nat} (hn : n < 10) (h0 : n ≠ 0) : Nat.digitChar n ≠ '0' := by
  intro h
  have := Nat.toNat_digitChar_sub_48_of_lt_ten hn
  rw [h] at this
  exact h0 (by simpa using this.symm)

end Decimal

/-! ## Literals and numerals -/

/-- A signed decimal literal: a sign, integral digits, and fractional digits, empty when the
literal has no point. -/
structure Literal where
  negative : Bool
  integral : List Char
  fraction : List Char
  integral_ne_nil : integral ≠ []
  integral_digits : ∀ c ∈ integral, c.isDigit
  fraction_digits : ∀ c ∈ fraction, c.isDigit

namespace Literal

/-- The rational a literal denotes. -/
def value (L : Literal) : ℚ :=
  (if L.negative then -1 else 1) *
    (Nat.ofDigitChars 10 L.integral 0 + Nat.ofDigitChars 10 L.fraction 0 / 10 ^ L.fraction.length)

/-- The number read from a literal: the number of its digits, negated when its sign is minus. -/
def read (L : Literal) : Decimal :=
  if L.negative then (Decimal.ofDigits L.integral L.fraction).negate
  else Decimal.ofDigits L.integral L.fraction

/-- The text of a literal: a minus when negative, the integral digits, and, when there is a
fraction, a point and the fractional digits. -/
def text (L : Literal) : List Char :=
  (if L.negative then ['-'] else []) ++ L.integral ++
    (if L.fraction = [] then [] else '.' :: L.fraction)

/-- A numeral is a literal whose fraction does not end in zero. -/
def IsNumeral (L : Literal) : Prop := L.fraction.getLast? ≠ some '0'

theorem value_read (L : Literal) : L.read.value = L.value := by
  unfold read value
  split <;> simp [Decimal.value_negate, Decimal.value_ofDigits, *]

theorem read_canonical (L : Literal) : L.read.Canonical := by
  unfold read
  split
  · exact (Decimal.ofDigits_canonical _ L.fraction_digits).negate
  · exact Decimal.ofDigits_canonical _ L.fraction_digits

theorem digits_append_inj {a₁ a₂ r₁ r₂ : List Char} (ha₁ : ∀ c ∈ a₁, c.isDigit)
    (ha₂ : ∀ c ∈ a₂, c.isDigit) (hr₁ : ∀ c ∈ r₁.head?, ¬ c.isDigit)
    (hr₂ : ∀ c ∈ r₂.head?, ¬ c.isDigit) (h : a₁ ++ r₁ = a₂ ++ r₂) : a₁ = a₂ ∧ r₁ = r₂ := by
  induction a₁ generalizing a₂ with
  | nil =>
      cases a₂ with
      | nil => exact ⟨rfl, h⟩
      | cons c a₂ =>
          subst h
          exact absurd (ha₂ c (by simp)) (hr₁ c (by simp))
  | cons c a₁ ih =>
      cases a₂ with
      | nil =>
          subst h
          exact absurd (ha₁ c (by simp)) (hr₂ c (by simp))
      | cons c' a₂ =>
          simp only [List.cons_append, List.cons.injEq] at h
          obtain ⟨rfl, h⟩ := h
          obtain ⟨rfl, rfl⟩ := ih (fun d hd => ha₁ d (List.mem_cons_of_mem c hd))
            (fun d hd => ha₂ d (List.mem_cons_of_mem c hd)) h
          exact ⟨rfl, rfl⟩

theorem head_fractionPart (f : List Char) :
    ∀ c ∈ (if f = [] then [] else '.' :: f).head?, ¬ c.isDigit := by
  split <;> simp

/-- A literal's text gives back the literal: its sign from the first character, its integral
digits as the digits up to the point, and its fraction after the point. -/
theorem text_injective {L₁ L₂ : Literal} (h : L₁.text = L₂.text) : L₁ = L₂ := by
  obtain ⟨n₁, i₁, f₁, hi₁, hdi₁, hdf₁⟩ := L₁
  obtain ⟨n₂, i₂, f₂, hi₂, hdi₂, hdf₂⟩ := L₂
  obtain ⟨c₁, i₁, rfl⟩ := List.exists_cons_of_ne_nil hi₁
  obtain ⟨c₂, i₂, rfl⟩ := List.exists_cons_of_ne_nil hi₂
  have hc₁ := hdi₁ c₁ (by simp)
  have hc₂ := hdi₂ c₂ (by simp)
  -- the sign: a text starts with a minus or with a digit
  have hhead := congrArg List.head? h
  have hsign : n₁ = n₂ := by
    cases n₁ <;> cases n₂
    case false.true =>
      simp only [text] at hhead
      cases hhead
      exact absurd hc₁ (by decide)
    case true.false =>
      simp only [text] at hhead
      cases hhead
      exact absurd hc₂ (by decide)
    all_goals rfl
  subst hsign
  have hrest : (c₁ :: i₁) ++ (if f₁ = [] then [] else '.' :: f₁) =
      (c₂ :: i₂) ++ (if f₂ = [] then [] else '.' :: f₂) := by
    cases n₁ <;> simpa [text] using h
  obtain ⟨hi, hf⟩ := digits_append_inj hdi₁ hdi₂ (head_fractionPart f₁) (head_fractionPart f₂) hrest
  obtain ⟨rfl, rfl⟩ := List.cons.inj hi
  have : f₁ = f₂ := by
    split at hf <;> split at hf <;> simp_all
  subst this
  rfl

theorem signed_natAbs (z : ℤ) : ((if z < 0 then -1 else 1) * (z.natAbs : ℚ)) = z := by
  split
  · rw [Nat.cast_natAbs, abs_of_neg (by exact_mod_cast ‹z < 0›)]
    push_cast
    ring
  · rw [Nat.cast_natAbs, abs_of_nonneg (by exact_mod_cast (not_lt.1 ‹¬z < 0›))]
    simp

/-- Every decimal in lowest terms is written as a numeral of its value. -/
theorem render_numeral {d : Decimal} (hd : d.Canonical) :
    ∃ N : Literal, N.IsNumeral ∧ d.render.toList = N.text ∧ N.value = d.value := by
  have hsign := signed_natAbs d.mantissa
  by_cases hs : d.scale = 0
  · -- a whole number: its digits and no fraction
    refine ⟨⟨d.mantissa < 0, Nat.toDigits 10 d.mantissa.natAbs, [], Nat.toDigits_ne_nil,
      fun c hc => Nat.isDigit_of_mem_toDigits (by decide) (by decide) hc, by simp⟩,
      by simp [IsNumeral], ?_, ?_⟩
    · rw [Decimal.render_toList_of_scale_zero hs]
      simp [text]
    · simp only [value, Nat.ofDigitChars_ten_toDigits, Nat.ofDigitChars_nil, List.length_nil,
        pow_zero, Nat.cast_zero, add_zero, decide_eq_true_eq, Decimal.value, hs,
        div_one]
      exact hsign
  · -- the padded digits split before the last `scale` of them
    have hm : ¬ (10 : ℤ) ∣ d.mantissa := hd.resolve_left hs
    rw [Decimal.render_toList_of_scale_ne_zero hs]
    have hlen := d.length_paddedDigits
    have hdigits : ∀ c ∈ d.paddedDigits, c.isDigit := fun c hc =>
      Decimal.isDigit_of_mem_paddedDigits hc
    have hplast := d.paddedDigits_getLast?
    have hpvalue := d.paddedDigits_value
    generalize d.paddedDigits = p at hlen hdigits hplast hpvalue
    set cut := p.length - d.scale
    have hfrac : (p.drop cut).length = d.scale := by simp [cut]; omega
    have hfrac_ne : p.drop cut ≠ [] := by
      rw [← List.length_pos_iff, hfrac]
      omega
    have hint_ne : p.take cut ≠ [] := by
      rw [← List.length_pos_iff, List.length_take]
      omega
    have hlast : (p.drop cut).getLast? ≠ some '0' := by
      rw [List.getLast?_drop, if_neg (by omega), hplast]
      intro h
      exact Decimal.digitChar_ne_zero (Nat.mod_lt _ (by decide)) (by omega) (Option.some.inj h)
    refine ⟨⟨d.mantissa < 0, p.take cut, p.drop cut, hint_ne,
      fun c hc => hdigits c (List.mem_of_mem_take hc),
      fun c hc => hdigits c (List.mem_of_mem_drop hc)⟩, hlast, by simp [text, hfrac_ne], ?_⟩
    -- the magnitude is the integral digits shifted past the fraction, plus the fraction
    have hsplit := Decimal.ofDigitChars_append_zero (p.take cut) (p.drop cut)
    rw [List.take_append_drop, hpvalue, hfrac] at hsplit
    have hcast : (d.mantissa.natAbs : ℚ) =
        10 ^ d.scale * Nat.ofDigitChars 10 (p.take cut) 0 + Nat.ofDigitChars 10 (p.drop cut) 0 := by
      exact_mod_cast hsplit
    simp only [value, decide_eq_true_eq, hfrac, Decimal.value]
    rw [← hsign, hcast]
    field_simp

/-- Reading literals: two literals read as equal numbers exactly when they denote the same
rational, and exactly when the numbers read are written alike; and each number read is written
as a numeral of its value, an optional minus, integral digits, and an optional point followed by
a fraction that does not end in zero. -/
theorem read_eq_iff_value_eq_iff_render_eq (L₁ L₂ : Literal) :
    (L₁.read = L₂.read ↔ L₁.value = L₂.value) ∧
      (L₁.value = L₂.value ↔ L₁.read.render = L₂.read.render) ∧
      ∃ N : Literal, N.IsNumeral ∧ L₁.read.render.toList = N.text ∧ N.value = L₁.read.value := by
  have hread : L₁.read = L₂.read ↔ L₁.value = L₂.value := by
    refine ⟨fun h => by rw [← value_read, h, value_read], fun h => ?_⟩
    apply L₁.read_canonical.eq_of_value_eq L₂.read_canonical
    rw [value_read, value_read, h]
  refine ⟨hread, ⟨fun h => by rw [hread.2 h], fun h => ?_⟩, render_numeral L₁.read_canonical⟩
  -- equal texts are one numeral, of one value
  obtain ⟨N₁, -, ht₁, hv₁⟩ := render_numeral L₁.read_canonical
  obtain ⟨N₂, -, ht₂, hv₂⟩ := render_numeral L₂.read_canonical
  have hN : N₁ = N₂ := text_injective (by rw [← ht₁, ← ht₂, h])
  rw [← value_read, ← value_read, ← hv₁, ← hv₂, hN]

example : Decimal.ofDigits ['2'] ['5', '0'] = Decimal.ofDigits ['2'] ['5'] ∧
    (Decimal.ofDigits ['0'] ['0', '5']).negate.render = "-0.05" := by
  decide

end Literal

end UnifyMachine
