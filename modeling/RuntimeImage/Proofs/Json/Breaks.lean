import RuntimeImage.Proofs.Json.Tokens

/-!
No token reaches over a line break. What a scanner finds in front of a break depends neither on
what the break is nor on what follows it, and what belongs to a token ends in front of the break. A
number or a word is even read as if the text ended there; a text is not, since a break inside one is
an error of its own.
-/

namespace RuntimeImage.Json.Token

/-- A character that ends a line, or is one half of what does. -/
def IsBreak (c : Char) : Prop := c = '\n' ∨ c = '\r'

instance : DecidablePred IsBreak := fun _ => inferInstanceAs (Decidable (_ ∨ _))

variable {b b' c : Char} {a r r' whole : List Char} {token : Token} {n k offset : Nat}
  {negative : Bool}

/-! ## Numbers and words -/

theorem not_isDigit_of_isBreak (hb : IsBreak b) : b.isDigit = false := by
  rcases hb with rfl | rfl <;> rfl

theorem digits_append_break (hb : IsBreak b) : digits (a ++ b :: r) = digits a := by
  induction a with
  | nil => exact List.takeWhile_cons_of_neg (by simp [not_isDigit_of_isBreak hb])
  | cons c a ih =>
    simp only [digits, List.cons_append, List.takeWhile_cons] at ih ⊢
    rw [ih]

theorem length_digits_le (a : List Char) : (digits a).length ≤ a.length :=
  (List.takeWhile_prefix _).length_le

theorem fraction_append_break (hb : IsBreak b) : fraction (a ++ b :: r) = fraction a := by
  cases a with
  | nil => rcases hb with rfl | rfl <;> rfl
  | cons c a =>
    by_cases hc : c = '.'
    · subst hc
      exact digits_append_break hb
    · simp [fraction, hc]

/-- The point takes one more character than the digits behind it. -/
theorem length_fraction_lt (hf : fraction a ≠ []) : (fraction a).length < a.length := by
  unfold fraction at hf ⊢
  split
  · next rest => exact Nat.lt_succ_of_le (length_digits_le rest)
  · next h =>
    split at hf
    · exact absurd rfl (h _)
    · exact absurd rfl hf

theorem exponent_append_break (hb : IsBreak b) : exponent (a ++ b :: r) = exponent a := by
  rcases a with _ | ⟨e, _ | ⟨sign, more⟩⟩
  · rcases hb with rfl | rfl <;> rfl
  · rcases hb with rfl | rfl <;> simp [exponent, digits, Char.isDigit]
  -- A sign is part of the exponent, so the digits start one character later behind it.
  · have hmore : digits (more ++ b :: r) = digits more := digits_append_break hb
    have hrest : digits (sign :: (more ++ b :: r)) = digits (sign :: more) :=
      digits_append_break (a := sign :: more) hb
    by_cases hplus : sign = '+'
    · subst hplus
      simp only [exponent, List.cons_append, hmore]
    · by_cases hminus : sign = '-'
      · subst hminus
        simp only [exponent, List.cons_append, hmore]
      · simp [exponent, hplus, hminus, hrest]

/-- An exponent is its mark, its sign if it has one, and its digits. -/
theorem exponent_length_le (a : List Char) : (exponent a).2.2 ≤ a.length := by
  have hpart : ∀ (ds cs : List Char) (m : Nat), ds.length + m ≤ cs.length →
      (if ds = [] then 0 else ds.length + m) ≤ cs.length := by
    intro ds cs m hle
    split
    · exact Nat.zero_le _
    · exact hle
  unfold exponent
  split
  · next e rest =>
    split
    · split
      · next more => exact hpart _ _ 2 (by simpa using length_digits_le more)
      · next more => exact hpart _ _ 2 (by simpa using length_digits_le more)
      · exact hpart _ _ 1 (by simpa using length_digits_le rest)
    · exact Nat.zero_le _
  · exact Nat.zero_le _

/-- The digits in front of a fraction: one zero, or all that there are. -/
def wholePart (cs : List Char) : List Char :=
  match cs with
  | '0' :: _ => ['0']
  | _ => digits cs

/-- The length of a fraction with its point. -/
def fracLength (cs : List Char) : Nat := if fraction cs = [] then 0 else (fraction cs).length + 1

/-- What is made of a number whose whole part is known, from what follows that. -/
def numberAfter (negative : Bool) (whole after : List Char) : Option (Token × Nat) :=
  if whole = [] then none
  else
    let frac := fraction after
    let (down, exp, expLength) := exponent (after.drop (fracLength after))
    let length := whole.length + fracLength after + expLength
    if fracLength after + expLength = 0 then
      if Integer.maxDigits < whole.length then some (longInt whole.length, length)
      else some (int (if negative then -(natOf whole : Int) else natOf whole), length)
    else
      let e : Int := if down then -(natOf exp : Int) else natOf exp
      some (real (Binary64.ofDecimal negative (natOf (whole ++ frac)) (e - frac.length)), length)

theorem readNumber_eq (negative : Bool) (cs : List Char) :
    readNumber negative cs =
      numberAfter negative (wholePart cs) (cs.drop (wholePart cs).length) := rfl

theorem wholePart_append_break (hb : IsBreak b) : wholePart (a ++ b :: r) = wholePart a := by
  cases a with
  | nil => rcases hb with rfl | rfl <;> rfl
  | cons c a =>
    by_cases hc : c = '0'
    · subst hc
      rfl
    · have hdigits : digits (c :: (a ++ b :: r)) = digits (c :: a) :=
        digits_append_break (a := c :: a) hb
      simp [wholePart, hc, hdigits]

theorem length_wholePart_le (a : List Char) : (wholePart a).length ≤ a.length := by
  unfold wholePart
  split
  · simp
  · exact length_digits_le a

theorem fracLength_append_break (hb : IsBreak b) : fracLength (a ++ b :: r) = fracLength a := by
  rw [fracLength, fracLength, fraction_append_break hb]

theorem fracLength_le (a : List Char) : fracLength a ≤ a.length := by
  unfold fracLength
  split
  · exact Nat.zero_le _
  · next hf => exact length_fraction_lt hf

theorem numberAfter_append_break (hb : IsBreak b) :
    numberAfter negative whole (a ++ b :: r) = numberAfter negative whole a := by
  have hdrop : (a ++ b :: r).drop (fracLength a) = a.drop (fracLength a) ++ b :: r :=
    List.drop_append_of_le_length (fracLength_le a)
  simp only [numberAfter, fraction_append_break hb, fracLength_append_break hb, hdrop,
    exponent_append_break hb]

theorem length_of_numberAfter (h : numberAfter negative whole a = some (token, n)) :
    n ≤ whole.length + a.length := by
  have hfrac := fracLength_le a
  have hexp := exponent_length_le (a.drop (fracLength a))
  rw [List.length_drop] at hexp
  have hn : n = whole.length + fracLength a + (exponent (a.drop (fracLength a))).2.2 := by
    unfold numberAfter at h
    split at h
    · cases h
    · dsimp only at h
      split at h
      · split at h
        all_goals exact (Prod.mk.inj (Option.some.inj h)).2.symm
      · exact (Prod.mk.inj (Option.some.inj h)).2.symm
  omega

theorem readNumber_append_break (hb : IsBreak b) :
    readNumber negative (a ++ b :: r) = readNumber negative a := by
  rw [readNumber_eq, readNumber_eq, wholePart_append_break hb,
    List.drop_append_of_le_length (length_wholePart_le a), numberAfter_append_break hb]

/-- A number ends where the text does, at the latest. -/
theorem length_of_readNumber (h : readNumber negative a = some (token, n)) : n ≤ a.length := by
  rw [readNumber_eq] at h
  have hwhole := length_wholePart_le a
  have hlen := length_of_numberAfter h
  rw [List.length_drop] at hlen
  omega

theorem not_isAlpha_of_isBreak (hb : IsBreak b) : b.isAlpha = false := by
  rcases hb with rfl | rfl <;> rfl

theorem isPrefixOf_append_break {w : List Char} (hw : w.all Char.isAlpha) (hb : IsBreak b) :
    w.isPrefixOf (a ++ b :: r) = w.isPrefixOf a := by
  induction w generalizing a with
  | nil => simp
  | cons c w ih =>
    obtain ⟨hc, hrest⟩ : c.isAlpha ∧ w.all Char.isAlpha := by
      rwa [List.all_cons, Bool.and_eq_true] at hw
    cases a with
    | nil =>
      have hne : c ≠ b := by
        rintro rfl
        rw [not_isAlpha_of_isBreak hb] at hc
        cases hc
      rw [List.nil_append, List.isPrefixOf_cons_cons, beq_false_of_ne hne]
      rfl
    | cons d a =>
      rw [List.cons_append, List.isPrefixOf_cons_cons, List.isPrefixOf_cons_cons, ih hrest]

theorem word?_append_break {w : String} (hw : w.toList.all Char.isAlpha) (hb : IsBreak b) :
    word? w token (a ++ b :: r) = word? w token a := by
  rw [word?, word?, isPrefixOf_append_break hw hb]

theorem length_of_word? {w : String} {t : Token} (h : word? w t a = some (token, n)) :
    n ≤ a.length := by
  unfold word? at h
  split at h
  · next hp =>
    cases h
    rw [← String.length_toList]
    exact (List.isPrefixOf_iff_prefix.mp hp).length_le
  · cases h

/-! ## Texts -/

theorem value?_of_isBreak (hb : IsBreak b) : Hex.value? b = none := by
  rcases hb with rfl | rfl <;> rfl

/-- Each of the four characters has to be a digit. -/
theorem hex4?_eq_none {cs : List Char} (hmem : c ∈ cs.take 4) (hc : Hex.value? c = none) :
    hex4? cs = none := by
  unfold hex4?
  split
  · next x y z w _ _ =>
    have hcases : c = x ∨ c = y ∨ c = z ∨ c = w := by simpa using hmem
    cases hx : Hex.value? x with
    | none => rfl
    | some i =>
      cases hy : Hex.value? y with
      | none => rfl
      | some j =>
        cases hz : Hex.value? z with
        | none => rfl
        | some k =>
          cases hw : Hex.value? w with
          | none => rfl
          | some l => rcases hcases with rfl | rfl | rfl | rfl <;> simp_all
  · rfl

/-- Four digits are read where there are four characters in front of the break. -/
theorem le_length_of_hex4? (hb : IsBreak b) (h : hex4? (a ++ b :: r) = some n) :
    4 ≤ a.length := by
  refine Nat.le_of_not_lt fun hlt => ?_
  -- With fewer of them the break itself would have to be a digit.
  have hmem : b ∈ (a ++ b :: r).take 4 := by
    have hsplit : (a ++ b :: r).take 4 = a ++ (b :: r).take (4 - a.length) := by
      rw [List.take_append, List.take_of_length_le (Nat.le_of_lt hlt)]
    obtain ⟨m, hm⟩ : ∃ m, 4 - a.length = m + 1 := ⟨3 - a.length, by omega⟩
    rw [hsplit, hm, List.take_succ_cons]
    exact List.mem_append_right _ List.mem_cons_self
  rw [hex4?_eq_none hmem (value?_of_isBreak hb)] at h
  cases h

theorem hex4?_append_break (hb : IsBreak b) (hb' : IsBreak b') :
    hex4? (a ++ b :: r) = hex4? (a ++ b' :: r') := by
  by_cases hlen : 4 ≤ a.length
  · match a, hlen with
    | [_, _, _, _], _ => rfl
    | _ :: _ :: _ :: _ :: _ :: _, _ => rfl
  · have hnone : ∀ {b : Char} {r : List Char}, IsBreak b → hex4? (a ++ b :: r) = none := by
      intro b r hb
      cases h : hex4? (a ++ b :: r) with
      | none => rfl
      | some n => exact absurd (le_length_of_hex4? hb h) hlen
    rw [hnone hb, hnone hb']

theorem lowSurrogate?_cons_cons (x y : Char) (rest : List Char) :
    lowSurrogate? (x :: y :: rest) =
      if x = '\\' ∧ y = 'u' then (hex4? rest).filter (fun n => 0xDC00 ≤ n ∧ n < 0xE000)
      else none := by
  split
  · next h =>
    obtain ⟨rfl, rfl⟩ := h
    rfl
  · next h =>
    unfold lowSurrogate?
    split
    · next heq =>
      obtain ⟨hx, hy, -⟩ : x = '\\' ∧ y = 'u' ∧ rest = _ := by simpa using heq
      exact absurd ⟨hx, hy⟩ h
    · rfl

theorem lowSurrogate?_append_break (hb : IsBreak b) (hb' : IsBreak b') :
    lowSurrogate? (a ++ b :: r) = lowSurrogate? (a ++ b' :: r') := by
  rcases a with _ | ⟨x, _ | ⟨y, a⟩⟩
  · rcases hb with rfl | rfl <;> rcases hb' with rfl | rfl <;> rfl
  · rcases hb with rfl | rfl <;> rcases hb' with rfl | rfl <;> simp [lowSurrogate?]
  · have hdigits : hex4? (a ++ b :: r) = hex4? (a ++ b' :: r') := hex4?_append_break hb hb'
    simp only [List.cons_append, lowSurrogate?_cons_cons, hdigits]

theorem le_length_of_lowSurrogate? (hb : IsBreak b) (h : lowSurrogate? (a ++ b :: r) = some n) :
    6 ≤ a.length := by
  rcases a with _ | ⟨x, _ | ⟨y, a⟩⟩
  · rcases hb with rfl | rfl <;> cases h
  · rcases hb with rfl | rfl <;> simp [lowSurrogate?] at h
  · rw [List.cons_append, List.cons_append, lowSurrogate?_cons_cons] at h
    split at h
    · have hlen := le_length_of_hex4? hb (Option.filter_eq_some_iff.mp h).1
      simp only [List.length_cons]
      omega
    · cases h

theorem textStep_plain (hc : c ≠ '\\') (rest : List Char) :
    textStep c rest = if c.toNat < 0x20 then .error .controlCharacter else .ok (c, 0) := by
  simp only [textStep, if_pos hc]

theorem textStep_unit (rest : List Char) :
    textStep '\\' ('u' :: rest) =
      match hex4? rest with
      | none => .error .badUnicodeEscape
      | some n =>
        match if 0xD800 ≤ n ∧ n < 0xDC00 then lowSurrogate? (rest.drop 4) else none with
        | some low => .ok (joined n low, 11)
        | none => .ok (charOf n, 5) := rfl

theorem textStep_short {e : Char} (he : e ≠ 'u') (rest : List Char) :
    textStep '\\' (e :: rest) =
      match shortEscape? e with
      | some c => .ok (c, 1)
      | none => .error .badEscape := by
  have hcontrol : ¬ '\\'.toNat < 0x20 := by decide
  cases hshort : shortEscape? e <;>
    simp only [textStep, if_neg hcontrol, ne_eq, not_true_eq_false, if_false, hshort]

theorem textStep_break (hb : IsBreak b) : textStep '\\' (b :: r) = .error .badEscape := by
  rcases hb with rfl | rfl <;> rfl

/-- A step of a text is the same for every break behind it. -/
theorem textStep_append_break (hb : IsBreak b) (hb' : IsBreak b') :
    textStep c (a ++ b :: r) = textStep c (a ++ b' :: r') := by
  by_cases hc : c = '\\'
  · subst hc
    cases a with
    | nil => rw [List.nil_append, List.nil_append, textStep_break hb, textStep_break hb']
    | cons e a =>
      by_cases he : e = 'u'
      · subst he
        have hdigits : hex4? (a ++ b' :: r') = hex4? (a ++ b :: r) := hex4?_append_break hb' hb
        simp only [List.cons_append, textStep_unit, hdigits]
        cases hn : hex4? (a ++ b :: r) with
        | none => rfl
        | some n =>
          -- The low half is looked for behind the four digits, still in front of the break.
          have hlen := le_length_of_hex4? hb hn
          rw [List.drop_append_of_le_length hlen, List.drop_append_of_le_length hlen,
            lowSurrogate?_append_break hb hb']
      · rw [List.cons_append, List.cons_append, textStep_short he, textStep_short he]
  · rw [textStep_plain hc, textStep_plain hc]

/-- What a step takes stands in front of the break. -/
theorem length_of_textStep {d : Char} (hb : IsBreak b)
    (h : textStep c (a ++ b :: r) = .ok (d, n)) : n ≤ a.length := by
  by_cases hc : c = '\\'
  · subst hc
    cases a with
    | nil =>
      rw [List.nil_append, textStep_break hb] at h
      cases h
    | cons e a =>
      by_cases he : e = 'u'
      · subst he
        rw [List.cons_append, textStep_unit] at h
        cases hn : hex4? (a ++ b :: r) with
        | none =>
          rw [hn] at h
          cases h
        | some m =>
          have hlen := le_length_of_hex4? hb hn
          simp only [hn, List.drop_append_of_le_length hlen] at h
          split at h
          · next low hlow =>
            -- A second escape was read too, and it takes six more characters.
            have hpair : lowSurrogate? (a.drop 4 ++ b :: r) = some low := by
              split at hlow
              · exact hlow
              · cases hlow
            have hsix := le_length_of_lowSurrogate? hb hpair
            have hn : 11 = n := (Prod.mk.inj (Except.ok.inj h)).2
            rw [List.length_drop] at hsix
            simp only [List.length_cons]
            omega
          · have hn : 5 = n := (Prod.mk.inj (Except.ok.inj h)).2
            simp only [List.length_cons]
            omega
      · rw [List.cons_append, textStep_short he] at h
        split at h
        · cases h
          exact Nat.succ_le_succ (Nat.zero_le _)
        · cases h
  · rw [textStep_plain hc] at h
    split at h
    · cases h
    · cases h
      exact Nat.zero_le _

theorem not_quote_of_isBreak (hb : IsBreak b) : b ≠ '\x22' := by
  rcases hb with rfl | rfl <;> decide

/-- A break inside a text is refused where it stands. -/
theorem readText_break (hb : IsBreak b) :
    readText offset 0 (b :: r) = .error (.controlCharacter, offset) := by
  have hs : textStep b r = .error .controlCharacter := by rcases hb with rfl | rfl <;> rfl
  simp only [readText, if_neg (not_quote_of_isBreak hb), hs]

/-- Up to the first break, a text is read without a look at what the break is. -/
theorem readText_append_break (hb : IsBreak b) (hb' : IsBreak b') {k : Nat} (hk : k ≤ a.length) :
    readText offset k (a ++ b :: r) = readText offset k (a ++ b' :: r') := by
  -- Along what stands in front of the break; characters that are skipped stand there too.
  induction a generalizing offset k with
  | nil =>
    obtain rfl : k = 0 := Nat.le_zero.mp hk
    rw [List.nil_append, List.nil_append, readText_break hb, readText_break hb']
  | cons c a ih =>
    cases k with
    | succ k => exact ih (Nat.le_of_succ_le_succ hk)
    | zero =>
      have hs : textStep c (a ++ b' :: r') = textStep c (a ++ b :: r) :=
        textStep_append_break hb' hb
      simp only [List.cons_append, readText, hs]
      cases hstep : textStep c (a ++ b :: r) with
      | error problem => cases problem <;> rfl
      | ok found =>
        -- The next character to be read is still in front of the break, or it is the break.
        have hmore : readText (offset + 1) found.2 (a ++ b :: r) =
            readText (offset + 1) found.2 (a ++ b' :: r') := ih (length_of_textStep hb hstep)
        simp only [hmore]

/-- The closing quote stands in front of the break. -/
theorem length_of_readText {cs : List Char} {k : Nat} (hb : IsBreak b) (hk : k ≤ a.length)
    (h : readText offset k (a ++ b :: r) = .ok (cs, n)) : n < offset + a.length := by
  induction a generalizing offset k cs with
  | nil =>
    obtain rfl : k = 0 := Nat.le_zero.mp hk
    rw [List.nil_append, readText_break hb] at h
    cases h
  | cons c a ih =>
    have hlater : ∀ {k cs}, k ≤ a.length →
        readText (offset + 1) k (a ++ b :: r) = .ok (cs, n) → n < offset + (c :: a).length := by
      intro k cs hk h
      have hn := ih hk h
      simp only [List.length_cons]
      omega
    cases k with
    | succ k => exact hlater (Nat.le_of_succ_le_succ hk) h
    | zero =>
      simp only [List.cons_append, readText] at h
      split at h
      · cases h
        simp only [List.length_cons]
        omega
      · cases hstep : textStep c (a ++ b :: r) with
        | error problem =>
          rw [hstep] at h
          cases problem <;> cases h
        | ok found =>
          rw [hstep] at h
          cases hread : readText (offset + 1) found.2 (a ++ b :: r) with
          | error _ =>
            simp only [hread] at h
            cases h
          | ok read =>
            simp only [hread] at h
            cases h
            exact hlater (length_of_textStep hb hstep) hread

/-! ## Tokens -/

/-- In front of a break stands the same token whatever the break is and what follows it. -/
theorem scan_append_break (hb : IsBreak b) (hb' : IsBreak b') :
    scan c (a ++ b :: r) = scan c (a ++ b' :: r') := by
  have htext : readText 1 0 (a ++ b :: r) = readText 1 0 (a ++ b' :: r') :=
    readText_append_break hb hb' (Nat.zero_le _)
  have hnumber :
      readNumber false (c :: (a ++ b :: r)) = readNumber false (c :: (a ++ b' :: r')) := by
    rw [← List.cons_append, readNumber_append_break hb, ← List.cons_append,
      readNumber_append_break hb']
  have hminus : readNumber true (a ++ b :: r) = readNumber true (a ++ b' :: r') := by
    rw [readNumber_append_break hb, readNumber_append_break hb']
  have hword : ∀ (w : String) (t : Token), w.toList.all Char.isAlpha →
      word? w t (a ++ b :: r) = word? w t (a ++ b' :: r') := by
    intro w t hw
    rw [word?_append_break hw hb, word?_append_break hw hb']
  have hnull := hword "ull" null rfl
  have htrue := hword "rue" (bool true) rfl
  have hfalse := hword "alse" (bool false) rfl
  have hnan := hword "aN" (real .notANumber) rfl
  have hinf := hword "nfinity" (real (.infinite false)) rfl
  have hneg := hword "Infinity" (real (.infinite true)) rfl
  simp only [scan, htext, hnumber, hminus, hnull, htrue, hfalse, hnan, hinf, hneg]

theorem length_of_getD {found : Option (Token × Nat)}
    (hfound : ∀ t m, found = some (t, m) → m ≤ k) (h : found.getD (broken, 0) = (token, n)) :
    n ≤ k := by
  cases found with
  | none => exact (Prod.mk.inj h).2 ▸ Nat.zero_le k
  | some f => exact hfound token n (congrArg some h)

/-- A token ends in front of the break. -/
theorem length_of_scan (hb : IsBreak b) (h : scan c (a ++ b :: r) = (token, n)) :
    n ≤ a.length := by
  have hmark : ∀ t : Token, (t, 0) = (token, n) → n ≤ a.length := fun t ht =>
    (Prod.mk.inj ht).2 ▸ Nat.zero_le _
  have hword : ∀ (w : String) (t : Token), w.toList.all Char.isAlpha → ∀ t' m,
      word? w t (a ++ b :: r) = some (t', m) → m ≤ a.length := by
    intro w t hw t' m hm
    rw [word?_append_break hw hb] at hm
    exact length_of_word? hm
  -- The cases are those of the lexer: marks, a text, words, a minus sign, a number.
  unfold scan at h
  split at h
  case h_1 | h_2 | h_3 | h_4 | h_5 | h_6 => exact hmark _ h
  case h_7 =>
    split at h
    · next cs length hread =>
      have hlen := length_of_readText hb (Nat.zero_le _) hread
      have hn : length = n := (Prod.mk.inj h).2
      omega
    · exact hmark _ h
  case h_8 => exact length_of_getD (hword "ull" null rfl) h
  case h_9 => exact length_of_getD (hword "rue" (bool true) rfl) h
  case h_10 => exact length_of_getD (hword "alse" (bool false) rfl) h
  case h_11 => exact length_of_getD (hword "aN" (real .notANumber) rfl) h
  case h_12 => exact length_of_getD (hword "nfinity" (real (.infinite false)) rfl) h
  case h_13 =>
    split at h
    · next found hfound =>
      subst h
      exact hword "Infinity" (real (.infinite true)) rfl _ _ hfound
    · refine length_of_getD (fun t m hm => ?_) h
      rw [readNumber_append_break hb] at hm
      exact length_of_readNumber hm
  case h_14 =>
    split at h
    · next t m hm =>
      rw [← List.cons_append, readNumber_append_break hb] at hm
      have hlen := length_of_readNumber hm
      have hn : m - 1 = n := (Prod.mk.inj h).2
      rw [List.length_cons] at hlen
      omega
    · exact hmark _ h

end RuntimeImage.Json.Token
