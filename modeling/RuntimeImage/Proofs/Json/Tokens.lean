import Mathlib.Data.List.Basic
import RuntimeImage.Json.Printer
import RuntimeImage.Json.Token.Lexer
import RuntimeImage.Proofs.Cbor.RoundTrip

/-!
The tokens of a printed document. What is written of a text, a number or a mark is cut off again as
one token, whatever follows it; a number only needs to be followed by something that cannot belong
to it. The tokens of a whole document are then its marks, names and scalars in order.
-/

namespace RuntimeImage.Json

namespace Token

/-- The tokens of a text without their places. -/
def ofText (cs : List Char) : List Token := (lex 0 0 cs).map Lexeme.token

variable {c : Char} {pre rest : List Char} {token : Token} {offset n : Nat}

theorem map_token_lex (start other skip : Nat) (cs : List Char) :
    (lex start skip cs).map Lexeme.token = (lex other skip cs).map Lexeme.token := by
  induction cs generalizing start other skip with
  | nil => rfl
  | cons c rest ih =>
    cases skip with
    | succ skip => exact ih _ _ skip
    | zero =>
      simp only [lex]
      split
      · exact ih _ _ 0
      · split
        · rfl
        · rw [List.map_cons, List.map_cons, ih (start + 1) (other + 1)]

/-- Characters that are passed over leave no tokens. -/
theorem map_token_lex_skip (start skip : Nat) (cs : List Char) :
    (lex start skip cs).map Lexeme.token = ofText (cs.drop skip) := by
  induction cs generalizing start skip with
  | nil => rw [List.drop_nil, lex, ofText, lex]
  | cons c cs ih =>
    cases skip with
    | zero => exact map_token_lex start 0 0 (c :: cs)
    | succ skip => exact ih (start + 1) skip

/-- The first token of a text, and those of what is behind it unless the first is broken. -/
theorem ofText_of_scan (hc : isSpace c = false) (hs : scan c rest = (token, n)) :
    ofText (c :: rest) = if token.isBroken then [token] else token :: ofText (rest.drop n) := by
  have hlex : lex 0 0 (c :: rest) =
      if token.isBroken then [⟨0, token⟩] else ⟨0, token⟩ :: lex 1 n rest := by
    simp only [lex, hc, hs, Bool.false_eq_true, if_false]
  rw [ofText, hlex]
  split
  · rfl
  · rw [List.map_cons, map_token_lex_skip]

/-- A token that is found whole is the first, and the others are those of the rest. -/
theorem ofText_scan (hc : isSpace c = false) (hs : scan c (pre ++ rest) = (token, pre.length))
    (ht : token.isBroken = false) : ofText (c :: pre ++ rest) = token :: ofText rest := by
  rw [List.cons_append, ofText_of_scan hc hs, ht, List.drop_left]
  rfl

/-- A mark is a token of one character. -/
theorem ofText_mark (hc : isSpace c = false) (hs : scan c rest = (token, 0))
    (ht : token.isBroken = false) : ofText (c :: rest) = token :: ofText rest := by
  have hpre : scan c ([] ++ rest) = (token, List.length ([] : List Char)) := hs
  exact ofText_scan hc hpre ht

theorem ofText_blank (hc : isSpace c = true) : ofText (c :: rest) = ofText rest := by
  have hlex : lex 0 0 (c :: rest) = lex 1 0 rest := by
    simp only [lex, hc, if_true]
  rw [ofText, hlex, map_token_lex 1 0, ofText]

theorem ofText_openArray (rest : List Char) : ofText ('[' :: rest) = openArray :: ofText rest :=
  ofText_mark rfl rfl rfl

theorem ofText_closeArray (rest : List Char) : ofText (']' :: rest) = closeArray :: ofText rest :=
  ofText_mark rfl rfl rfl

theorem ofText_openObject (rest : List Char) :
    ofText ('\x7b' :: rest) = openObject :: ofText rest :=
  ofText_mark rfl rfl rfl

theorem ofText_closeObject (rest : List Char) :
    ofText ('\x7d' :: rest) = closeObject :: ofText rest :=
  ofText_mark rfl rfl rfl

theorem ofText_comma (rest : List Char) : ofText (',' :: rest) = comma :: ofText rest :=
  ofText_mark rfl rfl rfl

/-- The colon behind a name is followed by a blank. -/
theorem ofText_colon (rest : List Char) : ofText (':' :: ' ' :: rest) = colon :: ofText rest := by
  rw [ofText_mark (rfl : isSpace ':' = false) rfl rfl, ofText_blank rfl]

/-- Blanks are passed over. -/
theorem ofText_blanks {blanks : List Char} (hblanks : blanks.all isSpace) (rest : List Char) :
    ofText (blanks ++ rest) = ofText rest := by
  induction blanks with
  | nil => rfl
  | cons b blanks ih =>
    rw [List.all_cons, Bool.and_eq_true] at hblanks
    rw [List.cons_append, ofText_blank hblanks.1, ih hblanks.2]

theorem ofText_null (rest : List Char) : ofText ("null".toList ++ rest) = null :: ofText rest := by
  have hs : scan 'n' (['u', 'l', 'l'] ++ rest) = (null, 3) := rfl
  exact ofText_scan rfl hs rfl

theorem ofText_bool (b : Bool) (rest : List Char) :
    ofText ((if b then "true" else "false").toList ++ rest) = bool b :: ofText rest := by
  cases b with
  | true =>
    have hs : scan 't' (['r', 'u', 'e'] ++ rest) = (bool true, 3) := rfl
    exact ofText_scan rfl hs rfl
  | false =>
    have hs : scan 'f' (['a', 'l', 's', 'e'] ++ rest) = (bool false, 4) := rfl
    exact ofText_scan rfl hs rfl

/-! ## Texts -/

theorem readText_skip (offset : Nat) (pre rest : List Char) :
    readText offset pre.length (pre ++ rest) = readText (offset + pre.length) 0 rest := by
  induction pre generalizing offset with
  | nil => rfl
  | cons c pre ih =>
    have hstep : readText offset (pre.length + 1) (c :: (pre ++ rest)) =
        readText (offset + 1) pre.length (pre ++ rest) := rfl
    rw [List.length_cons, List.cons_append, hstep, ih, Nat.add_right_comm, Nat.add_assoc]

/-- Four digits are read as long as they are not the last characters. -/
theorem hex4?_fixed (hn : n < 0x10000) (hrest : rest ≠ []) :
    hex4? (Hex.fixed 4 n ++ rest) = some n := by
  obtain ⟨c, tail, rfl⟩ := List.exists_cons_of_ne_nil hrest
  have hdigit : ∀ m, Hex.value? (Hex.digit (m % 16)) = some (m % 16) := fun m =>
    Hex.value?_digit (Nat.mod_lt m (by decide))
  simp only [Hex.fixed, List.nil_append, List.cons_append, hex4?, hdigit, Option.bind_eq_bind,
    Option.bind_some, Option.pure_def]
  congr 1
  omega

theorem charOf_toNat (c : Char) : charOf c.toNat = c := by
  have hvalid : c.toNat.isValidChar := c.valid
  rw [charOf, if_pos hvalid, Char.ofNat_toNat]

/-- What a step finds of a character is put in front of what is read behind it. -/
theorem readText_of_textStep {d : Char} (hc : c ≠ '\x22')
    (hs : textStep c (pre ++ rest) = .ok (d, pre.length)) :
    readText offset 0 (c :: pre ++ rest) =
      (readText (offset + (c :: pre).length) 0 rest).map (fun (ds, n) => (d :: ds, n)) := by
  have hskip := readText_skip (offset + 1) pre rest
  rw [Nat.add_assoc, Nat.add_comm 1] at hskip
  simp only [List.cons_append, readText, hc, if_false, hs, hskip, List.length_cons]

/-- A unit that is no half of a surrogate pair stands for itself. -/
theorem readText_unit (hn : n < 0x10000) (hhalf : ¬(0xD800 ≤ n ∧ n < 0xDC00))
    (hrest : rest ≠ []) :
    readText offset 0 (Printer.unit n ++ rest) =
      (readText (offset + 6) 0 rest).map (fun (ds, m) => (charOf n :: ds, m)) := by
  have hs : textStep '\\' ('u' :: Hex.fixed 4 n ++ rest) = .ok (charOf n, 5) := by
    simp only [textStep, List.cons_append, hex4?_fixed hn hrest, if_neg hhalf]
    rfl
  exact readText_of_textStep (by decide) hs

/-- Two units in a row, the high half of a pair and the low one, stand for one character. -/
theorem readText_pair {high low : Nat} (hhigh : 0xD800 ≤ high ∧ high < 0xDC00)
    (hlow : 0xDC00 ≤ low ∧ low < 0xE000) (hrest : rest ≠ []) :
    readText offset 0 (Printer.unit high ++ Printer.unit low ++ rest) =
      (readText (offset + 12) 0 rest).map (fun (ds, m) => (joined high low :: ds, m)) := by
  have hfirst : hex4? (Hex.fixed 4 high ++ (Printer.unit low ++ rest)) = some high :=
    hex4?_fixed (by omega) (List.cons_ne_nil _ _)
  have hsecond : lowSurrogate? (Printer.unit low ++ rest) = some low := by
    have hdigits := hex4?_fixed (by omega : low < 0x10000) hrest
    simp only [Printer.unit, List.cons_append, lowSurrogate?, hdigits, Option.filter_some, hlow,
      and_self, decide_true, if_true]
  have hdrop : (Hex.fixed 4 high ++ (Printer.unit low ++ rest)).drop 4 = Printer.unit low ++ rest :=
    rfl
  have hs : textStep '\\' ('u' :: Hex.fixed 4 high ++ Printer.unit low ++ rest) =
      .ok (joined high low, 11) := by
    simp only [textStep, List.cons_append, List.append_assoc, hfirst, hdrop, hsecond, if_pos hhigh]
    rfl
  exact readText_of_textStep (by decide) hs

/-- A printed character is read as itself. The last digit of an escape is not read unless something
follows it, and a closing quote always does. -/
theorem readText_char (c : Char) (offset : Nat) (hrest : rest ≠ []) :
    readText offset 0 (Printer.char c ++ rest) =
      (readText (offset + (Printer.char c).length) 0 rest).map (fun (ds, n) => (c :: ds, n)) := by
  unfold Printer.char
  split
  -- a character without a short escape; the seven others are only looked up
  case h_8 hquote hslash _ _ _ _ _ =>
    dsimp only
    have hchar : charOf c.toNat = c := charOf_toNat c
    have hvalid : c.toNat < 0xD800 ∨ 0xDFFF < c.toNat ∧ c.toNat < 0x110000 := c.valid
    split
    · next hplain =>
      have hs : textStep c ([] ++ rest) = .ok (c, 0) := by
        simp only [textStep, if_neg (Nat.not_lt.mpr hplain.1), if_pos hslash]
      exact readText_of_textStep hquote hs
    · split
      · next hsmall =>
        have hhalf : ¬(0xD800 ≤ c.toNat ∧ c.toNat < 0xDC00) := by omega
        rw [readText_unit hsmall hhalf hrest, hchar]
        rfl
      · next hlarge =>
        -- The twenty bits above U+FFFF are shared between the two halves.
        obtain ⟨m, hm⟩ : ∃ m, c.toNat = 0x10000 + m :=
          Nat.exists_eq_add_of_le (Nat.not_lt.mp hlarge)
        have hsub : c.toNat - 0x10000 = m := by omega
        have hhigh : 0xD800 ≤ 0xD800 + m / 0x400 ∧ 0xD800 + m / 0x400 < 0xDC00 := by omega
        have hlow : 0xDC00 ≤ 0xDC00 + m % 0x400 ∧ 0xDC00 + m % 0x400 < 0xE000 := by omega
        have hjoined : joined (0xD800 + m / 0x400) (0xDC00 + m % 0x400) = c := by
          have hbits : m / 0x400 * 0x400 + m % 0x400 = m := Nat.div_add_mod' m 0x400
          rw [← hchar, joined, Nat.add_sub_cancel_left, Nat.add_sub_cancel_left, Nat.add_assoc,
            hbits, hm]
        rw [hsub, readText_pair hhigh hlow hrest, hjoined]
        rfl
  all_goals rfl

theorem readText_chars (cs : List Char) (offset : Nat) (rest : List Char) :
    readText offset 0 (cs.flatMap Printer.char ++ '\x22' :: rest) =
      .ok (cs, offset + (cs.flatMap Printer.char).length) := by
  induction cs generalizing offset with
  | nil => rfl
  | cons c cs ih =>
    rw [List.flatMap_cons, List.append_assoc, readText_char c offset (by simp), ih,
      List.length_append, ← Nat.add_assoc]
    rfl

theorem ofText_text (s : String) (rest : List Char) :
    ofText (Printer.text s ++ rest) = text s :: ofText rest := by
  have hs : scan '\x22' (s.toList.flatMap Printer.char ++ ['\x22'] ++ rest) =
      (text s, (s.toList.flatMap Printer.char ++ ['\x22']).length) := by
    rw [List.append_assoc, List.singleton_append]
    simp only [scan, readText_chars, String.ofList_toList, List.length_append,
      List.length_singleton, Nat.add_comm]
  exact ofText_scan rfl hs rfl

/-! ## Numbers -/

/-- What stands behind a value in a document. None of it goes on with a number. -/
inductive Ends : List Char → Prop
  | nil : Ends []
  | comma {rest : List Char} : Ends (',' :: rest)
  | newline {rest : List Char} : Ends ('\n' :: rest)
  | closeArray {rest : List Char} : Ends (']' :: rest)
  | closeObject {rest : List Char} : Ends ('\x7d' :: rest)

theorem isDigit_of_mem {d : Char} (hd : d ∈ Nat.toDigits 10 n) : d.isDigit = true :=
  Nat.isDigit_of_mem_toDigits (by decide) (by decide) hd

theorem exists_toDigits_eq_cons (n : Nat) :
    ∃ c pre, Nat.toDigits 10 n = c :: pre ∧ c.isDigit = true := by
  obtain ⟨c, pre, heq⟩ := List.exists_cons_of_ne_nil (Nat.toDigits_ne_nil (b := 10) (n := n))
  have hc : c ∈ Nat.toDigits 10 n := by
    rw [heq]
    exact List.mem_cons_self
  exact ⟨c, pre, heq, isDigit_of_mem hc⟩

/-- Only zero is written with a zero in front. -/
theorem head?_toDigits_ne (n : Nat) (hn : 0 < n) : (Nat.toDigits 10 n).head? ≠ some '0' := by
  -- The first digit of a number is that of its tenth, as long as there is more than one.
  induction n using Nat.strongRecOn with
  | ind n ih =>
    by_cases hsmall : n < 10
    · rw [Nat.toDigits_of_lt_base hsmall]
      have htable : ∀ m : Fin 10, 0 < m.val → [Nat.digitChar m].head? ≠ some '0' := by decide
      exact htable ⟨n, hsmall⟩ hn
    · have hlarge : 10 ≤ n := Nat.not_lt.mp hsmall
      have hhigh := ih (n / 10) (by omega) (by omega)
      rw [Nat.toDigits_of_base_le (by decide) hlarge,
        List.head?_append_of_ne_nil _ Nat.toDigits_ne_nil]
      exact hhigh

theorem digits_toDigits (n : Nat) (hrest : Ends rest) :
    digits (Nat.toDigits 10 n ++ rest) = Nat.toDigits 10 n := by
  have hdigits : ∀ d ∈ Nat.toDigits 10 n, d.isDigit := fun d hd => isDigit_of_mem hd
  have hstop : rest.takeWhile Char.isDigit = [] := by cases hrest <;> rfl
  rw [digits, List.takeWhile_append_of_pos hdigits, hstop, List.append_nil]

/-- A natural number of no more digits than are allowed is read back, with the sign before it. -/
theorem readNumber_toDigits (negative : Bool)
    (hshort : (Nat.toDigits 10 n).length ≤ Integer.maxDigits) (hrest : Ends rest) :
    readNumber negative (Nat.toDigits 10 n ++ rest) =
      some (int (if negative then -(n : Int) else n), (Nat.toDigits 10 n).length) := by
  unfold readNumber
  extract_lets whole afterWhole frac fracLength
  -- A leading zero would be the whole integer part, but it is there for zero alone.
  have hwhole : whole = Nat.toDigits 10 n := by
    unfold whole
    split
    · next tail heq =>
      rcases Nat.eq_zero_or_pos n with rfl | hn
      · rfl
      · have hhead := head?_toDigits_ne n hn
        rw [← List.head?_append_of_ne_nil _ Nat.toDigits_ne_nil, heq] at hhead
        exact absurd rfl hhead
    · exact digits_toDigits n hrest
  have hafter : afterWhole = rest := by
    unfold afterWhole
    rw [hwhole, List.drop_left]
  have hfrac : frac = [] := by
    unfold frac
    rw [hafter]
    cases hrest <;> rfl
  have hlength : fracLength = 0 := if_pos hfrac
  have hexponent : exponent rest = (false, [], 0) := by cases hrest <;> rfl
  have hvalue : natOf (Nat.toDigits 10 n) = n := Nat.ofDigitChars_toDigits (by decide) (by decide)
  simp only [hwhole, Nat.toDigits_ne_nil, if_false, hlength, hafter, List.drop_zero, hexponent,
    Nat.add_zero, if_true, Nat.not_lt.mpr hshort, hvalue]

theorem scan_digit (hc : c.isDigit = true) (rest : List Char) :
    scan c rest =
      match readNumber false (c :: rest) with
      | some (token, length) => (token, length - 1)
      | none => (broken, 0) := by
  unfold scan
  split
  case h_14 => rfl
  all_goals exact absurd hc (by decide)

theorem not_isSpace_digit (hc : c.isDigit = true) : isSpace c = false := by
  have hne : ∀ d : Char, d.isDigit = false → c ≠ d := by
    rintro d hd rfl
    rw [hc] at hd
    cases hd
  simp [isSpace, hne]

theorem ofText_toDigits (hshort : (Nat.toDigits 10 n).length ≤ Integer.maxDigits)
    (hrest : Ends rest) : ofText (Nat.toDigits 10 n ++ rest) = int n :: ofText rest := by
  have hnumber := readNumber_toDigits false hshort hrest
  obtain ⟨c, pre, heq, hc⟩ := exists_toDigits_eq_cons n
  rw [heq] at hnumber ⊢
  have hs : scan c (pre ++ rest) = (int n, pre.length) := by
    rw [scan_digit hc, ← List.cons_append, hnumber]
    rfl
  exact ofText_scan (not_isSpace_digit hc) hs rfl

theorem ofText_neg_toDigits (hshort : (Nat.toDigits 10 n).length ≤ Integer.maxDigits)
    (hrest : Ends rest) : ofText ('-' :: Nat.toDigits 10 n ++ rest) = int (-n) :: ofText rest := by
  have hnumber := readNumber_toDigits true hshort hrest
  -- A digit is no start of the word for the negative infinity.
  have hword : word? "Infinity" (real (.infinite true)) (Nat.toDigits 10 n ++ rest) = none := by
    obtain ⟨c, pre, heq, hc⟩ := exists_toDigits_eq_cons n
    have hne : 'I' ≠ c := by
      rintro rfl
      cases hc
    rw [heq, word?, if_neg]
    simp [hne]
  have hs : scan '-' (Nat.toDigits 10 n ++ rest) = (int (-n), (Nat.toDigits 10 n).length) := by
    simp only [scan, hword, hnumber]
    rfl
  exact ofText_scan rfl hs rfl

theorem toList_toString_ofNat (m : Nat) :
    (toString (Int.ofNat m)).toList = Nat.toDigits 10 m :=
  Nat.toList_repr

theorem toList_toString_negSucc (m : Nat) :
    (toString (Int.negSucc m)).toList = '-' :: Nat.toDigits 10 (m + 1) := by
  have happend : toString (Int.negSucc m) = "-" ++ Nat.repr (m + 1) := rfl
  rw [happend, String.toList_append, Nat.toList_repr]
  rfl

theorem ofText_int (i : Int) (hshort : (Nat.toDigits 10 i.natAbs).length ≤ Integer.maxDigits)
    (hrest : Ends rest) : ofText ((toString i).toList ++ rest) = int i :: ofText rest := by
  cases i with
  | ofNat m =>
    rw [toList_toString_ofNat]
    exact ofText_toDigits hshort hrest
  | negSucc m =>
    rw [toList_toString_negSucc]
    exact ofText_neg_toDigits hshort hrest

end Token

end RuntimeImage.Json
