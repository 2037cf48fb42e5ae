import Mathlib.Algebra.Group.Nat.Defs
import Mathlib.Data.List.TakeWhile
import RuntimeImage.Json.Reader

/-!
Why a text is refused that need not be malformed: it opens too many containers, or an integer in it
has too many digits. Both can be seen in the text itself. The tokens show as much of it, and the
reader never counts more open containers than it was given opening tokens.
-/

namespace RuntimeImage.Json

namespace Token

/-- The tokens that open a container. -/
def opens : Token → Bool
  | openArray | openObject => true
  | _ => false

/-- The characters that open a container. -/
def isOpening (c : Char) : Bool := c = '[' || c = '\x7b'

/-- A run of digits that is longer than an integer may be. -/
structure IsLongRun (ds : List Char) : Prop where
  digits : ∀ d ∈ ds, d.isDigit
  long : Integer.maxDigits < ds.length

/-- What a token shows of the text that it starts: it opens a container only with a bracket for it,
and it is a refused integer only with a long run of digits. An integer that is not refused is one
that can be written out again. -/
structure Shows (c : Char) (rest : List Char) (token : Token) : Prop where
  bracket : token.opens → isOpening c
  run : ∀ n, token = longInt n → ∃ ds, ds <:+: c :: rest ∧ ds.length = n ∧ IsLongRun ds
  short : ∀ n, token = int n → (Nat.toDigits 10 n.natAbs).length ≤ Integer.maxDigits

variable {c : Char} {cs rest : List Char} {token : Token} {length start skip n : Nat} {l : Lexeme}

theorem shows_broken : Shows c rest broken := ⟨nofun, nofun, nofun⟩

theorem shows_word? {w : String} (h : Shows c rest token) :
    Shows c rest ((word? w token rest).getD (broken, 0)).1 := by
  unfold word?
  split
  · exact h
  · exact shows_broken

theorem ofDigitChars_lt (hcs : ∀ d ∈ cs, d.isDigit) (n : Nat) :
    Nat.ofDigitChars 10 cs n < (n + 1) * 10 ^ cs.length := by
  induction cs generalizing n with
  | nil => simp [Nat.ofDigitChars]
  | cons d cs ih =>
    obtain ⟨hd, hrest⟩ := List.forall_mem_cons.mp hcs
    have hvalue : d.toNat - '0'.toNat < 10 := by
      simp only [Char.isDigit, Bool.and_eq_true, decide_eq_true_eq] at hd
      have hle : d.toNat ≤ '9'.toNat := hd.2
      have hnine : '9'.toNat = '0'.toNat + 9 := rfl
      omega
    rw [Nat.ofDigitChars_cons]
    calc Nat.ofDigitChars 10 cs (10 * n + (d.toNat - '0'.toNat))
        < (10 * n + (d.toNat - '0'.toNat) + 1) * 10 ^ cs.length := ih hrest _
      _ ≤ ((n + 1) * 10) * 10 ^ cs.length := Nat.mul_le_mul_right _ (by omega)
      _ = (n + 1) * 10 ^ (d :: cs).length := by
        rw [List.length_cons, Nat.pow_succ, Nat.mul_assoc, Nat.mul_comm 10]

/-- The number that digits stand for has no more of them. -/
theorem length_toDigits_natOf (hcs : ∀ d ∈ cs, d.isDigit) (hlength : cs.length ≤ n) (hn : 0 < n) :
    (Nat.toDigits 10 (natOf cs)).length ≤ n := by
  rw [Nat.length_toDigits_le_iff (by decide) hn]
  calc natOf cs < (0 + 1) * 10 ^ cs.length := ofDigitChars_lt hcs 0
    _ ≤ 10 ^ n := by
      rw [Nat.zero_add, Nat.one_mul]
      exact Nat.pow_le_pow_right (by decide) hlength

/-- A number opens nothing, and what is refused of it is a long run of digits at its head. -/
theorem readNumber_cases {negative : Bool} (h : readNumber negative cs = some (token, length)) :
    token.opens = false ∧
      (∀ n, token = longInt n → ∃ ds, ds <+: cs ∧ ds.length = n ∧ IsLongRun ds) ∧
      ∀ n, token = int n → (Nat.toDigits 10 n.natAbs).length ≤ Integer.maxDigits := by
  unfold readNumber at h
  extract_lets whole at h
  have hwhole : whole <+: cs ∧ ∀ d ∈ whole, d.isDigit := by
    unfold whole
    split
    · refine ⟨⟨_, rfl⟩, fun d hd => ?_⟩
      rw [List.mem_singleton.mp hd]
      rfl
    · exact ⟨List.takeWhile_prefix _, fun d hd => List.mem_takeWhile_imp hd⟩
  clear_value whole
  dsimp only at h
  split at h
  · cases h
  · split at h
    · split at h
      · next hlong =>
        cases h
        refine ⟨rfl, fun n hn => ?_, nofun⟩
        cases hn
        exact ⟨whole, hwhole.1, rfl, hwhole.2, hlong⟩
      · next hshort =>
        cases h
        refine ⟨rfl, nofun, fun n hn => ?_⟩
        have habs : n.natAbs = natOf whole := by
          cases hn
          cases negative <;> simp
        rw [habs]
        exact length_toDigits_natOf hwhole.2 (Nat.le_of_not_lt hshort) (by decide)
    · cases h
      exact ⟨rfl, nofun, nofun⟩

theorem shows_of_readNumber {negative : Bool} (h : readNumber negative cs = some (token, length))
    (hcs : cs <:+ c :: rest) : Shows c rest token := by
  obtain ⟨hopens, hrun, hshort⟩ := readNumber_cases h
  refine ⟨fun ho => absurd ho (by simp [hopens]), fun n hn => ?_, hshort⟩
  obtain ⟨ds, hds, hlen, hlong⟩ := hrun n hn
  exact ⟨ds, hds.isInfix.trans hcs.isInfix, hlen, hlong⟩

theorem shows_scan (c : Char) (rest : List Char) : Shows c rest (scan c rest).1 := by
  unfold scan
  split
  -- a text, broken or not
  case h_7 => split <;> exact ⟨nofun, nofun, nofun⟩
  -- a minus sign: the negative infinity, or a number
  case h_13 =>
    split
    · next found hfound =>
      unfold word? at hfound
      split at hfound
      · cases hfound
        exact ⟨nofun, nofun, nofun⟩
      · cases hfound
    · cases hnumber : readNumber true rest with
      | none => exact shows_broken
      | some found => exact shows_of_readNumber hnumber (List.suffix_cons _ _)
  -- whatever starts no other token may start a number
  case h_14 =>
    split
    · next hnumber => exact shows_of_readNumber hnumber (List.suffix_refl _)
    · exact shows_broken
  -- the brackets that open, and the other marks
  case h_1 | h_3 => exact ⟨fun _ => rfl, nofun, nofun⟩
  case h_2 | h_4 | h_5 | h_6 => exact ⟨nofun, nofun, nofun⟩
  all_goals
    refine shows_word? ⟨?_, ?_, ?_⟩ <;> nofun

/-- The tokens of a text open no more containers than the text has brackets for them. -/
theorem countP_opens_lex (start skip : Nat) (cs : List Char) :
    (lex start skip cs).countP (·.token.opens) ≤ cs.countP isOpening := by
  -- Characters that are skipped or blank give no token, so they only help.
  induction cs generalizing start skip with
  | nil => exact Nat.le_refl 0
  | cons c rest ih =>
    have hrest : rest.countP isOpening ≤ (c :: rest).countP isOpening :=
      List.Sublist.countP_le (List.sublist_cons_self c rest)
    cases skip with
    | succ skip => exact (ih _ _).trans hrest
    | zero =>
      rw [lex]
      split
      · exact (ih _ _).trans hrest
      · have hshows := shows_scan c rest
        generalize scan c rest = found at hshows
        obtain ⟨token, length⟩ := found
        have hhead : (if token.opens then 1 else 0) ≤ if isOpening c then 1 else 0 := by
          split
          · next ho => rw [if_pos (hshows.bracket ho)]
          · exact Nat.zero_le _
        dsimp only
        split
        · rw [List.countP_singleton, List.countP_cons]
          exact hhead.trans (Nat.le_add_left _ _)
        · rw [List.countP_cons, List.countP_cons]
          exact Nat.add_le_add (ih _ _) hhead

/-- Every token of a text starts some end of it. -/
theorem shows_of_mem_lex (h : l ∈ lex start skip cs) :
    ∃ c rest, c :: rest <:+ cs ∧ Shows c rest l.token := by
  induction cs generalizing start skip with
  | nil => cases h
  | cons c rest ih =>
    have hrest : ∀ {start skip}, l ∈ lex start skip rest →
        ∃ c' rest', c' :: rest' <:+ c :: rest ∧ Shows c' rest' l.token := by
      intro start skip hm
      obtain ⟨c', rest', hsuffix, hshows⟩ := ih hm
      exact ⟨c', rest', hsuffix.trans (List.suffix_cons c rest), hshows⟩
    cases skip with
    | succ skip => exact hrest h
    | zero =>
      rw [lex] at h
      split at h
      · exact hrest h
      · have hshows := shows_scan c rest
        generalize scan c rest = found at h hshows
        obtain ⟨token, length⟩ := found
        dsimp only at h
        split at h
        · rw [List.mem_singleton.mp h]
          exact ⟨c, rest, List.suffix_refl _, hshows⟩
        · rcases List.mem_cons.mp h with rfl | hm
          · exact ⟨c, rest, List.suffix_refl _, hshows⟩
          · exact hrest hm

theorem longRun_of_mem_lex (h : l ∈ lex start skip cs) (hl : l.token = longInt n) :
    ∃ ds, ds <:+: cs ∧ ds.length = n ∧ IsLongRun ds := by
  obtain ⟨c, rest, hsuffix, hshows⟩ := shows_of_mem_lex h
  obtain ⟨ds, hds, hrun⟩ := hshows.run n hl
  exact ⟨ds, hds.trans hsuffix.isInfix, hrun⟩

end Token

namespace Reader

/-- How many containers are open. -/
def State.depth : State → Nat
  | .value up => up.length
  | .itemOrEnd up | .nameOrEnd up | .nextName _ up | .colon _ _ up | .afterItem _ up
  | .afterMember _ up => up.length + 1
  | .finished _ => 0

/-- How many containers a token opens. -/
def opened (l : Lexeme) : Nat := if l.token.opens then 1 else 0

/-- What the tokens to come say of a refusal, when so many containers are open before them. -/
inductive Due (limit depth : Nat) (ls : List Lexeme) : Refusal → Prop
  | malformed {problem : Problem} {offset : Nat} : Due limit depth ls (.malformed problem offset)
  | tooDeep {container : Container} (h : limit < depth + ls.countP (·.token.opens)) :
      Due limit depth ls (.tooDeep container)
  | integerTooLong {n : Nat} (h : ∃ l ∈ ls, l.token = .longInt n) :
      Due limit depth ls (.integerTooLong n)

variable {limit length depth : Nat} {state next : State} {l : Lexeme} {ls rest : List Lexeme}
  {up : List Frame} {done : Table Value} {refusal : Refusal}

/-- A refusal of the first token stands whatever follows it. -/
theorem Due.of_head (h : Due limit depth [l] refusal) : Due limit depth (l :: rest) refusal := by
  have hsub : [l].Sublist (l :: rest) := List.Sublist.cons_cons l (List.nil_sublist rest)
  cases h with
  | malformed => exact .malformed
  | tooDeep h => exact .tooDeep (Nat.lt_of_lt_of_le h (Nat.add_le_add_left hsub.countP_le depth))
  | integerTooLong h =>
    obtain ⟨l', hl', ht⟩ := h
    exact .integerTooLong ⟨l', hsub.mem hl', ht⟩

/-- A refusal of later tokens stands if the first one opens what it adds to the depth. -/
theorem Due.of_tail {later : Nat} (h : Due limit later rest refusal)
    (hlater : later ≤ depth + opened l) : Due limit depth (l :: rest) refusal := by
  cases h with
  | malformed => exact .malformed
  | tooDeep h =>
    rw [opened] at hlater
    refine .tooDeep ?_
    rw [List.countP_cons]
    omega
  | integerTooLong h =>
    obtain ⟨l', hl', ht⟩ := h
    exact .integerTooLong ⟨l', List.mem_cons_of_mem l hl', ht⟩

theorem depth_complete (v : Value) (up : List Frame) :
    (State.complete v up).depth ≤ up.length := by
  rcases up with _ | ⟨⟨done⟩ | ⟨done, label⟩, up⟩ <;> exact Nat.le_refl _

/-- A container that is closed is no longer counted. -/
theorem depth_complete_le (v : Value) (up : List Frame) (n : Nat) :
    (State.complete v up).depth ≤ up.length + 1 + n := by
  have hdepth := depth_complete v up
  omega

theorem depth_of_readValue (h : readValue limit up l = .ok next) :
    next.depth ≤ up.length + opened l := by
  unfold readValue at h
  split at h
  case h_6 | h_7 =>
    split at h
    · cases h
      next ht _ => simp [State.depth, opened, ht, Token.opens]
    · cases h
  all_goals
    cases h
    try exact (depth_complete _ up).trans (Nat.le_add_right _ _)

theorem due_of_readValue (h : readValue limit up l = .error refusal) :
    Due limit up.length [l] refusal := by
  unfold readValue at h
  split at h
  case h_6 | h_7 =>
    split at h
    · cases h
    · next ht hfull =>
      cases h
      refine .tooDeep ?_
      simp [ht, Token.opens]
      omega
  case h_8 ht =>
    cases h
    exact .integerTooLong ⟨l, List.mem_singleton_self l, ht⟩
  all_goals
    cases h
    try exact .malformed

theorem depth_of_readName (h : readName done up l = .ok next) : next.depth = up.length + 1 := by
  unfold readName at h
  split at h
  all_goals
    cases h
    try rfl

theorem due_of_readName (h : readName done up l = .error refusal) :
    Due limit depth ls refusal := by
  unfold readName at h
  split at h
  all_goals
    cases h
    try exact .malformed

/-- No token opens more containers than it says. -/
theorem depth_of_step (h : step limit state l = .ok next) :
    next.depth ≤ state.depth + opened l := by
  unfold step at h
  split at h
  case h_1 up => exact depth_of_readValue h
  case h_2 up =>
    split at h
    · cases h
      exact depth_complete_le _ up _
    · exact depth_of_readValue h
  case h_3 up =>
    split at h
    · cases h
      exact depth_complete_le _ up _
    · exact (depth_of_readName h).le.trans (Nat.le_add_right _ _)
  case h_4 done up => exact (depth_of_readName h).le.trans (Nat.le_add_right _ _)
  case h_5 done label up =>
    split at h
    · cases h
      exact Nat.le_add_right _ _
    · cases h
  case h_6 done up | h_7 done up =>
    split at h
    · cases h
      exact depth_complete_le _ up _
    · split at h
      · cases h
        exact Nat.le_add_right _ _
      · cases h
  case h_8 => cases h

/-- A token is refused as too deep only when it opens a container in a state that is too deep. -/
theorem due_of_step (h : step limit state l = .error refusal) :
    Due limit state.depth [l] refusal := by
  unfold step at h
  split at h
  case h_1 up => exact due_of_readValue h
  case h_2 up =>
    split at h
    · cases h
    · exact due_of_readValue h
  case h_3 up =>
    split at h
    · cases h
    · exact due_of_readName h
  case h_4 done up => exact due_of_readName h
  case h_5 done label up =>
    split at h
    · cases h
    · cases h
      exact .malformed
  case h_6 done up | h_7 done up =>
    split at h
    · cases h
    · split at h
      · cases h
      · cases h
        exact .malformed
  case h_8 =>
    cases h
    exact .malformed

/-- Along a run the depth grows by one for each opening token at most, so that what is due at the
refusal was due from the start. -/
theorem due_of_run (h : run limit length state ls = .error refusal) :
    Due limit state.depth ls refusal := by
  induction ls generalizing state with
  | nil =>
    rw [run] at h
    cases state <;> cases h <;> exact .malformed
  | cons l rest ih =>
    rw [run] at h
    split at h
    · next hstep =>
      cases h
      exact (due_of_step hstep).of_head
    · next hstep => exact (ih h).of_tail (depth_of_step hstep)

end Reader

/-- What a refusal says of the text. -/
inductive Refusal.Due (limit : Nat) (cs : List Char) : Refusal → Prop
  | malformed {problem : Problem} {offset : Nat} : Due limit cs (.malformed problem offset)
  | tooDeep {container : Container} (h : limit < cs.countP Token.isOpening) :
      Due limit cs (.tooDeep container)
  | integerTooLong {ds : List Char} (hds : ds <:+: cs) (hrun : Token.IsLongRun ds) :
      Due limit cs (.integerTooLong ds.length)

/-- A text is refused for its depth only when it has more than the allowed number of brackets that
open, and for an integer only when it has a longer run of digits than allowed. -/
theorem due_of_readWithin {limit : Nat} {text : List Char} {refusal : Refusal}
    (h : readWithin limit text = .error refusal) : refusal.Due limit text := by
  unfold readWithin at h
  split at h
  · cases h
    exact .malformed
  · have hdue := Reader.due_of_run h
    clear h
    cases hdue with
    | malformed => exact .malformed
    | tooDeep h =>
      have hdepth : (Reader.State.value []).depth = 0 := rfl
      rw [hdepth, Nat.zero_add] at h
      exact .tooDeep (h.trans_le (Token.countP_opens_lex 0 0 text))
    | integerTooLong h =>
      obtain ⟨l, hl, ht⟩ := h
      obtain ⟨ds, hds, rfl, hrun⟩ := Token.longRun_of_mem_lex hl ht
      exact .integerTooLong hds hrun

/-! Both refusals do occur, at every size beyond the limit. -/

theorem run_nested {limit length start n : Nat} {up : List Reader.Frame} (hup : up.length < limit)
    (hn : limit < up.length + 1 + n) :
    Reader.run limit length (.itemOrEnd up) (Token.lex start 0 (List.replicate n '[')) =
      .error (.tooDeep .array) := by
  induction n generalizing start up with
  | zero => omega
  | succ n ih =>
    have hlex : Token.lex start 0 (List.replicate (n + 1) '[') =
        ⟨start, .openArray⟩ :: Token.lex (start + 1) 0 (List.replicate n '[') := rfl
    have hstep : Reader.step limit (.itemOrEnd up) ⟨start, .openArray⟩ =
        if up.length + 1 < limit then .ok (.itemOrEnd (.items [] :: up))
        else .error (.tooDeep .array) := rfl
    rw [hlex, Reader.run, hstep]
    by_cases hnext : up.length + 1 < limit
    · rw [if_pos hnext]
      exact ih hnext (by simp only [List.length_cons]; omega)
    · rw [if_neg hnext]

theorem readWithin_nested {limit n : Nat} (hn : limit < n) :
    readWithin limit (List.replicate n '[') = .error (.tooDeep .array) := by
  obtain ⟨n, rfl⟩ := Nat.exists_eq_succ_of_ne_zero (Nat.ne_zero_of_lt hn)
  have hlex : Token.lex 0 0 (List.replicate (n + 1) '[') =
      ⟨0, .openArray⟩ :: Token.lex 1 0 (List.replicate n '[') := rfl
  have hstep : Reader.step limit (.value []) ⟨0, .openArray⟩ =
      if 0 < limit then .ok (.itemOrEnd []) else .error (.tooDeep .array) := rfl
  have hread : readWithin limit (List.replicate (n + 1) '[') =
      Reader.run limit (List.replicate (n + 1) '[').length (.value [])
        (Token.lex 0 0 (List.replicate (n + 1) '[')) := rfl
  rw [hread, hlex, Reader.run, hstep]
  by_cases hlimit : 0 < limit
  · rw [if_pos hlimit]
    exact run_nested hlimit (by simp only [List.length_nil]; omega)
  · rw [if_neg hlimit]

theorem digits_ones (n : Nat) : Token.digits (List.replicate n '1') = List.replicate n '1' := by
  rw [Token.digits, List.takeWhile_replicate, if_pos (by decide)]

theorem readNumber_ones {n : Nat} (hn : Integer.maxDigits < n) :
    Token.readNumber false (List.replicate n '1') = some (.longInt n, n) := by
  obtain ⟨m, rfl⟩ := Nat.exists_eq_succ_of_ne_zero (Nat.ne_zero_of_lt hn)
  have hdigits := digits_ones (m + 1)
  rw [List.replicate_succ] at hdigits
  simp [Token.readNumber, List.replicate_succ, hdigits, hn, Token.fraction, Token.exponent]

theorem readWithin_ones {limit n : Nat} (hn : Integer.maxDigits < n) :
    readWithin limit (List.replicate n '1') = .error (.integerTooLong n) := by
  have hnumber := readNumber_ones hn
  obtain ⟨m, rfl⟩ := Nat.exists_eq_succ_of_ne_zero (Nat.ne_zero_of_lt hn)
  rw [List.replicate_succ] at hnumber ⊢
  have hscan : Token.scan '1' (List.replicate m '1') = (.longInt (m + 1), m) := by
    simp [Token.scan, hnumber]
  have hlex : Token.lex 0 0 ('1' :: List.replicate m '1') =
      ⟨0, .longInt (m + 1)⟩ :: Token.lex 1 m (List.replicate m '1') := by
    simp [Token.lex, Token.isSpace, hscan, Token.isBroken]
  have hread : readWithin limit ('1' :: List.replicate m '1') =
      Reader.run limit ('1' :: List.replicate m '1').length (.value [])
        (Token.lex 0 0 ('1' :: List.replicate m '1')) := rfl
  rw [hread, hlex]
  rfl

end RuntimeImage.Json
