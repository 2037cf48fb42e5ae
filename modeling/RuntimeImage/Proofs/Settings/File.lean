import RuntimeImage.Proofs.Json.Breaks
import RuntimeImage.Settings

/-!
A configuration file and its text. Between the two, line breaks of other conventions become line
feeds. That leaves the tokens as they are, since none reaches over a break, and only moves what
comes behind a break to another place. So the file and the text give the same settings or the same
fault, up to the place of what is malformed.
-/

namespace RuntimeImage

/-- Two results that are the same up to what is kept of their errors. -/
theorem mapError_eq_cases {ε δ α : Type} {keep : ε → δ} {x y : Except ε α}
    (h : x.mapError keep = y.mapError keep) :
    (∃ a, x = .ok a ∧ y = .ok a) ∨ ∃ e e', x = .error e ∧ y = .error e' ∧ keep e = keep e' := by
  cases x with
  | ok a =>
    cases y with
    | ok b =>
      cases h
      exact .inl ⟨a, rfl, rfl⟩
    | error e => cases h
  | error e =>
    cases y with
    | ok b => cases h
    | error e' => exact .inr ⟨e, e', rfl, rfl, Except.error.inj h⟩

namespace Json

/-! ## Readers that do not count places -/

/-- A refusal without the place of its problem. -/
def Refusal.unplaced : Refusal → Refusal
  | .malformed problem _ => .malformed problem 0
  | refusal => refusal

namespace Reader

variable {depth length length' : Nat} {state : State} {l l' : Lexeme} {ls ls' : List Lexeme}

/-- Where a token stands is seen in the offset of a problem only. -/
theorem step_unplaced (depth : Nat) (state : State) (h : l.token = l'.token) :
    (step depth state l).mapError Refusal.unplaced =
      (step depth state l').mapError Refusal.unplaced := by
  obtain ⟨start, token⟩ := l
  obtain ⟨start', token'⟩ := l'
  obtain rfl : token = token' := h
  have hvalue : ∀ up, (readValue depth up ⟨start, token⟩).mapError Refusal.unplaced =
      (readValue depth up ⟨start', token⟩).mapError Refusal.unplaced := by
    intro up
    cases token <;> rfl
  have hname : ∀ done up, (readName done up ⟨start, token⟩).mapError Refusal.unplaced =
      (readName done up ⟨start', token⟩).mapError Refusal.unplaced := by
    intro done up
    cases token <;> rfl
  cases state with
  | value up => exact hvalue up
  | nextName done up => exact hname done up
  | finished v => rfl
  | itemOrEnd up =>
    simp only [step]
    split
    · rfl
    · exact hvalue _
  | nameOrEnd up =>
    simp only [step]
    split
    · rfl
    · exact hname _ _
  | colon done label up =>
    simp only [step]
    split <;> rfl
  | afterItem done up | afterMember done up =>
    simp only [step]
    split
    · rfl
    · split <;> rfl

/-- A whole run sees of its tokens' places no more than its steps do. -/
theorem run_unplaced (h : ls.map Lexeme.token = ls'.map Lexeme.token) :
    (run depth length state ls).mapError Refusal.unplaced =
      (run depth length' state ls').mapError Refusal.unplaced := by
  induction ls generalizing state ls' with
  | nil =>
    obtain rfl : ls' = [] := List.map_eq_nil_iff.mp h.symm
    cases state <;> rfl
  | cons l ls ih =>
    obtain ⟨l', rest, rfl, htoken, hrest⟩ := List.map_eq_cons_iff.mp h.symm
    rw [run, run]
    -- Both steps lead to the same state, or both fail.
    rcases mapError_eq_cases (step_unplaced depth state htoken.symm) with
      ⟨next, hl, hl'⟩ | ⟨refusal, refusal', hl, hl', hsame⟩
    · rw [hl, hl']
      exact ih hrest.symm
    · rw [hl, hl']
      exact congrArg Except.error hsame

end Reader

end Json

namespace Settings

open Json

/-! ## Lines -/

variable {c b : Char} {cs pre rest : List Char}

theorem unifyLines_cons (hc : c ≠ '\r') : unifyLines (c :: rest) = c :: unifyLines rest := by
  rw [unifyLines]
  · rintro _ rfl
    exact absurd rfl hc
  · rintro rfl
    exact absurd rfl hc

theorem unifyLines_append (h : ∀ c ∈ pre, ¬Token.IsBreak c) :
    unifyLines (pre ++ rest) = pre ++ unifyLines rest := by
  induction pre with
  | nil => rfl
  | cons c pre ih =>
    obtain ⟨hc, hpre⟩ := List.forall_mem_cons.mp h
    rw [List.cons_append, unifyLines_cons fun heq => hc (.inr heq), ih hpre, List.cons_append]

theorem unifyLines_line (h : ∀ c ∈ cs, ¬Token.IsBreak c) : unifyLines cs = cs := by
  have happend : unifyLines (cs ++ []) = cs ++ unifyLines [] := unifyLines_append h
  rwa [unifyLines, List.append_nil] at happend

/-- A break becomes a line feed, whether another character of the same break follows it or not. -/
theorem unifyLines_break (hb : Token.IsBreak b) (rest : List Char) :
    ∃ rest', (rest' = rest ∨ rest = '\n' :: rest') ∧
      unifyLines (b :: rest) = '\n' :: unifyLines rest' := by
  rcases hb with rfl | rfl
  · exact ⟨rest, .inl rfl, unifyLines_cons (by decide)⟩
  · by_cases h : ∃ rest', rest = '\n' :: rest'
    · obtain ⟨rest', rfl⟩ := h
      exact ⟨rest', .inr rfl, rfl⟩
    · refine ⟨rest, .inl rfl, ?_⟩
      rw [unifyLines]
      rintro rest' rfl
      exact h ⟨rest', rfl⟩

/-- A text is one line, or one line with a break behind it. -/
theorem line_cases (cs : List Char) :
    (∀ c ∈ cs, ¬Token.IsBreak c) ∨
      ∃ pre b rest, cs = pre ++ b :: rest ∧ (∀ c ∈ pre, ¬Token.IsBreak c) ∧ Token.IsBreak b := by
  induction cs with
  | nil => exact .inl nofun
  | cons c cs ih =>
    by_cases hc : Token.IsBreak c
    · exact .inr ⟨[], c, cs, rfl, nofun, hc⟩
    · rcases ih with hline | ⟨pre, b, rest, rfl, hpre, hb⟩
      · exact .inl (List.forall_mem_cons.mpr ⟨hc, hline⟩)
      · exact .inr ⟨c :: pre, b, rest, rfl, List.forall_mem_cons.mpr ⟨hc, hpre⟩, hb⟩

/-- A token is the same in the unified text, and what stands behind it is the unified text of what
stood there. -/
theorem scan_unifyLines {token : Token} {n : Nat} (hs : Token.scan c rest = (token, n)) :
    Token.scan c (unifyLines rest) = (token, n) ∧
      (unifyLines rest).drop n = unifyLines (rest.drop n) := by
  rcases line_cases rest with hline | ⟨pre, b, tail, rfl, hpre, hb⟩
  · have hdrop : ∀ c ∈ rest.drop n, ¬Token.IsBreak c := fun c hc =>
      hline c (List.mem_of_mem_drop hc)
    rw [unifyLines_line hline, unifyLines_line hdrop]
    exact ⟨hs, rfl⟩
  · obtain ⟨tail', -, htail⟩ := unifyLines_break hb tail
    -- Both texts start with the first line, and the token is over before that is.
    have hn : n ≤ pre.length := Token.length_of_scan hb hs
    have hdrop : ∀ c ∈ pre.drop n, ¬Token.IsBreak c := fun c hc =>
      hpre c (List.mem_of_mem_drop hc)
    rw [unifyLines_append hpre, htail, List.drop_append_of_le_length hn,
      List.drop_append_of_le_length hn, unifyLines_append hdrop, htail]
    refine ⟨?_, rfl⟩
    rw [← hs]
    exact Token.scan_append_break (.inl rfl) hb

/-- Line breaks do not matter to the tokens of a text, only to their places. -/
theorem ofText_unifyLines (cs : List Char) :
    Token.ofText (unifyLines cs) = Token.ofText cs := by
  -- What is behind a token is shorter than the text, but it need not be the next shorter one.
  induction hlength : cs.length using Nat.strongRecOn generalizing cs with
  | ind length ih =>
    subst hlength
    cases cs with
    | nil => rfl
    | cons c rest =>
      have hlater : ∀ cs, cs.length ≤ rest.length →
          Token.ofText (unifyLines cs) = Token.ofText cs := fun cs hcs =>
        ih cs.length (Nat.lt_succ_of_le hcs) cs rfl
      by_cases hbreak : Token.IsBreak c
      · obtain ⟨rest', hrest', hunify⟩ := unifyLines_break hbreak rest
        have hblank : Token.isSpace c = true := by rcases hbreak with rfl | rfl <;> rfl
        have hsame : Token.ofText rest = Token.ofText rest' ∧ rest'.length ≤ rest.length := by
          rcases hrest' with rfl | rfl
          · exact ⟨rfl, Nat.le_refl _⟩
          · exact ⟨Token.ofText_blank rfl, Nat.le_succ _⟩
        rw [hunify, Token.ofText_blank rfl, Token.ofText_blank hblank, hsame.1,
          hlater rest' hsame.2]
      · rw [unifyLines_cons fun heq => hbreak (.inr heq)]
        cases hspace : Token.isSpace c with
        | true =>
          rw [Token.ofText_blank hspace, Token.ofText_blank hspace, hlater rest (Nat.le_refl _)]
        | false =>
          obtain ⟨token, n, hs⟩ : ∃ token n, Token.scan c rest = (token, n) := ⟨_, _, rfl⟩
          obtain ⟨hs', hdrop⟩ := scan_unifyLines hs
          rw [Token.ofText_of_scan hspace hs, Token.ofText_of_scan hspace hs', hdrop,
            hlater (rest.drop n) (by simp)]

/-! ## Files -/

theorem head?_unifyLines_eq_mark : (unifyLines cs).head? = some '\ufeff' ↔
    cs.head? = some '\ufeff' := by
  cases cs with
  | nil => rfl
  | cons c rest =>
    by_cases hc : Token.IsBreak c
    · obtain ⟨rest', -, hunify⟩ := unifyLines_break hc rest
      rw [hunify]
      rcases hc with rfl | rfl <;> simp
    · rw [unifyLines_cons fun heq => hc (.inr heq), List.head?_cons, List.head?_cons]

theorem readWithin_unifyLines (depth : Nat) (cs : List Char) :
    (readWithin depth (unifyLines cs)).mapError Refusal.unplaced =
      (readWithin depth cs).mapError Refusal.unplaced := by
  have hmarked : ∀ cs : List Char, cs.head? = some '\ufeff' →
      readWithin depth cs = .error (.malformed .byteOrderMark 0) := by
    rintro (_ | ⟨c, rest⟩) h
    · cases h
    · cases h
      rfl
  have hplain : ∀ cs : List Char, cs.head? ≠ some '\ufeff' →
      readWithin depth cs = Reader.run depth cs.length (.value []) (Token.lex 0 0 cs) := by
    intro cs h
    unfold readWithin
    split
    · exact absurd rfl h
    · rfl
  by_cases h : cs.head? = some '\ufeff'
  · rw [hmarked cs h, hmarked _ (head?_unifyLines_eq_mark.mpr h)]
  · rw [hplain cs h, hplain _ (fun h' => h (head?_unifyLines_eq_mark.mp h'))]
    exact Reader.run_unplaced (ofText_unifyLines cs)

end Settings

/-! ## Faults without places -/

namespace Fault

/-- A fault without the place of what is malformed. -/
def unplaced : Fault → Fault
  | .config (.malformed problem _) => .config (.malformed problem ⟨0, 0, 0⟩)
  | fault => fault

/-- The place is part of the hint alone. -/
theorem kind_unplaced (fault : Fault) : fault.unplaced.kind = fault.kind := by
  cases fault with
  | config reason => cases reason <;> rfl
  | _ => rfl

theorem unplaced_cases (fault : Fault) : fault.unplaced = fault ∨
    ∃ problem place, fault = .config (.malformed problem place) := by
  cases fault with
  | config reason =>
    cases reason with
    | malformed problem place => exact .inr ⟨problem, place, rfl⟩
    | _ => exact .inl rfl
  | _ => exact .inl rfl

/-- Only what is malformed has a place to differ in. -/
theorem eq_or_malformed {fault fault' : Fault} (h : fault.unplaced = fault'.unplaced) :
    fault = fault' ∨ ∃ problem place place', fault = .config (.malformed problem place) ∧
      fault' = .config (.malformed problem place') := by
  rcases fault.unplaced_cases with hself | ⟨problem, place, rfl⟩
  · rcases fault'.unplaced_cases with hself' | ⟨problem', place', rfl⟩
    · rw [hself, hself'] at h
      exact .inl h
    · rw [hself] at h
      exact .inr ⟨problem', _, place', h, rfl⟩
  · rcases fault'.unplaced_cases with hself' | ⟨problem', place', rfl⟩
    · rw [hself'] at h
      exact .inr ⟨problem, place, _, rfl, h.symm⟩
    · cases h
      exact .inr ⟨problem, place, place', rfl, rfl⟩

end Fault

namespace Settings

open Json

theorem unplaced_refused {text text' : List Char} {refusal refusal' : Json.Refusal}
    (h : refusal.unplaced = refusal'.unplaced) :
    (refused text refusal).unplaced = (refused text' refusal').unplaced := by
  cases refusal <;> cases refusal' <;> cases h <;> rfl

/-- A text and its unified form are read alike, up to the place of what is malformed. -/
theorem parse_unifyLines (depth : Nat) (raw : String) :
    (parse depth (String.ofList (unifyLines raw.toList))).mapError Fault.unplaced =
      (parse depth raw).mapError Fault.unplaced := by
  rw [parse, parse, String.toList_ofList]
  rcases mapError_eq_cases (readWithin_unifyLines depth raw.toList) with
    ⟨v, hunified, hraw⟩ | ⟨refusal, refusal', hunified, hraw, hsame⟩
  · rw [hunified, hraw]
  · rw [hunified, hraw]
    exact congrArg Except.error (unplaced_refused hsame)

variable {depth : Nat} {tree : FileTree} {path : Path} {raw : String}

theorem load_of_read (hfile : tree.read path.render = .ok (Utf8.encode raw)) :
    load depth tree path = parse depth (String.ofList (unifyLines raw.toList)) := by
  simp only [load, hfile, Utf8.decode_encode]

/-- A file with a text in it is read as the text is, however deep values may be nested: it gives the
same settings, or a fault of the same kind. The two answers differ at most in the place of what is
malformed. -/
theorem load_agrees_with_parse (hfile : tree.read path.render = .ok (Utf8.encode raw)) :
    (∀ settings, load depth tree path = .ok settings ↔ parse depth raw = .ok settings) ∧
      (∀ kind, (∃ fault, load depth tree path = .error fault ∧ fault.kind = kind) ↔
        ∃ fault, parse depth raw = .error fault ∧ fault.kind = kind) ∧
      (load depth tree path = parse depth raw ∨ ∃ problem place place',
        load depth tree path = .error (.config (.malformed problem place)) ∧
          parse depth raw = .error (.config (.malformed problem place'))) := by
  have hsame := parse_unifyLines depth raw
  rw [← load_of_read hfile] at hsame
  rcases mapError_eq_cases hsame with
    ⟨settings, hload, hparse⟩ | ⟨fault, fault', hload, hparse, hunplaced⟩
  · rw [hload, hparse]
    exact ⟨fun _ => Iff.rfl, fun _ => Iff.rfl, .inl rfl⟩
  · have hkind : fault.kind = fault'.kind := by
      rw [← Fault.kind_unplaced, hunplaced, Fault.kind_unplaced]
    rw [hload, hparse]
    refine ⟨fun settings => ⟨nofun, nofun⟩, fun kind => ⟨?_, ?_⟩, ?_⟩
    · rintro ⟨_, ⟨⟩, hk⟩
      exact ⟨fault', rfl, hkind ▸ hk⟩
    · rintro ⟨_, ⟨⟩, hk⟩
      exact ⟨fault, rfl, hkind ▸ hk⟩
    · rcases Fault.eq_or_malformed hunplaced with rfl | ⟨problem, place, place', rfl, rfl⟩
      · exact .inl rfl
      · exact .inr ⟨problem, place, place', rfl, rfl⟩

/-- A configuration with line breaks of three conventions. -/
def linesText : String := "\x7b\r\n\"packages\":\r[[\"HTTP\"]\n]\r\n\x7d\r"

def treeOfLines : FileTree := ⟨["", ""], [(["config"], .file (Utf8.encode linesText))]⟩

set_option maxRecDepth 4000 in
theorem load_agrees_with_parse_linesText :
    treeOfLines.read (Path.render ⟨1, ["config"]⟩) = .ok (Utf8.encode linesText) ∧
      load maxDepth treeOfLines ⟨1, ["config"]⟩ = .ok { groups := [["HTTP"]] } := by
  have hfile : treeOfLines.read (Path.render ⟨1, ["config"]⟩) = .ok (Utf8.encode linesText) := by
    rfl
  exact ⟨hfile, ((load_agrees_with_parse hfile).1 _).mpr rfl⟩

end Settings

end RuntimeImage
