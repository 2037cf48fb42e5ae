import RuntimeImage.Json.Reader
import RuntimeImage.Proofs.Json.Tokens

/-!
Reading back a printed document, on one line or indented. Its tokens are those of the document in
order, and the reader, fed with the tokens of a document, completes that document inside whatever
containers are open. The two halves know nothing of each other: the first is about characters, the
second about tokens.
-/

namespace RuntimeImage.Json

namespace Value

mutual

/-- The tokens of a document: its marks, names and scalars in order. -/
def tokens : Value → List Token
  | null => [.null]
  | bool b => [.bool b]
  | int n => [.int n]
  | real x => [.real x]
  | text s => [.text s]
  | list [] => [.openArray, .closeArray]
  | list (v :: rest) => .openArray :: (v.tokens ++ (itemTokens rest ++ [.closeArray]))
  | object [] => [.openObject, .closeObject]
  | object ((k, v) :: rest) =>
    .openObject :: .text k :: .colon :: (v.tokens ++ (memberTokens rest ++ [.closeObject]))

/-- The tokens of the items behind the first. -/
def itemTokens : List Value → List Token
  | [] => []
  | v :: rest => .comma :: (v.tokens ++ itemTokens rest)

/-- The tokens of the members behind the first. -/
def memberTokens : List (String × Value) → List Token
  | [] => []
  | (k, v) :: rest => .comma :: .text k :: .colon :: (v.tokens ++ memberTokens rest)

end

mutual

/-- How deep containers are nested in a document. -/
def nesting : Value → Nat
  | list items => nestingItems items + 1
  | object members => nestingMembers members + 1
  | _ => 0

def nestingItems : List Value → Nat
  | [] => 0
  | v :: rest => max v.nesting (nestingItems rest)

def nestingMembers : List (String × Value) → Nat
  | [] => 0
  | (_, v) :: rest => max v.nesting (nestingMembers rest)

end

theorem nestingItems_le_iff {vs : List Value} {n : Nat} :
    nestingItems vs ≤ n ↔ ∀ v ∈ vs, v.nesting ≤ n := by
  induction vs with
  | nil => simp [nestingItems]
  | cons v vs ih => rw [nestingItems, Nat.max_le, ih, List.forall_mem_cons]

theorem nestingMembers_le_iff {ms : List (String × Value)} {n : Nat} :
    nestingMembers ms ≤ n ↔ ∀ m ∈ ms, m.2.nesting ≤ n := by
  induction ms with
  | nil => simp [nestingMembers]
  | cons m ms ih => rw [nestingMembers, Nat.max_le, ih, List.forall_mem_cons]

end Value

/-- The integers among the tokens have no more decimal digits than an integer may have. -/
def Token.Short (ts : List Token) : Prop :=
  ∀ n, .int n ∈ ts → (Nat.toDigits 10 n.natAbs).length ≤ Integer.maxDigits

/-! ## From characters to tokens -/

namespace Printer

variable {layout : Layout}

/-- A layout that puts nothing but blanks around the parts of a container, and a comma in front of
those between two parts. What it puts behind the last part ends a number, or the bracket does. -/
structure Layout.Blank (layout : Layout) : Prop where
  opening : ∀ depth, (layout.opening depth).all Token.isSpace
  between : ∀ depth, ∃ blanks, layout.between depth = ',' :: blanks ∧ blanks.all Token.isSpace
  closing : ∀ depth, (layout.closing depth).all Token.isSpace
  ends : ∀ depth {rest : List Char}, Token.Ends rest → Token.Ends (layout.closing depth ++ rest)

theorem Layout.blank_line : Layout.line.Blank where
  opening _ := rfl
  between _ := ⟨[' '], rfl, rfl⟩
  closing _ := rfl
  ends _ _ h := h

theorem all_isSpace_newline (depth : Nat) : (newline depth).all Token.isSpace := by
  rw [newline, List.all_cons, Bool.and_eq_true]
  refine ⟨rfl, List.all_eq_true.mpr fun c hc => ?_⟩
  rw [List.eq_of_mem_replicate hc]
  rfl

theorem Layout.blank_indented : Layout.indented.Blank where
  opening depth := all_isSpace_newline (depth + 1)
  between depth := ⟨newline (depth + 1), rfl, all_isSpace_newline (depth + 1)⟩
  closing := all_isSpace_newline
  ends _ _ _ := .newline

/-! The parts of a container, one after the other. -/

theorem value_list_cons (depth : Nat) (v : Value) (vs : List Value) :
    value layout depth (.list (v :: vs)) =
      '[' :: (layout.opening depth ++ (value layout (depth + 1) v ++
        (items layout depth vs ++ (layout.closing depth ++ [']'])))) := by
  simp only [value, List.append_assoc, List.cons_append]

theorem value_object_cons (depth : Nat) (k : String) (v : Value) (ms : List (String × Value)) :
    value layout depth (.object ((k, v) :: ms)) =
      '\x7b' :: (layout.opening depth ++ (text k ++ (':' :: ' ' :: (value layout (depth + 1) v ++
        (members layout depth ms ++ (layout.closing depth ++ ['\x7d'])))))) := by
  simp only [value, List.append_assoc, List.cons_append]

theorem items_cons (depth : Nat) (v : Value) (vs : List Value) :
    items layout depth (v :: vs) =
      layout.between depth ++ (value layout (depth + 1) v ++ items layout depth vs) := by
  simp only [items, List.append_assoc]

theorem members_cons (depth : Nat) (k : String) (v : Value) (ms : List (String × Value)) :
    members layout depth ((k, v) :: ms) =
      layout.between depth ++ (text k ++ (':' :: ' ' :: (value layout (depth + 1) v ++
        members layout depth ms))) := by
  simp only [members, List.append_assoc, List.cons_append]

end Printer

namespace Token

variable {rest : List Char}

theorem short_nil : Short [] := nofun

theorem short_cons_iff {t : Token} {ts : List Token} :
    Short (t :: ts) ↔
      (∀ n, t = .int n → (Nat.toDigits 10 n.natAbs).length ≤ Integer.maxDigits) ∧ Short ts := by
  simp only [Short, List.mem_cons, or_imp, forall_and, eq_comm]

theorem short_append_iff {ts us : List Token} : Short (ts ++ us) ↔ Short ts ∧ Short us := by
  simp only [Short, List.mem_append, or_imp, forall_and]

theorem short_itemTokens_iff {vs : List Value} :
    Short (Value.itemTokens vs) ↔ ∀ v ∈ vs, Short v.tokens := by
  induction vs with
  | nil => simp [Value.itemTokens, short_nil]
  | cons v vs ih => simp [Value.itemTokens, short_cons_iff, short_append_iff, ih]

theorem short_memberTokens_iff {ms : List (String × Value)} :
    Short (Value.memberTokens ms) ↔ ∀ m ∈ ms, Short m.2.tokens := by
  induction ms with
  | nil => simp [Value.memberTokens, short_nil]
  | cons m ms ih => simp [Value.memberTokens, short_cons_iff, short_append_iff, ih]

/-- The marks and the names of a container are no integers. -/
theorem short_list_iff {vs : List Value} :
    Short (Value.list vs).tokens ↔ ∀ v ∈ vs, Short v.tokens := by
  cases vs with
  | nil => simp [Value.tokens, short_cons_iff, short_nil]
  | cons v vs =>
    simp [Value.tokens, short_cons_iff, short_append_iff, short_nil, short_itemTokens_iff]

theorem short_object_iff {ms : List (String × Value)} :
    Short (Value.object ms).tokens ↔ ∀ m ∈ ms, Short m.2.tokens := by
  cases ms with
  | nil => simp [Value.tokens, short_cons_iff, short_nil]
  | cons m ms =>
    simp [Value.tokens, short_cons_iff, short_append_iff, short_nil, short_memberTokens_iff]

theorem short_int_iff {n : Int} : Short (Value.int n).tokens ↔
    (Nat.toDigits 10 n.natAbs).length ≤ Integer.maxDigits := by
  simp [Value.tokens, short_cons_iff, short_nil]

theorem short_bool (b : Bool) : Short (Value.bool b).tokens := by
  simp [Value.tokens, short_cons_iff, short_nil]

theorem short_text (s : String) : Short (Value.text s).tokens := by
  simp [Value.tokens, short_cons_iff, short_nil]

variable {layout : Printer.Layout}

theorem Ends.items (hl : layout.Blank) (depth : Nat) (vs : List Value) (h : Ends rest) :
    Ends (Printer.items layout depth vs ++ rest) := by
  cases vs with
  | nil => exact h
  | cons v vs =>
    obtain ⟨blanks, hbetween, -⟩ := hl.between depth
    rw [Printer.items_cons, hbetween]
    exact .comma

theorem Ends.members (hl : layout.Blank) (depth : Nat) (ms : List (String × Value))
    (h : Ends rest) : Ends (Printer.members layout depth ms ++ rest) := by
  cases ms with
  | nil => exact h
  | cons m ms =>
    obtain ⟨blanks, hbetween, -⟩ := hl.between depth
    rw [Printer.members_cons, hbetween]
    exact .comma

/-- Between two parts stands one token, a comma. -/
theorem ofText_between (hl : layout.Blank) (depth : Nat) (rest : List Char) :
    ofText (layout.between depth ++ rest) = .comma :: ofText rest := by
  obtain ⟨blanks, hbetween, hblanks⟩ := hl.between depth
  rw [hbetween, List.cons_append, ofText_comma, ofText_blanks hblanks]

mutual

/-- The tokens of a printed document are its own, however it is laid out. -/
theorem ofText_value (hl : layout.Blank) : ∀ {v : Value}, v.Normal → Short v.tokens →
    ∀ (depth : Nat) {rest : List Char}, Ends rest →
    ofText (Printer.value layout depth v ++ rest) = v.tokens ++ ofText rest
  | .null, _, _, _, rest, _ => ofText_null rest
  | .bool b, _, _, _, rest, _ => ofText_bool b rest
  | .int n, _, hs, _, _, hrest => ofText_int n (hs n List.mem_cons_self) hrest
  | .real x, hn, _, _, _, _ => nomatch hn
  | .text s, _, _, _, rest, _ => ofText_text s rest
  | .list [], _, _, _, rest, _ => (ofText_openArray _).trans (congrArg _ (ofText_closeArray rest))
  | .list (v :: vs), .list hn, hs, depth, rest, hrest => by
    obtain ⟨hv, hvs⟩ := List.forall_mem_cons.mp hn
    obtain ⟨hsv, hsvs⟩ := List.forall_mem_cons.mp (short_list_iff.mp hs)
    -- A number is cut off right only by what is printed behind it.
    have hclose : Ends (layout.closing depth ++ ']' :: rest) := hl.ends depth .closeArray
    have hfirst := ofText_value hl hv hsv (depth + 1) (hclose.items hl depth vs)
    have hothers := ofText_items hl hvs hsvs depth hclose
    simp only [Printer.value_list_cons, List.cons_append, List.append_assoc, List.nil_append]
    rw [ofText_openArray, ofText_blanks (hl.opening depth), hfirst, hothers,
      ofText_blanks (hl.closing depth), ofText_closeArray]
    simp only [Value.tokens, List.cons_append, List.append_assoc, List.nil_append]
  | .object [], _, _, _, rest, _ =>
    (ofText_openObject _).trans (congrArg _ (ofText_closeObject rest))
  | .object ((k, v) :: ms), .object _ hn, hs, depth, rest, hrest => by
    obtain ⟨hv, hms⟩ := List.forall_mem_cons.mp hn
    obtain ⟨hsv, hsms⟩ := List.forall_mem_cons.mp (short_object_iff.mp hs)
    have hclose : Ends (layout.closing depth ++ '\x7d' :: rest) := hl.ends depth .closeObject
    have hfirst := ofText_value hl hv hsv (depth + 1) (hclose.members hl depth ms)
    have hothers := ofText_members hl hms hsms depth hclose
    simp only [Printer.value_object_cons, List.cons_append, List.append_assoc, List.nil_append]
    rw [ofText_openObject, ofText_blanks (hl.opening depth), ofText_text, ofText_colon, hfirst,
      hothers, ofText_blanks (hl.closing depth), ofText_closeObject]
    simp only [Value.tokens, List.cons_append, List.append_assoc, List.nil_append]

theorem ofText_items (hl : layout.Blank) : ∀ {vs : List Value}, (∀ v ∈ vs, v.Normal) →
    (∀ v ∈ vs, Short v.tokens) → ∀ (depth : Nat) {rest : List Char}, Ends rest →
    ofText (Printer.items layout depth vs ++ rest) = Value.itemTokens vs ++ ofText rest
  | [], _, _, _, _, _ => rfl
  | v :: vs, hn, hs, depth, rest, hrest => by
    obtain ⟨hv, hvs⟩ := List.forall_mem_cons.mp hn
    obtain ⟨hsv, hsvs⟩ := List.forall_mem_cons.mp hs
    have hfirst := ofText_value hl hv hsv (depth + 1) (hrest.items hl depth vs)
    have hothers := ofText_items hl hvs hsvs depth hrest
    simp only [Printer.items_cons, List.append_assoc]
    rw [ofText_between hl, hfirst, hothers]
    simp only [Value.itemTokens, List.cons_append, List.append_assoc]

theorem ofText_members (hl : layout.Blank) : ∀ {ms : List (String × Value)},
    (∀ m ∈ ms, m.2.Normal) → (∀ m ∈ ms, Short m.2.tokens) →
    ∀ (depth : Nat) {rest : List Char}, Ends rest →
    ofText (Printer.members layout depth ms ++ rest) = Value.memberTokens ms ++ ofText rest
  | [], _, _, _, _, _ => rfl
  | (k, v) :: ms, hn, hs, depth, rest, hrest => by
    obtain ⟨hv, hms⟩ := List.forall_mem_cons.mp hn
    obtain ⟨hsv, hsms⟩ := List.forall_mem_cons.mp hs
    have hfirst := ofText_value hl hv hsv (depth + 1) (hrest.members hl depth ms)
    have hothers := ofText_members hl hms hsms depth hrest
    simp only [Printer.members_cons, List.cons_append, List.append_assoc]
    rw [ofText_between hl, ofText_text, ofText_colon, hfirst, hothers]
    simp only [Value.memberTokens, List.cons_append, List.append_assoc]

end

end Token

/-! ## From tokens to values -/

namespace Reader

variable {depth length : Nat} {state next last : State} {up : List Frame} {t : Token}
  {ts : List Token} {ls : List Lexeme}

/-- The state after some tokens, unless one of them is refused. -/
def feed (depth : Nat) : State → List Token → Option State
  | state, [] => some state
  | state, t :: ts =>
    match step depth state ⟨0, t⟩ with
    | .ok next => feed depth next ts
    | .error _ => none

theorem feed_cons (h : step depth state ⟨0, t⟩ = .ok next) (ts : List Token) :
    feed depth state (t :: ts) = feed depth next ts := by
  rw [feed, h]

/-- The place of a token only counts when it is refused. -/
theorem step_of_token {start other : Nat} (h : step depth state ⟨start, t⟩ = .ok next) :
    step depth state ⟨other, t⟩ = .ok next := by
  cases state <;> cases t <;> first | exact h | cases h

theorem run_of_feed (h : feed depth state (ls.map Lexeme.token) = some last) :
    run depth length state ls = last.finish length := by
  induction ls generalizing state with
  | nil =>
    cases h
    rfl
  | cons l ls ih =>
    rw [List.map_cons, feed] at h
    split at h
    · next middle hstep =>
      rw [run, (step_of_token hstep : step depth state l = .ok middle)]
      exact ih h
    · cases h

/-- A member whose name comes after all the others is put behind them. -/
theorem put_of_pairwise {done ms : Table Value} {k : String} {v : Value}
    (h : (done ++ (k, v) :: ms).Pairwise (fun a b => a.1 < b.1)) :
    done.put k v = done ++ [(k, v)] := by
  refine Table.put_of_notMem v fun hk => ?_
  obtain ⟨m, hm, rfl⟩ := List.mem_map.mp hk
  have hlt := (List.pairwise_append.mp h).2.2 m hm (m.1, v) List.mem_cons_self
  exact String.lt_irrefl m.1 hlt

/-- Where the first item of an array is expected, a value is read as one: it does not start with the
bracket that would close the array. -/
theorem feed_itemOrEnd (v : Value) (ts : List Token) :
    feed depth (.itemOrEnd up) (v.tokens ++ ts) =
      feed depth (.value (.items [] :: up)) (v.tokens ++ ts) := by
  have hhead : ∃ t us, v.tokens = t :: us ∧ t ≠ .closeArray := by
    unfold Value.tokens
    split
    all_goals exact ⟨_, _, rfl, nofun⟩
  obtain ⟨t, us, heq, hne⟩ := hhead
  have hstep : step depth (.itemOrEnd up) ⟨0, t⟩ = readValue depth (.items [] :: up) ⟨0, t⟩ :=
    if_neg hne
  rw [heq, List.cons_append, feed, hstep, feed]
  rfl

mutual

/-- Fed with the tokens of a value where one is expected, the reader completes that value. -/
theorem feed_value : ∀ {v : Value}, v.Normal → ∀ {up : List Frame},
    up.length + v.nesting ≤ depth → ∀ (ts : List Token),
    feed depth (.value up) (v.tokens ++ ts) = feed depth (.complete v up) ts
  | .null, _, _, _, _ => rfl
  | .bool b, _, _, _, _ => rfl
  | .int n, _, _, _, _ => rfl
  | .real x, hn, _, _, _ => nomatch hn
  | .text s, _, _, _, _ => rfl
  | .list [], _, up, hd, ts => by
    rw [Value.nesting] at hd
    have hopen : step depth (.value up) ⟨0, .openArray⟩ = .ok (.itemOrEnd up) :=
      if_pos (by omega)
    exact feed_cons hopen _
  | .list (v :: vs), .list hn, up, hd, ts => by
    obtain ⟨hv, hvs⟩ := List.forall_mem_cons.mp hn
    rw [Value.nesting, Value.nestingItems] at hd
    have hopen : step depth (.value up) ⟨0, .openArray⟩ = .ok (.itemOrEnd up) :=
      if_pos (by omega)
    have hinner : (Frame.items [] :: up).length + v.nesting ≤ depth := by
      rw [List.length_cons]
      omega
    -- The items are kept newest first, and turned round when the array is closed.
    have hclose : step depth (.afterItem (vs.reverse ++ [v]) up) ⟨0, .closeArray⟩ =
        .ok (.complete (.list (v :: vs)) up) := by
      have hreverse : (vs.reverse ++ [v]).reverse = v :: vs := by simp
      rw [← hreverse]
      rfl
    rw [Value.tokens, List.cons_append, List.append_assoc, List.append_assoc, feed_cons hopen,
      feed_itemOrEnd, feed_value hv hinner]
    exact (feed_items hvs (by omega) [v] _).trans (feed_cons hclose ts)
  | .object [], _, up, hd, ts => by
    rw [Value.nesting] at hd
    have hopen : step depth (.value up) ⟨0, .openObject⟩ = .ok (.nameOrEnd up) :=
      if_pos (by omega)
    exact feed_cons hopen _
  | .object ((k, v) :: ms), .object hnames hn, up, hd, ts => by
    obtain ⟨hv, hms⟩ := List.forall_mem_cons.mp hn
    rw [Value.nesting, Value.nestingMembers] at hd
    have hopen : step depth (.value up) ⟨0, .openObject⟩ = .ok (.nameOrEnd up) :=
      if_pos (by omega)
    have hname : step depth (.nameOrEnd up) ⟨0, .text k⟩ = .ok (.colon [] k up) := rfl
    have hcolon : step depth (.colon [] k up) ⟨0, .colon⟩ = .ok (.value (.member [] k :: up)) := rfl
    have hinner : (Frame.member [] k :: up).length + v.nesting ≤ depth := by
      rw [List.length_cons]
      omega
    rw [Value.tokens, List.cons_append, List.cons_append, List.cons_append, List.append_assoc,
      List.append_assoc, feed_cons hopen, feed_cons hname, feed_cons hcolon, feed_value hv hinner]
    exact feed_members hms (by omega) hnames _

/-- Items behind the first are put in front of those that are done, newest first. -/
theorem feed_items : ∀ {vs : List Value}, (∀ v ∈ vs, v.Normal) → ∀ {up : List Frame},
    up.length + 1 + Value.nestingItems vs ≤ depth → ∀ (done : List Value) (ts : List Token),
    feed depth (.afterItem done up) (Value.itemTokens vs ++ ts) =
      feed depth (.afterItem (vs.reverse ++ done) up) ts
  | [], _, _, _, _, _ => rfl
  | v :: vs, hn, up, hd, done, ts => by
    obtain ⟨hv, hvs⟩ := List.forall_mem_cons.mp hn
    rw [Value.nestingItems] at hd
    have hcomma : step depth (.afterItem done up) ⟨0, .comma⟩ = .ok (.value (.items done :: up)) :=
      rfl
    have hinner : (Frame.items done :: up).length + v.nesting ≤ depth := by
      rw [List.length_cons]
      omega
    rw [Value.itemTokens, List.cons_append, List.append_assoc, feed_cons hcomma,
      feed_value hv hinner, List.reverse_cons, List.append_assoc]
    exact feed_items hvs (by omega) (v :: done) ts

/-- Members behind the first are put behind those that are done. -/
theorem feed_members : ∀ {ms : List (String × Value)}, (∀ m ∈ ms, m.2.Normal) →
    ∀ {up : List Frame}, up.length + 1 + Value.nestingMembers ms ≤ depth →
    ∀ {done : List (String × Value)}, (done ++ ms).Pairwise (fun a b => a.1 < b.1) →
    ∀ (ts : List Token),
    feed depth (.afterMember done up) (Value.memberTokens ms ++ ts) =
      feed depth (.afterMember (done ++ ms) up) ts
  | [], _, _, _, done, _, ts => by
    rw [List.append_nil]
    rfl
  | (k, v) :: ms, hn, up, hd, done, hnames, ts => by
    obtain ⟨hv, hms⟩ := List.forall_mem_cons.mp hn
    rw [Value.nestingMembers] at hd
    have hcomma : step depth (.afterMember done up) ⟨0, .comma⟩ = .ok (.nextName done up) := rfl
    have hname : step depth (.nextName done up) ⟨0, .text k⟩ = .ok (.colon done k up) := rfl
    have hcolon : step depth (.colon done k up) ⟨0, .colon⟩ =
        .ok (.value (.member done k :: up)) := rfl
    have hinner : (Frame.member done k :: up).length + v.nesting ≤ depth := by
      rw [List.length_cons]
      omega
    -- A later member of the same name would replace an earlier one, but names ascend.
    have hput : State.complete v (.member done k :: up) = .afterMember (done ++ [(k, v)]) up :=
      congrArg (State.afterMember · up) (put_of_pairwise hnames)
    have hsplit : done ++ (k, v) :: ms = done ++ [(k, v)] ++ ms := by
      rw [List.append_assoc, List.singleton_append]
    rw [hsplit] at hnames ⊢
    rw [Value.memberTokens, List.cons_append, List.cons_append, List.cons_append,
      List.append_assoc, feed_cons hcomma, feed_cons hname, feed_cons hcolon,
      feed_value hv hinner, hput]
    exact feed_members hms (by omega) hnames ts

end

/-- A token that is refused is refused wherever it is. -/
theorem step_ne_ok (h : ∀ next, step depth state ⟨0, t⟩ ≠ .ok next) (start : Nat) :
    ∃ refusal, step depth state ⟨start, t⟩ = .error refusal := by
  cases hstep : step depth state ⟨start, t⟩ with
  | error refusal => exact ⟨refusal, rfl⟩
  | ok next => exact absurd (step_of_token hstep) (h next)

theorem run_of_feed_eq_none (h : feed depth state (ls.map Lexeme.token) = none) :
    ∃ refusal, run depth length state ls = .error refusal := by
  induction ls generalizing state with
  | nil => cases h
  | cons l ls ih =>
    rw [List.map_cons, feed] at h
    split at h
    · next middle hstep =>
      rw [run, (step_of_token hstep : step depth state l = .ok middle)]
      exact ih h
    · next refusal hstep =>
      have hne : ∀ next, step depth state ⟨0, l.token⟩ ≠ .ok next := by
        intro next hnext
        cases hstep.symm.trans hnext
      obtain ⟨refusal', hrefused⟩ := step_ne_ok hne l.start
      exact ⟨refusal', by rw [run, hrefused]⟩

theorem feed_of_error {refusal : Refusal} (h : step depth state ⟨0, t⟩ = .error refusal)
    (ts : List Token) : feed depth state (t :: ts) = none := by
  rw [feed, h]

/-! A document that is nested deeper than there is room for is refused where the first container too
many is opened. What stands in front of it in the containers around it is read. -/

mutual

theorem feed_value_deep : ∀ {v : Value}, v.Normal → ∀ {up : List Frame}, up.length ≤ depth →
    depth < up.length + v.nesting → ∀ (ts : List Token),
    feed depth (.value up) (v.tokens ++ ts) = none
  | .null, _, _, hup, hd, _ | .bool _, _, _, hup, hd, _ | .int _, _, _, hup, hd, _
  | .real _, _, _, hup, hd, _ | .text _, _, _, hup, hd, _ => absurd hd (Nat.not_lt.mpr hup)
  | .list vs, .list hn, up, hup, hd, ts => by
    rw [Value.nesting] at hd
    by_cases hroom : up.length < depth
    · have hopen : step depth (.value up) ⟨0, .openArray⟩ = .ok (.itemOrEnd up) := if_pos hroom
      cases vs with
      | nil =>
        rw [Value.nestingItems] at hd
        omega
      | cons v vs =>
        obtain ⟨hv, hvs⟩ := List.forall_mem_cons.mp hn
        have hlength : (Frame.items [] :: up).length = up.length + 1 := List.length_cons
        rw [Value.nestingItems] at hd
        rw [Value.tokens, List.cons_append, List.append_assoc, List.append_assoc, feed_cons hopen,
          feed_itemOrEnd]
        by_cases hfirst : up.length + 1 + v.nesting ≤ depth
        · rw [feed_value hv (by omega)]
          exact feed_items_deep hvs hroom (by omega) [v] _
        · exact feed_value_deep hv (by omega) (by omega) _
    · have hfull : step depth (.value up) ⟨0, .openArray⟩ = .error (.tooDeep .array) :=
        if_neg hroom
      cases vs <;> exact feed_of_error hfull _
  | .object ms, .object hnames hn, up, hup, hd, ts => by
    rw [Value.nesting] at hd
    by_cases hroom : up.length < depth
    · have hopen : step depth (.value up) ⟨0, .openObject⟩ = .ok (.nameOrEnd up) := if_pos hroom
      cases ms with
      | nil =>
        rw [Value.nestingMembers] at hd
        omega
      | cons m ms =>
        obtain ⟨k, v⟩ := m
        obtain ⟨(hv : v.Normal), hms⟩ := List.forall_mem_cons.mp hn
        have hname : step depth (.nameOrEnd up) ⟨0, .text k⟩ = .ok (.colon [] k up) := rfl
        have hcolon : step depth (.colon [] k up) ⟨0, .colon⟩ =
            .ok (.value (.member [] k :: up)) := rfl
        have hlength : (Frame.member [] k :: up).length = up.length + 1 := List.length_cons
        rw [Value.nestingMembers] at hd
        rw [Value.tokens, List.cons_append, List.cons_append, List.cons_append, List.append_assoc,
          List.append_assoc, feed_cons hopen, feed_cons hname, feed_cons hcolon]
        by_cases hfirst : up.length + 1 + v.nesting ≤ depth
        · rw [feed_value hv (by omega)]
          exact feed_members_deep hms hroom (by omega) _ _
        · exact feed_value_deep hv (by omega) (by omega) _
    · have hfull : step depth (.value up) ⟨0, .openObject⟩ = .error (.tooDeep .object) :=
        if_neg hroom
      cases ms <;> exact feed_of_error hfull _

theorem feed_items_deep : ∀ {vs : List Value}, (∀ v ∈ vs, v.Normal) → ∀ {up : List Frame},
    up.length < depth → depth < up.length + 1 + Value.nestingItems vs →
    ∀ (done : List Value) (ts : List Token),
    feed depth (.afterItem done up) (Value.itemTokens vs ++ ts) = none
  | [], _, _, hup, hd, _, _ => absurd hd (Nat.not_lt.mpr hup)
  | v :: vs, hn, up, hup, hd, done, ts => by
    obtain ⟨hv, hvs⟩ := List.forall_mem_cons.mp hn
    have hcomma : step depth (.afterItem done up) ⟨0, .comma⟩ = .ok (.value (.items done :: up)) :=
      rfl
    have hlength : (Frame.items done :: up).length = up.length + 1 := List.length_cons
    rw [Value.nestingItems] at hd
    rw [Value.itemTokens, List.cons_append, List.append_assoc, feed_cons hcomma]
    by_cases hfirst : up.length + 1 + v.nesting ≤ depth
    · rw [feed_value hv (by omega)]
      exact feed_items_deep hvs hup (by omega) (v :: done) ts
    · exact feed_value_deep hv (by omega) (by omega) _

theorem feed_members_deep : ∀ {ms : List (String × Value)}, (∀ m ∈ ms, m.2.Normal) →
    ∀ {up : List Frame}, up.length < depth →
    depth < up.length + 1 + Value.nestingMembers ms →
    ∀ (done : List (String × Value)) (ts : List Token),
    feed depth (.afterMember done up) (Value.memberTokens ms ++ ts) = none
  | [], _, _, hup, hd, _, _ => absurd hd (Nat.not_lt.mpr hup)
  | (k, v) :: ms, hn, up, hup, hd, done, ts => by
    obtain ⟨(hv : v.Normal), hms⟩ := List.forall_mem_cons.mp hn
    have hcomma : step depth (.afterMember done up) ⟨0, .comma⟩ = .ok (.nextName done up) := rfl
    have hname : step depth (.nextName done up) ⟨0, .text k⟩ = .ok (.colon done k up) := rfl
    have hcolon : step depth (.colon done k up) ⟨0, .colon⟩ =
        .ok (.value (.member done k :: up)) := rfl
    have hlength : (Frame.member done k :: up).length = up.length + 1 := List.length_cons
    rw [Value.nestingMembers] at hd
    rw [Value.memberTokens, List.cons_append, List.cons_append, List.cons_append,
      List.append_assoc, feed_cons hcomma, feed_cons hname, feed_cons hcolon]
    by_cases hfirst : up.length + 1 + v.nesting ≤ depth
    · rw [feed_value hv (by omega)]
      exact feed_members_deep hms hup (by omega) _ ts
    · exact feed_value_deep hv (by omega) (by omega) _

end

end Reader

/-- A text with the tokens of a document reads as that document when there is room for its
containers, and is refused when there is none. -/
theorem readWithin_of_ofText {v : Value} {text : List Char} (hn : v.Normal)
    (hmark : text.head? ≠ some '\ufeff') (htokens : Token.ofText text = v.tokens) (limit : Nat) :
    (v.nesting ≤ limit → readWithin limit text = .ok v) ∧
      (limit < v.nesting → ∃ refusal, readWithin limit text = .error refusal) := by
  have hread : readWithin limit text =
      Reader.run limit text.length (.value []) (Token.lex 0 0 text) := by
    unfold readWithin
    split
    · exact absurd rfl hmark
    · rfl
  have hempty : ([] : List Reader.Frame).length = 0 := rfl
  rw [hread]
  rw [← List.append_nil v.tokens] at htokens
  constructor
  · intro hroom
    have hfeed : Reader.feed limit (.value []) (v.tokens ++ []) = some (.finished v) :=
      Reader.feed_value hn (by omega) []
    rw [← htokens] at hfeed
    exact Reader.run_of_feed hfeed
  · intro hdeep
    have hfeed : Reader.feed limit (.value []) (v.tokens ++ []) = none :=
      Reader.feed_value_deep hn (Nat.zero_le limit) (by omega) []
    rw [← htokens] at hfeed
    exact Reader.run_of_feed_eq_none hfeed

end RuntimeImage.Json
