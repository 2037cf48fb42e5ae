import Mathlib.Data.List.Forall2
import RuntimeImage.Text.Shell

/-!
How a shell reads a command line. Quotes and backslashes are resolved first; what is left are
characters that came through a quote, and bare ones, which alone can mean something to the shell.
Bare blanks then part the words. A word that was quoted for the shell is read back as its text, and
nothing special is bare in it, whatever the text is.
-/

namespace RuntimeImage.Shell

/-! ## Reading a line -/

inductive Mode
  | outside
  | escaped
  | single
  | double
  | doubleEscaped

/-- A character of a line with what the shell makes of it. That a quote was opened is kept too, for
an empty text between quotes is a word. -/
inductive Mark
  | bare (c : Char)
  | quoted (c : Char)
  | opened
  deriving DecidableEq

/-- What the shell does with a character: where it stands then, and the marks it has made. Between
double quotes a dollar sign and a backquote keep their meaning. -/
def step : Mode → Char → Mode × List Mark
  | .outside, c =>
    if c = '\x27' then (.single, [.opened])
    else if c = '\x22' then (.double, [.opened])
    else if c = '\\' then (.escaped, [])
    else (.outside, [.bare c])
  | .escaped, c => (.outside, if c = '\n' then [] else [.quoted c])
  | .single, c => if c = '\x27' then (.outside, []) else (.single, [.quoted c])
  | .double, c =>
    if c = '\x22' then (.outside, [])
    else if c = '\\' then (.doubleEscaped, [])
    else if c ∈ ['$', '\x60'] then (.double, [.bare c])
    else (.double, [.quoted c])
  | .doubleEscaped, c =>
    if c = '\n' then (.double, [])
    else if c ∈ ['\x22', '\\', '$', '\x60'] then (.double, [.quoted c])
    else (.double, [.quoted '\\', .quoted c])

/-- The marks of a line, if every quote in it is closed. -/
def scan : Mode → List Char → Option (List Mark)
  | .outside, [] => some []
  | _, [] => none
  | mode, c :: rest => (scan (step mode c).1 rest).map ((step mode c).2 ++ ·)

def blanks : List Char := [' ', '\t', '\n', '\r']

def operators : List Char := ['|', '&', ';', '<', '>', '(', ')']

/-- What starts an expansion, a pattern, a comment, or stands for something else. -/
def expansions : List Char := ['$', '\x60', '*', '?', '[', ']', '~', '{', '}', '#', '!', '^']

def isSpecial (c : Char) : Bool := c ∈ blanks ++ operators ++ expansions

namespace Mark

def isBlank : Mark → Bool
  | bare c => c ∈ blanks
  | _ => false

def char? : Mark → Option Char
  | bare c => some c
  | quoted c => some c
  | opened => none

/-- The character, if it is one that means something to the shell. -/
def special? : Mark → Option Char
  | bare c => if isSpecial c then some c else none
  | _ => none

end Mark

def words (marks : List Mark) : List (List Mark) :=
  (marks.splitOnP Mark.isBlank).filter (· ≠ [])

def textOf (marks : List Mark) : String := String.ofList (marks.filterMap Mark.char?)

/-- The words of a line, without their quotes. -/
def split (line : String) : Option (List String) :=
  (scan .outside line.toList).map fun marks => (words marks).map textOf

/-! ## What a line is meant to say -/

/-- A word of a line: one of its template, written as it is, or an argument, any text at all. -/
inductive Part
  | fixed (text : String)
  | argument (text : String)

namespace Part

def text : Part → String
  | fixed text => text
  | argument text => text

/-- What the template has of the word. -/
def template : Part → List Char
  | fixed text => text.toList
  | argument _ => []

/-- The word carries the part: all of a fixed text is bare, nothing special is in an argument. -/
def CarriedBy : Part → List Mark → Prop
  | fixed text, word => word = text.toList.map .bare
  | argument text, word => textOf word = text ∧ word.filterMap Mark.special? = []

end Part

/-- The words of the line carry the parts, and of all its characters those that mean something to
the shell are the ones of the template, in order. -/
def Carries (line : String) (parts : List Part) : Prop :=
  ∃ marks, scan .outside line.toList = some marks ∧
    List.Forall₂ Part.CarriedBy parts (words marks) ∧
    marks.filterMap Mark.special? =
      ([' '].intercalate (parts.map Part.template)).filter isSpecial

/-! ## Quoted words -/

def quoting : List Char := ['\x27', '\x22', '\\']

def quotedMarks (c : Char) : List Mark :=
  if c = '\x27' then [.opened, .quoted c, .opened] else [.quoted c]

/-- What the shell makes of a word that was quoted for it. -/
def wordMarks (cs : List Char) : List Mark :=
  if cs ≠ [] ∧ cs.all isSafe then cs.map .bare else .opened :: cs.flatMap quotedMarks

variable {c : Char} {cs rest : List Char} {after : List Mark}

theorem scan_bare (h : ∀ c ∈ cs, c ∉ quoting) (hr : scan .outside rest = some after) :
    scan .outside (cs ++ rest) = some (cs.map .bare ++ after) := by
  induction cs with
  | nil => exact hr
  | cons c cs ih =>
    have hc : c ≠ '\x27' ∧ c ≠ '\x22' ∧ c ≠ '\\' := by
      simpa [quoting] using h c List.mem_cons_self
    have hstep : step .outside c = (.outside, [.bare c]) := by simp [step, hc]
    rw [List.cons_append, scan, hstep, ih fun d hd => h d (List.mem_cons_of_mem c hd)]
    rfl

/-- A single quote leaves the quotes, stands between double ones, and enters single ones again. -/
theorem scan_quoted (c : Char) (hr : scan .single rest = some after) :
    scan .single (quoted c ++ rest) = some (quotedMarks c ++ after) := by
  unfold quoted quotedMarks
  split
  · next hc =>
    subst hc
    simp [scan, step, hr]
  · next hc =>
    simp [scan, step, hc, hr]

theorem scan_flatMap_quoted (cs : List Char) (hr : scan .single rest = some after) :
    scan .single (cs.flatMap quoted ++ rest) = some (cs.flatMap quotedMarks ++ after) := by
  induction cs with
  | nil => exact hr
  | cons c cs ih =>
    rw [List.flatMap_cons, List.flatMap_cons, List.append_assoc, List.append_assoc]
    exact scan_quoted c ih

theorem notMem_quoting_of_isSafe (h : isSafe c = true) : c ∉ quoting := by
  have hunsafe : quoting.all (!isSafe ·) = true := by decide
  intro hc
  have hc := List.all_eq_true.mp hunsafe c hc
  rw [h] at hc
  cases hc

theorem scan_wordChars (cs : List Char) (hr : scan .outside rest = some after) :
    scan .outside (wordChars cs ++ rest) = some (wordMarks cs ++ after) := by
  unfold wordChars wordMarks
  split
  · next h =>
    exact scan_bare (fun c hc => notMem_quoting_of_isSafe (List.all_eq_true.mp h.2 c hc)) hr
  · -- The quote at the end is read first: what the lexer makes of a text depends on what follows.
    have hclosed : scan .single ('\x27' :: rest) = some after := by simp [scan, step, hr]
    have hopen : step .outside '\x27' = (.single, [.opened]) := rfl
    rw [List.cons_append, scan, hopen, List.append_assoc, List.singleton_append,
      scan_flatMap_quoted cs hclosed]
    rfl

@[simp] theorem toList_word (text : String) : (word text).toList = wordChars text.toList :=
  String.toList_ofList

theorem isSpecial_eq_false_of_isSafe (h : isSafe c = true) : isSpecial c = false := by
  have hunsafe : (blanks ++ operators ++ expansions).all (!isSafe ·) = true := by decide
  refine decide_eq_false fun hc => ?_
  have hc := List.all_eq_true.mp hunsafe c hc
  rw [h] at hc
  cases hc

theorem wordMarks_ne_nil (cs : List Char) : wordMarks cs ≠ [] := by
  unfold wordMarks
  split
  · next h => simpa using h.1
  · exact List.cons_ne_nil _ _

/-- A mark in a quoted word is a bare safe character, or no bare one. -/
theorem mem_wordMarks {m : Mark} (h : m ∈ wordMarks cs) :
    (∃ c, m = .bare c ∧ isSafe c = true) ∨ ∀ c, m ≠ .bare c := by
  unfold wordMarks at h
  split at h
  · next hsafe =>
    obtain ⟨c, hc, rfl⟩ := List.mem_map.mp h
    exact Or.inl ⟨c, rfl, List.all_eq_true.mp hsafe.2 c hc⟩
  · refine Or.inr fun c hm => ?_
    subst hm
    simp only [List.mem_cons, reduceCtorEq, false_or, List.mem_flatMap] at h
    obtain ⟨d, -, hd⟩ := h
    unfold quotedMarks at hd
    split at hd <;> simp at hd

theorem textOf_map_bare (cs : List Char) : textOf (cs.map .bare) = String.ofList cs := by
  simp [textOf, List.filterMap_map, Function.comp_def, Mark.char?]

theorem textOf_wordMarks (text : String) : textOf (wordMarks text.toList) = text := by
  have hquoted : ∀ c, (quotedMarks c).filterMap Mark.char? = [c] := by
    intro c
    unfold quotedMarks
    split <;> rfl
  unfold wordMarks
  split
  · rw [textOf_map_bare, String.ofList_toList]
  · rw [textOf, List.filterMap_cons_none rfl, List.filterMap_flatMap]
    simp [hquoted]

theorem special?_eq_none_of_mem_wordMarks {m : Mark} (h : m ∈ wordMarks cs) :
    m.special? = none := by
  rcases mem_wordMarks h with ⟨c, rfl, hsafe⟩ | hbare
  · simp [Mark.special?, isSpecial_eq_false_of_isSafe hsafe]
  · cases m with
    | bare c => exact absurd rfl (hbare c)
    | quoted c => rfl
    | opened => rfl

theorem isBlank_eq_false_of_special? {m : Mark} (h : m.special? = none) : m.isBlank = false := by
  cases m with
  | bare c =>
    simp only [Mark.special?, ite_eq_right_iff, reduceCtorEq, imp_false, isSpecial,
      decide_eq_true_eq, List.mem_append, not_or] at h
    simpa [Mark.isBlank] using h.1.1
  | quoted c => rfl
  | opened => rfl

/-! ## Lines that are put together from parts -/

namespace Part

/-- How the part is written. -/
def chars : Part → List Char
  | fixed text => text.toList
  | argument text => wordChars text.toList

def marks : Part → List Mark
  | fixed text => text.toList.map .bare
  | argument text => wordMarks text.toList

/-- A fixed text that the shell takes for one bare word; any argument. -/
def isPlain : Part → Bool
  | fixed text => text ≠ "" && text.toList.all (· ∉ quoting ++ blanks)
  | argument _ => true

variable {p : Part}

theorem isPlain_fixed_iff {text : String} :
    (fixed text).isPlain = true ↔
      text ≠ "" ∧ (∀ c ∈ text.toList, c ∉ quoting) ∧ ∀ c ∈ text.toList, c ∉ blanks := by
  simp only [isPlain, Bool.and_eq_true, decide_eq_true_eq, List.all_eq_true, List.mem_append,
    not_or]
  exact and_congr_right fun _ => ⟨fun h => ⟨fun c hc => (h c hc).1, fun c hc => (h c hc).2⟩,
    fun h c hc => ⟨h.1 c hc, h.2 c hc⟩⟩

theorem scan_chars (hp : p.isPlain = true)
    (hr : scan .outside rest = some after) :
    scan .outside (p.chars ++ rest) = some (p.marks ++ after) := by
  cases p with
  | fixed text => exact scan_bare (isPlain_fixed_iff.mp hp).2.1 hr
  | argument text => exact scan_wordChars text.toList hr

theorem marks_ne_nil (hp : p.isPlain = true) : p.marks ≠ [] := by
  cases p with
  | fixed text => simpa [marks] using (isPlain_fixed_iff.mp hp).1
  | argument text => exact wordMarks_ne_nil text.toList

theorem isBlank_of_mem_marks (hp : p.isPlain = true) : ∀ m ∈ p.marks, m.isBlank = false := by
  cases p with
  | fixed text =>
    refine List.forall_mem_map.mpr fun c hc => ?_
    simpa [Mark.isBlank] using (isPlain_fixed_iff.mp hp).2.2 c hc
  | argument text =>
    exact fun m hm => isBlank_eq_false_of_special? (special?_eq_none_of_mem_wordMarks hm)

theorem special_marks (p : Part) :
    p.marks.filterMap Mark.special? = p.template.filter isSpecial := by
  cases p with
  | fixed text =>
    have hguard : Mark.special? ∘ Mark.bare = Option.guard (isSpecial ·) := rfl
    rw [marks, template, List.filterMap_map, hguard, List.filterMap_eq_filter]
  | argument text =>
    exact List.filterMap_eq_nil_iff.mpr fun m hm => special?_eq_none_of_mem_wordMarks hm

theorem carriedBy_marks (p : Part) : p.CarriedBy p.marks := by
  cases p with
  | fixed text => rfl
  | argument text => exact ⟨textOf_wordMarks text, special_marks (argument text)⟩

end Part

variable {parts : List Part} {line : String}

theorem scan_intercalate (h : ∀ p ∈ parts, p.isPlain = true) :
    scan .outside ([' '].intercalate (parts.map Part.chars)) =
      some ([.bare ' '].intercalate (parts.map Part.marks)) := by
  have hblank {rest : List Char} {after : List Mark} (hr : scan .outside rest = some after) :
      scan .outside (' ' :: rest) = some (.bare ' ' :: after) := by
    have hplain : ∀ c ∈ [' '], c ∉ quoting := List.forall_mem_singleton.mpr (by decide)
    exact scan_bare hplain hr
  -- From the last part on, since what is in front of a part does not change how it is read.
  induction parts with
  | nil => rfl
  | cons p parts ih =>
    have hp := h p List.mem_cons_self
    have ih := ih fun p hp => h p (List.mem_cons_of_mem _ hp)
    cases parts with
    | nil =>
      have hend : scan .outside [] = some [] := rfl
      simpa using p.scan_chars hp hend
    | cons q parts =>
      rw [List.map_cons, List.map_cons, List.map_cons, List.map_cons]
      rw [List.intercalate_cons_cons, List.intercalate_cons_cons]
      rw [List.append_assoc, List.append_assoc]
      exact Part.scan_chars hp (hblank ih)

/-- Words without blanks are parted by the blanks between them. -/
theorem words_intercalate {ws : List (List Mark)} (hne : ∀ w ∈ ws, w ≠ [])
    (hb : ∀ w ∈ ws, ∀ m ∈ w, m.isBlank = false) : words ([.bare ' '].intercalate ws) = ws := by
  have hsplit : ws ≠ [] → ([.bare ' '].intercalate ws).splitOnP Mark.isBlank = ws := by
    clear hne
    induction ws with
    | nil => exact fun h => absurd rfl h
    | cons w ws ih =>
      intro _
      have hw := hb w List.mem_cons_self
      cases ws with
      | nil => rw [List.intercalate_singleton, List.splitOnP_eq_singleton hw]
      | cons v ws =>
        have ih := ih (fun u hu => hb u (List.mem_cons_of_mem _ hu)) (List.cons_ne_nil v ws)
        rw [List.intercalate_cons_cons, List.append_assoc, List.singleton_append,
          List.splitOnP_append_cons_of_forall_mem hw _ rfl, ih]
  by_cases hws : ws = []
  · subst hws
    rfl
  · rw [words, hsplit hws, List.filter_eq_self]
    simpa using hne

theorem special_intercalate (parts : List Part) :
    ([.bare ' '].intercalate (parts.map Part.marks)).filterMap Mark.special? =
      ([' '].intercalate (parts.map Part.template)).filter isSpecial := by
  induction parts with
  | nil => rfl
  | cons p parts ih =>
    cases parts with
    | nil => simpa using p.special_marks
    | cons q parts =>
      have hblank : [Mark.bare ' '].filterMap Mark.special? = [' '].filter isSpecial := by decide
      simp only [List.map_cons, List.intercalate_cons_cons] at ih ⊢
      simp only [List.filterMap_append, List.filter_append]
      rw [p.special_marks, hblank, ih]

/-- A line of plain parts, with blanks between them, carries its parts. -/
theorem carries_of_toList (h : line.toList = [' '].intercalate (parts.map Part.chars))
    (hp : ∀ p ∈ parts, p.isPlain = true) : Carries line parts := by
  refine ⟨[.bare ' '].intercalate (parts.map Part.marks), ?_, ?_, special_intercalate parts⟩
  · rw [h]
    exact scan_intercalate hp
  · rw [words_intercalate]
    · rw [List.forall₂_map_right_iff, List.forall₂_same]
      exact fun p _ => p.carriedBy_marks
    · exact List.forall_mem_map.mpr fun p hmem => Part.marks_ne_nil (hp p hmem)
    · exact List.forall_mem_map.mpr fun p hmem => Part.isBlank_of_mem_marks (hp p hmem)

theorem split_of_carries (h : Carries line parts) : split line = some (parts.map Part.text) := by
  obtain ⟨marks, hscan, hwords, -⟩ := h
  have htext : ∀ {p : Part} {word}, p.CarriedBy word → textOf word = p.text := by
    intro p word hw
    cases p with
    | fixed text =>
      rw [hw, textOf_map_bare]
      exact String.ofList_toList
    | argument text => exact hw.1
  have htexts : ∀ {parts : List Part} {ws}, List.Forall₂ Part.CarriedBy parts ws →
      ws.map textOf = parts.map Part.text := by
    intro parts ws hws
    induction hws with
    | nil => rfl
    | cons hw _ ih => rw [List.map_cons, List.map_cons, htext hw, ih]
  rw [split, hscan, Option.map_some, htexts hwords]

/-- Words that were quoted and joined for the shell are what it splits the line into. -/
theorem split_line (ws : List String) : split (Shell.line ws) = some ws := by
  have hline : (Shell.line ws).toList =
      [' '].intercalate ((ws.map Part.argument).map Part.chars) := by
    rw [Shell.line, String.toList_intercalate, List.map_map, List.map_map]
    simp [Function.comp_def, Part.chars]
  have hcarries := carries_of_toList hline (List.forall_mem_map.mpr fun _ _ => rfl)
  rw [split_of_carries hcarries, List.map_map]
  exact congrArg some (List.map_id ws)

example : Shell.line ["it's", "", "$HOME | rm", "-n"] = "'it'\"'\"'s' '' '$HOME | rm' -n" ∧
    split "'it'\"'\"'s' '' '$HOME | rm' -n" = some ["it's", "", "$HOME | rm", "-n"] := by
  decide

end RuntimeImage.Shell
