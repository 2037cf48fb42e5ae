import RuntimeImage.Proofs.Json.RoundTrip

/-!
Documents as exported: in ASCII, over indented lines, with a line break at the end. The names of a
document that has them in order already are not moved, so the export shows the document as it is.
-/

namespace RuntimeImage.Json

/-! ## ASCII -/

def IsAscii (cs : List Char) : Prop := ∀ c ∈ cs, c.toNat < 0x80

instance (cs : List Char) : Decidable (IsAscii cs) :=
  List.decidableBAll (fun c : Char => c.toNat < 0x80) cs

/-- A character that is printed as it is. -/
def IsPrintable (c : Char) : Prop := 0x20 ≤ c.toNat ∧ c.toNat < 0x7F

instance (c : Char) : Decidable (IsPrintable c) :=
  inferInstanceAs (Decidable (0x20 ≤ c.toNat ∧ c.toNat < 0x7F))

namespace Printer

/-- The text has no characters but such. -/
def Only (P : Char → Prop) (cs : List Char) : Prop := ∀ c ∈ cs, P c

instance (P : Char → Prop) [DecidablePred P] (cs : List Char) : Decidable (Only P cs) :=
  List.decidableBAll P cs

variable {P Q : Char → Prop} {cs ds : List Char} {layout : Layout}

theorem only_nil : Only P [] := nofun

theorem only_cons_iff {c : Char} : Only P (c :: cs) ↔ P c ∧ Only P cs := List.forall_mem_cons

theorem only_append_iff : Only P (cs ++ ds) ↔ Only P cs ∧ Only P ds := List.forall_mem_append

theorem Only.mono (h : Only P cs) (hPQ : ∀ c, P c → Q c) : Only Q cs := fun c hc => hPQ c (h c hc)

theorem only_unit (n : Nat) : Only IsPrintable (unit n) := by
  have hdigit : ∀ m, IsPrintable (Hex.digit (m % 16)) := by
    intro m
    have htable : ∀ d : Fin 16, IsPrintable (Hex.digit d) := by decide
    exact htable ⟨m % 16, Nat.mod_lt m (by decide)⟩
  have hdigits : ∀ width m, Only IsPrintable (Hex.fixed width m) := by
    intro width
    induction width with
    | zero => exact fun _ => only_nil
    | succ width ih =>
      intro m
      exact only_append_iff.mpr ⟨ih _, only_cons_iff.mpr ⟨hdigit m, only_nil⟩⟩
  have hescape : Only IsPrintable ['\\', 'u'] := by decide
  exact only_append_iff.mpr ⟨hescape, hdigits 4 n⟩

theorem only_char (c : Char) : Only IsPrintable (char c) := by
  unfold char
  split
  case h_8 =>
    dsimp only
    split
    · next hplain => exact only_cons_iff.mpr ⟨hplain, only_nil⟩
    · split
      · exact only_unit _
      · exact only_append_iff.mpr ⟨only_unit _, only_unit _⟩
  all_goals decide

theorem only_text (s : String) : Only IsPrintable (text s) := by
  have hchars : Only IsPrintable (s.toList.flatMap char) := by
    intro c hc
    obtain ⟨d, -, hd⟩ := List.mem_flatMap.mp hc
    exact only_char d c hd
  have hquote : Only IsPrintable ['\x22'] := by decide
  exact only_append_iff.mpr ⟨hquote, only_append_iff.mpr ⟨hchars, hquote⟩⟩

theorem only_int (i : Int) : Only IsPrintable (toString i).toList := by
  have hdigits : ∀ n, Only IsPrintable (Nat.toDigits 10 n) := by
    intro n c hc
    have hdigit := Token.isDigit_of_mem hc
    simp only [Char.isDigit, Bool.and_eq_true, decide_eq_true_eq] at hdigit
    have hge : 48 ≤ c.toNat := hdigit.1
    have hle : c.toNat ≤ 57 := hdigit.2
    exact ⟨by omega, by omega⟩
  cases i with
  | ofNat m =>
    rw [Token.toList_toString_ofNat]
    exact hdigits m
  | negSucc m =>
    rw [Token.toList_toString_negSucc]
    exact only_cons_iff.mpr ⟨by decide, hdigits (m + 1)⟩

/-- What the layout adds between the parts of a document has no characters but such. -/
structure Layout.Only (layout : Layout) (P : Char → Prop) : Prop where
  opening : ∀ depth, Printer.Only P (layout.opening depth)
  between : ∀ depth, Printer.Only P (layout.between depth)
  closing : ∀ depth, Printer.Only P (layout.closing depth)

mutual

/-- A printed document has printable characters, and those that the layout adds. -/
theorem only_value (hP : ∀ c, IsPrintable c → P c) (hl : layout.Only P) : ∀ {v : Value},
    v.Normal → ∀ depth, Only P (value layout depth v)
  | .null, _, _ => (by decide : Only IsPrintable "null".toList).mono hP
  | .bool true, _, _ => (by decide : Only IsPrintable "true".toList).mono hP
  | .bool false, _, _ => (by decide : Only IsPrintable "false".toList).mono hP
  | .int n, _, _ => (only_int n).mono hP
  | .real x, hn, _ => nomatch hn
  | .text s, _, _ => (only_text s).mono hP
  | .list [], _, _ => (by decide : Only IsPrintable ['[', ']']).mono hP
  | .list (v :: vs), .list hn, depth => by
    obtain ⟨hv, hvs⟩ := List.forall_mem_cons.mp hn
    have hfirst := only_value hP hl hv (depth + 1)
    have hothers := only_items hP hl hvs depth
    have hopen : P '[' := hP _ (by decide)
    have hclose : P ']' := hP _ (by decide)
    simp [value_list_cons, only_append_iff, only_cons_iff, only_nil, hl.opening, hl.closing, hopen,
      hclose, hfirst, hothers]
  | .object [], _, _ => (by decide : Only IsPrintable ['\x7b', '\x7d']).mono hP
  | .object ((k, v) :: ms), .object _ hn, depth => by
    obtain ⟨hv, hms⟩ := List.forall_mem_cons.mp hn
    have hname := (only_text k).mono hP
    have hfirst := only_value hP hl hv (depth + 1)
    have hothers := only_members hP hl hms depth
    have hmarks : P '\x7b' ∧ P ':' ∧ P ' ' ∧ P '\x7d' :=
      ⟨hP _ (by decide), hP _ (by decide), hP _ (by decide), hP _ (by decide)⟩
    simp [value_object_cons, only_append_iff, only_cons_iff, only_nil, hl.opening, hl.closing,
      hmarks, hname, hfirst, hothers]

theorem only_items (hP : ∀ c, IsPrintable c → P c) (hl : layout.Only P) : ∀ {vs : List Value},
    (∀ v ∈ vs, v.Normal) → ∀ depth, Only P (items layout depth vs)
  | [], _, _ => only_nil
  | v :: vs, hn, depth => by
    obtain ⟨hv, hvs⟩ := List.forall_mem_cons.mp hn
    have hfirst := only_value hP hl hv (depth + 1)
    have hothers := only_items hP hl hvs depth
    simp [items_cons, only_append_iff, hl.between, hfirst, hothers]

theorem only_members (hP : ∀ c, IsPrintable c → P c) (hl : layout.Only P) :
    ∀ {ms : List (String × Value)}, (∀ m ∈ ms, m.2.Normal) → ∀ depth,
    Only P (members layout depth ms)
  | [], _, _ => only_nil
  | (k, v) :: ms, hn, depth => by
    obtain ⟨hv, hms⟩ := List.forall_mem_cons.mp hn
    have hname := (only_text k).mono hP
    have hfirst := only_value hP hl hv (depth + 1)
    have hothers := only_members hP hl hms depth
    have hmarks : P ':' ∧ P ' ' := ⟨hP _ (by decide), hP _ (by decide)⟩
    simp [members_cons, only_append_iff, only_cons_iff, hl.between, hmarks, hname, hfirst, hothers]

end

/-- On one line a document has printable characters alone. -/
theorem only_value_line {v : Value} (hn : v.Normal) : Only IsPrintable (value .line 0 v) := by
  have hbetween : Only IsPrintable [',', ' '] := by decide
  exact only_value (fun _ h => h) ⟨fun _ => only_nil, fun _ => hbetween, fun _ => only_nil⟩ hn 0

theorem isAscii_value_indented {v : Value} (hn : v.Normal) : IsAscii (value .indented 0 v) := by
  have hnewline : ∀ depth, Only (fun c => c.toNat < 0x80) (newline depth) := by
    intro depth
    refine only_cons_iff.mpr ⟨by decide, fun c hc => ?_⟩
    rw [List.eq_of_mem_replicate hc]
    decide
  refine only_value (fun c hc => Nat.lt_succ_of_lt hc.2) ⟨?_, ?_, hnewline⟩ hn 0
  · exact fun depth => hnewline (depth + 1)
  · exact fun depth => only_cons_iff.mpr ⟨by decide, hnewline (depth + 1)⟩

end Printer

/-! ## Names in order -/

namespace Value

mutual

theorem sortKeys_of_normal : ∀ {v : Value}, v.Normal → v.sortKeys = v
  | .null, _ | .bool _, _ | .int _, _ | .real _, _ | .text _, _ => rfl
  | .list vs, .list hn => by rw [sortKeys, sortKeysItems_of_normal hn]
  | .object ms, .object hnames hn => by
    rw [sortKeys, sortKeysMembers_of_normal hn, Table.sorted_eq_of_perm (List.Perm.refl ms) hnames]

theorem sortKeysItems_of_normal : ∀ {vs : List Value}, (∀ v ∈ vs, v.Normal) →
    sortKeysItems vs = vs
  | [], _ => rfl
  | v :: vs, hn => by
    obtain ⟨hv, hvs⟩ := List.forall_mem_cons.mp hn
    rw [sortKeysItems, sortKeys_of_normal hv, sortKeysItems_of_normal hvs]

theorem sortKeysMembers_of_normal : ∀ {ms : List (String × Value)}, (∀ m ∈ ms, m.2.Normal) →
    sortKeysMembers ms = ms
  | [], _ => rfl
  | (k, v) :: ms, hn => by
    obtain ⟨hv, hms⟩ := List.forall_mem_cons.mp hn
    rw [sortKeysMembers, sortKeys_of_normal hv, sortKeysMembers_of_normal hms]

end

/-- The text is an export of the document. -/
structure ExportedAs (v : Value) (s : String) : Prop where
  /-- Read with room for its containers, the text is the document. -/
  reads : ∀ limit, v.nesting ≤ limit → readWithin limit s.toList = .ok v
  /-- The tokens of the text are those of the document, in its order. -/
  tokens : Token.ofText s.toList = v.tokens
  /-- The names of every object ascend in that order. -/
  normal : v.Normal
  ascii : IsAscii s.toList
  newline : s.toList.getLast? = some '\n'

theorem exportedAs_lines {v : Value} (hn : v.Normal) (hs : Token.Short v.tokens) :
    v.ExportedAs (v.lines ++ "\n") := by
  have htext : (v.lines ++ "\n").toList = Printer.value .indented 0 v ++ ['\n'] := by
    rw [lines, sortKeys_of_normal hn, String.toList_append, String.toList_ofList]
    rfl
  have hascii : IsAscii (v.lines ++ "\n").toList := by
    rw [htext]
    exact Printer.only_append_iff.mpr ⟨Printer.isAscii_value_indented hn, by decide⟩
  have htokens : Token.ofText (v.lines ++ "\n").toList = v.tokens := by
    rw [htext, Token.ofText_value Printer.Layout.blank_indented hn hs 0 .newline,
      Token.ofText_blank rfl]
    exact List.append_nil _
  have hmark : (v.lines ++ "\n").toList.head? ≠ some '\ufeff' := by
    intro hhead
    exact absurd (hascii _ (List.mem_of_head? hhead)) (by decide)
  refine ⟨fun limit => (readWithin_of_ofText hn hmark htokens limit).1, htokens, hn, hascii, ?_⟩
  rw [htext, List.getLast?_append]
  rfl

end Value

end RuntimeImage.Json
