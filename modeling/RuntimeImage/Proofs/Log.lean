import RuntimeImage.Log
import RuntimeImage.Proofs.FileTree
import RuntimeImage.Proofs.Json.Line

/-!
Logs as exported. Whatever the records say, no line break gets into a line, so a reader that goes
through the file line by line finds one line for each record, and reads it as that record when it
has room for its containers. A log without records is the exception: its file has a line.
-/

namespace RuntimeImage

open Json

/-! ## Lines of printable characters -/

theorem Utf8.encode_append (s t : String) : encode (s ++ t) = encode s ++ encode t := by
  rw [encode, String.toList_append, List.flatMap_append]
  rfl

/-- A printable character is one byte, its own code. -/
theorem Utf8.encodeChar_of_isPrintable {c : Char} (hc : IsPrintable c) :
    String.utf8EncodeChar c = [c.toNat.toUInt8] :=
  if_pos (Nat.le_of_lt_succ (Nat.lt_succ_of_lt hc.2))

theorem Utf8.printable_of_mem_encode {s : String} (hs : Printer.Only IsPrintable s.toList)
    {b : UInt8} (hb : b ∈ encode s) : 0x20 ≤ b ∧ b < 0x7F := by
  obtain ⟨c, hc, hb⟩ := List.mem_flatMap.mp hb
  have hprintable := hs c hc
  rw [encodeChar_of_isPrintable hprintable, List.mem_singleton] at hb
  have hcode : b.toNat = c.toNat := by
    rw [hb, Nat.toUInt8, UInt8.toNat_ofNat']
    exact Nat.mod_eq_of_lt (Nat.lt_of_lt_of_le hprintable.2 (by decide))
  rw [UInt8.le_iff_toNat_le, UInt8.lt_iff_toNat_lt, hcode]
  exact hprintable

/-- Lines that end in a mark are the pieces of the whole, with nothing behind the last mark. -/
theorem splitOn_flatMap_lines {α : Type} [DecidableEq α] {mark : α} {lines : List (List α)}
    (h : ∀ line ∈ lines, mark ∉ line) :
    (lines.flatMap (· ++ [mark])).splitOn mark = lines ++ [[]] := by
  induction lines with
  | nil => rfl
  | cons line lines ih =>
    obtain ⟨hline, hlines⟩ := List.forall_mem_cons.mp h
    rw [List.flatMap_cons, List.append_assoc, List.singleton_append, List.splitOn_append_cons_self,
      List.splitOn_eq_singleton hline, ih hlines]
    rfl

/-! ## Records -/

namespace LogRecord

/-- What the record tells in addition is something that JSON holds as it is. -/
def Exportable (r : LogRecord) : Prop :=
  ∀ extra, r.extra = some extra → (Value.object extra).Exportable

theorem Exportable.value {r : LogRecord} (h : r.Exportable) : r.value.Exportable := by
  have hoptional : ∀ s, (optionalText s).Exportable := by
    intro s
    cases s with
    | none => exact .null
    | some s => exact .text s
  unfold LogRecord.value
  cases hextra : r.extra with
  | none =>
    refine .object (by decide : ["level", "message", "operation", "stage", "step"].Nodup) ?_
    simp [Value.Exportable.text, hoptional]
  | some extra =>
    have hdetails := h extra hextra
    refine .object
      (by decide : ["extra", "level", "message", "operation", "stage", "step"].Nodup) ?_
    simp [Value.Exportable.text, hoptional, hdetails]

end LogRecord

namespace Log

variable {log : Log} {limit : Nat} {tree tree' : FileTree} {path : Path}

/-- The bytes of a record's line. -/
def lineBytes (r : LogRecord) : Bytes := Utf8.encode r.value.line

/-- With records the text of a log is their lines, each with a line break behind it. -/
theorem encode_text (hne : log ≠ []) :
    Utf8.encode log.text = (log.map lineBytes).flatMap (· ++ [0x0A]) := by
  induction log with
  | nil => exact absurd rfl hne
  | cons r rest ih =>
    have hbreak : Utf8.encode "\n" = [0x0A] := by decide
    rw [List.map_cons, List.flatMap_cons]
    by_cases hrest : rest = []
    · rw [hrest, text, List.map_singleton, String.intercalate_singleton, Utf8.encode_append, hbreak]
      exact (List.append_nil _).symm
    · have hlines : rest.map (fun r => r.value.line) ≠ [] := mt List.map_eq_nil_iff.mp hrest
      have htext : text (r :: rest) = r.value.line ++ ("\n" ++ text rest) := by
        rw [text, List.map_cons, String.intercalate_cons_of_ne_nil hlines, String.append_assoc,
          String.append_assoc]
        rfl
      rw [htext, Utf8.encode_append, Utf8.encode_append, hbreak, ih hrest, List.append_assoc]
      rfl

/-- A reader with so much room for containers reads the line as the record. -/
def ReadsAs (limit : Nat) (line : Bytes) (r : LogRecord) : Prop :=
  ∃ s v, Utf8.decode line = .ok s ∧ readWithin limit s.toList = .ok v ∧ v.Reorders r.value

/-- The file holds the log: in ASCII, with no control character but the line breaks, one behind each
line, and with one line for each record, which reads as that record. -/
structure HoldsLines (limit : Nat) (log : Log) (content : Bytes) : Prop where
  ascii : ∀ b ∈ content, b = 0x0A ∨ 0x20 ≤ b ∧ b < 0x7F
  lines : ∃ lines : List Bytes, content.splitOn 0x0A = lines ++ [[]] ∧
    List.Forall₂ (ReadsAs limit) lines log

theorem readsAs_lineBytes_iff {r : LogRecord} (h : r.Exportable) :
    ReadsAs limit (lineBytes r) r ↔ r.value.nesting ≤ limit := by
  rw [← h.value.readWithin_line_iff]
  constructor
  · rintro ⟨s, v, hs, hv, hr⟩
    rw [lineBytes, Utf8.decode_encode] at hs
    cases hs
    exact ⟨v, hv, hr⟩
  · rintro ⟨v, hv, hr⟩
    exact ⟨_, v, Utf8.decode_encode _, hv, hr⟩

theorem printable_of_mem_lineBytes {r : LogRecord} (h : r.Exportable) {b : UInt8}
    (hb : b ∈ lineBytes r) : 0x20 ≤ b ∧ b < 0x7F :=
  Utf8.printable_of_mem_encode h.value.only_line hb

theorem splitOn_encode_text (h : ∀ r ∈ log, r.Exportable) (hne : log ≠ []) :
    (Utf8.encode log.text).splitOn 0x0A = log.map lineBytes ++ [[]] := by
  rw [encode_text hne]
  refine splitOn_flatMap_lines (List.forall_mem_map.mpr fun r hr hmem => ?_)
  exact absurd (printable_of_mem_lineBytes (h r hr) hmem).1 (by decide)

theorem ascii_encode_text (h : ∀ r ∈ log, r.Exportable) (hne : log ≠ []) :
    ∀ b ∈ Utf8.encode log.text, b = 0x0A ∨ 0x20 ≤ b ∧ b < 0x7F := by
  intro b hb
  rw [encode_text hne] at hb
  obtain ⟨line, hline, hb⟩ := List.mem_flatMap.mp hb
  obtain ⟨r, hr, rfl⟩ := List.mem_map.mp hline
  rcases List.mem_append.mp hb with hb | hb
  · exact Or.inr (printable_of_mem_lineBytes (h r hr) hb)
  · exact Or.inl (List.mem_singleton.mp hb)

/-- The file of a log without records is a line break, and so has a line that is no record's. -/
theorem not_holdsLines_nil : ¬HoldsLines limit [] (Utf8.encode (text [])) := by
  rintro ⟨-, lines, hsplit, hall⟩
  cases hall
  exact absurd hsplit (by decide)

theorem holdsLines_encode_text_iff (h : ∀ r ∈ log, r.Exportable) :
    HoldsLines limit log (Utf8.encode log.text) ↔
      log ≠ [] ∧ ∀ r ∈ log, r.value.nesting ≤ limit := by
  by_cases hne : log = []
  · rw [hne]
    exact iff_of_false not_holdsLines_nil fun hcases => hcases.1 rfl
  have hreads : List.Forall₂ (ReadsAs limit) (log.map lineBytes) log ↔
      ∀ r ∈ log, r.value.nesting ≤ limit := by
    rw [List.forall₂_map_left_iff, List.forall₂_same]
    exact forall₂_congr fun r hr => readsAs_lineBytes_iff (h r hr)
  rw [← hreads]
  constructor
  · rintro ⟨-, lines, hsplit, hall⟩
    rw [splitOn_encode_text h hne] at hsplit
    rw [List.append_cancel_right hsplit]
    exact ⟨hne, hall⟩
  · rintro ⟨-, hall⟩
    exact ⟨ascii_encode_text h hne, _, splitOn_encode_text h hne, hall⟩

theorem read_of_save (hs : log.save tree path = (.ok (), tree')) :
    tree'.read path.render = .ok (Utf8.encode log.text) := by
  unfold save at hs
  split at hs
  · cases hs
  · split at hs
    · next hw =>
      cases hs
      exact FileTree.read_of_write hw
    · cases hs

/-- The file that a log is saved to holds the log exactly if the log has a record, and the reader
has room for the containers of every record. Without records the file is one line break. Texts are
of scalar values, so lone surrogates are left out. -/
theorem holdsLines_iff (h : ∀ r ∈ log, r.Exportable)
    (hs : log.save tree path = (.ok (), tree')) :
    ∃ content, tree'.read path.render = .ok content ∧
      (∀ limit, HoldsLines limit log content ↔ log ≠ [] ∧ ∀ r ∈ log, r.value.nesting ≤ limit) ∧
      (log = [] → content = [0x0A]) := by
  refine ⟨_, read_of_save hs, fun limit => holdsLines_encode_text_iff h, ?_⟩
  rintro rfl
  decide

/-- A record whose message has line breaks of three kinds, with details out of order, and one that
has no stage. -/
def withBreaks : Log :=
  [{ operation := "install", stage := some "packages", step := some "a\\b",
     message := "a\nb\r\u2028"
     extra := some [("z", .list [.null, .int (-1)]), ("é", .object [("\x22", .text "😀")])] },
    { operation := "provision", stage := none, step := none, message := "\x7f" }]

/-- Three containers are nested in the first record, and the file reads back with room for three. -/
theorem holdsLines_iff_withBreaks :
    ∃ tree' content, withBreaks.save .empty ⟨0, ["log.jsonl"]⟩ = (.ok (), tree') ∧
      tree'.read "log.jsonl" = .ok content ∧ HoldsLines 3 withBreaks content ∧
      ¬HoldsLines 2 withBreaks content := by
  have hexportable : ∀ r ∈ withBreaks, r.Exportable := by
    refine List.forall_mem_cons.mpr ⟨?_, List.forall_mem_singleton.mpr nofun⟩
    rintro extra ⟨⟩
    have hnumber : (Value.int (-1)).Exportable := .int (by decide)
    have hlist : (Value.list [.null, .int (-1)]).Exportable :=
      .list (by simp [Value.Exportable.null, hnumber])
    have hobject : (Value.object [("\x22", .text "😀")]).Exportable :=
      .object (by decide) (by simp [Value.Exportable.text])
    exact .object (by decide) (by simp [hlist, hobject])
  obtain ⟨tree', hs⟩ : ∃ tree',
      withBreaks.save .empty ⟨0, ["log.jsonl"]⟩ = (.ok (), tree') := ⟨_, rfl⟩
  obtain ⟨content, hread, hiff, -⟩ := holdsLines_iff hexportable hs
  refine ⟨tree', content, hs, hread, (hiff 3).mpr ⟨nofun, by decide⟩, fun hholds => ?_⟩
  exact absurd ((hiff 2).mp hholds).2 (by decide)

/-- The file of a log without records has a line, which is no record's. -/
theorem not_holdsLines_empty :
    ∃ tree', save [] .empty ⟨0, ["log.jsonl"]⟩ = (.ok (), tree') ∧
      tree'.read "log.jsonl" = .ok [0x0A] ∧ ∀ limit, ¬HoldsLines limit [] [0x0A] :=
  ⟨_, rfl, rfl, fun _ => not_holdsLines_nil⟩

end Log

end RuntimeImage
