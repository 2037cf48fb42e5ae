import Mathlib.Data.List.Forall2
import RuntimeImage.Proofs.Json.Export

/-!
A document on one line. The names of its objects are put in order when it is written, so what is
read back has the members of its objects in another order, and is the same otherwise. It is read
back whenever there is room for its containers, and only then.
-/

namespace RuntimeImage.Json.Value

/-! ## The order of members -/

/-- The same document, with the members of its objects in any order. -/
inductive Reorders : Value → Value → Prop
  | same (v : Value) : Reorders v v
  | list {items others : List Value} (h : List.Forall₂ Reorders items others) :
      Reorders (.list items) (.list others)
  | object {members sorted others : List (String × Value)} (hperm : members.Perm sorted)
      (hnames : sorted.map Prod.fst = others.map Prod.fst)
      (h : List.Forall₂ Reorders (sorted.map Prod.snd) (others.map Prod.snd)) :
      Reorders (.object members) (.object others)

theorem sortKeysItems_eq_map (items : List Value) : sortKeysItems items = items.map sortKeys := by
  induction items with
  | nil => rfl
  | cons v rest ih => rw [sortKeysItems, ih, List.map_cons]

theorem sortKeysMembers_eq_map (members : List (String × Value)) :
    sortKeysMembers members = members.map (fun m => (m.1, m.2.sortKeys)) := by
  induction members with
  | nil => rfl
  | cons m rest ih => rw [sortKeysMembers, ih, List.map_cons]

theorem sortKeys_list (items : List Value) : (list items).sortKeys = list (items.map sortKeys) := by
  rw [sortKeys, sortKeysItems_eq_map]

theorem sortKeys_object (members : List (String × Value)) :
    (object members).sortKeys =
      object (Table.sorted (members.map (fun m => (m.1, m.2.sortKeys)))) := by
  rw [sortKeys, sortKeysMembers_eq_map]

/-- What holds of the members of an object holds of them in any order. -/
theorem forall_mem_sorted_iff {members : List (String × Value)} {P : Value → Prop} :
    (∀ m ∈ Table.sorted (members.map (fun m => (m.1, m.2.sortKeys))), P m.2) ↔
      ∀ m ∈ members, P m.2.sortKeys := by
  simp only [(Table.sorted_perm _).mem_iff, List.forall_mem_map]

/-! ## Documents that JSON holds -/

/-- A document that JSON holds as it is: without fractions, without a name that repeats, and without
integers that have more digits than are read. -/
inductive Exportable : Value → Prop
  | null : Exportable .null
  | bool (b : Bool) : Exportable (.bool b)
  | int {n : Int} (h : (Nat.toDigits 10 n.natAbs).length ≤ Integer.maxDigits) : Exportable (.int n)
  | text (s : String) : Exportable (.text s)
  | list {items : List Value} (h : ∀ v ∈ items, Exportable v) : Exportable (.list items)
  | object {members : List (String × Value)} (hnames : (members.map Prod.fst).Nodup)
      (h : ∀ m ∈ members, Exportable m.2) : Exportable (.object members)

namespace Exportable

variable {v : Value}

theorem reorders_sortKeys (h : v.Exportable) : v.sortKeys.Reorders v := by
  induction h with
  | null | bool | int | text => exact .same _
  | @list items _ ih =>
    rw [sortKeys_list]
    exact .list (List.forall₂_map_left_iff.mpr (List.forall₂_same.mpr ih))
  | @object members _ _ ih =>
    rw [sortKeys_object]
    refine .object (Table.sorted_perm _) (by rw [List.map_map]; rfl) ?_
    rw [List.map_map, List.forall₂_map_left_iff, List.forall₂_map_right_iff]
    exact List.forall₂_same.mpr ih

theorem normal_sortKeys (h : v.Exportable) : v.sortKeys.Normal := by
  induction h with
  | null => exact .null
  | bool b => exact .bool b
  | int => exact .int _
  | text s => exact .text s
  | list _ ih =>
    rw [sortKeys_list]
    exact .list (List.forall_mem_map.mpr ih)
  | @object members hnames _ ih =>
    rw [sortKeys_object]
    refine .object (Table.pairwise_lt_sorted ?_) (forall_mem_sorted_iff.mpr ih)
    rw [Table.keys, List.map_map]
    exact hnames

theorem short_sortKeys (h : v.Exportable) : Token.Short v.sortKeys.tokens := by
  induction h with
  | null => exact Token.short_cons_iff.mpr ⟨nofun, Token.short_nil⟩
  | bool b => exact Token.short_bool b
  | int h => exact Token.short_int_iff.mpr h
  | text s => exact Token.short_text s
  | list _ ih =>
    rw [sortKeys_list]
    exact Token.short_list_iff.mpr (List.forall_mem_map.mpr ih)
  | object _ _ ih =>
    rw [sortKeys_object]
    rw [Token.short_object_iff, forall_mem_sorted_iff (P := fun v => Token.Short v.tokens)]
    exact ih

theorem nesting_sortKeys_le_iff (h : v.Exportable) (n : Nat) :
    v.sortKeys.nesting ≤ n ↔ v.nesting ≤ n := by
  induction h generalizing n with
  | null | bool | int | text => rfl
  | list _ ih =>
    rw [sortKeys_list, nesting, nesting]
    cases n with
    | zero => simp
    | succ n =>
      simp only [Nat.succ_le_succ_iff, nestingItems_le_iff, List.forall_mem_map]
      exact forall₂_congr fun v hv => ih v hv n
  | object _ _ ih =>
    rw [sortKeys_object, nesting, nesting]
    cases n with
    | zero => simp
    | succ n =>
      simp only [Nat.succ_le_succ_iff, nestingMembers_le_iff]
      rw [forall_mem_sorted_iff (P := fun v => v.nesting ≤ n)]
      exact forall₂_congr fun m hm => ih m hm n

end Exportable

/-! ## One line -/

theorem Exportable.only_line {v : Value} (h : v.Exportable) :
    Printer.Only IsPrintable v.line.toList := by
  rw [line, String.toList_ofList]
  exact Printer.only_value_line h.normal_sortKeys

/-- The line of a document is read as the document, with the names of its objects in order, exactly
when there is room for its containers. -/
theorem Exportable.readWithin_line_iff {v : Value} (h : v.Exportable) (limit : Nat) :
    (∃ w, readWithin limit v.line.toList = .ok w ∧ w.Reorders v) ↔ v.nesting ≤ limit := by
  have hn := h.normal_sortKeys
  have hmark : v.line.toList.head? ≠ some '\ufeff' := by
    intro hhead
    exact absurd (h.only_line _ (List.mem_of_head? hhead)) (by decide)
  have htokens : Token.ofText v.line.toList = v.sortKeys.tokens := by
    have hvalue := Token.ofText_value Printer.Layout.blank_line hn h.short_sortKeys 0 .nil
    rw [List.append_nil] at hvalue
    rw [line, String.toList_ofList, hvalue]
    exact List.append_nil _
  obtain ⟨hroom, hdeep⟩ := readWithin_of_ofText hn hmark htokens limit
  rw [← h.nesting_sortKeys_le_iff limit]
  constructor
  · rintro ⟨w, hw, -⟩
    by_contra hlimit
    obtain ⟨refusal, hrefused⟩ := hdeep (Nat.not_le.mp hlimit)
    cases hw.symm.trans hrefused
  · exact fun hlimit => ⟨_, hroom hlimit, h.reorders_sortKeys⟩

end RuntimeImage.Json.Value
