import RuntimeImage.Proofs.Cbor.Reader
import RuntimeImage.Proofs.Table

/-!
Reading back what was written. The bytes of a document are read as that document, whatever follows
them, so no document's bytes begin another's and different documents have different bytes. The one
bound is on the length of the whole: a head has room for 64 bits.
-/

namespace RuntimeImage

open Json

/-- A document without floats, in which the names of every object ascend. -/
inductive Json.Value.Normal : Value → Prop
  | null : Normal .null
  | bool (b : Bool) : Normal (.bool b)
  | int (n : Int) : Normal (.int n)
  | text (s : String) : Normal (.text s)
  | list {items : List Value} (hitems : ∀ v ∈ items, Normal v) : Normal (.list items)
  | object {members : List (String × Value)} (hnames : members.Pairwise (fun a b => a.1 < b.1))
      (hmembers : ∀ m ∈ members, Normal m.2) : Normal (.object members)

namespace Cbor

/-! ## Heads -/

theorem takeBytes_append (a rest : Bytes) : takeBytes a.length (a ++ rest) = some (a, rest) := by
  simp [takeBytes]

theorem length_head_pos (major n : Nat) : 0 < (head major n).length := by
  unfold head
  repeat' split
  all_goals simp

theorem toNat_first {major info : Nat} (hm : major < 8) (hi : info < 32) :
    (UInt8.ofNat (32 * major + info)).toNat = 32 * major + info := by
  rw [UInt8.toNat_ofNat']
  omega

theorem readHead_wide {major info width n : Nat} (hm : major < 8) (hi : info < 32)
    (hinfo : 24 ≤ info) (hw : argumentWidth info = some width) (hn : n < 256 ^ width)
    (rest : Bytes) :
    readHead (UInt8.ofNat (32 * major + info) :: Bytes.bigEndian width n ++ rest) =
      some (⟨major, info, n⟩, rest) := by
  have hmajor : (32 * major + info) / 32 = major := by omega
  have hmod : (32 * major + info) % 32 = info := by omega
  have htake : takeBytes width (Bytes.bigEndian width n ++ rest) =
      some (Bytes.bigEndian width n, rest) := by
    simpa using takeBytes_append (Bytes.bigEndian width n) rest
  simp only [List.cons_append, readHead, toNat_first hm hi, hmajor, hmod, Nat.not_lt.mpr hinfo,
    if_false, hw, htake, Option.bind_eq_bind, Option.bind_some, Bytes.value_bigEndian hn]
  rfl

/-- A head is read back as long as its argument has at most 64 bits. -/
theorem readHead_head {major n : Nat} (hm : major < 8) (hn : n < 2 ^ 64) (rest : Bytes) :
    ∃ info, readHead (head major n ++ rest) = some (⟨major, info, n⟩, rest) := by
  unfold head
  split
  · next h =>
    have hdiv : (32 * major + n) / 32 = major := by omega
    have hmod : (32 * major + n) % 32 = n := by omega
    refine ⟨n, ?_⟩
    simp only [List.singleton_append, readHead, toNat_first hm (by omega : n < 32), hdiv, hmod, h,
      if_true]
  · split
    · next h => exact ⟨24, readHead_wide hm (by decide) (by decide) rfl (by omega) rest⟩
    · split
      · next h => exact ⟨25, readHead_wide hm (by decide) (by decide) rfl (by omega) rest⟩
      · split
        · next h => exact ⟨26, readHead_wide hm (by decide) (by decide) rfl (by omega) rest⟩
        · exact ⟨27, readHead_wide hm (by decide) (by decide) rfl (by omega) rest⟩

/-! ## Numbers, texts and sequences -/

theorem readBignum_minimal {n : Nat} (hw : Bytes.width n < 2 ^ 64) (rest : Bytes) :
    readBignum (head 2 (Bytes.width n) ++ (Bytes.minimal n ++ rest)) = some (n, rest) := by
  obtain ⟨info, hh⟩ := readHead_head (by decide : 2 < 8) hw (Bytes.minimal n ++ rest)
  have htake : takeBytes (Bytes.width n) (Bytes.minimal n ++ rest) =
      some (Bytes.minimal n, rest) := by
    simpa [Bytes.minimal] using takeBytes_append (Bytes.minimal n) rest
  simp only [readBignum, hh, Option.bind_eq_bind, Option.bind_some, if_true, htake,
    Bytes.value_minimal]
  rfl

theorem readChars_encode (s : String) (rest : Bytes) :
    readChars (Utf8.encode s).length (Utf8.encode s ++ rest) = some (s, rest) := by
  simp only [readChars, takeBytes_append, Option.bind_eq_bind, Option.bind_some,
    Utf8.decode_encode]
  rfl

section

variable {α : Type} {reader : Bytes → Option (α × Bytes)} {write : α → Bytes}

/-- A sequence is read as its elements are, one after the other. -/
theorem readMany_flatMap {as : List α}
    (h : ∀ a ∈ as, ∀ rest, reader (write a ++ rest) = some (a, rest)) (rest : Bytes) :
    readMany reader as.length (as.flatMap write ++ rest) = some (as, rest) := by
  induction as with
  | nil => rfl
  | cons a as ih =>
    have hfirst := h a List.mem_cons_self (as.flatMap write ++ rest)
    have hrest := ih fun b hb => h b (List.mem_cons_of_mem _ hb)
    simp only [List.flatMap_cons, List.append_assoc, List.length_cons, readMany, hfirst, hrest,
      Option.bind_eq_bind, Option.bind_some]
    rfl

theorem readMember_text {name : String} {a : α} (hs : (Utf8.encode name).length < 2 ^ 64)
    (rest : Bytes) (hread : reader (write a ++ rest) = some (a, rest)) :
    readMember reader (text name ++ write a ++ rest) = some ((name, a), rest) := by
  obtain ⟨info, hh⟩ :=
    readHead_head (by decide : 3 < 8) hs (Utf8.encode name ++ (write a ++ rest))
  simp only [text, List.append_assoc, readMember, hh, Option.bind_eq_bind, Option.bind_some,
    if_true, readChars_encode, hread]
  rfl

end

/-! ## What is written of a container -/

theorem encodeItems_eq (items : List Value) : encodeItems items = items.flatMap encode := by
  induction items with
  | nil => rfl
  | cons v rest ih => rw [encodeItems, ih, List.flatMap_cons]

theorem encodeMembers_eq (members : List (String × Value)) :
    encodeMembers members = members.map (fun m => (text m.1, encode m.2)) := by
  induction members with
  | nil => rfl
  | cons m rest ih => rw [encodeMembers, ih, List.map_cons]

def encodeMember (m : String × Value) : Bytes := text m.1 ++ encode m.2

/-- The order of members by their encoded names. -/
def memberLE (m m' : String × Value) : Bool := nameLE (text m.1, encode m.2) (text m'.1, encode m'.2)

theorem encode_list (items : List Value) :
    encode (.list items) = head 4 items.length ++ items.flatMap encode := by
  rw [encode, encodeItems_eq]

theorem encode_object (members : List (String × Value)) :
    encode (.object members) =
      head 5 members.length ++ (members.mergeSort memberLE).flatMap encodeMember := by
  have hsort : (members.mergeSort memberLE).map (fun m => (text m.1, encode m.2)) =
      (members.map (fun m => (text m.1, encode m.2))).mergeSort nameLE :=
    List.map_mergeSort fun _ _ _ _ => rfl
  rw [encode, encodeMembers_eq, ← hsort, List.flatMap_map]
  rfl

theorem length_encode_pos (v : Value) : 0 < (encode v).length := by
  have hhead := length_head_pos
  cases v with
  | null | bool | real => simp [encode]
  | int n =>
    have hnatural : ∀ major tag n, 0 < (natural major tag n).length := by
      intro major tag n
      unfold natural
      split
      · exact hhead major n
      · have := hhead 6 tag
        simp only [List.length_append]
        omega
    cases n <;> exact hnatural _ _ _
  | text s =>
    have := hhead 3 (Utf8.encode s).length
    simp only [encode, text, List.length_append]
    omega
  | list items =>
    have := hhead 4 items.length
    simp only [encode, List.length_append]
    omega
  | object members =>
    have := hhead 5 members.length
    simp only [encode, List.length_append]
    omega

section

variable {α : Type} {write : α → Bytes} {as : List α}

theorem length_le_length_flatMap {a : α} (ha : a ∈ as) :
    (write a).length ≤ (as.flatMap write).length := by
  rw [List.flatMap_def]
  exact (List.sublist_flatten_of_mem (List.mem_map_of_mem ha)).length_le

theorem count_le_length_flatMap (h : ∀ a, 0 < (write a).length) :
    as.length ≤ (as.flatMap write).length := by
  induction as with
  | nil => simp
  | cons a as ih =>
    have := h a
    simp only [List.flatMap_cons, List.length_append, List.length_cons]
    omega

end

/-! ## Reading back -/

/-- How a number is written whose encoding is short: under a head, or as a byte string whose own
length fits under one. -/
theorem natural_cases {major tag n : Nat} (hs : (natural major tag n).length < 2 ^ 64) :
    n < 2 ^ 64 ∧ natural major tag n = head major n ∨
      Bytes.width n < 2 ^ 64 ∧
        natural major tag n = head 6 tag ++ head 2 (Bytes.width n) ++ Bytes.minimal n := by
  unfold natural at hs ⊢
  split at hs
  · next hn => exact Or.inl ⟨hn, by rw [if_pos hn]⟩
  · next hn =>
    simp only [List.length_append, Bytes.minimal, Bytes.length_bigEndian] at hs
    exact Or.inr ⟨by omega, by rw [if_neg hn]⟩

/-- Both signs are written alike, under major types and tags of their own. -/
theorem readItem_int (n : Int) (hs : (int n).length < 2 ^ 64) (depth : Nat) (rest : Bytes) :
    readItem (depth + 1) (int n ++ rest) = some (.int n, rest) := by
  cases n with
  | ofNat k =>
    rcases natural_cases hs with ⟨hk, h⟩ | ⟨hw, h⟩
    · obtain ⟨info, hh⟩ := readHead_head (by decide : 0 < 8) hk rest
      simp only [int, h, readItem, hh, Option.bind_eq_bind, Option.bind_some]
      rfl
    · obtain ⟨info, hh⟩ := readHead_head (by decide : 6 < 8) (by decide : 2 < 2 ^ 64)
        (head 2 (Bytes.width k) ++ (Bytes.minimal k ++ rest))
      simp only [int, h, List.append_assoc, readItem, hh, Option.bind_eq_bind, Option.bind_some,
        readBignum_minimal hw]
      rfl
  | negSucc k =>
    rcases natural_cases hs with ⟨hk, h⟩ | ⟨hw, h⟩
    · obtain ⟨info, hh⟩ := readHead_head (by decide : 1 < 8) hk rest
      simp only [int, h, readItem, hh, Option.bind_eq_bind, Option.bind_some]
      rfl
    · obtain ⟨info, hh⟩ := readHead_head (by decide : 6 < 8) (by decide : 3 < 2 ^ 64)
        (head 2 (Bytes.width k) ++ (Bytes.minimal k ++ rest))
      simp only [int, h, List.append_assoc, readItem, hh, Option.bind_eq_bind, Option.bind_some,
        readBignum_minimal hw]
      rfl

/-- The induction is on the document. A container's head takes a byte, so what is inside is shorter
and one level of depth less suffices for it. -/
theorem readItem_encode {v : Value} (hv : v.Normal) (hs : (encode v).length < 2 ^ 64) {depth : Nat}
    (hd : (encode v).length ≤ depth + 1) (rest : Bytes) :
    readItem (depth + 1) (encode v ++ rest) = some (v, rest) := by
  induction hv generalizing depth rest with
  | null => rfl
  | bool b => cases b <;> rfl
  | int n => exact readItem_int n hs depth rest
  | text t =>
    have hlen : (Utf8.encode t).length < 2 ^ 64 := by
      simp only [encode, text, List.length_append] at hs
      omega
    obtain ⟨info, hh⟩ := readHead_head (by decide : 3 < 8) hlen (Utf8.encode t ++ rest)
    simp only [encode, text, List.append_assoc, readItem, hh, Option.bind_eq_bind,
      Option.bind_some, readChars_encode]
    rfl
  | @list items _ ih =>
    rw [encode_list, List.length_append] at hs hd
    have hpos := length_head_pos 4 items.length
    have hcount : items.length ≤ _ := count_le_length_flatMap length_encode_pos
    have hitems : ∀ v ∈ items, ∀ rest, readItem depth (encode v ++ rest) = some (v, rest) := by
      intro v hv rest
      have hle : (encode v).length ≤ _ := length_le_length_flatMap hv
      obtain ⟨inner, rfl⟩ := Nat.exists_eq_succ_of_ne_zero
        (by have := length_encode_pos v; omega : depth ≠ 0)
      exact ih v hv (by omega) (by omega) rest
    obtain ⟨info, hh⟩ := readHead_head (by decide : 4 < 8) (by omega : items.length < 2 ^ 64)
      (items.flatMap encode ++ rest)
    simp only [encode_list, List.append_assoc, readItem, hh, Option.bind_eq_bind,
      Option.bind_some, readMany_flatMap hitems]
    rfl
  | @object members hnames _ ih =>
    rw [encode_object] at hs hd ⊢
    rw [List.length_append] at hs hd
    have hpos := length_head_pos 5 members.length
    -- The members are written in another order, which sorting on reading undoes.
    have hperm := List.mergeSort_perm members memberLE
    generalize members.mergeSort memberLE = written at hs hd hperm ⊢
    have hmember : ∀ m, 0 < (encodeMember m).length := by
      intro m
      have := length_encode_pos m.2
      simp only [encodeMember, List.length_append]
      omega
    have hcount : written.length ≤ _ := count_le_length_flatMap hmember
    have hread : ∀ m ∈ written, ∀ rest,
        readMember (readItem depth) (encodeMember m ++ rest) = some (m, rest) := by
      intro m hm rest
      have hle : (encodeMember m).length ≤ _ := length_le_length_flatMap hm
      simp only [encodeMember, text, List.length_append] at hle
      obtain ⟨inner, rfl⟩ := Nat.exists_eq_succ_of_ne_zero
        (by have := length_encode_pos m.2; omega : depth ≠ 0)
      exact readMember_text (by omega) rest
        (ih m (hperm.mem_iff.mp hm) (by omega) (by omega) rest)
    have hmany := readMany_flatMap hread rest
    rw [hperm.length_eq] at hcount hmany
    obtain ⟨info, hh⟩ := readHead_head (by decide : 5 < 8) (by omega : members.length < 2 ^ 64)
      (written.flatMap encodeMember ++ rest)
    simp only [List.append_assoc, readItem, hh, Option.bind_eq_bind, Option.bind_some, hmany,
      Table.sorted_eq_of_perm hperm hnames]
    rfl

/-- A document is read back from its bytes. -/
theorem decode_encode {v : Value} (hv : v.Normal) (hs : (encode v).length < 2 ^ 64) :
    decode (encode v) = some v := by
  have hpos := length_encode_pos v
  obtain ⟨depth, hdepth⟩ := Nat.exists_eq_add_of_le' hpos
  have hread := readItem_encode hv hs (Nat.le_of_eq hdepth) []
  rw [List.append_nil] at hread
  rw [decode, hdepth, hread]

theorem encode_injective {v w : Value} (hv : v.Normal) (hw : w.Normal)
    (hs : (encode v).length < 2 ^ 64) (h : encode v = encode w) : v = w := by
  have hread := decode_encode hv hs
  rw [h, decode_encode hw (h ▸ hs)] at hread
  exact (Option.some.inj hread).symm

end Cbor

end RuntimeImage
