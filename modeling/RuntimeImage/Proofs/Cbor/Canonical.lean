import Mathlib.Tactic.Choose
import RuntimeImage.Proofs.Cbor.Item
import RuntimeImage.Proofs.Cbor.RoundTrip

/-!
The canonical form. Every document is written as one well-formed item that is canonical through and
through: each head is the shortest there is for its number and states a length, the names of each
map ascend, shorter ones first, and a number is written out in bytes only if no head has room for
it.
-/

namespace RuntimeImage.Cbor

open Json

/-- The order of the names of a map. -/
def Before (a b : Bytes) : Prop := a.length < b.length ∨ a.length = b.length ∧ a < b

/-- The head states what it counts, and no head says the same in fewer bytes. -/
structure Head.Canonical (h : Head) : Prop where
  definite : h.info ≠ indefinite
  shortest : ∀ other : Head, other.Valid → other.major = h.major → other.argument = h.argument →
    h.bytes.length ≤ other.bytes.length

namespace Item

/-- The names of a map, as they are encoded. -/
def names : List Item → List Bytes
  | name :: _ :: rest => name.bytes :: names rest
  | _ => []

/-- A number that is written as the byte string behind a tag needs more than 64 bits and all of its
bytes. -/
def BignumNeeded (h : Head) (inside : List Item) : Prop :=
  h.argument = 2 ∨ h.argument = 3 → ∀ k digits, inside = [⟨k, digits, []⟩] →
    2 ^ 64 ≤ Bytes.value digits ∧ digits.head? ≠ some 0

inductive Canonical : Item → Prop
  | mk {h : Head} {content : Bytes} {inside : List Item} (hh : h.Canonical)
      (hnames : h.major = 5 → (names inside).Pairwise Before)
      (htag : h.major = 6 → BignumNeeded h inside)
      (hinside : ∀ item ∈ inside, Canonical item) : Canonical ⟨h, content, inside⟩

/-- The item is a canonical spelling of the bytes. -/
structure Spells (item : Item) (b : Bytes) : Prop where
  wellFormed : item.WellFormed
  canonical : item.Canonical
  bytes_eq : item.bytes = b

/-- Bytes that have a spelling have no other one. -/
theorem Spells.eq_of_bytes {item other : Item} {b : Bytes} (hi : item.Spells b)
    (ho : other.WellFormed) (hb : other.bytes = b) : other = item := by
  have hsame : other.bytes ++ [] = item.bytes ++ [] := by rw [hb, hi.bytes_eq]
  exact (ho.unambiguous item hi.wellFormed [] [] hsame).1

end Item

/-! ## The shortest head -/

/-- The low bits under which an argument takes the fewest bytes. -/
def shortestInfo (n : Nat) : Nat :=
  if n < 24 then n
  else if n < 0x100 then 24
  else if n < 0x10000 then 25
  else if n < 0x100000000 then 26
  else 27

def Head.of (major n : Nat) : Head := ⟨major, shortestInfo n, n⟩

theorem shortestInfo_cases (n : Nat) :
    n < 24 ∧ shortestInfo n = n ∨
      24 ≤ n ∧ n < 256 ^ 1 ∧ shortestInfo n = 24 ∨
      256 ^ 1 ≤ n ∧ n < 256 ^ 2 ∧ shortestInfo n = 25 ∨
      256 ^ 2 ≤ n ∧ n < 256 ^ 4 ∧ shortestInfo n = 26 ∨
      256 ^ 4 ≤ n ∧ shortestInfo n = 27 := by
  unfold shortestInfo
  split
  · omega
  · split
    · omega
    · split
      · omega
      · split <;> omega

namespace Head

variable {major n : Nat}

theorem bytes_of (major n : Nat) : (of major n).bytes = head major n := by
  unfold head bytes
  rcases shortestInfo_cases n with ⟨hn, hi⟩ | ⟨h₁, h₂, hi⟩ | ⟨h₁, h₂, hi⟩ | ⟨h₁, h₂, hi⟩ | ⟨h₁, hi⟩
  · simp only [of, hi, argumentWidth_of_lt hn, if_pos hn]
  · have hn : ¬ n < 24 := by omega
    have hfits : n < 0x100 := by omega
    simp only [of, hi, argumentWidth, if_neg hn, if_pos hfits]
  · have hn : ¬ n < 24 ∧ ¬ n < 0x100 := by omega
    have hfits : n < 0x10000 := by omega
    simp only [of, hi, argumentWidth, if_neg hn.1, if_neg hn.2, if_pos hfits]
  · have hn : ¬ n < 24 ∧ ¬ n < 0x100 ∧ ¬ n < 0x10000 := by omega
    have hfits : n < 0x100000000 := by omega
    simp only [of, hi, argumentWidth, if_neg hn.1, if_neg hn.2.1, if_neg hn.2.2, if_pos hfits]
  · have hn : ¬ n < 24 ∧ ¬ n < 0x100 ∧ ¬ n < 0x10000 ∧ ¬ n < 0x100000000 := by omega
    simp only [of, hi, argumentWidth, if_neg hn.1, if_neg hn.2.1, if_neg hn.2.2.1,
      if_neg hn.2.2.2]

theorem valid_of (hm : major < 8) (hn : n < 2 ^ 64) : (of major n).Valid where
  major := hm
  argument := by
    rcases shortestInfo_cases n with ⟨h, hi⟩ | ⟨h₁, h₂, hi⟩ | ⟨h₁, h₂, hi⟩ | ⟨h₁, h₂, hi⟩ | ⟨h₁, hi⟩
    · exact Or.inl ⟨by rw [of, hi]; exact h, hi.symm⟩
    · exact Or.inr (Or.inl ⟨1, by rw [of, hi]; rfl, h₂⟩)
    · exact Or.inr (Or.inl ⟨2, by rw [of, hi]; rfl, h₂⟩)
    · exact Or.inr (Or.inl ⟨4, by rw [of, hi]; rfl, h₂⟩)
    · have h₂ : n < 256 ^ 8 := by omega
      exact Or.inr (Or.inl ⟨8, by rw [of, hi]; rfl, h₂⟩)

/-- A head of `width` bytes behind the first has no room for larger arguments. -/
theorem Valid.argument_lt {h : Head} (hh : h.Valid) :
    h.argument < 24 ∨ h.argument < 256 ^ (h.bytes.length - 1) := by
  rcases hh.argument with ⟨hi, ha⟩ | ⟨width, hw, ha⟩ | ⟨-, ha, -⟩
  · omega
  · rw [length_bytes, hw, Option.getD_some, Nat.add_sub_cancel_left]
    exact Or.inr ha
  · omega

/-- Behind the first byte stand none, one, two, four or eight. -/
theorem length_bytes_cases (h : Head) :
    h.bytes.length = 1 ∨ h.bytes.length = 2 ∨ h.bytes.length = 3 ∨ h.bytes.length = 5 ∨
      h.bytes.length = 9 := by
  rw [length_bytes]
  unfold argumentWidth
  split <;> simp

theorem canonical_of (major n : Nat) : (of major n).Canonical where
  definite := by
    rcases shortestInfo_cases n with ⟨h, hi⟩ | ⟨-, -, hi⟩ | ⟨-, -, hi⟩ | ⟨-, -, hi⟩ | ⟨-, hi⟩
    all_goals
      show shortestInfo n ≠ 31
      omega
  shortest := by
    intro other ho _ hargument
    have hroom := ho.argument_lt
    have hlength := other.length_bytes_cases
    rw [hargument] at hroom
    change n < 24 ∨ n < 256 ^ (other.bytes.length - 1) at hroom
    rw [length_bytes]
    rcases shortestInfo_cases n with ⟨h, hi⟩ | ⟨h₁, -, hi⟩ | ⟨h₁, -, hi⟩ | ⟨h₁, -, hi⟩ | ⟨h₁, hi⟩
    · rw [of, hi, argumentWidth_of_lt h, Option.getD_none]
      omega
    all_goals
      simp only [of, hi, argumentWidth, Option.getD_some]
      -- A shorter head would have to have room for the argument, and has not.
      rcases hlength with hl | hl | hl | hl | hl <;> rw [hl] at hroom ⊢ <;> omega

end Head

/-! ## The order of names -/

theorem lexLE_iff {a b : Bytes} : lexLE a b = true ↔ a ≤ b := by
  induction a generalizing b with
  | nil => simp [lexLE]
  | cons x xs ih =>
    cases b with
    | nil => simp [lexLE]
    | cons y ys => simp [lexLE, List.cons_le_cons_iff, ih]

theorem nameLE_iff {m m' : Bytes × Bytes} :
    nameLE m m' = true ↔ m.1.length < m'.1.length ∨ m.1.length = m'.1.length ∧ m.1 ≤ m'.1 := by
  simp [nameLE, lexLE_iff]

theorem nameLE_trans (a b c : Bytes × Bytes) (hab : nameLE a b = true) (hbc : nameLE b c = true) :
    nameLE a c = true := by
  rw [nameLE_iff] at hab hbc ⊢
  rcases hab with hab | ⟨hab, hle⟩
  · rcases hbc with hbc | ⟨hbc, -⟩
    · exact Or.inl (by omega)
    · exact Or.inl (by omega)
  · rcases hbc with hbc | ⟨hbc, hle'⟩
    · exact Or.inl (by omega)
    · exact Or.inr ⟨hab.trans hbc, List.le_trans hle hle'⟩

theorem nameLE_total (a b : Bytes × Bytes) : (nameLE a b || nameLE b a) = true := by
  rw [Bool.or_eq_true, nameLE_iff, nameLE_iff]
  rcases Nat.lt_trichotomy a.1.length b.1.length with h | h | h
  · exact Or.inl (Or.inl h)
  · rcases List.le_total a.1 b.1 with hle | hle
    · exact Or.inl (Or.inr ⟨h, hle⟩)
    · exact Or.inr (Or.inr ⟨h.symm, hle⟩)
  · exact Or.inr (Or.inl h)

theorem before_of_nameLE {m m' : Bytes × Bytes} (h : nameLE m m' = true) (hne : m.1 ≠ m'.1) :
    Before m.1 m'.1 := by
  rcases nameLE_iff.mp h with hlt | ⟨heq, hle⟩
  · exact Or.inl hlt
  · exact Or.inr ⟨heq, Std.lt_of_le_of_ne hle hne⟩

theorem text_injective {s t : String} (hs : (text s).length < 2 ^ 64) (h : text s = text t) :
    s = t := by
  have hvalue : encode (.text s) = encode (.text t) := h
  exact Value.text.inj (encode_injective (.text s) (.text t) hs hvalue)

/-- Distinct names that are sorted for writing ascend in their encoded form. -/
theorem pairwise_before_written {members : List (String × Value)}
    (hnames : members.Pairwise (fun a b => a.1 < b.1))
    (hlength : ∀ m ∈ members, (text m.1).length < 2 ^ 64) :
    ((members.mergeSort memberLE).map (fun m => text m.1)).Pairwise Before := by
  have hperm := List.mergeSort_perm members memberLE
  have hsorted : (members.mergeSort memberLE).Pairwise (fun m m' => memberLE m m' = true) := by
    apply List.pairwise_mergeSort
    · intro a b c hab hbc
      exact nameLE_trans _ _ _ hab hbc
    · intro a b
      exact nameLE_total _ _
  have hdistinct : (members.mergeSort memberLE).Pairwise (fun m m' => m.1 ≠ m'.1) := by
    have hkeys : (members.map Prod.fst).Nodup := by
      apply List.pairwise_map.mpr
      exact hnames.imp fun hlt => String.ne_of_lt hlt
    exact List.pairwise_map.mp ((hperm.map Prod.fst).nodup_iff.mpr hkeys)
  apply List.pairwise_map.mpr
  refine (hsorted.and hdistinct).imp_of_mem ?_
  rintro m m' hm - ⟨hle, hne⟩
  apply before_of_nameLE hle
  intro heq
  exact hne (text_injective (hlength m (hperm.mem_iff.mp hm)) heq)

/-! ## What is written is canonical -/

namespace Item

variable {major n : Nat} {content : Bytes} {inside : List Item}

theorem spells_mk (major n : Nat) (content : Bytes) (inside : List Item) (hm : major < 8)
    (hn : n < 2 ^ 64)
    (hcontent : content.length = (Head.of major n).contentLength)
    (hcount : inside.length = (Head.of major n).count)
    (hnames : major = 5 → (names inside).Pairwise Before)
    (htag : major = 6 → BignumNeeded (Head.of major n) inside)
    (hinside : ∀ item ∈ inside, item.WellFormed ∧ item.Canonical) :
    Spells ⟨Head.of major n, content, inside⟩ (head major n ++ content ++ allBytes inside) where
  wellFormed := .mk (Head.valid_of hm hn) hcontent (fun _ => hcount) fun i hi => (hinside i hi).1
  canonical := .mk (Head.canonical_of major n) hnames htag fun i hi => (hinside i hi).2
  bytes_eq := by
    have hdefinite := (Head.canonical_of major n).definite
    rw [bytes, Head.bytes_of, Head.ending, if_neg hdefinite, List.append_nil]

/-- A head with nothing behind it: a number, a truth value, nothing. -/
theorem spells_leaf (major n : Nat) (hm : major < 8) (hn : n < 2 ^ 64)
    (hleaf : major ≠ 2 ∧ major ≠ 3 ∧ major ≠ 4 ∧ major ≠ 5 ∧ major ≠ 6) :
    Spells ⟨Head.of major n, [], []⟩ (head major n) := by
  obtain ⟨h2, h3, h4, h5, h6⟩ := hleaf
  have hcontent : (Head.of major n).contentLength = 0 := by
    simp [Head.contentLength, Head.of, h2, h3]
  have hcount : (Head.of major n).count = 0 := by
    unfold Head.count Head.of
    split <;> first | rfl | simp_all
  have hs := spells_mk major n [] [] hm hn hcontent.symm hcount.symm
    (fun h => absurd h h5) (fun h => absurd h h6) (by simp)
  simpa [allBytes] using hs

/-- A byte string or a text. -/
theorem spells_string (major : Nat) (hm : major = 2 ∨ major = 3) (hn : content.length < 2 ^ 64) :
    Spells ⟨Head.of major content.length, content, []⟩ (head major content.length ++ content) := by
  have hcontent : (Head.of major content.length).contentLength = content.length := by
    rcases hm with rfl | rfl <;> rfl
  have hcount : (Head.of major content.length).count = 0 := by
    rcases hm with rfl | rfl <;> rfl
  have hs := spells_mk major content.length content [] (by omega) hn hcontent.symm hcount.symm
    (by omega) (by omega) (by simp)
  simpa [allBytes] using hs

theorem spells_text {s : String} (hs : (text s).length < 2 ^ 64) :
    ∃ item : Item, item.Spells (text s) := by
  rw [text, List.length_append] at hs
  exact ⟨_, spells_string 3 (Or.inr rfl) (by omega)⟩

/-- A number under a head, or in bytes of its own behind a tag. -/
theorem spells_natural {tag : Nat} (hm : major = 0 ∧ tag = 2 ∨ major = 1 ∧ tag = 3)
    (hs : (natural major tag n).length < 2 ^ 64) :
    ∃ item : Item, item.Spells (natural major tag n) := by
  by_cases hn : n < 2 ^ 64
  · have hsmall : natural major tag n = head major n := if_pos hn
    rw [hsmall]
    exact ⟨_, spells_leaf major n (by omega) hn (by omega)⟩
  · -- Two items, a tag and the byte string inside it, and the heads of both are short.
    have hlarge : natural major tag n =
        head 6 tag ++ head 2 (Bytes.width n) ++ Bytes.minimal n := if_neg hn
    have hlength : (Bytes.minimal n).length = Bytes.width n := Bytes.length_bigEndian _ _
    have hwidth : (Bytes.minimal n).length < 2 ^ 64 := by
      rw [hlarge, List.length_append] at hs
      omega
    have hdigits := spells_string 2 (Or.inl rfl) hwidth
    rw [hlength] at hdigits
    have hneeded : BignumNeeded (Head.of 6 tag)
        [⟨Head.of 2 (Bytes.width n), Bytes.minimal n, []⟩] := by
      intro _ k digits hk
      cases hk
      rw [Bytes.value_minimal]
      exact ⟨Nat.not_lt.mp hn, Bytes.head?_minimal_ne_zero n⟩
    have htagged := spells_mk 6 tag [] _ (by decide) (by omega) rfl
      (rfl : [_].length = _) (fun h => absurd h (by decide)) (fun _ => hneeded)
      (List.forall_mem_singleton.mpr ⟨hdigits.wellFormed, hdigits.canonical⟩)
    rw [allBytes, allBytes, hdigits.bytes_eq] at htagged
    have hbytes : head 6 tag ++ [] ++ (head 2 (Bytes.width n) ++ Bytes.minimal n ++ []) =
        natural major tag n := by
      rw [hlarge, List.append_nil, List.append_nil, List.append_assoc]
    rw [hbytes] at htagged
    exact ⟨_, htagged⟩

theorem allBytes_map {α : Type} (f : α → Item) (write : α → Bytes) (as : List α)
    (h : ∀ a ∈ as, (f a).bytes = write a) : allBytes (as.map f) = as.flatMap write := by
  induction as with
  | nil => rfl
  | cons a as ih =>
    have hrest := ih fun b hb => h b (List.mem_cons_of_mem _ hb)
    rw [List.map_cons, allBytes, hrest, h a List.mem_cons_self, List.flatMap_cons]

theorem spells_list {items : List Value} {f : Value → Item} (hn : items.length < 2 ^ 64)
    (hf : ∀ v ∈ items, (f v).Spells (encode v)) :
    Spells ⟨Head.of 4 items.length, [], items.map f⟩ (encode (.list items)) := by
  have hinside : ∀ item ∈ items.map f, item.WellFormed ∧ item.Canonical := by
    intro item hi
    obtain ⟨v, hv, rfl⟩ := List.mem_map.mp hi
    exact ⟨(hf v hv).wellFormed, (hf v hv).canonical⟩
  have hs := spells_mk 4 items.length [] (items.map f) (by decide) hn rfl
    (List.length_map f) (fun h => absurd h (by decide)) (fun h => absurd h (by decide)) hinside
  have hbytes := allBytes_map f encode items fun v hv => (hf v hv).bytes_eq
  rw [encode_list, ← hbytes]
  simpa using hs

/-- The items inside a map: the name of each member and its content. -/
def ofMembers (name : String → Item) (f : Value → Item) (members : List (String × Value)) :
    List Item :=
  members.flatMap fun m => [name m.1, f m.2]

theorem names_ofMembers {name : String → Item} {f : Value → Item} {members : List (String × Value)}
    (hname : ∀ m ∈ members, (name m.1).bytes = text m.1) :
    names (ofMembers name f members) = members.map (fun m => text m.1) := by
  induction members with
  | nil => rfl
  | cons m members ih =>
    have hrest := ih fun m' hm => hname m' (List.mem_cons_of_mem _ hm)
    rw [List.map_cons, ← hrest, ← hname m List.mem_cons_self]
    rfl

theorem allBytes_ofMembers {name : String → Item} {f : Value → Item}
    {members : List (String × Value)} (hname : ∀ m ∈ members, (name m.1).bytes = text m.1)
    (hf : ∀ m ∈ members, (f m.2).bytes = encode m.2) :
    allBytes (ofMembers name f members) = members.flatMap encodeMember := by
  induction members with
  | nil => rfl
  | cons m members ih =>
    obtain ⟨hn, hnames⟩ := List.forall_mem_cons.mp hname
    obtain ⟨hm, hmembers⟩ := List.forall_mem_cons.mp hf
    have hrest := ih hnames hmembers
    have hcons : ofMembers name f (m :: members) =
        name m.1 :: f m.2 :: ofMembers name f members := rfl
    rw [hcons, allBytes, allBytes, hrest, hn, hm, List.flatMap_cons, encodeMember,
      List.append_assoc]

theorem length_ofMembers (name : String → Item) (f : Value → Item)
    (members : List (String × Value)) :
    (ofMembers name f members).length = 2 * members.length := by
  induction members with
  | nil => rfl
  | cons m members ih =>
    have hcons : ofMembers name f (m :: members) =
        name m.1 :: f m.2 :: ofMembers name f members := rfl
    rw [hcons, List.length_cons, List.length_cons, List.length_cons, ih]
    omega

theorem spells_object {members : List (String × Value)} {name : String → Item} {f : Value → Item}
    (hn : members.length < 2 ^ 64) (hnames : members.Pairwise (fun a b => a.1 < b.1))
    (hlength : ∀ m ∈ members, (text m.1).length < 2 ^ 64)
    (hname : ∀ m ∈ members, (name m.1).Spells (text m.1))
    (hf : ∀ m ∈ members, (f m.2).Spells (encode m.2)) :
    Spells ⟨Head.of 5 members.length, [], ofMembers name f (members.mergeSort memberLE)⟩
      (encode (.object members)) := by
  have hbefore := pairwise_before_written hnames hlength
  have hperm := List.mergeSort_perm members memberLE
  rw [encode_object]
  -- From here on it counts that the written order is a permutation, not which one.
  generalize members.mergeSort memberLE = written at hbefore hperm ⊢
  have hname' : ∀ m ∈ written, (name m.1).Spells (text m.1) :=
    fun m hm => hname m (hperm.mem_iff.mp hm)
  have hf' : ∀ m ∈ written, (f m.2).Spells (encode m.2) := fun m hm => hf m (hperm.mem_iff.mp hm)
  have hinside : ∀ item ∈ ofMembers name f written, item.WellFormed ∧ item.Canonical := by
    intro item hi
    obtain ⟨m, hm, hi⟩ := List.mem_flatMap.mp hi
    rcases List.mem_cons.mp hi with rfl | hi
    · exact ⟨(hname' m hm).wellFormed, (hname' m hm).canonical⟩
    · cases List.mem_singleton.mp hi
      exact ⟨(hf' m hm).wellFormed, (hf' m hm).canonical⟩
  have hcount : (ofMembers name f written).length = 2 * members.length := by
    rw [length_ofMembers, hperm.length_eq]
  have hs := spells_mk 5 members.length [] _ (by decide) hn rfl hcount
    (fun _ => by rwa [names_ofMembers fun m hm => (hname' m hm).bytes_eq])
    (fun h => absurd h (by decide)) hinside
  rw [allBytes_ofMembers (fun m hm => (hname' m hm).bytes_eq)
    fun m hm => (hf' m hm).bytes_eq] at hs
  simpa using hs

/-- The bytes of a document are one canonical item. The induction is on the document; what is inside
a container is no longer than the container, so one bound on the whole will do. -/
theorem exists_spells {v : Value} (hv : v.Normal) (hs : (encode v).length < 2 ^ 64) :
    ∃ item : Item, item.Spells (encode v) := by
  induction hv with
  | null => exact ⟨_, spells_leaf 7 22 (by decide) (by decide) (by decide)⟩
  | bool b =>
    cases b with
    | false => exact ⟨_, spells_leaf 7 20 (by decide) (by decide) (by decide)⟩
    | true => exact ⟨_, spells_leaf 7 21 (by decide) (by decide) (by decide)⟩
  | int n =>
    cases n with
    | ofNat k => exact spells_natural (Or.inl ⟨rfl, rfl⟩) hs
    | negSucc k => exact spells_natural (Or.inr ⟨rfl, rfl⟩) hs
  | text t => exact spells_text hs
  | @list items _ ih =>
    rw [encode_list, List.length_append] at hs
    have hcount : items.length ≤ _ := count_le_length_flatMap length_encode_pos
    have hitems : ∀ v ∈ items, ∃ item : Item, item.Spells (encode v) := by
      intro v hv
      have hle : (encode v).length ≤ _ := length_le_length_flatMap hv
      exact ih v hv (by omega)
    have : Nonempty Item := ⟨⟨Head.of 0 0, [], []⟩⟩
    choose! f hf using hitems
    exact ⟨_, spells_list (by omega) hf⟩
  | @object members hnames _ ih =>
    rw [encode_object, List.length_append] at hs
    have hperm := List.mergeSort_perm members memberLE
    have hpos : ∀ m, 0 < (encodeMember m).length := by
      intro m
      have := length_encode_pos m.2
      simp only [encodeMember, List.length_append]
      omega
    have hcount : (members.mergeSort memberLE).length ≤ _ := count_le_length_flatMap hpos
    rw [hperm.length_eq] at hcount
    have hmember : ∀ m ∈ members, (text m.1).length < 2 ^ 64 ∧ (encode m.2).length < 2 ^ 64 := by
      intro m hm
      have hle : (encodeMember m).length ≤ _ := length_le_length_flatMap (hperm.mem_iff.mpr hm)
      rw [encodeMember, List.length_append] at hle
      omega
    have hcontents : ∀ v, v ∈ members.map Prod.snd → ∃ item : Item, item.Spells (encode v) := by
      intro v hv
      obtain ⟨m, hm, rfl⟩ := List.mem_map.mp hv
      exact ih m hm (hmember m hm).2
    have htexts : ∀ s : String, (text s).length < 2 ^ 64 → ∃ item : Item, item.Spells (text s) :=
      fun s hs => spells_text hs
    have : Nonempty Item := ⟨⟨Head.of 0 0, [], []⟩⟩
    choose! f hf using hcontents
    choose! name hname using htexts
    exact ⟨_, spells_object (by omega) hnames (fun m hm => (hmember m hm).1)
      (fun m hm => hname m.1 (hmember m hm).1) fun m hm => hf m.2 (List.mem_map_of_mem hm)⟩

end Item

end RuntimeImage.Cbor
