import RuntimeImage.Proofs.Cbor.Reader

/-!
The items that byte strings spell. Beside the heads of every width there are those of indefinite
length, which a reader of documents has no use for: what stands behind such a head goes on to a
break. The main statement is that well-formed items are unambiguous, so that whatever is said of one
spelling of some bytes is said of the bytes.
-/

namespace RuntimeImage.Cbor

/-- The low bits of a head that states no length. -/
def indefinite : Nat := 31

/-- The byte that ends what a head of indefinite length begins. -/
def breakByte : UInt8 := 0xFF

namespace Head

def bytes (h : Head) : Bytes :=
  UInt8.ofNat (32 * h.major + h.info) ::
    match argumentWidth h.info with
    | some width => Bytes.bigEndian width h.argument
    | none => []

/-- The heads that there are. Strings, lists and maps alone may leave their length open, and then
there is no argument. -/
structure Valid (h : Head) : Prop where
  major : h.major < 8
  argument :
    h.info < 24 ∧ h.argument = h.info ∨
    (∃ width, argumentWidth h.info = some width ∧ h.argument < 256 ^ width) ∨
    h.info = indefinite ∧ h.argument = 0 ∧ 2 ≤ h.major ∧ h.major ≤ 5

/-- How many bytes of its own the item behind a head has. -/
def contentLength (h : Head) : Nat := if h.major = 2 ∨ h.major = 3 then h.argument else 0

/-- How many items stand inside an item, when its head says so: the names and the contents of a map
both count. -/
def count (h : Head) : Nat :=
  match h.major with
  | 4 => h.argument
  | 5 => 2 * h.argument
  | 6 => 1
  | _ => 0

/-- What stands behind everything else. -/
def ending (h : Head) : Bytes := if h.info = indefinite then [breakByte] else []

end Head

/-- An item as it is spelled: its head, the bytes of a string, and the items inside it, the names
and the contents of a map in turn. -/
inductive Item
  | mk (head : Head) (content : Bytes) (inside : List Item)

namespace Item

mutual

def bytes : Item → Bytes
  | ⟨h, content, inside⟩ => h.bytes ++ content ++ allBytes inside ++ h.ending

def allBytes : List Item → Bytes
  | [] => []
  | item :: rest => item.bytes ++ allBytes rest

end

/-- As many bytes and items stand behind each head as it says. -/
inductive WellFormed : Item → Prop
  | mk {h : Head} {content : Bytes} {inside : List Item} (hh : h.Valid)
      (hcontent : content.length = h.contentLength)
      (hcount : h.info ≠ indefinite → inside.length = h.count)
      (hinside : ∀ item ∈ inside, WellFormed item) : WellFormed ⟨h, content, inside⟩

end Item

/-! ## Heads -/

namespace Head

variable {h k : Head}

theorem argumentWidth_of_lt {info : Nat} (hi : info < 24) : argumentWidth info = none := by
  unfold argumentWidth
  split <;> first | omega | rfl

theorem Valid.info_lt (hh : h.Valid) : h.info < 32 := by
  rcases hh.argument with ⟨hi, -⟩ | ⟨width, hw, -⟩ | ⟨hi, -⟩
  · omega
  · unfold argumentWidth at hw
    split at hw <;> first | omega | cases hw
  · rw [hi]
    decide

/-- The first byte tells the major type and the low bits. -/
theorem Valid.toNat_first (hh : h.Valid) :
    (UInt8.ofNat (32 * h.major + h.info)).toNat = 32 * h.major + h.info := by
  have hmajor := hh.major
  have hinfo := hh.info_lt
  rw [UInt8.toNat_ofNat']
  omega

theorem length_bytes (h : Head) : h.bytes.length = 1 + (argumentWidth h.info).getD 0 := by
  unfold bytes
  split
  · next width hw =>
    rw [hw, List.length_cons, Bytes.length_bigEndian, Option.getD_some, Nat.add_comm]
  · next hw => simp [hw]

/-- With the same low bits, it is the bytes behind them that tell the argument. -/
theorem Valid.argument_eq (hh : h.Valid) (hk : k.Valid) (hinfo : h.info = k.info)
    (hbytes : h.bytes = k.bytes) : h.argument = k.argument := by
  rcases hh.argument with ⟨hi, ha⟩ | ⟨width, hw, ha⟩ | ⟨hi, ha, -⟩
  · rcases hk.argument with ⟨-, hb⟩ | ⟨width, hw, -⟩ | ⟨hj, -⟩
    · rw [ha, hb, hinfo]
    · rw [← hinfo, argumentWidth_of_lt hi] at hw
      cases hw
    · rw [← hinfo] at hj
      rw [hj] at hi
      exact absurd hi (by decide)
  · rcases hk.argument with ⟨hj, -⟩ | ⟨width', hw', hb⟩ | ⟨hj, -⟩
    · rw [← hinfo] at hj
      rw [argumentWidth_of_lt hj] at hw
      cases hw
    · rw [← hinfo, hw] at hw'
      cases hw'
      have hvalue : Bytes.value (Bytes.bigEndian width h.argument) =
          Bytes.value (Bytes.bigEndian width k.argument) := by
        have htail := congrArg List.tail hbytes
        simp only [bytes, ← hinfo, hw, List.tail_cons] at htail
        rw [htail]
      rwa [Bytes.value_bigEndian ha, Bytes.value_bigEndian hb] at hvalue
    · rw [hinfo, hj] at hw
      cases hw
  · rcases hk.argument with ⟨hj, -⟩ | ⟨width', hw', -⟩ | ⟨-, hb, -⟩
    · rw [← hinfo, hi] at hj
      exact absurd hj (by decide)
    · rw [← hinfo, hi] at hw'
      cases hw'
    · rw [ha, hb]

theorem bytes_append_inj (hh : h.Valid) (hk : k.Valid) {r s : Bytes}
    (he : h.bytes ++ r = k.bytes ++ s) : h = k ∧ r = s := by
  have hfirst : UInt8.ofNat (32 * h.major + h.info) = UInt8.ofNat (32 * k.major + k.info) := by
    unfold bytes at he
    exact (List.cons.inj he).1
  have hnumber : 32 * h.major + h.info = 32 * k.major + k.info := by
    rw [← hh.toNat_first, ← hk.toNat_first, hfirst]
  have hi := hh.info_lt
  have hj := hk.info_lt
  have hmajor : h.major = k.major := by omega
  have hinfo : h.info = k.info := by omega
  -- Heads with the same low bits have the same length, so what follows starts at one place.
  have hlength : h.bytes.length = k.bytes.length := by
    rw [length_bytes, length_bytes, hinfo]
  obtain ⟨hbytes, hrest⟩ := List.append_inj he hlength
  have hargument := hh.argument_eq hk hinfo hbytes
  refine ⟨?_, hrest⟩
  cases h
  cases k
  cases hmajor
  cases hinfo
  cases hargument
  rfl

/-- No item begins with the byte that ends others. -/
theorem Valid.head?_ne_break (hh : h.Valid) (r : Bytes) :
    (h.bytes ++ r).head? ≠ some breakByte := by
  intro he
  have hfirst : UInt8.ofNat (32 * h.major + h.info) = breakByte := Option.some.inj he
  have hnumber := hh.toNat_first
  rw [hfirst] at hnumber
  have hbreak : breakByte.toNat = 255 := rfl
  have hmajor := hh.major
  have hi := hh.info_lt
  -- The break would be an open head of the major type 7, and only 2 to 5 have one.
  rcases hh.argument with ⟨hlow, -⟩ | ⟨width, hw, -⟩ | ⟨hopen, -, -, h5⟩
  · omega
  · have h31 : h.info = 31 := by omega
    rw [h31] at hw
    cases hw
  · omega

end Head

/-! ## Items -/

namespace Item

variable {a : Item} {as bs : List Item} {r s : Bytes}

theorem WellFormed.head?_ne_break (ha : a.WellFormed) (r : Bytes) :
    (a.bytes ++ r).head? ≠ some breakByte := by
  cases ha with
  | mk hh _ _ _ =>
    rw [bytes, List.append_assoc, List.append_assoc, List.append_assoc]
    exact hh.head?_ne_break _

/-- The bytes of the item begin those of no other one. -/
def Unambiguous (a : Item) : Prop :=
  ∀ b : Item, b.WellFormed → ∀ r s : Bytes, a.bytes ++ r = b.bytes ++ s → a = b ∧ r = s

theorem allBytes_append_inj (has : ∀ a ∈ as, a.Unambiguous) (hbs : ∀ b ∈ bs, b.WellFormed)
    (hlength : as.length = bs.length) (he : allBytes as ++ r = allBytes bs ++ s) :
    as = bs ∧ r = s := by
  induction as generalizing bs with
  | nil =>
    cases bs with
    | nil => exact ⟨rfl, he⟩
    | cons b bs => cases hlength
  | cons a as ih =>
    cases bs with
    | nil => cases hlength
    | cons b bs =>
      obtain ⟨ha, hlater⟩ := List.forall_mem_cons.mp has
      obtain ⟨hb, hothers⟩ := List.forall_mem_cons.mp hbs
      rw [allBytes, allBytes, List.append_assoc, List.append_assoc] at he
      obtain ⟨hfirst, hrest⟩ := ha b hb _ _ he
      obtain ⟨hall, hbehind⟩ := ih hlater hothers (Nat.succ.inj hlength) hrest
      exact ⟨by rw [hfirst, hall], hbehind⟩

/-- Without a stated length it is the break that shows where the items end. -/
theorem allBytes_break_inj (has : ∀ a ∈ as, a.WellFormed ∧ a.Unambiguous)
    (hbs : ∀ b ∈ bs, b.WellFormed)
    (he : allBytes as ++ breakByte :: r = allBytes bs ++ breakByte :: s) : as = bs ∧ r = s := by
  induction as generalizing bs with
  | nil =>
    cases bs with
    | nil => exact ⟨rfl, (List.cons.inj he).2⟩
    | cons b bs =>
      have hb := (hbs b List.mem_cons_self).head?_ne_break (allBytes bs ++ breakByte :: s)
      rw [allBytes, allBytes, List.nil_append, List.append_assoc] at he
      rw [← he] at hb
      exact absurd rfl hb
  | cons a as ih =>
    obtain ⟨⟨hwell, ha⟩, hlater⟩ := List.forall_mem_cons.mp has
    rw [allBytes, List.append_assoc] at he
    cases bs with
    | nil =>
      have hfirst := hwell.head?_ne_break (allBytes as ++ breakByte :: r)
      rw [he] at hfirst
      exact absurd rfl hfirst
    | cons b bs =>
      obtain ⟨hb, hothers⟩ := List.forall_mem_cons.mp hbs
      rw [allBytes, List.append_assoc] at he
      obtain ⟨hfirst, hrest⟩ := ha b hb _ _ he
      obtain ⟨hall, hbehind⟩ := ih hlater hothers hrest
      exact ⟨by rw [hfirst, hall], hbehind⟩

/-- A well-formed item is the only one at the front of its bytes, whatever stands behind them. The
induction is on the item: the head fixes the lengths, and with them the rest. -/
theorem WellFormed.unambiguous (ha : a.WellFormed) : a.Unambiguous := by
  induction ha with
  | @mk h content inside hh hcontent hcount hinside ih =>
    intro b hb r s he
    cases hb with
    | @mk k content' inside' hk hcontent' hcount' hinside' =>
      simp only [bytes, List.append_assoc] at he
      obtain ⟨hhead, hbehind⟩ := Head.bytes_append_inj hh hk he
      subst hhead
      -- The content of a string has the length that the one head states for both.
      have hlength : content.length = content'.length := hcontent.trans hcontent'.symm
      obtain ⟨hcontents, hitems⟩ := List.append_inj hbehind hlength
      rw [hcontents]
      by_cases hopen : h.info = indefinite
      · simp only [Head.ending, if_pos hopen, List.singleton_append] at hitems
        have hall : ∀ i ∈ inside, i.WellFormed ∧ i.Unambiguous :=
          fun i hi => ⟨hinside i hi, ih i hi⟩
        obtain ⟨hsame, hrest⟩ := allBytes_break_inj hall hinside' hitems
        exact ⟨by rw [hsame], hrest⟩
      · simp only [Head.ending, if_neg hopen, List.nil_append] at hitems
        have hcounts : inside.length = inside'.length := (hcount hopen).trans (hcount' hopen).symm
        obtain ⟨hsame, hrest⟩ := allBytes_append_inj ih hinside' hcounts hitems
        exact ⟨by rw [hsame], hrest⟩

end Item

end RuntimeImage.Cbor
