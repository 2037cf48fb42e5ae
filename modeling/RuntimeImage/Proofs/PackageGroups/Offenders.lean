import RuntimeImage.Proofs.Json.Limits
import RuntimeImage.Proofs.PackageGroups

/-!
What is reported of a groups value that is not accepted. Reading goes through the values in order
and through the members of each in order, so the report is of the first value that is no group, and
in it of the first member that is no name; what follows either is not looked at. A member is
reported by its text. Every value that a JSON text denotes has one; values that are made in another
way may have none, and the failure to write them out then takes the place of the report.
-/

namespace RuntimeImage.PackageGroups

open Json

/-! ## The first entry without a property -/

/-- `x` is the first entry of a list without the property, and `before` are the entries ahead. -/
structure FirstNot {α : Type} (P : α → Prop) (xs before : List α) (x : α) : Prop where
  splits : ∃ after, xs = before ++ x :: after
  before : ∀ y ∈ before, P y
  fails : ¬P x

section FirstNot

variable {α : Type} {P : α → Prop} {xs before : List α} {x : α}

theorem exists_firstNot (h : ¬∀ y ∈ xs, P y) : ∃ before x, FirstNot P xs before x := by
  induction xs with
  | nil => exact absurd nofun h
  | cons y xs ih =>
    by_cases hy : P y
    · obtain ⟨before, x, ⟨after, rfl⟩, hbefore, hx⟩ := ih fun hall =>
        h (List.forall_mem_cons.mpr ⟨hy, hall⟩)
      exact ⟨y :: before, x, ⟨after, rfl⟩, List.forall_mem_cons.mpr ⟨hy, hbefore⟩, hx⟩
    · exact ⟨[], y, ⟨xs, rfl⟩, nofun, hy⟩

theorem FirstNot.getElem? (h : FirstNot P xs before x) : xs[before.length]? = some x := by
  obtain ⟨after, rfl⟩ := h.splits
  simp

theorem FirstNot.mem (h : FirstNot P xs before x) : x ∈ xs := List.mem_of_getElem? h.getElem?

end FirstNot

/-! ## Names and groups as values -/

/-- A text that can name a package. -/
def IsPackageName (v : Value) : Prop := ∃ s, v = .text s ∧ IsIdentifier s

/-- A list of one name or more. -/
def IsGroup (v : Value) : Prop :=
  ∃ items, v = .list items ∧ items ≠ [] ∧ ∀ item ∈ items, IsPackageName item

/-- The fault of a text or a list that is no group; `place` is where it stands among the groups. -/
inductive Offends (depth place : Nat) : Value → Fault → Prop
  | text (s : String) : Offends depth place (.text s) (.invalid (.textGroup place))
  | empty : Offends depth place (.list []) (.invalid (.emptyGroup place))
  | member {items before : List Value} {item : Value}
      (h : FirstNot IsPackageName items before item) :
      Offends depth place (.list items) (misnamed depth place item)

/-- A validation report of the value at that place: of a list that is not empty it also gives the
text of the first member that is no name. -/
structure Reports (depth place : Nat) (v : Value) (report : Report) : Prop where
  code : report.code = .validation
  group : report.context.get? "group" = some (toString place)
  package {items : List Value} (hv : v = .list items) (hne : items ≠ []) :
    ∃ before item text, FirstNot IsPackageName items before item ∧
      item.display depth = .ok text ∧ report.context.get? "package" = some text

/-- What reading ends in at a value that is no group: a report of it, unless the member that would
be reported has no text. -/
inductive EndsIn (depth place : Nat) (v : Value) : Fault → Prop
  | report {reason : Invalid} (h : Reports depth place v reason.report) :
      EndsIn depth place v (.invalid reason)
  | noText {items before : List Value} {item : Value} {reason : NoText} (hv : v = .list items)
      (h : FirstNot IsPackageName items before item) (hitem : item.display depth = .error reason) :
      EndsIn depth place v (.noText reason)

variable {depth index place : Nat} {v item : Value} {vs items before : List Value}
  {group : PackageGroup} {groups : List PackageGroup} {name : String} {fault : Fault}

theorem isPackageName_text_iff : IsPackageName (.text name) ↔ isName name = true := by
  rw [isName_iff]
  constructor
  · rintro ⟨s, heq, hs⟩
    cases heq
    exact hs
  · exact fun hs => ⟨name, rfl, hs⟩

theorem isGroup_list_iff :
    IsGroup (.list items) ↔ items ≠ [] ∧ ∀ item ∈ items, IsPackageName item := by
  constructor
  · rintro ⟨others, heq, h⟩
    cases heq
    exact h
  · exact fun h => ⟨items, rfl, h⟩

theorem isGroup_texts_iff : IsGroup (.list (group.map .text)) ↔ Valid group := by
  rw [isGroup_list_iff, Valid, Ne, List.map_eq_nil_iff, List.forall_mem_map]
  simp only [isPackageName_text_iff]

theorem isGroup_iff : IsGroup v ↔ ∃ group, Valid group ∧ .list (group.map .text) = v := by
  constructor
  · rintro ⟨items, rfl, h⟩
    -- Every member is a text, so the members are the texts of one list of names.
    have htexts : items ∈ Set.range (List.map Value.text) := by
      rw [Set.range_list_map]
      intro item hi
      obtain ⟨s, rfl, -⟩ := h.2 item hi
      exact ⟨s, rfl⟩
    obtain ⟨group, rfl⟩ := htexts
    exact ⟨group, isGroup_texts_iff.mp (isGroup_list_iff.mpr h), rfl⟩
  · rintro ⟨group, hvalid, rfl⟩
    exact isGroup_texts_iff.mpr hvalid

/-- Values that are all groups are what reading answers, as values. -/
theorem exists_eq_toValue (hall : ∀ v ∈ vs, IsGroup v) :
    ∃ groups, (∀ group ∈ groups, Valid group) ∧ toValue groups = .list vs := by
  have hlists : vs ∈ Set.range (List.map fun g : PackageGroup => Value.list (g.map .text)) := by
    rw [Set.range_list_map]
    intro v hv
    obtain ⟨group, -, rfl⟩ := isGroup_iff.mp (hall v hv)
    exact ⟨group, rfl⟩
  obtain ⟨groups, rfl⟩ := hlists
  refine ⟨groups, fun group hg => ?_, rfl⟩
  exact isGroup_texts_iff.mp (hall _ (List.mem_map_of_mem hg))

theorem exists_offends (depth place : Nat)
    (hv : (∃ s, v = .text s) ∨ ∃ items, v = .list items) (hno : ¬IsGroup v) :
    ∃ fault, Offends depth place v fault := by
  rcases hv with ⟨s, rfl⟩ | ⟨items, rfl⟩
  · exact ⟨_, .text s⟩
  · by_cases hempty : items = []
    · subst hempty
      exact ⟨_, .empty⟩
    · obtain ⟨before, item, hfirst⟩ := exists_firstNot fun hall =>
        hno (isGroup_list_iff.mpr ⟨hempty, hall⟩)
      exact ⟨_, .member hfirst⟩

theorem misnamed_of_display (h : item.display depth = .ok name) :
    misnamed depth place item = .invalid (.packageName place name) := by
  rw [misnamed, h]

theorem misnamed_of_noText {reason : NoText} (h : item.display depth = .error reason) :
    misnamed depth place item = .noText reason := by
  rw [misnamed, h]

theorem Offends.endsIn (h : Offends depth place v fault) : EndsIn depth place v fault := by
  cases h with
  | text s => exact .report ⟨rfl, rfl, nofun⟩
  | empty =>
    refine .report ⟨rfl, rfl, fun hv hne => ?_⟩
    cases hv
    exact absurd rfl hne
  | @member items before item h =>
    cases hd : item.display depth with
    | ok text =>
      rw [misnamed_of_display hd]
      refine .report ⟨rfl, rfl, fun hv _ => ?_⟩
      cases hv
      exact ⟨_, _, text, h, hd, rfl⟩
    | error reason =>
      rw [misnamed_of_noText hd]
      exact .noText rfl h hd

theorem readNames_of_firstNot (h : FirstNot IsPackageName items before item) :
    readNames depth index items = .error (misnamed depth index item) := by
  obtain ⟨⟨after, rfl⟩, hbefore, hitem⟩ := h
  induction before with
  | nil =>
    -- A text is looked into; of any other kind of value there is no name to look at.
    cases item with
    | text s => rw [List.nil_append, readNames, if_neg (hitem ∘ isPackageName_text_iff.mpr)]
    | _ => rfl
  | cons first before ih =>
    obtain ⟨⟨s, rfl, hs⟩, hrest⟩ := List.forall_mem_cons.mp hbefore
    rw [List.cons_append, readNames, if_pos (isName_iff.mpr hs), ih hrest]

theorem readGroup_of_offends (h : Offends depth index v fault) :
    readGroup depth index v = .error fault := by
  cases h with
  | text s => rfl
  | empty => rfl
  | @member items before item h =>
    -- The empty list, which is refused for another reason, has no such member.
    cases items with
    | nil => exact absurd h.mem List.not_mem_nil
    | cons first rest => exact readNames_of_firstNot h

/-- Behind groups, a value that is none ends the reading, whatever follows it. -/
theorem readFrom_of_offends (hbefore : ∀ w ∈ before, IsGroup w)
    (hoff : Offends depth (index + before.length) v fault) (after : List Value) :
    readFrom depth index (before ++ v :: after) = .error fault := by
  induction before generalizing index with
  | nil =>
    have hread : readGroup depth index v = .error fault := readGroup_of_offends hoff
    rw [List.nil_append, readFrom, hread]
  | cons first before ih =>
    obtain ⟨hfirst, hrest⟩ := List.forall_mem_cons.mp hbefore
    obtain ⟨group, hvalid, rfl⟩ := isGroup_iff.mp hfirst
    -- The rest is read with the next number, from which the place is counted there.
    rw [List.length_cons, ← Nat.add_assoc, Nat.add_right_comm] at hoff
    rw [List.cons_append, readFrom, readGroup_of_valid index group hvalid, ih hrest hoff]

theorem normalize_of_offends (hbefore : ∀ w ∈ before, IsGroup w)
    (hoff : Offends depth before.length v fault) (after : List Value) :
    normalize depth (.list (before ++ v :: after)) = .error fault :=
  readFrom_of_offends hbefore ((Nat.zero_add before.length).symm ▸ hoff) after

/-- Texts and lists are all groups and read as such, or reading ends at the first that is none. -/
theorem normalize_cases (depth : Nat)
    (hvs : ∀ v ∈ vs, (∃ s, v = .text s) ∨ ∃ items, v = .list items) :
    (∀ v ∈ vs, IsGroup v) ∧
        (∃ groups, normalize depth (.list vs) = .ok groups ∧ toValue groups = .list vs) ∨
      ∃ before v fault, FirstNot IsGroup vs before v ∧ Offends depth before.length v fault ∧
        normalize depth (.list vs) = .error fault := by
  by_cases hall : ∀ v ∈ vs, IsGroup v
  · obtain ⟨groups, hvalid, hsame⟩ := exists_eq_toValue hall
    exact Or.inl ⟨hall, groups, hsame ▸ readFrom_of_valid 0 groups hvalid, hsame⟩
  · obtain ⟨before, v, hfirst⟩ := exists_firstNot hall
    obtain ⟨fault, hoff⟩ := exists_offends depth before.length (hvs v hfirst.mem) hfirst.fails
    refine Or.inr ⟨before, v, fault, hfirst, hoff, ?_⟩
    obtain ⟨⟨after, rfl⟩, hbefore, -⟩ := hfirst
    exact normalize_of_offends hbefore hoff after

/-- Groups that were read from texts and lists are what the lists hold. -/
theorem toValue_of_normalize (hvs : ∀ v ∈ vs, (∃ s, v = .text s) ∨ ∃ items, v = .list items)
    (h : normalize depth (.list vs) = .ok groups) : toValue groups = .list vs := by
  rcases normalize_cases depth hvs with ⟨-, others, hread, hsame⟩ | ⟨before, v, fault, -, -, hread⟩
  · cases hread.symm.trans h
    exact hsame
  · cases hread.symm.trans h

/-- Of a list of lists that has room to be nested the only complaint is about what is in it. -/
theorem invalid_of_normalize (hlists : ∀ v ∈ vs, ∃ items, v = .list items)
    (hfits : (Value.list vs).Fits depth) (h : normalize depth (.list vs) = .error fault) :
    ∃ reason, fault = .invalid reason := by
  rcases normalize_cases depth fun v hv => Or.inr (hlists v hv) with
    ⟨-, groups, hread, -⟩ | ⟨before, v, fault, hfirst, hoff, hread⟩
  · cases hread.symm.trans h
  · cases hread.symm.trans h
    cases hoff.endsIn with
    | report => exact ⟨_, rfl⟩
    | noText heq hmember hitem =>
      -- The member is inside of two containers, so there is room for one more.
      subst heq
      obtain ⟨room, rfl⟩ := hfits.exists_succ (Nat.succ_pos _)
      have hinner := Value.fits_list_iff.mp hfits _ hfirst.mem
      obtain ⟨room, rfl⟩ := hinner.exists_succ (Nat.succ_pos _)
      have hfitsItem := Value.fits_list_iff.mp hinner _ hmember.mem
      obtain ⟨s, hs⟩ := hfitsItem.exists_display (Nat.lt_add_of_pos_right (Nat.succ_pos 1))
      cases hs.symm.trans hitem

/-! ## Groups of texts -/

/-- Why groups of texts are not accepted: the group with that number is empty or holds that name. -/
inductive Refuses (groups : List PackageGroup) : Invalid → Prop
  | emptyGroup {i : Nat} (hi : groups[i]? = some []) : Refuses groups (.emptyGroup i)
  | packageName {i : Nat} {group : PackageGroup} {name : String} (hi : groups[i]? = some group)
      (hm : name ∈ group) (hn : ¬IsIdentifier name) : Refuses groups (.packageName i name)

theorem exists_refuses_iff {groups : List PackageGroup} :
    (∃ reason, Refuses groups reason) ↔
      [] ∈ groups ∨ ∃ group ∈ groups, ∃ name ∈ group, ¬IsIdentifier name := by
  constructor
  · rintro ⟨reason, hr⟩
    cases hr with
    | emptyGroup hi => exact Or.inl (List.mem_of_getElem? hi)
    | packageName hi hm hn => exact Or.inr ⟨_, List.mem_of_getElem? hi, _, hm, hn⟩
  · rintro (hempty | ⟨group, hg, name, hm, hn⟩)
    · obtain ⟨i, hi⟩ := List.mem_iff_getElem?.mp hempty
      exact ⟨_, .emptyGroup hi⟩
    · obtain ⟨i, hi⟩ := List.mem_iff_getElem?.mp hg
      exact ⟨_, .packageName hi hm hn⟩

theorem Offends.refuses (hg : groups[place]? = some group)
    (h : Offends depth place (.list (group.map .text)) fault) :
    ∃ reason, fault = .invalid reason ∧ Refuses groups reason := by
  generalize hitems : group.map Value.text = items at h
  cases h with
  | empty =>
    rw [List.map_eq_nil_iff.mp hitems] at hg
    exact ⟨_, rfl, .emptyGroup hg⟩
  | member h =>
    obtain ⟨name, hname, rfl⟩ := List.mem_map.mp (hitems ▸ h.mem)
    exact ⟨_, misnamed_of_display rfl, .packageName hg hname fun hn => h.fails ⟨name, rfl, hn⟩⟩

/-- Groups of texts are read as they are, or refused for a reason that they have. -/
theorem normalize_toValue_cases (depth : Nat) (groups : List PackageGroup) :
    normalize depth (toValue groups) = .ok groups ∧ (∀ reason, ¬Refuses groups reason) ∨
      ∃ reason, Refuses groups reason ∧
        normalize depth (toValue groups) = .error (.invalid reason) := by
  have hlists : ∀ v ∈ groups.map (fun g => Value.list (g.map .text)),
      (∃ s, v = .text s) ∨ ∃ items, v = .list items :=
    List.forall_mem_map.mpr fun group _ => Or.inr ⟨_, rfl⟩
  rcases normalize_cases depth hlists with ⟨hall, -⟩ | ⟨before, v, fault, hfirst, hoff, hread⟩
  · have hvalid : ∀ group ∈ groups, Valid group := fun group hg =>
      isGroup_texts_iff.mp (List.forall_mem_map.mp hall group hg)
    refine Or.inl ⟨readFrom_of_valid 0 groups hvalid, ?_⟩
    intro reason hr
    cases hr with
    | emptyGroup hi => exact (hvalid [] (List.mem_of_getElem? hi)).1 rfl
    | packageName hi hm hn =>
      exact hn (isName_iff.mp ((hvalid _ (List.mem_of_getElem? hi)).2 _ hm))
  · have hat := hfirst.getElem?
    rw [List.getElem?_map, Option.map_eq_some_iff] at hat
    obtain ⟨group, hg, rfl⟩ := hat
    obtain ⟨reason, rfl, hr⟩ := hoff.refuses hg
    exact Or.inr ⟨reason, hr, hread⟩

/-! ## Acceptance and report -/

end RuntimeImage.PackageGroups
