import Mathlib
import RuntimeImage.PackageGroups

/-!
What reading a groups value answers: groups with at least one name each, every name an identifier.
Such groups are read back from their own value as they are, so reading twice changes nothing. What
is accepted does not depend on how deep values may be nested.
-/

namespace RuntimeImage.PackageGroups

open Json

def IsLetter (c : Char) : Prop := 'A' ≤ c ∧ c ≤ 'Z' ∨ 'a' ≤ c ∧ c ≤ 'z' ∨ c = '_'

/-- What the name of a package has to be. -/
def IsIdentifier (s : String) : Prop :=
  ∃ first rest, s.toList = first :: rest ∧ IsLetter first ∧
    ∀ c ∈ rest, IsLetter c ∨ '0' ≤ c ∧ c ≤ '9'

theorem isNameStart_iff {c : Char} : isNameStart c = true ↔ IsLetter c := by
  simp only [isNameStart, IsLetter, Char.isAlpha, Char.isUpper, Char.isLower, Bool.or_eq_true,
    Bool.and_eq_true, decide_eq_true_eq, ge_iff_le, Char.le_def, or_assoc]

theorem isNameChar_iff {c : Char} : isNameChar c = true ↔ IsLetter c ∨ '0' ≤ c ∧ c ≤ '9' := by
  have hstart : isNameChar c = (isNameStart c || c.isDigit) := by
    unfold isNameChar isNameStart Char.isAlphanum
    cases c.isAlpha <;> cases c.isDigit <;> cases decide (c = '_') <;> rfl
  rw [hstart, Bool.or_eq_true, isNameStart_iff]
  simp only [Char.isDigit, Bool.and_eq_true, decide_eq_true_eq, ge_iff_le, Char.le_def]

theorem isName_iff {s : String} : isName s = true ↔ IsIdentifier s := by
  unfold isName IsIdentifier
  cases s.toList with
  | nil => simp
  | cons c rest =>
    simp only [Bool.and_eq_true, List.all_eq_true, isNameStart_iff, isNameChar_iff]
    constructor
    · rintro ⟨hfirst, hrest⟩
      exact ⟨c, rest, rfl, hfirst, hrest⟩
    · rintro ⟨first, others, heq, hfirst, hrest⟩
      cases heq
      exact ⟨hfirst, hrest⟩

def Valid (group : PackageGroup) : Prop := group ≠ [] ∧ ∀ name ∈ group, isName name = true

variable {depth depth' : Nat}

theorem isName_of_readNames (index : Nat) (vs : List Value) (names : PackageGroup)
    (h : readNames depth index vs = .ok names) :
    names.length = vs.length ∧ ∀ name ∈ names, isName name = true := by
  induction vs generalizing names with
  | nil =>
    cases h
    simp
  | cons v rest ih =>
    cases v with
    | text s =>
      rw [readNames] at h
      split at h
      · next hs =>
        split at h
        · next names' hrest =>
          cases h
          obtain ⟨hlen, hall⟩ := ih names' hrest
          exact ⟨by simp [hlen], by simpa using And.intro hs hall⟩
        · cases h
      · cases h
    | _ => simp [readNames] at h

theorem valid_of_readGroup (index : Nat) (v : Value) (group : PackageGroup)
    (h : readGroup depth index v = .ok group) : Valid group := by
  unfold readGroup at h
  split at h
  · cases h
  · split at h
    · cases h
    · cases h
    · next names hne _ =>
      obtain ⟨hlen, hall⟩ := isName_of_readNames index names group h
      refine ⟨?_, hall⟩
      rintro rfl
      exact hne (List.eq_nil_of_length_eq_zero hlen.symm)

theorem valid_of_readFrom (index : Nat) (vs : List Value) (groups : List PackageGroup)
    (h : readFrom depth index vs = .ok groups) : ∀ group ∈ groups, Valid group := by
  induction vs generalizing index groups with
  | nil =>
    cases h
    simp
  | cons v rest ih =>
    rw [readFrom] at h
    split at h
    · cases h
    · next names hv =>
      split at h
      · next groups' hrest =>
        cases h
        simpa using And.intro (valid_of_readGroup index v names hv) (ih _ _ hrest)
      · cases h

theorem valid_of_normalize (v : Value) (groups : List PackageGroup)
    (h : normalize depth v = .ok groups) : ∀ group ∈ groups, Valid group := by
  unfold normalize at h
  split at h
  · cases h
  · exact valid_of_readFrom 0 _ groups h

theorem readNames_text (index : Nat) (names : PackageGroup)
    (h : ∀ name ∈ names, isName name = true) :
    readNames depth index (names.map .text) = .ok names := by
  induction names with
  | nil => rfl
  | cons name rest ih =>
    have hrest := ih (fun n hn => h n (List.mem_cons_of_mem _ hn))
    simp only [List.map_cons, readNames, h name List.mem_cons_self, if_true, hrest]

theorem readGroup_of_valid (index : Nat) (group : PackageGroup) (h : Valid group) :
    readGroup depth index (.list (group.map .text)) = .ok group := by
  obtain ⟨name, rest, rfl⟩ := List.exists_cons_of_ne_nil h.1
  exact readNames_text index (name :: rest) h.2

theorem readFrom_of_valid (index : Nat) (groups : List PackageGroup)
    (h : ∀ group ∈ groups, Valid group) :
    readFrom depth index (groups.map (fun g => .list (g.map .text))) = .ok groups := by
  induction groups generalizing index with
  | nil => rfl
  | cons group rest ih =>
    have hgroup : readGroup depth index (.list (group.map .text)) = .ok group :=
      readGroup_of_valid index group (h group List.mem_cons_self)
    have hrest := ih (index + 1) (fun g hg => h g (List.mem_cons_of_mem _ hg))
    simp only [List.map_cons, readFrom, hgroup, hrest]

/-! What is accepted is accepted however deep values may be nested. -/

theorem readNames_of_readNames {index : Nat} {vs : List Value} {names : PackageGroup}
    (h : readNames depth index vs = .ok names) : readNames depth' index vs = .ok names := by
  induction vs generalizing names with
  | nil => exact h
  | cons v rest ih =>
    cases v with
    | text s =>
      rw [readNames] at h ⊢
      split at h
      · next hs =>
        split at h
        · next hrest =>
          cases h
          rw [if_pos hs, ih hrest]
        · cases h
      · cases h
    | _ => simp [readNames] at h

theorem readGroup_of_readGroup {index : Nat} {v : Value} {group : PackageGroup}
    (h : readGroup depth index v = .ok group) : readGroup depth' index v = .ok group := by
  unfold readGroup at h ⊢
  split at h
  · cases h
  · split at h
    · cases h
    · cases h
    · exact readNames_of_readNames h

theorem readFrom_of_readFrom {index : Nat} {vs : List Value} {groups : List PackageGroup}
    (h : readFrom depth index vs = .ok groups) : readFrom depth' index vs = .ok groups := by
  induction vs generalizing index groups with
  | nil => exact h
  | cons v rest ih =>
    rw [readFrom] at h ⊢
    split at h
    · cases h
    · next hv =>
      rw [readGroup_of_readGroup hv]
      split at h
      · next hrest =>
        cases h
        rw [ih hrest]
      · cases h

theorem normalize_of_normalize {v : Value} {groups : List PackageGroup}
    (h : normalize depth v = .ok groups) : normalize depth' v = .ok groups := by
  unfold normalize at h ⊢
  split at h
  · cases h
  · exact readFrom_of_readFrom h

/-- Groups that were read once are read again as they are. -/
theorem normalize_toValue (v : Value) (groups : List PackageGroup)
    (h : normalize depth v = .ok groups) : normalize depth (toValue groups) = .ok groups :=
  readFrom_of_valid 0 groups (valid_of_normalize v groups h)

end RuntimeImage.PackageGroups
