import RuntimeImage.Proofs.FileTree
import RuntimeImage.Proofs.Path

/-!
The regular files of a tree, as a function from places to contents. What is put at a place changes it
there alone, and what is removed takes files away and adds none. The place that a path leads to is
named by its last component.
-/

namespace RuntimeImage.FileTree

variable {t u : FileTree} {place dir p here : List String} {path : String} {content : Bytes}

/-- The content of the regular file at a place. -/
def file? (t : FileTree) (place : List String) : Option Bytes :=
  match t.node? place with
  | some (.file content) => some content
  | _ => none

theorem file?_eq_some_iff : t.file? place = some content ↔ t.node? place = some (.file content) := by
  unfold file?
  split <;> simp_all

theorem read_eq_ok_iff_file? :
    t.read path = .ok content ↔ ∃ place, t.locate path = .ok place ∧ t.file? place = some content := by
  simp only [read_eq_ok_iff, file?_eq_some_iff]

/-! Where the last component of a path leads. -/

/-- A walk whose last component leads down ends at a place of that name. -/
theorem walk_concat {cs : List String} {c : String} (hc : Path.IsEntry c)
    (hw : t.walk here (cs ++ [c]) = .ok p) : ∃ dir, p = dir ++ [c] := by
  induction cs generalizing here with
  | nil =>
    obtain ⟨-, hw⟩ := walk_cons.mp hw
    rw [if_neg (by simp [hc.ne_empty, hc.ne_dot]), if_neg hc.ne_up] at hw
    split at hw
    · cases hw
    · cases hw
      exact ⟨here, rfl⟩
  | cons d rest ih =>
    obtain ⟨-, hw⟩ := walk_cons.mp hw
    split at hw
    · exact ih hw
    · split at hw
      · exact ih hw
      · split at hw
        · cases hw
        · exact ih hw

/-- Joined to whatever directory, an entry leads to a place of its name. -/
theorem locate_join {s : String} (hs : Path.IsEntry s) {d : Path}
    (hl : t.locate (d.join s).render = .ok p) : ∃ dir, p = dir ++ [s] := by
  obtain ⟨above, ha⟩ := hs.components_render_join d
  obtain ⟨-, -, -, hw⟩ := locate_eq_ok_iff.mp hl
  rw [ha] at hw
  exact walk_concat hs hw

/-! What the changes do to the regular files. -/

theorem file?_put_file (hd : t.node? place ≠ some .directory) :
    (t.put place (.file content)).file? p = if p = place then some content else t.file? p := by
  split
  · next he =>
    rw [he, file?_eq_some_iff]
    exact node?_put_self t _ (not_prefix_home hd)
  · next hne => rw [file?, file?, node?_put_of_ne t _ hne]

/-- Nothing is left at a removed place and below it, but for the way to the working directory. -/
theorem node?_erase_of_below (hb : place <+: p) (hh : ¬p <+: t.home) :
    (t.erase place).node? p = none := by
  have hgone : (t.erase place).entries.find? (fun e => e.1 = p) = none := by
    simp only [erase, List.find?_eq_none, List.mem_filter, decide_eq_true_eq]
    rintro e ⟨-, hkept⟩ rfl
    simp [List.isPrefixOf_iff_prefix.mpr hb] at hkept
  rw [node?, if_neg (by simpa [erase, List.isPrefixOf_iff_prefix] using hh), hgone]
  rfl

/-- Removing a place takes files away and adds none. -/
theorem file?_of_file?_erase (h : (t.erase place).file? p = some content) :
    t.file? p = some content := by
  by_cases hb : place <+: p
  · rw [file?_eq_some_iff] at h
    have hhome : ¬p <+: t.home := not_prefix_home (t := t.erase place) (by simp [h])
    rw [node?_erase_of_below hb hhome] at h
    cases h
  · rwa [file?, node?_erase_of_not_below t hb, ← file?] at h

end RuntimeImage.FileTree
