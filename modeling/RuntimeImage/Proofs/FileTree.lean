import RuntimeImage.FileTree.Change

/-!
A file that was written or moved is read back. The place a path leads to depends on the directories
above it alone, and a write puts a file where no directory was, so every path still leads where it
led before.
-/

namespace RuntimeImage.FileTree

variable {t u v : FileTree}

/-- One step of a walk: it starts from a directory and follows one component. -/
theorem walk_cons {here p : List String} {c : String} {rest : List String} :
    t.walk here (c :: rest) = .ok p ↔
      t.node? here = some .directory ∧
        (if c = "" ∨ c = "." then t.walk here rest
          else if c = ".." then t.walk here.dropLast rest
          else if nameLimit < c.utf8ByteSize then .error .nameTooLong
          else t.walk (here ++ [c]) rest) = .ok p := by
  rw [walk]
  cases hn : t.node? here with
  | none => simp
  | some node => cases node <;> simp

/-! Walks lead through directories alone, whatever else there is. -/

/-- All that is above a place is a directory, as it is above every entry of a tree on a disk. -/
def InDirectories (t : FileTree) (place : List String) : Prop :=
  ∀ above, above <+: place → above ≠ place → t.node? above = some .directory

theorem node?_of_prefix_home {place : List String} (h : place <+: t.home) :
    t.node? place = some .directory := by
  rw [node?, if_pos (List.isPrefixOf_iff_prefix.mpr h)]

/-- Places on the way to the working directory are directories, so no file is ever put there. -/
theorem not_prefix_home {place : List String} (hd : t.node? place ≠ some .directory) :
    ¬place <+: t.home := fun hp => hd (node?_of_prefix_home hp)

theorem inDirectories_of_prefix_home {place : List String} (h : place <+: t.home) :
    t.InDirectories place := fun _ habove _ => node?_of_prefix_home (habove.trans h)

theorem InDirectories.child {here : List String} (h : t.InDirectories here)
    (hd : t.node? here = some .directory) (c : String) : t.InDirectories (here ++ [c]) := by
  intro above habove hne
  have hup : above <+: here := (List.prefix_concat_iff.mp habove).resolve_left hne
  by_cases he : above = here
  · rw [he, hd]
  · exact h above hup he

theorem InDirectories.parent {here : List String} (h : t.InDirectories here) :
    t.InDirectories here.dropLast := by
  intro above habove hne
  apply h above (habove.trans (List.dropLast_prefix here))
  rintro rfl
  exact hne ((List.dropLast_prefix above).eq_of_length_le habove.length_le).symm

/-- A walk ends at a place in directories if it starts at one. -/
theorem InDirectories.walk {here p : List String} {cs : List String} (h : t.InDirectories here)
    (hw : t.walk here cs = .ok p) : t.InDirectories p := by
  induction cs generalizing here with
  | nil =>
    cases hw
    exact h
  | cons c rest ih =>
    obtain ⟨hdir, hw⟩ := walk_cons.mp hw
    split at hw
    · exact ih h hw
    · split at hw
      · exact ih h.parent hw
      · split at hw
        · cases hw
        · exact ih (h.child hdir c) hw

/-- What is a directory in the first tree is one in the second, as far as paths lead. -/
structure KeepsDirectories (t u : FileTree) : Prop where
  home : u.home = t.home
  kept : ∀ p, t.InDirectories p → t.node? p = some .directory → u.node? p = some .directory

theorem KeepsDirectories.refl (t : FileTree) : t.KeepsDirectories t := ⟨rfl, fun _ _ hd => hd⟩

theorem KeepsDirectories.inDirectories {p : List String} (h : t.KeepsDirectories u)
    (hp : t.InDirectories p) : u.InDirectories p := by
  intro above habove hne
  apply h.kept above
  · intro higher hhigher hne'
    apply hp higher (hhigher.trans habove)
    rintro rfl
    exact hne' (habove.eq_of_length_le hhigher.length_le).symm
  · exact hp above habove hne

theorem KeepsDirectories.trans (h : t.KeepsDirectories u) (h' : u.KeepsDirectories v) :
    t.KeepsDirectories v := by
  refine ⟨h'.home.trans h.home, ?_⟩
  intro p hp hd
  exact h'.kept p (h.inDirectories hp) (h.kept p hp hd)

/-- A walk that leads somewhere leads there still. -/
theorem KeepsDirectories.walk {here p : List String} {cs : List String}
    (h : t.KeepsDirectories u) (hi : t.InDirectories here) (hw : t.walk here cs = .ok p) :
    u.walk here cs = .ok p := by
  induction cs generalizing here with
  | nil => exact hw
  | cons c rest ih =>
    obtain ⟨hdir, hw⟩ := walk_cons.mp hw
    refine walk_cons.mpr ⟨h.kept here hi hdir, ?_⟩
    -- The component decides where the walk goes on; the tree has no part in that.
    by_cases hstay : c = "" ∨ c = "."
    · rw [if_pos hstay] at hw ⊢
      exact ih hi hw
    · rw [if_neg hstay] at hw ⊢
      by_cases hup : c = ".."
      · rw [if_pos hup] at hw ⊢
        exact ih hi.parent hw
      · rw [if_neg hup] at hw ⊢
        by_cases hlong : nameLimit < c.utf8ByteSize
        · rw [if_pos hlong] at hw
          cases hw
        · rw [if_neg hlong] at hw ⊢
          exact ih (hi.child hdir c) hw

theorem locate_eq_ok_iff {path : String} {p : List String} :
    t.locate path = .ok p ↔
      '\x00' ∉ path.toList ∧ path.utf8ByteSize ≤ pathLimit ∧ path ≠ "" ∧
        t.walk (if Path.isAbsolute path then [] else t.home) (Path.components path) = .ok p := by
  unfold locate
  split
  · simp [*]
  · split
    · simp only [reduceCtorEq, false_iff]
      omega
    · split
      · simp [*]
      · split <;> simp_all

/-- Paths start at the root or at the working directory. -/
theorem inDirectories_start (t : FileTree) (path : String) :
    t.InDirectories (if Path.isAbsolute path then [] else t.home) := by
  split
  · exact inDirectories_of_prefix_home List.nil_prefix
  · exact inDirectories_of_prefix_home (List.prefix_refl _)

theorem inDirectories_of_locate {path : String} {p : List String} (hl : t.locate path = .ok p) :
    t.InDirectories p := by
  obtain ⟨-, -, -, hw⟩ := locate_eq_ok_iff.mp hl
  exact (t.inDirectories_start path).walk hw

theorem KeepsDirectories.locate {path : String} {p : List String} (h : t.KeepsDirectories u)
    (hl : t.locate path = .ok p) : u.locate path = .ok p := by
  obtain ⟨hnull, hlimit, hempty, hw⟩ := locate_eq_ok_iff.mp hl
  refine locate_eq_ok_iff.mpr ⟨hnull, hlimit, hempty, ?_⟩
  rw [h.home]
  exact h.walk (t.inDirectories_start path) hw

/-- What is put at a place that is no directory takes no directory away. -/
theorem keepsDirectories_put {place : List String} (node : Node)
    (hd : t.node? place ≠ some .directory) : t.KeepsDirectories (t.put place node) := by
  refine ⟨rfl, ?_⟩
  intro p _ hp
  have hne : p ≠ place := by
    rintro rfl
    exact hd hp
  rw [node?_put_of_ne t node hne, hp]

theorem write_eq_ok_iff {path : String} {content : Bytes} :
    t.write path content = .ok u ↔
      ∃ place, t.locate path = .ok place ∧ t.node? place ≠ some .directory ∧
        u = t.put place (.file content) := by
  unfold write
  split
  · simp [*]
  · next place hl =>
    split
    · simp [*]
    · next hd =>
      constructor
      · intro h
        cases h
        exact ⟨place, hl, hd, rfl⟩
      · rintro ⟨place', hl', -, rfl⟩
        cases hl.symm.trans hl'
        rfl

theorem makeDirectory_eq_ok_iff {path : String} :
    t.makeDirectory path = .ok u ↔
      ∃ place, t.locate path = .ok place ∧ t.node? place = none ∧ u = t.put place .directory := by
  unfold makeDirectory
  cases hl : t.locate path with
  | error fault => simp
  | ok place => cases hn : t.node? place <;> simp [hn, eq_comm]

theorem read_eq_ok_iff {path : String} {content : Bytes} :
    t.read path = .ok content ↔
      ∃ place, t.locate path = .ok place ∧ t.node? place = some (.file content) := by
  unfold read stat
  cases hl : t.locate path with
  | error fault => simp
  | ok place => rcases hn : t.node? place with - | ⟨content' | -⟩ <;> simp [hn]

theorem read_of_write {path : String} {content : Bytes} (hw : t.write path content = .ok u) :
    u.read path = .ok content := by
  obtain ⟨place, hl, hd, rfl⟩ := write_eq_ok_iff.mp hw
  have hplace := (keepsDirectories_put (.file content) hd).locate hl
  have hnode := node?_put_self t (.file content) (not_prefix_home hd)
  exact read_eq_ok_iff.mpr ⟨place, hplace, hnode⟩

/-- A file that is moved is taken away and then written. -/
theorem replace_eq {source target : String} {place : List String} {content : Bytes}
    (hl : t.locate source = .ok place) (hf : t.node? place = some (.file content)) :
    t.replace source target = (t.erase place).write target content := by
  have hr : t.read source = .ok content := read_eq_ok_iff.mpr ⟨place, hl, hf⟩
  rw [replace, hr, hl]
  cases hw : (t.erase place).write target content <;> simp [hw]

theorem read_of_replace {source target : String} {content : Bytes}
    (hr : t.read source = .ok content) (hm : t.replace source target = .ok u) :
    u.read target = .ok content := by
  obtain ⟨place, hl, hf⟩ := read_eq_ok_iff.mp hr
  rw [replace_eq hl hf] at hm
  exact read_of_write hm

end RuntimeImage.FileTree
