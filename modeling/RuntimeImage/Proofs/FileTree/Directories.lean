import RuntimeImage.Proofs.FileTree.Files

/-!
Making directories, joining names to them, and taking files out of them. Making the directories of a
path changes nothing that was there, and all that is new is a directory on the way that the path
takes. An entry that is joined to a directory stands right below it, and a file that is taken away
has nothing below it, so every other path leads where it led before.
-/

namespace RuntimeImage.FileTree

variable {t u v : FileTree} {place p dir : List String} {path s : String} {content : Bytes}
  {d e : Path}

/-! Taking a file away. -/

/-- A place that is reached through directories is not below a file. -/
theorem InDirectories.not_below_file (h : t.InDirectories p)
    (hf : t.node? place = some (.file content)) (hne : p ≠ place) : ¬place <+: p := by
  intro hbelow
  cases hf.symm.trans (h place hbelow hne.symm)

theorem node?_erase_file (h : t.InDirectories p) (hf : t.node? place = some (.file content))
    (hne : p ≠ place) : (t.erase place).node? p = t.node? p :=
  node?_erase_of_not_below t (h.not_below_file hf hne)

theorem keepsDirectories_erase (hf : t.node? place = some (.file content)) :
    t.KeepsDirectories (t.erase place) := by
  refine ⟨rfl, ?_⟩
  intro p hp hd
  have hne : p ≠ place := by
    rintro rfl
    cases hf.symm.trans hd
  rw [node?_erase_file hp hf hne, hd]

/-! A file that is written and taken away again leaves nothing behind but the loss of what it was
written over. -/

theorem keepsDirectories_erase_put (content : Bytes) (hd : t.node? place ≠ some .directory) :
    t.KeepsDirectories ((t.put place (.file content)).erase place) :=
  (keepsDirectories_put _ hd).trans
    (keepsDirectories_erase (node?_put_self t _ (not_prefix_home hd)))

theorem node?_erase_put (content : Bytes) (hd : t.node? place ≠ some .directory)
    (hp : t.InDirectories p) (hne : p ≠ place) :
    ((t.put place (.file content)).erase place).node? p = t.node? p := by
  have hp' := (keepsDirectories_put (.file content) hd).inDirectories hp
  have hfile := node?_put_self t (.file content) (not_prefix_home hd)
  rw [node?_erase_file hp' hfile hne, node?_put_of_ne t _ hne]

theorem file?_of_file?_erase_put {other : Bytes} (hd : t.node? place ≠ some .directory)
    (h : ((t.put place (.file content)).erase place).file? p = some other) :
    t.file? p = some other := by
  by_cases he : p = place
  · have hhome : ¬place <+: t.home := not_prefix_home hd
    have hgone := node?_erase_of_below (t := t.put place (.file content)) (List.prefix_refl _) hhome
    rw [file?_eq_some_iff, he, hgone] at h
    cases h
  · have hput := file?_of_file?_erase h
    rwa [file?_put_file hd, if_neg he] at hput

/-! Making directories. -/

/-- The path leads to the place, or does so by its first components. -/
def OnTheWay (t : FileTree) (d : Path) (place : List String) : Prop :=
  ∃ above, above <+: d.parts ∧ t.locate (Path.render ⟨d.slashes, above⟩) = .ok place

/-- The second tree is the first one with directories added, all of them on the way of the path. -/
structure MadeFor (d : Path) (t u : FileTree) : Prop where
  home : u.home = t.home
  kept : ∀ place node, t.node? place = some node → u.node? place = some node
  added : ∀ place node, u.node? place = some node →
    t.node? place = some node ∨ node = .directory ∧ u.OnTheWay d place

theorem MadeFor.refl (d : Path) (t : FileTree) : MadeFor d t t :=
  ⟨rfl, fun _ _ h => h, fun _ _ h => Or.inl h⟩

theorem MadeFor.keepsDirectories (h : MadeFor d t u) : t.KeepsDirectories u :=
  ⟨h.home, fun place _ hd => h.kept place .directory hd⟩

/-- No file comes or goes. -/
theorem MadeFor.file?_eq (h : MadeFor d t u) (place : List String) : u.file? place = t.file? place := by
  have hiff : ∀ content, u.file? place = some content ↔ t.file? place = some content := by
    intro content
    rw [file?_eq_some_iff, file?_eq_some_iff]
    constructor
    · intro hu
      rcases h.added place _ hu with ht | ⟨hnode, -⟩
      · exact ht
      · cases hnode
    · exact h.kept place _
  exact Option.ext hiff

theorem KeepsDirectories.onTheWay (h : t.KeepsDirectories u) (hp : t.OnTheWay d p) :
    u.OnTheWay d p := by
  obtain ⟨above, habove, hl⟩ := hp
  exact ⟨above, habove, h.locate hl⟩

/-- Directories for the first part of a path, and then those for the whole path. -/
theorem MadeFor.trans (h : MadeFor e t u) (he : e.slashes = d.slashes) (hparts : e.parts <+: d.parts)
    (h' : MadeFor d u v) : MadeFor d t v := by
  refine ⟨h'.home.trans h.home, ?_, ?_⟩
  · intro place node hn
    exact h'.kept place node (h.kept place node hn)
  · intro place node hn
    rcases h'.added place node hn with hu | hnew
    · rcases h.added place node hu with ht | ⟨hnode, above, habove, hl⟩
      · exact Or.inl ht
      · refine Or.inr ⟨hnode, h'.keepsDirectories.onTheWay ⟨above, habove.trans hparts, ?_⟩⟩
        rw [← he, hl]
    · exact Or.inr hnew

theorem madeFor_makeDirectory (hm : t.makeDirectory d.render = .ok u) : MadeFor d t u := by
  obtain ⟨made, hl, hn, rfl⟩ := makeDirectory_eq_ok_iff.mp hm
  have hnone : t.node? made ≠ some .directory := by simp [hn]
  have hmade := (keepsDirectories_put .directory hnone).locate hl
  refine ⟨rfl, ?_, ?_⟩
  · intro place node hplace
    have hne : place ≠ made := by
      rintro rfl
      cases hn.symm.trans hplace
    rw [node?_put_of_ne t _ hne, hplace]
  · intro place node hplace
    by_cases he : place = made
    · rw [he, node?_put_self t _ (not_prefix_home hnone)] at hplace
      cases hplace
      rw [he]
      exact Or.inr ⟨rfl, d.parts, List.prefix_refl _, hmade⟩
    · rw [node?_put_of_ne t _ he] at hplace
      exact Or.inl hplace

theorem madeFor_ensureDirectory : MadeFor d t (t.ensureDirectory d.render).2 := by
  unfold ensureDirectory
  split
  · next hm => exact madeFor_makeDirectory hm
  · split <;> exact MadeFor.refl d t

/-- However far it gets, a chain of new directories stays on the way of its path. -/
theorem madeFor_ensureFrom (t : FileTree) (slashes : Nat) (up : List String) :
    MadeFor ⟨slashes, up.reverse⟩ t (t.ensureFrom slashes up).2 := by
  induction up with
  | nil => exact madeFor_ensureDirectory
  | cons name up ih =>
    have hparts : up.reverse <+: (name :: up).reverse := by
      rw [List.reverse_cons]
      exact List.prefix_append _ _
    simp only [ensureFrom]
    split
    · split
      · next u he =>
        rw [he] at ih
        exact ih.trans rfl hparts madeFor_ensureDirectory
      · next u he =>
        rw [he] at ih
        exact ih.trans rfl hparts (MadeFor.refl _ u)
    · exact madeFor_ensureDirectory

theorem madeFor_ensureDirectories (d : Path) (t : FileTree) :
    MadeFor d t (t.ensureDirectories d).2 := by
  have h := t.madeFor_ensureFrom d.slashes d.parts.reverse
  rwa [List.reverse_reverse] at h

theorem isDirectory_iff :
    t.isDirectory path = true ↔ ∃ dir, t.locate path = .ok dir ∧ t.node? dir = some .directory := by
  unfold isDirectory stat
  cases t.locate path with
  | error fault => simp
  | ok place => rcases hn : t.node? place with - | ⟨content | -⟩ <;> simp [hn]

theorem isDirectory_of_ensureDirectory (h : t.ensureDirectory path = (.ok (), u)) :
    u.isDirectory path = true := by
  unfold ensureDirectory at h
  split at h
  · next made hm =>
    cases h
    obtain ⟨place, hl, hn, rfl⟩ := makeDirectory_eq_ok_iff.mp hm
    have hnone : t.node? place ≠ some .directory := by simp [hn]
    have hplace := (keepsDirectories_put .directory hnone).locate hl
    exact isDirectory_iff.mpr ⟨place, hplace, node?_put_self t _ (not_prefix_home hnone)⟩
  · split at h
    · next hd =>
      cases h
      exact hd
    · cases h

theorem isDirectory_of_ensureFrom {slashes : Nat} {up : List String}
    (h : t.ensureFrom slashes up = (.ok (), u)) :
    u.isDirectory (Path.render ⟨slashes, up.reverse⟩) = true := by
  cases up with
  | nil => exact isDirectory_of_ensureDirectory h
  | cons name up =>
    simp only [ensureFrom] at h
    split at h
    · split at h
      · exact isDirectory_of_ensureDirectory h
      · cases h
    · exact isDirectory_of_ensureDirectory h

/-- When all directories of a path are made, the path leads to one. -/
theorem isDirectory_of_ensureDirectories (h : t.ensureDirectories d = (.ok (), u)) :
    u.isDirectory d.render = true := by
  have hd := isDirectory_of_ensureFrom h
  rwa [List.reverse_reverse] at hd

/-- A directory that is there need not be made. -/
theorem ensureDirectories_of_isDirectory (h : t.isDirectory d.render = true) :
    t.ensureDirectories d = (.ok (), t) := by
  obtain ⟨dir, hl, hn⟩ := isDirectory_iff.mp h
  have hm : t.makeDirectory d.render = .error (.refused .alreadyExists d.render) := by
    simp only [makeDirectory, hl, hn]
  have he : t.ensureDirectory d.render = (.ok (), t) := by
    simp only [ensureDirectory, hm, h, if_true]
  unfold ensureDirectories
  cases hparts : d.parts.reverse with
  | nil =>
    have hd : d = ⟨d.slashes, []⟩ := by
      rw [← List.reverse_eq_nil_iff.mp hparts]
    rw [ensureFrom, ← hd, he]
  | cons name up =>
    have hd : d = ⟨d.slashes, (name :: up).reverse⟩ := by
      rw [← hparts, List.reverse_reverse]
    simp only [ensureFrom]
    rw [← hd, hm, he]

/-! Joining a name to a directory. -/

theorem walk_append {here : List String} {cs cs' : List String} :
    t.walk here (cs ++ cs') = .ok p ↔
      ∃ middle, t.walk here cs = .ok middle ∧ t.walk middle cs' = .ok p := by
  induction cs generalizing here with
  | nil => simp [walk]
  | cons c rest ih =>
    simp only [List.cons_append, walk_cons]
    split
    · simp [ih, and_assoc]
    · split
      · simp [ih, and_assoc]
      · split
        · simp
        · simp [ih, and_assoc]

theorem walk_entry {here : List String} (hs : Path.IsEntry s) :
    t.walk here [s] = .ok p ↔
      t.node? here = some .directory ∧ s.utf8ByteSize ≤ nameLimit ∧ p = here ++ [s] := by
  have hstay : ¬(s = "" ∨ s = ".") := by simp [hs.ne_empty, hs.ne_dot]
  rw [walk_cons, if_neg hstay, if_neg hs.ne_up]
  by_cases hlong : nameLimit < s.utf8ByteSize
  · simp [hlong, Nat.not_le.mpr hlong]
  · simp [hlong, Nat.not_lt.mp hlong, walk, eq_comm]

/-- A slash at the end of a path makes no difference to where a longer path leads. -/
theorem walk_slash {here : List String} {above : String} (hs : Path.IsEntry s)
    (hw : t.walk here (Path.components above) = .ok dir ∨
      t.walk here (Path.components (above ++ "/")) = .ok dir) :
    t.walk here (Path.components (above ++ "/" ++ s)) = .ok p ↔ t.walk dir [s] = .ok p := by
  have hdir : t.walk here (Path.components above) = .ok dir := by
    rcases hw with hw | hw
    · exact hw
    · have hend : Path.components (above ++ "/") = Path.components above ++ [""] := by
        rw [← String.append_empty (s := above ++ "/"), Path.components_append]
        rfl
      rw [hend] at hw
      obtain ⟨middle, hmiddle, hw⟩ := walk_append.mp hw
      obtain ⟨-, hw⟩ := walk_cons.mp hw
      rw [if_pos (Or.inl rfl)] at hw
      cases hw
      exact hmiddle
  rw [Path.components_append, hs.components_eq, walk_append]
  constructor
  · rintro ⟨middle, hmiddle, hw⟩
    cases hdir.symm.trans hmiddle
    exact hw
  · intro hw
    exact ⟨dir, hdir, hw⟩

/-- The name is short enough, alone and behind the path, and has no null character in it. -/
structure Fits (d : Path) (s : String) : Prop where
  name : s.utf8ByteSize ≤ nameLimit
  path : (d.join s).render.utf8ByteSize ≤ pathLimit
  no_null : '\x00' ∉ s.toList

/-- What is left of a name when its end is cut off fits if the name does. -/
theorem Fits.of_append {x : String} (h : Fits d (s ++ x)) (hs : Path.IsName s)
    (hx : Path.IsName (s ++ x)) : Fits d s := by
  have hname := h.name
  have hpath := h.path
  rw [hx.render_join] at hpath
  simp only [String.utf8ByteSize_append] at hname hpath
  refine ⟨by omega, ?_, ?_⟩
  · rw [hs.render_join, String.utf8ByteSize_append]
    omega
  · intro hnull
    apply h.no_null
    rw [String.toList_append]
    exact List.mem_append_left _ hnull

/-- Behind the text of a directory, an entry is the last step of the walk. -/
theorem walk_join (hs : Path.IsEntry s) (hempty : d.render ≠ "")
    (hw : t.walk (if Path.isAbsolute d.render then [] else t.home) (Path.components d.render) =
      .ok dir) :
    t.walk (if Path.isAbsolute (d.join s).render then [] else t.home)
      (Path.components (d.join s).render) = .ok p ↔ t.walk dir [s] = .ok p := by
  rw [hs.render_join]
  rcases d.front_cases with ⟨rfl, hfront⟩ | ⟨above, hfront, hrender⟩
  · -- The empty path stands for the working directory, and the entry stands alone.
    have hhome : dir = t.home := by
      have hdot : t.walk t.home ["."] = .ok dir := hw
      obtain ⟨-, hdot⟩ := walk_cons.mp hdot
      cases hdot
      rfl
    rw [hfront, String.empty_append, hs.not_isAbsolute, hs.components_eq, hhome]
    rfl
  · rw [hfront]
    have hstart : Path.isAbsolute (above ++ "/" ++ s) = Path.isAbsolute d.render := by
      rcases hrender with hrender | hrender
      · rw [hrender] at hempty ⊢
        rw [String.append_assoc, Path.isAbsolute_append hempty]
      · rw [hrender] at hempty ⊢
        rw [Path.isAbsolute_append hempty]
    rw [hstart]
    apply walk_slash hs
    rcases hrender with hrender | hrender
    · exact Or.inl (hrender ▸ hw)
    · exact Or.inr (hrender ▸ hw)

/-- An entry joined to a directory leads right below the place of the directory. -/
theorem locate_join_iff (hs : Path.IsEntry s) (hd : t.locate d.render = .ok dir) :
    t.locate (d.join s).render = .ok p ↔
      t.node? dir = some .directory ∧ Fits d s ∧ p = dir ++ [s] := by
  obtain ⟨hnull, -, hempty, hw⟩ := locate_eq_ok_iff.mp hd
  have hjoined : (d.join s).render = d.front ++ s := hs.render_join d
  have hfront : '\x00' ∉ d.front.toList := d.not_mem_front (by decide) hnull
  have hne : (d.join s).render ≠ "" := by
    rw [hjoined]
    simp [hs.ne_empty]
  rw [locate_eq_ok_iff, walk_join hs hempty hw, walk_entry hs]
  constructor
  · rintro ⟨hnone, hpath, -, hdir, hname, rfl⟩
    refine ⟨hdir, ⟨hname, hpath, ?_⟩, rfl⟩
    intro hmem
    apply hnone
    rw [hjoined, String.toList_append]
    exact List.mem_append_right _ hmem
  · rintro ⟨hdir, hfits, rfl⟩
    refine ⟨?_, hfits.path, hne, hdir, hfits.name, rfl⟩
    rw [hjoined, String.toList_append, List.mem_append, not_or]
    exact ⟨hfront, hfits.no_null⟩

/-! What a path leads to. -/

theorem stat_eq_ok_iff {node : Node} :
    t.stat path = .ok node ↔ ∃ place, t.locate path = .ok place ∧ t.node? place = some node := by
  unfold stat
  cases hl : t.locate path with
  | error fault => simp
  | ok place => cases hn : t.node? place <;> simp [hn]

theorem pathExists_eq_true_iff : t.pathExists path = .ok true ↔ ∃ node, t.stat path = .ok node := by
  unfold pathExists
  split <;> simp_all

theorem pathExists_of_locate (hl : t.locate path = .ok p) :
    t.pathExists path = .ok (t.node? p).isSome := by
  unfold pathExists stat
  rw [hl]
  cases hn : t.node? p with
  | none => simp [hn]
  | some node => simp [hn]

theorem exists_of_pathExists (h : t.pathExists path = .ok true) :
    ∃ place node, t.locate path = .ok place ∧ t.node? place = some node := by
  obtain ⟨node, hs⟩ := pathExists_eq_true_iff.mp h
  obtain ⟨place, hl, hn⟩ := stat_eq_ok_iff.mp hs
  exact ⟨place, node, hl, hn⟩

end RuntimeImage.FileTree
