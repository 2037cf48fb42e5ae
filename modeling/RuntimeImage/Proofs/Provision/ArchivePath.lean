import RuntimeImage.Proofs.FileTree
import RuntimeImage.Proofs.Provision.Refusals
import RuntimeImage.Proofs.Provision.ShellCommands

/-!
Where the archive of the runtime stands while it is unpacked. It is copied to a path, extracted from
there and removed there, and the path is the same each time: the archive's name below `/tmp`. A name
without a slash is one component, and with two exceptions the path is a direct child of `/tmp`: the
names `.` and `..` are accepted too, and lead to `/tmp` itself and to the root.
-/

namespace RuntimeImage

/-! ## Paths taken component by component -/

namespace Path

/-- One component further: an empty one and `.` stay, `..` leads up, and from the root nowhere. -/
def follow (here : List String) (c : String) : List String :=
  if c = "" ∨ c = "." then here else if c = ".." then here.dropLast else here ++ [c]

/-- The names from the root to where the text of an absolute path leads, with nothing looked up. -/
def resolve (s : String) : List String := (components s).foldl follow []

end Path

namespace FileTree

variable {t : FileTree}

/-- A walk that leads somewhere leads to where its components say. -/
theorem eq_foldl_of_walk {here p : List String} {cs : List String}
    (hw : t.walk here cs = .ok p) : p = cs.foldl Path.follow here := by
  induction cs generalizing here with
  | nil =>
    cases hw
    rfl
  | cons c rest ih =>
    obtain ⟨-, hw⟩ := walk_cons.mp hw
    rw [List.foldl_cons, Path.follow]
    split at hw
    · next hstay =>
      rw [if_pos hstay]
      exact ih hw
    · next hstay =>
      rw [if_neg hstay]
      split at hw
      · next hup =>
        rw [if_pos hup]
        exact ih hw
      · next hup =>
        rw [if_neg hup]
        split at hw
        · cases hw
        · exact ih hw

/-- No tree of files leads an absolute path anywhere else. -/
theorem eq_resolve_of_locate {path : String} {p : List String}
    (ha : Path.isAbsolute path) (hl : t.locate path = .ok p) : p = Path.resolve path := by
  obtain ⟨-, -, -, hw⟩ := locate_eq_ok_iff.mp hl
  rw [if_pos ha] at hw
  exact eq_foldl_of_walk hw

end FileTree

namespace Distribution

variable {d d' : Distribution}

/-- A name without a slash is one component below `/tmp`. -/
theorem resolve_stagingPath (hslash : '/' ∉ d.archiveName.toList) :
    Path.resolve d.stagingPath = Path.follow ["tmp"] d.archiveName := by
  -- Only the name's own characters could cut it, and none of them is a slash.
  have hname : Path.components d.archiveName = [d.archiveName] := by
    rw [Path.components, List.splitOn_eq_singleton hslash, List.map_singleton, String.ofList_toList]
  have hpath : d.stagingPath = "/tmp" ++ "/" ++ d.archiveName := rfl
  rw [Path.resolve, hpath, Path.components_append, hname, List.foldl_append]
  rfl

theorem resolve_stagingPath_of_validate (hd : d.validate = .ok d') :
    Path.resolve d.stagingPath =
      if d.archiveName = "." then ["tmp"]
      else if d.archiveName = ".." then []
      else ["tmp", d.archiveName] := by
  obtain ⟨-, -, ⟨hne, hslash⟩, -⟩ := validate_eq_ok_iff.mp hd
  rw [resolve_stagingPath hslash, Path.follow]
  simp only [hne, false_or]
  rfl

end Distribution

/-! ## The path of the archive -/

namespace Archive

open Provisioning RuntimeImage.Graph

/-- What is added to `root` copies an archive to the path, makes a directory, and has a shell extract
the archive at the path and remove the file at the path; then nothing is copied or run any more. -/
def UnpacksThrough (root g : Graph) (path : String) : Prop :=
  ∃ copying staging src making installRoot mode parents label command environment rest,
    g.operations = root.operations ++
      [.copy copying staging src path, .makeDir making installRoot mode parents,
        .run label ["bash", "-c", command] environment] ++ rest ∧
    (∀ op ∈ rest, op.isCopy = false ∧ op.isRun = false) ∧
    Shell.split command = some ["tar", "zxf", path, "--strip-components", "1", "-C", installRoot,
      "&&", "rm", path]

/-- The archive is a direct child of `/tmp` while it is unpacked. -/
def StaysInTmp (root g : Graph) : Prop :=
  ∃ path name, UnpacksThrough root g path ∧ Path.resolve path = ["tmp", name]

variable {i : Installer} {retrieve : Retriever} {root g : Graph} {w w' : Workspace}

/-- There is no other path that the archive could go through. -/
theorem UnpacksThrough.unique {path path' : String} (h : UnpacksThrough root g path)
    (h' : UnpacksThrough root g path') : path' = path := by
  obtain ⟨_, _, _, _, _, _, _, _, _, _, _, hops, -⟩ := h
  obtain ⟨_, _, _, _, _, _, _, _, _, _, _, hops', -⟩ := h'
  rw [hops, List.append_assoc, List.append_assoc] at hops'
  injection List.append_cancel_left hops' with hcopy
  injection hcopy with _ _ _ hdest
  exact hdest.symm

theorem UnpacksThrough.staysInTmp_iff_resolve {path : String} (h : UnpacksThrough root g path) :
    StaysInTmp root g ↔ ∃ name, Path.resolve path = ["tmp", name] := by
  constructor
  · rintro ⟨path', name, h', hchild⟩
    rw [h.unique h'] at hchild
    exact ⟨name, hchild⟩
  · rintro ⟨name, hchild⟩
    exact ⟨path, name, h, hchild⟩

theorem unpacksThrough_of_gives (hi : Gives (i.install retrieve root) w g w') :
    UnpacksThrough root g i.distribution.stagingPath := by
  obtain ⟨⟨staging, src, rfl⟩, -⟩ := Installer.after_of_install hi
  refine ⟨_, staging, src, _, i.distribution.installRoot, _, _, _, _, _,
    pathSetting root.environment i.distribution.binDir, (List.append_assoc _ _ _).symm, ?_,
    Shell.split_of_carries (carries_unpackCommand _ _)⟩
  intro op hop
  unfold pathSetting at hop
  dsimp only at hop
  split at hop
  · cases hop
  · cases List.mem_singleton.mp hop
    exact ⟨rfl, rfl⟩

/-- Of an accepted distribution the archive is copied to, extracted from and removed at one path. It
is a direct child of `/tmp` exactly if the archive is not called `.` or `..`: these lead to `/tmp`
itself and to the root, and no tree of files leads the path anywhere else. -/
theorem staysInTmp_iff (hd : i.distribution.validate = .ok i.distribution)
    (hi : Gives (i.install retrieve root) w g w') :
    (StaysInTmp root g ↔ i.distribution.archiveName ≠ "." ∧ i.distribution.archiveName ≠ "..") ∧
      UnpacksThrough root g i.distribution.stagingPath ∧
      Path.resolve i.distribution.stagingPath =
        (if i.distribution.archiveName = "." then ["tmp"]
        else if i.distribution.archiveName = ".." then []
        else ["tmp", i.distribution.archiveName]) ∧
      ∀ (tree : FileTree) (place : List String),
        tree.locate i.distribution.stagingPath = .ok place →
          place = Path.resolve i.distribution.stagingPath := by
  have hthrough := unpacksThrough_of_gives hi
  have hresolve := Distribution.resolve_stagingPath_of_validate hd
  refine ⟨?_, hthrough, hresolve, ?_⟩
  · rw [hthrough.staysInTmp_iff_resolve, hresolve]
    by_cases hdot : i.distribution.archiveName = "."
    · simp [hdot]
    · by_cases hup : i.distribution.archiveName = ".."
      · simp [hup]
      · simp [hdot, hup]
  · intro tree place hlocate
    refine FileTree.eq_resolve_of_locate ?_ hlocate
    rw [Distribution.stagingPath, Path.isAbsolute_append (by decide)]
    decide

/-- The archive of the default distribution goes through `/tmp/julia.tar.gz`. -/
theorem staysInTmp_iff_julia :
    ∃ (g : Graph) (w' : Workspace),
      Gives (Installer.install {} Retrieval.retrieve scratch) {} g w' ∧
      StaysInTmp scratch g ∧ UnpacksThrough scratch g "/tmp/julia.tar.gz" ∧
      Path.resolve "/tmp/julia.tar.gz" = ["tmp", "julia.tar.gz"] := by
  have hd : Distribution.julia.validate = .ok .julia := rfl
  obtain ⟨g, w', hi⟩ := Installer.sure_install (i := {}) (Distribution.usable_of_validate hd) rfl
    Retrieval.retrieve scratch {}
  obtain ⟨hstays, hthrough, hresolve, -⟩ := staysInTmp_iff (i := {}) hd hi
  exact ⟨g, w', hi, hstays.mpr ⟨by decide, by decide⟩, hthrough, hresolve⟩

/-- An archive called `..` is accepted, and is copied to, extracted from and removed at the root. -/
theorem not_staysInTmp_up :
    ∃ (i : Installer) (g : Graph) (w' : Workspace), i.distribution.archiveName = ".." ∧
      i.distribution.validate = .ok i.distribution ∧
      Gives (i.install Retrieval.retrieve scratch) {} g w' ∧
      UnpacksThrough scratch g "/tmp/.." ∧ Path.resolve "/tmp/.." = [] ∧
      ¬StaysInTmp scratch g := by
  have hd : ({ Distribution.julia with archiveName := ".." } : Distribution).validate =
      .ok { Distribution.julia with archiveName := ".." } := by decide
  obtain ⟨g, w', hi⟩ := Installer.sure_install (i := { distribution := _ })
    (Distribution.usable_of_validate hd) rfl Retrieval.retrieve scratch {}
  have hthrough : UnpacksThrough scratch g "/tmp/.." := unpacksThrough_of_gives hi
  have hresolve : Path.resolve "/tmp/.." = [] := by decide
  refine ⟨{ distribution := { Distribution.julia with archiveName := ".." } }, g, w', rfl, hd, hi,
    hthrough, hresolve, ?_⟩
  rw [hthrough.staysInTmp_iff_resolve, hresolve]
  rintro ⟨name, hchild⟩
  cases hchild

end Archive

end RuntimeImage
