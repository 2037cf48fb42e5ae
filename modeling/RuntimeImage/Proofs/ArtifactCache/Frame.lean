import RuntimeImage.Proofs.ArtifactCache.Runs

/-!
What a fetch leaves alone. One that fails touches no file; one that succeeds adds at most the
artifact, where nothing was, and takes at most the artifact's draft away.
-/

namespace RuntimeImage

namespace ArtifactCache

open FileTree (MadeFor)

/-- A fetch that fails leaves every file as it was and may only have made directories on the way to
the cache, and offline not even those. A fetch that succeeds keeps every file but the draft beside
the artifact; files stand in directories, as all files on a disk do. If a file is new, it is the
artifact, at a place where no file was, and holds what was retrieved. All this is on a tree without
links, on which no write fails half-way. -/
theorem fetch_harms_nothing (retrieve : Retriever) (url sha256 : String) (cacheDir : Path)
    (policy : Option Policy) (tree : FileTree) :
    (∀ p ∈ policy, p.networkMode = "offline" →
      fetch retrieve url sha256 cacheDir policy tree = (.error (.offline "fetch"), tree)) ∧
    (∀ fault after, fetch retrieve url sha256 cacheDir policy tree = (.error fault, after) →
      (∀ place, after.file? place = tree.file? place) ∧ MadeFor cacheDir tree after) ∧
    ∀ artifact after, fetch retrieve url sha256 cacheDir policy tree = (.ok artifact, after) →
      ∃ dir digest, artifact = cacheDir.join digest ∧
        after.locate cacheDir.render = .ok dir ∧ after.locate artifact.render = .ok (dir ++ [digest]) ∧
        (∀ place content, tree.InDirectories place → tree.file? place = some content →
          place ≠ dir ++ [digest ++ ".tmp"] → after.file? place = some content) ∧
        ∀ place content, after.file? place = some content → tree.file? place ≠ some content →
          place = dir ++ [digest] ∧ tree.file? place = none ∧ digest = Digest.hex content ∧
            ∃ made, MadeFor cacheDir tree made ∧ retrieve made url = .ok content := by
  have hends := outcome_fetch retrieve url sha256 cacheDir policy tree
  refine ⟨?_, ?_, ?_⟩
  · intro p hp hoffline
    cases Option.mem_def.mp hp
    simp only [fetch, Policy.checkNetwork, hoffline, if_true]
  · intro fault after hf
    rw [hf] at hends
    cases hends with
    | refused _ hm => exact ⟨hm.file?_eq, hm⟩
  · intro artifact after hf
    rw [hf] at hends
    cases hends with
    | @found _ dir _ content hm hdir ha he =>
      obtain ⟨place, -, hl, -⟩ := FileTree.exists_of_pathExists he
      have hplace : place = dir ++ [Digest.hex content] := by
        rw [ha] at hl
        exact ((FileTree.locate_join_iff (isEntry_hex content) hdir).mp hl).2.2
      rw [hplace] at hl
      refine ⟨dir, Digest.hex content, ha, hdir, hl, ?_, ?_⟩
      · intro place other _ hfile _
        rw [hm.file?_eq, hfile]
      · intro place other hfile hnew
        rw [hm.file?_eq] at hfile
        exact absurd hfile hnew
    | @stored made _ dir _ content hm hdir hr ha hl hs =>
      refine ⟨dir, Digest.hex content, ha, hs.directories.locate hdir, hs.directories.locate hl,
        ?_, ?_⟩
      · intro place other hin hfile hne
        rw [← hm.file?_eq, FileTree.file?_eq_some_iff] at hfile
        rw [FileTree.file?_eq_some_iff]
        exact hs.kept place _ (hm.keepsDirectories.inDirectories hin) hne hfile
      · intro place other hfile hnew
        by_cases hplace : place = dir ++ [Digest.hex content]
        · subst hplace
          cases hs.artifact.symm.trans hfile
          refine ⟨rfl, ?_, rfl, made, hm, hr⟩
          rw [← hm.file?_eq, FileTree.file?, hs.vacant]
        · rw [← hm.file?_eq] at hnew
          exact absurd (hs.added place other hfile hplace) hnew

/-- A cache directory with a draft left behind in it, and a file beside it. -/
def treeOfDraft : FileTree :=
  ⟨["", ""], [(["", "", "cache"], .directory),
    (["", "", "cache", digestOfAbc ++ ".tmp"], .file [0]), (["", "", "notes"], .file [1])]⟩

/-- The same with the artifact in place of the draft. -/
def treeWithoutDraft : FileTree :=
  ⟨["", ""], [(["", "", "cache"], .directory), (["", "", "notes"], .file [1]),
    (["", "", "cache", digestOfAbc], .file [97, 98, 99])]⟩

set_option maxRecDepth 4000 in
/-- The content that is asked for takes the place of the draft, and the file beside it stays. -/
theorem fetch_harms_nothing_with_draft :
    fetch (fun _ _ => .ok [97, 98, 99]) "https://example.com/abc" digestOfAbc ⟨0, ["cache"]⟩ none
        treeOfDraft = (.ok ⟨0, ["cache", digestOfAbc]⟩, treeWithoutDraft) ∧
      treeWithoutDraft.file? ["", "", "notes"] = some [1] ∧
      treeWithoutDraft.file? ["", "", "cache", digestOfAbc ++ ".tmp"] = none := by
  have hf : fetch (fun _ _ => .ok [97, 98, 99]) "https://example.com/abc" digestOfAbc
      ⟨0, ["cache"]⟩ none treeOfDraft =
        (.ok ⟨0, ["cache", digestOfAbc]⟩, treeWithoutDraft) := rfl
  have hframe := fetch_harms_nothing (fun _ _ => .ok [97, 98, 99]) "https://example.com/abc"
    digestOfAbc ⟨0, ["cache"]⟩ none treeOfDraft
  obtain ⟨dir, digest, -, hdir, -, hkept, -⟩ := hframe.2.2 _ _ hf
  have hcache : treeWithoutDraft.locate "cache" = .ok ["", "", "cache"] := rfl
  have hhome : treeOfDraft.InDirectories ["", ""] :=
    FileTree.inDirectories_of_prefix_home (List.prefix_refl _)
  refine ⟨hf, hkept ["", "", "notes"] [1] (hhome.child rfl "notes") rfl ?_, rfl⟩
  rw [Except.ok.inj (hdir.symm.trans hcache)]
  simp

end ArtifactCache

end RuntimeImage
