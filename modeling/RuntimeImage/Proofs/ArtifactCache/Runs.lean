import RuntimeImage.Proofs.ArtifactCache.Addressing
import RuntimeImage.Proofs.Provision.Files

/-!
The file trees that can be reached from a tree by fetches and provisionings, in any order and number,
each of them succeeding or failing. Whatever is retrieved on the way, no file gets to bear a digest
that is not its own.
-/

namespace RuntimeImage

/-- The trees along a run from `start`. Each call has a retriever, a cache directory and a policy of
its own, and leaves its tree to the next call however it ends. -/
inductive FileTree.Reached (start : FileTree) : FileTree → Prop
  | start : Reached start start
  | fetch {tree : FileTree} (retrieve : Retriever) (url sha256 : String) (cacheDir : Path)
      (policy : Option Policy) (hr : Reached start tree) :
      Reached start (ArtifactCache.fetch retrieve url sha256 cacheDir policy tree).2
  | provision {w : Workspace} (s : Session) (retrieve : Retriever) (root : Graph)
      (groups : Option Json.Value) (hr : Reached start w.files) :
      Reached start ((s.provision retrieve root groups).run.run w).2.files

namespace ArtifactCache

variable {start tree : FileTree}

/-- What a session does to a tree is what its fetch does, if anything. -/
theorem wellAddressed_filesStaged (i : Archive.Installer) (retrieve : Retriever)
    (h : tree.WellAddressed) : (i.filesStaged retrieve tree).WellAddressed := by
  unfold Archive.Installer.filesStaged
  split
  · exact wellAddressed_fetch h
  · exact h

theorem wellAddressed_of_reached (h : start.WellAddressed) (hr : start.Reached tree) :
    tree.WellAddressed := by
  induction hr with
  | start => exact h
  | fetch _ _ _ _ _ _ ih => exact wellAddressed_fetch ih
  | @provision w s retrieve root groups _ ih =>
    rcases s.turns_provision retrieve root groups w with hsame | hfetched
    · rw [hsame]
      exact ih
    · rw [hfetched]
      exact wellAddressed_filesStaged _ _ ih

/-- Along every run from a well-addressed tree, each tree is well addressed; and when a fetch answers
a path and a regular file is there, the path is right below the cache directory and its name is the
file's digest. The trees have no links, and no write on them fails half-way. -/
theorem addressed_along_runs (h : start.WellAddressed) (hr : start.Reached tree) :
    tree.WellAddressed ∧
      ∀ (retrieve : Retriever) (url sha256 : String) (cacheDir artifact : Path)
        (policy : Option Policy) (tree' : FileTree) (content : Bytes),
        fetch retrieve url sha256 cacheDir policy tree = (.ok artifact, tree') →
        tree'.read artifact.render = .ok content →
        artifact.parent = cacheDir ∧ artifact.name = Digest.hex content := by
  have htree := wellAddressed_of_reached h hr
  refine ⟨htree, ?_⟩
  intro retrieve url sha256 cacheDir artifact policy tree' content hf hread
  exact named_of_fetch htree hf hread

def digestOfAbc : String := "ba7816bf8f01cfea414140de5dae2223b00361a396177a9cb410ff61f20015ad"

/-- The tree with the three bytes `abc` in a cache directory, under their digest. -/
def treeOfAbc : FileTree :=
  ⟨["", ""], [(["", "", "cache"], .directory),
    (["", "", "cache", digestOfAbc], .file [97, 98, 99])]⟩

set_option maxRecDepth 4000 in
/-- From an empty tree, `abc` is fetched without a check; a session then fails at the same URL, since
its digest is another; and a fetch with a check finds the artifact. -/
theorem addressed_along_runs_sample :
    FileTree.empty.WellAddressed ∧ FileTree.empty.Reached treeOfAbc ∧
      ∃ artifact, fetch (fun _ _ => .ok [97, 98, 99]) "https://example.com/abc" digestOfAbc
          ⟨0, ["cache"]⟩ none treeOfAbc = (.ok artifact, treeOfAbc) ∧
        artifact.parent = ⟨0, ["cache"]⟩ ∧ artifact.name = Digest.hex [97, 98, 99] := by
  have hempty : FileTree.empty.WellAddressed := by
    intro dir name content hc
    rw [FileTree.file?_eq_some_iff, FileTree.node?] at hc
    split at hc <;> cases hc
  let retrieve : Retriever := fun _ _ => .ok [97, 98, 99]
  have hunverified : FileTree.empty.Reached treeOfAbc :=
    FileTree.Reached.start.fetch retrieve "https://example.com/abc" "" ⟨0, ["cache"]⟩
      (some { requireIntegrity := false })
  have hfailed : FileTree.empty.Reached treeOfAbc :=
    FileTree.Reached.provision (w := { files := treeOfAbc }) { cacheDir := some ⟨0, ["cache"]⟩ }
      retrieve Graph.scratch none hunverified
  have hf : fetch retrieve "https://example.com/abc" digestOfAbc ⟨0, ["cache"]⟩ none treeOfAbc =
      (.ok ⟨0, ["cache", digestOfAbc]⟩, treeOfAbc) := rfl
  have hr : treeOfAbc.read (Path.render ⟨0, ["cache", digestOfAbc]⟩) = .ok [97, 98, 99] := rfl
  have hnamed := (addressed_along_runs hempty hfailed).2 _ _ _ _ _ _ _ _ hf hr
  exact ⟨hempty, hfailed, _, hf, hnamed⟩

end ArtifactCache

end RuntimeImage
