import RuntimeImage.Proofs.ArtifactCache.Outcomes
import RuntimeImage.Proofs.ArtifactCache.Runs

/-!
A verified artifact stays. Nothing that a fetch does takes a directory away or touches a file that is
named by a digest, so whatever is fetched and provisioned in between, the next verified fetch finds
the artifact where it was, asks nobody for it, and changes nothing.
-/

namespace RuntimeImage

namespace ArtifactCache

variable {retrieve : Retriever} {url sha256 : String} {cacheDir artifact : Path}
  {policy : Option Policy} {tree u v after : FileTree} {content : Bytes}

/-- Directories and files named by digests are in the second tree as they are in the first. -/
structure KeepsArtifacts (t u : FileTree) : Prop where
  directories : t.KeepsDirectories u
  files : ∀ above name content, Distribution.isDigest name → t.InDirectories (above ++ [name]) →
    t.file? (above ++ [name]) = some content → u.file? (above ++ [name]) = some content

theorem KeepsArtifacts.refl (t : FileTree) : KeepsArtifacts t t :=
  ⟨.refl t, fun _ _ _ _ _ hf => hf⟩

theorem KeepsArtifacts.trans {t : FileTree} (h : KeepsArtifacts t u) (h' : KeepsArtifacts u v) :
    KeepsArtifacts t v := by
  refine ⟨h.directories.trans h'.directories, ?_⟩
  intro above name content hname hin hf
  have hu := h.files above name content hname hin hf
  exact h'.files above name content hname (h.directories.inDirectories hin) hu

theorem KeepsArtifacts.of_madeFor {t : FileTree} (h : FileTree.MadeFor cacheDir t u) :
    KeepsArtifacts t u := by
  refine ⟨h.keepsDirectories, ?_⟩
  intro above name content _ _ hf
  rw [h.file?_eq, hf]

theorem KeepsArtifacts.of_stored {t : FileTree} {dir : List String} (h : Stored dir content t u) :
    KeepsArtifacts t u := by
  refine ⟨h.directories, ?_⟩
  intro above name other hname hin hf
  rw [FileTree.file?_eq_some_iff] at hf ⊢
  exact h.kept _ _ hin (artifact_ne_draft hname _ dir content) hf

theorem keepsArtifacts_fetch (retrieve : Retriever) (url sha256 : String) (cacheDir : Path)
    (policy : Option Policy) (tree : FileTree) :
    KeepsArtifacts tree (fetch retrieve url sha256 cacheDir policy tree).2 := by
  have hends := outcome_fetch retrieve url sha256 cacheDir policy tree
  generalize fetch retrieve url sha256 cacheDir policy tree = result at hends
  cases hends with
  | refused _ hm => exact .of_madeFor hm
  | found hm _ _ _ => exact .of_madeFor hm
  | stored hm _ _ _ _ hs => exact (KeepsArtifacts.of_madeFor hm).trans (.of_stored hs)

/-- Along every run of fetches and provisionings. -/
theorem keepsArtifacts_of_reached {start : FileTree} (hr : start.Reached tree) :
    KeepsArtifacts start tree := by
  induction hr with
  | start => exact .refl start
  | fetch retrieve url sha256 cacheDir policy _ ih =>
    exact ih.trans (keepsArtifacts_fetch retrieve url sha256 cacheDir policy _)
  | @provision w s retrieve root groups _ ih =>
    rcases s.turns_provision retrieve root groups w with hsame | hfetched
    · rw [hsame]
      exact ih
    · rw [hfetched]
      unfold Archive.Installer.filesStaged
      split
      · exact ih.trans (keepsArtifacts_fetch ..)
      · exact ih

/-- A path to a file that is named by a digest leads to it still. -/
theorem KeepsArtifacts.read {t : FileTree} (h : KeepsArtifacts t u)
    (hs : Distribution.isDigest sha256)
    (hr : t.read (cacheDir.join sha256).render = .ok content) :
    u.read (cacheDir.join sha256).render = .ok content := by
  obtain ⟨place, hl, hf⟩ := FileTree.read_eq_ok_iff_file?.mp hr
  obtain ⟨above, rfl⟩ := FileTree.locate_join (Distribution.isEntry_of_isDigest hs) hl
  have hin := FileTree.inDirectories_of_locate hl
  exact FileTree.read_eq_ok_iff_file?.mpr
    ⟨_, h.directories.locate hl, h.files above sha256 content hs hin hf⟩

/-- The cache directory of a fetch that succeeds is there. -/
theorem isDirectory_of_fetch
    (hf : fetch retrieve url sha256 cacheDir policy tree = (.ok artifact, after)) :
    after.isDirectory cacheDir.render = true := by
  have hends := outcome_fetch retrieve url sha256 cacheDir policy tree
  rw [hf] at hends
  cases hends with
  | @found _ dir _ content hm hdir ha he =>
    obtain ⟨place, -, hl, -⟩ := FileTree.exists_of_pathExists he
    rw [ha] at hl
    obtain ⟨hd, -, -⟩ := (FileTree.locate_join_iff (isEntry_hex content) hdir).mp hl
    exact FileTree.isDirectory_iff.mpr ⟨dir, hdir, hd⟩
  | @stored made _ dir _ content hm hdir hr ha hl hs =>
    rw [ha] at hl
    obtain ⟨hd, -, -⟩ := (FileTree.locate_join_iff (isEntry_hex content) hdir).mp hl
    have hin := FileTree.inDirectories_of_locate hdir
    exact FileTree.isDirectory_iff.mpr
      ⟨dir, hs.directories.locate hdir, hs.directories.kept dir hin hd⟩

theorem isDirectory_of_keepsDirectories {t : FileTree} {path : String}
    (h : t.KeepsDirectories u) (hd : t.isDirectory path = true) : u.isDirectory path = true := by
  obtain ⟨dir, hl, hn⟩ := FileTree.isDirectory_iff.mp hd
  have hin := FileTree.inDirectories_of_locate hl
  exact FileTree.isDirectory_iff.mpr ⟨dir, h.locate hl, h.kept dir hin hn⟩

/-- A fetch is a verified one unless its policy says otherwise, and then it is either offline or not
verified. -/
theorem fetch_eq_fetchVerified
    (h : ∀ p ∈ policy, p.requireIntegrity = true ∧ p.networkMode ≠ "offline") :
    fetch retrieve url sha256 cacheDir policy tree =
      fetchVerified retrieve url sha256 cacheDir tree := by
  cases policy with
  | none => rfl
  | some p =>
    obtain ⟨hi, hn⟩ := h p rfl
    simp only [fetch, Policy.checkNetwork, if_neg hn, if_pos hi]

theorem fetchVerified_of_fetch (hi : ∀ p ∈ policy, p.requireIntegrity = true)
    (hf : fetch retrieve url sha256 cacheDir policy tree = (.ok artifact, after)) :
    fetchVerified retrieve url sha256 cacheDir tree = (.ok artifact, after) := by
  have honline : ∀ p ∈ policy, p.networkMode ≠ "offline" := by
    rintro p hp hoffline
    cases Option.mem_def.mp hp
    simp [fetch, Policy.checkNetwork, hoffline] at hf
  rwa [fetch_eq_fetchVerified fun p hp => ⟨hi p hp, honline p hp⟩] at hf

/-- A verified fetch that finds the artifact neither retrieves nor changes anything. -/
theorem fetchVerified_of_read (hd : tree.isDirectory cacheDir.render = true)
    (hr : tree.read (cacheDir.join (Digest.hex content)).render = .ok content) :
    fetchVerified retrieve url (Digest.hex content) cacheDir tree =
      (.ok (cacheDir.join (Digest.hex content)), tree) := by
  obtain ⟨place, hl, hn⟩ := FileTree.read_eq_ok_iff.mp hr
  have hexists : tree.pathExists (cacheDir.join (Digest.hex content)).render = .ok true := by
    rw [FileTree.pathExists_of_locate hl, hn]
    rfl
  have hcheck : checkCached tree (cacheDir.join (Digest.hex content)) (Digest.hex content) =
      .ok (cacheDir.join (Digest.hex content)) := by
    simp only [checkCached, digestOf_eq_ok_iff.mpr ⟨content, hr, rfl⟩, if_true]
  simp only [fetchVerified, if_neg (isEntry_hex content).ne_empty,
    FileTree.ensureDirectories_of_isDirectory hd, hexists, hcheck]

/-- After a verified fetch the artifact is there with its digest, and along every run from then on
each verified fetch of it, whatever its URL and whatever can be retrieved, answers the same path with
the same content and leaves the tree as it is. -/
theorem verified_artifact_stays (hi : ∀ p ∈ policy, p.requireIntegrity = true)
    (hf : fetch retrieve url sha256 cacheDir policy tree = (.ok artifact, after)) :
    ∃ content, after.read artifact.render = .ok content ∧ Digest.hex content = sha256 ∧
      ∀ later, after.Reached later →
        ∀ (retrieve' : Retriever) (url' : String) (policy' : Option Policy),
          (∀ p ∈ policy', p.requireIntegrity = true ∧ p.networkMode ≠ "offline") →
          fetch retrieve' url' sha256 cacheDir policy' later = (.ok artifact, later) ∧
            later.read artifact.render = .ok content := by
  obtain ⟨rfl, content, hr, rfl⟩ := holds_of_fetchVerified (fetchVerified_of_fetch hi hf)
  refine ⟨content, hr, rfl, ?_⟩
  intro later hreached retrieve' url' policy' hpolicy
  have hkeeps := keepsArtifacts_of_reached hreached
  have hd := isDirectory_of_keepsDirectories hkeeps.directories (isDirectory_of_fetch hf)
  have hread := hkeeps.read (Digest.isDigest_hex content) hr
  rw [fetch_eq_fetchVerified hpolicy]
  exact ⟨fetchVerified_of_read hd hread, hread⟩

set_option maxRecDepth 4000 in
/-- `abc` is fetched with a check, another content without one into the same directory, and `abc`
again when no host can be reached any more. -/
theorem verified_artifact_stays_of_abc :
    ∃ artifact later,
      fetch (fun _ _ => .ok [97, 98, 99]) "https://example.com/abc" digestOfAbc ⟨0, ["cache"]⟩ none
          .empty = (.ok artifact, treeOfAbc) ∧
        treeOfAbc.Reached later ∧ later ≠ treeOfAbc ∧
        fetch (fun _ _ => Retrieval.refuse .unreachable) "https://example.com/gone" digestOfAbc
          ⟨0, ["cache"]⟩ (some {}) later = (.ok artifact, later) := by
  have hf : fetch (fun _ _ => .ok [97, 98, 99]) "https://example.com/abc" digestOfAbc
      ⟨0, ["cache"]⟩ none .empty = (.ok ⟨0, ["cache", digestOfAbc]⟩, treeOfAbc) := rfl
  have hlater : treeOfAbc.Reached _ :=
    FileTree.Reached.start.fetch (fun _ _ => .ok [100]) "https://example.com/d" ""
      ⟨0, ["cache"]⟩ (some { requireIntegrity := false })
  have hpolicy : ∀ p ∈ some ({} : Policy), p.requireIntegrity = true ∧ p.networkMode ≠ "offline" := by
    rintro p hp
    cases Option.mem_def.mp hp
    exact ⟨rfl, by decide⟩
  have hnone : ∀ p ∈ (none : Option Policy), p.requireIntegrity = true := by simp
  obtain ⟨content, -, -, hagain⟩ := verified_artifact_stays hnone hf
  refine ⟨_, _, hf, hlater, ?_, (hagain _ hlater _ _ _ hpolicy).1⟩
  intro he
  have hsize := congrArg (fun t : FileTree => t.entries.length) he
  exact absurd hsize (by decide)

end ArtifactCache

end RuntimeImage
