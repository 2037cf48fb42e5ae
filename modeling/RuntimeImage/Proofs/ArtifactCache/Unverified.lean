import RuntimeImage.Proofs.ArtifactCache.Runs

/-!
What an unverified fetch answers. It names the artifact after the bytes that were retrieved, but
whatever it finds under that name it takes as it is: another content, or a directory. Only when
nothing is there, or the very same content, does the answer hold what was retrieved.
-/

namespace RuntimeImage

namespace ArtifactCache

variable {retrieve : Retriever} {url sha256 : String} {cacheDir artifact : Path} {policy : Policy}
  {tree made after : FileTree} {content : Bytes}

/-- A file that is read under its own digest is named by the digest that it has. -/
theorem digestOf_join (hr : tree.read (cacheDir.join (Digest.hex content)).render = .ok content) :
    digestOf tree (cacheDir.join (Digest.hex content)).render =
      .ok (cacheDir.join (Digest.hex content)).name := by
  rw [(isEntry_hex content).name_join]
  exact digestOf_eq_ok_iff.mpr ⟨content, hr, rfl⟩

/-- An unverified fetch that succeeds has retrieved a content. It finds something under the digest
and leaves it as it is, or finds nothing and writes the content there. -/
theorem fetchUnverified_cases
    (hf : fetchUnverified retrieve url cacheDir tree = (.ok artifact, after)) :
    ∃ made content, tree.ensureDirectories cacheDir = (.ok (), made) ∧
      retrieve made url = .ok content ∧ artifact = cacheDir.join (Digest.hex content) ∧
      (made.pathExists artifact.render = .ok true ∧ after = made ∨
        made.pathExists artifact.render = .ok false ∧ after.read artifact.render = .ok content) := by
  unfold fetchUnverified at hf
  split at hf
  · cases hf
  · next made hmade =>
    dsimp only at hf
    split at hf
    · cases hf
    · next content hd =>
      have hr := retrieve_of_download hd
      split at hf
      · cases hf
      · next hexists =>
        obtain ⟨ha, hafter⟩ := Prod.mk.inj hf
        have ha := (Except.ok.inj ha).symm
        exact ⟨made, content, hmade, hr, ha, Or.inl ⟨ha ▸ hexists, hafter.symm⟩⟩
      · next hexists =>
        split at hf
        · cases hf
        · next written hw =>
          obtain ⟨ha, hafter⟩ := Prod.mk.inj hf
          have ha := (Except.ok.inj ha).symm
          have hread := FileTree.read_of_write hw
          exact ⟨made, content, hmade, hr, ha, Or.inr ⟨ha ▸ hexists, hafter ▸ ha ▸ hread⟩⟩

theorem fetchUnverified_of_fetch (hi : policy.requireIntegrity = false)
    (hf : fetch retrieve url sha256 cacheDir (some policy) tree = (.ok artifact, after)) :
    fetchUnverified retrieve url cacheDir tree = (.ok artifact, after) := by
  simp only [fetch] at hf
  split at hf
  · cases hf
  · simpa [hi] using hf

/-- An unverified fetch that succeeds answers the path that is named by the digest of what it has
retrieved. That is what can be read there exactly if nothing else stood there once the cache
directory was made; what stood there is answered as it was. -/
theorem read_of_unverified_iff (hi : policy.requireIntegrity = false)
    (hf : fetch retrieve url sha256 cacheDir (some policy) tree = (.ok artifact, after)) :
    ∃ made content, tree.ensureDirectories cacheDir = (.ok (), made) ∧
      retrieve made url = .ok content ∧ artifact = cacheDir.join (Digest.hex content) ∧
      (after.read artifact.render = .ok content ↔
        ∀ node, made.stat artifact.render = .ok node → node = .file content) ∧
      (after.read artifact.render = .ok content →
        digestOf after artifact.render = .ok artifact.name) ∧
      ∀ node, made.stat artifact.render = .ok node → after = made := by
  obtain ⟨made, content, hmade, hr, ha, hcases⟩ :=
    fetchUnverified_cases (fetchUnverified_of_fetch hi hf)
  refine ⟨made, content, hmade, hr, ha, ?_, ?_, ?_⟩
  · rcases hcases with ⟨hexists, rfl⟩ | ⟨hexists, hread⟩
    · obtain ⟨node, hs⟩ := FileTree.pathExists_eq_true_iff.mp hexists
      have hread : after.read artifact.render = .ok content ↔ node = .file content := by
        rw [FileTree.read, hs]
        cases node <;> simp
      rw [hread]
      constructor
      · intro he other ho
        cases hs.symm.trans ho
        exact he
      · intro hall
        exact hall node hs
    · refine iff_of_true hread ?_
      intro node hs
      cases hexists.symm.trans (FileTree.pathExists_eq_true_iff.mpr ⟨node, hs⟩)
  · intro hread
    rw [ha] at hread ⊢
    exact digestOf_join hread
  · intro node hs
    rcases hcases with ⟨-, hafter⟩ | ⟨hexists, -⟩
    · exact hafter
    · cases hexists.symm.trans (FileTree.pathExists_eq_true_iff.mpr ⟨node, hs⟩)

/-- A cache in which another content has the digest of `abc` for its name. -/
def treeTampered : FileTree :=
  ⟨["", ""], [(["", "", "cache"], .directory), (["", "", "cache", digestOfAbc], .file [0])]⟩

set_option maxRecDepth 4000 in
/-- The entry that is found is answered with what it holds. -/
theorem fetch_tampered :
    fetch (fun _ _ => .ok [97, 98, 99]) "https://example.com/abc" "" ⟨0, ["cache"]⟩
        (some { requireIntegrity := false }) treeTampered =
      (.ok ⟨0, ["cache", digestOfAbc]⟩, treeTampered) ∧
      treeTampered.read (Path.render ⟨0, ["cache", digestOfAbc]⟩) = .ok [0] := ⟨rfl, rfl⟩

set_option maxRecDepth 4000 in
/-- In an empty tree the answer holds what was retrieved, in a tampered one it does not. -/
theorem read_of_unverified_iff_tampered :
    ∃ artifact after,
      fetch (fun _ _ => .ok [97, 98, 99]) "https://example.com/abc" "" ⟨0, ["cache"]⟩
          (some { requireIntegrity := false }) .empty = (.ok artifact, after) ∧
        after.read artifact.render = .ok [97, 98, 99] ∧
        fetch (fun _ _ => .ok [97, 98, 99]) "https://example.com/abc" "" ⟨0, ["cache"]⟩
          (some { requireIntegrity := false }) treeTampered = (.ok artifact, treeTampered) ∧
        treeTampered.read artifact.render ≠ .ok [97, 98, 99] := by
  have hempty : fetch (fun _ _ => .ok [97, 98, 99]) "https://example.com/abc" "" ⟨0, ["cache"]⟩
      (some { requireIntegrity := false }) .empty =
        (.ok ⟨0, ["cache", digestOfAbc]⟩, treeOfAbc) := rfl
  refine ⟨_, _, hempty, ?_, fetch_tampered.1, ?_⟩
  · obtain ⟨made, content, hmade, hr, -, hread, -, -⟩ := read_of_unverified_iff rfl hempty
    cases hmade
    cases hr
    apply hread.mpr
    intro node hs
    cases hs
  · intro habc
    cases fetch_tampered.2.symm.trans habc

/-- A fetch without a check may answer a file with another content than the one retrieved. -/
theorem not_read_of_unverified :
    ¬∀ (retrieve : Retriever) (url sha256 : String) (cacheDir artifact : Path) (policy : Policy)
        (tree after : FileTree) (content : Bytes), policy.requireIntegrity = false →
        (∀ t, retrieve t url = .ok content) →
        fetch retrieve url sha256 cacheDir (some policy) tree = (.ok artifact, after) →
        after.read artifact.render = .ok content := by
  intro hclaim
  have hread := hclaim _ _ _ _ _ _ _ _ [97, 98, 99] rfl (fun _ => rfl) fetch_tampered.1
  cases fetch_tampered.2.symm.trans hread

end ArtifactCache

end RuntimeImage
