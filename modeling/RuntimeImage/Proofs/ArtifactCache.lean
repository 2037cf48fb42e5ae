import RuntimeImage.ArtifactCache
import RuntimeImage.Proofs.Digest
import RuntimeImage.Proofs.Digest.Hasher
import RuntimeImage.Proofs.FileTree

/-!
A verified fetch that succeeds leaves, under the name of the digest, a file with that digest: one
that was there and passed the check, or what was retrieved, once it is moved into place. Nothing is
assumed of the files that are there before.
-/

namespace RuntimeImage

namespace ArtifactCache

variable {retrieve : Retriever} {url sha256 : String} {cacheDir artifact : Path}
  {tree tree' : FileTree}

/-- The file at the path has the digest. -/
def Holds (tree : FileTree) (path : Path) (sha256 : String) : Prop :=
  ∃ content, tree.read path.render = .ok content ∧ Digest.hex content = sha256

/-- Though it is read in chunks, a file has the digest of its content. -/
theorem digestOf_eq_ok_iff {path digest : String} :
    digestOf tree path = .ok digest ↔
      ∃ content, tree.read path = .ok content ∧ Digest.hex content = digest := by
  unfold digestOf
  split
  · next content hr =>
    rw [Digest.hex_foldl_update, Bytes.flatten_chunks (by decide)]
    simp [hr]
  · next fault hr => simp [hr]

theorem holds_of_checkCached {path : Path}
    (hc : checkCached tree path sha256 = .ok artifact) :
    artifact = path ∧ Holds tree path sha256 := by
  unfold checkCached at hc
  split at hc
  · cases hc
  · next actual hd =>
    split at hc
    · next hactual =>
      cases hc
      obtain ⟨content, hr, hdigest⟩ := digestOf_eq_ok_iff.mp hd
      exact ⟨rfl, content, hr, hdigest.trans hactual⟩
    · cases hc

theorem read_of_store {path : Path} {content : Bytes}
    (hs : store tree path content = (.ok artifact, tree')) :
    artifact = path ∧ tree'.read path.render = .ok content := by
  unfold store at hs
  dsimp only at hs
  split at hs
  · cases hs
  · next draft hw =>
    split at hs
    · cases hs
    · next moved hm =>
      cases hs
      exact ⟨rfl, FileTree.read_of_replace (FileTree.read_of_write hw) hm⟩

theorem holds_of_fetchVerified
    (hf : fetchVerified retrieve url sha256 cacheDir tree = (.ok artifact, tree')) :
    artifact = cacheDir.join sha256 ∧ Holds tree' (cacheDir.join sha256) sha256 := by
  unfold fetchVerified at hf
  by_cases hempty : sha256 = ""
  · simp [hempty] at hf
  · rw [if_neg hempty] at hf
    rcases hmade : tree.ensureDirectories cacheDir with ⟨fault | _, made⟩
    · simp [hmade] at hf
    · simp only [hmade] at hf
      split at hf
      · simp at hf
      · obtain ⟨hc, rfl⟩ := Prod.mk.inj hf
        exact holds_of_checkCached hc
      · split at hf
        · simp at hf
        · next content _ =>
          split at hf
          · next hactual =>
            obtain ⟨ha, hr⟩ := read_of_store hf
            exact ⟨ha, content, hr, hactual⟩
          · simp at hf

/-- Under a policy that asks for integrity every fetch is a verified one. -/
theorem holds_of_fetch {policy : Policy} (hi : policy.requireIntegrity)
    (hf : fetch retrieve url sha256 cacheDir (some policy) tree = (.ok artifact, tree')) :
    artifact = cacheDir.join sha256 ∧ Holds tree' (cacheDir.join sha256) sha256 := by
  unfold fetch at hf
  split at hf
  · next heq => cases heq
  · next heq =>
    cases heq
    split at hf
    · cases hf
    · rw [if_pos hi] at hf
      exact holds_of_fetchVerified hf

end ArtifactCache

end RuntimeImage
