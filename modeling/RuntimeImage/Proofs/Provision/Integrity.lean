import RuntimeImage.Proofs.ArtifactCache
import RuntimeImage.Proofs.Distribution
import RuntimeImage.Proofs.Provision.Stages

/-!
Where the archive of a provisioned graph comes from. Under a policy that asks for integrity there
are two ways, and each is covered by a check: the archive is a file of the cache directory whose
digest was right when the session ended, or a second graph downloads it and then checks the very
file that is copied.
-/

namespace RuntimeImage

open Provisioning RuntimeImage.Graph

/-- The archive `src` of the graph `staging` is covered by a check: with a cache directory, the
directory as it is holds a file of that name with the distribution's digest; without one, the
builder image downloads the archive and fails when the digest is another. -/
def Archive.Checked (d : Distribution) (cacheDir : Option Path) (files : FileTree)
    (staging : Graph) (src : String) : Prop :=
  match cacheDir with
  | some dir =>
    staging = ⟨⟨.localDir, dir.render⟩, [], []⟩ ∧
      ∃ content, files.read (dir.join src).render = .ok content ∧ Digest.hex content = d.sha256
  | none =>
    staging.source = ⟨.image, builderImage⟩ ∧
      ∃ download verify environment environment',
        staging.operations =
          [.run ⟨download, .fetch⟩ ["curl", "-fsSL", d.url, "-o", src] environment,
            .run ⟨verify, .integrity⟩ ["sh", "-c",
              "echo " ++ Shell.word (d.sha256 ++ "  " ++ src) ++ " | sha256sum -c -"] environment']

namespace Archive.Installer

variable (i : Installer) {retrieve : Retriever} {staging : Graph} {archive : String}
  {w w' : Workspace}

theorem checked_of_stageCached {dir : Path} (hd : Distribution.isDigest i.distribution.sha256)
    (hi : i.policy.requireIntegrity)
    (hs : Gives (i.stageCached retrieve dir) w (staging, archive) w') :
    Checked i.distribution (some dir) w'.files staging archive := by
  obtain ⟨cached, hf, hl, rfl⟩ := gives_stageCached hs
  obtain ⟨rfl, hholds⟩ := ArtifactCache.holds_of_fetch hi hf
  have hname := Distribution.isEntry_of_isDigest hd
  rw [hname.parent_join] at hl
  rw [hname.name_join]
  refine ⟨?_, hholds⟩
  unfold Graph.localDir at hl
  split at hl
  · cases hl
  · exact (Except.ok.inj hl).symm

theorem checked_of_stageDownload (hi : i.policy.requireIntegrity)
    (hs : Gives i.stageDownload w (staging, archive) w') :
    Checked i.distribution none w'.files staging archive := by
  obtain ⟨g₁, hd, hv, rfl, -⟩ := gives_stageDownload hs
  rw [if_pos hi] at hv
  obtain ⟨builder, hb, hd⟩ := bind_eq_ok_iff.mp hd
  cases hb
  obtain ⟨-, -, rfl⟩ := run_eq_ok_iff.mp hd
  obtain ⟨-, -, rfl⟩ := run_eq_ok_iff.mp hv
  exact ⟨rfl, _, _, _, _, rfl⟩

theorem checked_of_staged (hd : Distribution.isDigest i.distribution.sha256)
    (hi : i.policy.requireIntegrity)
    (hs : Gives (i.staged retrieve) w (staging, archive) w') :
    Checked i.distribution i.cacheDir w'.files staging archive := by
  unfold staged at hs
  split at hs
  · next dir hc =>
    rw [hc]
    exact i.checked_of_stageCached hd hi hs
  · next hc =>
    rw [hc]
    exact i.checked_of_stageDownload hi hs

end Archive.Installer

/-- Whatever a session provisions under a policy that asks for integrity, the first operation that
it adds copies an archive that is covered by a check, and it adds no other copy. -/
theorem Session.provision_takes_checked_archive (s : Session) {retrieve : Retriever}
    {root g : Graph} {groups : Option Json.Value} {w w' : Workspace}
    (hd : s.distribution.validate = .ok s.distribution) (hi : s.policy.requireIntegrity = true)
    (hp : Gives (s.provision retrieve root groups) w g w') :
    ∃ name staging src,
      g.operations[root.operations.length]? =
        some (.copy ⟨name, .fetch⟩ staging src s.distribution.stagingPath) ∧
      Archive.Checked s.distribution s.cacheDir w'.files staging src ∧
      ∀ (n : Nat) (op : Operation), root.operations.length < n → g.operations[n]? = some op →
        op.isCopy = false := by
  obtain ⟨staging, src, w₀, w₁, g₁, name, -, hs, hc, he, hw⟩ := gives_provision hp
  have hdigest := Distribution.isDigest_of_validate hd
  have hchecked := s.archiveInstaller.checked_of_staged hdigest hi hs
  obtain ⟨-, -, rfl⟩ := copy_eq_ok_iff.mp hc
  -- What comes behind the copy are edits, and no edit is a copy.
  obtain ⟨ops, hops, hcopy⟩ := he.extends
  rw [operations_append, List.append_assoc, List.singleton_append] at hops
  refine ⟨name, staging, src, ?_, ?_, ?_⟩
  · rw [hops, List.getElem?_append_right (Nat.le_refl _), Nat.sub_self]
    rfl
  · rw [hw]
    exact hchecked
  · intro n op hn hop
    obtain ⟨k, rfl⟩ := Nat.exists_eq_add_of_lt hn
    rw [hops, List.getElem?_append_right (by omega), Nat.add_assoc, Nat.add_sub_cancel_left] at hop
    exact hcopy op (List.mem_of_getElem? hop)

/-- A distribution whose archive is the three bytes `abc`. -/
def Distribution.sample : Distribution :=
  { julia with sha256 := "ba7816bf8f01cfea414140de5dae2223b00361a396177a9cb410ff61f20015ad" }

def FileTree.withSample : FileTree :=
  ⟨["", ""], [(["", "", "cache"], .directory),
    (["", "", "cache", Distribution.sample.sha256], .file [97, 98, 99])]⟩

def Session.sample (cacheDir : Option Path) : Session :=
  { distribution := .sample, policy := { mirrorMode := "on-demand" }, cacheDir }

set_option maxRecDepth 4000 in
/-- A session that finds its archive in the cache directory, and one without such a directory. -/
theorem Session.provision_takes_checked_archive_sample :
    (∃ g w' name staging src,
      Gives ((sample (some ⟨0, ["cache"]⟩)).provision Retrieval.retrieve scratch (some (.list [])))
          { files := .withSample } g w' ∧
        g.operations[0]? = some (.copy ⟨name, .fetch⟩ staging src "/tmp/julia.tar.gz") ∧
        Archive.Checked .sample (some ⟨0, ["cache"]⟩) w'.files staging src) ∧
    ∃ g w' name staging src,
      Gives ((sample none).provision Retrieval.retrieve scratch (some (.list []))) {} g w' ∧
        g.operations[0]? = some (.copy ⟨name, .fetch⟩ staging src "/tmp/julia.tar.gz") ∧
        Archive.Checked .sample none w'.files staging src := by
  have hd : Distribution.sample.validate = .ok .sample := rfl
  constructor
  · obtain ⟨g, w', hg⟩ : ∃ g w', Gives ((sample (some ⟨0, ["cache"]⟩)).provision
        Retrieval.retrieve scratch (some (.list []))) { files := .withSample } g w' := ⟨_, _, rfl⟩
    obtain ⟨name, staging, src, hop, hc, -⟩ :=
      (sample (some ⟨0, ["cache"]⟩)).provision_takes_checked_archive hd rfl hg
    exact ⟨g, w', name, staging, src, hg, hop, hc⟩
  · obtain ⟨g, w', hg⟩ : ∃ g w', Gives ((sample none).provision Retrieval.retrieve scratch
        (some (.list []))) {} g w' := ⟨_, _, rfl⟩
    obtain ⟨name, staging, src, hop, hc, -⟩ :=
      (sample none).provision_takes_checked_archive hd rfl hg
    exact ⟨g, w', name, staging, src, hg, hop, hc⟩

end RuntimeImage
