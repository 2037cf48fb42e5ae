import RuntimeImage.Proofs.ArtifactCache.Outcomes

/-!
Content addressing. In a well-addressed tree no file is named by a digest that is not its own. A
fetch keeps it so however it ends: directories are no files, and the one file that may be new is an
artifact under its own digest. An unverified fetch does not look into what is there already; what it
answers is right because the tree was well addressed.
-/

namespace RuntimeImage

/-- Every regular file whose name is a digest has that digest. -/
def FileTree.WellAddressed (t : FileTree) : Prop :=
  ∀ (dir : List String) (name : String) (content : Bytes),
    t.file? (dir ++ [name]) = some content → Distribution.isDigest name → Digest.hex content = name

namespace ArtifactCache

open FileTree (WellAddressed)

variable {retrieve : Retriever} {url sha256 : String} {cacheDir artifact : Path}
  {policy : Option Policy} {tree tree' : FileTree} {dir : List String} {content : Bytes}

theorem wellAddressed_of_madeFor (h : tree.WellAddressed)
    (hm : FileTree.MadeFor cacheDir tree tree') : tree'.WellAddressed := by
  intro above name content hfile hname
  rw [hm.file?_eq] at hfile
  exact h above name content hfile hname

theorem wellAddressed_of_stored (h : tree.WellAddressed) (hs : Stored dir content tree tree') :
    tree'.WellAddressed := by
  intro above name other hfile hname
  by_cases hplace : above ++ [name] = dir ++ [Digest.hex content]
  -- The artifact is named by the digest of what was written.
  · obtain ⟨-, hlast⟩ := List.append_inj' hplace rfl
    rw [hplace] at hfile
    cases hs.artifact.symm.trans hfile
    exact (List.cons.inj hlast).1.symm
  · exact h above name other (hs.added _ other hfile hplace) hname

/-- A fetch keeps a tree well addressed, whether it succeeds or fails, verified or not. -/
theorem wellAddressed_fetch (h : tree.WellAddressed) :
    (fetch retrieve url sha256 cacheDir policy tree).2.WellAddressed := by
  have hends := outcome_fetch retrieve url sha256 cacheDir policy tree
  generalize fetch retrieve url sha256 cacheDir policy tree = result at hends
  cases hends with
  | refused _ hm => exact wellAddressed_of_madeFor h hm
  | found hm _ _ _ => exact wellAddressed_of_madeFor h hm
  | stored hm _ _ _ _ hs => exact wellAddressed_of_stored (wellAddressed_of_madeFor h hm) hs

/-- Whatever a fetch answers is the cache directory with a digest behind it. -/
theorem artifact_of_fetch
    (hf : fetch retrieve url sha256 cacheDir policy tree = (.ok artifact, tree')) :
    ∃ content, artifact = cacheDir.join (Digest.hex content) := by
  have hends := outcome_fetch retrieve url sha256 cacheDir policy tree
  rw [hf] at hends
  cases hends with
  | found _ _ ha _ => exact ⟨_, ha⟩
  | stored _ _ _ ha _ _ => exact ⟨_, ha⟩

/-- In a well-addressed tree a digest leads to the content that has it. -/
theorem hex_of_read {s : String} (h : tree.WellAddressed) (hs : Distribution.isDigest s)
    (hr : tree.read (cacheDir.join s).render = .ok content) : Digest.hex content = s := by
  obtain ⟨place, hl, hfile⟩ := FileTree.read_eq_ok_iff_file?.mp hr
  obtain ⟨above, rfl⟩ := FileTree.locate_join (Distribution.isEntry_of_isDigest hs) hl
  exact h above s content hfile hs

/-- In a well-addressed tree a fetch answers a path right below the cache directory, and a regular
file there is named by its own digest. -/
theorem named_of_fetch (h : tree.WellAddressed)
    (hf : fetch retrieve url sha256 cacheDir policy tree = (.ok artifact, tree'))
    {content : Bytes} (hr : tree'.read artifact.render = .ok content) :
    artifact.parent = cacheDir ∧ artifact.name = Digest.hex content := by
  have htree' : tree'.WellAddressed := by
    have hkept : (fetch retrieve url sha256 cacheDir policy tree).2.WellAddressed :=
      wellAddressed_fetch h
    rwa [hf] at hkept
  obtain ⟨payload, ha⟩ := artifact_of_fetch hf
  have hname := isEntry_hex payload
  rw [ha] at hr ⊢
  refine ⟨hname.parent_join cacheDir, ?_⟩
  rw [hname.name_join]
  exact (hex_of_read htree' (Digest.isDigest_hex payload) hr).symm

end ArtifactCache

end RuntimeImage
