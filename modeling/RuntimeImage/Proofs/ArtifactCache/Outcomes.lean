import RuntimeImage.Proofs.ArtifactCache
import RuntimeImage.Proofs.FileTree.Directories

/-!
What a fetch does to a tree, in cases. Directories for the cache are made before anything else. Then
the fetch is refused, or finds the artifact and changes nothing, or stores it where nothing was. A
verified fetch stores by way of a draft; once the draft is written the move cannot fail, since the
shorter name fits where the longer one did, so no draft is ever left behind.
-/

namespace RuntimeImage

namespace ArtifactCache

variable {retrieve : Retriever} {url sha256 : String} {cacheDir : Path} {policy : Option Policy}
  {tree made : FileTree} {dir : List String} {content : Bytes}

/-- The name under which a content is drafted. -/
def draftName (content : Bytes) : String := Digest.hex content ++ ".tmp"

/-- The artifact was stored right below `dir`, where nothing was of its name. All else that was there
is kept, but for the draft, and no other file is added. -/
structure Stored (dir : List String) (content : Bytes) (before after : FileTree) : Prop where
  directories : before.KeepsDirectories after
  vacant : before.node? (dir ++ [Digest.hex content]) = none
  artifact : after.file? (dir ++ [Digest.hex content]) = some content
  kept : ∀ place node, before.InDirectories place → place ≠ dir ++ [draftName content] →
    before.node? place = some node → after.node? place = some node
  added : ∀ place other, after.file? place = some other → place ≠ dir ++ [Digest.hex content] →
    before.file? place = some other

theorem isEntry_hex (content : Bytes) : Path.IsEntry (Digest.hex content) :=
  Distribution.isEntry_of_isDigest (Digest.isDigest_hex content)

theorem isEntry_draftName (content : Bytes) : Path.IsEntry (draftName content) :=
  Distribution.isEntry_append (Digest.isDigest_hex content) (by decide)

theorem not_isDigest_draftName (content : Bytes) : ¬Distribution.isDigest (draftName content) :=
  Distribution.not_isDigest_append (Digest.isDigest_hex content) (by decide)

/-- No artifact is at a draft's place. -/
theorem artifact_ne_draft {s : String} (hs : Distribution.isDigest s) (above dir : List String)
    (content : Bytes) : above ++ [s] ≠ dir ++ [draftName content] := by
  intro he
  obtain ⟨-, hlast⟩ := List.append_inj' he rfl
  cases hlast
  exact not_isDigest_draftName content hs

/-- A content that is written right under its digest is stored. -/
theorem stored_put (hvacant : tree.node? (dir ++ [Digest.hex content]) = none) :
    Stored dir content tree (tree.put (dir ++ [Digest.hex content]) (.file content)) := by
  have hd : tree.node? (dir ++ [Digest.hex content]) ≠ some .directory := by simp [hvacant]
  refine ⟨FileTree.keepsDirectories_put _ hd, hvacant, ?_, ?_, ?_⟩
  · rw [FileTree.file?_put_file hd, if_pos rfl]
  · intro place node _ _ hn
    have hne : place ≠ dir ++ [Digest.hex content] := by
      rintro rfl
      cases hvacant.symm.trans hn
    rw [FileTree.node?_put_of_ne _ _ hne, hn]
  · intro place other ho hne
    rwa [FileTree.file?_put_file hd, if_neg hne] at ho

/-- Nothing is at the place of an artifact whose path leads to nothing. -/
theorem vacant_of_pathExists {path : String} {place : List String}
    (hl : tree.locate path = .ok place) (he : tree.pathExists path = .ok false) :
    tree.node? place = none := by
  rw [FileTree.pathExists_of_locate hl] at he
  exact Option.isNone_iff_eq_none.mp (by simpa using Except.ok.inj he)

/-- Once a content is drafted, the move to its vacant place succeeds, and the content is stored. -/
theorem exists_stored_moved {path : String}
    (hdraft : tree.node? (dir ++ [draftName content]) ≠ some .directory)
    (hl : tree.locate path = .ok (dir ++ [Digest.hex content]))
    (hvacant : tree.node? (dir ++ [Digest.hex content]) = none) :
    ∃ after,
      ((tree.put (dir ++ [draftName content]) (.file content)).erase
        (dir ++ [draftName content])).write path content = .ok after ∧
      Stored dir content tree after := by
  have hkept := FileTree.keepsDirectories_erase_put content hdraft
  have hne := artifact_ne_draft (Digest.isDigest_hex content) dir dir content
  have hin := FileTree.inDirectories_of_locate hl
  have hfree := FileTree.node?_erase_put content hdraft hin hne
  rw [hvacant] at hfree
  have hstored := stored_put hfree
  refine ⟨_, FileTree.write_eq_ok_iff.mpr ⟨_, hkept.locate hl, by simp [hfree], rfl⟩, ?_⟩
  refine ⟨hkept.trans hstored.directories, hvacant, hstored.artifact, ?_, ?_⟩
  · intro place node hp hplace hn
    rw [← FileTree.node?_erase_put content hdraft hp hplace] at hn
    exact hstored.kept place node (hkept.inDirectories hp) hplace hn
  · intro place other ho hplace
    exact FileTree.file?_of_file?_erase_put hdraft (hstored.added place other ho hplace)

/-- Storing is refused before anything is written, or the artifact is stored. -/
theorem store_cases (hdir : tree.locate cacheDir.render = .ok dir)
    (he : tree.pathExists (cacheDir.join (Digest.hex content)).render = .ok false) :
    (∃ fault, store tree (cacheDir.join (Digest.hex content)) content = (.error fault, tree)) ∨
      ∃ after, store tree (cacheDir.join (Digest.hex content)) content =
          (.ok (cacheDir.join (Digest.hex content)), after) ∧
        tree.locate (cacheDir.join (Digest.hex content)).render = .ok (dir ++ [Digest.hex content]) ∧
        Stored dir content tree after := by
  have hentry := isEntry_hex content
  have hdraft := isEntry_draftName content
  have hname : (cacheDir.join (Digest.hex content)).addExtension ".tmp" =
      cacheDir.join (draftName content) := hentry.addExtension_join hdraft.toIsName cacheDir
  simp only [store, hname]
  split
  · next fault _ => exact Or.inl ⟨.file fault, rfl⟩
  · next drafted hw =>
    obtain ⟨draft, hl, hnd, rfl⟩ := FileTree.write_eq_ok_iff.mp hw
    obtain ⟨hd, hfits, rfl⟩ := (FileTree.locate_join_iff hdraft hdir).mp hl
    -- The draft's path leads somewhere, so the artifact's does: its name is the shorter one.
    have hlocated := (FileTree.locate_join_iff hentry hdir).mpr
      ⟨hd, hfits.of_append hentry.toIsName hdraft.toIsName, rfl⟩
    have hvacant := vacant_of_pathExists hlocated he
    obtain ⟨after, hmove, hstored⟩ := exists_stored_moved hnd hlocated hvacant
    have hput := (FileTree.keepsDirectories_put (.file content) hnd).locate hl
    have hfile := FileTree.node?_put_self tree (.file content) (FileTree.not_prefix_home hnd)
    refine Or.inr ⟨after, ?_, hlocated, hstored⟩
    rw [FileTree.replace_eq hput hfile, hmove]

/-- How a fetch can end: refused, with the artifact found, or with the artifact stored. Whichever it
is, directories may have been made for the cache before. -/
inductive Outcome (retrieve : Retriever) (url : String) (cacheDir : Path) (tree : FileTree) :
    Except Fault Path × FileTree → Prop
  | refused {made : FileTree} (fault : Fault) (hm : FileTree.MadeFor cacheDir tree made) :
      Outcome retrieve url cacheDir tree (.error fault, made)
  | found {made : FileTree} {dir : List String} {artifact : Path} {content : Bytes}
      (hm : FileTree.MadeFor cacheDir tree made) (hdir : made.locate cacheDir.render = .ok dir)
      (ha : artifact = cacheDir.join (Digest.hex content))
      (he : made.pathExists artifact.render = .ok true) :
      Outcome retrieve url cacheDir tree (.ok artifact, made)
  | stored {made after : FileTree} {dir : List String} {artifact : Path} {content : Bytes}
      (hm : FileTree.MadeFor cacheDir tree made) (hdir : made.locate cacheDir.render = .ok dir)
      (hr : retrieve made url = .ok content) (ha : artifact = cacheDir.join (Digest.hex content))
      (hl : made.locate artifact.render = .ok (dir ++ [Digest.hex content]))
      (hs : Stored dir content made after) :
      Outcome retrieve url cacheDir tree (.ok artifact, after)

theorem retrieve_of_download (h : download retrieve tree url = .ok content) :
    retrieve tree url = .ok content := by
  unfold download at h
  split at h <;> cases h
  assumption

theorem outcome_fetchVerified (retrieve : Retriever) (url sha256 : String) (cacheDir : Path)
    (tree : FileTree) :
    Outcome retrieve url cacheDir tree (fetchVerified retrieve url sha256 cacheDir tree) := by
  have hm := FileTree.madeFor_ensureDirectories cacheDir tree
  unfold fetchVerified
  split
  · exact .refused _ (.refl cacheDir tree)
  · split
    · next made he =>
      rw [he] at hm
      exact .refused _ hm
    · next made he =>
      rw [he] at hm
      obtain ⟨dir, hdir, -⟩ :=
        FileTree.isDirectory_iff.mp (FileTree.isDirectory_of_ensureDirectories he)
      dsimp only
      split
      · exact .refused _ hm
      · next hexists =>
        cases hc : checkCached made (cacheDir.join sha256) sha256 with
        | error fault => exact .refused _ hm
        | ok artifact =>
          obtain ⟨rfl, content, -, rfl⟩ := holds_of_checkCached hc
          exact .found hm hdir rfl hexists
      · next hexists =>
        split
        · exact .refused _ hm
        · next content hd =>
          split
          · next hactual =>
            subst hactual
            rcases store_cases hdir hexists with ⟨fault, hs⟩ | ⟨after, hs, hl, hstored⟩
            · rw [hs]
              exact .refused _ hm
            · rw [hs]
              exact .stored hm hdir (retrieve_of_download hd) rfl hl hstored
          · exact .refused _ hm

theorem outcome_fetchUnverified (retrieve : Retriever) (url : String) (cacheDir : Path)
    (tree : FileTree) :
    Outcome retrieve url cacheDir tree (fetchUnverified retrieve url cacheDir tree) := by
  have hm := FileTree.madeFor_ensureDirectories cacheDir tree
  unfold fetchUnverified
  split
  · next made he =>
    rw [he] at hm
    exact .refused _ hm
  · next made he =>
    rw [he] at hm
    obtain ⟨dir, hdir, -⟩ :=
      FileTree.isDirectory_iff.mp (FileTree.isDirectory_of_ensureDirectories he)
    dsimp only
    split
    · exact .refused _ hm
    · next content hd =>
      split
      · exact .refused _ hm
      · next hexists => exact .found hm hdir rfl hexists
      · next hexists =>
        split
        · exact .refused _ hm
        · next written hw =>
          obtain ⟨place, hl, -, rfl⟩ := FileTree.write_eq_ok_iff.mp hw
          obtain ⟨-, -, rfl⟩ := (FileTree.locate_join_iff (isEntry_hex content) hdir).mp hl
          have hstored := stored_put (vacant_of_pathExists hl hexists)
          exact .stored hm hdir (retrieve_of_download hd) rfl hl hstored

theorem outcome_fetch (retrieve : Retriever) (url sha256 : String) (cacheDir : Path)
    (policy : Option Policy) (tree : FileTree) :
    Outcome retrieve url cacheDir tree (fetch retrieve url sha256 cacheDir policy tree) := by
  unfold fetch
  split
  · exact outcome_fetchVerified retrieve url sha256 cacheDir tree
  · split
    · exact .refused _ (.refl cacheDir tree)
    · split
      · exact outcome_fetchVerified retrieve url sha256 cacheDir tree
      · exact outcome_fetchUnverified retrieve url cacheDir tree

end ArtifactCache

end RuntimeImage
