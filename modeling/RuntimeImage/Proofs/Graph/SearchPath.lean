import Mathlib.Data.List.Basic
import RuntimeImage.Proofs.Graph.After
import RuntimeImage.Proofs.Path

/-!
Search paths. The entries of texts that are joined by colons are the entries of each text in turn,
so a directory at the end of a path is one of its entries exactly if there is no colon in it. That
decides for which directories `appendPath` does what it is there for: to append a directory once.
-/

namespace RuntimeImage.Graph

variable {g h : Graph} {t : Table String} {directory entry path : String}

/-- Nothing that a text is split at is left in its pieces. -/
theorem not_mem_of_mem_splitOn {sep : Char} {cs piece : List Char} (hp : piece ∈ cs.splitOn sep) :
    sep ∉ piece := by
  induction cs generalizing piece with
  | nil =>
    rw [List.splitOn_nil, List.mem_singleton] at hp
    rw [hp]
    exact List.not_mem_nil
  | cons c cs ih =>
    rw [List.splitOn_cons_eq_if_modifyHead] at hp
    split at hp
    · rcases List.mem_cons.mp hp with rfl | hp
      · exact List.not_mem_nil
      · exact ih hp
    · next hc =>
      -- The character goes to the first piece of the rest.
      obtain ⟨first, others, hsplit⟩ := List.exists_cons_of_ne_nil (List.splitOn_ne_nil sep cs)
      rw [hsplit, List.modifyHead_cons] at hp
      rcases List.mem_cons.mp hp with rfl | hp
      · have hfirst : sep ∉ first := ih (hsplit ▸ List.mem_cons_self)
        have hne : sep ≠ c := fun heq => hc (beq_iff_eq.mpr heq.symm)
        exact List.not_mem_cons_of_ne_of_not_mem hne hfirst
      · exact ih (hsplit ▸ List.mem_cons_of_mem first hp)

/-- An entry is a text with no colon in it, and not an empty one. -/
theorem of_mem_searchEntries (he : entry ∈ searchEntries path) :
    entry ≠ "" ∧ ':' ∉ entry.toList := by
  obtain ⟨hpiece, hne⟩ := List.mem_filter.mp he
  obtain ⟨piece, hp, rfl⟩ := List.mem_map.mp hpiece
  refine ⟨of_decide_eq_true hne, ?_⟩
  rw [String.toList_ofList]
  exact not_mem_of_mem_splitOn hp

/-- A text with no colon in it is its own and only entry. -/
theorem searchEntries_eq_singleton (hne : entry ≠ "") (hcolon : ':' ∉ entry.toList) :
    searchEntries entry = [entry] := by
  rw [searchEntries, List.splitOn_eq_singleton hcolon, List.map_singleton, String.ofList_toList]
  simp [hne]

/-- A colon ends an entry. -/
theorem searchEntries_append (front back : String) :
    searchEntries (front ++ ":" ++ back) = searchEntries front ++ searchEntries back := by
  have htext : (front ++ ":" ++ back).toList = front.toList ++ ':' :: back.toList := by simp
  rw [searchEntries, htext, List.splitOn_append_cons_self, List.map_append, List.filter_append]
  rfl

theorem searchEntries_intercalate (texts : List String) :
    searchEntries (String.intercalate ":" texts) = texts.flatMap searchEntries := by
  induction texts with
  | nil => rfl
  | cons text rest ih =>
    rw [List.flatMap_cons]
    by_cases hrest : rest = []
    · rw [hrest, String.intercalate_singleton, List.flatMap_nil, List.append_nil]
    · rw [String.intercalate_cons_of_ne_nil hrest, searchEntries_append, ih]

/-- What is put behind the entries of a path adds its own entries to them. -/
theorem searchEntries_rejoined (path last : String) :
    searchEntries (String.intercalate ":" (searchEntries path ++ [last])) =
      searchEntries path ++ searchEntries last := by
  have hself : ∀ entry ∈ searchEntries path, searchEntries entry = [entry] := by
    intro entry he
    obtain ⟨hne, hcolon⟩ := of_mem_searchEntries he
    exact searchEntries_eq_singleton hne hcolon
  rw [searchEntries_intercalate, List.flatMap_append, List.flatMap_singleton,
    List.flatMap_congr hself, List.flatMap_singleton']

/-- The entries of `PATH`; none, when it is not set. -/
def searchPath (t : Table String) : List String := searchEntries ((t.get? "PATH").getD "")

/-- A directory that is no entry yet puts its own entries behind those of `PATH`. -/
theorem searchPath_settled (t : Table String) (directory : String) :
    searchPath (settled t (pathSetting t directory)) =
      searchPath t ++ if directory ∈ searchPath t then [] else searchEntries directory := by
  unfold pathSetting
  change searchPath (settled t (if directory ∈ searchPath t then _ else _)) = _
  split
  · rw [settled_nil, List.append_nil]
  · rw [settled_setEnv, settled_nil, searchPath, Table.get?_put_self, Option.getD_some,
      searchEntries_rejoined]
    rfl

/-- Once it is put there, a directory is an entry of `PATH` exactly if it has no colon in it. -/
theorem mem_searchPath_settled_iff (hne : directory ≠ "") :
    directory ∈ searchPath (settled t (pathSetting t directory)) ↔ ':' ∉ directory.toList := by
  constructor
  · intro hmem
    exact (of_mem_searchEntries hmem).2
  · intro hcolon
    rw [searchPath_settled, searchEntries_eq_singleton hne hcolon, List.mem_append]
    by_cases hmem : directory ∈ searchPath t
    · exact Or.inl hmem
    · rw [if_neg hmem]
      exact Or.inr (List.mem_singleton_self directory)

/-- Appending a directory that is an entry already gives the graph as it is. -/
theorem appendPath_of_mem (hp : Path.isAbsolute directory)
    (hmem : directory ∈ searchPath g.environment) : g.appendPath directory = .ok g := by
  have hnone : pathSetting g.environment directory = [] := if_pos hmem
  rw [appendPath_eq_ok_iff_after, hnone, after_nil]
  exact ⟨hp, rfl⟩

/-- What is expected of `h`, when a directory was appended to the `PATH` of `g`. -/
structure AppendsOnce (g : Graph) (directory : String) (h : Graph) : Prop where
  searchPath_eq : searchPath h.environment =
    searchPath g.environment ++ if directory ∈ searchPath g.environment then [] else [directory]
  mem : directory ∈ searchPath h.environment
  again : h.appendPath directory = .ok h

/-- Every absolute directory is appended, and no other one. The entries of `PATH` are then those
that were there, with the entries of the directory behind them unless it was one of them. That is
the directory itself, so that it is found there when it is appended again, exactly if it has no
colon in it. -/
theorem appendsOnce_iff (g : Graph) (directory : String) :
    ((∃ h, g.appendPath directory = .ok h) ↔ Path.isAbsolute directory) ∧
      ∀ h, g.appendPath directory = .ok h →
        searchPath h.environment = searchPath g.environment ++
            (if directory ∈ searchPath g.environment then [] else searchEntries directory) ∧
          (AppendsOnce g directory h ↔ ':' ∉ directory.toList) := by
  refine ⟨?_, ?_⟩
  · constructor
    · rintro ⟨h, ha⟩
      exact (appendPath_eq_ok_iff_after.mp ha).1
    · intro hp
      exact ⟨_, appendPath_eq_ok_iff_after.mpr ⟨hp, rfl⟩⟩
  · intro h ha
    obtain ⟨hp, rfl⟩ := appendPath_eq_ok_iff_after.mp ha
    have hne := Path.ne_empty_of_isAbsolute hp
    have hsearch := searchPath_settled g.environment directory
    have hmem := mem_searchPath_settled_iff (t := g.environment) hne
    refine ⟨hsearch, fun honce => hmem.mp honce.mem, fun hcolon => ?_⟩
    refine ⟨?_, hmem.mpr hcolon, appendPath_of_mem hp (hmem.mpr hcolon)⟩
    rw [environment_after, hsearch, searchEntries_eq_singleton hne hcolon]

/-- One directory is appended once to the `PATH` of an image; two that are given as one are not. -/
theorem appendsOnce_iff_of_image : ∃ g h k : Graph,
    Built g ∧ g.appendPath "/opt/bin" = .ok h ∧ AppendsOnce g "/opt/bin" h ∧
      h.appendPath "/opt/a:/opt/b" = .ok k ∧ ¬AppendsOnce h "/opt/a:/opt/b" k := by
  have hi : image "debian:12" = .ok ⟨⟨.image, "debian:12"⟩, [], [("PATH", defaultPath)]⟩ := rfl
  obtain ⟨h, hh⟩ := (appendsOnce_iff ⟨⟨.image, "debian:12"⟩, [], [("PATH", defaultPath)]⟩
    "/opt/bin").1.mpr rfl
  obtain ⟨k, hk⟩ := (appendsOnce_iff h "/opt/a:/opt/b").1.mpr rfl
  refine ⟨_, h, k, .image hi, hh, ?_, hk, fun honce => ?_⟩
  · exact ((appendsOnce_iff _ _).2 h hh).2.mpr (by decide)
  · exact absurd (((appendsOnce_iff _ _).2 k hk).2.mp honce) (by decide)

/-- Two directories that are given as one come to stand there once more each time. -/
theorem not_appendsOnce_pair : ∃ h k : Graph, Built scratch ∧
    scratch.appendPath "/opt/a:/opt/b" = .ok h ∧ h.appendPath "/opt/a:/opt/b" = .ok k ∧
      searchPath k.environment = ["/opt/a", "/opt/b", "/opt/a", "/opt/b"] ∧
        ¬AppendsOnce scratch "/opt/a:/opt/b" h := by
  refine ⟨_, _, .scratch, rfl, rfl, by decide, ?_⟩
  intro honce
  exact absurd honce.mem (by decide)

end RuntimeImage.Graph
