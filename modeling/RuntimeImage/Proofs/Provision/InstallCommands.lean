import Mathlib.Data.List.Forall2
import RuntimeImage.Proofs.PackageGroups.Offenders
import RuntimeImage.Proofs.Provision.Pipeline

/-!
The commands that install packages. Names are put between quotes as they are, nothing in them is
escaped; but the names of an accepted group hold no character that could end a literal, or mean
something inside one. So the text of a command tells the group, and the commands of an installation
tell its groups.
-/

namespace RuntimeImage.PackageInstall

open Json Provisioning RuntimeImage.Graph

variable {names : List String} {command : String} {group : PackageGroup}
  {groups : List PackageGroup}

/-! ## One command -/

/-- What ends a literal between double quotes, or means something in it, and what parts literals. -/
def reserved : List Char := ['\x22', '\\', '$', ',']

/-- What a literal holds as it is. -/
def IsPlain (name : String) : Prop := ∀ c ∈ name.toList, c ∉ reserved

def literal (name : String) : String := "\"" ++ name ++ "\""

/-- The text adds packages of these names: one literal for each of them, and commas between the
literals. -/
structure Adds (command : String) (names : List String) : Prop where
  text : command = "using Pkg; Pkg.add([" ++ String.intercalate "," (names.map literal) ++ "])"
  plain : ∀ name ∈ names, IsPlain name

theorem isPlain_of_isName {name : String} (h : PackageGroups.isName name = true) :
    IsPlain name := by
  have hnone : reserved.all (!PackageGroups.isNameChar ·) = true := by decide
  obtain ⟨first, rest, hname, hfirst, hrest⟩ := PackageGroups.isName_iff.mp h
  intro c hc hmem
  rw [hname] at hc
  have hletter : PackageGroups.isNameChar c = true := by
    rw [PackageGroups.isNameChar_iff]
    rcases List.mem_cons.mp hc with rfl | hc
    · exact Or.inl hfirst
    · exact hrest c hc
  have hmem := List.all_eq_true.mp hnone c hmem
  rw [hletter] at hmem
  cases hmem

/-- Quotes and commas between the names, and a quote at either end, are the literals of the names
with commas between them. -/
theorem intercalate_literal (name : String) (rest : List String) :
    String.intercalate "," ((name :: rest).map literal) =
      "\"" ++ String.intercalate "\",\"" (name :: rest) ++ "\"" := by
  induction rest generalizing name with
  | nil => simp [literal]
  | cons next rest ih =>
    have hmark : "\",\"" = "\"" ++ "," ++ "\"" := by simp
    rw [List.map_cons, String.intercalate_cons_of_ne_nil (by simp), ih next,
      String.intercalate_cons_of_ne_nil (List.cons_ne_nil next rest), literal, hmark]
    simp only [String.append_assoc]

theorem installCommand_eq (hne : group ≠ []) :
    installCommand group =
      "using Pkg; Pkg.add([" ++ String.intercalate "," (group.map literal) ++ "])" := by
  obtain ⟨name, rest, rfl⟩ := List.exists_cons_of_ne_nil hne
  -- The outer quotes belong to the first and the last literal.
  have hopen : "using Pkg; Pkg.add([\"" = "using Pkg; Pkg.add([" ++ "\"" := by simp
  have hclose : "\"])" = "\"" ++ "])" := by simp
  rw [intercalate_literal]
  unfold installCommand
  rw [hopen, hclose]
  simp only [String.append_assoc]

theorem adds_installCommand (h : PackageGroups.Valid group) : Adds (installCommand group) group :=
  ⟨installCommand_eq h.1, fun name hname => isPlain_of_isName (h.2 name hname)⟩

theorem literal_injective {name other : String} (h : literal name = literal other) :
    name = other := by
  rw [literal, literal, String.append_left_inj, String.append_right_inj] at h
  exact h

theorem toList_literal (name : String) :
    (literal name).toList = '\x22' :: (name.toList ++ ['\x22']) := by
  simp [literal]

theorem comma_notMem_literal {name : String} (h : IsPlain name) : ',' ∉ (literal name).toList := by
  intro hmem
  rw [toList_literal] at hmem
  have hname : ',' ∈ name.toList := by simpa using hmem
  exact h ',' hname (by decide)

/-- Joined literals are cut again at the commas, since no name has one in it. -/
theorem splitOn_intercalate_literal (h : ∀ name ∈ names, IsPlain name) (hne : names ≠ []) :
    (String.intercalate "," (names.map literal)).toList.splitOn ',' =
      (names.map literal).map String.toList := by
  rw [String.toList_intercalate]
  refine List.splitOn_intercalate ',' ?_ (by simpa using hne)
  simp only [List.forall_mem_map]
  exact fun name hname => comma_notMem_literal (h name hname)

theorem intercalate_literal_ne_empty (hne : names ≠ []) :
    String.intercalate "," (names.map literal) ≠ "" := by
  obtain ⟨name, rest, rfl⟩ := List.exists_cons_of_ne_nil hne
  rw [intercalate_literal]
  simp

/-- A text adds packages of one list of names only. -/
theorem Adds.unique {other : List String} (h : Adds command names) (h' : Adds command other) :
    names = other := by
  have hjoined : String.intercalate "," (names.map literal) =
      String.intercalate "," (other.map literal) := by
    have htext := h.text.symm.trans h'.text
    rwa [String.append_left_inj, String.append_right_inj] at htext
  -- Without names the text has no literal in it, so this case is set apart from the splitting.
  by_cases hne : names = []
  · by_contra hother
    rw [hne] at hjoined
    exact intercalate_literal_ne_empty (fun hnil => hother (hne.trans hnil.symm)) hjoined.symm
  · have hne' : other ≠ [] := by
      intro hnil
      rw [hnil] at hjoined
      exact intercalate_literal_ne_empty hne hjoined
    have hpieces := splitOn_intercalate_literal h.plain hne
    rw [hjoined, splitOn_intercalate_literal h'.plain hne'] at hpieces
    have hliterals := (List.map_inj_right fun s t => String.toList_inj.mp).mp hpieces
    exact ((List.map_inj_right fun s t => literal_injective).mp hliterals).symm

theorem adds_installCommand_iff (h : PackageGroups.Valid group) :
    Adds (installCommand group) names ↔ names = group := by
  constructor
  · exact fun hadds => hadds.unique (adds_installCommand h)
  · rintro rfl
    exact adds_installCommand h

/-- The command tells the group, if it was accepted. -/
theorem installCommand_injective {other : PackageGroup} (h : PackageGroups.Valid group)
    (h' : PackageGroups.Valid other) (heq : installCommand group = installCommand other) :
    group = other := by
  have hadds := adds_installCommand h
  rw [heq] at hadds
  exact (adds_installCommand_iff h').mp hadds

/-! ## The commands of an installation -/

/-- A command that adds packages: its third word is a text that starts as such texts do. -/
def isInstallRun : Operation → Bool
  | .run _ [_, flag, text] _ =>
    flag == "-e" && "using Pkg; Pkg.add([".toList.isPrefixOf text.toList
  | _ => false

/-- The commands in the history of a graph that add packages. -/
def installRuns (g : Graph) : List Operation := g.operations.filter isInstallRun

/-- The command runs a text that adds the packages of the group, and no other list of packages. -/
def RunsFor (i : Installer) (run : Operation) (group : PackageGroup) : Prop :=
  ∃ label text environment, run = .run label [i.distribution.executable, "-e", text] environment ∧
    ∀ names, Adds text names ↔ names = group

/-- An accepted value that holds lists of names, and no other containers. -/
def OfLists (value : Value) : Prop :=
  ∃ items, value = .list items ∧ ∀ v ∈ items, ∃ names, v = .list names

variable {i : Installer} {g h : Graph} {t : Table String} {value : Value} {w w' : Workspace}

theorem isInstallRun_groupRun (i : Installer) (t : Table String) (group : PackageGroup) :
    isInstallRun (i.groupRun t group) = true := by
  have hopen : "using Pkg; Pkg.add([\"" = "using Pkg; Pkg.add([" ++ "\"" := by simp
  have hprefix : "using Pkg; Pkg.add([".toList <+: (installCommand group).toList := by
    unfold installCommand
    rw [hopen, String.append_assoc, String.append_assoc, String.toList_append]
    exact List.prefix_append _ _
  unfold isInstallRun Installer.groupRun
  rw [Bool.and_eq_true]
  exact ⟨beq_self_eq_true "-e", List.isPrefixOf_iff_prefix.mpr hprefix⟩

theorem not_isInstallRun_registryRun (i : Installer) (t : Table String) :
    isInstallRun (i.registryRun t) = false := by
  have htext : "using Pkg; Pkg.add([".toList.isPrefixOf registryCommand.toList = false := by decide
  rw [Installer.registryRun, isInstallRun, htext, Bool.and_false]

theorem isRun_of_isInstallRun {op : Operation} (h : isInstallRun op = true) : op.isRun = true := by
  cases op with
  | run => rfl
  | _ => cases h

/-- Of what an installation adds, one command for each group adds packages. -/
theorem filter_isInstallRun_operations :
    (i.operations groups t).filter isInstallRun = groups.map (i.groupRun (i.equipped t)) := by
  -- Of the commands only the one that adds the registry is left out.
  have hruns : (i.operations groups t).filter isInstallRun =
      ((i.operations groups t).filter Operation.isRun).filter isInstallRun := by
    rw [List.filter_filter]
    refine List.filter_congr fun op _ => ?_
    by_cases hop : isInstallRun op = true
    · rw [hop, isRun_of_isInstallRun hop]
      rfl
    · rw [Bool.not_eq_true] at hop
      rw [hop]
      rfl
  have hgroups : (groups.map (i.groupRun (i.equipped t))).filter isInstallRun =
      groups.map (i.groupRun (i.equipped t)) := by
    refine List.filter_eq_self.mpr (List.forall_mem_map.mpr fun group _ => ?_)
    exact isInstallRun_groupRun i _ group
  rw [hruns, Installer.runs_operations, List.filter_cons, not_isInstallRun_registryRun, hgroups]
  rfl

theorem installRuns_of_install {depth : Nat} (hn : PackageGroups.normalize depth value = .ok groups)
    (hi : Gives (i.install g value) w h w') :
    installRuns h = installRuns g ++ groups.map (i.groupRun (i.equipped g.environment)) := by
  have hn' : PackageGroups.normalize i.depth value = .ok groups :=
    PackageGroups.normalize_of_normalize hn
  rw [(Installer.after_of_install hn' hi).1, installRuns, operations_after, List.filter_append]
  split
  · next hnone =>
    rw [hnone]
    rfl
  · rw [filter_isInstallRun_operations]
    rfl

/-- A command that is made for a group is made for no other. -/
theorem RunsFor.unique {i i' : Installer} {run : Operation} {other : PackageGroup}
    (h : RunsFor i run group) (h' : RunsFor i' run other) : group = other := by
  obtain ⟨label, text, environment, rfl, hgroup⟩ := h
  obtain ⟨label', text', environment', heq, hother⟩ := h'
  obtain ⟨-, hwords, -⟩ := Operation.run.inj heq
  have htext : text = text' := (List.cons.inj (List.cons.inj (List.cons.inj hwords).2).2).1
  rw [← htext] at hother
  exact (hother group).mp ((hgroup group).mpr rfl)

theorem runsFor_groupRun (i : Installer) (t : Table String) (h : PackageGroups.Valid group) :
    RunsFor i (i.groupRun t group) group :=
  ⟨_, installCommand group, _, rfl, fun _ => adds_installCommand_iff h⟩

theorem eq_of_forall₂_runsFor {i i' : Installer} {runs : List Operation}
    {others : List PackageGroup} (h : List.Forall₂ (RunsFor i) runs groups)
    (h' : List.Forall₂ (RunsFor i') runs others) : groups = others := by
  induction h generalizing others with
  | nil =>
    cases h'
    rfl
  | cons hrun _ ih =>
    cases h' with
    | cons hrun' hrest => rw [hrun.unique hrun', ih hrest]

theorem eq_toValue_of_ofLists {depth : Nat} (hl : OfLists value)
    (hn : PackageGroups.normalize depth value = .ok groups) :
    value = PackageGroups.toValue groups := by
  obtain ⟨items, rfl, hitems⟩ := hl
  exact (PackageGroups.toValue_of_normalize (fun v hv => Or.inr (hitems v hv)) hn).symm

/-- The installation of accepted groups appends one command that adds packages for each of them, in
order, and the text of each command adds the packages of its group and no other list. So a command
tells its group, and installations on one graph with the same commands had the same groups. The two
values are then the same if both are lists of lists; otherwise they may differ, since an object
counts as the list of its names, and an empty text or object as no groups. -/
theorem installRuns_determine_groups {value' : Value} {groups' : List PackageGroup}
    {depth depth' : Nat} (hn : PackageGroups.normalize depth value = .ok groups)
    (hn' : PackageGroups.normalize depth' value' = .ok groups') :
    (∀ (i : Installer) (g h : Graph) (w w' : Workspace), Gives (i.install g value) w h w' →
      ∃ runs, installRuns h = installRuns g ++ runs ∧ List.Forall₂ (RunsFor i) runs groups) ∧
    (∀ group ∈ groups, ∀ other ∈ groups', installCommand group = installCommand other →
      group = other) ∧
    ∀ (i i' : Installer) (g h h' : Graph) (w w' u u' : Workspace),
      Gives (i.install g value) w h w' → Gives (i'.install g value') u h' u' →
      installRuns h = installRuns h' →
      groups = groups' ∧ (OfLists value → OfLists value' → value = value') := by
  have hvalid := PackageGroups.valid_of_normalize value groups hn
  have hvalid' := PackageGroups.valid_of_normalize value' groups' hn'
  -- What an installation adds, for any accepted value.
  have hruns : ∀ {depth value groups}, PackageGroups.normalize depth value = .ok groups →
      ∀ (i : Installer) (g h : Graph) (w w' : Workspace), Gives (i.install g value) w h w' →
      ∃ runs, installRuns h = installRuns g ++ runs ∧ List.Forall₂ (RunsFor i) runs groups := by
    intro depth value groups hn i g h w w' hi
    refine ⟨_, installRuns_of_install hn hi, ?_⟩
    rw [List.forall₂_map_left_iff, List.forall₂_same]
    have hvalid := PackageGroups.valid_of_normalize value groups hn
    exact fun group hg => runsFor_groupRun i _ (hvalid group hg)
  refine ⟨hruns hn, fun group hg other ho => ?_, ?_⟩
  · exact installCommand_injective (hvalid group hg) (hvalid' other ho)
  · intro i i' g h h' w w' u u' hi hi' heq
    obtain ⟨runs, hadded, hall⟩ := hruns hn i g h w w' hi
    obtain ⟨runs', hadded', hall'⟩ := hruns hn' i' g h' u u' hi'
    rw [hadded, hadded', List.append_cancel_left_eq] at heq
    rw [← heq] at hall'
    have hgroups := eq_of_forall₂_runsFor hall hall'
    refine ⟨hgroups, fun hl hl' => ?_⟩
    rw [eq_toValue_of_ofLists hl hn, eq_toValue_of_ofLists hl' hn', hgroups]

/-- Two groups as lists. -/
def listedGroups : Value := .list [.list [.text "JSON", .text "HTTP"], .list [.text "CSV"]]

/-- The same two, the first of them as an object. -/
def keyedGroups : Value :=
  .list [.object [("JSON", .null), ("HTTP", .null)], .list [.text "CSV"]]

/-- Two values that are installed by the same commands: they have the same groups. -/
theorem installRuns_determine_groups_two :
    ∃ (h h' : Graph) (w w' : Workspace) (runs : List Operation),
      Gives (({} : Installer).install scratch listedGroups) {} h w ∧
      Gives (({} : Installer).install scratch keyedGroups) {} h' w' ∧
      installRuns h = installRuns h' ∧ installRuns h = runs ∧
      List.Forall₂ (RunsFor {}) runs [["JSON", "HTTP"], ["CSV"]] := by
  have hn : PackageGroups.normalize 1 listedGroups = .ok [["JSON", "HTTP"], ["CSV"]] := rfl
  have hn' : PackageGroups.normalize 1 keyedGroups = .ok [["JSON", "HTTP"], ["CSV"]] := rfl
  obtain ⟨h, w, hi⟩ : ∃ h w, Gives (({} : Installer).install scratch listedGroups) {} h w :=
    ⟨_, _, rfl⟩
  obtain ⟨h', w', hi'⟩ : ∃ h w, Gives (({} : Installer).install scratch keyedGroups) {} h w :=
    ⟨_, _, rfl⟩
  obtain ⟨hruns, -, -⟩ := installRuns_determine_groups hn hn'
  obtain ⟨runs, hadded, hall⟩ := hruns {} scratch h {} w hi
  refine ⟨h, h', w, w', runs, hi, hi', ?_, hadded, hall⟩
  rw [installRuns_of_install hn hi, installRuns_of_install hn' hi']

end RuntimeImage.PackageInstall
