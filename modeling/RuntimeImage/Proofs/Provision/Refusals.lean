import RuntimeImage.Proofs.PackageGroups.Offenders
import RuntimeImage.Proofs.Provision.Pipeline

/-!
What a session without a cache directory refuses. Its distribution was checked when it was made, and
whatever the stages derive from one that passed (commands, paths, the search path) passes the checks
of the calls on graphs. What remains are the groups themselves and, when the mirror is needed, two
settings of git and the directory of the mirror.
-/

namespace RuntimeImage

open Provisioning RuntimeImage.Graph

namespace Provisioning

variable {α β : Type} {m : Provisioning α} {f : α → Provisioning β} {why why' : Invalid → Prop}

/-- In every workspace the step ends in a validation fault, for one of these reasons. -/
def Refused (why : Invalid → Prop) (m : Provisioning α) : Prop :=
  ∀ w, ∃ reason w', why reason ∧ Fails m w (.invalid reason) w'

theorem Refused.mono (h : Refused why m) (hwhy : ∀ reason, why reason → why' reason) :
    Refused why' m := by
  intro w
  obtain ⟨reason, w', hr, hf⟩ := h w
  exact ⟨reason, w', hwhy reason hr, hf⟩

theorem Refused.bind (h : Refused why m) : Refused why (m >>= f) := by
  intro w
  obtain ⟨reason, w', hr, hf⟩ := h w
  exact ⟨reason, w', hr, fails_bind_iff.mpr (Or.inl hf)⟩

theorem Sure.bind_refused (hm : Sure m) (hf : ∀ a, Refused why (f a)) :
    Refused why (m >>= f) := by
  intro w
  obtain ⟨a, w₁, ha⟩ := hm w
  obtain ⟨reason, w', hr, hfails⟩ := hf a w₁
  exact ⟨reason, w', hr, fails_bind_iff.mpr (Or.inr ⟨a, w₁, ha, hfails⟩)⟩

theorem refused_ofResult {result : Except Fault α}
    (h : ∃ reason, why reason ∧ result = .error (.invalid reason)) :
    Refused why (ofResult result) := by
  obtain ⟨reason, hr, rfl⟩ := h
  exact fun w => ⟨reason, w, hr, rfl⟩

theorem ofResult_ok_bind (a : α) : ofResult (.ok a) >>= f = f a := rfl

end Provisioning

namespace Archive.Installer

variable {i : Installer} {d : Distribution}

theorem exists_downloadGraph (hd : d.Usable) : ∃ g, downloadGraph d = .ok g := by
  obtain ⟨builder, hb⟩ : ∃ builder, Graph.image builderImage = .ok builder := ⟨_, rfl⟩
  have hargv : "" ∉ ["curl", "-fsSL", d.url, "-o", d.stagingPath] := by
    simp [hd.url.symm, d.stagingPath_ne_empty.symm]
  exact exists_bind_eq_ok ⟨builder, hb⟩ fun g => g.exists_run (List.cons_ne_nil _ _) hargv

theorem exists_verifyGraph (d : Distribution) (g : Graph) : ∃ h, verifyGraph d g = .ok h := by
  have hargv : "" ∉ ["sh", "-c", verifyCommand d.sha256 d.stagingPath] := by simp [verifyCommand]
  exact g.exists_run (List.cons_ne_nil _ _) hargv

theorem exists_unpackInto (hd : d.Usable) (base staging : Graph) {archive : String}
    (ha : archive ≠ "") : ∃ g, unpackInto d base staging archive = .ok g := by
  have hargv : "" ∉ ["bash", "-c", unpackCommand d.stagingPath d.installRoot] := by
    simp [unpackCommand]
  unfold unpackInto
  refine exists_bind_eq_ok (base.exists_copy staging ha d.stagingPath_ne_empty) fun g₁ => ?_
  refine exists_bind_eq_ok (g₁.exists_makeDir hd.installRoot) fun g₂ => ?_
  refine exists_bind_eq_ok (g₂.exists_run (List.cons_ne_nil _ _) hargv) fun g₃ => ?_
  exact g₃.exists_appendPath hd.binDir

theorem sure_stageDownload (hd : i.distribution.Usable) : Sure i.stageDownload := by
  unfold stageDownload
  refine (sure_ofResult (exists_downloadGraph hd)).bind fun g => ?_
  refine (sure_record _).bind fun _ => ?_
  split
  · refine (sure_ofResult (exists_verifyGraph i.distribution g)).bind fun _ => ?_
    exact (sure_record _).bind fun _ => sure_pure _
  · refine (sure_warn _).bind fun _ => ?_
    exact (sure_record _).bind fun _ => sure_pure _

/-- Without a cache directory nothing can keep the runtime from being installed. -/
theorem sure_install (hd : i.distribution.Usable) (hc : i.cacheDir = none)
    (retrieve : Retriever) (base : Graph) : Sure (i.install retrieve base) := by
  have hstaged : i.staged retrieve = i.stageDownload := by
    unfold staged
    rw [hc]
  unfold install
  rw [hstaged]
  refine (sure_stageDownload hd).bind_of_gives ?_
  rintro w ⟨staging, archive⟩ w' hs
  obtain ⟨-, -, -, rfl, -⟩ := gives_stageDownload hs
  have hu := exists_unpackInto hd base staging i.distribution.stagingPath_ne_empty
  refine (sure_ofResult hu).bind fun g => ?_
  exact (sure_record _).bind fun _ => sure_pure g

end Archive.Installer

namespace MirrorSetup.Setup

/-- Why a mirror is not set up. -/
inductive Refuses (s : Setup) : Invalid → Prop
  | gitUserName (h : s.mirror.gitUserName = "") :
    Refuses s (.command "[internal] setting git user name")
  | gitUserEmail (h : s.mirror.gitUserEmail = "") :
    Refuses s (.command "[internal] setting git user email")
  | installDir (h : s.mirror.installDir.toList.head? ≠ some '/') :
    Refuses s (.relativePath "mkdir" s.mirror.installDir)

variable (s : Setup) (g : Graph)

theorem exists_refuses_iff :
    (∃ reason, s.Refuses reason) ↔
      s.mirror.gitUserName = "" ∨ s.mirror.gitUserEmail = "" ∨
        s.mirror.installDir.toList.head? ≠ some '/' := by
  constructor
  · rintro ⟨reason, hr⟩
    cases hr with
    | gitUserName h => exact Or.inl h
    | gitUserEmail h => exact Or.inr (Or.inl h)
    | installDir h => exact Or.inr (Or.inr h)
  · rintro (h | h | h)
    · exact ⟨_, .gitUserName h⟩
    · exact ⟨_, .gitUserEmail h⟩
    · exact ⟨_, .installDir h⟩

/-- The tools are installed, or a setting of git is empty and is the one reported. -/
theorem addTools_cases :
    (s.mirror.gitUserName ≠ "" ∧ s.mirror.gitUserEmail ≠ "" ∧ ∃ h, s.addTools g = .ok h) ∨
      ∃ reason, s.Refuses reason ∧ s.addTools g = .error (.invalid reason) := by
  have hgit : "" ∉ ["bash", "-c",
      "apt-get update && apt-get install -y --no-install-recommends git" ++
        " && rm -rf /var/lib/apt/lists/*"] := by decide
  unfold addTools
  -- Of the four commands, the second and third alone hold settings as words of their own.
  by_cases hname : s.mirror.gitUserName = ""
  · refine Or.inr ⟨_, .gitUserName hname, ?_⟩
    refine bind_eq_error_of_ok (g.exists_run (List.cons_ne_nil _ _) hgit) fun g₁ => ?_
    exact bind_eq_error (run_eq_error (by simp [hname]))
  have huser : "" ∉ ["git", "config", "--global", "user.name", s.mirror.gitUserName] := by
    simp [Ne.symm hname]
  by_cases hmail : s.mirror.gitUserEmail = ""
  · refine Or.inr ⟨_, .gitUserEmail hmail, ?_⟩
    refine bind_eq_error_of_ok (g.exists_run (List.cons_ne_nil _ _) hgit) fun g₁ => ?_
    refine bind_eq_error_of_ok (g₁.exists_run (List.cons_ne_nil _ _) huser) fun g₂ => ?_
    exact bind_eq_error (run_eq_error (by simp [hmail]))
  have hemail : "" ∉ ["git", "config", "--global", "user.email", s.mirror.gitUserEmail] := by
    simp [Ne.symm hmail]
  have htools : "" ∉ [s.distribution.executable, "-e", toolsCommand] := by
    have htext : toolsCommand ≠ "" := by decide
    simp [s.distribution.executable_ne_empty.symm, htext.symm]
  refine Or.inl ⟨hname, hmail, ?_⟩
  refine exists_bind_eq_ok (g.exists_run (List.cons_ne_nil _ _) hgit) fun g₁ => ?_
  refine exists_bind_eq_ok (g₁.exists_run (List.cons_ne_nil _ _) huser) fun g₂ => ?_
  refine exists_bind_eq_ok (g₂.exists_run (List.cons_ne_nil _ _) hemail) fun g₃ => ?_
  exact g₃.exists_run (List.cons_ne_nil _ _) htools

/-- The scripts are written into an absolute directory; a relative one is refused before them. -/
theorem addScripts_cases :
    (s.mirror.installDir.toList.head? = some '/' ∧ ∃ h, s.addScripts g = .ok h) ∨
      ∃ reason, s.Refuses reason ∧ s.addScripts g = .error (.invalid reason) := by
  by_cases hdir : s.mirror.installDir.toList.head? = some '/'
  · have hbelow : ∀ name, Path.isAbsolute (s.mirror.installDir ++ name) := by
      intro name
      simp [Path.isAbsolute, List.head?_append, hdir]
    have habsolute : Path.isAbsolute s.mirror.installDir := by simpa [Path.isAbsolute] using hdir
    have hregistry : Path.isAbsolute s.mirror.registryScriptPath := by
      rw [PackageMirror.registryScriptPath, String.append_assoc]
      exact hbelow _
    have hserver : Path.isAbsolute s.mirror.serverScriptPath := by
      rw [PackageMirror.serverScriptPath, String.append_assoc]
      exact hbelow _
    refine Or.inl ⟨hdir, ?_⟩
    unfold addScripts
    refine exists_bind_eq_ok (g.exists_makeDir habsolute) fun g₁ => ?_
    exact exists_bind_eq_ok (g₁.exists_makeFile hregistry) fun g₂ => g₂.exists_makeFile hserver
  · have hrelative : ¬Path.isAbsolute s.mirror.installDir := by simpa [Path.isAbsolute] using hdir
    exact Or.inr ⟨_, .installDir hdir, bind_eq_error (makeDir_eq_error hrelative)⟩

theorem configure_cases :
    Sure (s.configure g) ∧ (∀ reason, ¬s.Refuses reason) ∨
      Refused s.Refuses (s.configure g) := by
  unfold configure
  rcases s.addTools_cases g with ⟨hname, hmail, g₁, h₁⟩ | hfault
  · rw [h₁, ofResult_ok_bind]
    rcases s.addScripts_cases g₁ with ⟨hdir, g₂, h₂⟩ | hfault
    · have hno : ∀ reason, ¬s.Refuses reason := by
        intro reason hr
        cases hr with
        | gitUserName h => exact hname h
        | gitUserEmail h => exact hmail h
        | installDir h => exact h hdir
      refine Or.inl ⟨?_, hno⟩
      rw [h₂, ofResult_ok_bind]
      exact (sure_record _).bind fun _ => s.sure_after_scripts g₂
    · -- The tools have been installed, and noted, when the scripts are refused.
      right
      exact (sure_record _).bind_refused fun _ => (refused_ofResult hfault).bind
  · exact Or.inr (refused_ofResult hfault).bind

end MirrorSetup.Setup

namespace Session

/-- Why a session provisions no graph: its groups are refused, or a mirror that it needs is. -/
inductive Refuses (s : Session) (groups : List PackageGroup) (reason : Invalid) : Prop
  | groups (h : PackageGroups.Refuses groups reason)
  | mirror (hn : s.NeedsMirror groups) (h : s.mirrorSetup.Refuses reason)

variable {s : Session} {groups : List PackageGroup}

theorem exists_refuses_iff :
    (∃ reason, s.Refuses groups reason) ↔
      [] ∈ groups ∨ (∃ group ∈ groups, ∃ name ∈ group, ¬PackageGroups.IsIdentifier name) ∨
        (s.policy.mirrorMode = "always" ∨ groups ≠ []) ∧
          (s.mirror.gitUserName = "" ∨ s.mirror.gitUserEmail = "" ∨
            s.mirror.installDir.toList.head? ≠ some '/') := by
  have hneeds : s.policy.mirrorMode = "always" ∨ groups ≠ [] ↔ s.NeedsMirror groups := by
    rw [NeedsMirror, List.length_pos_iff]
  have hmirror := s.mirrorSetup.exists_refuses_iff
  rw [← or_assoc, ← PackageGroups.exists_refuses_iff, hneeds]
  constructor
  · rintro ⟨reason, hr⟩
    cases hr with
    | groups h => exact Or.inl ⟨reason, h⟩
    | mirror hn h => exact Or.inr ⟨hn, hmirror.mp ⟨reason, h⟩⟩
  · rintro (⟨reason, h⟩ | ⟨hn, h⟩)
    · exact ⟨reason, .groups h⟩
    · obtain ⟨reason, hr⟩ := hmirror.mpr h
      exact ⟨reason, .mirror hn hr⟩

theorem configureMirror_cases (s : Session) (groups : List PackageGroup) (g : Graph) :
    Sure (s.configureMirror (!groups.isEmpty) g) ∧
        (∀ reason, ¬(s.NeedsMirror groups ∧ s.mirrorSetup.Refuses reason)) ∨
      Refused (fun reason => s.NeedsMirror groups ∧ s.mirrorSetup.Refuses reason)
        (s.configureMirror (!groups.isEmpty) g) := by
  unfold configureMirror
  by_cases hn : s.NeedsMirror groups
  · rw [if_pos (requiresMirror_iff.mpr hn)]
    rcases s.mirrorSetup.configure_cases g with ⟨hsure, hno⟩ | hrefused
    · exact Or.inl ⟨hsure, fun reason hr => hno reason hr.2⟩
    · exact Or.inr (hrefused.mono fun reason hr => ⟨hn, hr⟩)
  · rw [if_neg fun h => hn (requiresMirror_iff.mp h)]
    exact Or.inl ⟨sure_pure g, fun _ hr => hn hr.1⟩

/-- Whether a session without a cache directory provisions a graph does not depend on the graph, the
workspace or what can be retrieved, but on its groups and its mirror alone. -/
theorem provision_cases (hd : s.distribution.Usable) (hc : s.cacheDir = none)
    (retrieve : Retriever) (root : Graph) {value : Option Json.Value}
    (hv : value.getD (PackageGroups.toValue s.groups) = PackageGroups.toValue groups) :
    Sure (s.provision retrieve root value) ∧ (∀ reason, ¬s.Refuses groups reason) ∨
      Refused (s.Refuses groups) (s.provision retrieve root value) := by
  have hinstall : Sure (s.archiveInstaller.install retrieve root) :=
    Archive.Installer.sure_install hd hc retrieve root
  have hdepot : Path.isAbsolute PackageInstall.defaultDepotDir := by decide
  unfold provision
  rw [hv]
  dsimp only
  rcases PackageGroups.normalize_toValue_cases s.depth groups with
    ⟨hn, hvalid⟩ | ⟨reason, hr, hfault⟩
  · rw [hn, ofResult_ok_bind]
    -- The graph that the mirror is set up on is not known yet, but does not matter to it.
    by_cases hmirror : ∃ reason, s.NeedsMirror groups ∧ s.mirrorSetup.Refuses reason
    · right
      refine (sure_record _).bind_refused fun _ => ?_
      refine hinstall.bind_refused fun g => ?_
      rcases s.configureMirror_cases groups g with ⟨-, hno⟩ | hrefused
      · obtain ⟨reason, hr⟩ := hmirror
        exact absurd hr (hno reason)
      · exact (hrefused.mono fun reason hr => Refuses.mirror hr.1 hr.2).bind
    · left
      constructor
      · refine (sure_record _).bind fun _ => ?_
        refine hinstall.bind fun g => ?_
        have hconfigure : Sure (s.configureMirror (!groups.isEmpty) g) := by
          rcases s.configureMirror_cases groups g with ⟨hsure, -⟩ | hrefused
          · exact hsure
          · obtain ⟨reason, -, hr, -⟩ := hrefused {}
            exact absurd ⟨reason, hr⟩ hmirror
        refine hconfigure.bind fun g₁ => ?_
        -- The installer normalizes the groups once more, and they are accepted again.
        refine (s.packageInstaller.sure_install g₁ hdepot hd.binDir ⟨groups, hn⟩).bind fun g₂ => ?_
        exact (sure_record _).bind fun _ => sure_pure g₂
      · intro reason hr
        cases hr with
        | groups h => exact hvalid reason h
        | mirror hneeds h => exact hmirror ⟨reason, hneeds, h⟩
  · right
    exact (refused_ofResult ⟨reason, .groups hr, hfault⟩).bind

/-- A session without a cache directory, of a distribution that was accepted, fails exactly when a
group is empty, a name is no identifier, or the mirror is needed and git has an empty setting or the
mirror a relative directory. It then fails with a validation fault, for a reason that is there. -/
theorem provision_fails_iff (hd : s.distribution.validate = .ok s.distribution)
    (hc : s.cacheDir = none) (retrieve : Retriever) (root : Graph)
    (requested : Option (List PackageGroup)) (w : Workspace) :
    ((∃ fault w',
        Fails (s.provision retrieve root (requested.map PackageGroups.toValue)) w fault w') ↔
      [] ∈ requested.getD s.groups ∨
        (∃ group ∈ requested.getD s.groups, ∃ name ∈ group, ¬PackageGroups.IsIdentifier name) ∨
        (s.policy.mirrorMode = "always" ∨ requested.getD s.groups ≠ []) ∧
          (s.mirror.gitUserName = "" ∨ s.mirror.gitUserEmail = "" ∨
            s.mirror.installDir.toList.head? ≠ some '/')) ∧
    ∀ fault w', Fails (s.provision retrieve root (requested.map PackageGroups.toValue)) w fault w' →
      ∃ reason, fault = .invalid reason ∧ s.Refuses (requested.getD s.groups) reason := by
  have hv : (requested.map PackageGroups.toValue).getD (PackageGroups.toValue s.groups) =
      PackageGroups.toValue (requested.getD s.groups) := by
    cases requested <;> rfl
  rw [← exists_refuses_iff]
  rcases provision_cases (Distribution.usable_of_validate hd) hc retrieve root hv with
    ⟨hsure, hno⟩ | hrefused
  · constructor
    · constructor
      · rintro ⟨fault, w', hf⟩
        exact (hsure.not_fails hf).elim
      · rintro ⟨reason, hr⟩
        exact absurd hr (hno reason)
    · intro fault w' hf
      exact (hsure.not_fails hf).elim
  · obtain ⟨reason, w₁, hr, hfails⟩ := hrefused w
    constructor
    · exact ⟨fun _ => ⟨reason, hr⟩, fun _ => ⟨_, w₁, hfails⟩⟩
    · intro fault w' hf
      cases hfails.symm.trans hf
      exact ⟨reason, rfl, hr⟩

set_option maxRecDepth 4000 in
/-- With the mirror on demand and a relative directory for it, a session installs the runtime, but
no package; an empty group is refused too. -/
theorem provision_fails_iff_on_demand :
    ∃ s : Session, s.policy.mirrorMode = "on-demand" ∧ s.mirror.installDir = "mirror" ∧
      (∃ g w', Gives (s.provision Retrieval.retrieve Graph.scratch) {} g w') ∧
      (∃ fault w', Fails (s.provision Retrieval.retrieve Graph.scratch
        (some (PackageGroups.toValue [["JSON"]]))) {} fault w') ∧
      ∃ fault w', Fails (s.provision Retrieval.retrieve Graph.scratch
        (some (PackageGroups.toValue [["JSON", "3D"], []]))) {} fault w' := by
  let s : Session :=
    { policy := { mirrorMode := "on-demand" }
      mirror := { PackageMirror.default with installDir := "mirror" } }
  have hd : Distribution.julia.validate = .ok .julia := rfl
  have h := provision_fails_iff (s := s) hd rfl Retrieval.retrieve Graph.scratch
  refine ⟨s, rfl, rfl, ?_, ?_, ?_⟩
  · refine (gives_or_fails _ _).resolve_right fun hf => ?_
    rcases (h none {}).1.mp hf with hempty | ⟨group, hg, -⟩ | ⟨halways | hgroups, -⟩
    · cases hempty
    · cases hg
    · exact absurd halways (by decide)
    · exact hgroups rfl
  · exact (h (some [["JSON"]]) {}).1.mpr
      (Or.inr (Or.inr ⟨Or.inr (by decide), Or.inr (Or.inr (by decide))⟩))
  · exact (h (some [["JSON", "3D"], []]) {}).1.mpr (Or.inl (by decide))

end Session

end RuntimeImage
