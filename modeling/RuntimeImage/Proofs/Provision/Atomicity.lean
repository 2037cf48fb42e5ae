import RuntimeImage.Proofs.Distribution
import RuntimeImage.Proofs.Provision.Steps
import RuntimeImage.Proofs.PackageGroups
import RuntimeImage.Provision.Session
import RuntimeImage.Graph.Lemmas

/-!
A stage that ends in a fault has told the finalizer nothing. A step may leave the finalizer alone
(`Quiet`), may be unable to fail (`Sure`), or may tell something and fail, but not both (`Atomic`).
Quiet steps in front and sure ones behind keep a step atomic; every check stands in front.
-/

namespace RuntimeImage

namespace Provisioning

variable {α β : Type} {m : Provisioning α} {f : α → Provisioning β}

/-- The step leaves what the finalizer is told as it was, whether it fails or not. -/
def Quiet (m : Provisioning α) : Prop := ∀ w, (m.run.run w).2.finalizer = w.finalizer

/-- The step gives a value in every workspace. -/
def Sure (m : Provisioning α) : Prop := ∀ w, ∃ a w', Gives m w a w'

/-- When the step fails, what the finalizer is told is as it was. -/
def Atomic (m : Provisioning α) : Prop :=
  ∀ w fault w', Fails m w fault w' → w'.finalizer = w.finalizer

theorem Quiet.atomic (h : Quiet m) : Atomic m := by
  intro w fault w' hf
  have hw := h w
  rwa [hf] at hw

theorem Sure.not_fails (h : Sure m) {w w' : Workspace} {fault : Fault} : ¬Fails m w fault w' := by
  intro hf
  obtain ⟨a, w₁, hg⟩ := h w
  cases hf.symm.trans hg

theorem Sure.atomic (h : Sure m) : Atomic m := fun _ _ _ hf => (h.not_fails hf).elim

theorem Quiet.bind (hm : Quiet m) (hf : ∀ a, Quiet (f a)) : Quiet (m >>= f) :=
  Keeps.bind hm hf

theorem Sure.bind (hm : Sure m) (hf : ∀ a, Sure (f a)) : Sure (m >>= f) := by
  intro w
  obtain ⟨a, w₁, ha⟩ := hm w
  obtain ⟨b, w₂, hb⟩ := hf a w₁
  exact ⟨b, w₂, gives_bind_iff.mpr ⟨a, w₁, ha, hb⟩⟩

/-- What comes after a sure step may rely on the value that it gave. -/
theorem Sure.bind_of_gives (hm : Sure m) (hf : ∀ w a w', Gives m w a w' → Sure (f a)) :
    Sure (m >>= f) := by
  intro w
  obtain ⟨a, w₁, ha⟩ := hm w
  obtain ⟨b, w₂, hb⟩ := hf w a w₁ ha w₁
  exact ⟨b, w₂, gives_bind_iff.mpr ⟨a, w₁, ha, hb⟩⟩

/-- What comes after a quiet step may rely on the value that it gave. -/
theorem Atomic.of_quiet (hm : Quiet m) (hf : ∀ w a w', Gives m w a w' → Atomic (f a)) :
    Atomic (m >>= f) := by
  intro w fault w' h
  have hw := hm w
  rcases fails_bind_iff.mp h with h | ⟨a, w₁, ha, hb⟩
  · rwa [h] at hw
  · rw [hf w a w₁ ha w₁ fault w' hb, ← hw, ha]

theorem Atomic.bind_sure (hm : Atomic m) (hf : ∀ a, Sure (f a)) : Atomic (m >>= f) := by
  intro w fault w' h
  rcases fails_bind_iff.mp h with h | ⟨a, w₁, -, hb⟩
  · exact hm w fault w' h
  · exact ((hf a).not_fails hb).elim

theorem quiet_pure (a : α) : Quiet (pure a : Provisioning α) := fun _ => rfl

theorem quiet_ofResult (result : Except Fault α) : Quiet (ofResult result) := fun _ => rfl

theorem quiet_record (r : LogRecord) : Quiet (record r) := fun _ => rfl

theorem quiet_warn (ws : List Warning) : Quiet (warn ws) := fun _ => rfl

theorem quiet_onFiles (action : FileTree → Except Fault α × FileTree) : Quiet (onFiles action) :=
  fun _ => rfl

theorem quiet_fetch (retrieve : Retriever) (url sha256 : String) (cacheDir : Path)
    (policy : Option Policy) : Quiet (fetch retrieve url sha256 cacheDir policy) :=
  (quiet_warn _).bind fun _ => quiet_onFiles _

theorem sure_pure (a : α) : Sure (pure a : Provisioning α) := fun w => ⟨a, w, rfl⟩

theorem sure_ofResult {result : Except Fault α} (h : ∃ a, result = .ok a) :
    Sure (ofResult result) := by
  obtain ⟨a, rfl⟩ := h
  exact fun w => ⟨a, w, rfl⟩

theorem sure_warn (ws : List Warning) : Sure (warn ws) := fun _ => ⟨(), _, rfl⟩

theorem sure_record (r : LogRecord) : Sure (record r) := fun _ => ⟨(), _, rfl⟩

theorem sure_tell (f : Finalizer → Finalizer) : Sure (tell f) := fun _ => ⟨(), _, rfl⟩

theorem sure_exportEnv {g : Graph} {key value : String} (h : ∃ g', g.addEnv key value = .ok g') :
    Sure (exportEnv g key value) :=
  (sure_tell _).bind fun _ => sure_ofResult h

end Provisioning

namespace Graph

theorem exists_run (g : Graph) {argv : List String} {name : String} {failure : ErrorCode}
    (hne : argv ≠ []) (hw : "" ∉ argv) : ∃ h, g.run argv name failure = .ok h :=
  ⟨_, run_eq_ok_iff.mpr ⟨hne, hw, rfl⟩⟩

theorem exists_copy (g source : Graph) {src dest name : String} (hs : src ≠ "") (hd : dest ≠ "") :
    ∃ h, g.copy source src dest name = .ok h :=
  ⟨_, copy_eq_ok_iff.mpr ⟨hs, hd, rfl⟩⟩

theorem exists_makeFile (g : Graph) {path content name : String} (hp : Path.isAbsolute path) :
    ∃ h, g.makeFile path content name = .ok h :=
  ⟨_, makeFile_eq_ok_iff.mpr ⟨hp, rfl⟩⟩

theorem exists_addEnv (g : Graph) {key value : String} (hne : key ≠ "")
    (he : '=' ∉ key.toList) : ∃ h, g.addEnv key value = .ok h :=
  ⟨_, addEnv_eq_ok_iff.mpr ⟨hne, he, rfl⟩⟩

theorem exists_makeDir (g : Graph) {path name : String} (hp : Path.isAbsolute path) :
    ∃ h, g.makeDir path name = .ok h :=
  ⟨_, makeDir_eq_ok_iff.mpr ⟨hp, rfl⟩⟩

theorem exists_appendPath (g : Graph) {directory : String} (hp : Path.isAbsolute directory) :
    ∃ h, g.appendPath directory = .ok h := by
  by_cases hd : directory ∈ searchEntries ((g.envValue? "PATH").getD "")
  · exact ⟨g, appendPath_eq_ok_iff.mpr ⟨hp, by rw [if_pos hd]⟩⟩
  · obtain ⟨h, hh⟩ := g.exists_addEnv (by decide : "PATH" ≠ "") (by decide)
    exact ⟨h, appendPath_eq_ok_iff.mpr ⟨hp, by rw [if_neg hd]; exact hh⟩⟩

end Graph

open Provisioning

theorem Archive.Installer.quiet_install (i : Archive.Installer) (retrieve : Retriever)
    (base : Graph) : Quiet (i.install retrieve base) := by
  have hstaged : Quiet (i.staged retrieve) := by
    unfold staged
    split
    · unfold stageCached
      refine (quiet_fetch _ _ _ _ _).bind fun _ => ?_
      dsimp only
      split
      all_goals
        refine (quiet_record _).bind fun _ => ?_
        exact (quiet_ofResult _).bind fun _ => quiet_pure _
    · unfold stageDownload
      refine (quiet_ofResult _).bind fun _ => ?_
      refine (quiet_record _).bind fun _ => ?_
      split
      · refine (quiet_ofResult _).bind fun _ => ?_
        exact (quiet_record _).bind fun _ => quiet_pure _
      · refine (quiet_warn _).bind fun _ => ?_
        exact (quiet_record _).bind fun _ => quiet_pure _
  refine hstaged.bind fun _ => ?_
  refine (quiet_ofResult _).bind fun _ => ?_
  exact (quiet_record _).bind fun _ => quiet_pure _

namespace MirrorSetup.Setup

variable (s : Setup) (g : Graph)

theorem exists_startServer : ∃ h, s.startServer g = .ok h := by
  have hexe := s.distribution.executable_ne_empty
  obtain ⟨g₁, h₁⟩ := g.exists_run (List.cons_ne_nil _ _)
    (by simp [hexe.symm, PackageMirror.registryScriptPath] :
      "" ∉ [s.distribution.executable, s.mirror.registryScriptPath])
  obtain ⟨g₂, h₂⟩ := g₁.exists_run (List.cons_ne_nil _ _)
    (by simp [launchCommand] : "" ∉ ["bash", "-c", launchCommand s.distribution.executable
      s.mirror.serverScriptPath s.mirror.serverLogPath])
  exact ⟨g₂, bind_eq_ok_iff.mpr ⟨g₁, h₁, h₂⟩⟩

/-- The part of the setup that tells the finalizer something cannot fail. -/
theorem sure_after_scripts : Sure (do
    tell (·.addWritable s.mirror.installDir)
    note "configure" "Mirror scripts written." [("dir", .text s.mirror.installDir)]
    let g ← ofResult (s.startServer g)
    if s.mirror.persistService then
      tell (·.addService s.service)
      note "start" "Mirror server recorded as a runtime service."
    else
      note "start" "Mirror server started for build-time caching only."
    return g) := by
  refine (sure_tell _).bind fun _ => ?_
  refine (sure_record _).bind fun _ => ?_
  refine (sure_ofResult (s.exists_startServer g)).bind fun _ => ?_
  split
  · refine (sure_tell _).bind fun _ => ?_
    exact (sure_record _).bind fun _ => sure_pure _
  · exact (sure_record _).bind fun _ => sure_pure _

/-- Tools and scripts are checked before the finalizer is told anything. -/
theorem atomic_configure : Atomic (s.configure g) := by
  unfold configure
  refine Atomic.of_quiet (quiet_ofResult _) fun _ g₁ _ _ => ?_
  refine Atomic.of_quiet (quiet_record _) fun _ _ _ _ => ?_
  refine Atomic.of_quiet (quiet_ofResult _) fun _ g₂ _ _ => ?_
  exact (s.sure_after_scripts g₂).atomic

end MirrorSetup.Setup

namespace PackageInstall.Installer

variable (i : Installer) (g : Graph)

theorem exists_addDepot (hdepot : Path.isAbsolute i.depotDir)
    (hbin : Path.isAbsolute i.distribution.binDir) : ∃ h, i.addDepot g = .ok h := by
  obtain ⟨g₁, h₁⟩ := g.exists_makeDir hdepot
  obtain ⟨g₂, h₂⟩ := g₁.exists_appendPath hbin
  exact ⟨g₂, bind_eq_ok_iff.mpr ⟨g₁, h₁, h₂⟩⟩

theorem exists_addRegistry : ∃ h, i.addRegistry g = .ok h := by
  unfold addRegistry
  refine g.exists_run (by simp) ?_
  simp [i.distribution.executable_ne_empty.symm, registryCommand]

theorem exists_addGroup (group : PackageGroup) : ∃ h, i.addGroup g group = .ok h := by
  have hcommand : installCommand group ≠ "" := by
    intro h
    exact absurd (String.append_eq_empty_iff.mp h).2 (by decide)
  unfold addGroup
  refine g.exists_run (by simp) ?_
  simp [i.distribution.executable_ne_empty.symm, hcommand.symm]

theorem sure_addGroups (groups : List PackageGroup) : Sure (i.addGroups g groups) := by
  induction groups generalizing g with
  | nil => exact sure_pure g
  | cons group rest ih =>
    refine (sure_ofResult (i.exists_addGroup g group)).bind fun g₁ => ?_
    exact (sure_record _).bind fun _ => ih g₁

/-- The part of an installation that tells the finalizer something cannot fail. -/
theorem sure_after_depot (groups : List PackageGroup) : Sure (do
    let g ← exportEnv g depotVariable i.depotDir
    let g ← exportEnv g serverVariable PackageMirror.address
    let g ← ofResult (i.addRegistry g)
    tell (·.addWritable i.depotDir)
    i.addGroups g groups) := by
  refine (sure_exportEnv (g.exists_addEnv (by decide) (by decide))).bind fun g₁ => ?_
  refine (sure_exportEnv (g₁.exists_addEnv (by decide) (by decide))).bind fun g₂ => ?_
  refine (sure_ofResult (i.exists_addRegistry g₂)).bind fun g₃ => ?_
  exact (sure_tell _).bind fun _ => i.sure_addGroups g₃ groups

theorem atomic_install (groups : Json.Value) : Atomic (i.install g groups) := by
  unfold install
  refine Atomic.of_quiet (quiet_ofResult _) fun _ normalized _ _ => ?_
  split
  · exact ((quiet_record _).bind fun _ => quiet_pure g).atomic
  · unfold installGroups
    refine Atomic.of_quiet (quiet_ofResult _) fun _ g₁ _ _ => ?_
    exact (i.sure_after_depot g₁ normalized).atomic

/-- Groups that were read before can be installed wherever both directories are absolute. -/
theorem sure_install (hdepot : Path.isAbsolute i.depotDir)
    (hbin : Path.isAbsolute i.distribution.binDir) {groups : Json.Value}
    (h : ∃ normalized, PackageGroups.normalize i.depth groups = .ok normalized) :
    Sure (i.install g groups) := by
  unfold install
  refine (sure_ofResult h).bind fun normalized => ?_
  split
  · exact (sure_record _).bind fun _ => sure_pure g
  · unfold installGroups
    refine (sure_ofResult (i.exists_addDepot g hdepot hbin)).bind fun g₁ => ?_
    exact i.sure_after_depot g₁ normalized

end PackageInstall.Installer

theorem Archive.Installer.isAbsolute_of_gives_install {i : Archive.Installer}
    {retrieve : Retriever} {base g : Graph} {w w' : Workspace}
    (h : Gives (i.install retrieve base) w g w') : Path.isAbsolute i.distribution.binDir := by
  unfold install at h
  obtain ⟨⟨staging, archive⟩, w₁, -, h⟩ := gives_bind_iff.mp h
  simp only [gives_ofResult_bind_iff] at h
  obtain ⟨g₁, hu, -⟩ := h
  unfold unpackInto at hu
  obtain ⟨_, -, hu⟩ := bind_eq_ok_iff.mp hu
  obtain ⟨_, -, hu⟩ := bind_eq_ok_iff.mp hu
  obtain ⟨_, -, hu⟩ := bind_eq_ok_iff.mp hu
  exact (Graph.appendPath_eq_ok_iff.mp hu).1

theorem Session.atomic_provision (s : Session) (retrieve : Retriever) (root : Graph)
    (groups : Option Json.Value) : Atomic (s.provision retrieve root groups) := by
  unfold provision
  refine Atomic.of_quiet (quiet_ofResult _) fun _ normalized _ hn => ?_
  refine Atomic.of_quiet (quiet_record _) fun _ _ _ _ => ?_
  refine Atomic.of_quiet (s.archiveInstaller.quiet_install retrieve root) fun _ g₁ _ hg => ?_
  -- The runtime's own `PATH` check has passed, so the same check of the package stage will.
  have hbin := Archive.Installer.isAbsolute_of_gives_install hg
  have hgroups := PackageGroups.normalize_toValue _ normalized (gives_ofResult_iff.mp hn).1
  refine Atomic.bind_sure ?_ fun g₂ => ?_
  · unfold configureMirror
    split
    · exact s.mirrorSetup.atomic_configure g₁
    · exact (quiet_pure g₁).atomic
  · have hdepot : Path.isAbsolute PackageInstall.defaultDepotDir := by decide
    refine (s.packageInstaller.sure_install g₂ hdepot hbin ⟨normalized, hgroups⟩).bind ?_
    intro g₃
    exact (sure_record _).bind fun _ => sure_pure g₃

/-- A session that fails, whatever the stage, leaves the exports, the writable directories and the
services as they were; so does the mirror's setup and the installation of packages on its own. -/
theorem finalizer_unchanged_of_fails (w : Workspace) :
    (∀ (s : Session) (retrieve : Retriever) (root : Graph) (groups : Option Json.Value)
        (fault : Fault) (w' : Workspace),
      Fails (s.provision retrieve root groups) w fault w' → w'.finalizer = w.finalizer) ∧
    (∀ (s : MirrorSetup.Setup) (g : Graph) (fault : Fault) (w' : Workspace),
      Fails (s.configure g) w fault w' → w'.finalizer = w.finalizer) ∧
    (∀ (i : PackageInstall.Installer) (g : Graph) (groups : Json.Value) (fault : Fault)
        (w' : Workspace),
      Fails (i.install g groups) w fault w' → w'.finalizer = w.finalizer) := by
  refine ⟨fun s retrieve root groups => ?_, fun s g => ?_, fun i g groups => ?_⟩
  · exact s.atomic_provision retrieve root groups w
  · exact s.atomic_configure g w
  · exact i.atomic_install g groups w

/-- A session fails in its second stage, at an empty setting of git, after the first stage has
succeeded; the mirror's setup fails at a relative directory, the packages at a relative depot. -/
theorem finalizer_unchanged_of_fails_late :
    ∃ w : Workspace, w.finalizer = ⟨[("HOME", "/root")], ["/data"], [{ name := "db" }]⟩ ∧
      (∃ w', Fails
          (({ mirror := { PackageMirror.default with gitUserEmail := "" } } : Session).provision
            Retrieval.retrieve Graph.scratch (some (.list [.list [.text "JSON"]])))
          w (.invalid (.command "[internal] setting git user email")) w' ∧
        w'.finalizer = w.finalizer) ∧
      (∃ w', Fails
          (({ mirror := { PackageMirror.default with installDir := "mirror" } } :
            MirrorSetup.Setup).configure Graph.scratch)
          w (.invalid (.relativePath "mkdir" "mirror")) w' ∧ w'.finalizer = w.finalizer) ∧
      ∃ w', Fails
          (({ depotDir := "depot" } : PackageInstall.Installer).install Graph.scratch
            (.list [.list [.text "JSON"]]))
          w (.invalid (.relativePath "mkdir" "depot")) w' ∧ w'.finalizer = w.finalizer := by
  let w : Workspace := { finalizer := ⟨[("HOME", "/root")], ["/data"], [{ name := "db" }]⟩ }
  have hu := finalizer_unchanged_of_fails w
  refine ⟨w, rfl, ?_, ?_, ?_⟩
  · exact Exists.imp (fun w' hf => ⟨hf, hu.1 _ _ _ _ _ w' hf⟩) (exists_fails rfl)
  · exact Exists.imp (fun w' hf => ⟨hf, hu.2.1 _ _ _ w' hf⟩) (exists_fails rfl)
  · exact Exists.imp (fun w' hf => ⟨hf, hu.2.2 _ _ _ _ w' hf⟩) (exists_fails rfl)

end RuntimeImage
