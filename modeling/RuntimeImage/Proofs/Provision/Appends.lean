import RuntimeImage.Proofs.Graph.After
import RuntimeImage.Proofs.Finalizer

/-!
What each stage adds to a graph, operation by operation. Commands record the variables that they
meet; the lists here are therefore functions of the variables at the point where the stage starts.
-/

namespace RuntimeImage

open Provisioning RuntimeImage.Graph

variable {g h : Graph} {w w' : Workspace} {t : Table String}

namespace Archive

variable {d : Distribution} {staging : Graph} {src : String}

/-- The archive is copied in and unpacked into the install root. -/
def unpacking (d : Distribution) (staging : Graph) (src : String) (t : Table String) :
    List Operation :=
  [.copy ⟨"[internal] copying " ++ d.archiveName ++ " to /tmp", .fetch⟩ staging src d.stagingPath,
    .makeDir ⟨"[internal] creating " ++ d.installRoot ++ " folder for runtime binary", .configWrite⟩
      d.installRoot 0o755 true,
    .run ⟨"[internal] unpack runtime archive under " ++ d.installRoot, .extraction⟩
      ["bash", "-c", unpackCommand d.stagingPath d.installRoot] t.sorted] ++
  pathSetting t d.binDir

theorem settled_unpacking :
    settled t (unpacking d staging src t) = settled t (pathSetting t d.binDir) := by
  simp [unpacking]

theorem Installer.after_of_unpackInto (hu : Installer.unpackInto d g staging src = .ok h) :
    h = g.after (unpacking d staging src g.environment) := by
  unfold Installer.unpackInto at hu
  simp only [bind_eq_ok_iff, copy_eq_ok_iff_after, makeDir_eq_ok_iff_after, run_eq_ok_iff_after,
    appendPath_eq_ok_iff_after] at hu
  obtain ⟨g₁, ⟨-, -, rfl⟩, g₂, ⟨-, rfl⟩, g₃, ⟨-, -, rfl⟩, -, rfl⟩ := hu
  simp [unpacking]

end Archive

namespace MirrorSetup.Setup

variable {s : Setup}

/-- Git and the tools are installed, the scripts written, the registry generated, the server
started: nine operations, none of which sets a variable. -/
def operations (s : Setup) (t : Table String) : List Operation :=
  [.run ⟨"[internal] installing git for the package mirror", .toolInstall⟩
      ["bash", "-c", "apt-get update && apt-get install -y --no-install-recommends git" ++
        " && rm -rf /var/lib/apt/lists/*"] t.sorted,
    .run ⟨"[internal] setting git user name", .toolInstall⟩
      ["git", "config", "--global", "user.name", s.mirror.gitUserName] t.sorted,
    .run ⟨"[internal] setting git user email", .toolInstall⟩
      ["git", "config", "--global", "user.email", s.mirror.gitUserEmail] t.sorted,
    .run ⟨"[internal] installing registry and mirror tooling", .toolInstall⟩
      [s.distribution.executable, "-e", toolsCommand] t.sorted,
    .makeDir ⟨"[internal] creating " ++ s.mirror.installDir ++ " for mirror configuration",
      .configWrite⟩ s.mirror.installDir 0o755 true,
    .makeFile ⟨"[internal] writing registry generator script", .configWrite⟩
      s.mirror.registryScriptPath s.mirror.registryScript 0o644,
    .makeFile ⟨"[internal] writing mirror server script", .configWrite⟩
      s.mirror.serverScriptPath s.mirror.serverScript 0o644,
    .run ⟨"[internal] generating local package registry", .toolInstall⟩
      [s.distribution.executable, s.mirror.registryScriptPath] t.sorted,
    .run ⟨"[internal] starting package mirror at " ++ PackageMirror.address, .toolInstall⟩
      ["bash", "-c", launchCommand s.distribution.executable s.mirror.serverScriptPath
        s.mirror.serverLogPath] t.sorted]

@[simp] theorem settled_operations : settled t (s.operations t) = t := rfl

theorem makeDir_mem_operations : ∃ label, .makeDir label s.mirror.installDir 0o755 true ∈
    s.operations t := by
  simp [operations]

theorem serverScript_mem_operations : ∃ label, .makeFile label s.mirror.serverScriptPath
    s.mirror.serverScript 0o644 ∈ s.operations t := by
  simp [operations]

/-- What the finalizer is told: the directory, and the service if it is asked for. -/
def told (s : Setup) (f : Finalizer) : Finalizer :=
  if s.mirror.persistService then (f.addWritable s.mirror.installDir).addService s.service
  else f.addWritable s.mirror.installDir

@[simp] theorem exports_told (s : Setup) (f : Finalizer) : (s.told f).exports = f.exports := by
  unfold told
  split <;> simp

theorem mem_writable_told {f : Finalizer} {path : String} :
    path ∈ (s.told f).writable ↔ path ∈ f.writable ∨ path = s.mirror.installDir := by
  unfold told
  split <;> simp [Finalizer.mem_writable_addWritable]

theorem mem_services_told {f : Finalizer} {service : Service}
    (h : service ∈ (s.told f).services) : service ∈ f.services ∨ service = s.service := by
  unfold told at h
  split at h
  · simpa using Finalizer.mem_services_addService h
  · exact Or.inl (by simpa using h)

theorem after_of_addTools (ha : s.addTools g = .ok h) :
    h = g.after ((s.operations g.environment).take 4) := by
  unfold addTools at ha
  simp only [bind_eq_ok_iff, run_eq_ok_iff_after] at ha
  obtain ⟨g₁, ⟨-, -, rfl⟩, g₂, ⟨-, -, rfl⟩, g₃, ⟨-, -, rfl⟩, -, -, rfl⟩ := ha
  simp [operations]

theorem after_of_addScripts (ha : s.addScripts g = .ok h) :
    h = g.after (((s.operations g.environment).drop 4).take 3) := by
  unfold addScripts at ha
  simp only [bind_eq_ok_iff, makeDir_eq_ok_iff_after, makeFile_eq_ok_iff_after] at ha
  obtain ⟨g₁, ⟨-, rfl⟩, g₂, ⟨-, rfl⟩, -, rfl⟩ := ha
  simp [operations]

theorem after_of_startServer (ha : s.startServer g = .ok h) :
    h = g.after ((s.operations g.environment).drop 7) := by
  unfold startServer at ha
  simp only [bind_eq_ok_iff, run_eq_ok_iff_after] at ha
  obtain ⟨g₁, ⟨-, -, rfl⟩, -, -, rfl⟩ := ha
  simp [operations]

theorem after_of_configure (hc : Gives (s.configure g) w h w') :
    h = g.after (s.operations g.environment) ∧ w'.finalizer = s.told w.finalizer := by
  simp only [configure, note, gives_ofResult_bind_iff, gives_record_bind_iff,
    gives_tell_bind_iff] at hc
  obtain ⟨g₁, h₁, g₂, h₂, g₃, h₃, hc⟩ := hc
  have hg₃ : g₃ = g.after (s.operations g.environment) := by
    rw [after_of_startServer h₃, after_of_addScripts h₂, after_of_addTools h₁]
    simp [operations]
  unfold told
  split at hc
  · next hp =>
    simp only [gives_record_bind_iff, gives_tell_bind_iff, gives_pure_iff] at hc
    obtain ⟨rfl, rfl⟩ := hc
    exact ⟨hg₃, by rw [if_pos hp]⟩
  · next hp =>
    simp only [gives_record_bind_iff, gives_pure_iff] at hc
    obtain ⟨rfl, rfl⟩ := hc
    exact ⟨hg₃, by rw [if_neg hp]⟩

end MirrorSetup.Setup

namespace PackageInstall.Installer

variable {i : Installer} {group : PackageGroup} {groups : List PackageGroup}

/-- The variables that every command of the installation meets. -/
def equipped (i : Installer) (t : Table String) : Table String :=
  ((settled t (pathSetting t i.distribution.binDir)).put depotVariable i.depotDir).put
    serverVariable PackageMirror.address

def registryRun (i : Installer) (t : Table String) : Operation :=
  .run ⟨"[internal] adding package registry through " ++ PackageMirror.address, .toolInstall⟩
    [i.distribution.executable, "-e", registryCommand] t.sorted

def groupRun (i : Installer) (t : Table String) (group : PackageGroup) : Operation :=
  .run ⟨"[internal] installing packages: " ++ String.intercalate " " group, .toolInstall⟩
    [i.distribution.executable, "-e", installCommand group] t.sorted

/-- The depot is made and exported, the registry added, and each group installed in order. -/
def operations (i : Installer) (groups : List PackageGroup) (t : Table String) : List Operation :=
  .makeDir ⟨"[internal] creating folder for runtime packages", .configWrite⟩ i.depotDir 0o755 true ::
    pathSetting t i.distribution.binDir ++
    [.setEnv ⟨"env " ++ depotVariable, .validation⟩ depotVariable i.depotDir,
      .setEnv ⟨"env " ++ serverVariable, .validation⟩ serverVariable PackageMirror.address,
      i.registryRun (i.equipped t)] ++
    groups.map (i.groupRun (i.equipped t))

def told (i : Installer) (f : Finalizer) : Finalizer :=
  ((f.exportVariable depotVariable i.depotDir).exportVariable serverVariable
    PackageMirror.address).addWritable i.depotDir

theorem exports_told (i : Installer) (f : Finalizer) :
    (i.told f).exports =
      (f.exports.put depotVariable i.depotDir).put serverVariable PackageMirror.address := by
  simp [told]

theorem mem_writable_told {f : Finalizer} {path : String} :
    path ∈ (i.told f).writable ↔ path ∈ f.writable ∨ path = i.depotDir := by
  simp [told, Finalizer.mem_writable_addWritable]

@[simp] theorem services_told (i : Installer) (f : Finalizer) :
    (i.told f).services = f.services := by
  simp [told]

theorem isRun_of_mem_groupRuns : ∀ op ∈ groups.map (i.groupRun t), op.isRun := by
  simp [groupRun, Operation.isRun]

/-- The installation leaves the variables as its commands met them. -/
theorem settled_operations : settled t (i.operations groups t) = i.equipped t := by
  rw [operations, settled_append, settled_of_runs isRun_of_mem_groupRuns]
  simp [equipped, registryRun]

theorem after_of_addGroups (ha : Gives (i.addGroups g groups) w h w') :
    h = g.after (groups.map (i.groupRun g.environment)) ∧ w'.finalizer = w.finalizer := by
  induction groups generalizing g w with
  | nil =>
    obtain ⟨rfl, rfl⟩ := gives_pure_iff.mp ha
    exact ⟨after_nil.symm, rfl⟩
  | cons group rest ih =>
    simp only [addGroups, note, addGroup, gives_ofResult_bind_iff, gives_record_bind_iff,
      run_eq_ok_iff_after] at ha
    obtain ⟨g₁, ⟨-, -, rfl⟩, ha⟩ := ha
    obtain ⟨hh, hf⟩ := ih ha
    refine ⟨?_, hf⟩
    rw [hh, after_after]
    rfl

theorem after_of_installGroups (hi : Gives (i.installGroups g groups) w h w') :
    h = g.after (i.operations groups g.environment) ∧ w'.finalizer = i.told w.finalizer := by
  simp only [installGroups, addDepot, addRegistry, gives_ofResult_bind_iff, gives_exportEnv_bind_iff,
    gives_tell_bind_iff, bind_eq_ok_iff, makeDir_eq_ok_iff_after, appendPath_eq_ok_iff_after,
    addEnv_eq_ok_iff_after, run_eq_ok_iff_after] at hi
  obtain ⟨g₁, ⟨g₀, ⟨-, rfl⟩, -, rfl⟩, g₂, ⟨-, -, rfl⟩, g₃, ⟨-, -, rfl⟩, g₄, ⟨-, -, rfl⟩, hi⟩ := hi
  obtain ⟨rfl, hf⟩ := after_of_addGroups hi
  refine ⟨?_, hf⟩
  simp [operations, equipped, registryRun]

/-- An installation without groups adds nothing and tells nothing. -/
theorem after_of_install {value : Json.Value}
    (hn : PackageGroups.normalize i.depth value = .ok groups)
    (hi : Gives (i.install g value) w h w') :
    h = g.after (if groups = [] then [] else i.operations groups g.environment) ∧
      w'.finalizer = if groups = [] then w.finalizer else i.told w.finalizer := by
  simp only [install, gives_ofResult_bind_iff] at hi
  obtain ⟨normalized, hn', hi⟩ := hi
  cases hn.symm.trans hn'
  split at hi
  · next he =>
    simp only [note, gives_record_bind_iff, gives_pure_iff] at hi
    obtain ⟨rfl, rfl⟩ := hi
    simp [he]
  · next he =>
    rw [if_neg he, if_neg he]
    exact after_of_installGroups hi

end PackageInstall.Installer

end RuntimeImage
