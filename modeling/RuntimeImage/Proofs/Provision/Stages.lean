import RuntimeImage.Proofs.Provision.Steps
import RuntimeImage.Proofs.Graph.Calls
import RuntimeImage.Provision.Session

/-!
What each stage does to a graph: the runtime is copied in and the graph then edited, the mirror and
the packages are edits alone. Only the runtime stage touches files, and only while it stages the
archive.
-/

namespace RuntimeImage

open Provisioning RuntimeImage.Graph

variable {retrieve : Retriever} {g h : Graph} {w w' : Workspace}

namespace Archive.Installer

variable {i : Installer} {d : Distribution} {base staging : Graph} {archive : String}

theorem edited_of_unpackInto (hu : unpackInto d base staging archive = .ok g) :
    ∃ g₁ name, base.copy staging archive d.stagingPath name = .ok g₁ ∧ Edited g₁ g := by
  unfold unpackInto at hu
  obtain ⟨g₁, h₁, hu⟩ := bind_eq_ok_iff.mp hu
  obtain ⟨g₂, h₂, hu⟩ := bind_eq_ok_iff.mp hu
  obtain ⟨g₃, h₃, hu⟩ := bind_eq_ok_iff.mp hu
  exact ⟨g₁, _, h₁, ((Edited.refl.makeDir h₂).run h₃).appendPath hu⟩

theorem gives_stageCached {cacheDir : Path}
    (hs : Gives (i.stageCached retrieve cacheDir) w (staging, archive) w') :
    ∃ cached, ArtifactCache.fetch retrieve i.distribution.url i.distribution.sha256 cacheDir
        (some i.policy) w.files = (.ok cached, w'.files) ∧
      Graph.localDir cached.parent.render = .ok staging ∧ archive = cached.name := by
  simp only [stageCached, gives_fetch_bind_iff] at hs
  obtain ⟨cached, tree, hf, hs⟩ := hs
  refine ⟨cached, ?_⟩
  split at hs
  all_goals
    simp only [note, gives_record_bind_iff, gives_ofResult_bind_iff, gives_pure_iff,
      Prod.mk.injEq] at hs
    obtain ⟨source, hg, ⟨rfl, rfl⟩, rfl⟩ := hs
    exact ⟨hf, hg, rfl⟩

/-- Without a cache directory no file is touched, and a check is added when the policy asks for
one. -/
theorem gives_stageDownload (hs : Gives i.stageDownload w (staging, archive) w') :
    ∃ g₁, downloadGraph i.distribution = .ok g₁ ∧
      (if i.policy.requireIntegrity then verifyGraph i.distribution g₁ = .ok staging
        else staging = g₁) ∧
      archive = i.distribution.stagingPath ∧ w'.files = w.files := by
  simp only [stageDownload, note, gives_record_bind_iff, gives_ofResult_bind_iff] at hs
  obtain ⟨g₁, hd, hs⟩ := hs
  refine ⟨g₁, hd, ?_⟩
  split at hs
  · next hi =>
    simp only [gives_record_bind_iff, gives_ofResult_bind_iff, gives_pure_iff,
      Prod.mk.injEq] at hs
    obtain ⟨g₂, hv, ⟨rfl, rfl⟩, rfl⟩ := hs
    exact ⟨by rwa [if_pos hi], rfl, rfl⟩
  · next hi =>
    simp only [gives_record_bind_iff, gives_warn_bind_iff, gives_pure_iff, Prod.mk.injEq] at hs
    obtain ⟨⟨rfl, rfl⟩, rfl⟩ := hs
    exact ⟨by rw [if_neg hi], rfl, rfl⟩

theorem gives_install (hi : Gives (i.install retrieve base) w g w') :
    ∃ staging archive w₁ g₁ name, Gives (i.staged retrieve) w (staging, archive) w₁ ∧
      base.copy staging archive i.distribution.stagingPath name = .ok g₁ ∧ Edited g₁ g ∧
      w'.files = w₁.files := by
  unfold install at hi
  obtain ⟨⟨staging, archive⟩, w₁, hs, hi⟩ := gives_bind_iff.mp hi
  simp only [note, gives_ofResult_bind_iff, gives_record_bind_iff, gives_pure_iff] at hi
  obtain ⟨g₂, hu, rfl, rfl⟩ := hi
  obtain ⟨g₁, name, hc, he⟩ := edited_of_unpackInto hu
  exact ⟨staging, archive, w₁, g₁, name, hs, hc, he, rfl⟩

end Archive.Installer

namespace MirrorSetup.Setup

variable {s : Setup}

theorem edited_of_addTools (ha : s.addTools g = .ok h) : Edited g h := by
  unfold addTools at ha
  obtain ⟨g₁, h₁, ha⟩ := bind_eq_ok_iff.mp ha
  obtain ⟨g₂, h₂, ha⟩ := bind_eq_ok_iff.mp ha
  obtain ⟨g₃, h₃, ha⟩ := bind_eq_ok_iff.mp ha
  exact (((Edited.refl.run h₁).run h₂).run h₃).run ha

theorem edited_of_addScripts (ha : s.addScripts g = .ok h) : Edited g h := by
  unfold addScripts at ha
  obtain ⟨g₁, h₁, ha⟩ := bind_eq_ok_iff.mp ha
  obtain ⟨g₂, h₂, ha⟩ := bind_eq_ok_iff.mp ha
  exact ((Edited.refl.makeDir h₁).makeFile h₂).makeFile ha

theorem edited_of_startServer (ha : s.startServer g = .ok h) : Edited g h := by
  unfold startServer at ha
  obtain ⟨g₁, h₁, ha⟩ := bind_eq_ok_iff.mp ha
  exact (Edited.refl.run h₁).run ha

theorem gives_configure (hc : Gives (s.configure g) w h w') :
    Edited g h ∧ w'.files = w.files := by
  simp only [configure, note, gives_ofResult_bind_iff, gives_record_bind_iff,
    gives_tell_bind_iff] at hc
  obtain ⟨g₁, h₁, g₂, h₂, g₃, h₃, hc⟩ := hc
  have he := ((edited_of_addTools h₁).trans (edited_of_addScripts h₂)).trans
    (edited_of_startServer h₃)
  split at hc
  all_goals
    simp only [gives_record_bind_iff, gives_tell_bind_iff, gives_pure_iff] at hc
    obtain ⟨rfl, rfl⟩ := hc
    exact ⟨he, rfl⟩

end MirrorSetup.Setup

namespace PackageInstall.Installer

variable {i : Installer}

theorem gives_addGroups {groups : List PackageGroup} (ha : Gives (i.addGroups g groups) w h w') :
    Edited g h ∧ w'.files = w.files := by
  induction groups generalizing g w with
  | nil =>
    obtain ⟨rfl, rfl⟩ := gives_pure_iff.mp ha
    exact ⟨Edited.refl, rfl⟩
  | cons group rest ih =>
    simp only [addGroups, note, gives_ofResult_bind_iff, gives_record_bind_iff] at ha
    obtain ⟨g₁, h₁, ha⟩ := ha
    obtain ⟨he, hf⟩ := ih ha
    exact ⟨(Edited.refl.run h₁).trans he, hf⟩

theorem edited_of_addDepot (ha : i.addDepot g = .ok h) : Edited g h := by
  unfold addDepot at ha
  obtain ⟨g₁, h₁, ha⟩ := bind_eq_ok_iff.mp ha
  exact (Edited.refl.makeDir h₁).appendPath ha

theorem gives_install {groups : Json.Value} (hi : Gives (i.install g groups) w h w') :
    Edited g h ∧ w'.files = w.files := by
  simp only [install, gives_ofResult_bind_iff] at hi
  obtain ⟨normalized, -, hi⟩ := hi
  split at hi
  · simp only [note, gives_record_bind_iff, gives_pure_iff] at hi
    obtain ⟨rfl, rfl⟩ := hi
    exact ⟨Edited.refl, rfl⟩
  · simp only [installGroups, gives_ofResult_bind_iff, gives_exportEnv_bind_iff,
      gives_tell_bind_iff] at hi
    obtain ⟨g₁, h₁, g₂, h₂, g₃, h₃, g₄, h₄, hi⟩ := hi
    obtain ⟨he, hf⟩ := gives_addGroups hi
    exact ⟨((((edited_of_addDepot h₁).addEnv h₂).addEnv h₃).run h₄).trans he, hf⟩

end PackageInstall.Installer

namespace Session

variable {s : Session} {root : Graph} {groups : Option Json.Value}

theorem gives_configureMirror {hasPackages : Bool}
    (hc : Gives (s.configureMirror hasPackages g) w h w') : Edited g h ∧ w'.files = w.files := by
  unfold configureMirror at hc
  split at hc
  · exact MirrorSetup.Setup.gives_configure hc
  · obtain ⟨rfl, rfl⟩ := gives_pure_iff.mp hc
    exact ⟨Edited.refl, rfl⟩

/-- A whole provisioning stages the archive with the files as they are, copies it in, and edits the
graph from then on. -/
theorem gives_provision (hp : Gives (s.provision retrieve root groups) w g w') :
    ∃ staging archive w₀ w₁ g₁ name, w₀.files = w.files ∧
      Gives (s.archiveInstaller.staged retrieve) w₀ (staging, archive) w₁ ∧
      root.copy staging archive s.distribution.stagingPath name = .ok g₁ ∧ Edited g₁ g ∧
      w'.files = w₁.files := by
  simp only [provision, note, gives_ofResult_bind_iff, gives_record_bind_iff] at hp
  obtain ⟨normalized, -, hp⟩ := hp
  obtain ⟨g₂, w₂, h₂, hp⟩ := gives_bind_iff.mp hp
  obtain ⟨g₃, w₃, h₃, hp⟩ := gives_bind_iff.mp hp
  obtain ⟨g₄, w₄, h₄, hp⟩ := gives_bind_iff.mp hp
  simp only [gives_record_bind_iff, gives_pure_iff] at hp
  obtain ⟨rfl, rfl⟩ := hp
  obtain ⟨staging, archive, w₁, g₁, name, hs, hc, he₁, hf₁⟩ := Archive.Installer.gives_install h₂
  obtain ⟨he₂, hf₂⟩ := gives_configureMirror h₃
  obtain ⟨he₃, hf₃⟩ := PackageInstall.Installer.gives_install h₄
  refine ⟨staging, archive, _, w₁, g₁, name, ?_, hs, hc, (he₁.trans he₂).trans he₃,
    (hf₃.trans hf₂).trans hf₁⟩
  rfl

end Session

end RuntimeImage
