import RuntimeImage.Proofs.Provision.Steps
import RuntimeImage.Provision.Session

/-!
What provisioning does to the files: nothing, or what one fetch of the session's archive does to
them. Steps that keep the files may stand in front of the fetch and behind it, and any of them may
fail.
-/

namespace RuntimeImage

namespace Provisioning

variable {α β : Type} {m : Provisioning α} {f : α → Provisioning β}
  {change : FileTree → FileTree}

/-- The step leaves the files as they were, or as `change` makes them. -/
def Turns (change : FileTree → FileTree) (m : Provisioning α) : Prop :=
  ∀ w, (m.run.run w).2.files = w.files ∨ (m.run.run w).2.files = change w.files

theorem Keeps.turns (hm : Keeps Workspace.files m) : Turns change m := fun w => Or.inl (hm w)

theorem Keeps.bind_turns (hm : Keeps Workspace.files m) (hf : ∀ a, Turns change (f a)) :
    Turns change (m >>= f) := by
  intro w
  have hw := hm w
  rcases gives_or_fails m w with ⟨a, w₁, h⟩ | ⟨fault, w₁, h⟩
  · rw [h] at hw
    rw [run_bind_of_gives h, ← hw]
    exact hf a w₁
  · rw [h] at hw
    rw [run_bind_of_fails h]
    exact Or.inl hw

theorem Turns.bind_keeps (hm : Turns change m) (hf : ∀ a, Keeps Workspace.files (f a)) :
    Turns change (m >>= f) := by
  intro w
  have hw := hm w
  rcases gives_or_fails m w with ⟨a, w₁, h⟩ | ⟨fault, w₁, h⟩
  · rw [h] at hw
    rw [run_bind_of_gives h, hf a w₁]
    exact hw
  · rw [h] at hw
    rw [run_bind_of_fails h]
    exact hw

theorem keeps_files_pure (a : α) : Keeps Workspace.files (pure a : Provisioning α) := fun _ => rfl

theorem keeps_files_ofResult (result : Except Fault α) :
    Keeps Workspace.files (ofResult result) := fun _ => rfl

theorem keeps_files_record (r : LogRecord) : Keeps Workspace.files (record r) := fun _ => rfl

theorem keeps_files_warn (ws : List Warning) : Keeps Workspace.files (warn ws) := fun _ => rfl

theorem keeps_files_tell (told : Finalizer → Finalizer) : Keeps Workspace.files (tell told) :=
  fun _ => rfl

theorem keeps_files_exportEnv (g : Graph) (key value : String) :
    Keeps Workspace.files (exportEnv g key value) :=
  (keeps_files_tell _).bind fun _ => keeps_files_ofResult _

theorem turns_fetch (retrieve : Retriever) (url sha256 : String) (cacheDir : Path)
    (policy : Option Policy) :
    Turns (fun tree => (ArtifactCache.fetch retrieve url sha256 cacheDir policy tree).2)
      (fetch retrieve url sha256 cacheDir policy) :=
  (keeps_files_warn _).bind_turns fun _ _ => Or.inr rfl

end Provisioning

open Provisioning

namespace Archive.Installer

variable (i : Installer)

/-- The files after the archive was staged, as far as staging gets. -/
def filesStaged (retrieve : Retriever) (tree : FileTree) : FileTree :=
  match i.cacheDir with
  | some cacheDir =>
    (ArtifactCache.fetch retrieve i.distribution.url i.distribution.sha256 cacheDir
      (some i.policy) tree).2
  | none => tree

theorem keeps_files_stageDownload : Keeps Workspace.files i.stageDownload := by
  unfold stageDownload
  refine (keeps_files_ofResult _).bind fun _ => ?_
  refine (keeps_files_record _).bind fun _ => ?_
  split
  · refine (keeps_files_ofResult _).bind fun _ => ?_
    exact (keeps_files_record _).bind fun _ => keeps_files_pure _
  · refine (keeps_files_warn _).bind fun _ => ?_
    exact (keeps_files_record _).bind fun _ => keeps_files_pure _

theorem turns_staged (retrieve : Retriever) :
    Turns (i.filesStaged retrieve) (i.staged retrieve) := by
  unfold staged filesStaged
  cases i.cacheDir with
  | none => exact (i.keeps_files_stageDownload).turns
  | some cacheDir =>
    unfold stageCached
    refine (turns_fetch _ _ _ _ _).bind_keeps fun _ => ?_
    dsimp only
    split
    all_goals
      refine (keeps_files_record _).bind fun _ => ?_
      exact (keeps_files_ofResult _).bind fun _ => keeps_files_pure _

theorem turns_install (retrieve : Retriever) (base : Graph) :
    Turns (i.filesStaged retrieve) (i.install retrieve base) := by
  refine (i.turns_staged retrieve).bind_keeps fun _ => ?_
  refine (keeps_files_ofResult _).bind fun _ => ?_
  exact (keeps_files_record _).bind fun _ => keeps_files_pure _

end Archive.Installer

theorem MirrorSetup.Setup.keeps_files_configure (s : MirrorSetup.Setup) (g : Graph) :
    Keeps Workspace.files (s.configure g) := by
  unfold configure
  refine (keeps_files_ofResult _).bind fun _ => ?_
  refine (keeps_files_record _).bind fun _ => ?_
  refine (keeps_files_ofResult _).bind fun _ => ?_
  refine (keeps_files_tell _).bind fun _ => ?_
  refine (keeps_files_record _).bind fun _ => ?_
  refine (keeps_files_ofResult _).bind fun _ => ?_
  split
  · refine (keeps_files_tell _).bind fun _ => ?_
    exact (keeps_files_record _).bind fun _ => keeps_files_pure _
  · exact (keeps_files_record _).bind fun _ => keeps_files_pure _

namespace PackageInstall.Installer

variable (i : Installer) (g : Graph)

theorem keeps_files_addGroups (groups : List PackageGroup) :
    Keeps Workspace.files (i.addGroups g groups) := by
  induction groups generalizing g with
  | nil => exact keeps_files_pure g
  | cons group rest ih =>
    refine (keeps_files_ofResult _).bind fun g₁ => ?_
    exact (keeps_files_record _).bind fun _ => ih g₁

theorem keeps_files_install (groups : Json.Value) :
    Keeps Workspace.files (i.install g groups) := by
  unfold install
  refine (keeps_files_ofResult _).bind fun normalized => ?_
  split
  · exact (keeps_files_record _).bind fun _ => keeps_files_pure g
  · refine (keeps_files_ofResult _).bind fun _ => ?_
    refine (keeps_files_exportEnv _ _ _).bind fun _ => ?_
    refine (keeps_files_exportEnv _ _ _).bind fun _ => ?_
    refine (keeps_files_ofResult _).bind fun _ => ?_
    exact (keeps_files_tell _).bind fun _ => i.keeps_files_addGroups _ normalized

end PackageInstall.Installer

/-- However a session ends, its files are as they were, or as its own fetch has left them. -/
theorem Session.turns_provision (s : Session) (retrieve : Retriever) (root : Graph)
    (groups : Option Json.Value) :
    Turns (s.archiveInstaller.filesStaged retrieve) (s.provision retrieve root groups) := by
  unfold provision
  refine (keeps_files_ofResult _).bind_turns fun normalized => ?_
  refine (keeps_files_record _).bind_turns fun _ => ?_
  refine (s.archiveInstaller.turns_install retrieve root).bind_keeps fun g => ?_
  refine Keeps.bind ?_ fun g => ?_
  · unfold configureMirror
    split
    · exact s.mirrorSetup.keeps_files_configure g
    · exact keeps_files_pure g
  · refine (s.packageInstaller.keeps_files_install g _).bind fun _ => ?_
    exact (keeps_files_record _).bind fun _ => keeps_files_pure _

end RuntimeImage
