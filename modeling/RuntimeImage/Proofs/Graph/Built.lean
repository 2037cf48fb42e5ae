import RuntimeImage.Proofs.Provision.Stages

/-!
The graphs that can be reached: from a source, by any number of calls and stages, with copied graphs
reached in the same way. Whatever is reached with the help of stages is already reached by calls.
-/

namespace RuntimeImage.Graph

open Provisioning

inductive Built : Graph → Prop
  | image {g : Graph} {ref : String} (hi : image ref = .ok g) : Built g
  | localDir {g : Graph} {path : String} (hl : localDir path = .ok g) : Built g
  | scratch : Built scratch
  | run {g h : Graph} {argv : List String} {name : String} {failure : ErrorCode} (hg : Built g)
      (hr : g.run argv name failure = .ok h) : Built h
  | copy {g h source : Graph} {src dest name : String} (hg : Built g) (hs : Built source)
      (hc : g.copy source src dest name = .ok h) : Built h
  | makeDir {g h : Graph} {path name : String} {mode : Int} {parents : Bool} (hg : Built g)
      (hm : g.makeDir path name mode parents = .ok h) : Built h
  | makeFile {g h : Graph} {path content name : String} {mode : Int} (hg : Built g)
      (hm : g.makeFile path content name mode = .ok h) : Built h
  | addEnv {g h : Graph} {key value : String} (hg : Built g)
      (ha : g.addEnv key value = .ok h) : Built h
  | appendPath {g h : Graph} {directory : String} (hg : Built g)
      (ha : g.appendPath directory = .ok h) : Built h
  | installRuntime {g h : Graph} {i : Archive.Installer} {retrieve : Retriever}
      {w w' : Workspace} (hg : Built g) (hi : Gives (i.install retrieve g) w h w') : Built h
  | configureMirror {g h : Graph} {s : MirrorSetup.Setup} {w w' : Workspace} (hg : Built g)
      (hc : Gives (s.configure g) w h w') : Built h
  | installPackages {g h : Graph} {i : PackageInstall.Installer} {groups : Json.Value}
      {w w' : Workspace} (hg : Built g) (hi : Gives (i.install g groups) w h w') : Built h

variable {g h : Graph}

/-- The graph that the archive is taken from is one command or two after the builder image, or a
cache directory as it is. -/
theorem grown_of_staged {i : Archive.Installer} {retrieve : Retriever} {w w' : Workspace}
    {staging : Graph} {archive : String}
    (hs : Gives (i.staged retrieve) w (staging, archive) w') : Grown staging := by
  unfold Archive.Installer.staged at hs
  split at hs
  · obtain ⟨cached, -, hl, -⟩ := Archive.Installer.gives_stageCached hs
    exact Grown.of_localDir hl
  · obtain ⟨downloaded, hd, hv, -⟩ := Archive.Installer.gives_stageDownload hs
    obtain ⟨builder, hb, hr⟩ := bind_eq_ok_iff.mp hd
    have hdownloaded := (Grown.of_image hb).edited (Edited.refl.run hr)
    split at hv
    · exact hdownloaded.edited (Edited.refl.run hv)
    · rwa [hv]

theorem Built.grown (hg : Built g) : Grown g := by
  induction hg with
  | image hi => exact Grown.of_image hi
  | localDir hl => exact Grown.of_localDir hl
  | scratch => exact Grown.scratch
  | run _ hr ih => exact ih.edited (Edited.refl.run hr)
  | copy _ _ hc ihg ihs => exact ihg.of_copy ihs hc
  | makeDir _ hm ih => exact ih.edited (Edited.refl.makeDir hm)
  | makeFile _ hm ih => exact ih.edited (Edited.refl.makeFile hm)
  | addEnv _ ha ih => exact ih.of_addEnv ha
  | appendPath _ ha ih => exact ih.of_appendPath ha
  | installRuntime _ hi ih =>
    obtain ⟨staging, archive, w₁, g₁, name, hs, hc, he, -⟩ := Archive.Installer.gives_install hi
    exact (ih.of_copy (grown_of_staged hs) hc).edited he
  | configureMirror _ hc ih => exact ih.edited (MirrorSetup.Setup.gives_configure hc).1
  | installPackages _ hi ih => exact ih.edited (PackageInstall.Installer.gives_install hi).1

end RuntimeImage.Graph
