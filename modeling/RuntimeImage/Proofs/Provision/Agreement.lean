import RuntimeImage.Proofs.Provision.Pipeline

/-!
Provisionings one after another in one session. What the finalizer is told piles up beside the
graph that goes from call to call, and the two never come apart: what is exported is set in the
graph, what is to be writable is made there, and a service runs a script that is written there.
-/

namespace RuntimeImage

open Provisioning RuntimeImage.Graph

namespace Session

variable {s : Session} {root g h : Graph} {f : Finalizer} {w w' : Workspace}
  {retrieve : Retriever} {groups : Option Json.Value} {normalized : List PackageGroup}
  {ops : List Operation} {t : Table String}

/-- What the finalizer is told is borne out by the graph. -/
structure Agrees (s : Session) (g : Graph) (f : Finalizer) : Prop where
  exports : ∀ key value, f.exports.get? key = some value → g.envValue? key = some value
  writable : ∀ path ∈ f.writable, ∃ label mode parents,
    .makeDir label path mode parents ∈ g.operations
  services : ∀ service ∈ f.services, ∃ script label mode, service.command[1]? = some script ∧
    .makeFile label script s.mirror.serverScript mode ∈ g.operations

/-- The graphs that a session goes through from `root`, with a record that is empty at first. Each
call gets the graph that the last successful one gave. Between two calls anything but the record may
change. -/
inductive Run (s : Session) (root : Graph) : Graph → Workspace → Prop
  | fresh {w : Workspace} (hw : w.finalizer = {}) : Run s root root w
  | succeeded {g h : Graph} {w w' : Workspace} {retrieve : Retriever} {groups : Option Json.Value}
      (hr : Run s root g w) (hp : Gives (s.provision retrieve g groups) w h w') : Run s root h w'
  | failed {g : Graph} {w w' : Workspace} {retrieve : Retriever} {groups : Option Json.Value}
      {fault : Fault} (hr : Run s root g w)
      (hp : Fails (s.provision retrieve g groups) w fault w') : Run s root g w'
  | between {g : Graph} {w w' : Workspace} (hr : Run s root g w)
      (hw : w'.finalizer = w.finalizer) : Run s root g w'

theorem agrees_empty : s.Agrees g {} where
  exports _ _ hk := nomatch hk
  writable _ hp := nomatch hp
  services _ hs := nomatch hs

/-- A longer history bears out the same record, if what is exported keeps its value. -/
theorem Agrees.after (ha : s.Agrees g f)
    (hops : ∀ key value, f.exports.get? key = some value →
      (settled g.environment ops).get? key = some value) :
    s.Agrees (g.after ops) f where
  exports := hops
  writable path hp := by
    obtain ⟨label, mode, parents, hm⟩ := ha.writable path hp
    exact ⟨label, mode, parents, List.mem_append_left _ hm⟩
  services service hs := by
    obtain ⟨script, label, mode, hc, hm⟩ := ha.services service hs
    exact ⟨script, label, mode, hc, List.mem_append_left _ hm⟩

/-- `PATH` is the one variable that a provisioning changes without exporting it. -/
theorem get?_pathSetting_of_export {key value directory : String} (u : Table String)
    (hpath : f.exports.get? "PATH" = none) (hk : f.exports.get? key = some value) :
    (settled t (pathSetting u directory)).get? key = t.get? key := by
  refine get?_settled_pathSetting u ?_
  rintro rfl
  rw [hpath] at hk
  cases hk

theorem Agrees.unpacking (ha : s.Agrees g f) (hpath : f.exports.get? "PATH" = none)
    (d : Distribution) (staging : Graph) (src : String) :
    s.Agrees (g.after (Archive.unpacking d staging src g.environment)) f := by
  refine ha.after fun key value hk => ?_
  rw [Archive.settled_unpacking, get?_pathSetting_of_export _ hpath hk]
  exact ha.exports key value hk

/-- The mirror makes the directory and writes the script that the finalizer is told of. -/
theorem Agrees.mirrorOperations (ha : s.Agrees g f) :
    s.Agrees (g.after (s.mirrorSetup.operations g.environment)) (s.mirrorSetup.told f) := by
  have hafter : s.Agrees (g.after (s.mirrorSetup.operations g.environment)) f := by
    refine ha.after fun key value hk => ?_
    rw [MirrorSetup.Setup.settled_operations]
    exact ha.exports key value hk
  constructor
  · intro key value hk
    rw [MirrorSetup.Setup.exports_told] at hk
    exact hafter.exports key value hk
  · intro path hp
    rcases MirrorSetup.Setup.mem_writable_told.mp hp with hp | rfl
    · exact hafter.writable path hp
    · obtain ⟨label, hm⟩ := MirrorSetup.Setup.makeDir_mem_operations (s := s.mirrorSetup)
      exact ⟨label, 0o755, true, List.mem_append_right _ hm⟩
  · intro service hs
    rcases MirrorSetup.Setup.mem_services_told hs with hs | rfl
    · exact hafter.services service hs
    · obtain ⟨label, hm⟩ := MirrorSetup.Setup.serverScript_mem_operations (s := s.mirrorSetup)
      exact ⟨_, label, 0o644, rfl, List.mem_append_right _ hm⟩

/-- The installation sets the two variables that it exports and makes the depot; of the others it
changes `PATH` alone. -/
theorem Agrees.packageOperations (ha : s.Agrees g f) (hpath : f.exports.get? "PATH" = none)
    (i : PackageInstall.Installer) (normalized : List PackageGroup) :
    s.Agrees (g.after (i.operations normalized g.environment)) (i.told f) := by
  constructor
  · intro key value hk
    rw [PackageInstall.Installer.exports_told] at hk
    rw [envValue?, environment_after, PackageInstall.Installer.settled_operations,
      PackageInstall.Installer.equipped]
    -- The same two writes go to the exports and to the graph; before them the exports agreed.
    refine Table.get?_put_of_imp (Table.get?_put_of_imp fun hk => ?_) hk
    rw [get?_pathSetting_of_export _ hpath hk]
    exact ha.exports key value hk
  · intro path hp
    rcases PackageInstall.Installer.mem_writable_told.mp hp with hp | rfl
    · obtain ⟨label, mode, parents, hm⟩ := ha.writable path hp
      exact ⟨label, mode, parents, List.mem_append_left _ hm⟩
    · exact ⟨_, 0o755, true, List.mem_append_right _ List.mem_cons_self⟩
  · intro service hs
    rw [PackageInstall.Installer.services_told] at hs
    obtain ⟨script, label, mode, hc, hm⟩ := ha.services service hs
    exact ⟨script, label, mode, hc, List.mem_append_left _ hm⟩

theorem Agrees.mirrorTold (ha : s.Agrees g f) (normalized : List PackageGroup) :
    s.Agrees (g.after (s.mirrorOperations normalized g.environment))
      (s.mirrorTold normalized f) := by
  unfold Session.mirrorOperations Session.mirrorTold
  split
  · exact ha.mirrorOperations
  · rwa [after_nil]

theorem Agrees.packagesTold (ha : s.Agrees g f) (hpath : f.exports.get? "PATH" = none)
    (normalized : List PackageGroup) :
    s.Agrees (g.after (s.packageOperations normalized g.environment))
      (s.packagesTold normalized f) := by
  unfold Session.packageOperations Session.packagesTold
  split
  · rwa [after_nil]
  · exact ha.packageOperations hpath _ _

theorem exports_mirrorTold (s : Session) (normalized : List PackageGroup) (f : Finalizer) :
    (s.mirrorTold normalized f).exports = f.exports := by
  unfold mirrorTold
  split
  · exact MirrorSetup.Setup.exports_told _ f
  · rfl

/-- `PATH` belongs to the graph alone: no stage exports it. -/
theorem get?_exports_told (hpath : f.exports.get? "PATH" = none) :
    (s.told normalized f).exports.get? "PATH" = none := by
  unfold told packagesTold
  split
  · rwa [exports_mirrorTold]
  · rw [PackageInstall.Installer.exports_told, exports_mirrorTold,
      Table.get?_put_of_ne _ _ (by decide), Table.get?_put_of_ne _ _ (by decide)]
    exact hpath

/-- One provisioning keeps the agreement: each stage adds to the graph what it tells of. -/
theorem agrees_of_provision (ha : s.Agrees g w.finalizer)
    (hpath : w.finalizer.exports.get? "PATH" = none)
    (hp : Gives (s.provision retrieve g groups) w h w') :
    s.Agrees h w'.finalizer ∧ w'.finalizer.exports.get? "PATH" = none := by
  obtain ⟨normalized, staging, src, R, M, K, -, rfl, rfl, rfl, rfl, hf⟩ := after_of_provision hp
  rw [hf]
  refine ⟨?_, get?_exports_told hpath⟩
  rw [← after_after, ← after_after, settled_append]
  have hunpacked := ha.unpacking hpath s.distribution staging src
  have hmirrored := hunpacked.mirrorTold normalized
  exact hmirrored.packagesTold (by rwa [exports_mirrorTold]) normalized

theorem agrees_of_run (hr : s.Run root g w) :
    s.Agrees g w.finalizer ∧ w.finalizer.exports.get? "PATH" = none := by
  induction hr with
  | fresh hw =>
    rw [hw]
    exact ⟨agrees_empty, rfl⟩
  | succeeded _ hp ih => exact agrees_of_provision ih.1 ih.2 hp
  -- a call that fails leaves the record alone, and its graph is never seen
  | @failed g w w' retrieve groups fault _ hp ih =>
    rw [s.atomic_provision retrieve g groups w fault w' hp]
    exact ih
  | between _ hw ih =>
    rw [hw]
    exact ih

/-- After any number of provisionings, some of them failed, what the finalizer was told in all of them
is borne out by the graph of the last that succeeded. -/
theorem agrees_after_runs (s : Session) (hr : s.Run root g w) : s.Agrees g w.finalizer :=
  (agrees_of_run hr).1

/-- A session whose mirror is a service of the finished image. -/
def persistent : Session := { mirror := { PackageMirror.default with persistService := true } }

/-- A session installs one group, fails at a package name that is none, and provisions once more
without packages. The record then has two exports, two directories and a service, and the graph that
came of two provisionings bears them out. -/
theorem agrees_after_runs_persistent :
    ∃ g w, persistent.Run Graph.scratch g w ∧
      w.finalizer.exports.length = 2 ∧ w.finalizer.writable.length = 2 ∧
      w.finalizer.services = [persistent.mirrorSetup.service] ∧ persistent.Agrees g w.finalizer := by
  have hcalls : ∃ g₁ w₁ fault w₂ g₃ w₃,
      Gives (persistent.provision Retrieval.retrieve Graph.scratch
        (some (.list [.list [.text "JSON"]]))) {} g₁ w₁ ∧
      Fails (persistent.provision Retrieval.retrieve g₁ (some (.list [.list [.text "-"]])))
        w₁ fault w₂ ∧
      Gives (persistent.provision Retrieval.retrieve g₁ none) w₂ g₃ w₃ ∧
      w₃.finalizer.exports.length = 2 ∧ w₃.finalizer.writable.length = 2 ∧
      w₃.finalizer.services = [persistent.mirrorSetup.service] :=
    ⟨_, _, _, _, _, _, rfl, rfl, rfl, rfl, rfl, rfl⟩
  obtain ⟨g₁, w₁, fault, w₂, g₃, w₃, h₁, h₂, h₃, hexports, hwritable, hservices⟩ := hcalls
  have hr : persistent.Run Graph.scratch g₃ w₃ :=
    (((Run.fresh rfl).succeeded h₁).failed h₂).succeeded h₃
  exact ⟨g₃, w₃, hr, hexports, hwritable, hservices, persistent.agrees_after_runs hr⟩

end Session

end RuntimeImage
