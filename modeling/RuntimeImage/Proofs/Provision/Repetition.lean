import RuntimeImage.Proofs.ArtifactCache
import RuntimeImage.Proofs.Provision.Agreement

/-!
Provisioning again in one session. The graph of a call depends on its root and its groups: no step
reads what was recorded before it, and an archive from the cache is the one that a download would
have stored. The record keeps whatever it was told once, so telling it again changes nothing.
-/

namespace RuntimeImage

open Provisioning RuntimeImage.Graph

namespace Provisioning

variable {α β : Type} {m m' : Provisioning α} {f f' : α → Provisioning β}

/-- In any two workspaces, the steps give the same value if they give one. -/
def Alike (m m' : Provisioning α) : Prop :=
  ∀ ⦃w a w' v b v'⦄, Gives m w a w' → Gives m' v b v' → a = b

theorem Alike.bind (hm : Alike m m') (hf : ∀ a, Alike (f a) (f' a)) :
    Alike (m >>= f) (m' >>= f') := by
  intro w c w' v d v' hc hd
  obtain ⟨a, w₁, ha, hc⟩ := gives_bind_iff.mp hc
  obtain ⟨b, v₁, hb, hd⟩ := gives_bind_iff.mp hd
  cases hm ha hb
  exact hf a hc hd

theorem alike_pure (a : α) : Alike (pure a : Provisioning α) (pure a) := by
  intro w b w' v c v' hb hc
  rw [(gives_pure_iff.mp hb).1, (gives_pure_iff.mp hc).1]

theorem alike_ofResult (result : Except Fault α) : Alike (ofResult result) (ofResult result) := by
  intro w a w' v b v' ha hb
  have hresult := (gives_ofResult_iff.mp ha).1.symm.trans (gives_ofResult_iff.mp hb).1
  exact Except.ok.inj hresult

/-- A step that only changes the workspace, whatever it reads there. -/
theorem alike_unit (m m' : Provisioning Unit) : Alike m m' := fun _ _ _ _ _ _ _ _ => rfl

theorem alike_exportEnv (g : Graph) (key value : String) :
    Alike (exportEnv g key value) (exportEnv g key value) :=
  (alike_unit _ _).bind fun _ => alike_ofResult _

/-- A checked fetch answers the path that the digest names, whether the file was there or not. -/
theorem alike_fetch {policy : Policy} (hi : policy.requireIntegrity = true)
    (retrieve retrieve' : Retriever) (url sha256 : String) (cacheDir : Path) :
    Alike (fetch retrieve url sha256 cacheDir (some policy))
      (fetch retrieve' url sha256 cacheDir (some policy)) := by
  have hpath : ∀ {retrieve : Retriever} {w path w'},
      Gives (fetch retrieve url sha256 cacheDir (some policy)) w path w' →
      path = cacheDir.join sha256 := by
    intro retrieve w path w' hf
    obtain ⟨_, w₁, -, hf⟩ := gives_bind_iff.mp hf
    obtain ⟨hf, -⟩ := gives_onFiles_iff.mp hf
    exact (ArtifactCache.holds_of_fetch hi (Prod.ext hf rfl)).1
  intro w a w' v b v' ha hb
  rw [hpath ha, hpath hb]

end Provisioning

/-! No stage reads what it is about to change. -/

namespace Archive.Installer

variable {i : Installer}

theorem alike_staged (hs : i.cacheDir = none ∨ i.policy.requireIntegrity = true)
    (retrieve retrieve' : Retriever) : Alike (i.staged retrieve) (i.staged retrieve') := by
  unfold staged
  split
  · next cacheDir hc =>
    -- An unchecked fetch could answer another file each time, so the policy is needed here.
    have hi : i.policy.requireIntegrity = true := by
      rw [hc] at hs
      exact hs.resolve_left (Option.some_ne_none _)
    unfold stageCached
    refine (alike_fetch hi retrieve retrieve' _ _ _).bind fun cached => ?_
    dsimp only
    rw [if_pos hi]
    refine (alike_unit _ _).bind fun _ => ?_
    exact (alike_ofResult _).bind fun staging => alike_pure _
  · -- A download is left to the build: the graph names the URL, and nothing is retrieved.
    unfold stageDownload
    refine (alike_ofResult _).bind fun staging => ?_
    refine (alike_unit _ _).bind fun _ => ?_
    split
    · refine (alike_ofResult _).bind fun verified => ?_
      exact (alike_unit _ _).bind fun _ => alike_pure _
    · refine (alike_unit _ _).bind fun _ => ?_
      exact (alike_unit _ _).bind fun _ => alike_pure _

theorem alike_install (hs : i.cacheDir = none ∨ i.policy.requireIntegrity = true)
    (retrieve retrieve' : Retriever) (base : Graph) :
    Alike (i.install retrieve base) (i.install retrieve' base) := by
  unfold install
  refine (alike_staged hs retrieve retrieve').bind fun (staging, archive) => ?_
  refine (alike_ofResult _).bind fun g => ?_
  exact (alike_unit _ _).bind fun _ => alike_pure g

end Archive.Installer

theorem MirrorSetup.Setup.alike_configure (s : Setup) (g : Graph) :
    Alike (s.configure g) (s.configure g) := by
  unfold configure
  refine (alike_ofResult _).bind fun g₁ => ?_
  refine (alike_unit _ _).bind fun _ => ?_
  refine (alike_ofResult _).bind fun g₂ => ?_
  refine (alike_unit _ _).bind fun _ => ?_
  refine (alike_unit _ _).bind fun _ => ?_
  refine (alike_ofResult _).bind fun g₃ => ?_
  split
  · refine (alike_unit _ _).bind fun _ => ?_
    exact (alike_unit _ _).bind fun _ => alike_pure g₃
  · exact (alike_unit _ _).bind fun _ => alike_pure g₃

namespace PackageInstall.Installer

variable (i : Installer) (g : Graph)

theorem alike_addGroups (groups : List PackageGroup) :
    Alike (i.addGroups g groups) (i.addGroups g groups) := by
  induction groups generalizing g with
  | nil => exact alike_pure g
  | cons group rest ih =>
    refine (alike_ofResult _).bind fun g₁ => ?_
    exact (alike_unit _ _).bind fun _ => ih g₁

theorem alike_install (groups : Json.Value) : Alike (i.install g groups) (i.install g groups) := by
  unfold install
  refine (alike_ofResult _).bind fun normalized => ?_
  split
  · exact (alike_unit _ _).bind fun _ => alike_pure g
  · unfold installGroups
    refine (alike_ofResult _).bind fun g₁ => ?_
    refine (alike_exportEnv g₁ _ _).bind fun g₂ => ?_
    refine (alike_exportEnv g₂ _ _).bind fun g₃ => ?_
    refine (alike_ofResult _).bind fun g₄ => ?_
    exact (alike_unit _ _).bind fun _ => i.alike_addGroups g₄ normalized

end PackageInstall.Installer

theorem Session.alike_provision {s : Session}
    (hs : s.cacheDir = none ∨ s.policy.requireIntegrity = true) (retrieve retrieve' : Retriever)
    (root : Graph) (groups : Option Json.Value) :
    Alike (s.provision retrieve root groups) (s.provision retrieve' root groups) := by
  unfold provision
  refine (alike_ofResult _).bind fun normalized => ?_
  refine (alike_unit _ _).bind fun _ => ?_
  refine Alike.bind (Archive.Installer.alike_install hs retrieve retrieve' root) fun g₁ => ?_
  have hmirror : Alike (s.configureMirror (!normalized.isEmpty) g₁)
      (s.configureMirror (!normalized.isEmpty) g₁) := by
    unfold configureMirror
    split
    · exact s.mirrorSetup.alike_configure g₁
    · exact alike_pure g₁
  refine hmirror.bind fun g₂ => ?_
  refine (s.packageInstaller.alike_install g₂ _).bind fun g₃ => ?_
  exact (alike_unit _ _).bind fun _ => alike_pure g₃

/-! What is recorded stays recorded, and is not recorded twice. -/

/-- The record has everything that the setup of a mirror tells it. -/
structure MirrorSetup.Setup.Recorded (s : Setup) (f : Finalizer) : Prop where
  writable : s.mirror.installDir ∈ f.writable
  service : s.mirror.persistService = true → f.HasService s.service.name

namespace MirrorSetup.Setup

variable {s : Setup} {f : Finalizer}

theorem Recorded.told_eq (h : s.Recorded f) : s.told f = f := by
  unfold told
  rw [Finalizer.addWritable_of_mem h.writable]
  split
  · next hp => exact Finalizer.addService_of_hasService (h.service hp)
  · rfl

theorem recorded_told (s : Setup) (f : Finalizer) : s.Recorded (s.told f) := by
  constructor
  · exact mem_writable_told.mpr (Or.inr rfl)
  · intro hp
    rw [told, if_pos hp]
    exact Finalizer.hasService_addService s.service

end MirrorSetup.Setup

/-- The record has everything that an installation of packages tells it. -/
structure PackageInstall.Installer.Recorded (i : Installer) (f : Finalizer) : Prop where
  depot : f.exports.get? depotVariable = some i.depotDir
  server : f.exports.get? serverVariable = some PackageMirror.address
  writable : i.depotDir ∈ f.writable

namespace PackageInstall.Installer

variable {i : Installer} {f : Finalizer}

theorem Recorded.told_eq (h : i.Recorded f) : i.told f = f := by
  rw [told, Finalizer.exportVariable_of_get? h.depot, Finalizer.exportVariable_of_get? h.server]
  exact Finalizer.addWritable_of_mem h.writable

theorem recorded_told (i : Installer) (f : Finalizer) : i.Recorded (i.told f) := by
  constructor
  · rw [exports_told, Table.get?_put_of_ne _ _ (by decide), Table.get?_put_self]
  · rw [exports_told, Table.get?_put_self]
  · exact mem_writable_told.mpr (Or.inr rfl)

end PackageInstall.Installer

/-- An installation of packages takes nothing back that a mirror has told. -/
theorem MirrorSetup.Setup.Recorded.packages {s : Setup} {f : Finalizer} (h : s.Recorded f)
    (i : PackageInstall.Installer) : s.Recorded (i.told f) := by
  constructor
  · exact PackageInstall.Installer.mem_writable_told.mpr (Or.inl h.writable)
  · intro hp
    rw [Finalizer.HasService, PackageInstall.Installer.services_told]
    exact h.service hp

/-- The setup of a mirror takes nothing back that an installation of packages has told. -/
theorem PackageInstall.Installer.Recorded.mirror {i : Installer} {f : Finalizer}
    (h : i.Recorded f) (s : MirrorSetup.Setup) : i.Recorded (s.told f) := by
  constructor
  · rw [MirrorSetup.Setup.exports_told]
    exact h.depot
  · rw [MirrorSetup.Setup.exports_told]
    exact h.server
  · exact MirrorSetup.Setup.mem_writable_told.mpr (Or.inl h.writable)

namespace Session

variable {s : Session} {normalized other : List PackageGroup} {f : Finalizer}
  {start w w' : Workspace} {calls : List (Option Json.Value)} {groups : Option Json.Value}
  {retrieve : Retriever} {root g : Graph}

/-- The record has everything that a provisioning with these groups tells it. -/
structure Recorded (s : Session) (normalized : List PackageGroup) (f : Finalizer) : Prop where
  mirror : s.NeedsMirror normalized → s.mirrorSetup.Recorded f
  packages : normalized ≠ [] → s.packageInstaller.Recorded f

theorem Recorded.told_eq (h : s.Recorded normalized f) : s.told normalized f = f := by
  have hmirror : s.mirrorTold normalized f = f := by
    unfold mirrorTold
    split
    · next hn => exact (h.mirror hn).told_eq
    · rfl
  rw [told, hmirror, packagesTold]
  split
  · rfl
  · next hn => exact (h.packages hn).told_eq

theorem recorded_told (s : Session) (normalized : List PackageGroup) (f : Finalizer) :
    s.Recorded normalized (s.told normalized f) := by
  unfold told
  constructor
  · intro hn
    rw [mirrorTold, if_pos hn]
    -- The packages come after the mirror, and must not take back what it told.
    have hmirror := s.mirrorSetup.recorded_told f
    unfold packagesTold
    split
    · exact hmirror
    · exact hmirror.packages s.packageInstaller
  · intro hn
    rw [packagesTold, if_neg hn]
    exact s.packageInstaller.recorded_told _

/-- A provisioning with other groups takes nothing back. -/
theorem Recorded.told (h : s.Recorded normalized f) (other : List PackageGroup) :
    s.Recorded normalized (s.told other f) := by
  have hmirror : s.Recorded normalized (s.mirrorTold other f) := by
    unfold mirrorTold
    split
    · exact ⟨fun _ => s.mirrorSetup.recorded_told f, fun hn => (h.packages hn).mirror _⟩
    · exact h
  unfold Session.told packagesTold
  split
  · exact hmirror
  · exact ⟨fun hn => (hmirror.mirror hn).packages _,
      fun _ => s.packageInstaller.recorded_told _⟩

/-- Calls of one session that succeed, each on a graph of its own; listed are their groups, the last
call first. Between two calls anything but the record may change. -/
inductive Calls (s : Session) (start : Workspace) :
    List (Option Json.Value) → Workspace → Prop
  | start : Calls s start [] start
  | provision {calls : List (Option Json.Value)} {w w' : Workspace} {retrieve : Retriever}
      {root g : Graph} {groups : Option Json.Value} (hc : Calls s start calls w)
      (hp : Gives (s.provision retrieve root groups) w g w') : Calls s start (groups :: calls) w'
  | between {calls : List (Option Json.Value)} {w w' : Workspace} (hc : Calls s start calls w)
      (hw : w'.finalizer = w.finalizer) : Calls s start calls w'

/-- Along a sequence of calls the record has what each of them told. -/
theorem recorded_of_calls (hc : s.Calls start calls w) (hm : groups ∈ calls) :
    ∃ normalized,
      PackageGroups.normalize s.depth (groups.getD (PackageGroups.toValue s.groups)) =
        .ok normalized ∧
      s.Recorded normalized w.finalizer := by
  induction hc with
  | start => cases hm
  | provision _ hp ih =>
    obtain ⟨last, _, _, _, _, _, hlast, _, _, _, _, hf⟩ := after_of_provision hp
    rw [hf]
    -- Either this call has the groups, or an earlier one had and nothing was taken back since.
    rcases List.mem_cons.mp hm with rfl | hm
    · exact ⟨last, hlast, s.recorded_told last _⟩
    · obtain ⟨normalized, hn, hr⟩ := ih hm
      exact ⟨normalized, hn, hr.told last⟩
  | between _ hw ih =>
    rw [hw]
    exact ih hm

/-- Whatever calls a session has made, one more gives the graph that a call with the same root and
groups gives in any other workspace; and if one of the calls had the same groups, the record stays
exactly as it is. -/
theorem provision_repeats (hs : s.cacheDir = none ∨ s.policy.requireIntegrity = true)
    (hc : s.Calls start calls w) (hp : Gives (s.provision retrieve root groups) w g w') :
    (∀ (retrieve' : Retriever) (v v' : Workspace) (h : Graph),
      Gives (s.provision retrieve' root groups) v h v' → h = g) ∧
    (groups ∈ calls → w'.finalizer = w.finalizer) := by
  constructor
  · intro retrieve' v v' h hh
    exact alike_provision hs retrieve' retrieve root groups hh hp
  · intro hm
    obtain ⟨normalized, hn, hr⟩ := recorded_of_calls hc hm
    obtain ⟨last, _, _, _, _, _, hlast, _, _, _, _, hf⟩ := after_of_provision hp
    cases hn.symm.trans hlast
    rw [hf]
    exact hr.told_eq

/-- A session installs one group twice on the same root, and between the two others on another root,
all on top of a record with an export and a service of its own. -/
theorem provision_repeats_persistent :
    ∃ (g₁ g₂ g₃ : Graph) (w w₁ w₂ w₃ : Workspace),
      w.finalizer = ⟨[("JULIA_PKG_SERVER", "")], [], [{ name := "db" }]⟩ ∧
      Gives (persistent.provision Retrieval.retrieve scratch
        (some (PackageGroups.toValue [["JSON"]]))) w g₁ w₁ ∧
      Gives (persistent.provision Retrieval.retrieve ⟨⟨.localDir, "base"⟩, [], []⟩
        (some (PackageGroups.toValue [["CSV"], ["Plots"]]))) w₁ g₂ w₂ ∧
      Gives (persistent.provision Retrieval.retrieve scratch
        (some (PackageGroups.toValue [["JSON"]]))) w₂ g₃ w₃ ∧
      w₁.finalizer.services.length = 2 ∧ g₃ = g₁ ∧ w₃.finalizer = w₂.finalizer := by
  let w : Workspace := { finalizer := ⟨[("JULIA_PKG_SERVER", "")], [], [{ name := "db" }]⟩ }
  obtain ⟨g₁, w₁, h₁, hservices⟩ : ∃ g₁ w₁, Gives (persistent.provision Retrieval.retrieve scratch
      (some (PackageGroups.toValue [["JSON"]]))) w g₁ w₁ ∧
      w₁.finalizer.services.length = 2 := ⟨_, _, rfl, rfl⟩
  -- The calls that follow run in a workspace of which nothing needs to be known.
  obtain ⟨g₂, w₂, h₂⟩ : ∃ g₂ w₂, Gives (persistent.provision Retrieval.retrieve
      ⟨⟨.localDir, "base"⟩, [], []⟩ (some (PackageGroups.toValue [["CSV"], ["Plots"]])))
      w₁ g₂ w₂ := ⟨_, _, rfl⟩
  obtain ⟨g₃, w₃, h₃⟩ : ∃ g₃ w₃, Gives (persistent.provision Retrieval.retrieve scratch
      (some (PackageGroups.toValue [["JSON"]]))) w₂ g₃ w₃ := ⟨_, _, rfl⟩
  have hc := ((Calls.start (s := persistent)).provision h₁).provision h₂
  obtain ⟨hgraph, hrecord⟩ := provision_repeats (Or.inl rfl) hc h₃
  have hunchanged : w₃.finalizer = w₂.finalizer := hrecord (by simp)
  exact ⟨g₁, g₂, g₃, w, w₁, w₂, w₃, rfl, h₁, h₂, h₃, hservices, (hgraph _ _ _ _ h₁).symm,
    hunchanged⟩

end Session

end RuntimeImage
