import RuntimeImage.Proofs.Provision.Integrity
import RuntimeImage.Proofs.Provision.Pipeline

/-!
What the log tells of a provisioning. Every stage adds records of its own. A provisioning that gives
a graph has added those of its stages in order, between a first record and a last one, and what they
tell of the mirror, the packages and the check is what was put into the graph. A provisioning that
fails has not added the last one.
-/

namespace RuntimeImage

open Provisioning RuntimeImage.Graph

namespace LogRecord

/-- The stage and the step of a record. -/
def heading (r : LogRecord) : Option String × Option String := (r.stage, r.step)

/-- The stage and the step of a record, and one of its details. -/
def entry (name : String) (r : LogRecord) : (Option String × Option String) × Option Json.Value :=
  (r.heading, r.extra.bind (Table.get? · name))

/-- The record is not the one that ends a provisioning. -/
def NotDone (r : LogRecord) : Prop := r.step ≠ some "done"

end LogRecord

open LogRecord

namespace Provisioning

variable {α β : Type} {P : LogRecord → Prop} {m : Provisioning α} {f : α → Provisioning β}

/-- The log has grown by records that have the property. -/
def Grows (P : LogRecord → Prop) (w w' : Workspace) : Prop :=
  ∃ added, w'.log = w.log ++ added ∧ ∀ r ∈ added, P r

theorem Grows.trans {w₁ w₂ w₃ : Workspace} (h : Grows P w₁ w₂) (h' : Grows P w₂ w₃) :
    Grows P w₁ w₃ := by
  obtain ⟨added, hadded, hP⟩ := h
  obtain ⟨more, hmore, hP'⟩ := h'
  refine ⟨added ++ more, ?_, List.forall_mem_append.mpr ⟨hP, hP'⟩⟩
  rw [hmore, hadded, List.append_assoc]

/-- Every record that the step adds has the property, whether the step fails or not. -/
def Logs (P : LogRecord → Prop) (m : Provisioning α) : Prop := ∀ w, Grows P w (m.run.run w).2

/-- Every record that the step adds has the property, if the step fails. -/
def LogsFailing (P : LogRecord → Prop) (m : Provisioning α) : Prop :=
  ∀ w fault w', Fails m w fault w' → Grows P w w'

theorem Logs.of_keeps (h : Keeps Workspace.log m) : Logs P m := by
  intro w
  refine ⟨[], ?_, List.forall_mem_nil P⟩
  rw [h w, List.append_nil]

theorem Logs.bind (hm : Logs P m) (hf : ∀ a, Logs P (f a)) : Logs P (m >>= f) :=
  related_bind Grows.trans hm hf

theorem Logs.bind_failing (hm : Logs P m) (hf : ∀ a, LogsFailing P (f a)) :
    LogsFailing P (m >>= f) := by
  intro w fault w' h
  have hw := hm w
  rcases fails_bind_iff.mp h with h | ⟨a, w₁, ha, hb⟩
  · rwa [h] at hw
  · rw [ha] at hw
    exact hw.trans (hf a w₁ fault w' hb)

theorem Sure.logsFailing (h : Sure m) : LogsFailing P m := by
  intro w fault w' hf
  exact absurd hf h.not_fails

theorem logs_record {r : LogRecord} (h : P r) : Logs P (record r) := by
  intro w
  exact ⟨[r], rfl, List.forall_mem_singleton.mpr h⟩

/-- No stage ends a provisioning: its steps have other names. -/
theorem logs_ofStage {stage operation step message level : String}
    {details : List (String × Json.Value)} (h : step ≠ "done") :
    Logs NotDone (record (ofStage stage operation step message details level)) :=
  logs_record fun hstep => h (Option.some.inj hstep)

theorem logs_pure (a : α) : Logs P (pure a : Provisioning α) := .of_keeps fun _ => rfl

theorem logs_ofResult (result : Except Fault α) : Logs P (ofResult result) := .of_keeps fun _ => rfl

theorem logs_warn (ws : List Warning) : Logs P (warn ws) := .of_keeps fun _ => rfl

theorem logs_tell (change : Finalizer → Finalizer) : Logs P (tell change) := .of_keeps fun _ => rfl

theorem logs_exportEnv (g : Graph) (key value : String) : Logs P (exportEnv g key value) :=
  .of_keeps fun _ => rfl

/-- Fetching gives warnings, but has no records. -/
theorem keeps_log_fetch (retrieve : Retriever) (url sha256 : String) (cacheDir : Path)
    (policy : Option Policy) : Keeps Workspace.log (fetch retrieve url sha256 cacheDir policy) :=
  fun _ => rfl

theorem fails_ofResult_bind_iff {result : Except Fault α} {w w' : Workspace} {fault : Fault} :
    Fails (ofResult result >>= f) w fault w' ↔
      result = .error fault ∧ w' = w ∨ ∃ a, result = .ok a ∧ Fails (f a) w fault w' := by
  rw [fails_bind_iff]
  constructor
  · rintro (h | ⟨a, w₁, ha, hf⟩)
    · cases h
      exact Or.inl ⟨rfl, rfl⟩
    · obtain ⟨hresult, rfl⟩ := gives_ofResult_iff.mp ha
      exact Or.inr ⟨a, hresult, hf⟩
  · rintro (⟨rfl, rfl⟩ | ⟨a, rfl, hf⟩)
    · exact Or.inl rfl
    · exact Or.inr ⟨a, w, rfl, hf⟩

theorem fails_record_bind_iff {r : LogRecord} {f : Unit → Provisioning β} {w w' : Workspace}
    {fault : Fault} :
    Fails (record r >>= f) w fault w' ↔ Fails (f ()) { w with log := w.log ++ [r] } fault w' :=
  Iff.rfl

end Provisioning

/-! ## The records of each stage -/

namespace Archive.Installer

variable {i : Installer} {retrieve : Retriever} {base g staging : Graph} {archive : String}
  {w w' : Workspace}

/-- What a runtime stage tells, and of which digest: a download where one was declared, and the
digest where it is checked. -/
def traced (i : Installer) : List ((Option String × Option String) × Option Json.Value) :=
  (if i.cacheDir = none then [((some stage, some "fetch"), none)] else []) ++
    [((some stage, some "verify"),
        if i.policy.requireIntegrity then some (.text i.distribution.sha256) else none),
      ((some stage, some "unpack"), none)]

theorem log_of_staged (hs : Gives (i.staged retrieve) w (staging, archive) w') :
    ∃ records, w'.log = w.log ++ records ∧
      records.map (entry "sha256") ++ [((some stage, some "unpack"), none)] = i.traced := by
  unfold staged at hs
  unfold traced
  split at hs
  · next dir hc =>
    -- The fetch itself is not noted; the one record names the digest only where it was compared.
    rw [hc]
    simp only [stageCached, gives_fetch_bind_iff] at hs
    obtain ⟨cached, tree, -, hs⟩ := hs
    split at hs
    all_goals
      next hi =>
      simp only [note, gives_record_bind_iff, gives_ofResult_bind_iff, gives_pure_iff] at hs
      obtain ⟨-, -, -, rfl⟩ := hs
      refine ⟨_, rfl, ?_⟩
      simp only [hi]
      rfl
  · next hc =>
    -- Both records are made here, the second one in either branch.
    rw [hc]
    simp only [stageDownload, note, gives_record_bind_iff, gives_ofResult_bind_iff] at hs
    obtain ⟨g₁, -, hs⟩ := hs
    split at hs
    · next hi =>
      simp only [gives_record_bind_iff, gives_ofResult_bind_iff, gives_pure_iff] at hs
      obtain ⟨-, -, -, rfl⟩ := hs
      refine ⟨_, List.append_assoc _ _ _, ?_⟩
      rw [if_pos hi]
      rfl
    · next hi =>
      simp only [gives_record_bind_iff, gives_warn_bind_iff, gives_pure_iff] at hs
      obtain ⟨-, rfl⟩ := hs
      refine ⟨_, List.append_assoc _ _ _, ?_⟩
      rw [if_neg hi]
      rfl

/-- The runtime stage with everything that its records are about. -/
theorem log_of_install (hi : Gives (i.install retrieve base) w g w') :
    ∃ staging src records,
      g = base.after (unpacking i.distribution staging src base.environment) ∧
      w'.log = w.log ++ records ∧ records.map (entry "sha256") = i.traced ∧
      (Distribution.isDigest i.distribution.sha256 → i.policy.requireIntegrity →
        Checked i.distribution i.cacheDir w'.files staging src) := by
  unfold install at hi
  obtain ⟨⟨staging, src⟩, w₁, hs, hi⟩ := gives_bind_iff.mp hi
  simp only [note, gives_ofResult_bind_iff, gives_record_bind_iff, gives_pure_iff] at hi
  obtain ⟨h, hu, rfl, rfl⟩ := hi
  obtain ⟨records, hlog, hentries⟩ := log_of_staged hs
  have hlast (r : LogRecord) : w₁.log ++ [r] = w.log ++ (records ++ [r]) := by
    rw [hlog, List.append_assoc]
  refine ⟨staging, src, _, after_of_unpackInto hu, hlast _, ?_, ?_⟩
  · rw [List.map_append, ← hentries]
    rfl
  · intro hd hintegrity
    have hchecked := i.checked_of_staged hd hintegrity hs
    exact hchecked

theorem logs_install (i : Installer) (retrieve : Retriever) (base : Graph) :
    Logs NotDone (i.install retrieve base) := by
  have hstaged : Logs NotDone (i.staged retrieve) := by
    unfold staged
    split
    · unfold stageCached
      refine (Logs.of_keeps (keeps_log_fetch _ _ _ _ _)).bind fun _ => ?_
      dsimp only
      split
      all_goals
        refine (logs_ofStage (by decide)).bind fun _ => ?_
        exact (logs_ofResult _).bind fun _ => logs_pure _
    · unfold stageDownload
      refine (logs_ofResult _).bind fun _ => ?_
      refine (logs_ofStage (by decide)).bind fun _ => ?_
      split
      · refine (logs_ofResult _).bind fun _ => ?_
        exact (logs_ofStage (by decide)).bind fun _ => logs_pure _
      · refine (logs_warn _).bind fun _ => ?_
        exact (logs_ofStage (by decide)).bind fun _ => logs_pure _
  refine hstaged.bind fun _ => ?_
  refine (logs_ofResult _).bind fun _ => ?_
  exact (logs_ofStage (by decide)).bind fun _ => logs_pure _

/-- An archive that cannot be fetched ends the stage before it has noted anything. -/
theorem log_of_fetch_fails {dir : Path} {fault : Fault} {result : Except Fault Graph}
    (h : (i.install retrieve base).run.run w = (result, w')) (hc : i.cacheDir = some dir)
    (hf : (ArtifactCache.fetch retrieve i.distribution.url i.distribution.sha256 dir
      (some i.policy) w.files).1 = .error fault) :
    result = .error fault ∧ w'.log = w.log := by
  have hfetch : ((fetch retrieve i.distribution.url i.distribution.sha256 dir
      (some i.policy)).run.run w).1 = .error fault := hf
  obtain ⟨w₁, hfails⟩ := exists_fails hfetch
  have hlog := keeps_log_fetch retrieve i.distribution.url i.distribution.sha256 dir
    (some i.policy) w
  rw [hfails] at hlog
  have hstaged : i.staged retrieve = i.stageCached retrieve dir := by
    unfold staged
    rw [hc]
  have hinstall : Fails (i.install retrieve base) w fault w₁ := by
    unfold install
    rw [hstaged]
    exact fails_bind_iff.mpr (Or.inl (fails_bind_iff.mpr (Or.inl hfails)))
  cases h.symm.trans hinstall
  exact ⟨rfl, hlog⟩

end Archive.Installer

namespace MirrorSetup.Setup

variable {s : Setup} {g h : Graph} {w w' : Workspace}

def headings : List (Option String × Option String) :=
  [(some stage, some "tooling"), (some stage, some "configure"), (some stage, some "start")]

theorem log_of_configure (hc : Gives (s.configure g) w h w') :
    ∃ records, w'.log = w.log ++ records ∧ records.map heading = headings := by
  simp only [configure, note, gives_ofResult_bind_iff, gives_record_bind_iff,
    gives_tell_bind_iff] at hc
  obtain ⟨g₁, -, g₂, -, g₃, -, hc⟩ := hc
  split at hc
  all_goals
    simp only [gives_record_bind_iff, gives_tell_bind_iff, gives_pure_iff] at hc
    obtain ⟨-, rfl⟩ := hc
    exact ⟨_, (List.append_assoc _ _ _).trans (List.append_assoc _ _ _), rfl⟩

theorem logs_configure (s : Setup) (g : Graph) : Logs NotDone (s.configure g) := by
  unfold configure
  refine (logs_ofResult _).bind fun _ => ?_
  refine (logs_ofStage (by decide)).bind fun _ => ?_
  refine (logs_ofResult _).bind fun _ => ?_
  refine (logs_tell _).bind fun _ => ?_
  refine (logs_ofStage (by decide)).bind fun _ => ?_
  refine (logs_ofResult _).bind fun _ => ?_
  split
  · refine (logs_tell _).bind fun _ => ?_
    exact (logs_ofStage (by decide)).bind fun _ => logs_pure _
  · exact (logs_ofStage (by decide)).bind fun _ => logs_pure _

end MirrorSetup.Setup

namespace PackageInstall.Installer

variable {i : Installer} {g h : Graph} {groups : List PackageGroup} {w w' : Workspace}

/-- What an installation tells, and of which packages: each group, or that there are none. -/
def traced (groups : List PackageGroup) :
    List ((Option String × Option String) × Option Json.Value) :=
  if groups = [] then [((some stage, some "skip"), none)]
  else groups.map fun group =>
    ((some stage, some "install"), some (Finalizer.textList group))

theorem log_of_addGroups (ha : Gives (i.addGroups g groups) w h w') :
    ∃ records, w'.log = w.log ++ records ∧
      records.map (entry "packages") = groups.map fun group =>
        ((some stage, some "install"), some (Finalizer.textList group)) := by
  induction groups generalizing g w with
  | nil =>
    obtain ⟨rfl, rfl⟩ := gives_pure_iff.mp ha
    exact ⟨[], (List.append_nil _).symm, rfl⟩
  | cons group rest ih =>
    simp only [addGroups, note, gives_ofResult_bind_iff, gives_record_bind_iff] at ha
    obtain ⟨g₁, -, ha⟩ := ha
    obtain ⟨records, hlog, hentries⟩ := ih ha
    refine ⟨_, hlog.trans (List.append_assoc _ _ _), ?_⟩
    rw [List.map_append, hentries]
    rfl

theorem log_of_install {value : Json.Value}
    (hn : PackageGroups.normalize i.depth value = .ok groups)
    (hi : Gives (i.install g value) w h w') :
    ∃ records, w'.log = w.log ++ records ∧ records.map (entry "packages") = traced groups := by
  simp only [install, gives_ofResult_bind_iff] at hi
  obtain ⟨normalized, hn', hi⟩ := hi
  cases hn.symm.trans hn'
  unfold traced
  split at hi
  · next hnone =>
    simp only [note, gives_record_bind_iff, gives_pure_iff] at hi
    obtain ⟨-, rfl⟩ := hi
    exact ⟨_, rfl, by rw [if_pos hnone]; rfl⟩
  · next hsome =>
    rw [if_neg hsome]
    simp only [installGroups, gives_ofResult_bind_iff, gives_exportEnv_bind_iff,
      gives_tell_bind_iff] at hi
    obtain ⟨g₁, -, g₂, -, g₃, -, g₄, -, hi⟩ := hi
    obtain ⟨records, hlog, hentries⟩ := log_of_addGroups hi
    exact ⟨records, hlog, hentries⟩

theorem logs_addGroups (i : Installer) (g : Graph) (groups : List PackageGroup) :
    Logs NotDone (i.addGroups g groups) := by
  induction groups generalizing g with
  | nil => exact logs_pure g
  | cons group rest ih =>
    refine (logs_ofResult _).bind fun g₁ => ?_
    exact (logs_ofStage (by decide)).bind fun _ => ih g₁

theorem logs_install (i : Installer) (g : Graph) (value : Json.Value) :
    Logs NotDone (i.install g value) := by
  unfold install
  refine (logs_ofResult _).bind fun normalized => ?_
  split
  · exact (logs_ofStage (by decide)).bind fun _ => logs_pure g
  · unfold installGroups
    refine (logs_ofResult _).bind fun _ => ?_
    refine (logs_exportEnv _ _ _).bind fun _ => ?_
    refine (logs_exportEnv _ _ _).bind fun _ => ?_
    refine (logs_ofResult _).bind fun _ => ?_
    exact (logs_tell _).bind fun _ => i.logs_addGroups _ normalized

end PackageInstall.Installer

/-! ## The records of a provisioning -/

namespace Session

variable {s : Session} {retrieve : Retriever} {root g : Graph} {groups : Option Json.Value}
  {normalized : List PackageGroup} {w w' : Workspace}

/-- The records of a provisioning that gave a graph, stage by stage. -/
structure Trace (s : Session) (normalized : List PackageGroup) (operations : Nat) where
  start : LogRecord
  runtime : List LogRecord
  mirror : List LogRecord
  packages : List LogRecord
  done : LogRecord
  start_heading : start.heading = (none, some "start")
  runtime_traced : runtime.map (entry "sha256") = s.archiveInstaller.traced
  mirror_headings : mirror.map heading =
    if s.NeedsMirror normalized then MirrorSetup.Setup.headings else []
  packages_traced : packages.map (entry "packages") = PackageInstall.Installer.traced normalized
  done_traced : done.entry "operations" = ((none, some "done"), some (.int operations))

/-- All of them, in order. -/
def Trace.records {operations : Nat} (t : s.Trace normalized operations) : List LogRecord :=
  t.start :: (t.runtime ++ (t.mirror ++ (t.packages ++ [t.done])))

theorem log_of_configureMirror
    (hc : Gives (s.configureMirror (!normalized.isEmpty) root) w g w') :
    ∃ records, w'.log = w.log ++ records ∧
      records.map heading =
        if s.NeedsMirror normalized then MirrorSetup.Setup.headings else [] := by
  unfold configureMirror at hc
  split at hc
  · next hm =>
    rw [if_pos (requiresMirror_iff.mp hm)]
    exact MirrorSetup.Setup.log_of_configure hc
  · next hm =>
    rw [if_neg fun h => hm (requiresMirror_iff.mpr h)]
    obtain ⟨-, rfl⟩ := gives_pure_iff.mp hc
    exact ⟨[], (List.append_nil _).symm, rfl⟩

theorem logs_configureMirror (s : Session) (hasPackages : Bool) (g : Graph) :
    Logs NotDone (s.configureMirror hasPackages g) := by
  unfold configureMirror
  split
  · exact s.mirrorSetup.logs_configure g
  · exact logs_pure g

theorem logsFailing_provision (s : Session) (retrieve : Retriever) (root : Graph)
    (groups : Option Json.Value) : LogsFailing NotDone (s.provision retrieve root groups) := by
  have hstart : ∀ message extra, NotDone
      { operation := "provision", stage := none, step := some "start", message := message,
        extra := some extra } := by
    intro message extra h
    exact absurd (Option.some.inj h) (by decide)
  unfold provision
  refine (logs_ofResult _).bind_failing fun normalized => ?_
  refine (logs_record (hstart _ _)).bind_failing fun _ => ?_
  refine (s.archiveInstaller.logs_install retrieve root).bind_failing fun g₁ => ?_
  refine (s.logs_configureMirror _ g₁).bind_failing fun g₂ => ?_
  refine (s.packageInstaller.logs_install g₂ _).bind_failing fun g₃ => ?_
  exact ((sure_record _).bind fun _ => sure_pure g₃).logsFailing

/-- A provisioning whose archive cannot be fetched adds its first record at most. -/
theorem log_of_fetch_fails {dir : Path} {fault fault' : Fault} (hc : s.cacheDir = some dir)
    (hf : (ArtifactCache.fetch retrieve s.distribution.url s.distribution.sha256 dir
      (some s.policy) w.files).1 = .error fault)
    (hp : Fails (s.provision retrieve root groups) w fault' w') :
    w'.log = w.log ∨ ∃ start, w'.log = w.log ++ [start] ∧ start.stage = none := by
  simp only [provision, note, fails_ofResult_bind_iff, fails_record_bind_iff] at hp
  rcases hp with ⟨-, rfl⟩ | ⟨normalized, -, hp⟩
  · exact Or.inl rfl
  · -- The first record is there; what follows is the stage that fetches.
    rcases fails_bind_iff.mp hp with h | ⟨g₁, w₁, h, -⟩
    · exact Or.inr ⟨_, (Archive.Installer.log_of_fetch_fails h hc hf).2, rfl⟩
    · cases (Archive.Installer.log_of_fetch_fails h hc hf).1

/-- What a session of an accepted distribution leaves in the log. -/
theorem log_of_provision (hd : s.distribution.validate = .ok s.distribution)
    (hp : Gives (s.provision retrieve root groups) w g w') :
    ∃ (normalized : List PackageGroup) (staging : Graph) (src : String) (R M K : List Operation)
      (trace : s.Trace normalized g.operations.length),
      PackageGroups.normalize s.depth (groups.getD (PackageGroups.toValue s.groups)) =
        .ok normalized ∧
      w'.log = w.log ++ trace.records ∧
      g.operations = root.operations ++ R ++ M ++ K ∧
      R = Archive.unpacking s.distribution staging src root.environment ∧
      M = s.mirrorOperations normalized (settled root.environment R) ∧
      K = s.packageOperations normalized (settled root.environment (R ++ M)) ∧
      (s.policy.requireIntegrity = true →
        Archive.Checked s.distribution s.cacheDir w'.files staging src) := by
  simp only [provision, note, gives_ofResult_bind_iff, gives_record_bind_iff] at hp
  obtain ⟨normalized, hn, hp⟩ := hp
  obtain ⟨g₁, w₁, h₁, hp⟩ := gives_bind_iff.mp hp
  obtain ⟨g₂, w₂, h₂, hp⟩ := gives_bind_iff.mp hp
  obtain ⟨g₃, w₃, h₃, hp⟩ := gives_bind_iff.mp hp
  simp only [gives_record_bind_iff, gives_pure_iff] at hp
  obtain ⟨rfl, rfl⟩ := hp
  -- The last stage reads the groups again, from their own value, and gets the same ones.
  have hagain := PackageGroups.normalize_toValue _ normalized hn
  obtain ⟨staging, src, runtime, rfl, hlog₁, hruntime, hchecked⟩ :=
    Archive.Installer.log_of_install h₁
  obtain ⟨mirror, hlog₂, hmirror⟩ := log_of_configureMirror h₂
  obtain ⟨packages, hlog₃, hpackages⟩ := PackageInstall.Installer.log_of_install hagain h₃
  have hf₂ := (gives_configureMirror h₂).2
  have hf₃ := (PackageInstall.Installer.gives_install h₃).2
  obtain ⟨rfl, -⟩ := after_of_configureMirror h₂
  obtain ⟨rfl, -⟩ := PackageInstall.Installer.after_of_install hagain h₃
  -- The first and the last record are what the session itself notes; unification finds them.
  have hchain {start : LogRecord} (h : w₁.log = w.log ++ [start] ++ runtime) (done : LogRecord) :
      w₃.log ++ [done] = w.log ++ (start :: (runtime ++ (mirror ++ (packages ++ [done])))) := by
    rw [hlog₃, hlog₂, h]
    simp only [List.append_assoc, List.cons_append, List.nil_append]
  refine ⟨normalized, staging, src, _, _, _,
    ⟨_, runtime, mirror, packages, _, ?_, hruntime, hmirror, hpackages, ?_⟩,
    hn, hchain hlog₁ _, ?_, rfl, rfl, rfl, ?_⟩
  · rfl
  · rfl
  · simp only [operations_after, environment_after, packageOperations, settled_append]
    rfl
  · intro hi
    -- The files are those of the first stage, so what was checked there is still there.
    have hdigest := Distribution.isDigest_of_validate hd
    have hsame : w₃.files = w₁.files := hf₃.trans hf₂
    have h := hchecked hdigest hi
    rw [← hsame] at h
    exact h

/-- A provisioning that succeeds leaves the records of its stages in order, and these tell what was
put into the graph: the mirror where it was set up, each group, the digest where the archive that is
copied is covered by a check, and the number of operations. One that fails leaves no last record,
and none of the runtime stage if the archive could not be fetched. -/
theorem provision_leaves_trace (s : Session) (hd : s.distribution.validate = .ok s.distribution)
    (retrieve : Retriever) (root : Graph) (groups : Option Json.Value) (w : Workspace) :
    (∀ (g : Graph) (w' : Workspace), Gives (s.provision retrieve root groups) w g w' →
      ∃ (normalized : List PackageGroup) (staging : Graph) (src : String) (R M K : List Operation)
        (trace : s.Trace normalized g.operations.length),
        PackageGroups.normalize s.depth (groups.getD (PackageGroups.toValue s.groups)) =
          .ok normalized ∧
        w'.log = w.log ++ trace.records ∧
        g.operations = root.operations ++ R ++ M ++ K ∧
        R = Archive.unpacking s.distribution staging src root.environment ∧
        M = s.mirrorOperations normalized (settled root.environment R) ∧
        K = s.packageOperations normalized (settled root.environment (R ++ M)) ∧
        (s.policy.requireIntegrity = true →
          Archive.Checked s.distribution s.cacheDir w'.files staging src)) ∧
    ∀ (fault : Fault) (w' : Workspace), Fails (s.provision retrieve root groups) w fault w' →
      ∃ added, w'.log = w.log ++ added ∧ (∀ r ∈ added, r.step ≠ some "done") ∧
        ∀ (dir : Path) (reason : Fault), s.cacheDir = some dir →
          (ArtifactCache.fetch retrieve s.distribution.url s.distribution.sha256 dir
            (some s.policy) w.files).1 = .error reason →
          ∀ r ∈ added, r.stage ≠ some Archive.stage := by
  refine ⟨fun g w' hp => log_of_provision hd hp, fun fault w' hp => ?_⟩
  obtain ⟨added, hadded, hnotDone⟩ := s.logsFailing_provision retrieve root groups w fault w' hp
  -- Without an archive nothing or one record was added, and that one is the session's.
  refine ⟨added, hadded, hnotDone, fun dir reason hc hf r hr => ?_⟩
  rcases log_of_fetch_fails hc hf hp with hnone | ⟨start, hstart, hstage⟩
  · rw [hadded, List.append_right_eq_self] at hnone
    rw [hnone] at hr
    cases hr
  · rw [hadded, List.append_cancel_left_eq] at hstart
    rw [hstart, List.mem_singleton] at hr
    rw [hr, hstage]
    exact (Option.some_ne_none _).symm

set_option maxRecDepth 4000 in
/-- A session that finds its archive in the cache directory and installs a group, and one that
cannot fetch since it is offline. -/
theorem provision_leaves_trace_sample :
    (∃ (g : Graph) (w' : Workspace)
        (trace : (sample (some ⟨0, ["cache"]⟩)).Trace [["JSON"]] g.operations.length),
      Gives ((sample (some ⟨0, ["cache"]⟩)).provision Retrieval.retrieve scratch
          (some (.list [.list [.text "JSON"]]))) { files := .withSample } g w' ∧
        w'.log = trace.records) ∧
    ∃ (fault : Fault) (w' : Workspace),
      Fails (({ sample (some ⟨0, ["cache"]⟩) with policy := { networkMode := "offline" } } :
          Session).provision Retrieval.retrieve scratch) {} fault w' ∧
        ∀ r ∈ w'.log, r.stage ≠ some "runtime" := by
  have hd : Distribution.sample.validate = .ok .sample := rfl
  constructor
  · obtain ⟨g, w', hg⟩ : ∃ g w', Gives ((sample (some ⟨0, ["cache"]⟩)).provision
        Retrieval.retrieve scratch (some (.list [.list [.text "JSON"]]))) { files := .withSample } g
        w' := ⟨_, _, rfl⟩
    obtain ⟨normalized, -, -, -, -, -, trace, hn, hlog, -⟩ :=
      (provision_leaves_trace (sample (some ⟨0, ["cache"]⟩)) hd _ _ _ _).1 g w' hg
    cases hn
    exact ⟨g, w', trace, hg, hlog⟩
  · let s : Session := { sample (some ⟨0, ["cache"]⟩) with policy := { networkMode := "offline" } }
    obtain ⟨w', hf⟩ : ∃ w', Fails (s.provision Retrieval.retrieve scratch) {}
        (.offline "fetch") w' := exists_fails rfl
    obtain ⟨added, hlog, -, hruntime⟩ := (provision_leaves_trace s hd _ _ _ _).2 _ w' hf
    have hadded : w'.log = added := hlog
    rw [← hadded] at hruntime
    exact ⟨_, w', hf, hruntime ⟨0, ["cache"]⟩ (.offline "fetch") rfl rfl⟩

end Session

end RuntimeImage
