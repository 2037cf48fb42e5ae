import RuntimeImage.Proofs.Provision.Appends
import RuntimeImage.Proofs.Provision.Atomicity
import RuntimeImage.Proofs.Graph.SearchPath

/-!
What a session adds to a graph from start to end: the runtime, then the mirror where it is needed,
then the packages where there are any. The lists of the three stages give the whole history, and with
it the number of commands and the variables that each of them meets.
-/

namespace RuntimeImage

open Provisioning RuntimeImage.Graph

variable {retrieve : Retriever} {root g : Graph} {groups : Option Json.Value} {w w' : Workspace}
  {t : Table String} {normalized : List PackageGroup}

/-- The runtime stage adds its operations and tells the finalizer nothing. -/
theorem Archive.Installer.after_of_install {i : Archive.Installer}
    (hi : Gives (i.install retrieve root) w g w') :
    (∃ staging src, g = root.after (unpacking i.distribution staging src root.environment)) ∧
      w'.finalizer = w.finalizer := by
  have hquiet := i.quiet_install retrieve root w
  rw [hi] at hquiet
  unfold install at hi
  -- Where the archive is staged does not matter here, only that it is copied from there.
  obtain ⟨⟨staging, src⟩, w₁, -, hi⟩ := gives_bind_iff.mp hi
  simp only [note, gives_ofResult_bind_iff, gives_record_bind_iff, gives_pure_iff] at hi
  obtain ⟨h, hu, rfl, -⟩ := hi
  exact ⟨⟨staging, src, after_of_unpackInto hu⟩, hquiet⟩

/-! The commands of each stage. -/

theorem Archive.length_runs_unpacking {d : Distribution} {staging : Graph} {src : String} :
    ((unpacking d staging src t).filter Operation.isRun).length = 1 := by
  rw [unpacking, List.filter_append, not_isRun_pathSetting, List.append_nil]
  rfl

theorem MirrorSetup.Setup.length_runs_operations {s : MirrorSetup.Setup} :
    ((s.operations t).filter Operation.isRun).length = commandCount := rfl

namespace PackageInstall.Installer

variable {i : Installer}

theorem runs_operations :
    (i.operations normalized t).filter Operation.isRun =
      i.registryRun (i.equipped t) :: normalized.map (i.groupRun (i.equipped t)) := by
  have hgroups : (normalized.map (i.groupRun (i.equipped t))).filter Operation.isRun =
      normalized.map (i.groupRun (i.equipped t)) :=
    List.filter_eq_self.mpr isRun_of_mem_groupRuns
  rw [operations, List.filter_append, List.filter_append, List.filter_cons,
    not_isRun_pathSetting, hgroups]
  rfl

/-- Every command of the installation has recorded the same variables. -/
theorem environment_of_mem_operations {label : Label} {argv : List String}
    {environment : List (String × String)}
    (hm : .run label argv environment ∈ i.operations normalized t) :
    environment = (i.equipped t).sorted := by
  have hrun : Operation.run label argv environment ∈
      (i.operations normalized t).filter Operation.isRun := List.mem_filter.mpr ⟨hm, rfl⟩
  rw [runs_operations, List.mem_cons, List.mem_map] at hrun
  rcases hrun with hrun | ⟨group, -, hrun⟩
  all_goals
    cases hrun
    rfl

/-- What a command of the installation meets: the depot, the mirror's address, and the runtime's
directory among the entries of `PATH`, where a directory with a colon in it is none. -/
structure Meets (i : Installer) (environment : Table String) : Prop where
  depot : environment.get? depotVariable = some i.depotDir
  server : environment.get? serverVariable = some PackageMirror.address
  path : ':' ∉ i.distribution.binDir.toList →
    i.distribution.binDir ∈ searchEntries ((environment.get? "PATH").getD "")

theorem meets_equipped (ht : t.keys.Nodup) (hbin : i.distribution.binDir ≠ "") :
    i.Meets (i.equipped t).sorted := by
  have hnodup : (i.equipped t).keys.Nodup := by
    unfold equipped
    exact Table.nodup_keys_put (Table.nodup_keys_put (nodup_keys_settled ht _) _ _) _ _
  refine ⟨?_, ?_, fun hcolon => ?_⟩
  · rw [Table.get?_sorted hnodup, equipped, Table.get?_put_of_ne _ _ (by decide),
      Table.get?_put_self]
  · rw [Table.get?_sorted hnodup, equipped, Table.get?_put_self]
  · rw [Table.get?_sorted hnodup, equipped, Table.get?_put_of_ne _ _ (by decide),
      Table.get?_put_of_ne _ _ (by decide)]
    exact (mem_searchPath_settled_iff hbin).mpr hcolon

end PackageInstall.Installer

namespace Session

variable (s : Session)

/-- The mirror is needed when the policy always wants it, and when there are packages. -/
def NeedsMirror (normalized : List PackageGroup) : Prop :=
  s.policy.mirrorMode = "always" ∨ 0 < normalized.length

instance : Decidable (s.NeedsMirror normalized) := inferInstanceAs (Decidable (_ ∨ _))

def mirrorOperations (normalized : List PackageGroup) (t : Table String) : List Operation :=
  if s.NeedsMirror normalized then s.mirrorSetup.operations t else []

def packageOperations (normalized : List PackageGroup) (t : Table String) : List Operation :=
  if normalized = [] then [] else s.packageInstaller.operations normalized t

def mirrorTold (normalized : List PackageGroup) (f : Finalizer) : Finalizer :=
  if s.NeedsMirror normalized then s.mirrorSetup.told f else f

def packagesTold (normalized : List PackageGroup) (f : Finalizer) : Finalizer :=
  if normalized = [] then f else s.packageInstaller.told f

/-- What the finalizer is told in the course of a provisioning. -/
def told (normalized : List PackageGroup) (f : Finalizer) : Finalizer :=
  s.packagesTold normalized (s.mirrorTold normalized f)

variable {s}

theorem requiresMirror_iff :
    s.policy.requiresMirror (!normalized.isEmpty) = true ↔ s.NeedsMirror normalized := by
  unfold Policy.requiresMirror NeedsMirror
  cases normalized <;> simp

theorem after_of_configureMirror
    (hc : Gives (s.configureMirror (!normalized.isEmpty) root) w g w') :
    g = root.after (s.mirrorOperations normalized root.environment) ∧
      w'.finalizer = s.mirrorTold normalized w.finalizer := by
  unfold configureMirror at hc
  unfold mirrorOperations mirrorTold
  split at hc
  · next hm =>
    have hneeds := requiresMirror_iff.mp hm
    rw [if_pos hneeds, if_pos hneeds]
    exact MirrorSetup.Setup.after_of_configure hc
  · next hm =>
    have hneeds : ¬s.NeedsMirror normalized := fun h => hm (requiresMirror_iff.mpr h)
    obtain ⟨rfl, rfl⟩ := gives_pure_iff.mp hc
    rw [if_neg hneeds, if_neg hneeds]
    exact ⟨after_nil.symm, rfl⟩

/-- A provisioning in one equation for the graph and one for the finalizer. -/
theorem after_of_provision (hp : Gives (s.provision retrieve root groups) w g w') :
    ∃ (normalized : List PackageGroup) (staging : Graph) (src : String) (R M K : List Operation),
      PackageGroups.normalize s.depth (groups.getD (PackageGroups.toValue s.groups)) =
        .ok normalized ∧
      R = Archive.unpacking s.distribution staging src root.environment ∧
      M = s.mirrorOperations normalized (settled root.environment R) ∧
      K = s.packageOperations normalized (settled root.environment (R ++ M)) ∧
      g = root.after (R ++ M ++ K) ∧ w'.finalizer = s.told normalized w.finalizer := by
  simp only [provision, note, gives_ofResult_bind_iff, gives_record_bind_iff] at hp
  obtain ⟨normalized, hn, hp⟩ := hp
  obtain ⟨g₁, w₁, h₁, hp⟩ := gives_bind_iff.mp hp
  obtain ⟨g₂, w₂, h₂, hp⟩ := gives_bind_iff.mp hp
  obtain ⟨g₃, w₃, h₃, hp⟩ := gives_bind_iff.mp hp
  simp only [gives_record_bind_iff, gives_pure_iff] at hp
  obtain ⟨rfl, rfl⟩ := hp
  obtain ⟨⟨staging, src, rfl⟩, hf₁⟩ := Archive.Installer.after_of_install h₁
  obtain ⟨rfl, hf₂⟩ := after_of_configureMirror h₂
  -- The last stage reads the groups again, from their own value, and gets the same ones.
  have hagain := PackageGroups.normalize_toValue _ normalized hn
  obtain ⟨rfl, hf₃⟩ := PackageInstall.Installer.after_of_install hagain h₃
  refine ⟨normalized, staging, src, _, _, _, hn, rfl, rfl, rfl, ?_, ?_⟩
  · simp only [after_after, environment_after, packageOperations, settled_append]
    rfl
  · rw [told, packagesTold, hf₃, hf₂, hf₁]

theorem isAbsolute_of_provision (hp : Gives (s.provision retrieve root groups) w g w') :
    Path.isAbsolute s.distribution.binDir := by
  simp only [provision, note, gives_ofResult_bind_iff, gives_record_bind_iff] at hp
  obtain ⟨normalized, -, hp⟩ := hp
  obtain ⟨g₁, w₁, h₁, -⟩ := gives_bind_iff.mp hp
  exact Archive.Installer.isAbsolute_of_gives_install h₁

theorem length_runs_mirrorOperations :
    ((s.mirrorOperations normalized t).filter Operation.isRun).length =
      if s.NeedsMirror normalized then MirrorSetup.commandCount else 0 := by
  unfold mirrorOperations
  split
  · exact MirrorSetup.Setup.length_runs_operations
  · rfl

theorem length_runs_packageOperations :
    ((s.packageOperations normalized t).filter Operation.isRun).length =
      if normalized = [] then 0 else normalized.length + 1 := by
  unfold packageOperations
  split
  · rfl
  · rw [PackageInstall.Installer.runs_operations, List.length_cons, List.length_map]

/-- A provisioning that succeeds leaves the source and the history of its root in front and adds
three lists of operations: for the runtime always, for the mirror when it is needed, for the packages
when there are any. So many commands are added, and those for packages meet the depot, the mirror's
address and the runtime. -/
theorem provision_appends (s : Session) (hroot : Built root)
    (hp : Gives (s.provision retrieve root groups) w g w') :
    ∃ (normalized : List PackageGroup) (staging : Graph) (src : String) (R M K : List Operation),
      PackageGroups.normalize s.depth (groups.getD (PackageGroups.toValue s.groups)) =
        .ok normalized ∧
      R = Archive.unpacking s.distribution staging src root.environment ∧
      M = (if s.NeedsMirror normalized then
        s.mirrorSetup.operations (settled root.environment R) else []) ∧
      K = (if normalized = [] then [] else
        s.packageInstaller.operations normalized (settled root.environment (R ++ M))) ∧
      g.source = root.source ∧ g.operations = root.operations ++ R ++ M ++ K ∧
      g.commands.length = root.commands.length + 1 +
        (if s.NeedsMirror normalized then MirrorSetup.commandCount else 0) +
        (if normalized = [] then 0 else normalized.length + 1) ∧
      ∀ (label : Label) (argv : List String) (environment : List (String × String)),
        .run label argv environment ∈ K → s.packageInstaller.Meets environment := by
  obtain ⟨normalized, staging, src, R, M, K, hn, hR, hM, hK, rfl, -⟩ := after_of_provision hp
  refine ⟨normalized, staging, src, R, M, K, hn, hR, hM, hK, rfl, ?_, ?_, ?_⟩
  · rw [operations_after, ← List.append_assoc, ← List.append_assoc]
  · rw [commands_after, List.filter_append, List.filter_append, List.length_append,
      List.length_append, List.length_append, ← Nat.add_assoc, ← Nat.add_assoc]
    rw [hK, length_runs_packageOperations, hM, length_runs_mirrorOperations, hR,
      Archive.length_runs_unpacking]
  · intro label argv environment hm
    rw [hK, packageOperations] at hm
    split at hm
    · cases hm
    · rw [PackageInstall.Installer.environment_of_mem_operations hm]
      have hbin := Path.ne_empty_of_isAbsolute (isAbsolute_of_provision hp)
      have hnodup := nodup_keys_settled hroot.grown.replayed.nodup_keys (R ++ M)
      exact PackageInstall.Installer.meets_equipped hnodup hbin

/-- Two groups of packages on a Debian image, with the mirror: one command unpacks, six set up the
mirror, one adds the registry and two install. -/
theorem provision_appends_two_groups :
    ∃ (root g : Graph) (w' : Workspace), Built root ∧
      Gives (({} : Session).provision Retrieval.retrieve root
        (some (.list [.list [.text "JSON", .text "HTTP"], .list [.text "CSV"]]))) {} g w' ∧
      g.source = ⟨.image, "debian"⟩ ∧ g.commands.length = 10 := by
  obtain ⟨root, hi⟩ : ∃ root, Graph.image "debian" = .ok root := ⟨_, rfl⟩
  have hroot := Built.image hi
  cases hi
  obtain ⟨g, w', hp⟩ : ∃ g w', Gives (({} : Session).provision Retrieval.retrieve
      ⟨⟨.image, "debian"⟩, [], [("PATH", defaultPath)]⟩
      (some (.list [.list [.text "JSON", .text "HTTP"], .list [.text "CSV"]]))) {} g w' := ⟨_, _, rfl⟩
  obtain ⟨normalized, -, -, -, -, -, hn, -, -, -, hsource, -, hlength, -⟩ :=
    ({} : Session).provision_appends hroot hp
  cases hn
  exact ⟨_, g, w', hroot, hp, hsource, hlength⟩

end Session

end RuntimeImage
