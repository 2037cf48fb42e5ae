import RuntimeImage.Proofs.Finalizer
import RuntimeImage.Proofs.Graph.Built

/-!
Setting a variable in the graph and among the exports. The export is recorded first and is checked
by nobody, while the graph refuses some names. So the two are kept together for the names that the
graph takes; under any other name the export stays behind alone.
-/

namespace RuntimeImage

/-- In `u` the name has that value, and the other names are as they are in `t`. -/
structure Table.Writes {β : Type} (t : Table β) (key : String) (value : β) (u : Table β) :
    Prop where
  written : u.get? key = some value
  others : ∀ other, other ≠ key → u.get? other = t.get? other

theorem Table.writes_put {β : Type} (t : Table β) (key : String) (value : β) :
    t.Writes key value (t.put key value) :=
  ⟨get?_put_self t key value, fun _ hne => get?_put_of_ne t value hne⟩

namespace Provisioning

open RuntimeImage.Graph

variable {g : Graph} {key value : String} {w : Workspace}

/-- What is expected of setting a variable in both places: it is set in both, where nothing else
changes, or the step fails and leaves the record for the finalizer as it was. -/
inductive KeepsTogether (g : Graph) (key value : String) (w : Workspace) : Prop
  | written {h : Graph} {w' : Workspace} (hg : Gives (exportEnv g key value) w h w')
      (hgraph : Table.Writes g.environment key value h.environment)
      (hexports : w.finalizer.exports.Writes key value w'.finalizer.exports)
      (hrest : w'.finalizer = { w.finalizer with exports := w'.finalizer.exports })
  | unchanged {fault : Fault} {w' : Workspace} (hf : Fails (exportEnv g key value) w fault w')
      (hsame : w'.finalizer = w.finalizer)

/-- A name that the graph takes for a variable. -/
structure IsVariable (key : String) : Prop where
  ne_empty : key ≠ ""
  no_equals : '=' ∉ key.toList

theorem addEnv_of_isVariable (hk : IsVariable key) :
    g.addEnv key value = .ok (g.assign key value) :=
  addEnv_eq_ok_iff.mpr ⟨hk.ne_empty, hk.no_equals, rfl⟩

theorem addEnv_of_not_isVariable (hk : ¬IsVariable key) :
    g.addEnv key value = .error (.invalid (.variableName key)) := by
  by_cases hne : key = ""
  · exact if_pos (Or.inl hne)
  · by_cases heq : '=' ∈ key.toList
    · exact if_pos (Or.inr heq)
    · exact absurd ⟨hne, heq⟩ hk

/-- The export is recorded whatever becomes of the graph. -/
theorem run_exportEnv (g : Graph) (key value : String) (w : Workspace) :
    (exportEnv g key value).run.run w =
      (g.addEnv key value, { w with finalizer := w.finalizer.exportVariable key value }) := rfl

theorem gives_exportEnv (hk : IsVariable key) :
    Gives (exportEnv g key value) w (g.assign key value)
      { w with finalizer := w.finalizer.exportVariable key value } := by
  rw [Gives, run_exportEnv, addEnv_of_isVariable hk]

theorem fails_exportEnv (hk : ¬IsVariable key) :
    Fails (exportEnv g key value) w (.invalid (.variableName key))
      { w with finalizer := w.finalizer.exportVariable key value } := by
  rw [Fails, run_exportEnv, addEnv_of_not_isVariable hk]

/-- Under a name that the graph refuses only an export that is there already does no harm. -/
theorem export_of_keepsTogether (hk : ¬IsVariable key) (ht : KeepsTogether g key value w) :
    w.finalizer.exports.get? key = some value := by
  have hfails : Fails (exportEnv g key value) w _ _ := fails_exportEnv hk
  cases ht with
  | written hg => cases hfails.symm.trans hg
  | unchanged hf hsame =>
    cases hfails.symm.trans hf
    have hexports : w.finalizer.exports.put key value = w.finalizer.exports :=
      congrArg Finalizer.exports hsame
    have hput := Table.get?_put_self w.finalizer.exports key value
    rwa [hexports] at hput

/-- The graph and the record are kept together exactly if the graph takes the name for a variable,
or the export is there already. Under any other name the step fails and has recorded the export. -/
theorem keepsTogether_iff (g : Graph) (key value : String) (w : Workspace) :
    (KeepsTogether g key value w ↔
        IsVariable key ∨ w.finalizer.exports.get? key = some value) ∧
      (¬IsVariable key →
        Fails (exportEnv g key value) w (.invalid (.variableName key))
          { w with finalizer := w.finalizer.exportVariable key value }) := by
  refine ⟨?_, fails_exportEnv⟩
  by_cases hk : IsVariable key
  · refine iff_of_true ?_ (Or.inl hk)
    exact .written (gives_exportEnv hk) (Table.writes_put _ _ _) (Table.writes_put _ _ _) rfl
  · constructor
    · exact fun ht => Or.inr (export_of_keepsTogether hk ht)
    · intro hcases
      have hexport := hcases.resolve_left hk
      exact .unchanged (fails_exportEnv hk) (Finalizer.exportVariable_of_get? hexport)

theorem not_isVariable_equals : ¬IsVariable "A=B" := fun hk => absurd hk.no_equals (by decide)

/-- A variable is set in both places; a name with an equals sign leaves an export behind. -/
theorem keepsTogether_iff_samples : KeepsTogether scratch "JULIA_DEPOT_PATH" "/depot" {} ∧
    ¬IsVariable "A=B" ∧ ∃ w', w'.finalizer.exports = [("A=B", "x")] ∧
      Fails (exportEnv scratch "A=B" "x") {} (.invalid (.variableName "A=B")) w' := by
  have hvariable : IsVariable "JULIA_DEPOT_PATH" := ⟨by decide, by decide⟩
  refine ⟨(keepsTogether_iff _ _ _ _).1.mpr (Or.inl hvariable), not_isVariable_equals, ?_⟩
  exact ⟨_, rfl, (keepsTogether_iff scratch "A=B" "x" {}).2 not_isVariable_equals⟩

/-- An export that the graph refuses is recorded all the same. -/
theorem not_keepsTogether_equals : Built scratch ∧ ¬KeepsTogether scratch "A=B" "x" {} := by
  refine ⟨.scratch, fun ht => ?_⟩
  cases export_of_keepsTogether not_isVariable_equals ht

end Provisioning

end RuntimeImage
