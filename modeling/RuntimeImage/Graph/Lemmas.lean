import RuntimeImage.Graph.Basic

/-!
When a call on a graph succeeds, and which graph it then makes. Each call has one equivalence; with
it nobody has to look into the call again.
-/

namespace RuntimeImage.Graph

variable {g h source : Graph}

theorem run_eq_ok_iff {argv : List String} {name : String} {failure : ErrorCode} :
    g.run argv name failure = .ok h ↔
      argv ≠ [] ∧ "" ∉ argv ∧
        h = g.append (.run ⟨name, failure⟩ argv (Table.sorted g.environment)) := by
  by_cases ha : argv = [] <;> by_cases hw : "" ∈ argv <;> simp [run, ha, hw, eq_comm]

theorem run_eq_error {argv : List String} {name : String} {failure : ErrorCode}
    (hw : "" ∈ argv) : g.run argv name failure = .error (.invalid (.command name)) := by
  simp [run, hw]

theorem copy_eq_ok_iff {src dest name : String} :
    g.copy source src dest name = .ok h ↔
      src ≠ "" ∧ dest ≠ "" ∧ h = g.append (.copy ⟨name, .fetch⟩ source src dest) := by
  by_cases hs : src = "" <;> by_cases hd : dest = "" <;> simp [copy, hs, hd, eq_comm]

theorem makeDir_eq_ok_iff {path name : String} {mode : Int} {parents : Bool} :
    g.makeDir path name mode parents = .ok h ↔
      Path.isAbsolute path ∧ h = g.append (.makeDir ⟨name, .configWrite⟩ path mode parents) := by
  by_cases hp : Path.isAbsolute path <;>
    simp [makeDir, requireAbsolute, hp, bind, Except.bind, pure, Except.pure, eq_comm]

theorem makeDir_eq_error {path name : String} {mode : Int} {parents : Bool}
    (hp : ¬Path.isAbsolute path) :
    g.makeDir path name mode parents = .error (.invalid (.relativePath "mkdir" path)) := by
  simp [makeDir, requireAbsolute, hp, bind, Except.bind]

theorem makeFile_eq_ok_iff {path content name : String} {mode : Int} :
    g.makeFile path content name mode = .ok h ↔
      Path.isAbsolute path ∧ h = g.append (.makeFile ⟨name, .configWrite⟩ path content mode) := by
  by_cases hp : Path.isAbsolute path <;>
    simp [makeFile, requireAbsolute, hp, bind, Except.bind, pure, Except.pure, eq_comm]

theorem addEnv_eq_ok_iff {key value : String} :
    g.addEnv key value = .ok h ↔
      key ≠ "" ∧ '=' ∉ key.toList ∧
        h = { g with
          operations := g.operations ++ [.setEnv ⟨"env " ++ key, .validation⟩ key value]
          environment := Table.put g.environment key value } := by
  by_cases hk : key = "" <;> by_cases he : '=' ∈ key.toList <;> simp [addEnv, hk, he, eq_comm]

/-- Of a directory that is no entry yet, an absolute one is appended, as any variable is set. -/
theorem appendPath_eq_ok_iff {directory : String} :
    g.appendPath directory = .ok h ↔
      Path.isAbsolute directory ∧
        if directory ∈ searchEntries ((g.envValue? "PATH").getD "") then h = g
        else g.addEnv "PATH" (String.intercalate ":"
          (searchEntries ((g.envValue? "PATH").getD "") ++ [directory])) = .ok h := by
  by_cases hp : Path.isAbsolute directory
  · by_cases hd : directory ∈ searchEntries ((g.envValue? "PATH").getD "") <;>
      simp [appendPath, requireAbsolute, hp, hd, bind, Except.bind, pure, Except.pure, eq_comm]
  · simp [appendPath, requireAbsolute, hp, bind, Except.bind]

end RuntimeImage.Graph
