import RuntimeImage.Proofs.Graph.Environment

/-!
Graphs after a list of operations. Every call that succeeds leaves the graph after the operations
that it adds, so a chain of calls is described by one list, and the variables that the chain meets on
its way are those that the list has set so far.
-/

namespace RuntimeImage

def Operation.isRun : Operation → Bool
  | run .. => true
  | _ => false

namespace Graph

/-- The variables after a list of operations, from those before it. -/
def settled (t : Table String) (ops : List Operation) : Table String :=
  (ops.filterMap Operation.setting?).foldl (fun t e => t.put e.1 e.2) t

/-- The graph with a list of operations done to it. -/
def after (g : Graph) (ops : List Operation) : Graph :=
  ⟨g.source, g.operations ++ ops, settled g.environment ops⟩

variable {g h : Graph} {t : Table String} {ops ops' : List Operation}

@[simp] theorem source_after : (g.after ops).source = g.source := rfl

@[simp] theorem operations_after : (g.after ops).operations = g.operations ++ ops := rfl

@[simp] theorem environment_after : (g.after ops).environment = settled g.environment ops := rfl

@[simp] theorem settled_nil : settled t [] = t := rfl

@[simp] theorem settled_run {label : Label} {argv : List String} {e : List (String × String)} :
    settled t (.run label argv e :: ops) = settled t ops := rfl

@[simp] theorem settled_copy {label : Label} {source : Graph} {src dest : String} :
    settled t (.copy label source src dest :: ops) = settled t ops := rfl

@[simp] theorem settled_makeDir {label : Label} {path : String} {mode : Int} {parents : Bool} :
    settled t (.makeDir label path mode parents :: ops) = settled t ops := rfl

@[simp] theorem settled_makeFile {label : Label} {path content : String} {mode : Int} :
    settled t (.makeFile label path content mode :: ops) = settled t ops := rfl

@[simp] theorem settled_setEnv {label : Label} {key value : String} :
    settled t (.setEnv label key value :: ops) = settled (t.put key value) ops := rfl

@[simp] theorem settled_append : settled t (ops ++ ops') = settled (settled t ops) ops' := by
  simp only [settled, List.filterMap_append, List.foldl_append]

theorem settled_of_runs (hops : ∀ op ∈ ops, op.isRun) : settled t ops = t := by
  induction ops with
  | nil => rfl
  | cons op ops ih =>
    have hop := hops op List.mem_cons_self
    cases op with
    | run label argv e => exact ih fun op' ho => hops op' (List.mem_cons_of_mem _ ho)
    | _ => cases hop

theorem nodup_keys_settled (h : t.keys.Nodup) (ops : List Operation) :
    (Table.keys (settled t ops)).Nodup := by
  unfold settled
  induction ops.filterMap Operation.setting? generalizing t with
  | nil => exact h
  | cons e settings ih => exact ih (Table.nodup_keys_put h e.1 e.2)

@[simp] theorem after_nil : g.after [] = g := by
  cases g
  simp only [after, List.append_nil, settled_nil]

@[simp] theorem after_after : (g.after ops).after ops' = g.after (ops ++ ops') := by
  simp only [after, List.append_assoc, settled_append]

theorem commands_eq_filter (g : Graph) : g.commands = g.operations.filter Operation.isRun :=
  List.filter_congr fun op _ => by cases op <;> rfl

theorem commands_after : (g.after ops).commands = g.commands ++ ops.filter Operation.isRun := by
  rw [commands_eq_filter, commands_eq_filter, operations_after, List.filter_append]

/-! What each call adds. -/

theorem run_eq_ok_iff_after {argv : List String} {name : String} {failure : ErrorCode} :
    g.run argv name failure = .ok h ↔
      argv ≠ [] ∧ "" ∉ argv ∧ h = g.after [.run ⟨name, failure⟩ argv (Table.sorted g.environment)] :=
  run_eq_ok_iff

theorem copy_eq_ok_iff_after {source : Graph} {src dest name : String} :
    g.copy source src dest name = .ok h ↔
      src ≠ "" ∧ dest ≠ "" ∧ h = g.after [.copy ⟨name, .fetch⟩ source src dest] :=
  copy_eq_ok_iff

theorem makeDir_eq_ok_iff_after {path name : String} {mode : Int} {parents : Bool} :
    g.makeDir path name mode parents = .ok h ↔
      Path.isAbsolute path ∧ h = g.after [.makeDir ⟨name, .configWrite⟩ path mode parents] :=
  makeDir_eq_ok_iff

theorem makeFile_eq_ok_iff_after {path content name : String} {mode : Int} :
    g.makeFile path content name mode = .ok h ↔
      Path.isAbsolute path ∧ h = g.after [.makeFile ⟨name, .configWrite⟩ path content mode] :=
  makeFile_eq_ok_iff

theorem addEnv_eq_ok_iff_after {key value : String} :
    g.addEnv key value = .ok h ↔
      key ≠ "" ∧ '=' ∉ key.toList ∧
        h = g.after [.setEnv ⟨"env " ++ key, .validation⟩ key value] :=
  addEnv_eq_ok_iff

/-- The setting that puts a directory at the end of `PATH`: none, when it is an entry already. -/
def pathSetting (t : Table String) (directory : String) : List Operation :=
  let entries := searchEntries ((t.get? "PATH").getD "")
  if directory ∈ entries then []
  else [.setEnv ⟨"env PATH", .validation⟩ "PATH" (String.intercalate ":" (entries ++ [directory]))]

theorem appendPath_eq_ok_iff_after {directory : String} :
    g.appendPath directory = .ok h ↔
      Path.isAbsolute directory ∧ h = g.after (pathSetting g.environment directory) := by
  rw [appendPath_eq_ok_iff, pathSetting, envValue?]
  split
  · rw [after_nil]
  · have hname : "PATH" ≠ "" ∧ '=' ∉ "PATH".toList := by decide
    simp only [addEnv_eq_ok_iff_after, hname, not_false_eq_true, true_and, ne_eq]
    rfl

/-- Nothing but `PATH` changes. -/
theorem get?_settled_pathSetting {directory key : String} (u : Table String)
    (hkey : key ≠ "PATH") :
    (settled t (pathSetting u directory)).get? key = t.get? key := by
  unfold pathSetting
  dsimp only
  split
  · rfl
  · exact Table.get?_put_of_ne t _ hkey

theorem not_isRun_pathSetting {directory : String} :
    (pathSetting t directory).filter Operation.isRun = [] := by
  unfold pathSetting
  dsimp only
  split <;> rfl

end Graph

end RuntimeImage
