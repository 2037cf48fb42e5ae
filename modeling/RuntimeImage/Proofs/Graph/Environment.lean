import RuntimeImage.Proofs.Graph.Built
import RuntimeImage.Proofs.Table

/-!
The variables in effect are a function of the history: they are what the settings of the history
make of the variables that the source starts with. A command's own record of them is the same
function of the history before the command, in code-point order, however long the history grows.
-/

namespace RuntimeImage

/-- The variables that a graph of this source starts with. -/
def Source.variables (s : Source) : Table String :=
  match s.kind with
  | .image => [("PATH", Graph.defaultPath)]
  | .localDir | .scratch => []

/-- The name and value that an operation sets. -/
def Operation.setting? : Operation → Option (String × String)
  | setEnv _ key value => some (key, value)
  | _ => none

namespace Graph

/-- The variables after a history: each setting writes its name in place when it is known, and at
the end when it is new. -/
def replay (source : Source) (history : List Operation) : Table String :=
  (history.filterMap Operation.setting?).foldl (fun t e => t.put e.1 e.2) source.variables

/-- Each command of a history has recorded the variables after what stands before it. -/
def Snapshots (source : Source) (history : List Operation) : Prop :=
  ∀ (i : Nat) (label : Label) (argv : List String) (environment : List (String × String)),
    history[i]? = some (.run label argv environment) →
      environment = Table.sorted (replay source (history.take i))

/-- What the history says about the variables. -/
structure Replayed (g : Graph) : Prop where
  environment_eq : g.environment = replay g.source g.operations
  snapshots : Snapshots g.source g.operations

theorem replay_append_of_none (source : Source) (history : List Operation) (op : Operation)
    (hop : op.setting? = none) : replay source (history ++ [op]) = replay source history := by
  simp only [replay, List.filterMap_append, List.filterMap_cons, hop, List.filterMap_nil,
    List.append_nil]

theorem replay_append_setEnv (source : Source) (history : List Operation) (label : Label)
    (key value : String) :
    replay source (history ++ [.setEnv label key value]) =
      (replay source history).put key value := by
  simp only [replay, List.filterMap_append, List.filterMap_cons, Operation.setting?,
    List.filterMap_nil, List.foldl_append, List.foldl_cons, List.foldl_nil]

/-- However much of the history is replayed, no name comes twice. -/
theorem nodup_keys_replay (source : Source) (history : List Operation) :
    (Table.keys (replay source history)).Nodup := by
  have hsource : (Table.keys source.variables).Nodup := by
    unfold Source.variables
    split <;> simp [Table.keys]
  unfold replay
  generalize source.variables = t at hsource ⊢
  induction history.filterMap Operation.setting? generalizing t with
  | nil => exact hsource
  | cons e settings ih => exact ih _ (Table.nodup_keys_put hsource e.1 e.2)

/-- Past snapshots depend on what is before them alone, so only the last operation is new. -/
theorem Snapshots.append {source : Source} {history : List Operation} {last : Operation}
    (hs : Snapshots source history)
    (hlast : ∀ label argv environment, last = .run label argv environment →
      environment = Table.sorted (replay source history)) :
    Snapshots source (history ++ [last]) := by
  intro i label argv environment hi
  -- Before the last operation nothing has changed, and behind it there is none.
  rcases Nat.lt_trichotomy i history.length with h | h | h
  · rw [List.getElem?_append_left h] at hi
    rw [List.take_append_of_le_length (Nat.le_of_lt h)]
    exact hs i label argv environment hi
  · rw [h, List.getElem?_concat_length] at hi
    rw [h, List.take_left']
    · exact hlast label argv environment (Option.some.inj hi)
    · rfl
  · rw [List.getElem?_eq_none (by simp; omega)] at hi
    cases hi

variable {g : Graph}

/-- Nothing but a setting changes the variables; a command records them as they are. -/
theorem Replayed.append (hg : Replayed g) (op : Operation) (hop : op.setting? = none)
    (hrun : ∀ label argv environment, op = .run label argv environment →
      environment = Table.sorted g.environment) : Replayed (g.append op) where
  environment_eq := by
    rw [operations_append, source_append, replay_append_of_none _ _ _ hop]
    exact hg.environment_eq
  snapshots := by
    refine hg.snapshots.append fun label argv environment ho => ?_
    rw [hrun label argv environment ho, hg.environment_eq]

theorem Replayed.assign (hg : Replayed g) (key value : String) :
    Replayed (g.assign key value) where
  environment_eq := by
    rw [operations_assign, source_assign, replay_append_setEnv, ← hg.environment_eq]
    rfl
  snapshots := hg.snapshots.append fun label argv environment ho => by cases ho

theorem Replayed.nodup_keys (hg : Replayed g) : (Table.keys g.environment).Nodup := by
  rw [hg.environment_eq]
  exact nodup_keys_replay _ _

theorem Grown.replayed (hg : Grown g) : Replayed g := by
  induction hg with
  | image _ | localDir _ | scratch =>
    exact ⟨rfl, by simp [Snapshots, Graph.scratch]⟩
  | run _ _ _ ih =>
    refine ih.append _ rfl ?_
    rintro label argv environment ⟨⟩
    rfl
  | copy _ _ _ _ ih _ | makeDir _ _ ih | makeFile _ _ ih =>
    refine ih.append _ rfl ?_
    rintro label argv environment ⟨⟩
  | assign _ _ _ ih => exact ih.assign _ _

/-- In every graph that can be reached, and in every graph nested in one, the variables in effect
are the replay of the history, their names are distinct, and each command has recorded the replay
of exactly what stands before it, its names ascending. -/
theorem variables_replay_history {outer g : Graph} (ho : Built outer) (hn : Nested outer g) :
    g.environment = replay g.source g.operations ∧ (Table.keys g.environment).Nodup ∧
      ∀ (i : Nat) (label : Label) (argv : List String) (environment : List (String × String)),
        g.operations[i]? = some (.run label argv environment) →
          environment = Table.sorted (replay g.source (g.operations.take i)) ∧
            environment.Pairwise (fun a b => a.1 < b.1) := by
  have hg := (ho.grown.nested hn).replayed
  refine ⟨hg.environment_eq, hg.nodup_keys, ?_⟩
  intro i label argv environment hi
  have he := hg.snapshots i label argv environment hi
  refine ⟨he, ?_⟩
  rw [he]
  exact Table.pairwise_lt_sorted (nodup_keys_replay _ _)

/-- A graph with two settings and a command, copied into another one. -/
theorem variables_replay_history_of_copied : ∃ outer inner : Graph,
    (Built outer ∧ Nested outer inner) ∧
      inner.environment = [("B", "1"), ("A", "2")] ∧
      inner.operations[2]? =
        some (.run ⟨"build", .toolInstall⟩ ["make"] [("A", "2"), ("B", "1")]) ∧
      [("A", "2"), ("B", "1")] = Table.sorted (replay inner.source (inner.operations.take 2)) := by
  obtain ⟨inner, hinner, henv, hrun⟩ : ∃ inner : Graph, Built inner ∧
      inner.environment = [("B", "1"), ("A", "2")] ∧
      inner.operations[2]? =
        some (.run ⟨"build", .toolInstall⟩ ["make"] [("A", "2"), ("B", "1")]) := by
    have hb := Built.scratch.addEnv (rfl : scratch.addEnv "B" "1" = .ok _)
    have ha := hb.addEnv (rfl : Graph.addEnv _ "A" "2" = .ok _)
    have hsorted : Table.sorted [("B", "1"), ("A", "2")] = [("A", "2"), ("B", "1")] := by
      simp [Table.sorted, List.mergeSort, List.MergeSort.Internal.splitInTwo]
    rw [← hsorted]
    exact ⟨_, ha.run (rfl : Graph.run _ ["make"] "build" = .ok _), rfl, rfl⟩
  obtain ⟨outer, hcopy⟩ : ∃ outer, scratch.copy inner "/out" "/in" "take" = .ok outer := ⟨_, rfl⟩
  have houter := Built.scratch.copy hinner hcopy
  have hnested := Nested.of_copy hcopy
  have hreplay := variables_replay_history houter hnested
  exact ⟨outer, inner, ⟨houter, hnested⟩, henv, hrun, (hreplay.2.2 2 _ _ _ hrun).1⟩

end Graph

end RuntimeImage
