import RuntimeImage.Graph.Lemmas

/-!
What the calls on graphs can make, as one relation between graphs and one predicate. `Edited g h`
holds when `h` comes from `g` by calls other than copying; a stage of provisioning is such an edit
after at most one copy. `Grown g` holds of all that calls can make from a source, with the state
that each of them leaves written out, so that an invariant of graphs is one induction on it.
-/

namespace RuntimeImage

def Operation.isCopy : Operation → Bool
  | copy .. => true
  | _ => false

namespace Graph

/-- Sets a variable, in the history and in effect. -/
def assign (g : Graph) (key value : String) : Graph :=
  { g with
    operations := g.operations ++ [.setEnv ⟨"env " ++ key, .validation⟩ key value]
    environment := Table.put g.environment key value }

variable {g h k : Graph}

@[simp] theorem source_append (op : Operation) : (g.append op).source = g.source := rfl

@[simp] theorem operations_append (op : Operation) :
    (g.append op).operations = g.operations ++ [op] := rfl

@[simp] theorem environment_append (op : Operation) :
    (g.append op).environment = g.environment := rfl

@[simp] theorem source_assign (key value : String) : (g.assign key value).source = g.source := rfl

@[simp] theorem operations_assign (key value : String) :
    (g.assign key value).operations =
      g.operations ++ [.setEnv ⟨"env " ++ key, .validation⟩ key value] := rfl

@[simp] theorem environment_assign (key value : String) :
    (g.assign key value).environment = Table.put g.environment key value := rfl

inductive Edited (g : Graph) : Graph → Prop
  | refl : Edited g g
  | run {h k : Graph} {argv : List String} {name : String} {failure : ErrorCode}
      (he : Edited g h) (hr : h.run argv name failure = .ok k) : Edited g k
  | makeDir {h k : Graph} {path name : String} {mode : Int} {parents : Bool}
      (he : Edited g h) (hm : h.makeDir path name mode parents = .ok k) : Edited g k
  | makeFile {h k : Graph} {path content name : String} {mode : Int}
      (he : Edited g h) (hm : h.makeFile path content name mode = .ok k) : Edited g k
  | addEnv {h k : Graph} {key value : String}
      (he : Edited g h) (ha : h.addEnv key value = .ok k) : Edited g k
  | appendPath {h k : Graph} {directory : String}
      (he : Edited g h) (ha : h.appendPath directory = .ok k) : Edited g k

theorem Edited.trans (hgh : Edited g h) (hhk : Edited h k) : Edited g k := by
  induction hhk with
  | refl => exact hgh
  | run _ hr ih => exact ih.run hr
  | makeDir _ hm ih => exact ih.makeDir hm
  | makeFile _ hm ih => exact ih.makeFile hm
  | addEnv _ ha ih => exact ih.addEnv ha
  | appendPath _ ha ih => exact ih.appendPath ha

/-- The history of `h` is that of `g`, with operations other than copies behind it. -/
def Extends (g h : Graph) : Prop :=
  ∃ ops, h.operations = g.operations ++ ops ∧ ∀ op ∈ ops, op.isCopy = false

theorem Extends.concat {op : Operation} (hx : Extends g h) (hop : op.isCopy = false)
    (hk : k.operations = h.operations ++ [op]) : Extends g k := by
  obtain ⟨ops, hops, hcopy⟩ := hx
  refine ⟨ops ++ [op], by rw [hk, hops, List.append_assoc], ?_⟩
  exact List.forall_mem_append.mpr ⟨hcopy, List.forall_mem_singleton.mpr hop⟩

theorem Edited.extends (he : Edited g h) : Extends g h := by
  induction he with
  | refl => exact ⟨[], (List.append_nil _).symm, by simp⟩
  | run _ hr ih =>
    obtain ⟨-, -, rfl⟩ := run_eq_ok_iff.mp hr
    exact ih.concat rfl rfl
  | makeDir _ hm ih =>
    obtain ⟨-, rfl⟩ := makeDir_eq_ok_iff.mp hm
    exact ih.concat rfl rfl
  | makeFile _ hm ih =>
    obtain ⟨-, rfl⟩ := makeFile_eq_ok_iff.mp hm
    exact ih.concat rfl rfl
  | addEnv _ ha ih =>
    obtain ⟨-, -, rfl⟩ := addEnv_eq_ok_iff.mp ha
    exact ih.concat rfl rfl
  | appendPath _ ha ih =>
    obtain ⟨-, hd⟩ := appendPath_eq_ok_iff.mp ha
    split at hd
    · rwa [hd]
    · obtain ⟨-, -, rfl⟩ := addEnv_eq_ok_iff.mp hd
      exact ih.concat rfl rfl

inductive Grown : Graph → Prop
  | image {ref : String} (hr : ref ≠ "") : Grown ⟨⟨.image, ref⟩, [], [("PATH", defaultPath)]⟩
  | localDir {path : String} (hp : path ≠ "") : Grown ⟨⟨.localDir, path⟩, [], []⟩
  | scratch : Grown scratch
  | run {g : Graph} {argv : List String} {name : String} {failure : ErrorCode} (hg : Grown g)
      (hne : argv ≠ []) (hw : "" ∉ argv) :
      Grown (g.append (.run ⟨name, failure⟩ argv (Table.sorted g.environment)))
  | copy {g source : Graph} {src dest name : String} (hg : Grown g) (hs : Grown source)
      (hsrc : src ≠ "") (hdest : dest ≠ "") :
      Grown (g.append (.copy ⟨name, .fetch⟩ source src dest))
  | makeDir {g : Graph} {path name : String} {mode : Int} {parents : Bool} (hg : Grown g)
      (hp : Path.isAbsolute path) :
      Grown (g.append (.makeDir ⟨name, .configWrite⟩ path mode parents))
  | makeFile {g : Graph} {path content name : String} {mode : Int} (hg : Grown g)
      (hp : Path.isAbsolute path) :
      Grown (g.append (.makeFile ⟨name, .configWrite⟩ path content mode))
  | assign {g : Graph} {key value : String} (hg : Grown g) (hk : key ≠ "")
      (he : '=' ∉ key.toList) : Grown (g.assign key value)

namespace Grown

theorem of_addEnv {key value : String} (hg : Grown g) (ha : g.addEnv key value = .ok h) :
    Grown h := by
  obtain ⟨hk, he, rfl⟩ := addEnv_eq_ok_iff.mp ha
  exact hg.assign hk he

theorem of_appendPath {directory : String} (hg : Grown g)
    (ha : g.appendPath directory = .ok h) : Grown h := by
  obtain ⟨-, hd⟩ := appendPath_eq_ok_iff.mp ha
  split at hd
  · rwa [hd]
  · exact hg.of_addEnv hd

theorem of_copy {source : Graph} {src dest name : String} (hg : Grown g) (hs : Grown source)
    (hc : g.copy source src dest name = .ok h) : Grown h := by
  obtain ⟨hsrc, hdest, rfl⟩ := copy_eq_ok_iff.mp hc
  exact hg.copy hs hsrc hdest

theorem edited (hg : Grown g) (he : Edited g h) : Grown h := by
  induction he with
  | refl => exact hg
  | run _ hr ih =>
    obtain ⟨hne, hw, rfl⟩ := run_eq_ok_iff.mp hr
    exact ih.run hne hw
  | makeDir _ hm ih =>
    obtain ⟨hp, rfl⟩ := makeDir_eq_ok_iff.mp hm
    exact ih.makeDir hp
  | makeFile _ hm ih =>
    obtain ⟨hp, rfl⟩ := makeFile_eq_ok_iff.mp hm
    exact ih.makeFile hp
  | addEnv _ ha ih => exact ih.of_addEnv ha
  | appendPath _ ha ih => exact ih.of_appendPath ha

theorem of_image {ref : String} (hi : Graph.image ref = .ok g) : Grown g := by
  unfold Graph.image at hi
  split at hi
  · cases hi
  · next hr =>
    cases hi
    exact Grown.image hr

theorem of_localDir {path : String} (hl : Graph.localDir path = .ok g) : Grown g := by
  unfold Graph.localDir at hl
  split at hl
  · cases hl
  · next hp =>
    cases hl
    exact Grown.localDir hp

/-- A graph that was copied is itself made by calls. -/
theorem copied {label : Label} {source : Graph} {src dest : String} (hg : Grown g)
    (hm : .copy label source src dest ∈ g.operations) : Grown source := by
  induction hg with
  | image | localDir | scratch => cases hm
  | run _ _ _ ih => exact ih (by simpa using hm)
  | copy hg hs _ _ ih =>
    rcases List.mem_append.mp hm with hm | hm
    · exact ih hm
    · cases List.mem_singleton.mp hm
      exact hs
  | makeDir _ _ ih => exact ih (by simpa using hm)
  | makeFile _ _ ih => exact ih (by simpa using hm)
  | assign _ _ _ ih => exact ih (by simpa using hm)

end Grown

/-- The graph is `outer`, or was copied into a graph nested in it. -/
inductive Nested (outer : Graph) : Graph → Prop
  | self : Nested outer outer
  | copied {g source : Graph} {label : Label} {src dest : String} (hn : Nested outer g)
      (hm : .copy label source src dest ∈ g.operations) : Nested outer source

theorem Nested.of_copy {source : Graph} {src dest name : String}
    (hc : g.copy source src dest name = .ok h) : Nested h source := by
  obtain ⟨-, -, rfl⟩ := copy_eq_ok_iff.mp hc
  exact Nested.self.copied (List.mem_append_right _ (List.mem_singleton.mpr rfl))

theorem Nested.trans {inner innermost : Graph} (h : Nested g inner)
    (h' : Nested inner innermost) : Nested g innermost := by
  induction h' with
  | self => exact h
  | copied _ hm ih => exact ih.copied hm

theorem Grown.nested (hg : Grown g) (hn : Nested g h) : Grown h := by
  induction hn with
  | self => exact hg
  | copied _ hm ih => exact ih.copied hm

end Graph

end RuntimeImage
