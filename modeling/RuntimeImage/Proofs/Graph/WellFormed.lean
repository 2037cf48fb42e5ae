import RuntimeImage.Proofs.Graph.Built

/-!
What every graph that is reached by calls can be relied on for, at every depth: no check of an
argument can be got around, by calls in another order, by calls that fail or through a stage. A
script is any sequence of calls, each on a graph made before; its calls only ever add graphs, and
the history of a new graph continues that of the one it was made from.
-/

namespace RuntimeImage

open Provisioning

/-- A reference, for all sources but the one that refers to nothing. -/
def Source.WellFormed (s : Source) : Prop :=
  match s.kind with
  | .image | .localDir => s.ref ≠ ""
  | .scratch => s.ref = ""

def Operation.WellFormed : Operation → Prop
  | .run _ argv _ => argv ≠ [] ∧ ∀ word ∈ argv, word ≠ ""
  | .copy _ _ src dest => src ≠ "" ∧ dest ≠ ""
  | .makeDir _ path _ _ | .makeFile _ path _ _ => Path.isAbsolute path
  | .setEnv label key _ => key ≠ "" ∧ '=' ∉ key.toList ∧ label.name = "env " ++ key
  | .foreign _ => False

namespace Graph

structure WellFormed (g : Graph) : Prop where
  source : g.source.WellFormed
  operations : ∀ op ∈ g.operations, op.WellFormed

variable {g h : Graph}

theorem WellFormed.of_source {source : Source} {environment : List (String × String)}
    (hs : source.WellFormed) : WellFormed ⟨source, [], environment⟩ :=
  ⟨hs, nofun⟩

theorem WellFormed.concat {op : Operation} (hg : g.WellFormed)
    (hsource : h.source = g.source) (hops : h.operations = g.operations ++ [op])
    (hop : op.WellFormed) : h.WellFormed := by
  constructor
  · rw [hsource]
    exact hg.source
  · rw [hops]
    exact List.forall_mem_append.mpr ⟨hg.operations, List.forall_mem_singleton.mpr hop⟩

theorem Grown.wellFormed (hg : Grown g) : g.WellFormed := by
  induction hg with
  | image hr => exact .of_source hr
  | localDir hp => exact .of_source hp
  | scratch => exact .of_source rfl
  | run _ hne hw ih =>
    refine ih.concat rfl rfl ⟨hne, ?_⟩
    rintro word hm rfl
    exact hw hm
  | copy _ _ hsrc hdest ih _ => exact ih.concat rfl rfl ⟨hsrc, hdest⟩
  | makeDir _ hp ih => exact ih.concat rfl rfl hp
  | makeFile _ hp ih => exact ih.concat rfl rfl hp
  | assign _ hk he ih => exact ih.concat rfl rfl ⟨hk, he, rfl⟩

/-! ## Calls on graphs -/

/-- A way to make a graph from one at hand, with all its arguments: a transformation, a stage or a
whole provisioning. The graph to copy from is named by its number. -/
inductive Call
  | run (argv : List String) (name : String) (failure : ErrorCode)
  | copy (source : Nat) (src dest name : String)
  | makeDir (path name : String) (mode : Int) (parents : Bool)
  | makeFile (path content name : String) (mode : Int)
  | addEnv (key value : String)
  | appendPath (directory : String)
  | exportEnv (key value : String)
  | installRuntime (i : Archive.Installer) (retrieve : Retriever)
  | configureMirror (s : MirrorSetup.Setup)
  | installPackages (i : PackageInstall.Installer) (groups : Json.Value)
  | provision (s : Session) (retrieve : Retriever) (groups : Option Json.Value)

/-- The call on a graph. There is none when the graph to copy from is not at hand. -/
def Call.on? (graphs : List Graph) (g : Graph) : Call → Option (Provisioning Graph)
  | .run argv name failure => some (ofResult (g.run argv name failure))
  | .copy source src dest name =>
    (graphs[source]?).map fun source => ofResult (g.copy source src dest name)
  | .makeDir path name mode parents => some (ofResult (g.makeDir path name mode parents))
  | .makeFile path content name mode => some (ofResult (g.makeFile path content name mode))
  | .addEnv key value => some (ofResult (g.addEnv key value))
  | .appendPath directory => some (ofResult (g.appendPath directory))
  | .exportEnv key value => some (Provisioning.exportEnv g key value)
  | .installRuntime i retrieve => some (i.install retrieve g)
  | .configureMirror s => some (s.configure g)
  | .installPackages i groups => some (i.install g groups)
  | .provision s retrieve groups => some (s.provision retrieve g groups)

/-- What a call makes of a graph: an edit of it, or one after a copy from a graph made by calls. -/
inductive Derived (g h : Graph) : Prop
  | edited (he : Edited g h)
  | copied {g₁ source : Graph} {src dest name : String} (hs : Grown source)
      (hc : g.copy source src dest name = .ok g₁) (he : Edited g₁ h)

theorem derived_of_gives {graphs : List Graph} {call : Call} {make : Provisioning Graph}
    {w w' : Workspace} (hgraphs : ∀ g ∈ graphs, Grown g) (hc : call.on? graphs g = some make)
    (hg : Gives make w h w') : Derived g h := by
  cases call with
  | run =>
    cases hc
    exact .edited (Edited.refl.run (gives_ofResult_iff.mp hg).1)
  | copy source =>
    obtain ⟨source, hs, rfl⟩ := Option.map_eq_some_iff.mp hc
    exact .copied (hgraphs _ (List.mem_of_getElem? hs)) (gives_ofResult_iff.mp hg).1 .refl
  | makeDir =>
    cases hc
    exact .edited (Edited.refl.makeDir (gives_ofResult_iff.mp hg).1)
  | makeFile =>
    cases hc
    exact .edited (Edited.refl.makeFile (gives_ofResult_iff.mp hg).1)
  | addEnv =>
    cases hc
    exact .edited (Edited.refl.addEnv (gives_ofResult_iff.mp hg).1)
  | appendPath =>
    cases hc
    exact .edited (Edited.refl.appendPath (gives_ofResult_iff.mp hg).1)
  | exportEnv =>
    cases hc
    simp only [Provisioning.exportEnv, gives_tell_bind_iff, gives_ofResult_iff] at hg
    exact .edited (Edited.refl.addEnv hg.1)
  | installRuntime =>
    cases hc
    obtain ⟨staging, _, _, g₁, _, hs, hcopy, he, -⟩ := Archive.Installer.gives_install hg
    exact .copied (grown_of_staged hs) hcopy he
  | configureMirror =>
    cases hc
    exact .edited (MirrorSetup.Setup.gives_configure hg).1
  | installPackages =>
    cases hc
    exact .edited (PackageInstall.Installer.gives_install hg).1
  | provision =>
    cases hc
    obtain ⟨staging, _, _, _, g₁, _, -, hs, hcopy, he, -⟩ := Session.gives_provision hg
    exact .copied (grown_of_staged hs) hcopy he

theorem Derived.grown (hd : Derived g h) (hg : Grown g) : Grown h := by
  cases hd with
  | edited he => exact hg.edited he
  | copied hs hc he => exact (hg.of_copy hs hc).edited he

theorem Edited.source_eq (he : Edited g h) : h.source = g.source := by
  induction he with
  | refl => rfl
  | run _ hr ih =>
    obtain ⟨-, -, rfl⟩ := run_eq_ok_iff.mp hr
    exact ih
  | makeDir _ hm ih =>
    obtain ⟨-, rfl⟩ := makeDir_eq_ok_iff.mp hm
    exact ih
  | makeFile _ hm ih =>
    obtain ⟨-, rfl⟩ := makeFile_eq_ok_iff.mp hm
    exact ih
  | addEnv _ ha ih =>
    obtain ⟨-, -, rfl⟩ := addEnv_eq_ok_iff.mp ha
    exact ih
  | appendPath _ ha ih =>
    obtain ⟨-, hd⟩ := appendPath_eq_ok_iff.mp ha
    split at hd
    · rwa [hd]
    · obtain ⟨-, -, rfl⟩ := addEnv_eq_ok_iff.mp hd
      exact ih

/-- The source is that of the first graph, and the history begins with the one of the first. -/
def Continues (g h : Graph) : Prop := h.source = g.source ∧ g.operations <+: h.operations

theorem Edited.continues (he : Edited g h) : Continues g h := by
  obtain ⟨ops, hops, -⟩ := he.extends
  exact ⟨he.source_eq, ops, hops.symm⟩

theorem Derived.continues (hd : Derived g h) : Continues g h := by
  cases hd with
  | edited he => exact he.continues
  | copied _ hc he =>
    obtain ⟨-, -, rfl⟩ := copy_eq_ok_iff.mp hc
    obtain ⟨hsource, hops⟩ := he.continues
    exact ⟨hsource, (List.prefix_append _ _).trans hops⟩

/-! ## Scripts -/

/-- The graphs made so far, in order, and the workspace that stages work in. -/
structure Desk where
  graphs : List Graph
  workspace : Workspace

inductive Command
  | image (ref : String)
  | localDir (path : String)
  | scratch
  /-- A call on the graph with this number. -/
  | call (target : Nat) (call : Call)
  /-- The workspace is exchanged for another one, or changed from outside. -/
  | enter (w : Workspace)

namespace Desk

variable {d : Desk}

/-- A graph that is made is added. A call that fails leaves no more than what it did to the
workspace. -/
def perform (d : Desk) (make : Provisioning Graph) : Desk :=
  match make.run.run d.workspace with
  | (.ok g, w) => ⟨d.graphs ++ [g], w⟩
  | (.error _, w) => ⟨d.graphs, w⟩

def step (d : Desk) : Command → Desk
  | .image ref => d.perform (ofResult (Graph.image ref))
  | .localDir path => d.perform (ofResult (Graph.localDir path))
  | .scratch => d.perform (ofResult (.ok Graph.scratch))
  | .call target call =>
    match (d.graphs[target]?).bind fun g => call.on? d.graphs g with
    | some make => d.perform make
    | none => d
  | .enter w => { d with workspace := w }

/-- A script from the beginning, when no graph has been made. -/
def run (start : Workspace) (script : List Command) : Desk := script.foldl step ⟨[], start⟩

theorem perform_of_gives {make : Provisioning Graph} {w : Workspace}
    (hg : Gives make d.workspace h w) : d.perform make = ⟨d.graphs ++ [h], w⟩ := by
  rw [perform, hg]

theorem perform_of_fails {make : Provisioning Graph} {fault : Fault} {w : Workspace}
    (hf : Fails make d.workspace fault w) : d.perform make = ⟨d.graphs, w⟩ := by
  rw [perform, hf]

theorem grown_perform {make : Provisioning Graph} (hd : ∀ g ∈ d.graphs, Grown g)
    (hmake : ∀ h w, Gives make d.workspace h w → Grown h) :
    ∀ g ∈ (d.perform make).graphs, Grown g := by
  rcases gives_or_fails make d.workspace with ⟨h, w, hg⟩ | ⟨fault, w, hf⟩
  · rw [perform_of_gives hg]
    exact List.forall_mem_append.mpr ⟨hd, List.forall_mem_singleton.mpr (hmake h w hg)⟩
  · rw [perform_of_fails hf]
    exact hd

theorem step_call {target : Nat} {call : Call} {make : Provisioning Graph}
    (ht : d.graphs[target]? = some g) (hc : call.on? d.graphs g = some make) :
    d.step (.call target call) = d.perform make := by
  simp only [step, ht, Option.bind_some, hc]

theorem grown_step (hd : ∀ g ∈ d.graphs, Grown g) (c : Command) :
    ∀ g ∈ (d.step c).graphs, Grown g := by
  cases c with
  | image => exact grown_perform hd fun h w hg => .of_image (gives_ofResult_iff.mp hg).1
  | localDir => exact grown_perform hd fun h w hg => .of_localDir (gives_ofResult_iff.mp hg).1
  | scratch =>
    refine grown_perform hd fun h w hg => ?_
    cases (gives_ofResult_iff.mp hg).1
    exact .scratch
  | call target call =>
    simp only [step]
    split
    · next make hm =>
      obtain ⟨g, ht, hc⟩ := Option.bind_eq_some_iff.mp hm
      have hg := hd g (List.mem_of_getElem? ht)
      exact grown_perform hd fun h w hgives => (derived_of_gives hd hc hgives).grown hg
    · exact hd
  | enter => exact hd

theorem grown_run (start : Workspace) (script : List Command) :
    ∀ g ∈ (run start script).graphs, Grown g := by
  -- The induction is from any desk, since each command leaves another one to the rest.
  have hfold : ∀ (script : List Command) {d : Desk}, (∀ g ∈ d.graphs, Grown g) →
      ∀ g ∈ (script.foldl step d).graphs, Grown g := by
    intro script
    induction script with
    | nil => exact fun hd => hd
    | cons c rest ih => exact fun hd => ih (grown_step hd c)
  exact hfold script nofun

/-- A call on one of the graphs fails and adds none, or adds one that continues it. -/
def CallsContinue (d : Desk) : Prop :=
  ∀ target call g make, d.graphs[target]? = some g → call.on? d.graphs g = some make →
    (∃ fault w, Fails make d.workspace fault w ∧
      (d.step (.call target call)).graphs = d.graphs) ∨
    ∃ h w, Gives make d.workspace h w ∧
      (d.step (.call target call)).graphs = d.graphs ++ [h] ∧ Continues g h

theorem callsContinue (hd : ∀ g ∈ d.graphs, Grown g) : d.CallsContinue := by
  intro target call g make ht hc
  rw [step_call ht hc]
  rcases gives_or_fails make d.workspace with ⟨h, w, hg⟩ | ⟨fault, w, hf⟩
  · exact .inr ⟨h, w, hg, by rw [perform_of_gives hg], (derived_of_gives hd hc hg).continues⟩
  · exact .inl ⟨fault, w, hf, by rw [perform_of_fails hf]⟩

/-- Whatever a script does, all graphs that it has made are well formed, and so are those nested in
them. What the next call adds, if it does not fail, continues the graph that it is called on. -/
theorem wellFormed_run (start : Workspace) (script : List Command) :
    (∀ g ∈ (run start script).graphs, ∀ inner, Nested g inner → inner.WellFormed) ∧
      (run start script).CallsContinue :=
  ⟨fun g hg _ hn => ((grown_run start script g hg).nested hn).wellFormed,
    callsContinue (grown_run start script)⟩

/-- A graph takes the output of another one, on which a call fails first. -/
def takeOutput : List Command :=
  [.image "debian:12", .scratch, .call 0 (.run ["make", ""] "build" .toolInstall),
    .call 0 (.run ["make"] "build" .toolInstall), .call 1 (.copy 2 "/out" "/in" "take")]

theorem wellFormed_run_takeOutput :
    ∃ inner outer h : Graph, (run {} takeOutput).graphs[2]? = some inner ∧
      inner.operations = [.run ⟨"build", .toolInstall⟩ ["make"] [("PATH", defaultPath)]] ∧
      (run {} takeOutput).graphs[3]? = some outer ∧ Nested outer inner ∧ inner.WellFormed ∧
      outer.addEnv "A" "1" = .ok h ∧ Continues outer h := by
  obtain ⟨hnested, hcalls⟩ := wellFormed_run {} takeOutput
  obtain ⟨inner, outer, hinner, hops, houter, hcopy⟩ : ∃ inner outer : Graph,
      (run {} takeOutput).graphs[2]? = some inner ∧
      inner.operations = [.run ⟨"build", .toolInstall⟩ ["make"] [("PATH", defaultPath)]] ∧
      (run {} takeOutput).graphs[3]? = some outer ∧
      scratch.copy inner "/out" "/in" "take" = .ok outer :=
    ⟨_, _, rfl, by cbv, rfl, rfl⟩
  have hn : Nested outer inner := .of_copy hcopy
  have hwell := hnested outer (List.mem_of_getElem? houter) inner hn
  rcases hcalls 3 (.addEnv "A" "1") outer _ houter rfl with ⟨fault, w, hf, -⟩ | ⟨h, w, hg, -, hc⟩
  · cases hf
  · exact ⟨inner, outer, h, hinner, hops, houter, hn, hwell, (gives_ofResult_iff.mp hg).1, hc⟩

end Desk

end Graph

end RuntimeImage
