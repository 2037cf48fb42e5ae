import Mathlib
import RuntimeImage.Proofs.Finalizer
import RuntimeImage.Proofs.Graph.Built
import RuntimeImage.Proofs.Graph.Payload
import RuntimeImage.Proofs.Json.Export

/-!
The JSON form of a graph, and that of what the finalizer is told. Both read back as the document
they were written from. The one integer in them that is not fixed is the mode of a file or
directory, and that of a graph may have more digits than are read.
-/

namespace RuntimeImage

open Json Finalizer

/-! ## Graphs -/

/-- The mode of what an operation makes. -/
def Operation.mode? : Operation → Option Int
  | .makeDir _ _ mode _ | .makeFile _ _ _ mode => some mode
  | _ => none

/-- No mode in the graph, or in one that is nested in it, has more decimal digits than are read. -/
def Graph.ShortModes (g : Graph) : Prop :=
  ∀ inner, Nested g inner → ∀ op ∈ inner.operations, ∀ mode, op.mode? = some mode →
    (Nat.toDigits 10 mode.natAbs).length ≤ Integer.maxDigits

/-- The same of one operation and of the graph that it copies from. -/
structure Operation.ShortModes (op : Operation) : Prop where
  mode : ∀ mode, op.mode? = some mode → (Nat.toDigits 10 mode.natAbs).length ≤ Integer.maxDigits
  source : ∀ label source src dest, op = .copy label source src dest → source.ShortModes

theorem Graph.shortModes_iff {g : Graph} : g.ShortModes ↔ ∀ op ∈ g.operations, op.ShortModes := by
  constructor
  · intro h op hop
    constructor
    · exact h g .self op hop
    · rintro label source src dest rfl inner hn
      exact h inner ((Nested.self.copied hop).trans hn)
  · intro h inner hn
    -- Stronger than the bound on the modes: it passes on to the graphs that are copied from.
    have hops : ∀ op ∈ inner.operations, op.ShortModes := by
      induction hn with
      | self => exact h
      | @copied outer source label src dest _ hm ih =>
        intro op hop
        have hsource := (ih _ hm).source label source src dest rfl
        exact ⟨hsource source .self op hop, fun label' source' src' dest' heq inner' hn' =>
          hsource inner' ((Nested.self.copied (heq ▸ hop)).trans hn')⟩
    exact fun op hop => (hops op hop).mode

theorem short_textList (ss : List String) : Token.Short (textList ss).tokens := by
  refine Token.short_list_iff.mpr fun v hv => ?_
  obtain ⟨s, -, rfl⟩ := List.mem_map.mp hv
  exact Token.short_text s

theorem short_textObject (t : Table String) : Token.Short (textObject t).tokens := by
  refine Token.short_object_iff.mpr fun m hm => ?_
  obtain ⟨e, -, rfl⟩ := List.mem_map.mp hm
  exact Token.short_text e.2

mutual

theorem Operation.short_payload : ∀ {op : Operation} {v : Value}, op.ShortModes →
    op.payload = .ok v → Token.Short v.tokens
  | .run label argv environment, v, _, hv => by
    cases hv
    simp [Token.short_object_iff, Token.short_text, short_textList, short_textObject]
  | .copy label source src dest, v, h, hv => by
    obtain ⟨value, hvalue, rfl⟩ := Operation.payload_copy_eq_ok_iff.mp hv
    have hsource := Graph.short_payload (h.source label source src dest rfl) hvalue
    simp [Token.short_object_iff, Token.short_text, hsource]
  | .makeDir label path mode parents, v, h, hv => by
    cases hv
    simp [Token.short_object_iff, Token.short_text, Token.short_int_iff, Token.short_bool,
      h.mode mode rfl]
  | .makeFile label path content mode, v, h, hv => by
    cases hv
    simp [Token.short_object_iff, Token.short_text, Token.short_int_iff, h.mode mode rfl]
  | .setEnv label key value, v, _, hv => by
    cases hv
    simp [Token.short_object_iff, Token.short_text]

theorem Operation.short_payloads : ∀ {ops : List Operation} {vs : List Value},
    (∀ op ∈ ops, op.ShortModes) → Operation.payloads ops = .ok vs → ∀ v ∈ vs, Token.Short v.tokens
  | [], vs, _, hv => by
    cases hv
    simp
  | op :: rest, vs, h, hv => by
    obtain ⟨hop, hrest⟩ := List.forall_mem_cons.mp h
    obtain ⟨v, vs', hfirst, hothers, rfl⟩ := Operation.payloads_cons_eq_ok_iff.mp hv
    exact List.forall_mem_cons.mpr
      ⟨Operation.short_payload hop hfirst, Operation.short_payloads hrest hothers⟩

theorem Graph.short_payload : ∀ {g : Graph} {v : Value}, g.ShortModes → g.payload = .ok v →
    Token.Short v.tokens
  | ⟨source, operations, environment⟩, v, h, hv => by
    obtain ⟨vs, hvs, rfl⟩ := Graph.payload_eq_ok_iff.mp hv
    have hops := Operation.short_payloads (Graph.shortModes_iff.mp h) hvs
    have hversion : (Nat.toDigits 10 Graph.schemaVersion).length ≤ Integer.maxDigits := by decide
    simpa [Token.short_object_iff, Token.short_list_iff, Token.short_text, Token.short_int_iff,
      short_textObject] using ⟨hops, hversion⟩

end

/-! ## What the finalizer is told -/

namespace Finalizer

/-- The records that additions make, from an empty one. -/
inductive Reached : Finalizer → Prop
  | empty : Reached {}
  | exportVariable {f : Finalizer} (key value : String) (hf : Reached f) :
      Reached (f.exportVariable key value)
  | addWritable {f : Finalizer} (path : String) (hf : Reached f) : Reached (f.addWritable path)
  | addService {f : Finalizer} (service : Service) (hf : Reached f) :
      Reached (f.addService service)

variable {f : Finalizer}

theorem Reached.nodup_exports (hf : f.Reached) : f.exports.keys.Nodup := by
  induction hf with
  | empty => exact List.nodup_nil
  | exportVariable key value _ ih => exact Table.nodup_keys_put ih key value
  | addWritable path _ ih => rwa [exports_addWritable]
  | addService service _ ih => rwa [exports_addService]

theorem normal_value (hf : f.exports.keys.Nodup) : f.value.Normal := by
  have hexports := normal_textObject (Table.pairwise_lt_sorted hf)
  have hservices : ∀ v ∈ f.services.map serviceValue, v.Normal := by
    intro v hv
    obtain ⟨service, -, rfl⟩ := List.mem_map.mp hv
    refine normal_object (by decide : ["after", "exec", "name", "restart"].Pairwise (· < ·)) ?_
    simp [normal_textList, Value.Normal.text]
  refine normal_object
    (by decide : ["environment_exports", "services", "writable_directories"].Pairwise (· < ·)) ?_
  simpa [normal_textList] using ⟨hexports, Value.Normal.list hservices⟩

theorem short_value (f : Finalizer) : Token.Short f.value.tokens := by
  have hservice : ∀ service, Token.Short (serviceValue service).tokens := by
    intro service
    simp [serviceValue, Token.short_object_iff, Token.short_text, short_textList]
  simp [value, Token.short_object_iff, Token.short_list_iff, short_textList, short_textObject,
    hservice]

/-- Texts in lists in an object are four containers at most. -/
theorem nesting_value_le (f : Finalizer) : f.value.nesting ≤ 4 := by
  have htexts : ∀ ss, (textList ss).nesting ≤ 1 := by
    intro ss
    refine Nat.succ_le_succ (Value.nestingItems_le_iff.mpr fun v hv => ?_)
    obtain ⟨s, -, rfl⟩ := List.mem_map.mp hv
    exact Nat.le_refl 0
  have hpairs : ∀ t, (textObject t).nesting ≤ 1 := by
    intro t
    refine Nat.succ_le_succ (Value.nestingMembers_le_iff.mpr fun m hm => ?_)
    obtain ⟨e, -, rfl⟩ := List.mem_map.mp hm
    exact Nat.le_refl 0
  have hservice : ∀ service, (serviceValue service).nesting ≤ 2 := by
    intro service
    have hafter := htexts service.after
    have hcommand := htexts service.command
    simp only [serviceValue, Value.nesting, Value.nestingMembers]
    omega
  have hservices : Value.nestingItems (f.services.map serviceValue) ≤ 2 := by
    refine Value.nestingItems_le_iff.mpr fun v hv => ?_
    obtain ⟨service, -, rfl⟩ := List.mem_map.mp hv
    exact hservice service
  have hexports := hpairs f.exports.sorted
  have hwritable := htexts f.writable
  simp only [value, Value.nesting, Value.nestingMembers]
  omega

end Finalizer

/-- The JSON export of a graph that the calls and stages make is its exported form: read with room
for its containers it is that document, and so are its tokens, with the names of every object in
order. The same holds of any record for the finalizer, which is read wherever there is room for four
containers. Both exports are in ASCII and end in a line break. Texts are of scalar values, so lone
surrogates are left out. -/
theorem exports_read_back :
    (∀ g : Graph, g.Built → g.ShortModes →
      ∃ v s, g.payload = .ok v ∧ g.toJson = .ok s ∧ v.ExportedAs s) ∧
    ∀ f : Finalizer, f.Reached → f.value.ExportedAs f.text ∧
      ∀ depth, 4 ≤ depth → readWithin depth f.text.toList = .ok f.value := by
  constructor
  · intro g hg hmodes
    obtain ⟨v, hv, hn⟩ := Graph.exists_payload hg.grown
    have hjson : g.toJson = .ok (v.lines ++ "\n") := by
      rw [Graph.toJson, hv]
      rfl
    have hshort := Graph.short_payload hmodes hv
    exact ⟨v, v.lines ++ "\n", hv, hjson, Value.exportedAs_lines hn hshort⟩
  · intro f hf
    have hexported : f.value.ExportedAs f.text :=
      Value.exportedAs_lines (normal_value hf.nodup_exports) f.short_value
    refine ⟨hexported, fun depth hdepth => ?_⟩
    exact hexported.reads depth (f.nesting_value_le.trans hdepth)

/-- A graph with a nested one, a character above U+FFFF in a name, others that need an escape, and a
negative mode; and a record that exports such texts. -/
theorem exports_read_back_escaped :
    ∃ (inner outer : Graph) (v : Value) (s : String) (f : Finalizer),
      outer.Built ∧ Graph.Nested outer inner ∧
      inner.environment = [("😀", "\"é\\\n")] ∧
      inner.operations[1]? = some (.makeDir ⟨"data", .configWrite⟩ "/data" (-511) true) ∧
      outer.payload = .ok v ∧ outer.toJson = .ok s ∧ readWithin maxDepth s.toList = .ok v ∧
      f.exports = [("b", "\x7f"), ("a", "😀")] ∧
      readWithin maxDepth f.text.toList = .ok f.value := by
  obtain ⟨inner, hinner, henv, hdir, hmodes, hroom⟩ : ∃ inner : Graph, inner.Built ∧
      inner.environment = [("😀", "\"é\\\n")] ∧
      inner.operations[1]? = some (.makeDir ⟨"data", .configWrite⟩ "/data" (-511) true) ∧
      (∀ op ∈ inner.operations, op.ShortModes) ∧
      ∃ v, (Graph.scratch.append (.copy ⟨"take", .fetch⟩ inner "/data" "/é")).payload = .ok v ∧
        v.nesting ≤ maxDepth := by
    have he := Graph.Built.scratch.addEnv (rfl : Graph.scratch.addEnv "😀" "\"é\\\n" = .ok _)
    have hd := he.makeDir (rfl : Graph.makeDir _ "/data" "data" (-511) = .ok _)
    refine ⟨_, hd, rfl, rfl, ?_, _, rfl, by cbv⟩
    refine List.forall_mem_cons.mpr ⟨⟨?_, ?_⟩, List.forall_mem_singleton.mpr ⟨?_, ?_⟩⟩
    · rintro _ ⟨⟩
    · rintro _ _ _ _ ⟨⟩
    · intro mode hmode
      cases hmode
      decide
    · rintro _ _ _ _ ⟨⟩
  have hcopy : Graph.scratch.copy inner "/data" "/é" "take" =
      .ok (Graph.scratch.append (.copy ⟨"take", .fetch⟩ inner "/data" "/é")) := rfl
  generalize Graph.scratch.append (.copy ⟨"take", .fetch⟩ inner "/data" "/é") = outer at hroom hcopy
  have houter := Graph.Built.scratch.copy hinner hcopy
  have hshort : outer.ShortModes := by
    obtain ⟨-, -, rfl⟩ := Graph.copy_eq_ok_iff.mp hcopy
    refine Graph.shortModes_iff.mpr (List.forall_mem_singleton.mpr ⟨?_, ?_⟩)
    · rintro _ ⟨⟩
    · intro label source src dest heq
      cases heq
      exact Graph.shortModes_iff.mpr hmodes
  obtain ⟨v, s, hv, hs, hexported⟩ := exports_read_back.1 outer houter hshort
  obtain ⟨w, hw, hnesting⟩ := hroom
  cases hv.symm.trans hw
  have hf := (Finalizer.Reached.empty.exportVariable "b" "\x7f").exportVariable "a" "😀"
  have hread := (exports_read_back.2 _ hf).2 maxDepth (by decide)
  exact ⟨inner, outer, v, s, _, houter, Graph.Nested.of_copy hcopy, henv, hdir, hv, hs,
    hexported.reads maxDepth hnesting, rfl, hread⟩

end RuntimeImage
