import Mathlib.Algebra.Group.Int.Defs
import RuntimeImage.Proofs.Cbor.Canonical
import RuntimeImage.Proofs.Graph.CacheKey

/-!
The canonical bytes of a graph. They are one item and nothing else, they read back as the exported
form, and in the only way there is to take them apart every head is the shortest one and the names
of every map ascend.
-/

namespace RuntimeImage.Graph

variable {g : Graph}

/-- A reachable graph has an exported form, and bytes unless they were too many for a byte string.
The bytes decode to the exported form, and are spelled by one item alone, which is canonical. Texts
are of scalar values, so lone surrogates, which have no bytes, are left out. -/
theorem toCbor_canonical (hg : Built g) :
    ∃ v, g.payload = .ok v ∧
      (g.toCbor = .error .exportTooLarge ↔ Bytes.sizeLimit < (Cbor.encode v).length) ∧
      (g.toCbor = .ok (Cbor.encode v) ↔ (Cbor.encode v).length ≤ Bytes.sizeLimit) ∧
      ∀ b, g.toCbor = .ok b → Cbor.decode b = some v ∧
        ∃ item : Cbor.Item, item.WellFormed ∧ item.bytes = b ∧ item.Canonical ∧
          ∀ other : Cbor.Item, other.WellFormed → other.bytes = b → other = item := by
  obtain ⟨v, hv, hnormal⟩ := Graph.exists_payload hg.grown
  have hencoded : g.toCbor = if (Cbor.encode v).length ≤ Bytes.sizeLimit then
      .ok (Cbor.encode v) else .error .exportTooLarge := by
    simp only [toCbor, hv]
  refine ⟨v, hv, ?_, ?_, ?_⟩
  · rw [hencoded]
    split <;> simp <;> omega
  · rw [hencoded]
    split <;> simp_all
  · intro b hb
    obtain ⟨w, hw, rfl, hs⟩ := toCbor_eq_ok_iff.mp hb
    cases hv.symm.trans hw
    -- The longest byte string is shorter than what a head could count.
    have hbound : (Cbor.encode v).length < 2 ^ 64 := Nat.lt_of_le_of_lt hs (by decide)
    obtain ⟨item, hitem⟩ := Cbor.Item.exists_spells hnormal hbound
    refine ⟨Cbor.decode_encode hnormal hbound, item, hitem.wellFormed, hitem.bytes_eq,
      hitem.canonical, ?_⟩
    intro other hother hbytes
    exact hitem.eq_of_bytes hother hbytes

set_option maxRecDepth 1000 in
/-- A graph with a nested one, whose names are written in another order than that of code points and
whose mode needs the widest of heads. -/
theorem toCbor_canonical_of_nested :
    ∃ (inner outer : Graph) (v : Json.Value) (b : Bytes) (item : Cbor.Item),
      Built outer ∧ Nested outer inner ∧ inner.environment = [("B", "1"), ("AA", "2")] ∧
      inner.operations[2]? = some (.makeDir ⟨"data", .configWrite⟩ "/data" (-(2 ^ 40)) true) ∧
      outer.payload = .ok v ∧ outer.toCbor = .ok b ∧ Cbor.decode b = some v ∧ item.bytes = b ∧
      item.Canonical := by
  obtain ⟨inner, hinner, henv, hdir, hsize⟩ : ∃ inner : Graph, Built inner ∧
      inner.environment = [("B", "1"), ("AA", "2")] ∧
      inner.operations[2]? = some (.makeDir ⟨"data", .configWrite⟩ "/data" (-(2 ^ 40)) true) ∧
      (scratch.append (.copy ⟨"take", .fetch⟩ inner "/out" "/in")).toCbor.isOk = true := by
    have hb := Built.scratch.addEnv (rfl : scratch.addEnv "B" "1" = .ok _)
    have ha := hb.addEnv (rfl : Graph.addEnv _ "AA" "2" = .ok _)
    have hd := ha.makeDir (rfl : Graph.makeDir _ "/data" "data" (-(2 ^ 40)) = .ok _)
    exact ⟨_, hd, rfl, rfl, by cbv⟩
  obtain ⟨outer, hcopy, hok⟩ : ∃ outer, scratch.copy inner "/out" "/in" "take" = .ok outer ∧
      outer.toCbor.isOk = true := ⟨_, rfl, hsize⟩
  have houter := Built.scratch.copy hinner hcopy
  obtain ⟨b, hb⟩ := exists_eq_ok hok
  obtain ⟨v, hv, -, -, hbytes⟩ := toCbor_canonical houter
  obtain ⟨hdecode, item, -, hspelled, hcanonical, -⟩ := hbytes b hb
  exact ⟨inner, outer, v, b, item, houter, Nested.of_copy hcopy, henv, hdir, hv, hb, hdecode,
    hspelled, hcanonical⟩

end RuntimeImage.Graph
