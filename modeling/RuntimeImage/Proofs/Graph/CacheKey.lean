import Mathlib.Data.List.Permutation
import RuntimeImage.Proofs.Graph.Built
import RuntimeImage.Proofs.Graph.Payload

/-!
The cache key of a graph. Reachable graphs with the same canonical bytes are the same graph, so two
of them share a key only when their bytes collide under SHA-256.
-/

namespace RuntimeImage

theorem Hex.encode_injective {a b : Bytes} (h : encode a = encode b) : a = b := by
  have hd := decode_encode a
  rw [h, decode_encode] at hd
  exact (Option.some.inj hd).symm

namespace Graph

variable {g h : Graph} {b c : Bytes}

theorem toCbor_eq_ok_iff :
    g.toCbor = .ok b ↔
      ∃ v, g.payload = .ok v ∧ b = Cbor.encode v ∧ b.length ≤ Bytes.sizeLimit := by
  unfold toCbor
  cases g.payload with
  | error fault => simp
  | ok v =>
    simp only [Except.ok.injEq, exists_eq_left']
    split
    · next hs =>
      constructor
      · intro hb
        cases hb
        exact ⟨rfl, hs⟩
      · rintro ⟨rfl, -⟩
        rfl
    · next hs =>
      constructor
      · intro hb
        cases hb
      · rintro ⟨rfl, hlen⟩
        exact absurd hlen hs

theorem Grown.eq_of_toCbor (hg : Grown g) (hh : Grown h) (hb : g.toCbor = .ok b)
    (hc : h.toCbor = .ok b) : g = h := by
  obtain ⟨v, hv, rfl, hs⟩ := toCbor_eq_ok_iff.mp hb
  obtain ⟨w, hw, he, -⟩ := toCbor_eq_ok_iff.mp hc
  obtain ⟨v', hv', hnv⟩ := Graph.exists_payload hg
  obtain ⟨w', hw', hnw⟩ := Graph.exists_payload hh
  cases hv.symm.trans hv'
  cases hw.symm.trans hw'
  -- No byte string is as long as a head could count, so reading back needs no further bound.
  have hbound : (Cbor.encode v).length < 2 ^ 64 := Nat.lt_of_le_of_lt hs (by decide)
  cases Cbor.encode_injective hnv hnw hbound he
  exact Graph.eq_of_payload hg hh hv hw

/-- Of two reachable graphs that have an encoding, the encodings agree exactly when the graphs do,
and different graphs have one digest only where SHA-256 maps different bytes to the same ones. -/
theorem toCbor_faithful (hg : Built g) (hh : Built h) (hb : g.toCbor = .ok b)
    (hc : h.toCbor = .ok c) :
    (b = c ↔ g = h) ∧
      (g ≠ h → g.digest = h.digest → b ≠ c ∧ Digest.sha256 b = Digest.sha256 c) := by
  have hiff : b = c ↔ g = h := by
    constructor
    · rintro rfl
      exact hg.grown.eq_of_toCbor hh.grown hb hc
    · rintro rfl
      exact Except.ok.inj (hb.symm.trans hc)
  refine ⟨hiff, fun hne hd => ⟨fun he => hne (hiff.mp he), ?_⟩⟩
  rw [digest, digest, hb, hc] at hd
  exact Hex.encode_injective (Except.ok.inj hd)

/-- Two graphs that differ in the order of their settings alone, and so have the same exported
variables. -/
theorem toCbor_faithful_of_swapped : ∃ (g h : Graph) (b c : Bytes),
    (Built g ∧ Built h ∧ g.toCbor = .ok b ∧ h.toCbor = .ok c) ∧
      g.environment = [("A", "1"), ("B", "2")] ∧ h.environment = [("B", "2"), ("A", "1")] ∧
      b ≠ c := by
  obtain ⟨g, hg, henv, hb⟩ : ∃ g : Graph, Built g ∧ g.environment = [("A", "1"), ("B", "2")] ∧
      g.toCbor.isOk = true := by
    have ha := Built.scratch.addEnv (rfl : scratch.addEnv "A" "1" = .ok _)
    exact ⟨_, ha.addEnv (rfl : Graph.addEnv _ "B" "2" = .ok _), rfl, by cbv⟩
  obtain ⟨h, hh, henv', hc⟩ : ∃ h : Graph, Built h ∧ h.environment = [("B", "2"), ("A", "1")] ∧
      h.toCbor.isOk = true := by
    have hb := Built.scratch.addEnv (rfl : scratch.addEnv "B" "2" = .ok _)
    exact ⟨_, hb.addEnv (rfl : Graph.addEnv _ "A" "1" = .ok _), rfl, by cbv⟩
  obtain ⟨b, hb⟩ := exists_eq_ok hb
  obtain ⟨c, hc⟩ := exists_eq_ok hc
  refine ⟨g, h, b, c, ⟨hg, hh, hb, hc⟩, henv, henv', ?_⟩
  intro he
  have heq := (toCbor_faithful hg hh hb hc).1.mp he
  rw [heq, henv'] at henv
  exact absurd henv (by decide)

end Graph

end RuntimeImage
