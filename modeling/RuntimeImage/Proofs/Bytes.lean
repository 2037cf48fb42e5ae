import Mathlib.Algebra.Group.Nat.Defs
import RuntimeImage.Bytes

/-!
Numbers read back from their bytes, most significant byte first.
-/

namespace RuntimeImage.Bytes

/-- The number that the bytes write in base 256. -/
def value (bytes : Bytes) : Nat := bytes.foldl (fun n b => 256 * n + b.toNat) 0

theorem value_concat (bytes : Bytes) (b : UInt8) :
    value (bytes ++ [b]) = 256 * value bytes + b.toNat := by
  simp only [value, List.foldl_append, List.foldl_cons, List.foldl_nil]

theorem value_bigEndian {w n : Nat} (hn : n < 256 ^ w) : value (bigEndian w n) = n := by
  induction w generalizing n with
  | zero =>
    have h0 : n = 0 := by simpa using hn
    rw [h0]
    rfl
  | succ w ih =>
    have hdiv : n / 256 < 256 ^ w := by
      rw [Nat.div_lt_iff_lt_mul (by decide), ← Nat.pow_succ]
      exact hn
    have hlast : (UInt8.ofNat n).toNat = n % 256 := UInt8.toNat_ofNat'
    rw [bigEndian, value_concat, ih hdiv, hlast]
    omega

theorem lt_pow_width (n : Nat) : n < 256 ^ width n := by
  unfold width
  split
  · next h =>
    rw [h]
    decide
  · calc
      n < 2 ^ (n.log2 + 1) := Nat.lt_log2_self
      _ ≤ 2 ^ (8 * (n.log2 / 8 + 1)) := Nat.pow_le_pow_right (by decide) (by omega)
      _ = 256 ^ (n.log2 / 8 + 1) := by rw [Nat.pow_mul]

theorem value_minimal (n : Nat) : value (minimal n) = n := value_bigEndian (lt_pow_width n)

theorem bigEndian_succ (w n : Nat) :
    bigEndian (w + 1) n = UInt8.ofNat (n / 256 ^ w) :: bigEndian w n := by
  induction w generalizing n with
  | zero => simp [bigEndian]
  | succ w ih =>
    have hdiv : n / 256 / 256 ^ w = n / 256 ^ (w + 1) := by
      rw [Nat.div_div_eq_div_mul, Nat.pow_succ, Nat.mul_comm]
    calc
      bigEndian (w + 2) n = bigEndian (w + 1) (n / 256) ++ [UInt8.ofNat n] := rfl
      _ = UInt8.ofNat (n / 256 ^ (w + 1)) :: (bigEndian w (n / 256) ++ [UInt8.ofNat n]) := by
        rw [ih, hdiv, List.cons_append]
      _ = UInt8.ofNat (n / 256 ^ (w + 1)) :: bigEndian (w + 1) n := rfl

/-- The fewest bytes that hold a number do not begin with a zero. -/
theorem head?_minimal_ne_zero (n : Nat) : (minimal n).head? ≠ some 0 := by
  unfold minimal width
  split
  · simp [bigEndian]
  · next hn =>
    rw [bigEndian_succ, List.head?_cons]
    intro hzero
    -- The first byte is what is left of the number above all the others.
    have hlow : 256 ^ (n.log2 / 8) ≤ n := by
      calc
        256 ^ (n.log2 / 8) = 2 ^ (8 * (n.log2 / 8)) := by rw [Nat.pow_mul]
        _ ≤ 2 ^ n.log2 := Nat.pow_le_pow_right (by decide) (by omega)
        _ ≤ n := Nat.log2_self_le hn
    have hhigh : n < 256 ^ (n.log2 / 8 + 1) := by
      have hwidth := lt_pow_width n
      rwa [width, if_neg hn] at hwidth
    have hpos : 0 < n / 256 ^ (n.log2 / 8) := Nat.div_pos hlow (Nat.pow_pos (by decide))
    have hlt : n / 256 ^ (n.log2 / 8) < 256 := by
      rw [Nat.div_lt_iff_lt_mul (Nat.pow_pos (by decide)), Nat.mul_comm, ← Nat.pow_succ]
      exact hhigh
    have hbyte := congrArg UInt8.toNat (Option.some.inj hzero)
    have hsame : (UInt8.ofNat (n / 256 ^ (n.log2 / 8))).toNat = n / 256 ^ (n.log2 / 8) := by
      rw [UInt8.toNat_ofNat']
      exact Nat.mod_eq_of_lt hlt
    rw [hsame] at hbyte
    exact absurd hbyte (Nat.ne_of_gt hpos)

end RuntimeImage.Bytes
