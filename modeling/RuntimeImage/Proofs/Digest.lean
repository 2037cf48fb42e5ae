import RuntimeImage.Digest
import RuntimeImage.Distribution
import RuntimeImage.Proofs.Path

/-!
Digests as texts: every SHA-256 digest is written with sixty-four lowercase hexadecimal digits, so
it is a name for a file, and the name of a draft beside it is no digest.
-/

namespace RuntimeImage

theorem Hex.isLowerHex_digit {n : Nat} (h : n < 16) : Distribution.isLowerHex (digit n) := by
  have table : ∀ m : Fin 16, Distribution.isLowerHex (digit m) := by decide
  exact table ⟨n, h⟩

theorem Hex.all_isLowerHex (bytes : Bytes) :
    (encode bytes).toList.all Distribution.isLowerHex := by
  rw [encode, String.toList_ofList]
  induction bytes with
  | nil => rfl
  | cons b bytes ih =>
    have high : b.toNat / 16 < 16 := Nat.div_lt_of_lt_mul (by simpa using b.toNat_lt)
    have low : b.toNat % 16 < 16 := Nat.mod_lt _ (by decide)
    rw [List.flatMap_cons, List.all_append, ih, Bool.and_true]
    simp [ofByte, isLowerHex_digit high, isLowerHex_digit low]

theorem Hex.length_encode (bytes : Bytes) : (encode bytes).toList.length = 2 * bytes.length := by
  rw [encode, String.toList_ofList]
  induction bytes with
  | nil => rfl
  | cons b bytes ih =>
    rw [List.flatMap_cons, List.length_append, ih, List.length_cons]
    simp only [ofByte, List.length_cons, List.length_nil]
    omega

namespace Digest

theorem length_sha256 (message : Bytes) : (sha256 message).length = 32 := by
  simp [sha256, State.bytes, State.words]

theorem isDigest_hex (message : Bytes) : Distribution.isDigest (hex message) := by
  have hlen : (hex message).toList.length = 64 := by
    rw [hex, Hex.length_encode, length_sha256]
  rw [Distribution.isDigest, hex, Hex.all_isLowerHex, ← hex, hlen]
  rfl

end Digest

namespace Distribution

variable {s : String}

theorem length_of_isDigest (h : isDigest s) : s.toList.length = 64 := by
  simp only [isDigest, Bool.and_eq_true, decide_eq_true_eq] at h
  exact h.1

theorem not_slash_of_isDigest (h : isDigest s) : '/' ∉ s.toList := by
  simp only [isDigest, Bool.and_eq_true] at h
  intro hslash
  exact absurd (List.all_eq_true.mp h.2 '/' hslash) (by decide)

/-- A digest is one path component, and leads down. -/
theorem isEntry_of_isDigest (h : isDigest s) : Path.IsEntry s := by
  have hlen := length_of_isDigest h
  exact Path.isEntry_of_length (by omega) (not_slash_of_isDigest h)

/-- So does a digest with anything but a slash after it. -/
theorem isEntry_append (h : isDigest s) {extension : String} (hx : '/' ∉ extension.toList) :
    Path.IsEntry (s ++ extension) := by
  have hlen := length_of_isDigest h
  apply Path.isEntry_of_length
  · rw [String.toList_append, List.length_append]
    omega
  · rw [String.toList_append, List.mem_append, not_or]
    exact ⟨not_slash_of_isDigest h, hx⟩

/-- A digest with anything after it is too long to be one. -/
theorem not_isDigest_append (h : isDigest s) {extension : String} (hx : extension ≠ "") :
    ¬isDigest (s ++ extension) := by
  intro hlong
  have hlen := length_of_isDigest hlong
  rw [String.toList_append, List.length_append, length_of_isDigest h] at hlen
  have hnil : extension.toList = [] := List.eq_nil_of_length_eq_zero (by omega)
  exact hx (String.toList_eq_nil_iff.mp hnil)

end Distribution

end RuntimeImage
