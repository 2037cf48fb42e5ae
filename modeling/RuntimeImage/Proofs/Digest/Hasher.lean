import RuntimeImage.Digest

/-!
Digests of messages that come in pieces. However a message is cut, taking in its pieces one after the
other gives the digest of the whole: blocks are compressed in the order in which they stand, and the
bytes behind the last whole block wait for the next piece.
-/

namespace RuntimeImage

theorem Bytes.flatten_reads {size n : Nat} {bytes : Bytes} (hs : 0 < size)
    (hn : bytes.length ≤ n) : (reads size n bytes).flatten = bytes := by
  induction n generalizing bytes with
  | zero =>
    rw [List.eq_nil_of_length_eq_zero (Nat.le_zero.mp hn)]
    rfl
  | succ n ih =>
    cases bytes with
    | nil => rfl
    | cons b rest =>
      have hrest : ((b :: rest).drop size).length ≤ n := by
        rw [List.length_drop]
        omega
      rw [reads, List.flatten_cons, ih hrest, List.take_append_drop]
      simp

theorem Bytes.flatten_chunks {size : Nat} (hs : 0 < size) (bytes : Bytes) :
    (chunks size bytes).flatten = bytes := flatten_reads hs (Nat.le_refl _)

namespace Digest

theorem length_lt_of_no_word {bytes : Bytes}
    (h : ∀ a b c d rest, bytes = a :: b :: c :: d :: rest → False) : bytes.length < 4 := by
  rcases bytes with _ | ⟨a, _ | ⟨b, _ | ⟨c, _ | ⟨d, rest⟩⟩⟩⟩
  · simp
  · simp
  · simp
  · simp
  · exact (h a b c d rest rfl).elim

theorem length_wordsOf (bytes : Bytes) : (wordsOf bytes).length = bytes.length / 4 := by
  fun_induction wordsOf bytes with
  | case1 a b c d rest ih =>
    simp only [List.length_cons, ih]
    omega
  | case2 bytes hshort =>
    rw [List.length_nil, Nat.div_eq_of_lt (length_lt_of_no_word hshort)]

theorem wordsOf_append {whole : Bytes} (hw : 4 ∣ whole.length) (bytes : Bytes) :
    wordsOf (whole ++ bytes) = wordsOf whole ++ wordsOf bytes := by
  fun_induction wordsOf whole with
  | case1 a b c d rest ih =>
    have hrest : 4 ∣ rest.length := by
      simp only [List.length_cons] at hw
      omega
    simp only [List.cons_append, wordsOf, ih hrest]
  | case2 whole hshort =>
    have hlen := length_lt_of_no_word hshort
    have hnil : whole = [] := List.eq_nil_of_length_eq_zero (by omega)
    rw [hnil, List.nil_append, List.nil_append]

theorem blocksOf_append {m : Nat} {whole : List UInt32} (hw : whole.length = 16 * m) (n : Nat)
    (words : List UInt32) :
    blocksOf (m + n) (whole ++ words) = blocksOf m whole ++ blocksOf n words := by
  induction m generalizing whole with
  | zero =>
    rw [List.eq_nil_of_length_eq_zero (by omega : whole.length = 0), Nat.zero_add]
    rfl
  | succ m ih =>
    have hle : 16 ≤ whole.length := by omega
    have hdrop : (whole.drop 16).length = 16 * m := by
      rw [List.length_drop]
      omega
    rw [Nat.add_right_comm, blocksOf, List.take_append_of_le_length hle,
      List.drop_append_of_le_length hle, ih hdrop]
    rfl

/-- Whole blocks can be taken in before the rest has come. -/
theorem absorb_append {whole : Bytes} (hw : 64 ∣ whole.length) (s : State) (bytes : Bytes) :
    absorb s (whole ++ bytes) = absorb (absorb s whole) bytes := by
  obtain ⟨m, hm⟩ := hw
  have hwords : wordsOf (whole ++ bytes) = wordsOf whole ++ wordsOf bytes :=
    wordsOf_append (by omega) bytes
  have hlen : (wordsOf whole).length = 16 * m := by
    rw [length_wordsOf]
    omega
  have hblocks : (wordsOf whole ++ wordsOf bytes).length / 16 =
      m + (wordsOf bytes).length / 16 := by
    rw [List.length_append]
    omega
  have hfirst : (wordsOf whole).length / 16 = m := by omega
  simp only [absorb, hwords, hblocks, hfirst, blocksOf_append hlen, List.foldl_append]

namespace Hasher

variable {h : Hasher} {message : Bytes}

/-- The hasher has taken in the message: whole blocks from its start, and the rest is pending. -/
structure Took (h : Hasher) (message : Bytes) : Prop where
  cut : ∃ whole, message = whole ++ h.pending ∧ 64 ∣ whole.length ∧
    h.state = absorb State.start whole
  count : h.count = message.length

theorem took_start : start.Took [] := ⟨⟨[], rfl, Nat.dvd_zero 64, rfl⟩, rfl⟩

theorem Took.update (ht : h.Took message) (piece : Bytes) :
    (h.update piece).Took (message ++ piece) := by
  obtain ⟨⟨whole, rfl, hw, hs⟩, hc⟩ := ht
  -- Of what was pending and what comes, the first `n` bytes are whole blocks.
  generalize hbytes : h.pending ++ piece = bytes
  generalize hn : bytes.length - bytes.length % 64 = n
  have hlen : (bytes.take n).length = n := by
    rw [List.length_take]
    omega
  have hwhole : 64 ∣ (bytes.take n).length := by omega
  refine ⟨⟨whole ++ bytes.take n, ?_, ?_, ?_⟩, ?_⟩
  · simp only [Hasher.update, hbytes, hn, List.append_assoc, List.take_append_drop]
  · rw [List.length_append]
    exact Nat.dvd_add hw hwhole
  · rw [absorb_append hw, ← hs]
    simp only [Hasher.update, hbytes, hn]
  · simp only [Hasher.update, hc, List.length_append]

theorem Took.foldl_update (ht : h.Took message) (pieces : List Bytes) :
    (pieces.foldl Hasher.update h).Took (message ++ pieces.flatten) := by
  induction pieces generalizing h message with
  | nil => simpa using ht
  | cons piece pieces ih =>
    rw [List.flatten_cons, ← List.append_assoc]
    exact ih (ht.update piece)

theorem Took.hex_eq (ht : h.Took message) : h.hex = Digest.hex message := by
  obtain ⟨⟨whole, hm, hw, hs⟩, hc⟩ := ht
  -- The padding of both depends on the length of the message alone.
  rw [Hasher.hex, Digest.hex, sha256, hs, hc, hm, List.append_assoc, absorb_append hw]

end Hasher

/-- The digest of a message does not depend on the pieces in which it comes. -/
theorem hex_foldl_update (pieces : List Bytes) :
    (pieces.foldl .update Hasher.start).hex = hex pieces.flatten := by
  simpa using (Hasher.took_start.foldl_update pieces).hex_eq

end Digest

end RuntimeImage
