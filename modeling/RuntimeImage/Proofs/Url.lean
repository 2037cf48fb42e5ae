import RuntimeImage.Url

/-!
The scheme of a URL, said of the URL itself: a word in front of a colon, in any case, where tabs and
line breaks anywhere and controls and spaces in front count for nothing.
-/

namespace RuntimeImage.Url

variable {url word : String} {c : Char} {cs name rest : List Char}

/-- The URL starts with the word, in any case, and a colon ends it. -/
def HasScheme (url word : String) : Prop :=
  ∃ name rest, clean url.toList = name ++ ':' :: rest ∧ String.ofList (name.map Char.toLower) = word

/-- A word of lower-case letters, one or more. -/
structure IsWord (word : String) : Prop where
  ne_empty : word ≠ ""
  letters : ∀ c ∈ word.toList, c.isLower

theorem isAlpha_of_isLower_toLower (h : c.toLower.isLower) : c.isAlpha := by
  show (c.isUpper || c.isLower) = true
  unfold Char.toLower at h
  split at h
  · next hupper =>
    have hc : c.isUpper := decide_eq_true hupper
    rw [hc, Bool.true_or]
  · rw [h, Bool.or_true]

/-- A name of letters is cut off at the colon behind it. -/
theorem cutScheme_append (hne : name ≠ []) (hletters : ∀ c ∈ name, c.isAlpha) :
    cutScheme (name ++ ':' :: rest) = (name.map Char.toLower, rest) := by
  have hcolon : ∀ c ∈ name, decide (c ≠ ':') = true := by
    intro c hc
    rw [decide_eq_true_eq]
    rintro rfl
    exact absurd (hletters _ hc) (by decide)
  have hbefore : (name ++ ':' :: rest).takeWhile (· ≠ ':') = name := by
    rw [List.takeWhile_append_of_pos hcolon, List.takeWhile_cons_of_neg (by decide),
      List.append_nil]
  have hafter : (name ++ ':' :: rest).drop name.length = ':' :: rest := List.drop_left
  have hhead : name.head?.any Char.isAlpha = true := by
    obtain ⟨first, others, rfl⟩ := List.exists_cons_of_ne_nil hne
    exact hletters first List.mem_cons_self
  have hall : name.all isSchemeChar = true := by
    refine List.all_eq_true.mpr fun c hc => ?_
    simp [isSchemeChar, Char.isAlphanum, hletters c hc]
  rw [cutScheme, hbefore, hafter, if_pos ⟨List.cons_ne_nil _ _, hhead, hall⟩]
  rfl

/-- What is cut off, if anything, stands in front of a colon. -/
theorem exists_of_cutScheme (hne : name ≠ []) (h : cutScheme cs = (name, rest)) :
    ∃ before, cs = before ++ ':' :: rest ∧ before.map Char.toLower = name := by
  obtain ⟨before, after, hbefore, hafter, rfl⟩ : ∃ before after,
      cs.takeWhile (· ≠ ':') = before ∧ cs.dropWhile (· ≠ ':') = after ∧ cs = before ++ after :=
    ⟨_, _, rfl, rfl, List.takeWhile_append_dropWhile.symm⟩
  rw [cutScheme, hbefore, List.drop_left] at h
  split at h
  · next hcut =>
    obtain ⟨hname, hrest⟩ := Prod.mk.inj h
    obtain ⟨c, others, rfl⟩ := List.exists_cons_of_ne_nil hcut.1
    have hc : c = ':' := by
      have hstop := List.head?_dropWhile_not (fun c => decide (c ≠ ':')) (before ++ c :: others)
      rw [hafter] at hstop
      simpa using hstop
    rw [hc, ← hrest]
    exact ⟨before, rfl, hname⟩
  · cases h
    exact absurd rfl hne

/-- A URL that can be taken apart has as its scheme the word that it starts with. -/
theorem scheme_eq_ok_iff (hw : IsWord word) (hok : ∃ scheme, Url.scheme url = .ok scheme) :
    Url.scheme url = .ok word ↔ HasScheme url word := by
  obtain ⟨found, hfound⟩ := hok
  have hcut : ∃ name rest, cutScheme (clean url.toList) = (name, rest) ∧
      String.ofList name = found := by
    unfold scheme at hfound
    split at hfound
    next name rest hcut =>
    split at hfound
    · exact ⟨name, rest, hcut, Except.ok.inj hfound⟩
    · cases hfound
  obtain ⟨name, rest, hcut, rfl⟩ := hcut
  rw [hfound, Except.ok.injEq]
  constructor
  · rintro rfl
    have hne : name ≠ [] := by
      rintro rfl
      exact hw.ne_empty rfl
    obtain ⟨before, hclean, hname⟩ := exists_of_cutScheme hne hcut
    exact ⟨before, rest, hclean, by rw [hname]⟩
  · rintro ⟨before, others, hclean, rfl⟩
    have hne : before ≠ [] := by
      rintro rfl
      exact hw.ne_empty rfl
    have hletters : ∀ c ∈ before, c.isAlpha := by
      intro c hc
      refine isAlpha_of_isLower_toLower (hw.letters _ ?_)
      rw [String.toList_ofList]
      exact List.mem_map_of_mem hc
    rw [hclean, cutScheme_append hne hletters] at hcut
    rw [(Prod.mk.inj hcut).1]

end RuntimeImage.Url
