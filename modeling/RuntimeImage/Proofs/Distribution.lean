import RuntimeImage.Distribution

/-!
What is known of a distribution once it was accepted, and what it is refused for. Its fields are
checked one after the other, and what the stages derive from them needs no check of its own.
-/

namespace RuntimeImage.Distribution

variable {d d' : Distribution} {fault : Fault}

/-- A check in a row of checks. -/
theorem check_eq_ok_iff {refused : Prop} [Decidable refused] {checks : Except Fault Distribution} :
    (if refused then .error fault else checks) = .ok d ↔ ¬refused ∧ checks = .ok d := by
  split <;> simp [*]

/-- A distribution is accepted as it is, when each of its fields passes its check. -/
theorem validate_eq_ok_iff :
    d.validate = .ok d' ↔
      (∃ scheme ∈ urlSchemes, Url.scheme d.url = .ok scheme) ∧ isDigest d.sha256 ∧
        (d.archiveName ≠ "" ∧ '/' ∉ d.archiveName.toList) ∧
        Path.isAbsolute d.installRoot ∧ Path.isAbsolute d.binDir ∧ d' = d := by
  unfold validate
  cases Url.scheme d.url with
  | error fault => simp
  | ok scheme =>
    -- The checks are taken apart first: simp would turn those that are negated around.
    simp only [check_eq_ok_iff]
    simp [@eq_comm _ d]

/-- What a distribution is refused for: its URL cannot be taken apart, or a field is invalid. -/
theorem validate_cases (h : d.validate = .error fault) :
    (∃ f, Url.scheme d.url = .error f ∧ fault = .url f) ∨ ∃ reason, fault = .invalid reason := by
  unfold validate at h
  split at h
  · next f hf =>
    cases h
    exact Or.inl ⟨f, hf, rfl⟩
  · refine Or.inr ?_
    repeat
      split at h
      · cases h
        exact ⟨_, rfl⟩
    cases h

theorem isDigest_of_validate (h : d.validate = .ok d') : isDigest d.sha256 := by
  obtain ⟨-, hdigest, -⟩ := validate_eq_ok_iff.mp h
  exact hdigest

/-- What the later calls need of a distribution. -/
structure Usable (d : Distribution) : Prop where
  url : d.url ≠ ""
  installRoot : Path.isAbsolute d.installRoot
  binDir : Path.isAbsolute d.binDir

theorem usable_of_validate (h : d.validate = .ok d') : d.Usable := by
  obtain ⟨⟨scheme, hknown, hscheme⟩, -, -, hroot, hbin, -⟩ := validate_eq_ok_iff.mp h
  refine ⟨?_, hroot, hbin⟩
  intro hurl
  rw [hurl] at hscheme
  -- An empty URL has an empty scheme, which is none of the known ones.
  cases hscheme
  exact absurd hknown (by decide)

theorem stagingPath_ne_empty (d : Distribution) : d.stagingPath ≠ "" := by
  simp [stagingPath]

theorem executable_ne_empty (d : Distribution) : d.executable ≠ "" := by
  simp [executable]

end RuntimeImage.Distribution
