import RuntimeImage.Provision.Workspace

/-!
How a step of provisioning runs: it gives a value or ends in a fault, and leaves a workspace in
either case. A run of one step after another is taken apart once, here, so that what a whole stage
does follows from what its steps do.
-/

namespace RuntimeImage

/-- Two checks in a row succeed when the second does on what the first one answers. -/
theorem bind_eq_ok_iff {ε α β : Type} {x : Except ε α} {f : α → Except ε β} {b : β} :
    (x >>= f) = .ok b ↔ ∃ a, x = .ok a ∧ f a = .ok b := by
  cases x <;> simp [bind, Except.bind]

/-- A check behind one that passes passes too when it does so on any answer of the first. -/
theorem exists_bind_eq_ok {ε α β : Type} {x : Except ε α} {f : α → Except ε β}
    (hx : ∃ a, x = .ok a) (hf : ∀ a, ∃ b, f a = .ok b) : ∃ b, (x >>= f) = .ok b := by
  obtain ⟨a, ha⟩ := hx
  obtain ⟨b, hb⟩ := hf a
  exact ⟨b, bind_eq_ok_iff.mpr ⟨a, ha, hb⟩⟩

theorem bind_eq_error {ε α β : Type} {x : Except ε α} {f : α → Except ε β} {e : ε}
    (hx : x = .error e) : (x >>= f) = .error e := by
  rw [hx]
  rfl

theorem bind_eq_error_of_ok {ε α β : Type} {x : Except ε α} {f : α → Except ε β} {e : ε}
    (hx : ∃ a, x = .ok a) (hf : ∀ a, f a = .error e) : (x >>= f) = .error e := by
  obtain ⟨a, rfl⟩ := hx
  exact hf a

theorem exists_eq_ok {ε α : Type} {x : Except ε α} (h : x.isOk = true) : ∃ a, x = .ok a := by
  cases x with
  | error e => cases h
  | ok a => exact ⟨a, rfl⟩

namespace Provisioning

variable {α β : Type} {m : Provisioning α} {f : α → Provisioning β}
  {w w' : Workspace} {a : α} {fault : Fault}

/-- Run in `w`, the step gives `a` and leaves `w'`. -/
def Gives (m : Provisioning α) (w : Workspace) (a : α) (w' : Workspace) : Prop :=
  m.run.run w = (.ok a, w')

/-- Run in `w`, the step ends in a fault and leaves `w'`. -/
def Fails (m : Provisioning α) (w : Workspace) (fault : Fault) (w' : Workspace) : Prop :=
  m.run.run w = (.error fault, w')

theorem gives_or_fails (m : Provisioning α) (w : Workspace) :
    (∃ a w', Gives m w a w') ∨ ∃ fault w', Fails m w fault w' := by
  rcases h : m.run.run w with ⟨fault | a, w'⟩
  · exact Or.inr ⟨fault, w', h⟩
  · exact Or.inl ⟨a, w', h⟩

theorem exists_fails (h : (m.run.run w).1 = .error fault) : ∃ w', Fails m w fault w' :=
  ⟨(m.run.run w).2, Prod.ext h rfl⟩

theorem run_bind_of_gives (h : Gives m w a w') : (m >>= f).run.run w = (f a).run.run w' := by
  rw [Gives] at h
  rw [ExceptT.run_bind, StateT.run_bind, h]
  rfl

theorem run_bind_of_fails (h : Fails m w fault w') :
    (m >>= f).run.run w = (.error fault, w') := by
  rw [Fails] at h
  rw [ExceptT.run_bind, StateT.run_bind, h]
  rfl

theorem gives_bind_iff {b : β} {w₂ : Workspace} :
    Gives (m >>= f) w b w₂ ↔ ∃ a w₁, Gives m w a w₁ ∧ Gives (f a) w₁ b w₂ := by
  rcases gives_or_fails m w with ⟨a, w₁, h⟩ | ⟨fault, w₁, h⟩
  · rw [Gives, run_bind_of_gives h]
    constructor
    · intro hf
      exact ⟨a, w₁, h, hf⟩
    · rintro ⟨a', w', h', hf⟩
      cases h.symm.trans h'
      exact hf
  · rw [Gives, run_bind_of_fails h]
    constructor
    · intro hf
      cases hf
    · rintro ⟨a', w', h', -⟩
      cases h.symm.trans h'

theorem fails_bind_iff {w₂ : Workspace} :
    Fails (m >>= f) w fault w₂ ↔
      Fails m w fault w₂ ∨ ∃ a w₁, Gives m w a w₁ ∧ Fails (f a) w₁ fault w₂ := by
  rcases gives_or_fails m w with ⟨a, w₁, h⟩ | ⟨fault', w₁, h⟩
  · rw [Fails, run_bind_of_gives h]
    constructor
    · intro hf
      exact Or.inr ⟨a, w₁, h, hf⟩
    · rintro (h' | ⟨a', w', h', hf⟩)
      · cases h.symm.trans h'
      · cases h.symm.trans h'
        exact hf
  · rw [Fails, run_bind_of_fails h]
    constructor
    · intro hf
      cases hf
      exact Or.inl h
    · rintro (h' | ⟨a', w', h', -⟩)
      · cases h.symm.trans h'
        rfl
      · cases h.symm.trans h'

/-- What each of two steps does to a workspace both do in a row, or the first one alone if it
fails. -/
theorem related_bind {R : Workspace → Workspace → Prop}
    (trans : ∀ {w₁ w₂ w₃}, R w₁ w₂ → R w₂ w₃ → R w₁ w₃) (hm : ∀ w, R w (m.run.run w).2)
    (hf : ∀ a w, R w ((f a).run.run w).2) (w : Workspace) : R w ((m >>= f).run.run w).2 := by
  have hw := hm w
  rcases gives_or_fails m w with ⟨a, w₁, h⟩ | ⟨fault, w₁, h⟩
  · rw [h] at hw
    rw [run_bind_of_gives h]
    exact trans hw (hf a w₁)
  · rw [h] at hw
    rwa [run_bind_of_fails h]

/-- The step leaves what `view` shows of a workspace as it was, whether it fails or not. -/
def Keeps {γ : Type} (view : Workspace → γ) (m : Provisioning α) : Prop :=
  ∀ w, view (m.run.run w).2 = view w

theorem Keeps.bind {γ : Type} {view : Workspace → γ} (hm : Keeps view m)
    (hf : ∀ a, Keeps view (f a)) : Keeps view (m >>= f) :=
  related_bind (R := fun w w' => view w' = view w) (fun h h' => h'.trans h) hm hf

@[simp] theorem gives_pure_iff {a' : α} :
    Gives (pure a : Provisioning α) w a' w' ↔ a' = a ∧ w' = w := by
  constructor
  · intro h
    cases h
    exact ⟨rfl, rfl⟩
  · rintro ⟨rfl, rfl⟩
    rfl

theorem gives_ofResult_iff {result : Except Fault α} :
    Gives (ofResult result) w a w' ↔ result = .ok a ∧ w' = w := by
  constructor
  · intro h
    cases h
    exact ⟨rfl, rfl⟩
  · rintro ⟨rfl, rfl⟩
    rfl

theorem gives_onFiles_iff {action : FileTree → Except Fault α × FileTree} :
    Gives (onFiles action) w a w' ↔
      (action w.files).1 = .ok a ∧ w' = { w with files := (action w.files).2 } := by
  constructor
  · intro h
    obtain ⟨hr, hw⟩ := Prod.mk.inj h
    exact ⟨hr, hw.symm⟩
  · rintro ⟨hr, rfl⟩
    exact Prod.ext hr rfl

/-! One step in front of others. The steps that cannot fail only change the workspace. -/

variable {b : β}

@[simp] theorem gives_ofResult_bind_iff {result : Except Fault α} :
    Gives (ofResult result >>= f) w b w' ↔ ∃ a, result = .ok a ∧ Gives (f a) w b w' := by
  simp only [gives_bind_iff, gives_ofResult_iff]
  constructor
  · rintro ⟨a, w₁, ⟨ha, rfl⟩, hf⟩
    exact ⟨a, ha, hf⟩
  · rintro ⟨a, ha, hf⟩
    exact ⟨a, w, ⟨ha, rfl⟩, hf⟩

@[simp] theorem gives_record_bind_iff {r : LogRecord} {f : Unit → Provisioning β} :
    Gives (record r >>= f) w b w' ↔ Gives (f ()) { w with log := w.log ++ [r] } b w' := Iff.rfl

@[simp] theorem gives_warn_bind_iff {ws : List Warning} {f : Unit → Provisioning β} :
    Gives (warn ws >>= f) w b w' ↔ Gives (f ()) { w with warnings := w.warnings ++ ws } b w' :=
  Iff.rfl

@[simp] theorem gives_tell_bind_iff {change : Finalizer → Finalizer} {f : Unit → Provisioning β} :
    Gives (tell change >>= f) w b w' ↔ Gives (f ()) { w with finalizer := change w.finalizer } b w' :=
  Iff.rfl

@[simp] theorem gives_fetch_bind_iff {retrieve : Retriever} {url sha256 : String} {cacheDir : Path}
    {policy : Option Policy} {f : Path → Provisioning β} :
    Gives (fetch retrieve url sha256 cacheDir policy >>= f) w b w' ↔
      ∃ cached tree, ArtifactCache.fetch retrieve url sha256 cacheDir policy w.files =
          (.ok cached, tree) ∧
        Gives (f cached) { w with
          files := tree, warnings := w.warnings ++ ArtifactCache.warnings policy url } b w' := by
  simp only [fetch, bind_assoc, gives_warn_bind_iff]
  simp only [gives_bind_iff, gives_onFiles_iff]
  constructor
  · rintro ⟨cached, w₁, ⟨hr, rfl⟩, hf⟩
    exact ⟨cached, _, Prod.ext hr rfl, hf⟩
  · rintro ⟨cached, tree, ha, hf⟩
    exact ⟨cached, _, ⟨by rw [ha], rfl⟩, by rwa [ha]⟩

@[simp] theorem gives_exportEnv_bind_iff {g : Graph} {key value : String}
    {f : Graph → Provisioning β} :
    Gives (exportEnv g key value >>= f) w b w' ↔
      ∃ h, g.addEnv key value = .ok h ∧
        Gives (f h) { w with finalizer := w.finalizer.exportVariable key value } b w' := by
  simp only [exportEnv, bind_assoc, gives_tell_bind_iff, gives_ofResult_bind_iff]

end Provisioning

end RuntimeImage
