import RuntimeImage.Proofs.FileTree
import RuntimeImage.Proofs.Graph.CacheKey

/-!
Graphs with values in their history that are no operations. Such a graph has no exported form: the
first of these values, in the order in which a history and the graphs copied in it are gone through,
is what every export fails on, before any file is written. An export that does not fail is what the
file then holds.
-/

namespace RuntimeImage

open Json

/-! ## Places of foreign values -/

/-- A foreign value in a history, or in that of a graph copied in it, and its place: the positions of
the copies that lead to it, and last its own. -/
inductive Operation.ForeignAt : List Operation → List Nat → Foreign → Prop
  | here {ops : List Operation} {i : Nat} {v : Foreign} (h : ops[i]? = some (.foreign v)) :
    ForeignAt ops [i] v
  | copied {ops : List Operation} {i : Nat} {label : Label} {source : Graph} {src dest : String}
      {place : List Nat} {v : Foreign} (h : ops[i]? = some (.copy label source src dest))
      (hs : ForeignAt source.operations place v) : ForeignAt ops (i :: place) v

/-- No foreign value comes before this one: every other place is behind its place, in the order of
the first position in which two places differ. -/
def Operation.FirstForeign (ops : List Operation) (v : Foreign) : Prop :=
  ∃ place, ForeignAt ops place v ∧
    ∀ other w, ForeignAt ops other w → other = place ∨ List.Lex (· < ·) place other

namespace Operation

variable {op : Operation} {ops rest : List Operation} {place : List Nat} {v w : Foreign}

/-- At one place there is one value. -/
theorem ForeignAt.unique (h : ForeignAt ops place v) (h' : ForeignAt ops place w) : w = v := by
  induction h with
  | here hi =>
    cases h' with
    | here hi' =>
      cases hi.symm.trans hi'
      rfl
    | copied hi' => cases hi.symm.trans hi'
  | copied hi hs ih =>
    cases h' with
    | here hi' => cases hi.symm.trans hi'
    | copied hi' hs' =>
      cases hi.symm.trans hi'
      exact ih hs'

/-- There is only one first value. -/
theorem FirstForeign.unique (h : FirstForeign ops v) (h' : FirstForeign ops w) : w = v := by
  obtain ⟨place, hat, hfirst⟩ := h
  obtain ⟨place', hat', hfirst'⟩ := h'
  have hplace : place' = place := by
    rcases hfirst _ _ hat' with heq | hlt
    · exact heq
    · rcases hfirst' _ _ hat with heq | hgt
      · exact heq.symm
      · exact absurd hgt (List.lt_asymm hlt)
  subst hplace
  exact hat.unique hat'

theorem ForeignAt.exists_cons (h : ForeignAt ops place v) : ∃ i tail, place = i :: tail := by
  cases h with
  | here => exact ⟨_, _, rfl⟩
  | copied => exact ⟨_, _, rfl⟩

/-- What follows an operation adds nothing to the places in it. -/
theorem foreignAt_cons_zero_iff {tail : List Nat} :
    ForeignAt (op :: rest) (0 :: tail) v ↔ ForeignAt [op] (0 :: tail) v := by
  constructor
  all_goals
    intro h
    cases h with
    | here h => exact .here h
    | copied h hs => exact .copied h hs

/-- An operation moves what follows it one position on. -/
theorem foreignAt_cons_succ_iff {i : Nat} {tail : List Nat} :
    ForeignAt (op :: rest) ((i + 1) :: tail) v ↔ ForeignAt rest (i :: tail) v := by
  constructor
  all_goals
    intro h
    cases h with
    | here h => exact .here h
    | copied h hs => exact .copied h hs

/-- One operation has only the first position. -/
theorem ForeignAt.exists_zero (h : ForeignAt [op] place v) : ∃ tail, place = 0 :: tail := by
  obtain ⟨_ | i, tail, rfl⟩ := h.exists_cons
  · exact ⟨tail, rfl⟩
  · cases h with
    | here h => cases h
    | copied h => cases h

theorem foreignAt_copy_iff {label : Label} {source : Graph} {src dest : String}
    {tail : List Nat} :
    ForeignAt [.copy label source src dest] (0 :: tail) v ↔
      ForeignAt source.operations tail v := by
  constructor
  · intro h
    cases h with
    | here h => cases h
    | copied h hs =>
      cases h
      exact hs
  · exact .copied rfl

theorem firstForeign_self : FirstForeign [.foreign v] v := by
  refine ⟨[0], .here rfl, fun other w h => Or.inl ?_⟩
  obtain ⟨tail, rfl⟩ := h.exists_zero
  cases h with
  | here => rfl
  | copied h => cases h

theorem FirstForeign.copy {label : Label} {source : Graph} {src dest : String}
    (h : FirstForeign source.operations v) : FirstForeign [.copy label source src dest] v := by
  obtain ⟨place, hat, hfirst⟩ := h
  refine ⟨0 :: place, foreignAt_copy_iff.mpr hat, fun other w hw => ?_⟩
  obtain ⟨tail, rfl⟩ := hw.exists_zero
  rcases hfirst tail w (foreignAt_copy_iff.mp hw) with rfl | hlt
  · exact Or.inl rfl
  · exact Or.inr (.cons hlt)

theorem FirstForeign.of_head (h : FirstForeign [op] v) : FirstForeign (op :: rest) v := by
  obtain ⟨place, hat, hfirst⟩ := h
  obtain ⟨tail, rfl⟩ := hat.exists_zero
  refine ⟨0 :: tail, foreignAt_cons_zero_iff.mpr hat, fun other w hw => ?_⟩
  obtain ⟨_ | j, tail', rfl⟩ := hw.exists_cons
  · exact hfirst _ _ (foreignAt_cons_zero_iff.mp hw)
  -- Whatever its tail, a place in the operations behind differs in the first position.
  · exact Or.inr (.rel j.succ_pos)

theorem FirstForeign.of_rest (hop : ∀ place w, ¬ForeignAt [op] place w)
    (h : FirstForeign rest v) : FirstForeign (op :: rest) v := by
  obtain ⟨place, hat, hfirst⟩ := h
  obtain ⟨i, tail, rfl⟩ := hat.exists_cons
  refine ⟨(i + 1) :: tail, foreignAt_cons_succ_iff.mpr hat, fun other w hw => ?_⟩
  obtain ⟨_ | j, tail', rfl⟩ := hw.exists_cons
  · exact absurd (foreignAt_cons_zero_iff.mp hw) (hop _ _)
  · rcases hfirst _ _ (foreignAt_cons_succ_iff.mp hw) with heq | hlt
    · cases heq
      exact Or.inl rfl
    · cases hlt with
      | rel hij => exact Or.inr (.rel (Nat.succ_lt_succ hij))
      | cons ht => exact Or.inr (.cons ht)

end Operation

/-! ## What an export fails on -/

open Operation

/-- The history has a form exactly when there is no foreign value in it, and fails on the first. -/
def Operation.Screens {α : Type} (ops : List Operation) (form : Except Fault α) : Prop :=
  (∃ a, form = .ok a) ∧ (∀ place v, ¬ForeignAt ops place v) ∨
    ∃ v, form = .error (.unsupportedOperation v.kind) ∧ FirstForeign ops v

mutual

theorem Operation.screens_payload : ∀ op : Operation, Screens [op] op.payload
  | .run .. | .makeDir .. | .makeFile .. | .setEnv .. => by
    refine Or.inl ⟨⟨_, rfl⟩, fun place v h => ?_⟩
    obtain ⟨tail, rfl⟩ := h.exists_zero
    cases h with
    | here h => cases h
    | copied h => cases h
  | .copy label source src dest => by
    rcases Graph.screens_payload source with ⟨⟨value, hv⟩, hnone⟩ | ⟨v, hv, hfirst⟩
    · refine Or.inl ⟨⟨_, payload_copy_eq_ok_iff.mpr ⟨value, hv, rfl⟩⟩, fun place v h => ?_⟩
      obtain ⟨tail, rfl⟩ := h.exists_zero
      exact hnone _ _ (foreignAt_copy_iff.mp h)
    · exact Or.inr ⟨v, by rw [Operation.payload, hv], hfirst.copy⟩
  | .foreign v => Or.inr ⟨v, rfl, firstForeign_self⟩

/-- The first operation with a foreign value in it settles what the history fails on, whatever comes
behind it. -/
theorem Operation.screens_payloads : ∀ ops : List Operation, Screens ops (Operation.payloads ops)
  | [] => by
    refine Or.inl ⟨⟨_, rfl⟩, fun place v h => ?_⟩
    cases h with
    | here h => cases h
    | copied h => cases h
  | op :: rest => by
    rcases Operation.screens_payload op with ⟨⟨value, hv⟩, hnone⟩ | ⟨v, hv, hfirst⟩
    · rcases Operation.screens_payloads rest with ⟨⟨values, hvs⟩, hnone'⟩ | ⟨v, hvs, hfirst⟩
      · refine Or.inl ⟨⟨value :: values, by rw [Operation.payloads, hv, hvs]⟩, fun place v h => ?_⟩
        obtain ⟨_ | i, tail, rfl⟩ := h.exists_cons
        · exact hnone _ _ (foreignAt_cons_zero_iff.mp h)
        · exact hnone' _ _ (foreignAt_cons_succ_iff.mp h)
      · exact Or.inr ⟨v, by rw [Operation.payloads, hv, hvs], hfirst.of_rest hnone⟩
    · exact Or.inr ⟨v, by rw [Operation.payloads, hv], hfirst.of_head⟩

theorem Graph.screens_payload : ∀ g : Graph, Screens g.operations g.payload
  | ⟨source, operations, environment⟩ => by
    rcases Operation.screens_payloads operations with ⟨⟨values, hvs⟩, hnone⟩ | ⟨v, hvs, hfirst⟩
    · exact Or.inl ⟨⟨_, Graph.payload_eq_ok_iff.mpr ⟨values, hvs, rfl⟩⟩, hnone⟩
    · exact Or.inr ⟨v, by rw [Graph.payload, hvs], hfirst⟩

end

namespace Graph

/-- Some value is no operation, in the graph's own history or in that of a graph nested in it. -/
def HasForeign (g : Graph) : Prop :=
  ∃ inner v, Nested g inner ∧ .foreign v ∈ inner.operations

/-- Type errors are what the first of the foreign values gives, and nothing else gives one. -/
def RefusesForeign {α : Type} (g : Graph) (form : Except Fault α) : Prop :=
  ((∃ fault, form = .error fault ∧ fault.kind = .type) ↔ g.HasForeign) ∧
    ∀ fault, form = .error fault → fault.kind = .type →
      ∃ v, (∀ w, FirstForeign g.operations w ↔ w = v) ∧
        fault.message = "Unsupported graph operation: " ++ v.kind

/-- An export, without a file for it and with one. -/
structure Exports {α : Type} (g : Graph) (form : Except Fault α)
    (export? : FileTree → Option String → Except Fault α × FileTree) (content : α → Bytes) :
    Prop where
  refuses : ∀ tree path, g.RefusesForeign (export? tree path).1
  untouched : g.HasForeign → ∀ tree path, (export? tree path).2 = tree
  unnamed : ∀ tree, export? tree none = (form, tree)
  named : ∀ tree path a tree', export? tree (some path) = (.ok a, tree') →
    form = .ok a ∧ tree'.read (Path.ofString path).render = .ok (content a)

variable {α β : Type} {g : Graph} {fault : Fault}

theorem hasForeign_of_foreignAt {ops : List Operation} {place : List Nat} {v : Foreign}
    (h : ForeignAt ops place v) : ∀ {g : Graph}, g.operations = ops → g.HasForeign := by
  induction h with
  | here h =>
    rintro g rfl
    exact ⟨g, _, .self, List.mem_of_getElem? h⟩
  | copied h _ ih =>
    rintro g rfl
    obtain ⟨inner, v, hn, hm⟩ := ih rfl
    exact ⟨inner, v, (Nested.self.copied (List.mem_of_getElem? h)).trans hn, hm⟩

/-- Outwards from where a value stands, each copy on the way adds its position. -/
theorem exists_foreignAt_of_nested {inner : Graph} {v : Foreign} (hn : Nested g inner)
    (h : ∃ place, ForeignAt inner.operations place v) : ∃ place, ForeignAt g.operations place v := by
  induction hn with
  | self => exact h
  | copied _ hm ih =>
    obtain ⟨i, hi⟩ := List.mem_iff_getElem?.mp hm
    obtain ⟨place, hat⟩ := h
    exact ih ⟨i :: place, .copied hi hat⟩

theorem hasForeign_iff : g.HasForeign ↔ ∃ place v, ForeignAt g.operations place v := by
  constructor
  · rintro ⟨inner, v, hn, hm⟩
    obtain ⟨i, hi⟩ := List.mem_iff_getElem?.mp hm
    obtain ⟨place, hat⟩ := exists_foreignAt_of_nested hn ⟨[i], .here hi⟩
    exact ⟨place, v, hat⟩
  · rintro ⟨place, v, h⟩
    exact hasForeign_of_foreignAt h rfl

theorem RefusesForeign.congr {form : Except Fault α} {form' : Except Fault β}
    (h : g.RefusesForeign form)
    (heq : ∀ fault, fault.kind = .type → (form' = .error fault ↔ form = .error fault)) :
    g.RefusesForeign form' := by
  obtain ⟨hiff, hfirst⟩ := h
  refine ⟨Iff.trans (exists_congr fun fault => ?_) hiff, fun fault hf hk => ?_⟩
  · exact and_congr_left fun hk => heq fault hk
  · exact hfirst fault ((heq fault hk).mp hf) hk

theorem refusesForeign_payload (g : Graph) : g.RefusesForeign g.payload := by
  rcases g.screens_payload with ⟨⟨value, hv⟩, hnone⟩ | ⟨v, hv, hfirst⟩
  · refine ⟨⟨?_, ?_⟩, ?_⟩
    · rintro ⟨fault, hf, -⟩
      cases hv.symm.trans hf
    · intro h
      obtain ⟨place, v, h⟩ := hasForeign_iff.mp h
      exact absurd h (hnone place v)
    · intro fault hf
      cases hv.symm.trans hf
  · refine ⟨⟨fun _ => ?_, fun _ => ⟨_, hv, rfl⟩⟩, fun fault hf _ => ?_⟩
    · obtain ⟨place, h, -⟩ := hfirst
      exact hasForeign_iff.mpr ⟨place, v, h⟩
    · cases hv.symm.trans hf
      refine ⟨v, fun w => ⟨hfirst.unique, ?_⟩, rfl⟩
      rintro rfl
      exact hfirst

theorem map_eq_error_iff {ε : Type} {f : α → β} {x : Except ε α} {e : ε} :
    x.map f = .error e ↔ x = .error e := by
  cases x <;> simp [Except.map]

theorem refusesForeign_toJson (g : Graph) : g.RefusesForeign g.toJson :=
  g.refusesForeign_payload.congr fun _ _ => map_eq_error_iff

theorem refusesForeign_toCbor (g : Graph) : g.RefusesForeign g.toCbor := by
  refine g.refusesForeign_payload.congr fun fault hk => ?_
  -- The bytes of a graph without foreign values may be too many, but that is no type error.
  unfold toCbor
  cases g.payload with
  | error fault => simp
  | ok v =>
    simp only [reduceCtorEq, iff_false]
    split
    · nofun
    · rintro ⟨⟩
      cases hk

theorem refusesForeign_digest (g : Graph) : g.RefusesForeign g.digest :=
  g.refusesForeign_toCbor.congr fun _ _ => map_eq_error_iff

/-! ## Writing an export to a file -/

theorem save_eq_ok_iff {tree tree' : FileTree} {path : String} {content : Bytes} :
    save tree path content = (.ok (), tree') ↔
      tree.write (Path.ofString path).render content = .ok tree' := by
  unfold save
  split <;> simp [*]

/-- What a file tree refuses is no type error. -/
theorem kind_of_save {tree : FileTree} {path : String} {content : Bytes}
    (h : (save tree path content).1 = .error fault) : fault.kind ≠ .type := by
  unfold save at h
  split at h
  · cases h
  · next problem _ =>
    cases h
    cases problem <;> simp [Fault.kind, Fault.report?]

theorem saved_of_error {form : Except Fault α} {content : α → Bytes} {tree : FileTree}
    {path : Option String} (hf : form = .error fault) :
    saved form content tree path = (.error fault, tree) := by
  rw [hf, saved]

theorem saved_some_eq_ok_iff {form : Except Fault α} {content : α → Bytes}
    {tree tree' : FileTree} {path : String} {a : α} :
    saved form content tree (some path) = (.ok a, tree') ↔
      form = .ok a ∧ save tree path (content a) = (.ok (), tree') := by
  cases form with
  | error fault => simp [saved]
  | ok b =>
    rw [saved]
    constructor
    · intro h
      rcases hs : save tree path (content b) with ⟨fault | u, after⟩
      · rw [hs] at h
        cases h
      · rw [hs] at h
        cases h
        exact ⟨rfl, hs⟩
    · rintro ⟨⟨⟩, hs⟩
      rw [hs]
      rfl

theorem saved_fst_eq_error_iff {form : Except Fault α} {content : α → Bytes} {tree : FileTree}
    {path : Option String} (hk : fault.kind = .type) :
    (saved form content tree path).1 = .error fault ↔ form = .error fault := by
  cases form with
  | error fault' => rw [saved_of_error rfl]
  | ok a =>
    cases path with
    | none => simp [saved]
    | some path =>
      rw [saved, map_eq_error_iff]
      simp only [reduceCtorEq, iff_false]
      exact fun hs => kind_of_save hs hk

/-- A form that is made before a file is written is exported as it is, or not at all. -/
theorem RefusesForeign.exports {form : Except Fault α} (h : g.RefusesForeign form)
    (content : α → Bytes) : g.Exports form (saved form content) content where
  refuses _ _ := h.congr fun _ hk => saved_fst_eq_error_iff hk
  untouched hforeign tree path := by
    obtain ⟨fault, hf, -⟩ := h.1.mpr hforeign
    rw [saved_of_error hf]
  unnamed tree := by
    cases form <;> rfl
  named tree path a tree' hs := by
    obtain ⟨hform, hsave⟩ := saved_some_eq_ok_iff.mp hs
    exact ⟨hform, FileTree.read_of_write (save_eq_ok_iff.mp hsave)⟩

/-- A graph is exported unless there is a foreign value in it or in a graph nested in it. Then every
export fails on the first of these values, by the name of its type, and writes nothing; no other
failure is a type error. A file that an export was written to holds what the export gave. -/
theorem exports_refuse_foreign (g : Graph) :
    g.RefusesForeign g.payload ∧ g.RefusesForeign g.digest ∧
      g.Exports g.toJson g.exportJson Utf8.encode ∧ g.Exports g.toCbor g.exportCbor id :=
  ⟨g.refusesForeign_payload, g.refusesForeign_digest, g.refusesForeign_toJson.exports _,
    g.refusesForeign_toCbor.exports _⟩

/-- The first value is in a copied graph, one of another type behind the copy. -/
example :
    let inner : Graph := (scratch.append (.makeDir ⟨"out", .configWrite⟩ "/out" 0o755 true)).append
      (.foreign ⟨"tuple", .list []⟩)
    let outer : Graph := (scratch.append (.copy ⟨"take", .fetch⟩ inner "/out" "/in")).append
      (.foreign (.ofValue .null))
    outer.exportJson FileTree.empty (some "graph.json") =
      (.error (.unsupportedOperation "tuple"), FileTree.empty) := by
  rfl

end Graph

end RuntimeImage
