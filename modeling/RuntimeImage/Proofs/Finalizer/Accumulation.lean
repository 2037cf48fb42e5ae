import Mathlib.Data.List.Induction
import RuntimeImage.Proofs.Finalizer
import RuntimeImage.Proofs.Graph.Payload

/-!
Records for the finalizer as they are built up, one addition after another. Of the additions of each
kind the record keeps what one rule says: every directory where it was first named, the first
service of every name, the last value of every variable where it was first set. The kinds do not
meet, so in which order additions of different kinds come makes no difference.
-/

namespace RuntimeImage

/-! ## First mentions and last values -/

/-- Those of a list whose key none before them has. -/
def firsts {α β : Type} [DecidableEq β] (key : α → β) (xs : List α) : List α :=
  (xs.zipIdx.filter fun x => key x.1 ∉ (xs.take x.2).map key).map Prod.fst

section Firsts

variable {α β : Type} [DecidableEq β] {key : α → β}

/-- What comes last is kept if its key is new. -/
theorem firsts_concat (xs : List α) (x : α) :
    firsts key (xs ++ [x]) =
      if key x ∈ xs.map key then firsts key xs else firsts key xs ++ [x] := by
  -- Nobody but the last looks at what the last adds: each looks at those before it.
  have hbefore : (xs.zipIdx.filter fun y => key y.1 ∉ ((xs ++ [x]).take y.2).map key) =
      xs.zipIdx.filter fun y => key y.1 ∉ (xs.take y.2).map key := by
    refine List.filter_congr fun y hy => ?_
    have hlt : y.2 < xs.length := by simpa using List.snd_lt_add_of_mem_zipIdx hy
    rw [List.take_append_of_le_length (Nat.le_of_lt hlt)]
  have hend : ([x].zipIdx xs.length).filter (fun y => key y.1 ∉ ((xs ++ [x]).take y.2).map key) =
      if key x ∈ xs.map key then [] else [(x, xs.length)] := by
    by_cases hx : key x ∈ xs.map key <;> simp [hx]
  rw [firsts, List.zipIdx_append, List.filter_append, hbefore, Nat.zero_add, hend]
  split <;> simp [firsts]

/-- No key is lost. -/
theorem mem_map_firsts (xs : List α) (k : β) : k ∈ (firsts key xs).map key ↔ k ∈ xs.map key := by
  induction xs using List.reverseRecOn with
  | nil => rfl
  | append_singleton xs x ih =>
    rw [firsts_concat]
    split
    · next hknown =>
      rw [ih, List.map_append, List.mem_append, List.map_singleton, List.mem_singleton]
      constructor
      · exact Or.inl
      · rintro (hk | rfl)
        · exact hk
        · exact hknown
    · rw [List.map_append, List.map_append, List.mem_append, List.mem_append, ih]

theorem nodup_map_firsts (xs : List α) : ((firsts key xs).map key).Nodup := by
  induction xs using List.reverseRecOn with
  | nil => exact List.nodup_nil
  | append_singleton xs x ih =>
    rw [firsts_concat]
    split
    · exact ih
    · next hnew =>
      rw [List.map_append, List.map_singleton, List.nodup_append]
      refine ⟨ih, by simp, ?_⟩
      rintro k hk _ hx rfl
      cases List.mem_singleton.mp hx
      exact hnew ((mem_map_firsts xs _).mp hk)

/-- Whether a key is new can be seen from what is kept so far. -/
theorem firsts_concat_of_kept (xs : List α) (x : α) :
    firsts key (xs ++ [x]) =
      if key x ∈ (firsts key xs).map key then firsts key xs else firsts key xs ++ [x] := by
  rw [firsts_concat]
  exact if_congr (mem_map_firsts xs (key x)).symm rfl rfl

end Firsts

namespace Table

variable {β : Type}

theorem ofPairs_concat (ps : List (String × β)) (p : String × β) :
    ofPairs (ps ++ [p]) = (ofPairs ps).put p.1 p.2 := by
  rw [ofPairs, merge, List.foldl_append]
  rfl

/-- Names stand where they were first written. -/
theorem keys_ofPairs (ps : List (String × β)) : (ofPairs ps).keys = firsts id (ps.map Prod.fst) := by
  induction ps using List.reverseRecOn with
  | nil => rfl
  | append_singleton ps p ih =>
    rw [ofPairs_concat, keys_put, ih, List.map_append, List.map_singleton, firsts_concat_of_kept]
    simp only [List.map_id, id]

/-- The last value written under a name. -/
def last? (ps : List (String × β)) (key : String) : Option β :=
  (ps.reverse.find? (fun p => p.1 = key)).map Prod.snd

theorem get?_ofPairs (ps : List (String × β)) (key : String) :
    (ofPairs ps).get? key = last? ps key := by
  induction ps using List.reverseRecOn with
  | nil => rfl
  | append_singleton ps p ih =>
    rw [ofPairs_concat, last?, List.reverse_concat, List.find?_cons]
    by_cases hkey : p.1 = key
    · subst hkey
      simp [get?_put_self]
    · simp [get?_put_of_ne _ _ (Ne.symm hkey), hkey, ih, last?]

end Table

/-! ## Records made of additions -/

namespace Finalizer

open Json

/-- What can be added to a record. -/
inductive Addition
  | exported (key value : String)
  | writable (path : String)
  | service (service : Service)

namespace Addition

def exported? : Addition → Option (String × String)
  | exported key value => some (key, value)
  | writable _ | service _ => none

def writable? : Addition → Option String
  | writable path => some path
  | exported .. | service _ => none

def service? : Addition → Option Service
  | service s => some s
  | exported .. | writable _ => none

end Addition

def add (f : Finalizer) : Addition → Finalizer
  | .exported key value => f.exportVariable key value
  | .writable path => f.addWritable path
  | .service service => f.addService service

/-- The record after additions in a row, from an empty one. -/
def recorded (additions : List Addition) : Finalizer := additions.foldl add {}

theorem recorded_concat (additions : List Addition) (a : Addition) :
    recorded (additions ++ [a]) = (recorded additions).add a := by
  rw [recorded, List.foldl_append]
  rfl

variable {f f' : Finalizer}

theorem addWritable_eq (f : Finalizer) (path : String) :
    f.addWritable path =
      { f with writable := if path ∈ f.writable then f.writable else f.writable ++ [path] } := by
  unfold addWritable
  split <;> rfl

theorem addService_eq (f : Finalizer) (service : Service) :
    f.addService service =
      { f with services :=
          if service.name ∈ f.services.map Service.name then f.services
          else f.services ++ [service] } := by
  have hany : f.services.any (fun s => s.name = service.name) = true ↔
      service.name ∈ f.services.map Service.name := by
    simp
  unfold addService
  simp only [hany]
  split <;> rfl

/-- What a record holds, each part of it a function of the additions of one kind: with one addition
more its own kind follows its rule, and the other two stay. -/
theorem recorded_eq (additions : List Addition) :
    recorded additions =
      { exports := Table.ofPairs (additions.filterMap Addition.exported?)
        writable := firsts id (additions.filterMap Addition.writable?)
        services := firsts Service.name (additions.filterMap Addition.service?) } := by
  induction additions using List.reverseRecOn with
  | nil => rfl
  | append_singleton additions a ih =>
    rw [recorded_concat, ih]
    cases a with
    | exported key value =>
      simp only [add, exportVariable, List.filterMap_append, List.filterMap_cons,
        List.filterMap_nil, List.append_nil, Addition.exported?, Addition.writable?,
        Addition.service?, Table.ofPairs_concat]
    | writable path =>
      simp only [add, addWritable_eq, List.filterMap_append, List.filterMap_cons,
        List.filterMap_nil, List.append_nil, Addition.exported?, Addition.writable?,
        Addition.service?, firsts_concat_of_kept, List.map_id, id]
    | service s =>
      simp only [add, addService_eq, List.filterMap_append, List.filterMap_cons,
        List.filterMap_nil, List.append_nil, Addition.exported?, Addition.writable?,
        Addition.service?, firsts_concat_of_kept]

theorem keys_exports_recorded (additions : List Addition) :
    (recorded additions).exports.keys =
      firsts id ((additions.filterMap Addition.exported?).map Prod.fst) := by
  rw [recorded_eq, Table.keys_ofPairs]

theorem nodup_exports_recorded (additions : List Addition) :
    (recorded additions).exports.keys.Nodup := by
  rw [keys_exports_recorded, ← List.map_id (firsts id _)]
  exact nodup_map_firsts _

theorem serviceValue_injective {s s' : Service} (h : serviceValue s = serviceValue s') : s = s' := by
  cases s
  cases s'
  simp only [serviceValue, Value.object.injEq, List.cons.injEq, Prod.mk.injEq, Value.text.injEq,
    true_and, and_true] at h
  obtain ⟨hafter, hcommand, rfl, rfl⟩ := h
  rw [textList_injective hafter, textList_injective hcommand]

/-- The document of a record shows everything in it but the order in which the variables came. -/
theorem value_eq_iff (h : f'.exports.keys.Nodup) :
    f.value = f'.value ↔
      f.exports.Perm f'.exports ∧ f.services = f'.services ∧ f.writable = f'.writable := by
  simp only [value, Value.object.injEq, List.cons.injEq, Prod.mk.injEq, Value.list.injEq, true_and,
    and_true]
  refine and_congr ?_ (and_congr ?_ ?_)
  · constructor
    · intro htexts
      -- Both texts are in order, so the same texts come from the same variables.
      have hsorted := textObject_injective htexts
      have hperm := f'.exports.sorted_perm
      rw [← hsorted] at hperm
      exact f.exports.sorted_perm.symm.trans hperm
    · intro hperm
      rw [Table.sorted_eq_of_perm (hperm.trans f'.exports.sorted_perm.symm)
        (Table.pairwise_lt_sorted h)]
  · exact List.map_inj_right fun _ _ => serviceValue_injective
  · exact ⟨textList_injective, fun h => h ▸ rfl⟩

/-- The rules by which a record accumulates its additions, and the document that shows it. -/
structure Accumulates (additions : List Addition) (f : Finalizer) : Prop where
  writable : f.writable = firsts id (additions.filterMap Addition.writable?)
  services : f.services = firsts Service.name (additions.filterMap Addition.service?)
  names : f.exports.keys = firsts id ((additions.filterMap Addition.exported?).map Prod.fst)
  values : ∀ key, f.exports.get? key = Table.last? (additions.filterMap Addition.exported?) key
  document : ∃ sorted : Table String, sorted.Perm f.exports ∧
    sorted.Pairwise (fun a b => a.1 < b.1) ∧
    f.value = .object [("environment_exports", textObject sorted),
      ("services", .list (f.services.map serviceValue)),
      ("writable_directories", textList f.writable)]

/-- A record made by any additions in a row, whatever their kinds: of the directories it holds the
distinct ones, of the services the first of each name, both in the order in which they first came,
and of each variable the last value where the variable first came. Its document shows this with the
variables in order, and two records show the same only if they differ in that order alone. Additions
that come in the same order within each kind make the same record. -/
theorem recorded_accumulates (additions : List Addition) :
    Accumulates additions (recorded additions) ∧
      ∀ others : List Addition,
        ((recorded others).value = (recorded additions).value ↔
          (recorded others).exports.Perm (recorded additions).exports ∧
            (recorded others).services = (recorded additions).services ∧
            (recorded others).writable = (recorded additions).writable) ∧
        (others.filterMap Addition.exported? = additions.filterMap Addition.exported? →
          others.filterMap Addition.writable? = additions.filterMap Addition.writable? →
          others.filterMap Addition.service? = additions.filterMap Addition.service? →
          recorded others = recorded additions) := by
  have hnodup := nodup_exports_recorded additions
  refine ⟨⟨?_, ?_, keys_exports_recorded additions, ?_, ?_⟩, fun others => ⟨?_, ?_⟩⟩
  · rw [recorded_eq]
  · rw [recorded_eq]
  · intro key
    rw [recorded_eq, Table.get?_ofPairs]
  · exact ⟨_, Table.sorted_perm _, Table.pairwise_lt_sorted hnodup, rfl⟩
  · exact value_eq_iff hnodup
  · intro hexported hwritable hservice
    rw [recorded_eq, recorded_eq additions, hexported, hwritable, hservice]

/-- Two orders of the same additions, in which a variable, a directory and the name of a service come
twice. -/
theorem recorded_accumulates_interleaved :
    ∃ additions others : List Addition, additions ≠ others ∧
      recorded others = recorded additions ∧
      (recorded additions).exports = [("B", "3"), ("A", "2")] ∧
      (recorded additions).writable = ["/b", "/a"] ∧
      (recorded additions).services = [{ name := "s", restart := "no" }] := by
  have hsame := (recorded_accumulates
    [.exported "B" "1", .writable "/b", .service { name := "s", restart := "no" },
      .exported "A" "2", .writable "/a", .service { name := "s" }, .exported "B" "3",
      .writable "/b"]).2
    [.writable "/b", .writable "/a", .writable "/b", .service { name := "s", restart := "no" },
      .service { name := "s" }, .exported "B" "1", .exported "A" "2", .exported "B" "3"]
  exact ⟨_, _, by simp, hsame.2 rfl rfl rfl, rfl, rfl, rfl⟩

end Finalizer

end RuntimeImage
