/-!
Tables from names to values that remember the order in which names were first written. A second
write to a name changes its value and leaves its place.
-/

namespace RuntimeImage

abbrev Table (β : Type) := List (String × β)

namespace Table

variable {β : Type}

def get? : Table β → String → Option β
  | [], _ => none
  | (k, v) :: t, key => if k = key then some v else get? t key

def keys (t : Table β) : List String := t.map Prod.fst

/-- Writes one entry: in place when the name is known, at the end when it is new. -/
def put : Table β → String → β → Table β
  | [], key, value => [(key, value)]
  | (k, v) :: t, key, value =>
    if k = key then (k, value) :: t else (k, v) :: put t key value

/-- Writes every entry of the second table into the first, in order. -/
def merge (t u : Table β) : Table β := u.foldl (fun acc e => acc.put e.1 e.2) t

/-- Reads a list of pairs in which a name may repeat. -/
def ofPairs (ps : List (String × β)) : Table β := merge [] ps

/-- The entries by name, in code-point order. -/
def sorted (t : Table β) : Table β := t.mergeSort (fun a b => decide (a.1 ≤ b.1))

@[simp] theorem put_nil (key : String) (value : β) : put [] key value = [(key, value)] := rfl

theorem get?_put_self (t : Table β) (key : String) (value : β) :
    (t.put key value).get? key = some value := by
  induction t with
  | nil => simp [get?]
  | cons e t ih => by_cases h : e.1 = key <;> simp [put, get?, h, ih]

theorem get?_put_of_ne (t : Table β) {key other : String} (value : β) (h : other ≠ key) :
    (t.put key value).get? other = t.get? other := by
  induction t with
  | nil => simp [get?, Ne.symm h]
  | cons e t ih =>
    by_cases hk : e.1 = key
    · simp [put, get?, hk, Ne.symm h]
    · simp [put, get?, hk, ih]

/-- A write leaves the order of the names as it is, and a new name comes last. -/
theorem keys_put (t : Table β) (key : String) (value : β) :
    (t.put key value).keys = if key ∈ t.keys then t.keys else t.keys ++ [key] := by
  induction t with
  | nil => simp [keys]
  | cons e t ih =>
    by_cases h : e.1 = key
    · simp [put, keys, h]
    · have step : keys (put (e :: t) key value) = e.1 :: keys (put t key value) := by
        simp [put, keys, h]
      rw [step, ih]
      by_cases hk : key ∈ keys t <;> simp_all [keys, Ne.symm]

theorem nodup_keys_put {t : Table β} (h : t.keys.Nodup) (key : String) (value : β) :
    (t.put key value).keys.Nodup := by
  rw [keys_put]
  split
  · exact h
  · next hk =>
    rw [List.nodup_append]
    refine ⟨h, by simp, ?_⟩
    rintro a ha b hb rfl
    exact hk (by simpa using List.mem_singleton.mp hb ▸ ha)

theorem sorted_perm (t : Table β) : t.sorted.Perm t := List.mergeSort_perm _ _

end Table

end RuntimeImage
