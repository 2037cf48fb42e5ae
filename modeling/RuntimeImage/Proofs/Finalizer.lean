import RuntimeImage.Finalizer
import RuntimeImage.Proofs.Table

/-!
What a record for the finalizer holds once something is added to it, and when an addition changes
nothing: each kind has a rule of its own for what is there already.
-/

namespace RuntimeImage.Finalizer

variable {f : Finalizer}

theorem mem_writable_addWritable {path other : String} :
    other ∈ (f.addWritable path).writable ↔ other ∈ f.writable ∨ other = path := by
  unfold addWritable
  split
  · next hp =>
    constructor
    · exact Or.inl
    · rintro (ho | rfl)
      · exact ho
      · exact hp
  · rw [List.mem_append, List.mem_singleton]

/-- Of two services with one name the later one is not added. -/
theorem mem_services_addService {service other : Service}
    (h : other ∈ (f.addService service).services) : other ∈ f.services ∨ other = service := by
  unfold addService at h
  split at h
  · exact Or.inl h
  · rwa [List.mem_append, List.mem_singleton] at h

@[simp] theorem exports_addWritable (path : String) : (f.addWritable path).exports = f.exports := by
  unfold addWritable
  split <;> rfl

@[simp] theorem services_addWritable (path : String) :
    (f.addWritable path).services = f.services := by
  unfold addWritable
  split <;> rfl

@[simp] theorem exports_addService (service : Service) :
    (f.addService service).exports = f.exports := by
  unfold addService
  split <;> rfl

@[simp] theorem writable_addService (service : Service) :
    (f.addService service).writable = f.writable := by
  unfold addService
  split <;> rfl

@[simp] theorem exports_exportVariable (key value : String) :
    (f.exportVariable key value).exports = f.exports.put key value := rfl

@[simp] theorem writable_exportVariable (key value : String) :
    (f.exportVariable key value).writable = f.writable := rfl

@[simp] theorem services_exportVariable (key value : String) :
    (f.exportVariable key value).services = f.services := rfl

theorem exportVariable_of_get? {key value : String} (h : f.exports.get? key = some value) :
    f.exportVariable key value = f := by
  rw [exportVariable, Table.put_of_get? h]

theorem addWritable_of_mem {path : String} (h : path ∈ f.writable) : f.addWritable path = f :=
  if_pos h

def HasService (f : Finalizer) (name : String) : Prop := ∃ service ∈ f.services, service.name = name

theorem addService_of_hasService {service : Service} (h : f.HasService service.name) :
    f.addService service = f := by
  obtain ⟨other, hm, hname⟩ := h
  have hany : f.services.any (fun s => s.name = service.name) = true :=
    List.any_eq_true.mpr ⟨other, hm, decide_eq_true hname⟩
  exact if_pos hany

theorem hasService_addService (service : Service) :
    (f.addService service).HasService service.name := by
  unfold addService
  split
  · next hany =>
    obtain ⟨other, hm, hname⟩ := List.any_eq_true.mp hany
    exact ⟨other, hm, of_decide_eq_true hname⟩
  · exact ⟨service, List.mem_append_right _ (List.mem_singleton.mpr rfl), rfl⟩

end RuntimeImage.Finalizer
