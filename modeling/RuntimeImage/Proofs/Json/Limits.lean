import RuntimeImage.Proofs.Json.Refusals
import RuntimeImage.Proofs.Json.RoundTrip

/-!
Values within limits: so many containers inside one another, and integers with so many digits. What
the reader answers is within the limits it was given, since it never has more containers open and
takes no longer integer. What has no text is beyond them.
-/

namespace RuntimeImage

namespace Json

/-- There is room for the containers of a value, and none of its integers is too long. -/
structure Value.Fits (room : Nat) (v : Value) : Prop where
  nesting : v.nesting ≤ room
  short : Token.Short v.tokens

namespace Value

variable {room depth : Nat} {v : Value} {vs : List Value} {ms : List (String × Value)}
  {reason : NoText}

theorem Fits.mono {more : Nat} (h : v.Fits room) (hroom : room ≤ more) : v.Fits more :=
  ⟨h.nesting.trans hroom, h.short⟩

theorem fits_null : null.Fits room := ⟨Nat.zero_le _, Token.short_cons_iff.mpr ⟨nofun, nofun⟩⟩

theorem fits_bool (b : Bool) : (bool b).Fits room := ⟨Nat.zero_le _, Token.short_bool b⟩

theorem fits_int {n : Int} (h : (Nat.toDigits 10 n.natAbs).length ≤ Integer.maxDigits) :
    (int n).Fits room :=
  ⟨Nat.zero_le _, Token.short_int_iff.mpr h⟩

theorem not_short_of_isLong {n : Int} (h : Integer.isLong n = true) :
    ¬Token.Short (int n).tokens := fun hshort =>
  absurd (Token.short_int_iff.mp hshort) (Nat.not_le.mpr (of_decide_eq_true h))

theorem fits_real (x : Binary64) : (real x).Fits room :=
  ⟨Nat.zero_le _, Token.short_cons_iff.mpr ⟨nofun, nofun⟩⟩

theorem fits_text (s : String) : (text s).Fits room := ⟨Nat.zero_le _, Token.short_text s⟩

theorem fits_list_iff : (list vs).Fits (room + 1) ↔ ∀ v ∈ vs, v.Fits room := by
  constructor
  · rintro ⟨hnesting, hshort⟩ v hv
    rw [nesting, Nat.add_le_add_iff_right, nestingItems_le_iff] at hnesting
    exact ⟨hnesting v hv, Token.short_list_iff.mp hshort v hv⟩
  · intro h
    refine ⟨?_, Token.short_list_iff.mpr fun v hv => (h v hv).short⟩
    rw [nesting, Nat.add_le_add_iff_right, nestingItems_le_iff]
    exact fun v hv => (h v hv).nesting

theorem fits_object_iff : (object ms).Fits (room + 1) ↔ ∀ m ∈ ms, m.2.Fits room := by
  constructor
  · rintro ⟨hnesting, hshort⟩ m hm
    rw [nesting, Nat.add_le_add_iff_right, nestingMembers_le_iff] at hnesting
    exact ⟨hnesting m hm, Token.short_object_iff.mp hshort m hm⟩
  · intro h
    refine ⟨?_, Token.short_object_iff.mpr fun m hm => (h m hm).short⟩
    rw [nesting, Nat.add_le_add_iff_right, nestingMembers_le_iff]
    exact fun m hm => (h m hm).nesting

/-- A container takes one of the room. -/
theorem Fits.exists_succ (h : v.Fits room) (hv : 0 < v.nesting) : ∃ less, room = less + 1 :=
  Nat.exists_eq_succ_of_ne_zero (Nat.ne_of_gt (hv.trans_le h.nesting))

end Value

/-! ## What the reader answers -/

namespace Reader

/-- Inside the containers `up` there is still this room, and what is done of them has fitted in. -/
inductive Inside (limit : Nat) : List Frame → Nat → Prop
  | nothing : Inside limit [] limit
  | items {up : List Frame} {room : Nat} {done : List Value} (h : Inside limit up (room + 1))
      (hdone : ∀ v ∈ done, v.Fits room) : Inside limit (.items done :: up) room
  | member {up : List Frame} {room : Nat} {done : Table Value} {label : String}
      (h : Inside limit up (room + 1)) (hdone : ∀ m ∈ done, m.2.Fits room) :
      Inside limit (.member done label :: up) room

/-- All that is done fits in. A container that was opened has taken its room. -/
def State.Fits (limit : Nat) : State → Prop
  | .value up => ∃ room, Inside limit up room
  | .itemOrEnd up | .nameOrEnd up => ∃ room, Inside limit up (room + 1)
  | .nextName done up | .colon done _ up | .afterMember done up =>
    ∃ room, Inside limit up (room + 1) ∧ ∀ m ∈ done, m.2.Fits room
  | .afterItem done up => ∃ room, Inside limit up (room + 1) ∧ ∀ v ∈ done, v.Fits room
  | .finished v => v.Fits limit

variable {limit length room : Nat} {state next : State} {l : Lexeme} {ls : List Lexeme}
  {up : List Frame} {done : Table Value} {v : Value}

theorem Inside.length_add (h : Inside limit up room) : up.length + room = limit := by
  induction h with
  | nothing => exact Nat.zero_add limit
  | items _ _ ih | member _ _ ih => rw [← ih, List.length_cons, Nat.add_assoc, Nat.add_comm 1]

/-- Where a container may be opened there is room for one. -/
theorem Inside.exists_succ (h : Inside limit up room) (hup : up.length < limit) :
    ∃ less, Inside limit up (less + 1) := by
  have hlength := h.length_add
  obtain ⟨less, rfl⟩ : ∃ less, room = less + 1 := Nat.exists_eq_succ_of_ne_zero (by omega)
  exact ⟨less, h⟩

theorem fits_complete (h : Inside limit up room) (hv : v.Fits room) :
    (State.complete v up).Fits limit := by
  cases h with
  | nothing => exact hv
  | items h hdone => exact ⟨_, h, List.forall_mem_cons.mpr ⟨hv, hdone⟩⟩
  | member h hdone =>
    refine ⟨_, h, fun m hm => ?_⟩
    rcases Table.mem_of_mem_put hm with rfl | hm
    · exact hv
    · exact hdone m hm

theorem fits_of_readValue (h : Inside limit up room) (hl : Token.Short [l.token])
    (hr : readValue limit up l = .ok next) : next.Fits limit := by
  unfold readValue at hr
  split at hr
  case h_1 =>
    cases hr
    exact fits_complete h Value.fits_null
  case h_2 =>
    cases hr
    exact fits_complete h (Value.fits_bool _)
  case h_3 ht =>
    cases hr
    exact fits_complete h (Value.fits_int (hl _ (by rw [ht]; exact List.mem_singleton_self _)))
  case h_4 =>
    cases hr
    exact fits_complete h (Value.fits_real _)
  case h_5 =>
    cases hr
    exact fits_complete h (Value.fits_text _)
  case h_6 | h_7 =>
    split at hr
    · next hup =>
      cases hr
      exact h.exists_succ hup
    · cases hr
  all_goals cases hr

theorem fits_of_readName (h : Inside limit up (room + 1)) (hdone : ∀ m ∈ done, m.2.Fits room)
    (hr : readName done up l = .ok next) : next.Fits limit := by
  unfold readName at hr
  split at hr
  · cases hr
    exact ⟨room, h, hdone⟩
  all_goals cases hr

theorem fits_of_step (hs : state.Fits limit) (hl : Token.Short [l.token])
    (h : step limit state l = .ok next) : next.Fits limit := by
  unfold step at h
  split at h
  case h_1 up =>
    obtain ⟨room, hup⟩ := hs
    exact fits_of_readValue hup hl h
  case h_2 up =>
    obtain ⟨room, hup⟩ := hs
    split at h
    · cases h
      exact fits_complete hup (Value.fits_list_iff.mpr (List.forall_mem_nil _))
    · exact fits_of_readValue (.items hup (List.forall_mem_nil _)) hl h
  case h_3 up =>
    obtain ⟨room, hup⟩ := hs
    split at h
    · cases h
      exact fits_complete hup (Value.fits_object_iff.mpr (List.forall_mem_nil _))
    · exact fits_of_readName hup (List.forall_mem_nil _) h
  case h_4 done up =>
    obtain ⟨room, hup, hdone⟩ := hs
    exact fits_of_readName hup hdone h
  case h_5 done label up =>
    obtain ⟨room, hup, hdone⟩ := hs
    split at h
    · cases h
      exact ⟨room, .member hup hdone⟩
    · cases h
  case h_6 done up =>
    obtain ⟨room, hup, hdone⟩ := hs
    split at h
    · cases h
      refine fits_complete hup (Value.fits_list_iff.mpr fun v hv => ?_)
      exact hdone v (List.mem_reverse.mp hv)
    · split at h
      · cases h
        exact ⟨room, .items hup hdone⟩
      · cases h
  case h_7 done up =>
    obtain ⟨room, hup, hdone⟩ := hs
    split at h
    · cases h
      exact fits_complete hup (Value.fits_object_iff.mpr hdone)
    · split at h
      · cases h
        exact ⟨room, hup, hdone⟩
      · cases h
  case h_8 => cases h

theorem fits_of_run (hs : state.Fits limit) (hls : ∀ l ∈ ls, Token.Short [l.token])
    (h : run limit length state ls = .ok v) : v.Fits limit := by
  induction ls generalizing state with
  | nil =>
    rw [run] at h
    cases state <;> cases h
    exact hs
  | cons l rest ih =>
    obtain ⟨hl, hrest⟩ := List.forall_mem_cons.mp hls
    rw [run] at h
    split at h
    · cases h
    · next hstep => exact ih (fits_of_step hs hl hstep) hrest h

end Reader

variable {limit : Nat} {text : List Char} {v : Value}

/-- A value that was read is within the limits that it was read with. -/
theorem Value.fits_of_readWithin (h : readWithin limit text = .ok v) : v.Fits limit := by
  unfold readWithin at h
  split at h
  · cases h
  · have hstart : (Reader.State.value []).Fits limit := ⟨limit, .nothing⟩
    refine Reader.fits_of_run hstart (fun l hl => ?_) h
    obtain ⟨c, rest, -, hshows⟩ := Token.shows_of_mem_lex hl
    exact Token.short_cons_iff.mpr ⟨hshows.short, Token.short_nil⟩

/-- What it says of a value that it has no text, when values may be entered `depth` deep. -/
inductive NoText.Due (depth : Nat) (v : Value) : NoText → Prop
  | longInteger (h : ¬Token.Short v.tokens) : Due depth v .longInteger
  | tooDeep (h : depth ≤ v.nesting) : Due depth v .tooDeep

namespace Value

variable {room depth : Nat} {v : Value} {vs : List Value} {ms : List (String × Value)}
  {reason : NoText}

theorem due_list (hdue : ∃ v ∈ vs, reason.Due depth v) : reason.Due (depth + 1) (list vs) := by
  obtain ⟨v, hv, hdue⟩ := hdue
  cases hdue with
  | longInteger h => exact .longInteger fun hshort => h (Token.short_list_iff.mp hshort v hv)
  | tooDeep h =>
    refine .tooDeep (Nat.succ_le_succ (h.trans ?_))
    exact nestingItems_le_iff.mp (Nat.le_refl _) v hv

theorem due_object (hdue : ∃ m ∈ ms, reason.Due depth m.2) :
    reason.Due (depth + 1) (object ms) := by
  obtain ⟨m, hm, hdue⟩ := hdue
  cases hdue with
  | longInteger h => exact .longInteger fun hshort => h (Token.short_object_iff.mp hshort m hm)
  | tooDeep h =>
    refine .tooDeep (Nat.succ_le_succ (h.trans ?_))
    exact nestingMembers_le_iff.mp (Nat.le_refl _) m hm

mutual

theorem due_of_obstacle? : ∀ (depth : Nat) (v : Value), v.obstacle? depth = some reason →
    reason.Due depth v
  | 0, v, h => by
    rw [obstacle?] at h
    cases h
    exact .tooDeep (Nat.zero_le _)
  | depth + 1, int n, h => by
    rw [obstacle?] at h
    split at h
    · next hlong =>
      cases h
      exact .longInteger (not_short_of_isLong hlong)
    · cases h
  | depth + 1, list vs, h => due_list (due_of_obstacleItems? depth vs h)
  | depth + 1, object ms, h => due_object (due_of_obstacleMembers? depth ms h)
  | _ + 1, null, h | _ + 1, bool _, h | _ + 1, real _, h | _ + 1, text _, h => nomatch h

theorem due_of_obstacleItems? : ∀ (depth : Nat) (vs : List Value),
    obstacleItems? depth vs = some reason → ∃ v ∈ vs, reason.Due depth v
  | _, [], h => nomatch h
  | depth, v :: vs, h => by
    rw [obstacleItems?, Option.or_eq_some_iff] at h
    rcases h with h | ⟨-, h⟩
    · exact ⟨v, List.mem_cons_self, due_of_obstacle? depth v h⟩
    · obtain ⟨w, hw, hdue⟩ := due_of_obstacleItems? depth vs h
      exact ⟨w, List.mem_cons_of_mem v hw, hdue⟩

theorem due_of_obstacleMembers? : ∀ (depth : Nat) (ms : List (String × Value)),
    obstacleMembers? depth ms = some reason → ∃ m ∈ ms, reason.Due depth m.2
  | _, [], h => nomatch h
  | depth, (k, v) :: ms, h => by
    rw [obstacleMembers?, Option.or_eq_some_iff] at h
    rcases h with h | ⟨-, h⟩
    · exact ⟨(k, v), List.mem_cons_self, due_of_obstacle? depth v h⟩
    · obtain ⟨m, hm, hdue⟩ := due_of_obstacleMembers? depth ms h
      exact ⟨m, List.mem_cons_of_mem (k, v) hm, hdue⟩

end

theorem due_of_display (h : v.display depth = .error reason) : reason.Due depth v := by
  unfold display at h
  split at h
  · cases h
  · split at h
    · next hobstacle =>
      cases h
      exact due_of_obstacle? depth _ hobstacle
    · cases h

/-- Whatever is within limits has a text, wherever values may be entered one deeper. -/
theorem Fits.exists_display (h : v.Fits room) (hroom : room < depth) :
    ∃ s, v.display depth = .ok s := by
  cases hd : v.display depth with
  | ok s => exact ⟨s, rfl⟩
  | error reason =>
    cases due_of_display hd with
    | longInteger hlong => exact absurd h.short hlong
    | tooDeep hdeep => exact absurd (h.nesting.trans_lt hroom) (Nat.not_lt.mpr hdeep)

end Value

end Json

end RuntimeImage
