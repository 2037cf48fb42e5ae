import RuntimeImage.Path

/-!
Names that are one whole path component. Joined to a directory such a name is the last component,
and the directory is what is left without it.
-/

namespace RuntimeImage.Path

/-- The text is not empty, is not `.` and has no slash in it. -/
structure IsName (s : String) : Prop where
  ne_empty : s ≠ ""
  ne_dot : s ≠ "."
  no_slash : '/' ∉ s.toList

/-- A name that leads down into its directory, not up out of it. -/
structure IsEntry (s : String) : Prop extends IsName s where
  ne_up : s ≠ ".."

variable {s : String}

/-- A text longer than the names with a meaning of their own is an entry if it has no slash. -/
theorem isEntry_of_length (hlen : 2 < s.toList.length) (hslash : '/' ∉ s.toList) : IsEntry s := by
  refine ⟨⟨?_, ?_, hslash⟩, ?_⟩
  all_goals
    rintro rfl
    simp at hlen

theorem IsName.components_eq (h : IsName s) : components s = [s] := by
  rw [components, List.splitOn_eq_singleton h.no_slash, List.map_singleton, String.ofList_toList]

theorem IsName.ofString_eq (h : IsName s) : ofString s = ⟨0, [s]⟩ := by
  have hleading : s.toList.takeWhile (· = '/') = [] := by
    cases hs : s.toList with
    | nil => rfl
    | cons c rest =>
      have hc : c ≠ '/' := by
        rintro rfl
        exact h.no_slash (hs ▸ List.mem_cons_self)
      simp [hc]
  have hkept : ([s].filter fun c => c ≠ "" ∧ c ≠ ".") = [s] := by
    simp [h.ne_empty, h.ne_dot]
  simp only [ofString, h.components_eq, hleading, hkept, List.length_nil, Nat.zero_le, if_true]

theorem IsName.join_eq (h : IsName s) (p : Path) : p.join s = ⟨p.slashes, p.parts ++ [s]⟩ := by
  simp only [join, h.ofString_eq, if_true]

theorem IsName.parent_join (h : IsName s) (p : Path) : (p.join s).parent = p := by
  simp only [parent, h.join_eq, List.dropLast_concat]

theorem IsName.name_join (h : IsName s) (p : Path) : (p.join s).name = s := by
  simp only [name, h.join_eq, List.getLast?_concat, Option.getD_some]

/-- A name that is lengthened to another name gives its neighbour in the same directory. -/
theorem IsName.addExtension_join (h : IsName s) {extension : String}
    (hx : IsName (s ++ extension)) (p : Path) :
    (p.join s).addExtension extension = p.join (s ++ extension) := by
  rw [addExtension, h.name_join, h.join_eq, hx.join_eq, List.dropLast_concat]

/-- What stands in front of a name in the text of a joined path. -/
def front (p : Path) : String :=
  if p.parts = [] then String.ofList (List.replicate p.slashes '/') else p.render ++ "/"

theorem IsName.render_join (h : IsName s) (p : Path) : (p.join s).render = p.front ++ s := by
  rw [h.join_eq, render, if_neg (by simp), front]
  by_cases hparts : p.parts = []
  · rw [if_pos hparts, hparts, List.nil_append, String.intercalate_singleton]
  · rw [if_neg hparts, render, if_neg (by simp [hparts]),
      String.intercalate_append_of_ne_nil hparts (List.cons_ne_nil s []),
      String.intercalate_singleton]
    simp only [String.append_assoc]

/-- In front of a name stands the text of the directory with a slash behind it, unless the directory
is empty or a root. -/
theorem front_cases (p : Path) :
    p = ⟨0, []⟩ ∧ p.front = "" ∨
      ∃ above, p.front = above ++ "/" ∧ (p.render = above ∨ p.render = above ++ "/") := by
  rcases p with ⟨slashes, parts⟩
  by_cases hparts : parts = []
  · subst hparts
    cases slashes with
    | zero => exact Or.inl ⟨rfl, rfl⟩
    | succ n =>
      have hroot : String.ofList (List.replicate (n + 1) '/') =
          String.ofList (List.replicate n '/') ++ "/" := by
        rw [List.replicate_succ', String.ofList_append]
      refine Or.inr ⟨String.ofList (List.replicate n '/'), ?_, Or.inr ?_⟩
      · rw [front, if_pos rfl, hroot]
      · simp [render, hroot]
  · exact Or.inr ⟨render ⟨slashes, parts⟩, by rw [front, if_neg hparts], Or.inl rfl⟩

/-- A slash ends a component. -/
theorem components_append (above s : String) :
    components (above ++ "/" ++ s) = components above ++ components s := by
  have htext : (above ++ "/" ++ s).toList = above.toList ++ '/' :: s.toList := by simp
  rw [components, htext, List.splitOn_append_cons_self, List.map_append]
  rfl

/-- The name is the last component of the text of the joined path. -/
theorem IsName.components_render_join (h : IsName s) (p : Path) :
    ∃ above, components (p.join s).render = above ++ [s] := by
  rw [h.render_join]
  rcases p.front_cases with ⟨-, hfront⟩ | ⟨above, hfront, -⟩
  · exact ⟨[], by rw [hfront, String.empty_append, h.components_eq, List.nil_append]⟩
  · exact ⟨components above, by rw [hfront, components_append, h.components_eq]⟩

theorem IsName.not_isAbsolute (h : IsName s) : isAbsolute s = false := by
  rw [isAbsolute, decide_eq_false_iff_not]
  intro hs
  exact h.no_slash (List.mem_of_head? hs)

/-- Whether a text is absolute does not depend on what is put behind it, unless it is empty. -/
theorem isAbsolute_append {above : String} (h : above ≠ "") (s : String) :
    isAbsolute (above ++ s) = isAbsolute above := by
  rw [isAbsolute, isAbsolute, String.toList_append]
  cases habove : above.toList with
  | nil => exact absurd (String.toList_eq_nil_iff.mp habove) h
  | cons c rest => rfl

/-- In front of a name there are slashes and the characters of the directory. -/
theorem not_mem_front (p : Path) {c : Char} (hc : c ≠ '/') (h : c ∉ p.render.toList) :
    c ∉ p.front.toList := by
  rw [front]
  split
  · rw [String.toList_ofList]
    exact fun hmem => hc (List.eq_of_mem_replicate hmem)
  · rw [String.toList_append, List.mem_append, not_or]
    exact ⟨h, fun hmem => hc (List.mem_singleton.mp hmem)⟩

theorem ne_empty_of_isAbsolute (h : isAbsolute s) : s ≠ "" := by
  rintro rfl
  exact absurd h (by decide)

end RuntimeImage.Path
