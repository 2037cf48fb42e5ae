import RuntimeImage.Proofs.Distribution
import RuntimeImage.Proofs.Json.Refusals
import RuntimeImage.Proofs.PackageGroups.Offenders
import RuntimeImage.Settings

/-!
Which faults a configuration text can end in. A malformed configuration should be a fault of the
configuration, whatever is wrong with it; three causes get past that, all of them from the libraries
underneath: nesting and integers beyond what the JSON reader takes, and URLs whose authority cannot
be taken apart.
-/

namespace RuntimeImage.Settings

open Json

/-- A value, or a fault of the configuration. -/
inductive Surfaces {α : Type} : Except Fault α → Prop
  | ok (a : α) : Surfaces (.ok a)
  | config (reason : Misconfigured) : Surfaces (.error (.config reason))

/-- The faults of a text that are no faults of the configuration, with their causes. A URL is looked
at once the groups are read and both texts of the runtime are there. -/
inductive Escapes (depth : Nat) (text : String) : Fault → Prop
  | tooDeep {container : Container}
      (hr : readWithin depth text.toList = .error (.tooDeep container))
      (hd : depth < text.toList.countP Token.isOpening) : Escapes depth text (.tooDeep container)
  | integerTooLong {ds : List Char}
      (hr : readWithin depth text.toList = .error (.integerTooLong ds.length))
      (hds : ds <:+: text.toList) (hrun : Token.IsLongRun ds) :
      Escapes depth text (.integerTooLong ds.length)
  | url {members runtime : Table Value} {value : Value} {groups : List PackageGroup}
      {url sha256 : String} {fault : Url.Fault}
      (hr : readWithin depth text.toList = .ok (.object members))
      (hg : groupsValue members = .ok value)
      (hn : PackageGroups.normalize depth value = .ok groups)
      (hs : section? members "runtime" = .ok runtime)
      (hurl : runtime.get? "url" = some (.text url))
      (hsha : text? runtime "sha256" Distribution.julia.sha256 = some sha256)
      (hf : Url.scheme url = .error fault) : Escapes depth text (.url fault)

variable {α β : Type} {members runtime : Table Value} {value : Value} {fault : Fault}
  {text : String} {depth : Nat}

theorem Surfaces.bind {x : Except Fault α} {f : α → Except Fault β} (hx : Surfaces x)
    (hf : ∀ a, Surfaces (f a)) : Surfaces (x >>= f) := by
  cases hx with
  | ok a => exact hf a
  | config reason => exact .config reason

/-- Faults are translated whatever becomes of the value. -/
theorem Surfaces.mapError_map {x : Except Fault α} {f : α → β} {translate : Fault → Fault}
    (h : Surfaces (x.mapError translate)) : Surfaces ((x.map f).mapError translate) := by
  cases x with
  | ok a => exact .ok (f a)
  | error fault =>
    obtain ⟨reason, hreason⟩ : ∃ reason, translate fault = .config reason := by
      rw [Except.mapError] at h
      generalize translate fault = translated at h
      cases h with
      | config reason => exact ⟨reason, rfl⟩
    rw [Except.map, Except.mapError, hreason]
    exact .config reason

theorem surfaces_section? (members : Table Value) (name : String) :
    Surfaces (section? members name) := by
  unfold section?
  split
  · exact .ok []
  · exact .ok _
  · exact .config _

theorem surfaces_flag (members : Table Value) (owner name : String) (default : Bool) :
    Surfaces (flag members owner name default) := by
  unfold flag
  split
  · exact .ok default
  · exact .ok _
  · exact .config _

theorem surfaces_choice (members : Table Value) (owner name : String) (allowed : List String)
    (default : String) : Surfaces (choice members owner name allowed default) := by
  unfold choice
  split
  · split
    · exact .ok _
    · exact .config _
  · exact .config _

theorem surfaces_readPolicy (members : Table Value) : Surfaces (readPolicy members) := by
  unfold readPolicy
  refine (surfaces_flag _ _ _ _).bind fun requireIntegrity => ?_
  refine (surfaces_choice _ _ _ _ _).bind fun networkMode => ?_
  exact (surfaces_choice _ _ _ _ _).bind fun mirrorMode => .ok _

theorem surfaces_readMirror (members : Table Value) : Surfaces (readMirror members) :=
  (surfaces_flag _ _ _ _).bind fun _ => .ok _

/-- The groups of a configuration are a list of lists, or the configuration is at fault. -/
theorem groupsValue_cases (members : Table Value) :
    (∃ reason, groupsValue members = .error (.config reason)) ∨
      ∃ groups, groupsValue members = .ok (.list groups) ∧ groups.all isList ∧
        (groups = [] ∨ members.get? "packages" = some (.list groups)) := by
  unfold groupsValue
  split
  · exact Or.inr ⟨[], rfl, rfl, Or.inl rfl⟩
  · next h =>
    split
    · next hall => exact Or.inr ⟨_, rfl, hall, Or.inr h⟩
    · exact Or.inl ⟨_, rfl⟩
  · exact Or.inl ⟨_, rfl⟩

theorem isList_iff {v : Value} : isList v = true ↔ ∃ items, v = .list items := by
  cases v <;> simp [isList]

/-- A URL that is refused is one that the configuration gives: the default is in order. -/
theorem get?_url_of_scheme {url : String} {f : Url.Fault}
    (h : text? runtime "url" Distribution.julia.url = some url) (hf : Url.scheme url = .error f) :
    runtime.get? "url" = some (.text url) := by
  unfold text? at h
  split at h
  · cases h
    have hdefault : Url.scheme Distribution.julia.url = .ok "https" := rfl
    cases hdefault.symm.trans hf
  · next hget =>
    cases h
    exact hget
  · cases h

theorem readDistribution_cases (runtime : Table Value) :
    Surfaces ((readDistribution runtime).mapError misconfigured) ∨
      ∃ url sha256 f, runtime.get? "url" = some (.text url) ∧
        text? runtime "sha256" Distribution.julia.sha256 = some sha256 ∧
        Url.scheme url = .error f := by
  unfold readDistribution
  split
  · next url sha256 hurl hsha =>
    cases hv : Distribution.validate { Distribution.julia with url, sha256 } with
    | ok d => exact Or.inl (.ok d)
    | error fault =>
      rcases Distribution.validate_cases hv with ⟨f, hf, rfl⟩ | ⟨reason, rfl⟩
      · exact Or.inr ⟨url, sha256, f, get?_url_of_scheme hurl hf, hsha, hf⟩
      · exact Or.inl (.config _)
  · exact Or.inl (.config _)

/-- Once the groups and the members of the runtime are there, all turns on the runtime. -/
theorem readContent_eq {groups : List PackageGroup}
    (hn : PackageGroups.normalize depth value = .ok groups)
    (hs : section? members "runtime" = .ok runtime) :
    readContent depth members value = (readDistribution runtime).map (groups, ·) := by
  rw [readContent, hn, hs]
  cases hd : readDistribution runtime <;> simp [bind, Except.bind, hd, Except.map, pure, Except.pure]

/-- Groups and runtime: every fault is one of the configuration, unless it is of the URL. -/
theorem readContent_cases (members : Table Value) {lists : List Value} (hall : lists.all isList)
    (hfits : (Value.list lists).Fits depth) :
    Surfaces ((readContent depth members (.list lists)).mapError misconfigured) ∨
      ∃ runtime groups url sha256 f, section? members "runtime" = .ok runtime ∧
        PackageGroups.normalize depth (.list lists) = .ok groups ∧
        runtime.get? "url" = some (.text url) ∧
        text? runtime "sha256" Distribution.julia.sha256 = some sha256 ∧
        Url.scheme url = .error f := by
  cases hn : PackageGroups.normalize depth (.list lists) with
  | error fault =>
    have hlists : ∀ v ∈ lists, ∃ items, v = .list items := fun v hv =>
      isList_iff.mp (List.all_eq_true.mp hall v hv)
    obtain ⟨reason, rfl⟩ := PackageGroups.invalid_of_normalize hlists hfits hn
    rw [readContent, hn]
    exact Or.inl (.config _)
  | ok groups =>
    cases hs : section? members "runtime" with
    | error fault =>
      have hsurfaces := surfaces_section? members "runtime"
      rw [hs] at hsurfaces
      cases hsurfaces
      rw [readContent, hn, hs]
      exact Or.inl (.config _)
    | ok runtime =>
      rcases readDistribution_cases runtime with h | ⟨url, sha256, f, hurl, hsha, hf⟩
      · rw [readContent_eq hn hs]
        exact Or.inl h.mapError_map
      · exact Or.inr ⟨runtime, groups, url, sha256, f, rfl, rfl, hurl, hsha, hf⟩

theorem parse_of_escapes (h : Escapes depth text fault) : parse depth text = .error fault := by
  unfold parse
  cases h with
  | tooDeep hr _ =>
    rw [hr]
    rfl
  | integerTooLong hr _ _ =>
    rw [hr]
    rfl
  -- The checks in front of the URL all pass, and of those behind it none is made.
  | @url members runtime value groups url sha256 f hr hg hn hs hurl hsha hf =>
    have htext : text? runtime "url" Distribution.julia.url = some url := by
      rw [text?, hurl]
    have hd : readDistribution runtime = .error (.url f) := by
      rw [readDistribution, htext, hsha]
      simp only [Distribution.validate, hf]
    rw [hr]
    dsimp only
    rw [ofValue, hg]
    simp only [bind, Except.bind, readContent_eq hn hs, hd]
    rfl

/-- What comes after the groups and the runtime is a fault of the configuration, if any. -/
theorem surfaces_ofValue {lists : List Value} (hg : groupsValue members = .ok (.list lists))
    (hc : Surfaces ((readContent depth members (.list lists)).mapError misconfigured)) :
    Surfaces (ofValue depth (.object members)) := by
  rw [ofValue, hg]
  refine hc.bind fun content => ?_
  refine (surfaces_section? members "policy").bind fun policy => ?_
  refine (surfaces_readPolicy policy).bind fun policy => ?_
  refine (surfaces_section? members "mirror").bind fun mirror => ?_
  exact (surfaces_readMirror mirror).bind fun mirror => .ok _

/-- The groups of an object that was read are read with as much room, absent ones included. -/
theorem fits_groups {lists : List Value}
    (hr : readWithin depth text.toList = .ok (.object members))
    (hlists : lists = [] ∨ members.get? "packages" = some (.list lists)) :
    (Value.list lists).Fits depth := by
  have hfits := Value.fits_of_readWithin hr
  obtain ⟨room, rfl⟩ := hfits.exists_succ (Nat.succ_pos _)
  rcases hlists with rfl | hget
  · exact Value.fits_list_iff.mpr (List.forall_mem_nil _)
  · have hmember := Value.fits_object_iff.mp hfits _ (Table.mem_of_get? hget)
    exact hmember.mono (Nat.le_succ room)

theorem surfaces_or_escapes (depth : Nat) (text : String) :
    Surfaces (parse depth text) ∨ ∃ fault, Escapes depth text fault := by
  unfold parse
  cases hr : readWithin depth text.toList with
  | error refusal =>
    cases due_of_readWithin hr with
    | malformed => exact Or.inl (.config _)
    | tooDeep hd => exact Or.inr ⟨_, .tooDeep hr hd⟩
    | integerTooLong hds hrun => exact Or.inr ⟨_, .integerTooLong hr hds hrun⟩
  | ok v =>
    -- A value that is no object is a fault of the configuration at once.
    cases v with
    | object members =>
      rcases groupsValue_cases members with ⟨reason, hg⟩ | ⟨lists, hg, hall, hlists⟩
      · refine Or.inl ?_
        dsimp only
        rw [ofValue, hg]
        exact .config reason
      · rcases readContent_cases members hall (fits_groups hr hlists) with hc | hbad
        · exact Or.inl (surfaces_ofValue hg hc)
        · obtain ⟨runtime, groups, url, sha256, f, hs, hn, hurl, hsha, hf⟩ := hbad
          exact Or.inr ⟨_, .url hr hg hn hs hurl hsha hf⟩
    | _ => exact Or.inl (.config _)

/-- However deep values may be nested, a text gives settings or a fault of the configuration, unless
it is nested too deeply, has an integer with too many digits, or gives a URL whose authority cannot
be taken apart. Each of the three is then the fault that the text ends in. -/
theorem surfaces_iff_not_escapes (depth : Nat) (text : String) :
    (((∃ settings, parse depth text = .ok settings) ∨
        ∃ reason, parse depth text = .error (.config reason)) ↔
        ¬∃ fault, Escapes depth text fault) ∧
      ∀ fault, Escapes depth text fault → parse depth text = .error fault := by
  refine ⟨⟨?_, ?_⟩, fun fault => parse_of_escapes⟩
  · rintro hsurfaces ⟨fault, hescapes⟩
    have hp := parse_of_escapes hescapes
    rw [hp] at hsurfaces
    rcases hsurfaces with ⟨settings, hs⟩ | ⟨reason, hr⟩
    · cases hs
    · cases hr
      cases hescapes
  · intro hnone
    have hsurfaces := (surfaces_or_escapes depth text).resolve_right hnone
    generalize parse depth text = result at hsurfaces
    cases hsurfaces with
    | ok settings => exact Or.inl ⟨settings, rfl⟩
    | config reason => exact Or.inr ⟨reason, rfl⟩

/-- A configuration whose URL has a bracket that is not closed. -/
def openBracket : String := "\x7b\"runtime\": \x7b\"url\": \"http://[\"\x7d\x7d"

theorem not_surfaces_openBracket :
    ¬((∃ settings, parse maxDepth openBracket = .ok settings) ∨
      ∃ reason, parse maxDepth openBracket = .error (.config reason)) := by
  have hp : parse maxDepth openBracket = .error (.url .brackets) := rfl
  rw [hp]
  rintro (⟨settings, hs⟩ | ⟨reason, hr⟩)
  · cases hs
  · cases hr

/-! The two other causes in their simplest form: brackets alone, and a number alone. -/

theorem parse_nested {n : Nat} (hn : depth < n) :
    parse depth (String.ofList (List.replicate n '[')) = .error (.tooDeep .array) := by
  rw [parse, String.toList_ofList, readWithin_nested hn]
  rfl

theorem parse_ones {n : Nat} (hn : Integer.maxDigits < n) :
    parse depth (String.ofList (List.replicate n '1')) = .error (.integerTooLong n) := by
  rw [parse, String.toList_ofList, readWithin_ones hn]
  rfl

end RuntimeImage.Settings
