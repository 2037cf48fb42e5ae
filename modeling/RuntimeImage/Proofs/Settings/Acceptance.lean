import RuntimeImage.Proofs.Settings.Format

/-!
Which texts are accepted as a configuration, and what they give. A text is accepted exactly if its
value describes settings, and then gives those. Members under names that are not known, at the top
or in a section, change neither the settings nor a fault.
-/

namespace RuntimeImage.Settings

open Json

variable {α : Type} {depth : Nat} {members others : Table Value} {name : String} {a : α}

/-- Translating faults touches no value. -/
theorem mapError_eq_ok_iff {x : Except Fault α} {translate : Fault → Fault} :
    x.mapError translate = .ok a ↔ x = .ok a := by
  cases x <;> simp [Except.mapError]

theorem readContent_eq_ok_iff {value : Value} {groups : List PackageGroup} {d : Distribution} :
    readContent depth members value = .ok (groups, d) ↔
      PackageGroups.normalize depth value = .ok groups ∧
        (section? members "runtime" >>= readDistribution) = .ok d := by
  unfold readContent
  simp only [bind_eq_ok_iff]
  constructor
  · rintro ⟨groups', hn, runtime, hs, d', hd, heq⟩
    cases heq
    exact ⟨hn, runtime, hs, hd⟩
  · rintro ⟨hn, runtime, hs, hd⟩
    exact ⟨groups, hn, runtime, hs, d, hd, rfl⟩

/-- An object is read to settings when each of its sections is. -/
theorem ofValue_object_eq_ok_iff {settings : Settings} :
    ofValue depth (.object members) = .ok settings ↔
      (groupsValue members >>= PackageGroups.normalize depth) = .ok settings.groups ∧
        (section? members "runtime" >>= readDistribution) = .ok settings.distribution ∧
        (section? members "policy" >>= readPolicy) = .ok settings.policy ∧
        (section? members "mirror" >>= readMirror) = .ok settings.mirror := by
  rw [ofValue]
  constructor
  · intro h
    obtain ⟨value, hvalue, h⟩ := bind_eq_ok_iff.mp h
    obtain ⟨⟨groups, distribution⟩, hcontent, h⟩ := bind_eq_ok_iff.mp h
    obtain ⟨hn, hruntime⟩ := readContent_eq_ok_iff.mp (mapError_eq_ok_iff.mp hcontent)
    obtain ⟨inner, hpolicyAt, h⟩ := bind_eq_ok_iff.mp h
    obtain ⟨policy, hpolicy, h⟩ := bind_eq_ok_iff.mp h
    obtain ⟨inner', hmirrorAt, h⟩ := bind_eq_ok_iff.mp h
    obtain ⟨mirror, hmirror, h⟩ := bind_eq_ok_iff.mp h
    cases h
    exact ⟨bind_eq_ok_iff.mpr ⟨value, hvalue, hn⟩, hruntime,
      bind_eq_ok_iff.mpr ⟨inner, hpolicyAt, hpolicy⟩,
      bind_eq_ok_iff.mpr ⟨inner', hmirrorAt, hmirror⟩⟩
  · rintro ⟨hgroups, hruntime, hpolicy, hmirror⟩
    obtain ⟨value, hvalue, hn⟩ := bind_eq_ok_iff.mp hgroups
    obtain ⟨inner, hpolicyAt, hpolicy⟩ := bind_eq_ok_iff.mp hpolicy
    obtain ⟨inner', hmirrorAt, hmirror⟩ := bind_eq_ok_iff.mp hmirror
    have hcontent : (readContent depth members value).mapError misconfigured =
        .ok (settings.groups, settings.distribution) :=
      mapError_eq_ok_iff.mpr (readContent_eq_ok_iff.mpr ⟨hn, hruntime⟩)
    simp only [bind, Except.bind, hvalue, hcontent, hpolicyAt, hpolicy, hmirrorAt, hmirror]
    rfl

/-- What an object is read to is what it describes. -/
theorem ofValue_object_eq_ok_iff_describes {settings : Settings}
    (hurl : UrlSplits (.object members)) :
    ofValue depth (.object members) = .ok settings ↔ Describes members settings := by
  have hruntime : (section? members "runtime" >>= readDistribution) = .ok settings.distribution ↔
      Given members "runtime" .julia (IsObject DescribesRuntime) settings.distribution :=
    bind_section?_eq_ok_iff rfl fun inner h =>
      readDistribution_eq_ok_iff fun url => hurl members inner url rfl h
  have hpolicy : (section? members "policy" >>= readPolicy) = .ok settings.policy ↔
      Given members "policy" {} (IsObject DescribesPolicy) settings.policy :=
    bind_section?_eq_ok_iff rfl fun _ _ => readPolicy_eq_ok_iff
  have hmirror : (section? members "mirror" >>= readMirror) = .ok settings.mirror ↔
      Given members "mirror" .default (IsObject DescribesMirror) settings.mirror :=
    bind_section?_eq_ok_iff rfl fun _ _ => readMirror_eq_ok_iff
  rw [ofValue_object_eq_ok_iff, groupsValue_bind_eq_ok_iff, hruntime, hpolicy, hmirror]
  constructor
  · rintro ⟨hg, hr, hp, hm⟩
    exact ⟨hg, hr, hp, hm⟩
  · rintro ⟨hg, hr, hp, hm⟩
    exact ⟨hg, hr, hp, hm⟩

/-! Members under other names. -/

/-- Two values of a section, or none, in which the members with these names are the same. -/
inductive SameSection (names : List String) : Option Value → Option Value → Prop
  | same (o : Option Value) : SameSection names o o
  | objects {inner inner' : Table Value} (h : ∀ name ∈ names, inner.get? name = inner'.get? name) :
      SameSection names (some (.object inner)) (some (.object inner'))

/-- The two objects have the same in all that a configuration can say. -/
structure SameKnown (members members' : Table Value) : Prop where
  packages : members.get? "packages" = members'.get? "packages"
  runtime : SameSection ["url", "sha256"] (members.get? "runtime") (members'.get? "runtime")
  policy : SameSection ["require_integrity", "network_mode", "mirror_mode"]
    (members.get? "policy") (members'.get? "policy")
  mirror : SameSection ["persist_service"] (members.get? "mirror") (members'.get? "mirror")

theorem bind_section?_congr {names : List String} {read : Table Value → Except Fault α}
    (hs : SameSection names (members.get? name) (others.get? name))
    (hread : ∀ inner inner', (∀ n ∈ names, inner.get? n = inner'.get? n) →
      read inner = read inner') :
    (section? members name >>= read) = (section? others name >>= read) := by
  unfold section?
  generalize members.get? name = o at hs
  generalize others.get? name = o' at hs
  cases hs with
  | same => rfl
  | objects h => exact hread _ _ h

theorem text?_congr {default : String} (h : members.get? name = others.get? name) :
    text? members name default = text? others name default := by
  rw [text?, text?, h]

theorem flag_congr {owner : String} {default : Bool} (h : members.get? name = others.get? name) :
    flag members owner name default = flag others owner name default := by
  rw [flag, flag, h]

theorem choice_congr {owner default : String} {allowed : List String}
    (h : members.get? name = others.get? name) :
    choice members owner name allowed default = choice others owner name allowed default := by
  rw [choice, choice, text?_congr h]

theorem readDistribution_congr
    (h : ∀ name ∈ ["url", "sha256"], members.get? name = others.get? name) :
    readDistribution members = readDistribution others := by
  rw [readDistribution, readDistribution, text?_congr (h "url" (by decide)),
    text?_congr (h "sha256" (by decide))]

theorem readPolicy_congr (h : ∀ name ∈ ["require_integrity", "network_mode", "mirror_mode"],
    members.get? name = others.get? name) : readPolicy members = readPolicy others := by
  rw [readPolicy, readPolicy, flag_congr (h "require_integrity" (by decide)),
    choice_congr (h "network_mode" (by decide)), choice_congr (h "mirror_mode" (by decide))]

theorem readMirror_congr (h : ∀ name ∈ ["persist_service"],
    members.get? name = others.get? name) : readMirror members = readMirror others := by
  rw [readMirror, readMirror, flag_congr (h "persist_service" (by decide))]

/-- Objects that have the same in all that a configuration says are read alike, faults included. -/
theorem ofValue_congr (h : SameKnown members others) :
    ofValue depth (.object members) = ofValue depth (.object others) := by
  have hgroups : groupsValue members = groupsValue others := by
    rw [groupsValue, groupsValue, h.packages]
  have hcontent : ∀ value, readContent depth members value = readContent depth others value := by
    intro value
    refine bind_congr fun groups => ?_
    refine bind_section?_congr h.runtime fun inner inner' hsame => ?_
    rw [readDistribution_congr hsame]
  rw [ofValue, ofValue, hgroups]
  refine bind_congr fun value => ?_
  rw [hcontent]
  refine bind_congr fun content => ?_
  obtain ⟨groups, distribution⟩ := content
  -- What follows the policy is compared once both are past it.
  calc (section? members "policy" >>= fun inner => readPolicy inner >>= _)
      = (section? others "policy" >>= fun inner => readPolicy inner >>= _) := by
        refine bind_section?_congr h.policy fun inner inner' hsame => ?_
        rw [readPolicy_congr hsame]
    _ = _ := by
        refine bind_congr fun inner => bind_congr fun policy => ?_
        refine bind_section?_congr h.mirror fun inner inner' hsame => ?_
        rw [readMirror_congr hsame]

/-- However deep values may be nested, a text that is read and whose URL can be taken apart is
accepted exactly if its value describes settings, and gives those. Another text whose value has the
same under the known names has the same outcome. Texts are of scalar values, so lone surrogates are
left out: an escape for one is read as the replacement character. -/
theorem parse_eq_ok_iff_describes {text : String} {v : Value}
    (hread : readWithin depth text.toList = .ok v) (hurl : UrlSplits v) :
    (∀ settings, parse depth text = .ok settings ↔ IsObject Describes v settings) ∧
      ∀ (other : String) (members members' : Table Value), v = .object members →
        readWithin depth other.toList = .ok (.object members') → SameKnown members members' →
          parse depth other = parse depth text := by
  have hparse : parse depth text = ofValue depth v := by
    rw [parse, hread]
  rw [hparse]
  refine ⟨fun settings => ?_, ?_⟩
  · cases v with
    | object members =>
      rw [ofValue_object_eq_ok_iff_describes hurl]
      constructor
      · intro hd
        exact ⟨members, rfl, hd⟩
      · rintro ⟨members', heq, hd⟩
        cases heq
        exact hd
    | _ =>
      constructor
      · intro haccepted
        cases haccepted
      · rintro ⟨members, heq, -⟩
        cases heq
  · rintro other members members' rfl hother hsame
    rw [parse, hother, ofValue_congr hsame]

/-- A configuration that gives some of its members, the scheme of a URL in a way of its own, and a
member that is not known. -/
def sampleText : String :=
  "\x7b\"packages\": [[\"HTTP\", \"JSON\"]], " ++
    "\"runtime\": \x7b\"url\": \"FI\\tLE:/a\"\x7d, \"x\": 1\x7d"

set_option maxRecDepth 4000 in
theorem read_sampleText : readWithin maxDepth sampleText.toList = .ok (.object [
    ("packages", .list [.list [.text "HTTP", .text "JSON"]]),
    ("runtime", .object [("url", .text "FI\tLE:/a")]), ("x", .int 1)]) := by
  rfl

/-- What is not given has its default, and what is not known makes no difference. -/
theorem parse_eq_ok_iff_describes_sampleText : parse maxDepth sampleText = .ok {
    groups := [["HTTP", "JSON"]]
    distribution := { Distribution.julia with url := "FI\tLE:/a" } } := by
  have hurl : UrlSplits (.object [
      ("packages", .list [.list [.text "HTTP", .text "JSON"]]),
      ("runtime", .object [("url", .text "FI\tLE:/a")]), ("x", .int 1)]) := by
    rintro members runtime url ⟨⟩ ⟨⟩ ⟨⟩
    exact ⟨"file", rfl⟩
  refine ((parse_eq_ok_iff_describes read_sampleText hurl).1 _).mpr ⟨_, rfl, ?_⟩
  refine ⟨.present rfl ⟨rfl, ?_⟩, .present rfl ⟨_, rfl, ?_⟩, .absent rfl, .absent rfl⟩
  · intro group hg
    rw [List.mem_singleton.mp hg]
    refine ⟨by decide, fun name hn => PackageGroups.isName_iff.mp ?_⟩
    revert name
    decide
  · refine ⟨.present rfl ⟨rfl, "file", by decide, ?_⟩, .absent rfl, rfl⟩
    exact ⟨['F', 'I', 'L', 'E'], ['/', 'a'], rfl, rfl⟩

end RuntimeImage.Settings
