import RuntimeImage.Proofs.Provision.Steps
import RuntimeImage.Proofs.Settings.Faults
import RuntimeImage.Proofs.Url

/-!
The format of a configuration: which values describe settings, and which settings. A member that is
left out stands for its default, and one that is there has to mean something. The format is said of
the values alone; what each reader accepts is then shown to be what it says.
-/

namespace RuntimeImage.Settings

open Json

variable {α : Type} {members : Table Value} {name : String} {default a : α}
  {Means : Value → α → Prop} {s : String} {P : String → Prop}

/-- What a member of an object stands for: for what its value means, or for the default. -/
inductive Given (members : Table Value) (name : String) (default : α) (Means : Value → α → Prop) :
    α → Prop
  | absent (h : members.get? name = none) : Given members name default Means default
  | present {v : Value} {a : α} (h : members.get? name = some v) (hv : Means v a) :
      Given members name default Means a

def IsBool (v : Value) (b : Bool) : Prop := v = .bool b

def IsText (P : String → Prop) (v : Value) (s : String) : Prop := v = .text s ∧ P s

/-- An object whose members describe something. -/
def IsObject (Describes : Table Value → α → Prop) (v : Value) (a : α) : Prop :=
  ∃ members, v = .object members ∧ Describes members a

/-- A list of groups, each a list of one name or more. -/
def IsGroups (v : Value) (groups : List PackageGroup) : Prop :=
  v = .list (groups.map fun group => .list (group.map .text)) ∧
    ∀ group ∈ groups, group ≠ [] ∧ ∀ name ∈ group, PackageGroups.IsIdentifier name

/-- A URL of one of the schemes that archives are fetched by. -/
def IsUrl (url : String) : Prop := ∃ word ∈ ["file", "http", "https"], Url.HasScheme url word

def IsSha256 (digest : String) : Prop :=
  digest.toList.length = 64 ∧ ∀ c ∈ digest.toList, '0' ≤ c ∧ c ≤ '9' ∨ 'a' ≤ c ∧ c ≤ 'f'

structure DescribesRuntime (members : Table Value) (d : Distribution) : Prop where
  url : Given members "url" Distribution.downloadUrl (IsText IsUrl) d.url
  sha256 : Given members "sha256" Distribution.archiveDigest (IsText IsSha256) d.sha256
  others : d = { Distribution.julia with url := d.url, sha256 := d.sha256 }

structure DescribesPolicy (members : Table Value) (p : Policy) : Prop where
  requireIntegrity : Given members "require_integrity" true IsBool p.requireIntegrity
  networkMode :
    Given members "network_mode" "online" (IsText (· ∈ ["online", "offline"])) p.networkMode
  mirrorMode :
    Given members "mirror_mode" "always" (IsText (· ∈ ["always", "on-demand"])) p.mirrorMode

structure DescribesMirror (members : Table Value) (m : PackageMirror) : Prop where
  persistService : Given members "persist_service" false IsBool m.persistService
  others : m = { PackageMirror.default with persistService := m.persistService }

structure Describes (members : Table Value) (s : Settings) : Prop where
  packages : Given members "packages" [] IsGroups s.groups
  runtime : Given members "runtime" .julia (IsObject DescribesRuntime) s.distribution
  policy : Given members "policy" {} (IsObject DescribesPolicy) s.policy
  mirror : Given members "mirror" .default (IsObject DescribesMirror) s.mirror

/-- A URL that the value gives for the runtime can be taken apart. -/
def UrlSplits (v : Value) : Prop :=
  ∀ (members runtime : Table Value) (url : String), v = .object members →
    members.get? "runtime" = some (.object runtime) → runtime.get? "url" = some (.text url) →
      ∃ scheme, Url.scheme url = .ok scheme

theorem given_of_none (h : members.get? name = none) :
    Given members name default Means a ↔ a = default := by
  constructor
  · intro hg
    cases hg with
    | absent _ => rfl
    | present hv _ => cases h.symm.trans hv
  · rintro rfl
    exact .absent h

theorem given_of_some {v : Value} (h : members.get? name = some v) :
    Given members name default Means a ↔ Means v a := by
  constructor
  · intro hg
    cases hg with
    | absent hn => cases h.symm.trans hn
    | present hv hm =>
      cases h.symm.trans hv
      exact hm
  · exact .present h

/-! What each reader accepts. -/

theorem flag_eq_ok_iff {owner : String} {default b : Bool} :
    flag members owner name default = .ok b ↔ Given members name default IsBool b := by
  unfold flag
  split
  · next h => rw [given_of_none h, Except.ok.injEq, eq_comm]
  · next h => simp [given_of_some h, IsBool]
  · next v hne h =>
    rw [given_of_some h, IsBool]
    constructor
    · nofun
    · rintro rfl
      exact absurd rfl (hne b)

/-- A default that has the property itself goes through like any other text. -/
theorem text?_eq_some_iff {default : String} (hd : P default) :
    (text? members name default = some s ∧ P s) ↔ Given members name default (IsText P) s := by
  unfold text?
  split
  · next h =>
    rw [given_of_none h, Option.some.injEq, eq_comm]
    exact and_iff_left_of_imp fun hs => hs ▸ hd
  · next h => simp [given_of_some h, IsText]
  · next v hne h =>
    rw [given_of_some h, IsText]
    constructor
    · nofun
    · rintro ⟨rfl, -⟩
      exact absurd rfl (hne s)

theorem choice_eq_ok_iff {owner default : String} {allowed : List String}
    (hd : default ∈ allowed) :
    choice members owner name allowed default = .ok s ↔
      Given members name default (IsText (· ∈ allowed)) s := by
  rw [← text?_eq_some_iff hd]
  unfold choice
  cases text? members name default with
  | none => simp
  | some found =>
    dsimp only
    split
    · next hin =>
      rw [Except.ok.injEq, Option.some.injEq]
      exact (and_iff_left_of_imp fun hs => hs ▸ hin).symm
    · next hout =>
      constructor
      · nofun
      · rintro ⟨hs, hin⟩
        cases hs
        exact absurd hin hout

theorem bind_section?_eq_ok_iff {read : Table Value → Except Fault α}
    {Describes : Table Value → α → Prop} (hdefault : read [] = .ok default)
    (hread : ∀ inner, members.get? name = some (.object inner) →
      (read inner = .ok a ↔ Describes inner a)) :
    (section? members name >>= read) = .ok a ↔
      Given members name default (IsObject Describes) a := by
  unfold section?
  split
  · next h =>
    rw [given_of_none h]
    change read [] = .ok a ↔ _
    rw [hdefault, Except.ok.injEq, eq_comm]
  · next inner h =>
    rw [given_of_some h]
    change read inner = .ok a ↔ _
    rw [hread inner h]
    constructor
    · intro hdescribes
      exact ⟨inner, rfl, hdescribes⟩
    · rintro ⟨inner', hinner, hdescribes⟩
      cases hinner
      exact hdescribes
  · next v hne h =>
    rw [given_of_some h]
    constructor
    · nofun
    · rintro ⟨inner, rfl, -⟩
      exact absurd rfl (hne inner)

theorem readPolicy_eq_ok_iff {p : Policy} :
    readPolicy members = .ok p ↔ DescribesPolicy members p := by
  have honline : "online" ∈ Policy.networkModes := by decide
  have halways : "always" ∈ Policy.mirrorModes := by decide
  unfold readPolicy
  simp only [bind_eq_ok_iff, flag_eq_ok_iff, choice_eq_ok_iff honline, choice_eq_ok_iff halways]
  constructor
  · rintro ⟨requireIntegrity, hflag, networkMode, hnetwork, mirrorMode, hmirror, hp⟩
    cases hp
    exact ⟨hflag, hnetwork, hmirror⟩
  · rintro ⟨hflag, hnetwork, hmirror⟩
    exact ⟨_, hflag, _, hnetwork, _, hmirror, rfl⟩

theorem readMirror_eq_ok_iff {m : PackageMirror} :
    readMirror members = .ok m ↔ DescribesMirror members m := by
  unfold readMirror
  simp only [bind_eq_ok_iff, flag_eq_ok_iff]
  constructor
  · rintro ⟨persistService, hflag, hm⟩
    cases hm
    exact ⟨hflag, rfl⟩
  · rintro ⟨hflag, hm⟩
    exact ⟨_, hflag, by rw [hm]; rfl⟩

theorem isSha256_iff : Distribution.isDigest s = true ↔ IsSha256 s := by
  simp only [Distribution.isDigest, Distribution.isLowerHex, IsSha256, Bool.and_eq_true,
    Bool.or_eq_true, decide_eq_true_eq, List.all_eq_true]

theorem isWord_of_mem_urlSchemes {word : String} (hw : word ∈ Distribution.urlSchemes) :
    Url.IsWord word := by
  simp only [Distribution.urlSchemes, List.mem_cons, List.not_mem_nil, or_false] at hw
  rcases hw with rfl | rfl | rfl
  all_goals exact ⟨by decide, by simp [Char.isLower]⟩

/-- Of a URL that can be taken apart the scheme is looked at, and nothing else. -/
theorem isUrl_iff (hok : ∃ scheme, Url.scheme s = .ok scheme) :
    (∃ scheme ∈ Distribution.urlSchemes, Url.scheme s = .ok scheme) ↔ IsUrl s := by
  constructor
  · rintro ⟨word, hw, hscheme⟩
    exact ⟨word, hw, (Url.scheme_eq_ok_iff (isWord_of_mem_urlSchemes hw) hok).mp hscheme⟩
  · rintro ⟨word, hw, hhas⟩
    exact ⟨word, hw, (Url.scheme_eq_ok_iff (isWord_of_mem_urlSchemes hw) hok).mpr hhas⟩

/-- The rest of a distribution is in order: it is that of the default. -/
theorem validate_julia_eq_ok_iff {url sha256 : String} {d : Distribution}
    (hok : ∃ scheme, Url.scheme url = .ok scheme) :
    Distribution.validate { Distribution.julia with url, sha256 } = .ok d ↔
      IsUrl url ∧ IsSha256 sha256 ∧ d = { Distribution.julia with url, sha256 } := by
  rw [Distribution.validate_eq_ok_iff, isUrl_iff hok, isSha256_iff]
  have hrest :
      (Distribution.julia.archiveName ≠ "" ∧ '/' ∉ Distribution.julia.archiveName.toList) ∧
      Path.isAbsolute Distribution.julia.installRoot ∧ Path.isAbsolute Distribution.julia.binDir := by
    decide
  constructor
  · rintro ⟨hurl, hsha, -, -, -, hd⟩
    exact ⟨hurl, hsha, hd⟩
  · rintro ⟨hurl, hsha, hd⟩
    exact ⟨hurl, hsha, hrest.1, hrest.2.1, hrest.2.2, hd⟩

theorem scheme_downloadUrl : Url.scheme Distribution.downloadUrl = .ok "https" := by
  rfl

/-- The default values are ones that could be given. -/
theorem isUrl_downloadUrl : IsUrl Distribution.downloadUrl :=
  (isUrl_iff ⟨_, scheme_downloadUrl⟩).mp ⟨"https", by decide, scheme_downloadUrl⟩

theorem isSha256_archiveDigest : IsSha256 Distribution.archiveDigest := isSha256_iff.mp (by decide)

theorem readDistribution_eq_ok_iff {d : Distribution}
    (hurl : ∀ url, members.get? "url" = some (.text url) → ∃ scheme, Url.scheme url = .ok scheme) :
    readDistribution members = .ok d ↔ DescribesRuntime members d := by
  have hsplit : ∀ {url}, text? members "url" Distribution.julia.url = some url →
      ∃ scheme, Url.scheme url = .ok scheme := by
    intro url htext
    unfold text? at htext
    split at htext
    · cases htext
      exact ⟨_, scheme_downloadUrl⟩
    · next h =>
      cases htext
      exact hurl _ h
    · cases htext
  constructor
  · intro hread
    unfold readDistribution at hread
    split at hread
    · next url sha256 htext hsha =>
      obtain ⟨hisUrl, hisSha, hd⟩ := (validate_julia_eq_ok_iff (hsplit htext)).mp hread
      rw [hd]
      exact ⟨(text?_eq_some_iff isUrl_downloadUrl).mp ⟨htext, hisUrl⟩,
        (text?_eq_some_iff isSha256_archiveDigest).mp ⟨hsha, hisSha⟩, rfl⟩
    · cases hread
  · rintro ⟨hgivenUrl, hgivenSha, hd⟩
    obtain ⟨htext, hisUrl⟩ := (text?_eq_some_iff isUrl_downloadUrl).mpr hgivenUrl
    obtain ⟨hsha, hisSha⟩ := (text?_eq_some_iff isSha256_archiveDigest).mpr hgivenSha
    have htext' : text? members "url" Distribution.julia.url = some d.url := htext
    have hsha' : text? members "sha256" Distribution.julia.sha256 = some d.sha256 := hsha
    rw [readDistribution, htext', hsha']
    exact (validate_julia_eq_ok_iff (hsplit htext')).mpr ⟨hisUrl, hisSha, hd⟩

/-- Groups of valid names are read as they are, and nothing else is read from lists. -/
theorem normalize_eq_ok_iff {depth : Nat} {lists : List Value} {groups : List PackageGroup}
    (hlists : ∀ v ∈ lists, ∃ items, v = .list items) :
    PackageGroups.normalize depth (.list lists) = .ok groups ↔ IsGroups (.list lists) groups := by
  have hvalid : ∀ group, PackageGroups.Valid group ↔
      group ≠ [] ∧ ∀ name ∈ group, PackageGroups.IsIdentifier name := by
    intro group
    simp only [PackageGroups.Valid, PackageGroups.isName_iff]
  constructor
  · intro hn
    have hsame := PackageGroups.toValue_of_normalize (fun v hv => Or.inr (hlists v hv)) hn
    refine ⟨hsame.symm, fun group hg => ?_⟩
    exact (hvalid group).mp (PackageGroups.valid_of_readFrom 0 lists groups hn group hg)
  · rintro ⟨hsame, hall⟩
    rw [hsame]
    exact PackageGroups.readFrom_of_valid 0 groups fun group hg =>
      (hvalid group).mpr (hall group hg)

theorem groupsValue_bind_eq_ok_iff {depth : Nat} {groups : List PackageGroup} :
    (groupsValue members >>= PackageGroups.normalize depth) = .ok groups ↔
      Given members "packages" [] IsGroups groups := by
  unfold groupsValue
  split
  · next h =>
    rw [given_of_none h, @eq_comm _ groups]
    change Except.ok [] = Except.ok groups ↔ _
    rw [Except.ok.injEq]
  · next lists h =>
    rw [given_of_some h]
    split
    · next hall =>
      refine normalize_eq_ok_iff fun v hv => ?_
      exact isList_iff.mp (List.all_eq_true.mp hall v hv)
    · next hall =>
      constructor
      · nofun
      · rintro ⟨hsame, -⟩
        refine absurd (List.all_eq_true.mpr fun v hv => ?_) hall
        rw [Value.list.inj hsame] at hv
        obtain ⟨group, -, rfl⟩ := List.mem_map.mp hv
        rfl
  · next v hne h =>
    rw [given_of_some h]
    constructor
    · nofun
    · rintro ⟨rfl, -⟩
      exact absurd rfl (hne _)

end RuntimeImage.Settings
