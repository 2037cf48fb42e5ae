import RuntimeImage.Proofs.ArtifactCache.Runs
import RuntimeImage.Proofs.Retrieval

/-!
Fetches of what cannot be retrieved. A failed download is reported with its URL; a request that cannot
be written down is not translated, and ends the fetch as it is.
-/

namespace RuntimeImage

/-- The fault is reported as a failed fetch of the URL. -/
def Fault.ReportsFetch (fault : Fault) (url : String) : Prop :=
  ∃ report, fault.report? = some report ∧ report.code = .fetch ∧ ("url", url) ∈ report.context

namespace ArtifactCache

variable {retrieve : Retriever} {url sha256 : String} {cacheDir : Path} {policy : Option Policy}
  {tree made : FileTree} {fault : Fault}

/-- A fetch gets as far as retrieving something, with the directories of its cache made. An artifact
that is there already keeps only a verified fetch from it. -/
structure GetsToRetrieve (sha256 : String) (cacheDir : Path) (policy : Option Policy)
    (tree made : FileTree) : Prop where
  online : ∀ p ∈ policy, p.networkMode ≠ "offline"
  usable : tree.ensureDirectories cacheDir = (.ok (), made)
  uncached : (∀ p ∈ policy, p.requireIntegrity = true) →
    sha256 ≠ "" ∧ made.pathExists (cacheDir.join sha256).render = .ok false

/-- In either mode a download that fails ends the fetch, and nothing but the cache's directories has
been made. -/
theorem fetch_of_download_error (hg : GetsToRetrieve sha256 cacheDir policy tree made)
    (hd : download retrieve made url = .error fault) :
    fetch retrieve url sha256 cacheDir policy tree = (.error fault, made) := by
  have hverified : (∀ p ∈ policy, p.requireIntegrity = true) →
      fetchVerified retrieve url sha256 cacheDir tree = (.error fault, made) := by
    intro hi
    obtain ⟨hne, hfree⟩ := hg.uncached hi
    simp only [fetchVerified, if_neg hne, hg.usable, hfree, hd]
  cases policy with
  | none => exact hverified (by simp)
  | some p =>
    have honline := hg.online p rfl
    simp only [fetch, Policy.checkNetwork, if_neg honline]
    by_cases hi : p.requireIntegrity = true
    · rw [if_pos hi]
      exact hverified (by simpa using hi)
    · rw [if_neg hi]
      simp only [fetchUnverified, hg.usable, hd]

theorem reportsFetch_download (url : String) (failure : Retrieval.Failure) :
    (Fault.download url failure).ReportsFetch url :=
  ⟨_, rfl, rfl, by simp⟩

theorem not_reportsFetch_unwritable (reason : Retrieval.Unwritable) :
    ¬(Fault.unwritable reason).ReportsFetch url := by
  rintro ⟨report, hreport, -, -⟩
  cases hreport

/-- When a fetch gets as far as retrieving a URL that gives no bytes, it fails. Its fault is reported
as a failed fetch of that URL exactly if the request could be written down; what kept it from being
written down is the fault otherwise. No other host answers here, and this host's own address is
`127.0.0.1`: a request that was written down fails as one to a host that cannot be reached. -/
theorem reports_iff_not_unwritten (hg : GetsToRetrieve sha256 cacheDir policy tree made)
    (hr : ∀ content, Retrieval.retrieve made url ≠ .ok content) :
    ((∃ fault, fetch Retrieval.retrieve url sha256 cacheDir policy tree = (.error fault, made) ∧
          fault.ReportsFetch url) ↔
        ¬∃ reason, Retrieval.Unwritten made url reason) ∧
      ∀ reason, Retrieval.Unwritten made url reason →
        fetch Retrieval.retrieve url sha256 cacheDir policy tree =
          (.error (.unwritable reason), made) := by
  have hunwritten : ∀ reason, Retrieval.Unwritten made url reason →
      fetch Retrieval.retrieve url sha256 cacheDir policy tree =
        (.error (.unwritable reason), made) := by
    intro reason hu
    apply fetch_of_download_error hg
    rw [download, Retrieval.retrieve_eq_unwritable_iff.mpr hu]
  refine ⟨⟨?_, ?_⟩, hunwritten⟩
  · rintro ⟨fault, hf, hreports⟩ ⟨reason, hu⟩
    cases hf.symm.trans (hunwritten reason hu)
    exact not_reportsFetch_unwritable reason hreports
  · intro hnone
    -- There are no bytes, so either the retrieval failed or its request was never written down.
    cases hresult : Retrieval.retrieve made url with
    | ok content => exact absurd hresult (hr content)
    | error problem =>
      cases problem with
      | failed failure =>
        have hd : download Retrieval.retrieve made url = .error (.download url failure) := by
          rw [download, hresult]
        exact ⟨_, fetch_of_download_error hg hd, reportsFetch_download url failure⟩
      | unwritable reason =>
        exact absurd ⟨reason, Retrieval.retrieve_eq_unwritable_iff.mp hresult⟩ hnone

/-- A tree with an empty cache directory. -/
def treeOfCache : FileTree := ⟨["", ""], [(["", "", "cache"], .directory)]⟩

theorem getsToRetrieve_empty (policy : Option Policy)
    (hn : ∀ p ∈ policy, p.networkMode ≠ "offline") :
    GetsToRetrieve digestOfAbc ⟨0, ["cache"]⟩ policy .empty treeOfCache :=
  ⟨hn, rfl, fun _ => ⟨by decide, rfl⟩⟩

set_option maxRecDepth 4000 in
/-- A URL without a scheme is reported, here under a check. A word for a number keeps a URL from
being reported, here without a check. -/
theorem reports_iff_not_unwritten_samples :
    (∃ fault, fetch Retrieval.retrieve "nowhere" digestOfAbc ⟨0, ["cache"]⟩ none .empty =
        (.error fault, treeOfCache) ∧ fault.ReportsFetch "nowhere") ∧
      fetch Retrieval.retrieve "http://h:port/" digestOfAbc ⟨0, ["cache"]⟩
          (some { requireIntegrity := false }) .empty =
        (.error (.unwritable (.hostNumber "port")), treeOfCache) := by
  constructor
  · have hr : Retrieval.retrieve treeOfCache "nowhere" = .error (.failed (.noScheme "nowhere")) := rfl
    have hg := getsToRetrieve_empty none (by simp)
    refine (reports_iff_not_unwritten hg (by simp [hr])).1.mpr ?_
    rintro ⟨reason, hu⟩
    cases hr.symm.trans (Retrieval.retrieve_eq_unwritable_iff.mpr hu)
  · have hr : Retrieval.retrieve treeOfCache "http://h:port/" =
        .error (.unwritable (.hostNumber "port")) := rfl
    have hg := getsToRetrieve_empty (some { requireIntegrity := false }) (by simp)
    refine (reports_iff_not_unwritten hg (by simp [hr])).2 _ ?_
    exact ⟨⟨"http://h:port/", "http", "h:port", "/"⟩, rfl,
      .web (Or.inl rfl) (by decide) (.hostNumber rfl (by decide) (by decide))⟩

set_option maxRecDepth 4000 in
/-- A blank in a host's name keeps a failed download from being reported. -/
theorem not_reports_badHost :
    ¬∀ (url sha256 : String) (cacheDir : Path) (policy : Option Policy) (tree made : FileTree),
        GetsToRetrieve sha256 cacheDir policy tree made →
        (∀ content, Retrieval.retrieve made url ≠ .ok content) →
        ∃ fault, (fetch Retrieval.retrieve url sha256 cacheDir policy tree).1 = .error fault ∧
          fault.ReportsFetch url := by
  intro hclaim
  have hr : Retrieval.retrieve treeOfCache "http://bad host/" =
      .error (.unwritable (.controlCharacter "bad host" ' ')) := rfl
  have hf : fetch Retrieval.retrieve "http://bad host/" digestOfAbc ⟨0, ["cache"]⟩ none .empty =
      (.error (.unwritable (.controlCharacter "bad host" ' ')), treeOfCache) := rfl
  have hg := getsToRetrieve_empty none (by simp)
  obtain ⟨fault, hfault, hreports⟩ := hclaim "http://bad host/" _ _ _ _ _ hg (by simp [hr])
  rw [hf] at hfault
  cases hfault
  exact not_reportsFetch_unwritable _ hreports

end ArtifactCache

end RuntimeImage
