import Mathlib.Data.List.TakeWhile
import RuntimeImage.Retrieval

/-!
Which requests cannot be written down. A request for a file or for another host is taken through its
checks one after the other, and most of them make it fail when they do not pass. A few do not: a
number after the host that is none, a control character, a number beyond a word, a null character in
a host's name. What has to be passed before one of these counts is said here for each scheme.
-/

namespace RuntimeImage.Retrieval

/-- Whether a number after a host can be handed on. -/
def FitsWord (n : Int) : Prop := -0x8000000000000000 ≤ n ∧ n < 0x8000000000000000

instance (n : Int) : Decidable (FitsWord n) := inferInstanceAs (Decidable (_ ∧ _))

namespace Request

/-- The name of a web host. -/
def webName (r : Request) : List Char := stripBrackets (cutNumber r.host.toList).1

/-- What follows the last colon of a web host's part. -/
def webNumber (r : Request) : Option (List Char) := (cutNumber r.host.toList).2

/-- What a web host is asked for. -/
def target (r : Request) : List Char := if r.selector = "" then ['/'] else r.selector.toList

/-- The name of a transfer host, without the user in front of it. -/
def transferName (r : Request) : List Char :=
  let name := (cutDigits r.host.toList).1
  (Percent.decode (String.ofList (name.reverse.takeWhile (· ≠ '@')).reverse)).toList

/-- What follows the last colon of a transfer host's part, if it is all digits. -/
def transferNumber (r : Request) : List Char := (cutDigits r.host.toList).2

/-- A file URL with a double slash in front of its path and a host that is not this one by name. -/
def AsksElsewhere (r : Request) : Prop :=
  isDoubled r.selector.toList ∧ r.host ≠ "" ∧ r.host ≠ "localhost"

/-- There is no number after the host, or one that can be read. -/
def NumberReads (r : Request) : Prop :=
  ∀ text, r.webNumber = some text → text ≠ [] → Integer.ofChars? text ≠ none

/-- All that goes out in a web request can be spelled there, and its host can be looked up. -/
structure Spelled (r : Request) : Prop where
  name : ∀ c ∈ r.webName, isControl c = false
  target : ∀ c ∈ r.target, isControl c = false
  ascii : ∀ c ∈ r.target, c.toNat < 128
  latin : ∀ c ∈ r.host.toList, c.toNat < 256
  oneLine : endsLine r.host.toList = false
  lookedUp : ∃ name, HostName.ascii r.webName = .ok name

end Request

/-- What keeps a web request from being written down. A number that is none comes before anything
else, a number beyond a word after all else. -/
inductive WebFlaw (r : Request) : Unwritable → Prop
  | hostNumber {text : List Char} (hn : r.webNumber = some text) (ht : text ≠ [])
      (hi : Integer.ofChars? text = none) : WebFlaw r (.hostNumber (String.ofList text))
  | name {c : Char} (hn : r.NumberReads) (hc : r.webName.find? isControl = some c) :
      WebFlaw r (.controlCharacter (String.ofList r.webName) c)
  | target {c : Char} (hn : r.NumberReads) (hname : ∀ c ∈ r.webName, isControl c = false)
      (hc : r.target.find? isControl = some c) :
      WebFlaw r (.controlCharacter (String.ofList r.target) c)
  | numberRange {text : List Char} {n : Int} (hn : r.webNumber = some text)
      (hi : Integer.ofChars? text = some n) (hw : ¬FitsWord n) (hs : r.Spelled) :
      WebFlaw r .numberRange

/-- What keeps a transfer request from being written down. Its number counts only when the address of
the host is known. -/
inductive TransferFlaw (r : Request) : Unwritable → Prop
  | nullInHost {name : List Char} (hm : r.transferNumber.length ≤ Integer.maxDigits)
      (ha : HostName.ascii r.transferName = .ok name) (h0 : '\x00' ∈ name) :
      TransferFlaw r .nullInHost
  | numberRange {name : List Char} {address : Nat} {n : Int}
      (hm : r.transferNumber.length ≤ Integer.maxDigits)
      (ha : HostName.ascii r.transferName = .ok name) (h0 : '\x00' ∉ name)
      (hk : knownAddress? name = some address) (hi : Integer.ofChars? r.transferNumber = some n)
      (hw : ¬FitsWord n) : TransferFlaw r .numberRange

/-- What keeps a request for a file from being written down: the file is there, but the name of its
host has a null character and would have to be looked up. -/
inductive FileFlaw (tree : FileTree) (r : Request) : Unwritable → Prop
  | nullInHost {node : Node} {host name : List Char} (he : ¬r.AsksElsewhere)
      (hs : tree.stat (Percent.decode r.selector) = .ok node)
      (hc : cutDigits r.host.toList = (host, [])) (hh : host ≠ [])
      (ha : HostName.ascii host = .ok name) (h0 : '\x00' ∈ name) : FileFlaw tree r .nullInHost

/-- What keeps a request from being written down, by its scheme. -/
inductive Flaw (tree : FileTree) (r : Request) (reason : Unwritable) : Prop
  | web (hs : r.scheme = "http" ∨ r.scheme = "https") (hh : r.host ≠ "") (hf : WebFlaw r reason)
  | transfer (hs : r.scheme = "ftp") (hh : r.host ≠ "") (hf : TransferFlaw r reason)
  | file (hs : r.scheme = "file") (hf : FileFlaw tree r reason)

/-- A URL that asks for something, but with a request that cannot be written down. -/
def Unwritten (tree : FileTree) (url : String) (reason : Unwritable) : Prop :=
  ∃ r, Request.ofUrl url = .ok r ∧ Flaw tree r reason

variable {α β : Type} {r : Request} {tree : FileTree} {url : String} {reason : Unwritable}
  {cs name : List Char}

/-- A check stops a request with a flaw, or passes and leaves it to the next. -/
theorem bind_eq_error_iff {x : Except Fault α} {f : α → Except Fault β} {fault : Fault} :
    (x >>= f) = .error fault ↔ x = .error fault ∨ ∃ a, x = .ok a ∧ f a = .error fault := by
  cases x <;> simp [bind, Except.bind]

@[simp]
theorem refuse_ne_unwritable (refusal : Refusal) : refuse refusal ≠ .error (.unwritable reason) := by
  simp [refuse]

/-! What each check lets pass, and which flaw it finds. -/

theorem hostNumber?_eq_unwritable_iff {number : Option (List Char)} :
    hostNumber? number = .error (.unwritable reason) ↔
      ∃ text, number = some text ∧ text ≠ [] ∧ Integer.ofChars? text = none ∧
        reason = .hostNumber (String.ofList text) := by
  unfold hostNumber?
  split
  · simp
  · simp
  · next text hne =>
    have ht : text ≠ [] := hne
    split
    · next n hi => simp [hi]
    · next hi => simp [hi, ht, eq_comm]

theorem hostNumber?_eq_ok_iff {number : Option (List Char)} {n : Option Int} :
    hostNumber? number = .ok n ↔
      (∀ text, number = some text → text ≠ [] → Integer.ofChars? text ≠ none) ∧
        n = number.bind Integer.ofChars? := by
  unfold hostNumber?
  split
  · simp [eq_comm]
  · have hnone : Integer.ofChars? [] = none := by decide
    simp [hnone, eq_comm]
  · next text hne =>
    have ht : text ≠ [] := hne
    split
    · next m hi => simp [hi, eq_comm]
    · next hi => simp [hi, ht]

theorem checkControls_eq_unwritable_iff :
    checkControls cs = .error (.unwritable reason) ↔
      ∃ c, cs.find? isControl = some c ∧ reason = .controlCharacter (String.ofList cs) c := by
  unfold checkControls
  split
  · next c hc => simp [hc, eq_comm]
  · next hc => simp [hc]

theorem checkControls_eq_ok_iff {u : Unit} :
    checkControls cs = .ok u ↔ ∀ c ∈ cs, isControl c = false := by
  unfold checkControls
  split
  · next c hc =>
    have hcontrol := List.find?_some hc
    have hmem := List.mem_of_find?_eq_some hc
    simp only [reduceCtorEq, false_iff]
    intro hall
    simp [hall c hmem] at hcontrol
  · next hc => simpa [List.find?_eq_none] using hc

@[simp]
theorem checkCharset_ne_unwritable (charset : String) (limit : Nat) :
    checkCharset charset limit cs ≠ .error (.unwritable reason) := by
  unfold checkCharset
  dsimp only
  split <;> simp

theorem checkCharset_eq_ok_iff {charset : String} {limit : Nat} {u : Unit} :
    checkCharset charset limit cs = .ok u ↔ ∀ c ∈ cs, c.toNat < limit := by
  have hall : cs.takeWhile (fun c => c.toNat < limit) = cs ↔ ∀ c ∈ cs, c.toNat < limit := by
    simp [List.takeWhile_eq_self_iff]
  have hrest : cs.drop (cs.takeWhile (fun c => c.toNat < limit)).length = [] ↔
      cs.takeWhile (fun c => c.toNat < limit) = cs := by
    rw [List.drop_eq_nil_iff]
    constructor
    · exact (List.takeWhile_prefix _).eq_of_length_le
    · intro h
      exact h.symm ▸ le_refl _
  rw [← hall, ← hrest, checkCharset]
  dsimp only
  split <;> next h => simp [h]

@[simp]
theorem checkHeader_ne_unwritable : checkHeader cs ≠ .error (.unwritable reason) := by
  unfold checkHeader
  split <;> simp

theorem checkHeader_eq_ok_iff {u : Unit} : checkHeader cs = .ok u ↔ endsLine cs = false := by
  unfold checkHeader
  split
  · next h => simp [h]
  · next h => simpa using h

@[simp]
theorem asciiName_ne_unwritable : asciiName cs ≠ .error (.unwritable reason) := by
  unfold asciiName
  split <;> simp

theorem asciiName_eq_ok_iff : asciiName cs = .ok name ↔ HostName.ascii cs = .ok name := by
  unfold asciiName
  split
  · next h => simp [h]
  · next h => simp [h]

theorem checkRange_eq_unwritable_iff {number : Option Int} :
    checkRange number = .error (.unwritable reason) ↔
      ∃ n, number = some n ∧ ¬FitsWord n ∧ reason = .numberRange := by
  unfold checkRange
  split
  · next n =>
    change (if FitsWord n then _ else _) = _ ↔ _
    split
    · next h => simp [h]
    · next h => simp [h, eq_comm]
  · simp

theorem lookUp_eq_unwritable_iff :
    lookUp cs = .error (.unwritable reason) ↔
      ∃ name, HostName.ascii cs = .ok name ∧ '\x00' ∈ name ∧ reason = .nullInHost := by
  unfold lookUp asciiName
  cases HostName.ascii cs with
  | error problem => simp
  | ok name => by_cases h0 : '\x00' ∈ name <;> simp [h0, eq_comm]

theorem lookUp_eq_ok_iff {address : Option Nat} :
    lookUp cs = .ok address ↔
      ∃ name, HostName.ascii cs = .ok name ∧ '\x00' ∉ name ∧ knownAddress? name = address := by
  unfold lookUp asciiName
  cases HostName.ascii cs with
  | error problem => simp
  | ok name => by_cases h0 : '\x00' ∈ name <;> simp [h0]

@[simp]
theorem ofFile_ne_unwritable (result : Except FileTree.Fault Bytes) :
    ofFile result ≠ .error (.unwritable reason) := by
  unfold ofFile
  split <;> simp

@[simp]
theorem data_ne_unwritable : data r ≠ .error (.unwritable reason) := by
  unfold data
  dsimp only
  split
  · simp
  · split
    · split <;> simp
    · simp

/-- The host of a file URL is looked up only if it has a name and no number. -/
theorem isLocalHost_eq_unwritable_iff {host : String} :
    isLocalHost host = .error (.unwritable reason) ↔
      ∃ cs name, cutDigits host.toList = (cs, []) ∧ cs ≠ [] ∧ HostName.ascii cs = .ok name ∧
        '\x00' ∈ name ∧ reason = .nullInHost := by
  unfold isLocalHost
  rcases hcut : cutDigits host.toList with ⟨cs, number⟩
  dsimp only
  by_cases hcs : cs = []
  · simp [hcs]
  · by_cases hnumber : number = []
    · rw [if_neg hcs, if_neg (not_not_intro hnumber)]
      have hlook : (∃ name, HostName.ascii cs = .ok name ∧ '\x00' ∈ name ∧ reason = .nullInHost) ↔
          lookUp cs = .error (.unwritable reason) := lookUp_eq_unwritable_iff.symm
      simp only [Prod.mk.injEq, hnumber, and_true, exists_and_left, exists_eq_left', hlook]
      split
      · next h => simp [h]
      · next h => simp [h, hcs]
    · simp [hcs, hnumber]

/-! The requests of each scheme. -/

theorem web_eq (hh : r.host ≠ "") :
    web r = (do
      let number ← hostNumber? r.webNumber
      checkControls r.webName
      checkControls r.target
      checkCharset "ascii" 128 ("GET ".toList ++ r.target)
      checkCharset "latin-1" 256 r.host.toList
      checkHeader r.host.toList
      let _ ← asciiName r.webName
      checkRange number
      refuse .unreachable) := by
  rw [web, if_neg hh]
  rfl

theorem web_eq_unwritable_iff (hh : r.host ≠ "") :
    web r = .error (.unwritable reason) ↔ WebFlaw r reason := by
  have hget : ∀ c ∈ "GET ".toList, c.toNat < 128 := by simp
  rw [web_eq hh]
  -- The row of checks becomes a row of alternatives: stopped here, or passed and stopped later.
  simp only [bind_eq_error_iff, hostNumber?_eq_unwritable_iff, hostNumber?_eq_ok_iff,
    checkControls_eq_unwritable_iff, checkControls_eq_ok_iff, checkCharset_ne_unwritable,
    checkCharset_eq_ok_iff, checkHeader_ne_unwritable, checkHeader_eq_ok_iff,
    asciiName_ne_unwritable, asciiName_eq_ok_iff, checkRange_eq_unwritable_iff,
    refuse_ne_unwritable, false_or, or_false, and_false, exists_false]
  constructor
  · rintro (⟨text, hn, ht, hi, rfl⟩ | ⟨number, ⟨hreads, rfl⟩, hrest⟩)
    · exact .hostNumber hn ht hi
    · rcases hrest with ⟨c, hc, rfl⟩ | ⟨-, hname, ⟨c, hc, rfl⟩ | ⟨-, htarget, hrest⟩⟩
      · exact .name hreads hc
      · exact .target hreads hname hc
      · obtain ⟨-, hascii, -, hlatin, -, hline, name, ha, n, hn, hw, rfl⟩ := hrest
        obtain ⟨text, hn, hi⟩ := Option.bind_eq_some_iff.mp hn
        have htarget' : ∀ c ∈ r.target, c.toNat < 128 :=
          fun c hc => hascii c (List.mem_append_right _ hc)
        exact .numberRange hn hi hw ⟨hname, htarget, htarget', hlatin, hline, name, ha⟩
  · intro hf
    cases hf with
    | hostNumber hn ht hi => exact Or.inl ⟨_, hn, ht, hi, rfl⟩
    | name hn hc => exact Or.inr ⟨_, ⟨hn, rfl⟩, Or.inl ⟨_, hc, rfl⟩⟩
    | target hn hname hc => exact Or.inr ⟨_, ⟨hn, rfl⟩, Or.inr ⟨(), hname, Or.inl ⟨_, hc, rfl⟩⟩⟩
    | @numberRange text n hn hi hw hs =>
      -- The number is read first but measured last, so all other checks have to pass in between.
      have hreads : r.NumberReads := by
        intro other ho _ hnone
        cases hn.symm.trans ho
        cases hi.symm.trans hnone
      have hnumber : r.webNumber.bind Integer.ofChars? = some n :=
        Option.bind_eq_some_iff.mpr ⟨text, hn, hi⟩
      have hascii : ∀ c ∈ "GET ".toList ++ r.target, c.toNat < 128 :=
        List.forall_mem_append.mpr ⟨hget, hs.ascii⟩
      obtain ⟨name, ha⟩ := hs.lookedUp
      exact Or.inr ⟨_, ⟨hreads, rfl⟩, Or.inr ⟨(), hs.name, Or.inr ⟨(), hs.target, (), hascii, (),
        hs.latin, (), hs.oneLine, name, ha, n, hnumber, hw, rfl⟩⟩⟩

theorem transfer_eq (hh : r.host ≠ "") (hm : r.transferNumber.length ≤ Integer.maxDigits) :
    transfer r = (do
      match ← lookUp r.transferName with
      | none => refuse .unreachable
      | some _ =>
        checkRange (Integer.ofChars? r.transferNumber)
        refuse .unreachable) := by
  rw [transfer, if_neg hh]
  exact if_neg (Nat.not_lt.mpr hm)

theorem transfer_eq_unwritable_iff (hh : r.host ≠ "") :
    transfer r = .error (.unwritable reason) ↔ TransferFlaw r reason := by
  by_cases hm : r.transferNumber.length ≤ Integer.maxDigits
  · rw [transfer_eq hh hm, bind_eq_error_iff, lookUp_eq_unwritable_iff]
    simp only [lookUp_eq_ok_iff]
    constructor
    · rintro (⟨name, ha, h0, rfl⟩ | ⟨known, ⟨name, ha, h0, hk⟩, hrest⟩)
      · exact .nullInHost hm ha h0
      · cases known with
        | none => simp at hrest
        | some address =>
          simp only [bind_eq_error_iff, checkRange_eq_unwritable_iff, refuse_ne_unwritable,
            and_false, exists_false, or_false] at hrest
          obtain ⟨n, hi, hw, rfl⟩ := hrest
          exact .numberRange hm ha h0 hk hi hw
    · intro hf
      cases hf with
      | nullInHost _ ha h0 => exact Or.inl ⟨_, ha, h0, rfl⟩
      | numberRange _ ha h0 hk hi hw =>
        refine Or.inr ⟨_, ⟨_, ha, h0, hk⟩, ?_⟩
        exact bind_eq_error_iff.mpr (Or.inl (checkRange_eq_unwritable_iff.mpr ⟨_, hi, hw, rfl⟩))
  · have hlong : transfer r = .error (.failed (.longNumber r.transferNumber.length)) := by
      rw [transfer, if_neg hh]
      exact if_pos (Nat.not_le.mp hm)
    rw [hlong]
    refine iff_of_false (by simp) ?_
    intro hf
    cases hf with
    | nullInHost hm' _ _ => exact hm hm'
    | numberRange hm' _ _ _ _ _ => exact hm hm'

/-- Only a file that is there has its host looked at. -/
theorem file_eq_unwritable_iff :
    file tree r = .error (.unwritable reason) ↔ FileFlaw tree r reason := by
  unfold file
  dsimp only
  split
  · next he =>
    refine iff_of_false ?_ ?_
    · split <;> simp
    · rintro ⟨he', -, -, -, -, -⟩
      exact he' he
  · next he =>
    constructor
    · intro hf
      split at hf
      · simp at hf
      · next node hs =>
        split at hf
        · simp at hf
        · simp at hf
        · next fault hlocal =>
          rw [Except.error.inj hf] at hlocal
          obtain ⟨cs, name, hc, hcs, ha, h0, rfl⟩ := isLocalHost_eq_unwritable_iff.mp hlocal
          exact .nullInHost he hs hc hcs ha h0
    · rintro ⟨-, hs, hc, hcs, ha, h0⟩
      have hlocal := isLocalHost_eq_unwritable_iff.mpr ⟨_, _, hc, hcs, ha, h0, rfl⟩
      simp only [hs, hlocal]

theorem web_without_host (hh : r.host = "") : web r = refuse .noHost := by rw [web, if_pos hh]

theorem transfer_without_host (hh : r.host = "") : transfer r = refuse .noTransferHost := by
  rw [transfer, if_pos hh]

/-- A request of another scheme may fail, but it can be written down. -/
theorem retrieve_of_flaw {r : Request} (hr : Request.ofUrl url = .ok r) (hf : Flaw tree r reason) :
    retrieve tree url = .error (.unwritable reason) := by
  cases hf with
  | web hs hh hf =>
    have hweb := (web_eq_unwritable_iff hh).mpr hf
    rcases hs with hs | hs <;> simp only [retrieve, hr, hs, hweb]
  | transfer hs hh hf =>
    have htransfer := (transfer_eq_unwritable_iff hh).mpr hf
    simp only [retrieve, hr, hs, htransfer]
  | file hs hf =>
    have hfile := file_eq_unwritable_iff.mpr hf
    simp only [retrieve, hr, hs, hfile]

/-- A URL's request cannot be written down exactly if it has one of the flaws. -/
theorem retrieve_eq_unwritable_iff :
    retrieve tree url = .error (.unwritable reason) ↔ Unwritten tree url reason := by
  constructor
  · intro h
    unfold retrieve at h
    split at h
    · simp at h
    · next r hr =>
      have hweb : ∀ hs : r.scheme = "http" ∨ r.scheme = "https",
          web r = .error (.unwritable reason) → Flaw tree r reason := by
        intro hs h
        by_cases hh : r.host = ""
        · simp [web_without_host hh] at h
        · exact .web hs hh ((web_eq_unwritable_iff hh).mp h)
      refine ⟨r, hr, ?_⟩
      split at h
      · next hs => exact hweb (Or.inl hs) h
      · next hs => exact hweb (Or.inr hs) h
      · next hs =>
        by_cases hh : r.host = ""
        · simp [transfer_without_host hh] at h
        · exact .transfer hs hh ((transfer_eq_unwritable_iff hh).mp h)
      · next hs => exact .file hs (file_eq_unwritable_iff.mp h)
      · simp at h
      · simp at h
  · rintro ⟨r, hr, hf⟩
    exact retrieve_of_flaw hr hf

end RuntimeImage.Retrieval
