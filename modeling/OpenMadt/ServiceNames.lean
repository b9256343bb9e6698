import OpenMadt.AvahiService
import OpenMadt.RuntimeConfig
import OpenMadt.Library.Separators
import Mathlib.Data.List.TakeWhile

/-!
# The name of the service

`buildDnsSdServiceName` makes the name under which the server is announced: a label and `_madt`.  The
announcer gets the whole name and puts a number behind it after each collision.

* `dnsSdLabel` — the text that the label is made of; `buildDnsSdServiceName_eq` — the name it gives.
* `Named` — what the announcer's name is, in every state of a run.
* `WellNamed` — a label without underscores, a name that has not collided, 63 bytes at most.
* `wellNamed_iff` — when an announced name is such a name.
-/

namespace OpenMadt

open CString (cstr)

/-! ### The name of the server -/

/-- `sanitizeDnsSdLabel`. -/
def sanitizeDnsSdLabel (value : String) : String := value.map fun ch => if ch = '_' then '-' else ch

/-- `Server::buildDnsSdServiceName`; `gethostname` is the name that the call stores, unless it fails. -/
def buildDnsSdServiceName (gethostname : Option String) (runtimeConfig : RuntimeConfig) : String :=
  if runtimeConfig.dnsSdUniqueId ≠ "" then sanitizeDnsSdLabel runtimeConfig.dnsSdUniqueId ++ "_madt"
  else
    match gethostname with
    | some hostname =>
      if cstr hostname ≠ [] then sanitizeDnsSdLabel (String.ofList (cstr hostname)) ++ "_madt"
      else "madt-host_madt"
    | none => "madt-host_madt"

/-- The configured identifier, or else the name of the host, or else a fixed text. -/
def dnsSdLabel (gethostname : Option String) (runtimeConfig : RuntimeConfig) : String :=
  if runtimeConfig.dnsSdUniqueId ≠ "" then runtimeConfig.dnsSdUniqueId
  else
    match gethostname with
    | some hostname => if cstr hostname ≠ [] then String.ofList (cstr hostname) else "madt-host"
    | none => "madt-host"

section Label

variable {gethostname : Option String} {runtimeConfig : RuntimeConfig}

theorem dnsSdLabel_ne_empty : dnsSdLabel gethostname runtimeConfig ≠ "" := by
  have hfixed : "madt-host" ≠ "" := by decide
  unfold dnsSdLabel
  split
  next hid => exact hid
  next =>
    split
    next hostname =>
      split
      next hne => exact fun heq => hne (String.ofList_eq_empty_iff.mp heq)
      next => exact hfixed
    next => exact hfixed

theorem buildDnsSdServiceName_eq : buildDnsSdServiceName gethostname runtimeConfig
    = sanitizeDnsSdLabel (dnsSdLabel gethostname runtimeConfig) ++ "_madt" := by
  have hfixed : sanitizeDnsSdLabel "madt-host" ++ "_madt" = "madt-host_madt" := by
    apply String.toList_injective
    rw [String.toList_append, sanitizeDnsSdLabel, String.toList_map]
    decide
  unfold buildDnsSdServiceName dnsSdLabel
  split
  next => rfl
  next =>
    split
    next hostname =>
      split
      next => rfl
      next => exact hfixed.symm
    next => exact hfixed.symm

end Label

/-- The characters of a sanitized label. -/
theorem toList_sanitize (value : String) :
    (sanitizeDnsSdLabel value).toList = value.toList.map fun ch => if ch = '_' then '-' else ch := by
  rw [sanitizeDnsSdLabel, String.toList_map]

theorem underscore_not_mem_sanitize (value : String) : '_' ∉ (sanitizeDnsSdLabel value).toList := by
  rw [toList_sanitize, List.mem_map]
  rintro ⟨ch, -, heq⟩
  split at heq
  · cases heq
  next hne => exact hne heq

theorem nul_mem_sanitize (value : String) :
    '\x00' ∈ (sanitizeDnsSdLabel value).toList ↔ '\x00' ∈ value.toList := by
  rw [toList_sanitize, List.mem_map]
  constructor
  · rintro ⟨ch, hmem, heq⟩
    split at heq
    · cases heq
    · rwa [← heq]
  · intro hmem
    exact ⟨'\x00', hmem, if_neg (by decide)⟩

/-- The number of bytes stays the same. -/
theorem utf8ByteSize_sanitize (value : String) :
    (sanitizeDnsSdLabel value).utf8ByteSize = value.utf8ByteSize := by
  have hlist : ∀ chars : List Char,
      (String.ofList (chars.map fun ch => if ch = '_' then '-' else ch)).utf8ByteSize
        = (String.ofList chars).utf8ByteSize := by
    intro chars
    induction chars with
    | nil => rfl
    | cons ch chars ih =>
      rw [List.map_cons, String.ofList_cons, String.ofList_cons, String.utf8ByteSize_append,
        String.utf8ByteSize_append, ih]
      split
      next heq => rw [heq]; rfl
      next => rfl
  have heq := hlist value.toList
  rwa [← toList_sanitize, String.ofList_toList, String.ofList_toList] at heq

namespace AvahiService

/-! ### The name of the announcer -/

theorem addService_members (returns : AvahiReturns) (entries : List ServiceEntry) (s : AvahiService) :
    (s.addService returns entries).m_baseName = s.m_baseName
      ∧ (s.addService returns entries).m_renameCount = s.m_renameCount := by
  unfold addService
  split
  · exact ⟨rfl, rfl⟩
  · split
    · exact ⟨rfl, rfl⟩
    · exact ⟨rfl, rfl⟩

/-- Filling the group changes no name. -/
theorem createOrUpdateService_members (returns : AvahiReturns) (s : AvahiService) :
    (s.createOrUpdateService returns).m_baseName = s.m_baseName
      ∧ (s.createOrUpdateService returns).m_renameCount = s.m_renameCount := by
  unfold createOrUpdateService
  split
  · exact addService_members returns _ s
  · split
    · exact addService_members returns [] _
    · exact ⟨rfl, rfl⟩

/-- The name is built on the one that was given, and every collision counts. -/
structure Named (name : String) (trace : List AvahiEntry) (s : AvahiService) : Prop where
  base : s.m_baseName = name
  count : s.m_renameCount = (collided trace).length

variable {name type : String} {port : UInt16} {trace : List AvahiEntry} {s s' : AvahiService}

/-- A step without a collision. -/
theorem Named.keep (h : Named name trace s) {event : AvahiEvent}
    (hcollided : collidedName (s, event, s') = none)
    (hmembers : s'.m_baseName = s.m_baseName ∧ s'.m_renameCount = s.m_renameCount) :
    Named name (trace ++ [(s, event, s')]) s' := by
  refine ⟨hmembers.1.trans h.base, ?_⟩
  rw [hmembers.2, h.count, collided_append, hcollided]
  simp

theorem Named.step (h : Named name trace s) {event : AvahiEvent} (hstep : AvahiStep s event s') :
    Named name (trace ++ [(s, event, s')]) s' := by
  cases hstep with
  | start hstopped => exact h.keep rfl ⟨rfl, rfl⟩
  | stop hrunning => exact h.keep rfl ⟨rfl, rfl⟩
  | setTxt txt returns =>
    refine h.keep rfl ?_
    unfold AvahiService.setTxt
    dsimp only
    split
    · exact ⟨rfl, rfl⟩
    · exact createOrUpdateService_members returns _
  | clientCallback state returns hrunning =>
    refine h.keep rfl ?_
    cases state with
    | running => exact createOrUpdateService_members returns s
    | registering => exact ⟨rfl, rfl⟩
    | collision => exact ⟨rfl, rfl⟩
    | failure => exact ⟨rfl, rfl⟩
    | connecting => exact ⟨rfl, rfl⟩
  | groupCallback state returns hgroup hhandle =>
    cases state with
    | collision =>
      obtain ⟨next, hnext, rfl⟩ := Option.map_eq_some_iff.mp hhandle
      by_cases hoverflow : s.m_renameCount < INT_MAX
      · rw [nextName, if_pos hoverflow] at hnext
        obtain rfl := Option.some.inj hnext
        obtain ⟨hbase, hcount⟩ := createOrUpdateService_members returns (resetGroup
          { s with
            m_renameCount := s.m_renameCount + 1
            m_currentName := s.m_baseName ++ "-" ++ (s.m_renameCount + 1).repr })
        refine ⟨hbase.trans h.base, hcount.trans ?_⟩
        show s.m_renameCount + 1 = _
        rw [h.count, collided_append, collidedName]
        simp
      · rw [nextName, if_neg hoverflow] at hnext
        cases hnext
    | uncommited => obtain rfl := Option.some.inj hhandle; exact h.keep rfl ⟨rfl, rfl⟩
    | registering => obtain rfl := Option.some.inj hhandle; exact h.keep rfl ⟨rfl, rfl⟩
    | established => obtain rfl := Option.some.inj hhandle; exact h.keep rfl ⟨rfl, rfl⟩
    | failure => obtain rfl := Option.some.inj hhandle; exact h.keep rfl ⟨rfl, rfl⟩

/-- **The run lemma.** -/
theorem named_of_run (hrun : Run.Steps (Run.Traced AvahiStep) (new name type port) trace s) :
    Named name trace s :=
  hrun.history (Named name) (fun _ h hentry => by
    obtain ⟨rfl, rfl, hstep⟩ := hentry
    exact h.step hstep) ⟨rfl, rfl⟩

/-- What is announced in a run: the name that was given, with the number of collisions behind it. -/
theorem announced_name (hrun : Run.Steps (Run.Traced AvahiStep) (new name type port) trace s)
    {entries : List ServiceEntry} {entry : ServiceEntry} (hgroup : s.m_group = some entries)
    (hentry : entry ∈ entries) : entry.name = cstr (nameAt name (collided trace).length) := by
  have hnamed := named_of_run hrun
  have hannouncing := announcing_of_run hrun
  rcases hannouncing.current entries hgroup with rfl | rfl
  · cases hentry
  · obtain rfl := List.mem_singleton.mp hentry
    show cstr s.m_currentName = _
    rw [hannouncing.name, hnamed.base, hnamed.count]

/-! ### Well-named services -/

/-- The name has the form `<label>_madt` with a label that is not empty and has no underscore, it is none of
the names that have collided, and it is at most 63 bytes long. -/
structure WellNamed (trace : List AvahiEntry) (name : List Char) : Prop where
  shape : ∃ label, label ≠ [] ∧ '_' ∉ label ∧ name = label ++ "_madt".toList
  fresh : ∀ old ∈ collided trace, name ≠ cstr old
  short : (String.ofList name).utf8ByteSize ≤ 63

/-- What is behind the name after `n` collisions. -/
def number (n : ℤ) : List Char := if n = 0 then [] else '-' :: n.repr.toList

theorem toList_nameAt (label : String) (n : ℤ) :
    (nameAt (sanitizeDnsSdLabel label ++ "_madt") n).toList
      = (sanitizeDnsSdLabel label).toList ++ '_' :: ("madt".toList ++ number n) := by
  unfold nameAt number
  split
  · rw [String.toList_append, List.append_nil]
    rfl
  · simp only [String.toList_append, List.append_assoc]
    rfl

/-- A label with a NUL is cut there, and the suffix is lost. -/
theorem underscore_not_mem_of_nul {label : String} (hnul : '\x00' ∈ label.toList) (n : ℤ) :
    '_' ∉ cstr (nameAt (sanitizeDnsSdLabel label ++ "_madt") n) := by
  have hmem : '\x00' ∈ (sanitizeDnsSdLabel label).toList := (nul_mem_sanitize label).mpr hnul
  rw [cstr, toList_nameAt, List.takeWhile_append, if_neg]
  · exact fun hunderscore => underscore_not_mem_sanitize label ((List.takeWhile_prefix _).subset hunderscore)
  · intro hlength
    have hall := List.takeWhile_eq_self_iff.mp ((List.takeWhile_prefix _).eq_of_length hlength) _ hmem
    exact absurd hall (by decide)

/-- Without a NUL the label and the suffix are there. -/
theorem cstr_nameAt {label : String} (hnul : '\x00' ∉ label.toList) (n : ℤ) :
    cstr (nameAt (sanitizeDnsSdLabel label ++ "_madt") n)
      = (sanitizeDnsSdLabel label).toList ++ '_' :: ("madt".toList ++ (number n).takeWhile (· != '\x00')) := by
  have hlabel : ∀ ch ∈ (sanitizeDnsSdLabel label).toList, (ch != '\x00') = true := by
    intro ch hmem
    rw [bne_iff_ne]
    rintro rfl
    exact hnul ((nul_mem_sanitize label).mp hmem)
  rw [cstr, toList_nameAt, List.takeWhile_append_of_pos hlabel]
  rfl

/-- A number behind the suffix is no part of the form. -/
theorem number_eq_nil_of_shape {front label rest : List Char} (hfront : '_' ∉ front) (hlabel : '_' ∉ label)
    (h : front ++ '_' :: ("madt".toList ++ rest) = label ++ "_madt".toList) : rest = [] := by
  have hsuffix : "madt".toList ++ rest = "madt".toList := (Separators.append_sep_inj hfront hlabel h).2
  exact List.append_right_eq_self.mp hsuffix

/-- **Only the first name has the form**, and only for a label without NUL. -/
theorem first_of_shape {label : String} {n : ℤ} {front : List Char} (hfront : '_' ∉ front)
    (hshape : cstr (nameAt (sanitizeDnsSdLabel label ++ "_madt") n) = front ++ "_madt".toList) :
    '\x00' ∉ label.toList ∧ n = 0 := by
  have hnul : '\x00' ∉ label.toList := by
    intro hnul
    have hnot := underscore_not_mem_of_nul hnul n
    rw [hshape] at hnot
    exact hnot (List.mem_append_right _ List.mem_cons_self)
  rw [cstr_nameAt hnul] at hshape
  have hnumber := number_eq_nil_of_shape (underscore_not_mem_sanitize label) hfront hshape
  refine ⟨hnul, ?_⟩
  by_contra hne
  rw [number, if_neg hne] at hnumber
  cases hnumber

/-- The length of the first name. -/
theorem utf8ByteSize_name (label : String) :
    (String.ofList ((sanitizeDnsSdLabel label).toList ++ '_' :: ("madt".toList ++ []))).utf8ByteSize
      = label.utf8ByteSize + 5 := by
  rw [String.ofList_append, String.ofList_toList, String.utf8ByteSize_append, utf8ByteSize_sanitize]
  rfl

/-- **When the announced name is well formed, fresh and short enough.**  For every configuration, every name of
the host, and every run of the announcer: as long as no collision has been reported, for a label without NUL of
58 bytes at most. -/
theorem wellNamed_iff {gethostname : Option String} {runtimeConfig : RuntimeConfig}
    (hrun : Run.Steps (Run.Traced AvahiStep)
      (new (buildDnsSdServiceName gethostname runtimeConfig) type port) trace s)
    {entries : List ServiceEntry} {entry : ServiceEntry} (hgroup : s.m_group = some entries)
    (hentry : entry ∈ entries) :
    WellNamed trace entry.name ↔
      '\x00' ∉ (dnsSdLabel gethostname runtimeConfig).toList
        ∧ (dnsSdLabel gethostname runtimeConfig).utf8ByteSize ≤ 58 ∧ collided trace = [] := by
  have hname := announced_name hrun hgroup hentry
  rw [buildDnsSdServiceName_eq] at hname
  have hlabel : dnsSdLabel gethostname runtimeConfig ≠ "" := dnsSdLabel_ne_empty
  generalize dnsSdLabel gethostname runtimeConfig = label at hname hlabel
  constructor
  · intro h
    obtain ⟨front, -, hunderscore, hshape⟩ := h.shape
    obtain ⟨hnul, hcount⟩ := first_of_shape hunderscore (hname.symm.trans hshape)
    have hshort := h.short
    rw [hname, cstr_nameAt hnul, hcount] at hshort
    have hbytes := (utf8ByteSize_name label).symm.trans_le hshort
    exact ⟨hnul, by omega, List.length_eq_zero_iff.mp (by omega)⟩
  · rintro ⟨hnul, hbytes, hcollided⟩
    rw [cstr_nameAt hnul, hcollided] at hname
    have hplain : entry.name = (sanitizeDnsSdLabel label).toList ++ '_' :: ("madt".toList ++ []) := hname
    refine ⟨⟨(sanitizeDnsSdLabel label).toList, ?_, underscore_not_mem_sanitize label, hplain⟩, ?_, ?_⟩
    · rw [toList_sanitize]
      intro hnil
      exact hlabel (String.toList_injective (List.map_eq_nil_iff.mp hnil))
    · rw [hcollided]
      exact fun old hmem => absurd hmem List.not_mem_nil
    · rw [hplain, utf8ByteSize_name]
      omega

/-- A configuration with an identifier. -/
def busConfig : RuntimeConfig := { dnsSdUniqueId := "bus_7" }

/-- The service is started and announced. -/
theorem wellNamed_bus : ∃ trace s entries entry,
    Run.Steps (Run.Traced AvahiStep) (new (buildDnsSdServiceName none busConfig) "_itxpt_socket._tcp" 5000) trace s
      ∧ s.m_group = some entries ∧ entry ∈ entries ∧ WellNamed trace entry.name := by
  have hrun : Run.Steps (Run.Traced AvahiStep)
      (new (buildDnsSdServiceName none busConfig) "_itxpt_socket._tcp" 5000)
      [(_, .start, _), (_, .clientCallback .running done, _)] _ :=
    .cons ⟨rfl, rfl, .start rfl⟩ <| .cons ⟨rfl, rfl, .clientCallback .running done rfl⟩ <| .nil _
  have hlabel : dnsSdLabel none busConfig = "bus_7" := rfl
  refine ⟨_, _, _, _, hrun, rfl, List.mem_singleton_self _, ?_⟩
  exact (wellNamed_iff hrun rfl (List.mem_singleton_self _)).mpr
    ⟨by rw [hlabel]; decide, by rw [hlabel]; decide, rfl⟩

/-- After a collision the service is announced under a name of another form. -/
theorem illNamed_bus : ¬ ∀ (trace : List AvahiEntry) (s : AvahiService) (entries : List ServiceEntry)
    (entry : ServiceEntry),
    Run.Steps (Run.Traced AvahiStep)
      (new (buildDnsSdServiceName none busConfig) "_itxpt_socket._tcp" 5000) trace s →
      s.m_group = some entries → entry ∈ entries → WellNamed trace entry.name := by
  intro hall
  have hrun : Run.Steps (Run.Traced AvahiStep)
      (new (buildDnsSdServiceName none busConfig) "_itxpt_socket._tcp" 5000)
      [(_, .start, _), (_, .clientCallback .running done, _), (_, .groupCallback .collision done, _)] _ :=
    .cons ⟨rfl, rfl, .start rfl⟩ <| .cons ⟨rfl, rfl, .clientCallback .running done rfl⟩ <|
      .cons ⟨rfl, rfl, .groupCallback .collision done rfl rfl⟩ <| .nil _
  obtain ⟨front, -, hfront, hshape⟩ := (hall _ _ _ _ hrun rfl (List.mem_singleton_self _)).shape
  rw [announced_name hrun rfl (List.mem_singleton_self _), buildDnsSdServiceName_eq] at hshape
  exact absurd (first_of_shape hfront hshape).2 (by decide)

end AvahiService

end OpenMadt
