import OpenMadt.Slots

/-!
# The shortcuts

Every shortcut takes one of `max 1 shortcutMaxCount` positions when it is created, and gives it back
when it is killed; in between nothing moves it.

* `ShortcutsPlaced` — the positions are in range, and nobody shares one; it is kept by every signal.
* `onNewShortcut_ok_iff` — when there is a place for a new shortcut.  A requested position must be
  free itself; otherwise any free one will do, and there is one as long as the positions outnumber
  the shortcuts.
* `ShortcutsListed` — what `GetShortcuts` shows.
* `shortcuts_of_run` — all of it, for every run of the browser.
-/

namespace OpenMadt.Gui

open Assignment

namespace Browser

/-- The positions of the live shortcuts. -/
def shortcutPositions (b : Browser) (id : String) : Option ℤ :=
  b.shortcuts[id]?.map ShortcutEntry.shortcutPos

theorem shortcutPositions_eq_some_iff {b : Browser} {id : String} {pos : ℤ} :
    b.shortcutPositions id = some pos ↔ ∃ s, b.shortcuts[id]? = some s ∧ s.shortcutPos = pos :=
  Option.map_eq_some_iff

theorem mem_shortcuts_iff {b : Browser} {id : String} :
    id ∈ b.shortcuts ↔ ∃ s, b.shortcuts[id]? = some s := by
  rw [← Std.ExtTreeMap.isSome_getElem?_iff_mem, Option.isSome_iff_exists]

theorem one_le_maxShortcutCount (b : Browser) : 1 ≤ b.maxShortcutCount := le_max_left _ _

/-- Every shortcut is at a position of its own. -/
structure ShortcutsPlaced (b : Browser) : Prop where
  named : ∀ {id : String} {s : ShortcutEntry}, b.shortcuts[id]? = some s → s.shortcutId = id
  inRange : ∀ {id : String} {pos : ℤ}, b.shortcutPositions id = some pos →
    0 ≤ pos ∧ pos < b.maxShortcutCount
  distinct : Distinct b.shortcutPositions

/-! ### Free positions -/

/-- The positions that are there. -/
theorem length_positions (b : Browser) :
    ((intRange 0 (b.maxShortcutCount - 1)).length : ℤ) = b.maxShortcutCount := by
  have hmax := b.one_le_maxShortcutCount
  simp only [intRange, List.length_map, List.length_range]
  omega

theorem mem_freeShortcutPositions {b : Browser} {pos : ℤ} :
    pos ∈ b.freeShortcutPositions
      ↔ (0 ≤ pos ∧ pos < b.maxShortcutCount) ∧ Free b.shortcutPositions pos := by
  rw [freeShortcutPositions, List.mem_filter, mem_intRange]
  have hrange : 0 ≤ pos ∧ pos ≤ b.maxShortcutCount - 1 ↔ 0 ≤ pos ∧ pos < b.maxShortcutCount := by omega
  rw [hrange]
  refine and_congr_right fun hpos => ?_
  simp only [Bool.not_eq_true', List.any_eq_false, decide_eq_true_eq, Prod.forall,
    Std.ExtTreeMap.mem_toList_iff_getElem?_eq_some, Free, ne_eq, shortcutPositions_eq_some_iff,
    not_exists, not_and]
  refine forall_congr' fun id => forall_congr' fun s => forall_congr' fun _ => ?_
  constructor
  · rintro hno rfl
    exact hno hpos.1 hpos.2 rfl
  · exact fun hne _ _ heq => hne heq

theorem freeShortcutPositions_congr {b b' : Browser} (hmax : b'.maxShortcutCount = b.maxShortcutCount)
    (hfree : ∀ pos, 0 ≤ pos → (Free b'.shortcutPositions pos ↔ Free b.shortcutPositions pos)) :
    b'.freeShortcutPositions = b.freeShortcutPositions := by
  have hnew := @mem_freeShortcutPositions b'
  have hold := @mem_freeShortcutPositions b
  unfold freeShortcutPositions at hnew hold ⊢
  rw [hmax] at hnew ⊢
  refine List.filter_congr fun pos hpos => Bool.eq_iff_iff.mpr ?_
  have hsame := @hnew pos
  rw [hfree pos (mem_intRange.mp hpos).1, ← hold, List.mem_filter, List.mem_filter] at hsame
  simpa only [hpos, true_and] using hsame

/-- Every shortcut holds one of the positions. -/
theorem ShortcutsPlaced.held {b : Browser} (h : ShortcutsPlaced b) :
    ∀ id ∈ b.shortcuts.keys, ∃ pos ∈ intRange 0 (b.maxShortcutCount - 1),
      b.shortcutPositions id = some pos := by
  intro id hid
  obtain ⟨s, hs⟩ := mem_shortcuts_iff.mp (Std.ExtTreeMap.mem_keys.mp hid)
  have hpos : b.shortcutPositions id = some s.shortcutPos := shortcutPositions_eq_some_iff.mpr ⟨s, hs, rfl⟩
  have hrange := h.inRange hpos
  exact ⟨s.shortcutPos, mem_intRange.mpr (by omega), hpos⟩

/-- As long as there are fewer shortcuts than positions, one is free. -/
theorem freeShortcutPositions_ne_nil {b : Browser}
    (hsize : (b.shortcuts.size : ℤ) < b.maxShortcutCount) : b.freeShortcutPositions ≠ [] := by
  have hlen := b.length_positions
  have hkeys : b.shortcuts.keys.length = b.shortcuts.size := Std.ExtTreeMap.length_keys
  have hfewer : b.shortcuts.keys.length < (intRange 0 (b.maxShortcutCount - 1)).length := by omega
  obtain ⟨pos, hpos, hfree⟩ := exists_free (f := b.shortcutPositions) (nodup_intRange _ _) hfewer
  have hrange := mem_intRange.mp hpos
  refine List.ne_nil_of_mem (a := pos) (mem_freeShortcutPositions.mpr ⟨by omega, fun id hid => ?_⟩)
  obtain ⟨s, hs, -⟩ := shortcutPositions_eq_some_iff.mp hid
  exact hfree id (Std.ExtTreeMap.mem_keys.mpr (mem_shortcuts_iff.mpr ⟨s, hs⟩)) hid

/-- A free position is one that the shortcuts do not need. -/
theorem ShortcutsPlaced.size_lt_of_free {b : Browser} (h : ShortcutsPlaced b) {pos : ℤ}
    (hrange : 0 ≤ pos ∧ pos < b.maxShortcutCount) (hfree : Free b.shortcutPositions pos) :
    (b.shortcuts.size : ℤ) < b.maxShortcutCount := by
  have hlen := b.length_positions
  have hkeys : b.shortcuts.keys.length = b.shortcuts.size := Std.ExtTreeMap.length_keys
  have hlt := h.distinct.length_lt_of_free Std.ExtTreeMap.nodup_keys h.held
    (mem_intRange.mpr (show 0 ≤ pos ∧ pos ≤ b.maxShortcutCount - 1 by omega)) fun id _ => hfree id
  omega

/-! ### A new shortcut -/

/-- The entry that `onNewShortcut` makes. -/
def newShortcut (url iconUrl : String) (preferredPos flags : ℤ) (shortcutId : String) :
    ShortcutEntry :=
  { shortcutId := shortcutId, iconUrl := iconUrl, url := url, preferredPos := preferredPos
    shortcutPos := -1, flags := flags }

section NewShortcut

variable {b : Browser} {shortcutId : String}

theorem shortcutPositions_insert (b : Browser) (shortcutId : String) (s : ShortcutEntry) :
    ({ b with shortcuts := b.shortcuts.insert shortcutId s } : Browser).shortcutPositions
      = Function.update b.shortcutPositions shortcutId (some s.shortcutPos) := by
  funext id
  simp only [shortcutPositions, StdMap.getElem?_insert, Function.update_apply]
  by_cases h : shortcutId = id
  · simp [h]
  · simp [h, Ne.symm h]

/-- The new entry itself, at -1, takes no position away. -/
theorem free_insert_iff (hfresh : shortcutId ∉ b.shortcuts) {s : ShortcutEntry}
    (hs : s.shortcutPos = -1) {pos : ℤ} (hpos : 0 ≤ pos) :
    Free ({ b with shortcuts := b.shortcuts.insert shortcutId s } : Browser).shortcutPositions pos
      ↔ Free b.shortcutPositions pos := by
  rw [shortcutPositions_insert, hs]
  have hnone : b.shortcutPositions shortcutId = none := by
    rw [shortcutPositions, Std.ExtTreeMap.getElem?_eq_none hfresh, Option.map_none]
  constructor
  · intro h id hid
    have hne : id ≠ shortcutId := by
      rintro rfl
      cases hnone.symm.trans hid
    exact h id (by rw [Function.update_of_ne hne]; exact hid)
  · intro h id hid
    by_cases hne : id = shortcutId
    · rw [hne, Function.update_self, Option.some.injEq] at hid
      omega
    · exact h id (by rwa [Function.update_of_ne hne] at hid)

theorem freeShortcutPositions_insert (hfresh : shortcutId ∉ b.shortcuts) {s : ShortcutEntry}
    (hs : s.shortcutPos = -1) :
    ({ b with shortcuts := b.shortcuts.insert shortcutId s } : Browser).freeShortcutPositions
      = b.freeShortcutPositions :=
  freeShortcutPositions_congr rfl fun _ hpos => free_insert_iff hfresh hs hpos

/-- There is a place for a shortcut with this preference. -/
def HasPlace (b : Browser) (preferredPos : ℤ) : Prop :=
  if 0 ≤ preferredPos ∧ preferredPos < b.maxShortcutCount then Free b.shortcutPositions preferredPos
  else (b.shortcuts.size : ℤ) < b.maxShortcutCount

/-- The free position that comes first. -/
theorem gets_front {front : ℤ} {rest : List ℤ} (hfront : b.freeShortcutPositions = front :: rest)
    {preferredPos : ℤ} (hrange : ¬ (0 ≤ preferredPos ∧ preferredPos < b.maxShortcutCount)) :
    Gets b.shortcutPositions b.maxShortcutCount preferredPos front := by
  have hmem := mem_freeShortcutPositions.mp (hfront ▸ List.mem_cons_self)
  refine ⟨hmem.1, hmem.2, fun hasked => absurd hasked hrange, fun _ pos hpos hlt hfree => ?_⟩
  have hsorted : (front :: rest).Pairwise (· < ·) :=
    hfront ▸ (pairwise_intRange 0 (b.maxShortcutCount - 1)).filter _
  have hbound := hmem.1.2
  have hearlier : pos ∈ front :: rest :=
    hfront ▸ mem_freeShortcutPositions.mpr ⟨⟨hpos, by omega⟩, hfree⟩
  rcases List.mem_cons.mp hearlier with rfl | hrest
  · omega
  · have hlater := (List.pairwise_cons.mp hsorted).1 pos hrest
    omega

/-- A position that it gets is a place for it. -/
theorem ShortcutsPlaced.hasPlace (h : ShortcutsPlaced b) {preferredPos pos : ℤ}
    (hgets : Gets b.shortcutPositions b.maxShortcutCount preferredPos pos) : b.HasPlace preferredPos := by
  unfold HasPlace
  split
  next hrange => exact hgets.granted hrange ▸ hgets.free
  next => exact h.size_lt_of_free hgets.inRange hgets.free

/-- **Where a new shortcut goes**: to the requested position if there is such a position, and to the
first free one otherwise. -/
theorem allocateShortcutPosition_insert (hfresh : shortcutId ∉ b.shortcuts) {s : ShortcutEntry}
    (hs : s.shortcutPos = -1) (hsize : (b.shortcuts.size : ℤ) < b.maxShortcutCount)
    {o : Option ℤ} (h : ({ b with shortcuts := b.shortcuts.insert shortcutId s } :
      Browser).allocateShortcutPosition s = o) :
    (o = none ∧ ¬ b.HasPlace s.preferredPos)
      ∨ b.HasPlace s.preferredPos
        ∧ ∃ pos, o = some pos ∧ Gets b.shortcutPositions b.maxShortcutCount s.preferredPos pos := by
  have hmax : ({ b with shortcuts := b.shortcuts.insert shortcutId s } : Browser).maxShortcutCount
      = b.maxShortcutCount := rfl
  obtain ⟨front, rest, hfront⟩ := List.exists_cons_of_ne_nil (freeShortcutPositions_ne_nil hsize)
  rw [allocateShortcutPosition, freeShortcutPositions_insert hfresh hs, hfront, hmax] at h
  dsimp only at h
  rw [← hfront] at h
  unfold HasPlace
  split at h
  next hrange =>
    rw [if_pos hrange]
    have hrange : 0 ≤ s.preferredPos ∧ s.preferredPos < b.maxShortcutCount := hrange
    split at h
    next hmem =>
      have hfree := (mem_freeShortcutPositions.mp hmem).2
      exact Or.inr ⟨hfree, s.preferredPos, h.symm, hrange, hfree, fun _ => rfl, fun hno => absurd hrange hno⟩
    next hmem =>
      exact Or.inl ⟨h.symm, fun hfree => hmem (mem_freeShortcutPositions.mpr ⟨hrange, hfree⟩)⟩
  next hrange =>
    rw [if_neg hrange]
    exact Or.inr ⟨hsize, front, h.symm, gets_front hfront hrange⟩

/-- `onNewShortcut` takes the shortcut in where it is to go, or there is no place for it. -/
theorem onNewShortcut_outcome (h : ShortcutsPlaced b)
    (henabled : b.runtimeConfig.shortcutsEnabled = true) (hfresh : shortcutId ∉ b.shortcuts)
    (url iconUrl : String) (preferredPos flags : ℤ) :
    ((b.onNewShortcut url iconUrl preferredPos flags shortcutId).2.result = .EXEC_ERROR
        ∧ ¬ b.HasPlace preferredPos
        ∧ (b.onNewShortcut url iconUrl preferredPos flags shortcutId).1 = b)
      ∨ (b.onNewShortcut url iconUrl preferredPos flags shortcutId).2.result = .OK
        ∧ b.HasPlace preferredPos
        ∧ ∃ pos, Gets b.shortcutPositions b.maxShortcutCount preferredPos pos
          ∧ (b.onNewShortcut url iconUrl preferredPos flags shortcutId).1 = { b with
            shortcuts := b.shortcuts.insert shortcutId { newShortcut url iconUrl preferredPos flags
              shortcutId with shortcutPos := pos } } := by
  unfold onNewShortcut
  rw [henabled]
  simp only [Bool.not_true, Bool.false_eq_true, if_false]
  split
  next hsize =>
    split
    next hnone =>
      rcases allocateShortcutPosition_insert hfresh rfl hsize hnone with ⟨-, hno⟩ | ⟨-, pos, hsome, -⟩
      · refine Or.inl ⟨rfl, hno, ?_⟩
        rw [StdMap.erase_insert hfresh]
      · cases hsome
    next pos hsome =>
      rcases allocateShortcutPosition_insert hfresh rfl hsize hsome with
        ⟨hnone, -⟩ | ⟨hplace, pos', hpos, hgets⟩
      · cases hnone
      · cases hpos
        refine Or.inr ⟨rfl, hplace, pos, hgets, ?_⟩
        rw [StdMap.modify_insert]
        rfl
  next hsize =>
    refine Or.inl ⟨rfl, fun hplace => hsize ?_, rfl⟩
    unfold HasPlace at hplace
    split at hplace
    next hrange => exact h.size_lt_of_free hrange hplace
    next => exact hplace

end NewShortcut

/-! ### Every signal keeps the shortcuts in place -/

theorem ShortcutsPlaced.of_same {b b' : Browser} (h : ShortcutsPlaced b)
    (hshortcuts : b'.shortcuts = b.shortcuts) (hconfig : b'.runtimeConfig = b.runtimeConfig) :
    ShortcutsPlaced b' := by
  have hpositions : b'.shortcutPositions = b.shortcutPositions := by
    funext id
    rw [shortcutPositions, hshortcuts, shortcutPositions]
  have hmax : b'.maxShortcutCount = b.maxShortcutCount := by
    rw [maxShortcutCount, hconfig, maxShortcutCount]
  refine ⟨fun hs => h.named (hshortcuts ▸ hs), fun hpos => ?_, hpositions ▸ h.distinct⟩
  rw [hpositions] at hpos
  rw [hmax]
  exact h.inRange hpos

/-- A new shortcut at a free position. -/
theorem ShortcutsPlaced.insert {b : Browser} (h : ShortcutsPlaced b) {s : ShortcutEntry}
    (hrange : 0 ≤ s.shortcutPos ∧ s.shortcutPos < b.maxShortcutCount)
    (hfree : Free b.shortcutPositions s.shortcutPos) :
    ShortcutsPlaced { b with shortcuts := b.shortcuts.insert s.shortcutId s } := by
  have hpositions := shortcutPositions_insert b s.shortcutId s
  refine ⟨fun {id s'} hs' => ?_, fun {id pos} hpos => ?_, ?_⟩
  · rw [StdMap.getElem?_insert] at hs'
    split at hs'
    next heq => exact Option.some.inj hs' ▸ heq
    next => exact h.named hs'
  · rw [hpositions] at hpos
    by_cases hid : id = s.shortcutId
    · rw [hid, Function.update_self, Option.some.injEq] at hpos
      exact hpos ▸ hrange
    · rw [Function.update_of_ne hid] at hpos
      exact h.inRange hpos
  · rw [hpositions]
    exact h.distinct.place hfree s.shortcutId

theorem shortcutPositions_erase (b : Browser) (shortcutId : String) :
    ({ b with shortcuts := b.shortcuts.erase shortcutId } : Browser).shortcutPositions
      = Function.update b.shortcutPositions shortcutId none := by
  funext id
  simp only [shortcutPositions, StdMap.getElem?_erase, Function.update_apply]
  by_cases h : shortcutId = id
  · simp [h]
  · simp [h, Ne.symm h]

/-- A shortcut that is killed gives its position back. -/
theorem ShortcutsPlaced.erase {b : Browser} (h : ShortcutsPlaced b) (shortcutId : String) :
    ShortcutsPlaced { b with shortcuts := b.shortcuts.erase shortcutId } := by
  have hpositions := shortcutPositions_erase b shortcutId
  refine ⟨fun {id s} hs => ?_, fun {id pos} hpos => ?_, ?_⟩
  · rw [StdMap.getElem?_erase] at hs
    split at hs
    next => cases hs
    next => exact h.named hs
  · rw [hpositions] at hpos
    by_cases hid : id = shortcutId
    · rw [hid, Function.update_self] at hpos
      cases hpos
    · rw [Function.update_of_ne hid] at hpos
      exact h.inRange hpos
  · rw [hpositions]
    exact h.distinct.release shortcutId

end Browser

section Steps

variable {b b' : Browser} {signal : Browser.Signal} {resp : CmdResponse}

/-- **The step lemma**: the shortcuts stay in place, and the ones that are not killed stay where they
are. -/
theorem shortcuts_exec (hb : b.ShortcutsPlaced) (henabled : b.runtimeConfig.shortcutsEnabled = true)
    (hfresh : Fresh b signal) (h : b.exec signal = some (b', resp)) :
    b'.ShortcutsPlaced ∧ ∀ {id : String} {pos : ℤ}, b.shortcutPositions id = some pos →
      signal ≠ .KillShortcut id → b'.shortcutPositions id = some pos := by
  have hconfig := (config_exec h).2
  cases signal with
  | NewShortcut url iconUrl preferredPos flags shortcutId =>
    obtain rfl : (b.onNewShortcut url iconUrl preferredPos flags shortcutId).1 = b' :=
      congrArg Prod.fst (Option.some.inj h)
    rcases Browser.onNewShortcut_outcome hb henabled hfresh url iconUrl preferredPos flags with
      ⟨-, -, hsame⟩ | ⟨-, -, pos, hgets, hinsert⟩
    · rw [hsame]
      exact ⟨hb, fun hid _ => hid⟩
    · rw [hinsert]
      refine ⟨hb.insert (s := { Browser.newShortcut url iconUrl preferredPos flags shortcutId with
        shortcutPos := pos }) hgets.inRange hgets.free, fun {id pos'} hid _ => ?_⟩
      have hne : id ≠ shortcutId := by
        rintro rfl
        obtain ⟨s, hs, -⟩ := Browser.shortcutPositions_eq_some_iff.mp hid
        exact hfresh (Browser.mem_shortcuts_iff.mpr ⟨s, hs⟩)
      rw [Browser.shortcutPositions_insert, Function.update_of_ne hne]
      exact hid
  | KillShortcut shortcutId =>
    obtain rfl : (b.onKillShortcut shortcutId).1 = b' := congrArg Prod.fst (Option.some.inj h)
    unfold Browser.onKillShortcut
    split
    · refine ⟨hb.erase shortcutId, fun {id pos} hid hne => ?_⟩
      have hne : id ≠ shortcutId := by
        rintro rfl
        exact hne rfl
      rw [Browser.shortcutPositions_erase, Function.update_of_ne hne]
      exact hid
    · exact ⟨hb, fun hid _ => hid⟩
  | _ =>
    have hrest : b'.shortcuts = b.shortcuts := congrArg Prod.fst (rest_exec h (by rintro ⟨⟩))
    refine ⟨hb.of_same hrest hconfig, fun {id pos} hid _ => ?_⟩
    rw [Browser.shortcutPositions, hrest]
    exact hid

/-- Without shortcuts in the configuration there are none. -/
theorem Browser.ShortcutsPlaced.exec (hb : b.ShortcutsPlaced) (hfresh : Fresh b signal)
    (h : b.exec signal = some (b', resp)) : b'.ShortcutsPlaced := by
  by_cases henabled : b.runtimeConfig.shortcutsEnabled = true
  · exact (shortcuts_exec hb henabled hfresh h).1
  have hconfig := (config_exec h).2
  have hdisabled : b.runtimeConfig.shortcutsEnabled = false := Bool.not_eq_true _ ▸ henabled
  cases signal with
  | NewShortcut url iconUrl preferredPos flags shortcutId =>
    obtain rfl : (b.onNewShortcut url iconUrl preferredPos flags shortcutId).1 = b' :=
      congrArg Prod.fst (Option.some.inj h)
    rw [Browser.onNewShortcut, hdisabled]
    exact hb
  | KillShortcut shortcutId =>
    obtain rfl : (b.onKillShortcut shortcutId).1 = b' := congrArg Prod.fst (Option.some.inj h)
    unfold Browser.onKillShortcut
    split
    · exact hb.erase shortcutId
    · exact hb
  | _ => exact hb.of_same (congrArg Prod.fst (rest_exec h (by rintro ⟨⟩))) hconfig

end Steps

/-! ### GetShortcuts -/

/-- The live shortcuts, each once, by position. -/
structure ShortcutsListed (b : Browser) (entries : List ShortcutEntry) : Prop where
  live : ∀ s ∈ entries, b.shortcuts[s.shortcutId]? = some s
  all : ∀ id ∈ b.shortcuts, ∃ s ∈ entries, s.shortcutId = id
  once : (entries.map ShortcutEntry.shortcutId).Nodup
  ascending : entries.Pairwise fun s s' => s.shortcutPos < s'.shortcutPos

theorem Browser.ShortcutsPlaced.listed {b : Browser} (h : b.ShortcutsPlaced) :
    ShortcutsListed b b.shortcutsInDisplayOrder := by
  have hperm := sort_perm shortcutPosLess (b.shortcuts.toList.map Prod.snd)
  have hmem : ∀ s, s ∈ b.shortcutsInDisplayOrder ↔ b.shortcuts[s.shortcutId]? = some s := by
    intro s
    rw [Browser.shortcutsInDisplayOrder, hperm.mem_iff, List.mem_map]
    constructor
    · rintro ⟨⟨id, s⟩, hs, rfl⟩
      have hs := Std.ExtTreeMap.mem_toList_iff_getElem?_eq_some.mp hs
      rwa [← h.named hs] at hs
    · exact fun hs => ⟨(s.shortcutId, s), Std.ExtTreeMap.mem_toList_iff_getElem?_eq_some.mpr hs, rfl⟩
  have honce : (b.shortcutsInDisplayOrder.map ShortcutEntry.shortcutId).Nodup := by
    have hkeys : ((b.shortcuts.toList.map Prod.snd).map ShortcutEntry.shortcutId)
        = b.shortcuts.toList.map Prod.fst := by
      rw [List.map_map]
      refine List.map_congr_left fun entry hentry => ?_
      exact h.named (Std.ExtTreeMap.mem_toList_iff_getElem?_eq_some.mp hentry)
    rw [Browser.shortcutsInDisplayOrder, (hperm.map _).nodup_iff, hkeys, List.Nodup, List.pairwise_map]
    exact b.shortcuts.distinct_keys_toList.imp fun hne heq =>
      hne (Std.LawfulEqOrd.compare_eq_iff_eq.mpr heq)
  refine ⟨fun s hs => (hmem s).mp hs, fun id hid => ?_, honce, ?_⟩
  · obtain ⟨s, hs⟩ := Browser.mem_shortcuts_iff.mp hid
    have hname := h.named hs
    exact ⟨s, (hmem s).mpr (hname ▸ hs), hname⟩
  · refine pairwise_sort (fun _ _ => Iff.rfl) (hperm.nodup_iff.mp honce.of_map) ?_
    intro s hs s' hs' heq
    have hs := (hmem s).mp (hperm.mem_iff.mpr hs)
    have hs' := (hmem s').mp (hperm.mem_iff.mpr hs')
    have hsame : s.shortcutId = s'.shortcutId :=
      h.distinct (Browser.shortcutPositions_eq_some_iff.mpr ⟨s, hs, heq⟩)
        (Browser.shortcutPositions_eq_some_iff.mpr ⟨s', hs', rfl⟩)
    exact Option.some.inj (hs.symm.trans (hsame ▸ hs'))

/-! ### Runs -/

theorem Browser.shortcutsPlaced_new (runtimeConfig : RuntimeConfig) :
    (Browser.new runtimeConfig).ShortcutsPlaced := by
  have hnone : (Browser.new runtimeConfig).shortcutPositions = fun _ => none := by
    funext id
    simp [Browser.shortcutPositions, Browser.new]
  refine ⟨fun hs => ?_, fun hpos => ?_, hnone ▸ distinct_none⟩
  · simp [Browser.new] at hs
  · rw [hnone] at hpos
    cases hpos

/-- What can be relied on where shortcuts have `count` positions. -/
structure ShortcutsInOrder (count : ℤ) (b : Browser) : Prop where
  inRange : ∀ (id : String) (s : ShortcutEntry), b.shortcuts[id]? = some s →
    0 ≤ s.shortcutPos ∧ s.shortcutPos < count
  distinct : ∀ (id id' : String) (s s' : ShortcutEntry), b.shortcuts[id]? = some s →
    b.shortcuts[id']? = some s' → s.shortcutPos = s'.shortcutPos → id = id'
  /-- A position of the range is given to a new shortcut if nobody holds it. -/
  requested : ∀ (url iconUrl : String) (preferredPos flags : ℤ) (id : String), id ∉ b.shortcuts →
    0 ≤ preferredPos ∧ preferredPos < count →
      ((b.onNewShortcut url iconUrl preferredPos flags id).2.result = .OK
        ↔ ∀ (id' : String) (s : ShortcutEntry), b.shortcuts[id']? = some s →
          s.shortcutPos ≠ preferredPos)
  /-- Without such a request there has to be one shortcut less than positions. -/
  anywhere : ∀ (url iconUrl : String) (preferredPos flags : ℤ) (id : String), id ∉ b.shortcuts →
    ¬ (0 ≤ preferredPos ∧ preferredPos < count) →
      ((b.onNewShortcut url iconUrl preferredPos flags id).2.result = .OK
        ↔ (b.shortcuts.size : ℤ) < count)
  /-- Whatever happens, a shortcut that is not killed stays where it is. -/
  stays : ∀ (signals : List Browser.Signal) (b' : Browser), Run.Steps BrowserStep b signals b' →
    ∀ (id : String) (s : ShortcutEntry), b.shortcuts[id]? = some s → .KillShortcut id ∉ signals →
      ∃ s', b'.shortcuts[id]? = some s' ∧ s'.shortcutPos = s.shortcutPos
  listed : ∃ entries, b.onGetShortcuts
      = { result := .OK, payload := .arr (entries.map Browser.shortcutToJson) }
    ∧ ShortcutsListed b entries

/-- The shortcuts are in place, and there is room for them at all. -/
structure ShortcutsLive (count : ℤ) (b : Browser) : Prop where
  placed : b.ShortcutsPlaced
  enabled : b.runtimeConfig.shortcutsEnabled = true
  count : b.maxShortcutCount = count

theorem ShortcutsLive.step {count : ℤ} {b b' : Browser} {signal : Browser.Signal}
    (h : ShortcutsLive count b) (hstep : BrowserStep b signal b') : ShortcutsLive count b' := by
  obtain ⟨hfresh, resp, hexec⟩ := hstep
  have hconfig := (config_exec hexec).2
  refine ⟨(shortcuts_exec h.placed h.enabled hfresh hexec).1, hconfig ▸ h.enabled, ?_⟩
  rw [Browser.maxShortcutCount, hconfig]
  exact h.count

theorem shortcutsLive_of_run {runtimeConfig : RuntimeConfig} {signals : List Browser.Signal}
    {b : Browser} (henabled : runtimeConfig.shortcutsEnabled = true)
    (h : Run.Steps BrowserStep (Browser.new runtimeConfig) signals b) :
    ShortcutsLive (max 1 runtimeConfig.shortcutMaxCount) b := by
  refine h.invariant (ShortcutsLive (max 1 runtimeConfig.shortcutMaxCount)) ShortcutsLive.step ?_
  exact ⟨Browser.shortcutsPlaced_new runtimeConfig, henabled, rfl⟩

/-- The position of a shortcut along a run. -/
theorem ShortcutsLive.stays {count : ℤ} {b b' : Browser} {signals : List Browser.Signal}
    (hb : ShortcutsLive count b) (hrun : Run.Steps BrowserStep b signals b') {id : String} {pos : ℤ}
    (hpos : b.shortcutPositions id = some pos) (hlive : .KillShortcut id ∉ signals) :
    b'.shortcutPositions id = some pos := by
  refine (hrun.invariant_of (fun b => ShortcutsLive count b ∧ b.shortcutPositions id = some pos)
    (fun signal => signal ≠ .KillShortcut id) ?_ ⟨hb, hpos⟩ fun signal hmem heq => ?_).2
  · rintro b₁ signal b₂ ⟨hb, hpos⟩ hother hstep
    refine ⟨hb.step hstep, ?_⟩
    obtain ⟨hfresh, resp, hexec⟩ := hstep
    exact (shortcuts_exec hb.placed hb.enabled hfresh hexec).2 hpos hother
  · exact hlive (heq ▸ hmem)

/-- **The result of `NewShortcut`.** -/
theorem onNewShortcut_ok_iff {b : Browser} (hb : b.ShortcutsPlaced)
    (henabled : b.runtimeConfig.shortcutsEnabled = true) {shortcutId : String}
    (hfresh : shortcutId ∉ b.shortcuts) (url iconUrl : String) (preferredPos flags : ℤ) :
    (b.onNewShortcut url iconUrl preferredPos flags shortcutId).2.result = .OK
      ↔ b.HasPlace preferredPos := by
  rcases Browser.onNewShortcut_outcome hb henabled hfresh url iconUrl preferredPos flags with
    ⟨herror, hno, -⟩ | ⟨hok, hplace, -⟩
  · rw [herror]
    simpa using hno
  · exact ⟨fun _ => hplace, fun _ => hok⟩

/-- **The shortcuts are in order in every run**, for every configured number of positions. -/
theorem shortcuts_of_run {runtimeConfig : RuntimeConfig} {signals : List Browser.Signal} {b : Browser}
    (henabled : runtimeConfig.shortcutsEnabled = true)
    (h : Run.Steps BrowserStep (Browser.new runtimeConfig) signals b) :
    ShortcutsInOrder (max 1 runtimeConfig.shortcutMaxCount) b := by
  have hlive := shortcutsLive_of_run henabled h
  have hcount := hlive.count
  have hheld : ∀ {id : String} {s : ShortcutEntry}, b.shortcuts[id]? = some s →
      b.shortcutPositions id = some s.shortcutPos :=
    fun hs => Browser.shortcutPositions_eq_some_iff.mpr ⟨_, hs, rfl⟩
  constructor
  · intro id s hs
    rw [← hcount]
    exact hlive.placed.inRange (hheld hs)
  · intro id id' s s' hs hs' heq
    exact hlive.placed.distinct (hheld hs) (heq ▸ hheld hs')
  · intro url iconUrl preferredPos flags id hfresh hrange
    rw [onNewShortcut_ok_iff hlive.placed hlive.enabled hfresh, Browser.HasPlace,
      if_pos (hcount ▸ hrange)]
    constructor
    · exact fun hfree id' s hs heq => hfree id' (heq ▸ hheld hs)
    · intro hnobody id' hid'
      obtain ⟨s, hs, heq⟩ := Browser.shortcutPositions_eq_some_iff.mp hid'
      exact hnobody id' s hs heq
  · intro url iconUrl preferredPos flags id hfresh hrange
    rw [onNewShortcut_ok_iff hlive.placed hlive.enabled hfresh, Browser.HasPlace,
      if_neg (hcount ▸ hrange), hcount]
  · intro later b' hrun id s hs hkill
    exact Browser.shortcutPositions_eq_some_iff.mp (hlive.stays hrun (hheld hs) hkill)
  · exact ⟨b.shortcutsInDisplayOrder, rfl, hlive.placed.listed⟩

/-- Two positions: both are taken, the first one is given back and taken again. -/
theorem shortcuts_of_run_refilled : ∃ b,
    Run.Steps BrowserStep (Browser.new { shortcutMaxCount := 2 })
      [.NewShortcut "m" "" (-1) 0 "a", .NewShortcut "k" "" 1 0 "b", .NewShortcut "x" "" 7 0 "c",
        .KillShortcut "a", .NewShortcut "z" "" 0 0 "d"] b ∧
      b.shortcutPositions "d" = some 0 ∧ ShortcutsInOrder 2 b := by
  have hrun : Run.Steps BrowserStep (Browser.new { shortcutMaxCount := 2 })
      [.NewShortcut "m" "" (-1) 0 "a", .NewShortcut "k" "" 1 0 "b", .NewShortcut "x" "" 7 0 "c",
        .KillShortcut "a", .NewShortcut "z" "" 0 0 "d"] _ :=
    .cons ⟨(by decide : ¬ _ ∈ _), _, rfl⟩ (.cons ⟨(by decide : ¬ _ ∈ _), _, rfl⟩
      (.cons ⟨(by decide : ¬ _ ∈ _), _, rfl⟩ (.cons ⟨trivial, _, rfl⟩
        (.cons ⟨(by decide : ¬ _ ∈ _), _, rfl⟩ (.nil _)))))
  exact ⟨_, hrun, by decide, shortcuts_of_run rfl hrun⟩

end OpenMadt.Gui
