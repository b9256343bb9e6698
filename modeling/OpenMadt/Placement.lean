import OpenMadt.Slots

/-!
# When a new page gets a place

The capacity test of `onNewWebTab` counts pages, and the two allocators look for free positions.

* `freePositions_ne_nil` — with fewer normal pages than positions one position is free.
* `firstFree_of_run` — a page without a preference is placed exactly if there are fewer than `MAX_TABS`
  normal pages, at the lowest free position.
* `length_candidatePositions` — a zone has as many candidates as other pages and free positions.
* `zone_answers_iff` — when a page for a zone is answered as it should be, and no vector is indexed out
  of bounds.
-/

namespace OpenMadt.Gui

open Assignment

/-! ### Counting pages -/

/-- The ids of the normal pages. -/
def normalIds (b : Browser) : List String :=
  (b.list.toList.filter fun entry => !isExtraPage entry.2).map Prod.fst

theorem length_normalIds (b : Browser) : ((normalIds b).length : ℤ) = b.normalPageCount := by
  rw [normalIds, List.length_map]
  rfl

theorem mem_normalIds {b : Browser} {id : String} :
    id ∈ normalIds b ↔ ∃ p, b.list[id]? = some p ∧ isExtraPage p = false := by
  rw [normalIds, List.mem_map]
  constructor
  · rintro ⟨⟨id, p⟩, hmem, rfl⟩
    obtain ⟨hp, hnormal⟩ := List.mem_filter.mp hmem
    exact ⟨p, Browser.mem_toList_iff.mp hp, Bool.not_eq_true' _ ▸ hnormal⟩
  · rintro ⟨p, hp, hnormal⟩
    exact ⟨(id, p), List.mem_filter.mpr ⟨Browser.mem_toList_iff.mpr hp, by rw [hnormal]; rfl⟩, rfl⟩

theorem nodup_normalIds (b : Browser) : (normalIds b).Nodup :=
  b.nodup_ids.sublist (List.filter_sublist.map Prod.fst)

/-- A new page raises the count by one at most. -/
theorem normalPageCount_insert_le (b : Browser) (uuid : String) (page : BrowserPage) :
    Browser.normalPageCount { b with list := b.list.insert uuid page } ≤ b.normalPageCount + 1 := by
  have hsub : normalIds { b with list := b.list.insert uuid page } ⊆ uuid :: normalIds b := by
    intro id hid
    obtain ⟨p, hp, hnormal⟩ := mem_normalIds.mp hid
    by_cases hsame : id = uuid
    · rw [hsame]
      exact List.mem_cons_self
    · have hp : (b.list.insert uuid page)[id]? = some p := hp
      rw [StdMap.getElem?_insert, if_neg (Ne.symm hsame)] at hp
      exact List.mem_cons_of_mem _ (mem_normalIds.mpr ⟨p, hp, hnormal⟩)
  have hle := (nodup_normalIds _).length_le_of_subset hsub
  rw [List.length_cons] at hle
  rw [← length_normalIds, ← length_normalIds]
  omega

/-! ### Free positions -/

/-- No live page is at the position. -/
def Unheld (b : Browser) (pos : ℤ) : Prop :=
  ∀ (id : String) (p : BrowserPage), b.list[id]? = some p → p.logicalPos ≠ pos

/-- The position is the lowest one that no live page holds. -/
structure LowestFree (b : Browser) (pos : ℤ) : Prop where
  inRange : 0 ≤ pos ∧ pos < MAX_TABS
  unheld : Unheld b pos
  lowest : ∀ pos', 0 ≤ pos' → pos' < pos →
    ∃ (id : String) (p : BrowserPage), b.list[id]? = some p ∧ p.logicalPos = pos'

/-- A range of logical positions can be indexed. -/
theorem freePositionsInRange_isSome (b : Browser) {start stop : ℤ} (hstart : 0 ≤ start)
    (hstop : stop < MAX_TABS) : ∃ free, b.freePositionsInRange start stop = some free := by
  unfold Browser.freePositionsInRange
  dsimp only
  rw [if_pos]
  · exact ⟨_, rfl⟩
  · intro pos hpos
    obtain ⟨hlo, hhi⟩ := mem_intRange.mp hpos
    exact ⟨by omega, by omega⟩

/-- The free positions come in ascending order. -/
theorem pairwise_freePositions {b : Browser} {start stop : ℤ} {free : List ℤ}
    (h : b.freePositionsInRange start stop = some free) : free.Pairwise (· < ·) := by
  unfold Browser.freePositionsInRange at h
  dsimp only at h
  split at h
  · obtain rfl := Option.some.inj h
    exact (pairwise_intRange start stop).filter _
  · cases h

/-- The new page, at position -1, is in nobody's way. -/
theorem unheld_insert_iff {b : Browser} {uuid : String} (hfresh : uuid ∉ b.list) {page : BrowserPage}
    {pos : ℤ} (hpos : page.logicalPos ≠ pos) :
    Unheld { b with list := b.list.insert uuid page } pos ↔ Unheld b pos := by
  constructor
  · intro h id p hp
    have hne : uuid ≠ id := by
      rintro rfl
      exact hfresh (Std.ExtTreeMap.isSome_getElem?_iff_mem.mp (by rw [hp]; rfl))
    refine h id p ?_
    show (b.list.insert uuid page)[id]? = some p
    rw [StdMap.getElem?_insert, if_neg hne, hp]
  · intro h id p hp
    have hp : (b.list.insert uuid page)[id]? = some p := hp
    rw [StdMap.getElem?_insert] at hp
    split at hp
    · exact Option.some.inj hp ▸ hpos
    · exact h id p hp

/-- **The pigeonhole principle**: with fewer normal pages than positions, one position is free. -/
theorem exists_unheld {b : Browser} (hb : PagesPlaced b) (hcount : b.normalPageCount < MAX_TABS) :
    ∃ pos, 0 ≤ pos ∧ pos < MAX_TABS ∧ Unheld b pos := by
  have hfewer : (normalIds b).length < (intRange 0 (MAX_TABS - 1)).length := by
    have hlength := length_normalIds b
    have hrange : (intRange 0 (MAX_TABS - 1)).length = 20 := by decide
    have hmax : MAX_TABS = 20 := rfl
    omega
  obtain ⟨pos, hpos, hfree⟩ :=
    exists_free (f := positions b.slots) (nodup_intRange 0 (MAX_TABS - 1)) hfewer
  obtain ⟨hlo, hhi⟩ := mem_intRange.mp hpos
  refine ⟨pos, hlo, by omega, fun id p hp hheld => ?_⟩
  cases hextra : isExtraPage p with
  | true =>
    -- the extra page is outside the range
    rw [hb.extra id p hp hextra] at hheld
    have : POS_EXTRA = -10 := rfl
    omega
  | false =>
    refine hfree id (mem_normalIds.mpr ⟨p, hp, hextra⟩) ?_
    rw [positions_of_page hp (of_decide_eq_false hextra), hheld]

/-! ### A page without a preference -/

section NewPage

variable {b : Browser} {url iconUrl uuid : String} {preferredPos flags : ℤ}

/-- The browser in which a new page is about to be placed. -/
abbrev withNewPage (b : Browser) (url iconUrl : String) (preferredPos flags : ℤ) (uuid : String) : Browser :=
  { b with list := b.list.insert uuid (Browser.newPage url iconUrl preferredPos flags uuid) }

/-- `onNewWebTab` on a normal page, as far as its test of the capacity goes. -/
theorem onNewWebTab_of_full (hnormal : preferredPos ≠ POS_EXTRA) (hfull : MAX_TABS ≤ b.normalPageCount) :
    b.onNewWebTab url iconUrl preferredPos flags uuid = some (b, { result := .EXEC_ERROR }) := by
  unfold Browser.onNewWebTab
  dsimp only
  rw [if_pos (by simpa [hnormal] using hfull)]

/-- `onNewWebTab` on a normal page for which there is room, by what the allocation answers. -/
theorem onNewWebTab_of_room (hnormal : preferredPos ≠ POS_EXTRA) (hroom : b.normalPageCount < MAX_TABS) :
    b.onNewWebTab url iconUrl preferredPos flags uuid
      = match (withNewPage b url iconUrl preferredPos flags uuid).allocateLogicalPosition uuid with
        | none => none
        | some (b, false) => some ({ b with list := b.list.erase uuid }, { result := .EXEC_ERROR })
        | some (b, true) => some (b.showNewTab uuid, { result := .OK }) := by
  have hpref : decide (preferredPos = POS_EXTRA) = false := decide_eq_false hnormal
  unfold Browser.onNewWebTab
  dsimp only
  rw [if_neg (by simp only [Bool.and_eq_true, decide_eq_true_eq, not_and]; omega),
    if_neg (by simp [hpref]), hpref]
  rfl

/-- The capacity test of `allocateLogicalPosition` is passed. -/
theorem allocateLogicalPosition_of_room (hroom : b.normalPageCount < MAX_TABS) :
    ¬ (!isExtraPage (Browser.newPage url iconUrl preferredPos flags uuid)
      && decide ((withNewPage b url iconUrl preferredPos flags uuid).normalPageCount > MAX_TABS)) = true := by
  have hle : (withNewPage b url iconUrl preferredPos flags uuid).normalPageCount
      ≤ b.normalPageCount + 1 := normalPageCount_insert_le b uuid _
  simp only [Bool.and_eq_true, decide_eq_true_eq, not_and]
  intro _
  omega

/-- The head of the free positions is the lowest one. -/
theorem lowestFree_head (hfresh : uuid ∉ b.list) {pos : ℤ} {free : List ℤ}
    (hfree : (withNewPage b url iconUrl preferredPos flags uuid).freePositionsInRange 0 (MAX_TABS - 1)
      = some (pos :: free)) : LowestFree b pos := by
  have hspec := freePositionsInRange_spec hfree
  have hnew : ∀ {pos : ℤ}, 0 ≤ pos →
      (Browser.newPage url iconUrl preferredPos flags uuid).logicalPos ≠ pos := by
    intro pos hpos
    show (-1 : ℤ) ≠ pos
    omega
  obtain ⟨⟨hlo, hhi⟩, hunheld⟩ := (hspec.mem_iff pos).mp List.mem_cons_self
  refine ⟨⟨hlo, by omega⟩, (unheld_insert_iff hfresh (hnew hlo)).mp hunheld, ?_⟩
  intro pos' hlo' hlt
  by_contra hnobody
  push Not at hnobody
  have hmem : pos' ∈ pos :: free := (hspec.mem_iff pos').mpr
    ⟨⟨hlo', by omega⟩, (unheld_insert_iff hfresh (hnew hlo')).mpr hnobody⟩
  rcases List.mem_cons.mp hmem with rfl | hmem
  · omega
  · have := (List.pairwise_cons.mp (pairwise_freePositions hfree)).1 pos' hmem
    omega

variable (url iconUrl flags) in
/-- A page without a preference, in any state with its pages in place. -/
theorem onNewWebTab_any (hb : PagesPlaced b) (hfresh : uuid ∉ b.list) :
    ∃ b' resp, b.onNewWebTab url iconUrl POS_ANY flags uuid = some (b', resp)
      ∧ (resp.result = .OK ↔ b.normalPageCount < MAX_TABS)
      ∧ (resp.result = .OK → ∃ pos, LowestFree b pos
          ∧ b'.slots = Function.update b.slots uuid (some ⟨POS_ANY, pos⟩)) := by
  have hnormal : POS_ANY ≠ POS_EXTRA := by decide
  by_cases hroom : b.normalPageCount < MAX_TABS
  · obtain ⟨pos, hlo, hhi, hunheld⟩ := exists_unheld hb hroom
    obtain ⟨free, hfree⟩ := freePositionsInRange_isSome (withNewPage b url iconUrl POS_ANY flags uuid)
      (le_refl (0 : ℤ)) (show MAX_TABS - 1 < MAX_TABS by omega)
    have hmem : pos ∈ free := ((freePositionsInRange_spec hfree).mem_iff pos).mpr
      ⟨⟨hlo, by omega⟩, (unheld_insert_iff hfresh (show (-1 : ℤ) ≠ pos by omega)).mpr hunheld⟩
    cases free with
    | nil => cases hmem
    | cons first rest =>
      have hplaced : (withNewPage b url iconUrl POS_ANY flags uuid).allocateLogicalPosition uuid
          = some ((withNewPage b url iconUrl POS_ANY flags uuid).modifyPage uuid
              fun q => { q with logicalPos := first }, true) := by
        have hlist : (withNewPage b url iconUrl POS_ANY flags uuid).list[uuid]?
            = some (Browser.newPage url iconUrl POS_ANY flags uuid) := by simp
        unfold Browser.allocateLogicalPosition
        simp only [hlist]
        rw [if_neg (allocateLogicalPosition_of_room hroom),
          if_pos (show (Browser.newPage url iconUrl POS_ANY flags uuid).preferredPos = POS_ANY from rfl),
          hfree]
      refine ⟨_, _, by rw [onNewWebTab_of_room hnormal hroom, hplaced], ⟨fun _ => hroom, fun _ => rfl⟩,
        fun _ => ⟨first, lowestFree_head hfresh hfree, ?_⟩⟩
      rw [(Browser.frame_showNewTab _ uuid).slots, slots_insert_setPosition]
      rfl
  · refine ⟨_, _, onNewWebTab_of_full hnormal (by omega), ⟨fun h => ?_, fun h => absurd h hroom⟩,
      fun h => ?_⟩
    · cases h
    · cases h

/-- **First free.**  In every reachable state a page without a preference is taken in exactly if there
are fewer than `MAX_TABS` normal pages; it gets the lowest free position, and no other page moves. -/
theorem firstFree_of_run {runtimeConfig : RuntimeConfig} {signals : List Browser.Signal}
    (hrun : Run.Steps BrowserStep (Browser.new runtimeConfig) signals b) (hfresh : uuid ∉ b.list) :
    ∃ b' resp, b.onNewWebTab url iconUrl POS_ANY flags uuid = some (b', resp)
      ∧ (resp.result = .OK ↔ b.normalPageCount < MAX_TABS)
      ∧ (resp.result = .OK → ∃ pos, LowestFree b pos ∧ b'.slots uuid = some ⟨POS_ANY, pos⟩
          ∧ ∀ id, id ≠ uuid → b'.slots id = b.slots id) := by
  obtain ⟨b', resp, hexec, hok, hplaced⟩ := onNewWebTab_any url iconUrl flags
    (wellLaid_of_run hrun).pagesPlaced hfresh
  refine ⟨b', resp, hexec, hok, fun hresult => ?_⟩
  obtain ⟨pos, hpos, hslots⟩ := hplaced hresult
  refine ⟨pos, hpos, by rw [hslots, Function.update_self], fun id hid => ?_⟩
  rw [hslots, Function.update_of_ne hid]

/-- Next to a page at position 0, one in the middle zone, the extra page, and one that was killed. -/
theorem firstFree_of_run_mixed : ∃ b,
    Run.Steps BrowserStep (Browser.new {})
      [.NewWebTab "u" "" 0 0 "a", .NewWebTab "v" "" POS_MIDDLE 0 "b", .NewWebTab "w" "" 1 0 "c",
        .NewWebTab "x" "" POS_EXTRA 0 "d", .KillTab "c" true] b
      ∧ ∃ b' resp, b.onNewWebTab "y" "" POS_ANY 0 "e" = some (b', resp)
          ∧ (resp.result = .OK ↔ b.normalPageCount < MAX_TABS)
          ∧ (resp.result = .OK → ∃ pos, LowestFree b pos ∧ b'.slots "e" = some ⟨POS_ANY, pos⟩
              ∧ ∀ id, id ≠ "e" → b'.slots id = b.slots id) := by
  have hrun : Run.Steps BrowserStep (Browser.new {})
      [.NewWebTab "u" "" 0 0 "a", .NewWebTab "v" "" POS_MIDDLE 0 "b", .NewWebTab "w" "" 1 0 "c",
        .NewWebTab "x" "" POS_EXTRA 0 "d", .KillTab "c" true] _ :=
    .cons ⟨(by decide : ¬ _ ∈ _), _, rfl⟩ <| .cons ⟨(by decide : ¬ _ ∈ _), _, rfl⟩ <|
      .cons ⟨(by decide : ¬ _ ∈ _), _, rfl⟩ <| .cons ⟨(by decide : ¬ _ ∈ _), _, rfl⟩ <|
      .cons ⟨trivial, _, rfl⟩ <| .nil _
  exact ⟨_, hrun, firstFree_of_run hrun (by decide)⟩

/-! ### A page for a zone -/

/-- The zone has a logical position that no page holds. -/
def ZoneFree (b : Browser) (zone : ℤ) : Prop :=
  ∃ pos, zoneStart zone ≤ pos ∧ pos ≤ zoneEnd zone ∧ Unheld b pos

/-- Some live page has the preference for the zone. -/
def ZoneInUse (b : Browser) (zone : ℤ) : Prop :=
  ∃ (id : String) (p : BrowserPage), b.list[id]? = some p ∧ p.preferredPos = zone

/-- The candidates are the positions of the other pages, the own one, and the free ones. -/
theorem length_candidatePositions (others : List (String × BrowserPage)) (p : BrowserPage)
    (start stop : ℤ) (free : List ℤ) :
    (Browser.candidatePositions others p start stop free).length
      = others.length + (if p.logicalPos ≥ start ∧ p.logicalPos ≤ stop then 1 else 0) + free.length := by
  rw [Browser.candidatePositions, (sort_perm _ _).length_eq, List.length_append, List.length_append,
    List.length_map]
  split <;> rfl

theorem length_sortedPages (b : Browser) (page : String) (p : BrowserPage) (zone : ℤ) :
    (sortedPages b page p zone).length
      = (b.zonePages page zone (zoneStart zone) (zoneEnd zone)).length + 1 := by
  rw [sortedPages, (sort_perm _ _).length_eq, List.length_append, List.length_singleton]

/-- `allocateZonePosition` on a page that is in the map, by the number of candidates. -/
theorem allocateZonePosition_eq {b : Browser} {page : String} {p : BrowserPage} {zone : ℤ} {free : List ℤ}
    (hp : b.list[page]? = some p) (hzone : IsZone zone)
    (hfree : b.freePositionsInRange (zoneStart zone) (zoneEnd zone) = some free) :
    let candidates := Browser.candidatePositions
      (b.zonePages page zone (zoneStart zone) (zoneEnd zone)) p (zoneStart zone) (zoneEnd zone) free
    let pages := sortedPages b page p zone
    b.allocateZonePosition page zone
      = if candidates = [] then some (b, false)
        else if candidates.length < pages.length then none
        else some (b.setPositions ((pages.map Prod.fst).zip
          (Browser.allocatedPositions zone candidates pages.length)), true) := by
  obtain ⟨hstart, hstop, -⟩ := zone_bounds hzone
  unfold Browser.allocateZonePosition
  dsimp only
  rw [if_neg (by omega)]
  simp only [hp, hfree]
  rfl

/-- The free positions of a zone do not depend on the new page. -/
theorem free_ne_nil_iff (hfresh : uuid ∉ b.list) (hzone : IsZone preferredPos) {free : List ℤ}
    (hfree : (withNewPage b url iconUrl preferredPos flags uuid).freePositionsInRange
      (zoneStart preferredPos) (zoneEnd preferredPos) = some free) :
    free ≠ [] ↔ ZoneFree b preferredPos := by
  obtain ⟨hlow, -, -⟩ := zone_bounds hzone
  have hspec := freePositionsInRange_spec hfree
  have hunheld : ∀ pos, 0 ≤ pos → (Unheld (withNewPage b url iconUrl preferredPos flags uuid) pos
      ↔ Unheld b pos) := fun pos hpos => unheld_insert_iff hfresh (show (-1 : ℤ) ≠ pos by omega)
  constructor
  · intro hne
    obtain ⟨pos, hpos⟩ := List.exists_mem_of_ne_nil _ hne
    obtain ⟨⟨hlo, hhi⟩, hnobody⟩ := (hspec.mem_iff pos).mp hpos
    exact ⟨pos, hlo, hhi, (hunheld pos (by omega)).mp hnobody⟩
  · rintro ⟨pos, hlo, hhi, hnobody⟩
    exact List.ne_nil_of_mem
      ((hspec.mem_iff pos).mpr ⟨⟨hlo, hhi⟩, (hunheld pos (by omega)).mpr hnobody⟩)

variable (url iconUrl flags) in
/-- The other pages of the zone are those that were there. -/
theorem zonePages_ne_nil_iff (hb : PagesPlaced b) (hfresh : uuid ∉ b.list) (hzone : IsZone preferredPos) :
    (withNewPage b url iconUrl preferredPos flags uuid).zonePages uuid preferredPos
        (zoneStart preferredPos) (zoneEnd preferredPos) ≠ []
      ↔ ZoneInUse b preferredPos := by
  constructor
  · intro hsome
    obtain ⟨⟨id, p⟩, hmem⟩ := List.exists_mem_of_ne_nil _ hsome
    obtain ⟨hp, hne, hpref, -⟩ := mem_zonePages.mp hmem
    rw [StdMap.getElem?_insert, if_neg (Ne.symm hne)] at hp
    exact ⟨id, p, hp, hpref⟩
  · rintro ⟨id, p, hp, hpref⟩
    have hne : uuid ≠ id := by
      rintro rfl
      exact hfresh (Std.ExtTreeMap.isSome_getElem?_iff_mem.mp (by rw [hp]; rfl))
    obtain ⟨hlo, hhi⟩ := hb.zone id p hp (hpref ▸ hzone)
    refine List.ne_nil_of_mem (a := (id, p))
      (mem_zonePages.mpr ⟨?_, hne.symm, hpref, hpref ▸ hlo, hpref ▸ hhi⟩)
    rw [StdMap.getElem?_insert, if_neg hne, hp]

variable (url iconUrl flags) in
/-- What the allocation does with a new page for a zone: it refuses the page if the zone is full of pages
that want to be elsewhere, and indexes out of bounds if it is full and one of them belongs there. -/
theorem allocateZonePosition_newPage (hb : PagesPlaced b) (hfresh : uuid ∉ b.list)
    (hzone : IsZone preferredPos) :
    (ZoneFree b preferredPos → ∃ b', (withNewPage b url iconUrl preferredPos flags
          uuid).allocateZonePosition uuid preferredPos = some (b', true))
      ∧ (¬ ZoneFree b preferredPos → ¬ ZoneInUse b preferredPos →
          (withNewPage b url iconUrl preferredPos flags uuid).allocateZonePosition uuid preferredPos
            = some (withNewPage b url iconUrl preferredPos flags uuid, false))
      ∧ (¬ ZoneFree b preferredPos → ZoneInUse b preferredPos →
          (withNewPage b url iconUrl preferredPos flags uuid).allocateZonePosition uuid preferredPos
            = none) := by
  obtain ⟨hlow, -, hhigh⟩ := zone_bounds hzone
  obtain ⟨free, hfree⟩ := freePositionsInRange_isSome
    (withNewPage b url iconUrl preferredPos flags uuid) hlow hhigh
  have hlist : (withNewPage b url iconUrl preferredPos flags uuid).list[uuid]?
      = some (Browser.newPage url iconUrl preferredPos flags uuid) := by simp
  rw [← free_ne_nil_iff hfresh hzone hfree,
    ← zonePages_ne_nil_iff url iconUrl flags hb hfresh hzone,
    allocateZonePosition_eq hlist hzone hfree]
  have hown : ¬ ((Browser.newPage url iconUrl preferredPos flags uuid).logicalPos ≥ zoneStart preferredPos
      ∧ (Browser.newPage url iconUrl preferredPos flags uuid).logicalPos ≤ zoneEnd preferredPos) := by
    show ¬ ((-1 : ℤ) ≥ zoneStart preferredPos ∧ (-1 : ℤ) ≤ zoneEnd preferredPos)
    omega
  have hlength := length_candidatePositions
    ((withNewPage b url iconUrl preferredPos flags uuid).zonePages uuid preferredPos
      (zoneStart preferredPos) (zoneEnd preferredPos))
    (Browser.newPage url iconUrl preferredPos flags uuid) (zoneStart preferredPos) (zoneEnd preferredPos)
    free
  have hpages := length_sortedPages (withNewPage b url iconUrl preferredPos flags uuid) uuid
    (Browser.newPage url iconUrl preferredPos flags uuid) preferredPos
  rw [if_neg hown] at hlength
  generalize Browser.candidatePositions _ _ _ _ free = candidates at hlength ⊢
  refine ⟨fun hsome => ?_, fun hnone hothers => ?_, fun hnone hothers => ?_⟩
  · have hpos := List.length_pos_of_ne_nil hsome
    have hcandidates : candidates ≠ [] := List.ne_nil_of_length_pos (by omega)
    rw [if_neg hcandidates, if_neg (by omega)]
    exact ⟨_, rfl⟩
  · rw [not_not.mp hnone, not_not.mp hothers] at hlength
    rw [if_pos (List.length_eq_zero_iff.mp hlength)]
  · have hpos := List.length_pos_of_ne_nil hothers
    rw [not_not.mp hnone, List.length_nil] at hlength
    have hcandidates : candidates ≠ [] := List.ne_nil_of_length_pos (by omega)
    rw [if_neg hcandidates, if_pos (by omega)]

/-- With room for the page, a preference for a zone leads to the zone's allocation. -/
theorem allocateLogicalPosition_zone (hroom : b.normalPageCount < MAX_TABS) (hzone : IsZone preferredPos) :
    (withNewPage b url iconUrl preferredPos flags uuid).allocateLogicalPosition uuid
      = (withNewPage b url iconUrl preferredPos flags uuid).allocateZonePosition uuid preferredPos := by
  have hlist : (withNewPage b url iconUrl preferredPos flags uuid).list[uuid]?
      = some (Browser.newPage url iconUrl preferredPos flags uuid) := by simp
  have hany : preferredPos ≠ POS_ANY := by
    rintro rfl
    exact absurd hzone (by decide)
  unfold Browser.allocateLogicalPosition
  simp only [hlist]
  rw [if_neg (allocateLogicalPosition_of_room hroom)]
  show (if preferredPos = POS_ANY then _ else if preferredPos = POS_BEGINNING ∨
    preferredPos = POS_MIDDLE ∨ preferredPos = POS_END then _ else _) = _
  rw [if_neg hany, if_pos (show preferredPos = POS_BEGINNING ∨ preferredPos = POS_MIDDLE ∨
    preferredPos = POS_END from hzone)]
  rfl

variable (url iconUrl flags) in
/-- `onNewWebTab` on a page for a zone, with room for it. -/
theorem onNewWebTab_zone (hb : PagesPlaced b) (hfresh : uuid ∉ b.list) (hzone : IsZone preferredPos)
    (hroom : b.normalPageCount < MAX_TABS) :
    (ZoneFree b preferredPos → ∃ b' resp,
        b.onNewWebTab url iconUrl preferredPos flags uuid = some (b', resp) ∧ resp.result = .OK)
      ∧ (¬ ZoneFree b preferredPos → ¬ ZoneInUse b preferredPos →
          b.onNewWebTab url iconUrl preferredPos flags uuid = some (b, { result := .EXEC_ERROR }))
      ∧ (¬ ZoneFree b preferredPos → ZoneInUse b preferredPos →
          b.onNewWebTab url iconUrl preferredPos flags uuid = none) := by
  rw [onNewWebTab_of_room (ne_extra_of_isZone hzone) hroom, allocateLogicalPosition_zone hroom hzone]
  obtain ⟨hfree, hrefused, hfault⟩ := allocateZonePosition_newPage url iconUrl flags
    hb hfresh hzone
  refine ⟨fun h => ?_, fun h hidle => ?_, fun h hused => ?_⟩
  · obtain ⟨b', hplaced⟩ := hfree h
    rw [hplaced]
    exact ⟨_, _, rfl, rfl⟩
  · rw [hrefused h hidle]
    simp only [Option.some.injEq, Prod.mk.injEq, and_true]
    show { b with list := (b.list.insert uuid _).erase uuid } = b
    rw [StdMap.erase_insert hfresh]
  · rw [hfault h hused]

/-- **When a page for a zone is answered.**  In every reachable state with room for one more normal page:
no vector is indexed out of bounds, the page is taken in exactly if its zone has a free position, and a
full zone is reported and changes nothing, if and only if the zone has a free position or nobody in it
prefers it. -/
theorem zone_answers_iff {runtimeConfig : RuntimeConfig} {signals : List Browser.Signal}
    (hrun : Run.Steps BrowserStep (Browser.new runtimeConfig) signals b) (hfresh : uuid ∉ b.list)
    (hzone : IsZone preferredPos) (hroom : b.normalPageCount < MAX_TABS) :
    (∃ b' resp, b.onNewWebTab url iconUrl preferredPos flags uuid = some (b', resp)
        ∧ (resp.result = .OK ↔ ZoneFree b preferredPos)
        ∧ (¬ ZoneFree b preferredPos → resp.result = .EXEC_ERROR ∧ b'.slots = b.slots))
      ↔ ZoneFree b preferredPos ∨ ¬ ZoneInUse b preferredPos := by
  obtain ⟨hfree, hrefused, hfault⟩ := onNewWebTab_zone url iconUrl flags
    (wellLaid_of_run hrun).pagesPlaced hfresh hzone hroom
  constructor
  · rintro ⟨b', resp, hexec, -⟩
    by_contra hno
    push Not at hno
    rw [hfault hno.1 hno.2] at hexec
    cases hexec
  · intro hcond
    by_cases h : ZoneFree b preferredPos
    · obtain ⟨b', resp, hexec, hok⟩ := hfree h
      exact ⟨b', resp, hexec, ⟨fun _ => h, fun _ => hok⟩, fun hno => absurd h hno⟩
    · refine ⟨b, _, hrefused h (hcond.resolve_left h), ⟨fun hok => ?_, fun hfree => absurd hfree h⟩,
        fun _ => ⟨rfl, rfl⟩⟩
      cases hok

/-- Into a zone with one page. -/
theorem zone_answers_second : ∃ b,
    Run.Steps BrowserStep (Browser.new {}) [.NewWebTab "m" "" POS_BEGINNING 0 "a"] b
      ∧ ((∃ b' resp, b.onNewWebTab "k" "" POS_BEGINNING 0 "b" = some (b', resp)
            ∧ (resp.result = .OK ↔ ZoneFree b POS_BEGINNING)
            ∧ (¬ ZoneFree b POS_BEGINNING → resp.result = .EXEC_ERROR ∧ b'.slots = b.slots))
          ↔ ZoneFree b POS_BEGINNING ∨ ¬ ZoneInUse b POS_BEGINNING) := by
  have hrun : Run.Steps BrowserStep (Browser.new {}) [.NewWebTab "m" "" POS_BEGINNING 0 "a"] _ :=
    .cons ⟨(by decide : ¬ _ ∈ _), _, rfl⟩ (.nil _)
  exact ⟨_, hrun, zone_answers_iff hrun (by decide) (Or.inl rfl) (by decide)⟩

/-- Six pages fill the first zone, and the seventh makes the allocation index `candidatePositions` out of
bounds. -/
theorem zone_overflow :
    ¬ ∀ (runtimeConfig : RuntimeConfig) (signals : List Browser.Signal) (b : Browser)
        (url iconUrl uuid : String) (preferredPos flags : ℤ),
        Run.Steps BrowserStep (Browser.new runtimeConfig) signals b → uuid ∉ b.list →
        IsZone preferredPos → b.normalPageCount < MAX_TABS →
        ∃ b' resp, b.onNewWebTab url iconUrl preferredPos flags uuid = some (b', resp)
          ∧ (resp.result = .OK ↔ ZoneFree b preferredPos)
          ∧ (¬ ZoneFree b preferredPos → resp.result = .EXEC_ERROR ∧ b'.slots = b.slots) := by
  intro hall
  have hrun : Run.Steps BrowserStep (Browser.new {})
      [.NewWebTab "u" "" POS_BEGINNING 0 "a", .NewWebTab "u" "" POS_BEGINNING 0 "b",
        .NewWebTab "u" "" POS_BEGINNING 0 "c", .NewWebTab "u" "" POS_BEGINNING 0 "d",
        .NewWebTab "u" "" POS_BEGINNING 0 "e", .NewWebTab "u" "" POS_BEGINNING 0 "f"] _ :=
    .cons ⟨(by decide : ¬ _ ∈ _), _, rfl⟩ <| .cons ⟨(by decide : ¬ _ ∈ _), _, rfl⟩ <|
      .cons ⟨(by decide : ¬ _ ∈ _), _, rfl⟩ <| .cons ⟨(by decide : ¬ _ ∈ _), _, rfl⟩ <|
      .cons ⟨(by decide : ¬ _ ∈ _), _, rfl⟩ <| .cons ⟨(by decide : ¬ _ ∈ _), _, rfl⟩ <| .nil _
  obtain ⟨b', resp, hexec, -⟩ := hall _ _ _ "u" "" "g" POS_BEGINNING 0 hrun (by decide) (Or.inl rfl)
    (by decide)
  cases hexec

end NewPage

end OpenMadt.Gui
