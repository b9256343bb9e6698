import Mathlib.Data.List.Pairwise
import OpenMadt.TabBar
import OpenMadt.ZonePacking

/-!
# The order within a zone

Pages of zones are created and navigated in all kinds of orders.  Each such step packs one zone and
leaves the other pages alone, so that in the end it does not matter how the pages got there.

* `zoneStep_spec` — what creating or navigating one page does to its zone and to all other pages.
* `repacked_of_steps` — what a run of such steps does.
* `Repacked.slots_eq` — the layout is determined by the pages, by the zones that were packed and by the
  rest.
* `zones_packed` — the canonical layout, in every reachable state.
-/

namespace OpenMadt.Gui

open Assignment

/-! ### Creating and navigating -/

/-- The page that a signal places. -/
def Browser.Signal.placed : Browser.Signal → Option String
  | .NewWebTab _ _ _ _ uuid => some uuid
  | .NavigateTo uuid _ => some uuid
  | _ => none

/-- The signal places a page with the preference `zone`. -/
def Places (b : Browser) (zone : ℤ) : Browser.Signal → Prop
  | .NewWebTab _ _ preferredPos _ _ => preferredPos = zone
  | .NavigateTo uuid _ => ∃ p, b.list[uuid]? = some p ∧ p.preferredPos = zone
  | _ => False

/-- A page with a preference for a zone is created or navigated, and the answer is OK. -/
def ZoneStep (b : Browser) (signal : Browser.Signal) (b' : Browser) : Prop :=
  Fresh b signal ∧ (∃ zone, IsZone zone ∧ Places b zone signal)
    ∧ ∃ resp, b.exec signal = some (b', resp) ∧ resp.result = .OK

theorem ZoneStep.browserStep {b b' : Browser} {signal : Browser.Signal} (h : ZoneStep b signal b') :
    BrowserStep b signal b' := by
  obtain ⟨hfresh, -, resp, hexec, -⟩ := h
  exact ⟨hfresh, resp, hexec⟩

/-- What a step does to a zone and to everybody else: the page `uuid` has this address now. -/
structure ZonePlaced (b b' : Browser) (zone : ℤ) (uuid url : String) : Prop where
  packed : Packed b' zone
  others : ∀ id v, v.2.preferredPos ≠ zone → (b'.view id = some v ↔ b.view id = some v)
  pages : ∀ id, b'.pageOf id = if uuid = id then some (url, zone) else b.pageOf id
  own : ∀ v, b.view uuid = some v → v.2.preferredPos = zone

theorem pageOf_setPositions (b : Browser) (moves : List (String × ℤ)) (id : String) :
    (b.setPositions moves).pageOf id = b.pageOf id := by
  have h := congrArg (Option.map fun p : BrowserPage => (p.url, p.preferredPos))
    ((b.repositioned_setPositions moves).pages id)
  rw [Option.map_map, Option.map_map] at h
  exact h

/-- The moves of the canonical form, and a change of the display. -/
theorem zonePlaced_zoneMoves {b b' : Browser} {zone : ℤ} (hb : b.Named) (hb' : b'.Named)
    (hroom : (pagesOfZone b zone).length ≤ (openPositions b zone).length)
    (hview : ∀ id, b'.view id = (b.setPositions (zoneMoves b zone)).view id) :
    Packed b' zone ∧ (∀ id v, v.2.preferredPos ≠ zone → (b'.view id = some v ↔ b.view id = some v))
      ∧ ∀ id, b'.pageOf id = b.pageOf id := by
  have hmoved := b.repositioned_setPositions (zoneMoves b zone)
  have hpages : ∀ id, b'.pageOf id = b.pageOf id := fun id => by
    rw [pageOf_eq_map_view, hview, ← pageOf_eq_map_view, pageOf_setPositions]
  have hslots : ∀ id, b'.slots id = (b.setPositions (zoneMoves b zone)).slots id := fun id => by
    rw [slots_eq_map_view, slots_eq_map_view, hview]
  refine ⟨packed_of_view (named_of_repositioned hmoved hb) hb' hview (packed_zoneMoves hb hroom), ?_, hpages⟩
  -- a page of another zone keeps its address and its slot
  intro id v hne
  rw [view_eq_some_iff_slots, view_eq_some_iff_slots, hpages, hslots, others_zoneMoves hb hroom hne]

theorem view_setIndex (b : Browser) (page : String) (index : ℤ) (id : String) :
    (b.modifyPage page fun p => { p with index := index }).view id = b.view id := by
  rw [Browser.view, Browser.list_modifyPage]
  split
  · rw [Option.map_map]
    rfl
  · rfl

theorem view_showNewTab (b : Browser) (uuid id : String) : (b.showNewTab uuid).view id = b.view id := by
  have hsync : ({ b with tabs := (b.tabs.addTab uuid "").1 }.modifyPage uuid
      fun p => { p with index := (b.tabs.addTab uuid "").2 }).syncTabOrder.view id = b.view id :=
    ((Browser.redisplayed_syncTabOrder _).view id).trans (view_setIndex _ uuid _ id)
  unfold Browser.showNewTab
  dsimp only
  split
  · exact (view_setIndex _ uuid _ id).trans hsync
  · exact hsync

theorem view_renamed (b : Browser) (uuid url id : String) :
    (b.renamed uuid url).view id
      = if uuid = id then (b.view uuid).map fun v => (url, v.2) else b.view id := by
  rw [Browser.renamed, (Browser.redisplayed_applyPageLabel _ uuid).view, Browser.view,
    Browser.list_modifyPage]
  split
  next hid =>
    rw [Browser.view, hid, Option.map_map, Option.map_map]
    rfl
  next => rfl

theorem view_withNewPage (b : Browser) (url iconUrl : String) (preferredPos flags : ℤ) (uuid id : String) :
    (withNewPage b url iconUrl preferredPos flags uuid).view id
      = if uuid = id then some (url, ⟨preferredPos, -1⟩) else b.view id := by
  rw [Browser.view, Browser.view, StdMap.getElem?_insert]
  split <;> rfl

/-- One page appears or gets an address, and then its zone is packed. -/
theorem zonePlaced_of_view {b b₁ b' : Browser} {zone : ℤ} {uuid : String} (new : String × Slot)
    (hview : ∀ id, b₁.view id = if uuid = id then some new else b.view id) (hnew : new.2.preferredPos = zone)
    (hold : ∀ v, b.view uuid = some v → v.2.preferredPos = zone)
    (hmoves : Packed b' zone ∧ (∀ id v, v.2.preferredPos ≠ zone → (b'.view id = some v ↔ b₁.view id = some v))
      ∧ ∀ id, b'.pageOf id = b₁.pageOf id) : ZonePlaced b b' zone uuid new.1 := by
  obtain ⟨hpacked, hrest, hsame⟩ := hmoves
  refine ⟨hpacked, fun id v hne => ?_, fun id => ?_, hold⟩
  · rw [hrest id v hne, hview]
    split
    next hid =>
      subst hid
      refine iff_of_false (fun heq => hne ?_) (fun hv => hne (hold v hv))
      rw [← Option.some.inj heq, hnew]
    next => rfl
  · rw [hsame, pageOf_eq_map_view, pageOf_eq_map_view, hview]
    split
    next => rw [Option.map_some, hnew]
    next => rfl

/-- A new page for a zone. -/
theorem zonePlaced_onNewWebTab {b b' : Browser} {url iconUrl uuid : String} {preferredPos flags : ℤ}
    {resp : CmdResponse} (hlaid : WellLaid b) (hb : b.TabBar) (hb' : b'.Named) (hfresh : uuid ∉ b.list)
    (hzone : IsZone preferredPos)
    (h : b.onNewWebTab url iconUrl preferredPos flags uuid = some (b', resp)) (hok : resp.result = .OK) :
    ZonePlaced b b' preferredPos uuid url := by
  have hroom : b.normalPageCount < MAX_TABS := by
    by_contra hfull
    rw [onNewWebTab_of_full (ne_extra_of_isZone hzone) (by omega)] at h
    obtain ⟨-, rfl⟩ := Prod.mk.inj (Option.some.inj h)
    cases hok
  obtain ⟨L, hL⟩ := hlaid
  have hlist : (withNewPage b url iconUrl preferredPos flags uuid).list[uuid]?
      = some (Browser.newPage url iconUrl preferredPos flags uuid) := by simp
  have hslots : (withNewPage b url iconUrl preferredPos flags uuid).slots
      = Function.update L.slots uuid (some ⟨preferredPos, -1⟩) := by
    rw [Browser.slots_insert, hL]
    rfl
  have hnamed : (withNewPage b url iconUrl preferredPos flags uuid).Named :=
    Browser.named_insert hb.refreshed.populated.named (Browser.newPage url iconUrl preferredPos flags uuid)
  have hdistinct : Distinct (positions (withNewPage b url iconUrl preferredPos flags uuid).slots) := by
    rw [hslots]
    exact distinct_of_new uuid rfl
  have hothers : OthersPlaced (withNewPage b url iconUrl preferredPos flags uuid) uuid := by
    intro id s hne hs
    rw [hslots, Function.update_of_ne hne] at hs
    exact L.wellPlaced hs
  rw [onNewWebTab_of_room (ne_extra_of_isZone hzone) hroom, allocateLogicalPosition_zone hroom hzone] at h
  cases hplaced : (withNewPage b url iconUrl preferredPos flags uuid).allocateZonePosition uuid
      preferredPos with
  | none => rw [hplaced] at h; cases h
  | some result =>
    obtain ⟨b₁, allocated⟩ := result
    rw [hplaced] at h
    rcases allocateZonePosition_eq_zoneMoves hnamed hdistinct hothers hlist rfl hzone hplaced with
      ⟨-, rfl, -⟩ | ⟨hpages, rfl, rfl⟩
    · obtain ⟨-, rfl⟩ := Prod.mk.inj (Option.some.inj h)
      cases hok
    · obtain ⟨rfl, -⟩ := Prod.mk.inj (Option.some.inj h)
      have hnone : b.view uuid = none := by
        rw [Browser.view, Std.ExtTreeMap.getElem?_eq_none hfresh]
        rfl
      refine zonePlaced_of_view (url, ⟨preferredPos, -1⟩)
        (view_withNewPage b url iconUrl preferredPos flags uuid) rfl (fun v hv => ?_)
        (zonePlaced_zoneMoves hnamed hb' hpages fun id => view_showNewTab _ uuid id)
      rw [hnone] at hv
      cases hv

/-- A page of a zone gets a new address. -/
theorem zonePlaced_onNavigateTo {b b' : Browser} {uuid url : String} {p : BrowserPage} {resp : CmdResponse}
    (hlaid : WellLaid b) (hb : b.TabBar) (hb' : b'.Named) (hp : b.list[uuid]? = some p)
    (hzone : IsZone p.preferredPos) (h : b.onNavigateTo uuid url = some (b', resp)) :
    ZonePlaced b b' p.preferredPos uuid url := by
  obtain ⟨L, hL⟩ := hlaid.frame (b.frame_renamed uuid url)
  have hnamed : (b.renamed uuid url).Named := (hb.renamed uuid url).refreshed.populated.named
  have hview := view_renamed b uuid url
  obtain ⟨q, hq, hslot⟩ : ∃ q, (b.renamed uuid url).list[uuid]? = some q ∧ q.slot = p.slot := by
    rw [← Browser.slots_eq_some_iff, (b.frame_renamed uuid url).slots]
    exact Browser.slots_eq_some_iff.mpr ⟨p, hp, rfl⟩
  have hpref : q.preferredPos = p.preferredPos := congrArg Slot.preferredPos hslot
  have hdistinct : Distinct (positions (b.renamed uuid url).slots) := hL ▸ L.distinct
  have hothers : OthersPlaced (b.renamed uuid url) uuid := fun _ hs => L.wellPlaced (hL ▸ hs)
  have hextra : isExtraPage p = false := decide_eq_false (ne_extra_of_isZone hzone)
  have hrenamed : (b.modifyPage uuid fun p => { p with url := url }).applyPageLabel uuid
      = b.renamed uuid url := rfl
  unfold Browser.onNavigateTo at h
  simp only [hp] at h
  rw [if_neg (by rw [hextra]; exact Bool.false_ne_true),
    if_pos (show p.preferredPos = POS_BEGINNING ∨ p.preferredPos = POS_MIDDLE ∨
      p.preferredPos = POS_END from hzone)] at h
  cases hplaced : (b.renamed uuid url).allocateZonePosition uuid p.preferredPos with
  | none =>
    rw [hrenamed, hplaced] at h
    cases h
  | some result =>
    obtain ⟨b₂, allocated⟩ := result
    rw [hrenamed, hplaced] at h
    obtain ⟨rfl, -⟩ := Prod.mk.inj (Option.some.inj h)
    rcases allocateZonePosition_eq_zoneMoves hnamed hdistinct hothers hq hpref hzone hplaced with
      ⟨hnone, -, -⟩ | ⟨hpages, rfl, rfl⟩
    · -- the page's own position is open
      have hplace := (L.wellPlaced (hL ▸ Browser.slots_eq_some_iff.mpr ⟨q, hq, rfl⟩)).zone
        (show IsZone q.preferredPos from hpref.symm ▸ hzone)
      have hown : q.logicalPos ∈ openPositions (b.renamed uuid url) p.preferredPos := by
        refine mem_openPositions.mpr ⟨hpref ▸ hplace, fun id r hr hpos => ?_⟩
        by_cases hrextra : r.preferredPos = POS_EXTRA
        · have hrpos : r.logicalPos = POS_EXTRA :=
            (L.wellPlaced (hL ▸ Browser.slots_eq_some_iff.mpr ⟨r, hr, rfl⟩)).extra hrextra
          have hlow := (zone_bounds hzone).1
          have hqlow : zoneStart p.preferredPos ≤ q.logicalPos := hpref ▸ hplace.1
          have : POS_EXTRA = -10 := rfl
          omega
        · have hheld := positions_of_page hq (hpref ▸ ne_extra_of_isZone hzone)
          have hheld' := positions_of_page hr hrextra
          obtain rfl : id = uuid := hdistinct (hpos ▸ hheld') hheld
          rw [Option.some.inj (hr.symm.trans hq), hpref]
      rw [hnone] at hown
      cases hown
    · have hold : b.view uuid = some (p.url, p.slot) := view_eq_some_iff.mpr ⟨p, hp, rfl⟩
      rw [hold] at hview
      refine zonePlaced_of_view (url, p.slot) hview rfl (fun v hv => ?_)
        (zonePlaced_zoneMoves hnamed hb' hpages fun id => (Browser.redisplayed_syncTabOrder _).view id)
      rw [hold] at hv
      rw [← Option.some.inj hv]
      rfl

/-- The zone of a step is the one its page prefers. -/
theorem Places.eq {b : Browser} {zone zone' : ℤ} {signal : Browser.Signal} (h : Places b zone signal)
    (h' : Places b zone' signal) : zone = zone' := by
  cases signal with
  | NewWebTab url iconUrl preferredPos flags uuid => exact h.symm.trans h'
  | NavigateTo uuid url =>
    obtain ⟨p, hp, rfl⟩ := h
    obtain ⟨q, hq, rfl⟩ := h'
    rw [Option.some.inj (hp.symm.trans hq)]
  | _ => exact h.elim

/-- What a signal makes of the address and the preference of a page. -/
def Browser.Signal.pageAfter (id : String) (page : Option (String × ℤ)) :
    Browser.Signal → Option (String × ℤ)
  | .NewWebTab url _ preferredPos _ uuid => if uuid = id then some (url, preferredPos) else page
  | .NavigateTo uuid url => if uuid = id then page.map fun p => (url, p.2) else page
  | _ => page

/-- **The step lemma**: creating or navigating a page packs its zone, and changes no other page. -/
theorem zoneStep_spec {b b' : Browser} {signal : Browser.Signal} {zone : ℤ} (hb : Displayed b)
    (h : ZoneStep b signal b') (hplaces : Places b zone signal) :
    IsZone zone ∧ ∃ uuid url, signal.placed = some uuid ∧ ZonePlaced b b' zone uuid url
      ∧ ∀ id, b'.pageOf id = signal.pageAfter id (b.pageOf id) := by
  obtain ⟨hfresh, ⟨zone', hzone, hplaces'⟩, resp, hexec, hok⟩ := h
  obtain rfl := hplaces.eq hplaces'
  have hb' : b'.Named := (displayed_exec hb hfresh hexec).tabBar.refreshed.populated.named
  cases signal with
  | NewWebTab url iconUrl preferredPos flags uuid =>
    obtain rfl : preferredPos = zone := hplaces
    have hplaced := zonePlaced_onNewWebTab hb.laid hb.tabBar hb' hfresh hzone hexec hok
    exact ⟨hzone, uuid, url, rfl, hplaced, hplaced.pages⟩
  | NavigateTo uuid url =>
    obtain ⟨p, hp, rfl⟩ := hplaces
    have hplaced := zonePlaced_onNavigateTo hb.laid hb.tabBar hb' hp hzone hexec
    refine ⟨hzone, uuid, url, rfl, hplaced, fun id => ?_⟩
    rw [hplaced.pages, Browser.Signal.pageAfter]
    split
    next hid =>
      subst hid
      rw [Browser.pageOf, hp]
      rfl
    next => rfl
  | _ => exact hplaces.elim

/-! ### Runs -/

/-- What creating and navigating pages has done: these zones are packed, and all pages with other
preferences are as they were at first. -/
structure Repacked (b₀ : Browser) (zones : Set ℤ) (b : Browser) : Prop where
  displayed : Displayed b
  isZone : ∀ zone ∈ zones, IsZone zone
  packed : ∀ zone ∈ zones, Packed b zone
  rest : ∀ id v, v.2.preferredPos ∉ zones → (b.view id = some v ↔ b₀.view id = some v)

section Repacked

variable {b₀ b b' : Browser} {zones : Set ℤ} {zone : ℤ}

/-- A page of a zone is at one of its positions. -/
theorem Displayed.inZone (hb : Displayed b) {id : String} {s : Slot} (hs : b.slots id = some s)
    (hzone : IsZone s.preferredPos) :
    zoneStart s.preferredPos ≤ s.logicalPos ∧ s.logicalPos ≤ zoneEnd s.preferredPos := by
  obtain ⟨L, hL⟩ := hb.laid
  exact (L.wellPlaced (hL ▸ hs)).zone hzone

/-- The open positions of a zone depend on the pages without a zone, and on those of unpacked zones. -/
theorem openPositions_of_rest (hb : Displayed b) (hb' : Displayed b') (hzones : ∀ z ∈ zones, IsZone z)
    (hzone : IsZone zone)
    (hrest : ∀ id s, s.preferredPos ∉ zones → (b'.slots id = some s ↔ b.slots id = some s)) :
    openPositions b' zone = openPositions b zone := by
  have hheld : ∀ {b b' : Browser}, Displayed b →
      (∀ id s, s.preferredPos ∉ zones → (b'.slots id = some s ↔ b.slots id = some s)) →
      ∀ pos, zoneStart zone ≤ pos → pos ≤ zoneEnd zone →
        (∃ id s, b.slots id = some s ∧ s.logicalPos = pos ∧ s.preferredPos ≠ zone) →
        ∃ id s, b'.slots id = some s ∧ s.logicalPos = pos ∧ s.preferredPos ≠ zone := by
    rintro b b' hb hrest pos hlo hhi ⟨id, s, hs, rfl, hne⟩
    by_cases hmem : s.preferredPos ∈ zones
    · -- a page of another zone holds a position of its own zone
      have hother := hb.inZone hs (hzones _ hmem)
      exact absurd hother (zones_disjoint hzone (hzones _ hmem) (Ne.symm hne) ⟨hlo, hhi⟩)
    · exact ⟨id, s, (hrest id s hmem).mpr hs, rfl, hne⟩
  refine openPositions_congr fun pos hlo hhi => ⟨hheld hb' ?_ pos hlo hhi, hheld hb hrest pos hlo hhi⟩
  exact fun id s hmem => (hrest id s hmem).symm

/-- Slots are part of the view. -/
theorem slots_of_view (P : ℤ → Prop)
    (h : ∀ id v, P v.2.preferredPos → (b'.view id = some v ↔ b.view id = some v)) {id : String} {s : Slot}
    (hs : P s.preferredPos) : b'.slots id = some s ↔ b.slots id = some s := by
  rw [slots_eq_map_view, slots_eq_map_view, Option.map_eq_some_iff, Option.map_eq_some_iff]
  constructor
  · rintro ⟨v, hv, rfl⟩
    exact ⟨v, (h id v hs).mp hv, rfl⟩
  · rintro ⟨v, hv, rfl⟩
    exact ⟨v, (h id v hs).mpr hv, rfl⟩

/-- One more step. -/
theorem Repacked.step {uuid url : String} (h : Repacked b₀ zones b) (hb' : Displayed b') (hzone : IsZone zone)
    (hplaced : ZonePlaced b b' zone uuid url) : Repacked b₀ (insert zone zones) b' := by
  have hothers : ∀ id s, s.preferredPos ∉ ({zone} : Set ℤ) → (b'.slots id = some s ↔ b.slots id = some s) :=
    fun _ _ hne => slots_of_view (fun z => z ≠ zone) hplaced.others (Set.mem_singleton_iff.not.mp hne)
  refine ⟨hb', ?_, ?_, ?_⟩
  · rintro z (rfl | hz)
    · exact hzone
    · exact h.isZone z hz
  · intro z hz
    by_cases hne : z = zone
    · rw [hne]
      exact hplaced.packed
    · have hz : z ∈ zones := hz.resolve_left hne
      refine packed_congr h.displayed.tabBar.refreshed.populated.named hb'.tabBar.refreshed.populated.named
        (fun id v hv => hplaced.others id v (hv ▸ hne)) ?_ (h.packed z hz)
      exact openPositions_of_rest h.displayed hb' (by rintro _ rfl; exact hzone) (h.isZone z hz) hothers
  · intro id v hv
    rw [Set.mem_insert_iff, not_or] at hv
    rw [hplaced.others id v hv.1, h.rest id v hv.2]

/-- The pages are the same, at whatever positions. -/
def SamePages (b b' : Browser) : Prop := ∀ id, b.pageOf id = b'.pageOf id

/-- The pages of a zone, in their order, do not depend on the positions. -/
theorem map_orderKey_of_samePages (hb : b.Named) (hb' : b'.Named) (h : SamePages b b') :
    (pagesOfZone b zone).map orderKey = (pagesOfZone b' zone).map orderKey := by
  have hread : ∀ {b : Browser}, b.Named → ∀ key, (∃ (id : String) (p : BrowserPage),
      b.list[id]? = some p ∧ p.preferredPos = zone ∧ orderKey p = key)
      ↔ ∃ id q, b.pageOf id = some q ∧ q.2 = zone ∧ toLex (q.1, id) = key := by
    intro b hb key
    constructor
    · rintro ⟨id, p, hp, hpref, rfl⟩
      exact ⟨id, (p.url, p.preferredPos), by rw [Browser.pageOf, hp]; rfl, hpref, by rw [orderKey, hb hp]⟩
    · rintro ⟨id, q, hq, hpref, rfl⟩
      obtain ⟨p, hp, rfl⟩ := Option.map_eq_some_iff.mp hq
      exact ⟨id, p, hp, hpref, by rw [orderKey, hb hp]⟩
  refine map_pagesOfZone_congr hb' hb id (fun _ => rfl) fun key => ?_
  rw [hread hb, hread hb']
  simp only [h _]

/-- Packed zones with the same pages and the same open positions are the same. -/
theorem slots_of_packed (hb : b.Named) (hb' : b'.Named) (hpages : SamePages b b')
    (hopen : openPositions b zone = openPositions b' zone) (h : Packed b zone) (h' : Packed b' zone)
    {id : String} {s s' : Slot} (hs : b.slots id = some s) (hs' : b'.slots id = some s')
    (hpref : s.preferredPos = zone) (hpref' : s'.preferredPos = zone) : s = s' := by
  have hkeys : (pagesOfZone b zone).map orderKey = (pagesOfZone b' zone).map orderKey :=
    map_orderKey_of_samePages hb hb' hpages
  have hlength := congrArg List.length hkeys
  rw [List.length_map, List.length_map] at hlength
  have hpos : (pagesOfZone b zone).map BrowserPage.logicalPos
      = (pagesOfZone b' zone).map BrowserPage.logicalPos := by
    rw [show _ = _ from h, show _ = _ from h', hopen, hlength]
  have hboth : (pagesOfZone b zone).map (fun p => (orderKey p, p.logicalPos))
      = (pagesOfZone b' zone).map fun p => (orderKey p, p.logicalPos) := by
    rw [← List.zip_map', ← List.zip_map', hkeys, hpos]
  obtain ⟨p, hp, rfl⟩ := Browser.slots_eq_some_iff.mp hs
  obtain ⟨p', hp', rfl⟩ := Browser.slots_eq_some_iff.mp hs'
  have hmem : p ∈ pagesOfZone b zone := (mem_pagesOfZone hb).mpr ⟨(hb hp).symm ▸ hp, hpref⟩
  have hmem' : (orderKey p, p.logicalPos) ∈ (pagesOfZone b' zone).map fun p => (orderKey p, p.logicalPos) :=
    hboth ▸ List.mem_map.mpr ⟨p, hmem, rfl⟩
  obtain ⟨q, hq, heq⟩ := List.mem_map.mp hmem'
  obtain ⟨hkey, hqpos⟩ := Prod.mk.inj heq
  have huuid : q.uuid = id := (Prod.mk.inj (toLex.injective hkey)).2.trans (hb hp)
  have hqp' : q = p' := by
    have hlist := ((mem_pagesOfZone hb').mp hq).1
    rw [huuid, hp'] at hlist
    exact (Option.some.inj hlist).symm
  rw [hqp'] at hqpos
  have hslot : ∀ r : BrowserPage, r.slot = ⟨r.preferredPos, r.logicalPos⟩ := fun _ => rfl
  have hpref : p.preferredPos = zone := hpref
  have hpref' : p'.preferredPos = zone := hpref'
  rw [hslot, hslot, hpref, hpref', hqpos]

/-- **The layout is determined** by the pages, by which zones were packed, and by the rest. -/
theorem Repacked.slots_eq (h : Repacked b₀ zones b) (h' : Repacked b₀ zones b') (hpages : SamePages b b') :
    b.slots = b'.slots := by
  have hnamed := h.displayed.tabBar.refreshed.populated.named
  have hnamed' := h'.displayed.tabBar.refreshed.populated.named
  have hrest : ∀ id v, v.2.preferredPos ∉ zones → (b.view id = some v ↔ b'.view id = some v) :=
    fun id v hv => (h.rest id v hv).trans (h'.rest id v hv).symm
  funext id
  have hpage := hpages id
  rw [pageOf_eq_map_view, pageOf_eq_map_view] at hpage
  cases hv : b.view id with
  | none =>
    rw [hv, Option.map_none, eq_comm, Option.map_eq_none_iff] at hpage
    rw [slots_eq_map_view, slots_eq_map_view, hv, hpage]
  | some v =>
    by_cases hmem : v.2.preferredPos ∈ zones
    · rw [hv, Option.map_some, eq_comm, Option.map_eq_some_iff] at hpage
      obtain ⟨v', hv', heq⟩ := hpage
      have hpref : v'.2.preferredPos = v.2.preferredPos := (Prod.mk.inj heq).2
      have hopen : openPositions b v.2.preferredPos = openPositions b' v.2.preferredPos :=
        openPositions_of_rest h'.displayed h.displayed h.isZone (h.isZone _ hmem)
          fun id s hs => slots_of_view (fun z => z ∉ zones) hrest hs
      have hs : b.slots id = some v.2 := by rw [slots_eq_map_view, hv]; rfl
      have hs' : b'.slots id = some v'.2 := by rw [slots_eq_map_view, hv']; rfl
      rw [hs, hs', slots_of_packed hnamed hnamed' hpages hopen (h.packed _ hmem) (h'.packed _ hmem) hs hs'
        rfl hpref]
    · rw [slots_eq_map_view, slots_eq_map_view, hv, (hrest id v hmem).mp hv]

end Repacked

/-- The zones of the pages with these ids. -/
def zonesOf (b : Browser) (ids : List String) : Set ℤ :=
  {zone | ∃ id ∈ ids, ∃ url, b.pageOf id = some (url, zone)}

theorem zonesOf_step {b b' : Browser} {zone : ℤ} {uuid url : String} (h : ZonePlaced b b' zone uuid url)
    (ids : List String) : zonesOf b' (ids ++ [uuid]) = insert zone (zonesOf b ids) := by
  have hpages := h.pages
  ext z
  constructor
  · rintro ⟨id, hid, url', hpage⟩
    rw [hpages] at hpage
    split at hpage
    next => exact Or.inl (Prod.mk.inj (Option.some.inj hpage)).2.symm
    next hne =>
      rcases List.mem_append.mp hid with hid | hid
      · exact Or.inr ⟨id, hid, url', hpage⟩
      · exact absurd (List.mem_singleton.mp hid).symm hne
  · rintro (rfl | ⟨id, hid, url', hpage⟩)
    · exact ⟨uuid, by simp, url, by rw [hpages, if_pos rfl]⟩
    · by_cases hne : uuid = id
      · subst hne
        rw [pageOf_eq_map_view] at hpage
        obtain ⟨v, hv, heq⟩ := Option.map_eq_some_iff.mp hpage
        have hz : zone = z := (h.own v hv).symm.trans (Prod.mk.inj heq).2
        exact ⟨uuid, by simp, url, by rw [hpages, if_pos rfl, hz]⟩
      · exact ⟨id, List.mem_append_left _ hid, url', by rw [hpages, if_neg hne, hpage]⟩

/-- What a run of such steps does. -/
theorem repacked_of_steps {b₀ b : Browser} {signals : List Browser.Signal} (hb₀ : Displayed b₀)
    (h : Run.Steps ZoneStep b₀ signals b) :
    Repacked b₀ (zonesOf b (signals.filterMap Browser.Signal.placed)) b ∧
      ∀ id, b.pageOf id = signals.foldl (fun page signal => signal.pageAfter id page) (b₀.pageOf id) := by
  refine h.history (fun signals b => Repacked b₀ (zonesOf b (signals.filterMap Browser.Signal.placed)) b ∧
    ∀ id, b.pageOf id = signals.foldl (fun page signal => signal.pageAfter id page) (b₀.pageOf id)) ?_ ?_
  · rintro before b signal b' - ⟨hrepacked, hpages⟩ hstep
    obtain ⟨zone, -, hplaces⟩ := hstep.2.1
    obtain ⟨hzone, uuid, url, hid, hplaced, hafter⟩ := zoneStep_spec hrepacked.displayed hstep hplaces
    have hb' : Displayed b' := by
      obtain ⟨hfresh, resp, hexec⟩ := hstep.browserStep
      exact displayed_exec hrepacked.displayed hfresh hexec
    constructor
    · rw [List.filterMap_append, List.filterMap_cons, hid, List.filterMap_nil, zonesOf_step hplaced]
      exact hrepacked.step hb' hzone hplaced
    · intro id
      rw [hafter, hpages, List.foldl_append]
      rfl
  · refine ⟨⟨hb₀, ?_, ?_, fun _ _ _ => Iff.rfl⟩, fun _ => rfl⟩
    · rintro zone ⟨id, hid, -⟩
      cases hid
    · rintro zone ⟨id, hid, -⟩
      cases hid

/-- Two runs that place the same pages, with the same addresses in the end. -/
theorem slots_of_samePages {b₀ b b' : Browser} {signals signals' : List Browser.Signal} (hb₀ : Displayed b₀)
    (h : Run.Steps ZoneStep b₀ signals b) (h' : Run.Steps ZoneStep b₀ signals' b')
    (hids : ∀ id, id ∈ signals.filterMap Browser.Signal.placed ↔ id ∈ signals'.filterMap Browser.Signal.placed)
    (hpages : SamePages b b') : b.slots = b'.slots := by
  have hzones : zonesOf b (signals.filterMap Browser.Signal.placed)
      = zonesOf b' (signals'.filterMap Browser.Signal.placed) := by
    ext zone
    simp only [zonesOf, Set.mem_ofPred_eq, hids, hpages _]
  have hrepacked := (repacked_of_steps hb₀ h).1
  rw [hzones] at hrepacked
  exact hrepacked.slots_eq (repacked_of_steps hb₀ h').1 hpages

/-- Signals about different pages commute. -/
theorem pageAfter_comm {signal signal' : Browser.Signal} (hne : signal.placed ≠ signal'.placed) (id : String)
    (page : Option (String × ℤ)) :
    signal'.pageAfter id (signal.pageAfter id page) = signal.pageAfter id (signal'.pageAfter id page) := by
  have hother : ∀ {signal : Browser.Signal}, signal.placed ≠ some id → ∀ page, signal.pageAfter id page = page := by
    intro signal h page
    cases signal with
    | NewWebTab url iconUrl preferredPos flags uuid => exact if_neg fun heq => h (congrArg some heq)
    | NavigateTo uuid url => exact if_neg fun heq => h (congrArg some heq)
    | _ => rfl
  by_cases h : signal.placed = some id
  · have h' : signal'.placed ≠ some id := fun heq => hne (h.trans heq.symm)
    rw [hother h', hother h']
  · rw [hother h, hother h]

/-- The same signals in any order, at most one for each page. -/
theorem samePages_of_perm {b₀ b b' : Browser} {signals signals' : List Browser.Signal} (hb₀ : Displayed b₀)
    (h : Run.Steps ZoneStep b₀ signals b) (h' : Run.Steps ZoneStep b₀ signals' b')
    (hperm : signals.Perm signals')
    (hdistinct : signals.Pairwise fun signal signal' => signal.placed ≠ signal'.placed) : SamePages b b' := by
  intro id
  rw [(repacked_of_steps hb₀ h).2, (repacked_of_steps hb₀ h').2]
  refine hperm.foldl_eq' (fun signal hsignal signal' hsignal' page => ?_) _
  by_cases heq : signal = signal'
  · rw [heq]
  · have : Std.Symm fun signal signal' : Browser.Signal => signal.placed ≠ signal'.placed :=
      ⟨fun _ _ hne => hne.symm⟩
    exact pageAfter_comm (hdistinct.forall hsignal hsignal' heq) id page

/-- **The layout of a zone is canonical**: in every reachable state, creating or navigating a page of a
zone puts the pages of this zone, in the order of their addresses, at the outermost positions that other
pages leave free, and moves no other page.  Creating and navigating pages of zones in two ways, or in
two orders, with the same pages in the end, therefore gives the same layout. -/
theorem zones_packed {runtimeConfig : RuntimeConfig} {signals : List Browser.Signal} {b : Browser}
    (hrun : Run.Steps BrowserStep (Browser.new runtimeConfig) signals b) :
    (∀ signal zone b', Places b zone signal → ZoneStep b signal b' →
      Packed b' zone ∧ ∀ id s, s.preferredPos ≠ zone → (b'.slots id = some s ↔ b.slots id = some s)) ∧
    (∀ signals₁ signals₂ b₁ b₂, Run.Steps ZoneStep b signals₁ b₁ → Run.Steps ZoneStep b signals₂ b₂ →
      (∀ id, id ∈ signals₁.filterMap Browser.Signal.placed ↔ id ∈ signals₂.filterMap Browser.Signal.placed) →
      SamePages b₁ b₂ → b₁.slots = b₂.slots) ∧
    ∀ signals₁ signals₂ b₁ b₂, Run.Steps ZoneStep b signals₁ b₁ → Run.Steps ZoneStep b signals₂ b₂ →
      signals₁.Perm signals₂ → (signals₁.Pairwise fun signal signal' => signal.placed ≠ signal'.placed) →
      SamePages b₁ b₂ ∧ b₁.slots = b₂.slots := by
  obtain ⟨hlaid, htabBar, -⟩ := tabBar_of_steps hrun
  have hb : Displayed b := ⟨hlaid, htabBar⟩
  refine ⟨fun signal zone b' hplaces hstep => ?_, fun _ _ _ _ h₁ h₂ hids hpages => ?_,
    fun _ _ _ _ h₁ h₂ hperm hdistinct => ?_⟩
  · obtain ⟨-, uuid, url, -, hplaced, -⟩ := zoneStep_spec hb hstep hplaces
    exact ⟨hplaced.packed, fun id s hs => slots_of_view (fun z => z ≠ zone) hplaced.others hs⟩
  · exact slots_of_samePages hb h₁ h₂ hids hpages
  · have hpages := samePages_of_perm hb h₁ h₂ hperm hdistinct
    refine ⟨hpages, slots_of_samePages hb h₁ h₂ (fun id => ?_) hpages⟩
    exact (hperm.filterMap Browser.Signal.placed).mem_iff

/-- A page without a preference is in the way at the first position of the zone, and two pages of the
zone arrive in either order. -/
theorem zones_packed_swapped : ∃ b b₁ b₂,
    Run.Steps BrowserStep (Browser.new {}) [.NewWebTab "p" "" (-1) 0 "park"] b ∧
      Run.Steps ZoneStep b [.NewWebTab "y" "" POS_BEGINNING 0 "a", .NewWebTab "x" "" POS_BEGINNING 0 "b"] b₁ ∧
      Run.Steps ZoneStep b [.NewWebTab "x" "" POS_BEGINNING 0 "b", .NewWebTab "y" "" POS_BEGINNING 0 "a"] b₂ ∧
      b₁.slots "a" = some ⟨POS_BEGINNING, 2⟩ ∧ Packed b₁ POS_BEGINNING ∧ b₁.slots = b₂.slots := by
  have hrun : Run.Steps BrowserStep (Browser.new {}) [.NewWebTab "p" "" (-1) 0 "park"] _ :=
    .cons ⟨(by decide : ¬ _ ∈ _), _, rfl⟩ (.nil _)
  obtain ⟨hstep, hordered, hperm⟩ := zones_packed hrun
  have hzone : IsZone POS_BEGINNING := Or.inl rfl
  have hya : ∀ {b b' resp}, b.exec (.NewWebTab "y" "" POS_BEGINNING 0 "a") = some (b', resp) →
      "a" ∉ b.list → resp.result = .OK → ZoneStep b (.NewWebTab "y" "" POS_BEGINNING 0 "a") b' :=
    fun hexec hfresh hok => ⟨hfresh, ⟨_, hzone, rfl⟩, _, hexec, hok⟩
  have hxb : ∀ {b b' resp}, b.exec (.NewWebTab "x" "" POS_BEGINNING 0 "b") = some (b', resp) →
      "b" ∉ b.list → resp.result = .OK → ZoneStep b (.NewWebTab "x" "" POS_BEGINNING 0 "b") b' :=
    fun hexec hfresh hok => ⟨hfresh, ⟨_, hzone, rfl⟩, _, hexec, hok⟩
  suffices hboth : ∃ b₁ b₂, Run.Steps ZoneStep _
        [.NewWebTab "y" "" POS_BEGINNING 0 "a", .NewWebTab "x" "" POS_BEGINNING 0 "b"] b₁ ∧
      Run.Steps ZoneStep _
        [.NewWebTab "x" "" POS_BEGINNING 0 "b", .NewWebTab "y" "" POS_BEGINNING 0 "a"] b₂ ∧
      b₁.slots "a" = some ⟨POS_BEGINNING, 2⟩ ∧ Packed b₁ POS_BEGINNING by
    obtain ⟨b₁, b₂, h₁, h₂, hslot, hpacked⟩ := hboth
    have hsame := (hperm _ _ _ _ h₁ h₂ (List.Perm.swap _ _ _) (by decide)).2
    exact ⟨_, b₁, b₂, hrun, h₁, h₂, hslot, hpacked, hsame⟩
  exact ⟨_, _, .cons (hya rfl (by decide) rfl) (.cons (hxb rfl (by decide) rfl) (.nil _)),
    .cons (hxb rfl (by decide) rfl) (.cons (hya rfl (by decide) rfl) (.nil _)), rfl, by decide⟩

end OpenMadt.Gui
