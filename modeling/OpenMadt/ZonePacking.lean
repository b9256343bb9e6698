import OpenMadt.Placement
import OpenMadt.TabBar

/-!
# The canonical form of a zone

After `allocateZonePosition` a zone has a canonical form, whatever happened before: its pages, in the
order of their addresses, are at the outermost positions that other pages leave free.

* `Packed` — the canonical form.
* `allocateZonePosition_eq_zoneMoves` — from any mixture of old, own and free positions the allocation
  makes the same moves, and `packed_zoneMoves` — these moves lead to the canonical form.
* `packed_congr` — the form depends on the pages of the zone and on the open positions only.
-/

namespace OpenMadt.Gui

open Assignment

/-! ### Sorted lists -/

/-- A strictly sorted list is determined by its members. -/
theorem eq_of_pairwise_of_mem_iff {α : Type} {r : α → α → Prop} (hasymm : ∀ a b, r a b → ¬ r b a)
    {xs ys : List α} (hxs : xs.Pairwise r) (hys : ys.Pairwise r) (h : ∀ a, a ∈ xs ↔ a ∈ ys) : xs = ys := by
  have hnodup : ∀ {zs : List α}, zs.Pairwise r → zs.Nodup := by
    intro zs hzs
    refine hzs.imp ?_
    rintro a _ hab rfl
    exact hasymm a a hab hab
  have hperm := (List.perm_ext_iff_of_nodup (hnodup hxs) (hnodup hys)).mpr h
  exact hperm.eq_of_pairwise (fun a b _ _ hab hba => absurd hba (hasymm a b hab)) hxs hys

/-- Sorting numbers that are all different. -/
theorem pairwise_sort_lt {xs : List ℤ} (h : xs.Nodup) : (sort (· < ·) xs).Pairwise (· < ·) := by
  have hsorted : (sort (· < ·) xs).Pairwise fun a b => a ≤ b := pairwise_sort_key (fun _ _ => Iff.rfl) xs
  have hnodup := (sort_perm (· < ·) xs).nodup_iff.mpr h
  exact (hsorted.and hnodup).imp fun hab => lt_of_le_of_ne hab.1 hab.2

/-- The place of a page in the order of `pageUrlLess`. -/
def orderKey (page : BrowserPage) : Lex (String × String) := toLex (page.url, page.uuid)

theorem pageUrlLess_iff (left right : BrowserPage) :
    pageUrlLess left right ↔ orderKey left < orderKey right := by
  rw [pageUrlLess, orderKey, orderKey, Prod.Lex.toLex_lt_toLex]
  split
  next hne => exact ⟨Or.inl, fun h => h.resolve_right fun heq => hne heq.1⟩
  next heq =>
    refine ⟨fun h => Or.inr ⟨not_not.mp heq, h⟩, fun h => (h.resolve_left fun hlt => ?_).2⟩
    exact absurd hlt (not_not.mp heq ▸ lt_irrefl _)

/-- Sorting things with pages by the pages, if their ids are different. -/
theorem pairwise_sort_pageUrlLess {α : Type} (page : α → BrowserPage) {xs : List α}
    (h : (xs.map fun a => (page a).uuid).Nodup) :
    (sort (fun a b => pageUrlLess (page a) (page b)) xs).Pairwise
      fun a b => orderKey (page a) < orderKey (page b) := by
  have hsorted : (sort (fun a b => pageUrlLess (page a) (page b)) xs).Pairwise
      fun a b => orderKey (page a) ≤ orderKey (page b) :=
    pairwise_sort_key (fun a b => pageUrlLess_iff (page a) (page b)) xs
  have hperm := sort_perm (fun a b => pageUrlLess (page a) (page b)) xs
  have hnodup := (hperm.map fun a => (page a).uuid).nodup_iff.mpr h
  rw [List.Nodup, List.pairwise_map] at hnodup
  refine (hsorted.and hnodup).imp fun {a b} hab => lt_of_le_of_ne hab.1 fun heq => ?_
  exact hab.2 (Prod.mk.inj (toLex.injective heq)).2

/-! ### The canonical form -/

/-- The pages of a zone, in the order of their addresses. -/
def pagesOfZone (b : Browser) (zone : ℤ) : List BrowserPage :=
  sort pageUrlLess ((b.list.toList.map Prod.snd).filter fun page => page.preferredPos = zone)

/-- The positions of a zone that no page with another preference holds, in ascending order. -/
def openPositions (b : Browser) (zone : ℤ) : List ℤ :=
  (intRange (zoneStart zone) (zoneEnd zone)).filter fun pos =>
    b.list.toList.all fun entry => entry.2.logicalPos ≠ pos ∨ entry.2.preferredPos = zone

/-- The outermost `n` of some ascending positions: the lowest, or for the end zone the highest. -/
def outermost (zone : ℤ) (positions : List ℤ) (n : ℕ) : List ℤ :=
  if zone = POS_END then positions.drop (positions.length - n) else positions.take n

/-- **The canonical form of a zone**: its pages, in the order of their addresses, are at the outermost
positions that other pages leave free. -/
def Packed (b : Browser) (zone : ℤ) : Prop :=
  (pagesOfZone b zone).map BrowserPage.logicalPos
    = outermost zone (openPositions b zone) (pagesOfZone b zone).length

instance (b : Browser) (zone : ℤ) : Decidable (Packed b zone) :=
  inferInstanceAs (Decidable ((pagesOfZone b zone).map BrowserPage.logicalPos = _))

section PagesOfZone

variable {b : Browser} {zone : ℤ}

theorem mem_pagesOfZone (h : b.Named) {p : BrowserPage} :
    p ∈ pagesOfZone b zone ↔ b.list[p.uuid]? = some p ∧ p.preferredPos = zone := by
  rw [pagesOfZone, (sort_perm _ _).mem_iff, List.mem_filter, List.mem_map, decide_eq_true_eq]
  refine and_congr_left fun _ => ⟨?_, fun hp => ⟨(p.uuid, p), Browser.mem_toList_iff.mpr hp, rfl⟩⟩
  rintro ⟨⟨id, p⟩, hp, rfl⟩
  have hp := Browser.mem_toList_iff.mp hp
  rwa [← h hp] at hp

theorem nodup_pagesOfZone (h : b.Named) : ((pagesOfZone b zone).map BrowserPage.uuid).Nodup := by
  rw [pagesOfZone, ((sort_perm _ _).map _).nodup_iff]
  exact (Browser.nodup_uuids h).sublist (List.filter_sublist.map _)

theorem pairwise_pagesOfZone (h : b.Named) :
    (pagesOfZone b zone).Pairwise fun p p' => orderKey p < orderKey p' := by
  have hnodup : ((pagesOfZone b zone).map BrowserPage.uuid).Nodup := nodup_pagesOfZone h
  rw [pagesOfZone, ((sort_perm _ _).map _).nodup_iff] at hnodup
  exact pairwise_sort_pageUrlLess (fun page => page) hnodup

theorem mem_openPositions {pos : ℤ} :
    pos ∈ openPositions b zone ↔ (zoneStart zone ≤ pos ∧ pos ≤ zoneEnd zone) ∧
      ∀ (id : String) (p : BrowserPage), b.list[id]? = some p → p.logicalPos = pos →
        p.preferredPos = zone := by
  rw [openPositions, List.mem_filter, mem_intRange]
  refine and_congr_right fun _ => ?_
  simp only [List.all_eq_true, decide_eq_true_eq, Prod.forall, Browser.mem_toList_iff, ne_eq,
    imp_iff_not_or]

theorem pairwise_openPositions (b : Browser) (zone : ℤ) : (openPositions b zone).Pairwise (· < ·) :=
  (pairwise_intRange _ _).filter _

/-- What is read off the pages of a zone, with the order among it, depends on what there is to read. -/
theorem map_pagesOfZone_congr {b' : Browser} (h : b.Named) (h' : b'.Named) {β : Type}
    {f : BrowserPage → β} (key : β → Lex (String × String)) (hkey : ∀ p, key (f p) = orderKey p)
    (hmem : ∀ x, (∃ (id : String) (p : BrowserPage), b'.list[id]? = some p ∧ p.preferredPos = zone ∧ f p = x)
      ↔ ∃ (id : String) (p : BrowserPage), b.list[id]? = some p ∧ p.preferredPos = zone ∧ f p = x) :
    (pagesOfZone b' zone).map f = (pagesOfZone b zone).map f := by
  have hsorted : ∀ {b : Browser}, b.Named →
      ((pagesOfZone b zone).map f).Pairwise fun x y => key x < key y := by
    intro b h
    rw [List.pairwise_map]
    refine (pairwise_pagesOfZone h).imp fun hlt => ?_
    rw [hkey, hkey]
    exact hlt
  have hread : ∀ {b : Browser}, b.Named → ∀ x, x ∈ (pagesOfZone b zone).map f
      ↔ ∃ (id : String) (p : BrowserPage), b.list[id]? = some p ∧ p.preferredPos = zone ∧ f p = x := by
    intro b h x
    rw [List.mem_map]
    constructor
    · rintro ⟨p, hp, rfl⟩
      obtain ⟨hlist, hpref⟩ := (mem_pagesOfZone h).mp hp
      exact ⟨p.uuid, p, hlist, hpref, rfl⟩
    · rintro ⟨id, p, hlist, hpref, rfl⟩
      exact ⟨p, (mem_pagesOfZone h).mpr ⟨by rw [h hlist, hlist], hpref⟩, rfl⟩
  refine eq_of_pairwise_of_mem_iff (fun x y hxy hyx => lt_asymm hxy hyx) (hsorted h') (hsorted h) fun x => ?_
  rw [hread h', hread h, hmem]

/-- The open positions depend on the slots of the other pages. -/
theorem openPositions_congr {b' : Browser}
    (h : ∀ pos, zoneStart zone ≤ pos → pos ≤ zoneEnd zone →
      ((∃ id s, b'.slots id = some s ∧ s.logicalPos = pos ∧ s.preferredPos ≠ zone)
        ↔ ∃ id s, b.slots id = some s ∧ s.logicalPos = pos ∧ s.preferredPos ≠ zone)) :
    openPositions b' zone = openPositions b zone := by
  have hheld : ∀ (b : Browser) (pos : ℤ), (∀ (id : String) (p : BrowserPage), b.list[id]? = some p →
      p.logicalPos = pos → p.preferredPos = zone)
      ↔ ¬ ∃ id s, b.slots id = some s ∧ s.logicalPos = pos ∧ s.preferredPos ≠ zone := by
    intro b pos
    push Not
    constructor
    · intro hall id s hs hpos
      obtain ⟨p, hp, rfl⟩ := Browser.slots_eq_some_iff.mp hs
      exact hall id p hp hpos
    · exact fun hall id p hp hpos => hall id p.slot (Browser.slots_eq_some_iff.mpr ⟨p, hp, rfl⟩) hpos
  refine eq_of_pairwise_of_mem_iff (fun x y hxy hyx => lt_asymm hxy hyx) (pairwise_openPositions b' zone)
    (pairwise_openPositions b zone) fun pos => ?_
  rw [mem_openPositions, mem_openPositions]
  refine and_congr_right fun hrange => ?_
  rw [hheld, hheld, h pos hrange.1 hrange.2]

end PagesOfZone

/-! ### The allocation packs the zone -/

section Allocation

variable {b : Browser} {page : String} {p : BrowserPage} {zone : ℤ}

/-- The other pages, as they are apart from the page that is placed. -/
def OthersPlaced (b : Browser) (page : String) : Prop :=
  ∀ {id : String} {s : Slot}, id ≠ page → b.slots id = some s → WellPlaced s

/-- The pages that get a position, each with its id, are those of the zone. -/
theorem mem_zoneEntries (hothers : OthersPlaced b page) (hp : b.list[page]? = some p)
    (hpref : p.preferredPos = zone) (hzone : IsZone zone) {id : String} {q : BrowserPage} :
    (id, q) ∈ b.zonePages page zone (zoneStart zone) (zoneEnd zone) ++ [(page, p)]
      ↔ b.list[id]? = some q ∧ q.preferredPos = zone := by
  rw [List.mem_append, mem_zonePages, List.mem_singleton, Prod.mk.injEq]
  constructor
  · rintro (⟨hq, -, hqpref, -⟩ | ⟨rfl, rfl⟩)
    · exact ⟨hq, hqpref⟩
    · exact ⟨hp, hpref⟩
  · rintro ⟨hq, hqpref⟩
    by_cases hid : id = page
    · subst hid
      exact Or.inr ⟨rfl, Option.some.inj (hq.symm.trans hp)⟩
    · have hplaced := (hothers hid (Browser.slots_eq_some_iff.mpr ⟨q, hq, rfl⟩)).zone
        (show IsZone q.preferredPos from hqpref ▸ hzone)
      exact Or.inl ⟨hq, hid, hqpref, hqpref ▸ hplaced.1, hqpref ▸ hplaced.2⟩

theorem map_snd_sortedPages (hb : b.Named) (hothers : OthersPlaced b page) (hp : b.list[page]? = some p)
    (hpref : p.preferredPos = zone) (hzone : IsZone zone) :
    (sortedPages b page p zone).map Prod.snd = pagesOfZone b zone := by
  have hperm : (sortedPages b page p zone).Perm
      (b.zonePages page zone (zoneStart zone) (zoneEnd zone) ++ [(page, p)]) := sort_perm _ _
  have hmem : ∀ {id q}, (id, q) ∈ sortedPages b page p zone ↔ b.list[id]? = some q ∧ q.preferredPos = zone :=
    hperm.mem_iff.trans (mem_zoneEntries hothers hp hpref hzone)
  have huuid : (sortedPages b page p zone).map (fun entry => entry.2.uuid)
      = (sortedPages b page p zone).map Prod.fst :=
    List.map_congr_left fun entry hentry => hb (hmem.mp hentry).1
  have hnodup : ((b.zonePages page zone (zoneStart zone) (zoneEnd zone) ++ [(page, p)]).map
      fun entry => entry.2.uuid).Nodup := by
    rw [← (hperm.map fun entry => entry.2.uuid).nodup_iff, huuid,
      (sortedPages_perm b page p zone).nodup_iff]
    refine (nodup_zonePages _ _ _ _ _).append (by simp) ?_
    intro id hid hid'
    obtain ⟨⟨_, q⟩, hq, rfl⟩ := List.mem_map.mp hid
    exact (mem_zonePages.mp hq).2.1 (List.mem_singleton.mp hid')
  refine eq_of_pairwise_of_mem_iff (fun q q' hqq' hq'q => lt_asymm hqq' hq'q)
    (List.pairwise_map.mpr (pairwise_sort_pageUrlLess Prod.snd hnodup)) (pairwise_pagesOfZone hb) fun q => ?_
  rw [List.mem_map, mem_pagesOfZone hb]
  constructor
  · rintro ⟨⟨id, q⟩, hmem', rfl⟩
    obtain ⟨hq, hqpref⟩ := hmem.mp hmem'
    exact ⟨by rw [hb hq, hq], hqpref⟩
  · exact fun hq => ⟨(q.uuid, q), hmem.mpr hq, rfl⟩

theorem map_fst_sortedPages (hb : b.Named) (hothers : OthersPlaced b page) (hp : b.list[page]? = some p)
    (hpref : p.preferredPos = zone) (hzone : IsZone zone) :
    (sortedPages b page p zone).map Prod.fst = (pagesOfZone b zone).map BrowserPage.uuid := by
  rw [← map_snd_sortedPages hb hothers hp hpref hzone, List.map_map]
  refine List.map_congr_left fun entry hentry => ?_
  have hmem := (sort_perm _ _).mem_iff.mp hentry
  exact (hb ((mem_zoneEntries hothers hp hpref hzone).mp hmem).1).symm

/-- The candidates are the open positions. -/
theorem candidatePositions_eq (hdistinct : Distinct (positions b.slots)) (hothers : OthersPlaced b page)
    (hp : b.list[page]? = some p) (hpref : p.preferredPos = zone) (hzone : IsZone zone) {free : List ℤ}
    (hfree : b.freePositionsInRange (zoneStart zone) (zoneEnd zone) = some free) :
    Browser.candidatePositions (b.zonePages page zone (zoneStart zone) (zoneEnd zone)) p (zoneStart zone)
      (zoneEnd zone) free = openPositions b zone := by
  have hspec := freePositionsInRange_spec hfree
  have hcand := candidatePositions_spec hp hpref hzone hdistinct hspec
  have hperm := sort_perm (· < ·) ((b.zonePages page zone (zoneStart zone) (zoneEnd zone)).map
    (fun entry => entry.2.logicalPos)
      ++ (if p.logicalPos ≥ zoneStart zone ∧ p.logicalPos ≤ zoneEnd zone then [p.logicalPos] else []) ++ free)
  refine eq_of_pairwise_of_mem_iff (fun x y hxy hyx => lt_asymm hxy hyx)
    (pairwise_sort_lt (hperm.nodup_iff.mp hcand.nodup)) (pairwise_openPositions b zone) fun pos => ?_
  obtain ⟨hlow, -, -⟩ := zone_bounds hzone
  have hmem : pos ∈ sort (· < ·) ((b.zonePages page zone (zoneStart zone) (zoneEnd zone)).map
      (fun entry => entry.2.logicalPos)
        ++ (if p.logicalPos ≥ zoneStart zone ∧ p.logicalPos ≤ zoneEnd zone then [p.logicalPos] else [])
        ++ free) ↔ _ := hperm.mem_iff
  rw [mem_openPositions]
  constructor
  · intro hpos
    refine ⟨hcand.inZone pos hpos, fun id q hq hqpos => ?_⟩
    by_cases hid : id = page
    · subst hid
      rw [Option.some.inj (hq.symm.trans hp), hpref]
    · have hplaced := hothers hid (Browser.slots_eq_some_iff.mpr ⟨q, hq, rfl⟩)
      have hnormal : q.preferredPos ≠ POS_EXTRA := by
        intro hextra
        have hqextra : q.logicalPos = POS_EXTRA := hplaced.extra hextra
        have hrange := hcand.inZone pos hpos
        have : POS_EXTRA = -10 := rfl
        omega
      have hheld := hcand.held pos hpos id (hqpos ▸ positions_of_page hq hnormal)
      obtain ⟨⟨_, q'⟩, hq', rfl⟩ := List.mem_map.mp ((List.mem_append.mp hheld).resolve_right fun hself =>
        hid (List.mem_singleton.mp hself))
      obtain ⟨hq', -, hpref', -⟩ := mem_zonePages.mp hq'
      rw [Option.some.inj (hq.symm.trans hq'), hpref']
  · rintro ⟨hrange, hopen⟩
    refine hmem.mpr (List.mem_append.mpr ?_)
    by_cases hheld : ∃ (id : String) (q : BrowserPage), b.list[id]? = some q ∧ q.logicalPos = pos
    · obtain ⟨id, q, hq, rfl⟩ := hheld
      refine Or.inl (List.mem_append.mpr ?_)
      by_cases hid : id = page
      · subst hid
        obtain rfl := Option.some.inj (hq.symm.trans hp)
        exact Or.inr (by rw [if_pos hrange]; exact List.mem_singleton_self _)
      · exact Or.inl (List.mem_map.mpr ⟨(id, q), mem_zonePages.mpr
          ⟨hq, hid, hopen id q hq rfl, hrange⟩, rfl⟩)
    · push Not at hheld
      exact Or.inr ((hspec.mem_iff pos).mpr ⟨hrange, hheld⟩)

theorem zip_take_length {α β : Type} (xs : List α) (ys : List β) : xs.zip (ys.take xs.length) = xs.zip ys := by
  induction xs generalizing ys with
  | nil => rfl
  | cons x xs ih =>
    cases ys with
    | nil => rfl
    | cons y ys => rw [List.length_cons, List.take_succ_cons, List.zip_cons_cons, List.zip_cons_cons, ih]

/-- Looking the keys up, one after the other, gives the values. -/
theorem map_lookup_zip {α β : Type} [BEq α] [LawfulBEq α] {xs : List α} {ys : List β} (hxs : xs.Nodup)
    (hlen : xs.length = ys.length) : xs.map (fun x => (xs.zip ys).lookup x) = ys.map some := by
  induction xs generalizing ys with
  | nil => rw [List.eq_nil_of_length_eq_zero hlen.symm]; rfl
  | cons x xs ih =>
    cases ys with
    | nil => cases hlen
    | cons y ys =>
      obtain ⟨hx, hxs⟩ := List.nodup_cons.mp hxs
      have hrest : xs.map (fun z => ((x :: xs).zip (y :: ys)).lookup z)
          = xs.map (fun z => (xs.zip ys).lookup z) := by
        refine List.map_congr_left fun z hz => ?_
        have hne : (z == x) = false := beq_eq_false_iff_ne.mpr fun heq => hx (heq ▸ hz)
        rw [List.zip_cons_cons, List.lookup_cons, hne]
      rw [List.map_cons, List.map_cons, hrest, ih hxs (Nat.succ.inj hlen), List.zip_cons_cons,
        List.lookup_cons_self]

theorem length_outermost {positions : List ℤ} {n : ℕ} (h : n ≤ positions.length) :
    (outermost zone positions n).length = n := by
  rw [outermost]
  split
  · rw [List.length_drop]
    omega
  · rw [List.length_take]
    omega

/-- What is given out to the pages are the outermost candidates. -/
theorem zip_allocatedPositions (zone : ℤ) (ids : List String) {candidates : List ℤ}
    (hsorted : candidates.Pairwise (· < ·)) :
    ids.zip (Browser.allocatedPositions zone candidates ids.length)
      = ids.zip (outermost zone candidates ids.length) := by
  rw [Browser.allocatedPositions, outermost]
  split
  · have hdrop := hsorted.sublist (List.drop_sublist (candidates.length - ids.length) candidates)
    have hnodup : (candidates.drop (candidates.length - ids.length)).Nodup := hdrop.imp fun h => h.ne
    rw [eq_of_pairwise_of_mem_iff (fun x y hxy hyx => lt_asymm hxy hyx) (pairwise_sort_lt hnodup) hdrop
      fun pos => (sort_perm _ _).mem_iff]
  · rw [zip_take_length]

/-- Placing pages keeps their names. -/
theorem named_of_repositioned {b' : Browser} (h : Browser.Repositioned b b') (hb : b.Named) : b'.Named := by
  intro id p' hp'
  obtain ⟨q, hq, heq⟩ := h.page hp'
  rw [heq]
  show q.uuid = id
  exact hb hq

/-- Placing pages keeps their order. -/
theorem map_orderKey_of_repositioned {b' : Browser} (h : Browser.Repositioned b b') (hb : b.Named) :
    (pagesOfZone b' zone).map orderKey = (pagesOfZone b zone).map orderKey := by
  refine map_pagesOfZone_congr hb (named_of_repositioned h hb) id (fun _ => rfl) fun key => ?_
  constructor
  · rintro ⟨id, p', hp', hpref, rfl⟩
    obtain ⟨q, hq, heq⟩ := h.page hp'
    rw [heq] at hpref ⊢
    exact ⟨id, q, hq, hpref, rfl⟩
  · rintro ⟨id, q, hq, hpref, rfl⟩
    have hpage := h.pages id
    rw [hq, Option.map_some, Option.map_eq_some_iff] at hpage
    obtain ⟨p', hp', heq⟩ := hpage
    have hsame : p'.unplaced.preferredPos = q.unplaced.preferredPos
        ∧ orderKey p'.unplaced = orderKey q.unplaced := by rw [heq]; exact ⟨rfl, rfl⟩
    exact ⟨id, p', hp', hsame.1.trans hpref, hsame.2⟩

/-- Pages that get the values of a list, in their order. -/
theorem map_logicalPos_of_moves {b' : Browser} (hb' : b'.Named) {targets : List ℤ}
    (huuid : (pagesOfZone b' zone).map BrowserPage.uuid = (pagesOfZone b zone).map BrowserPage.uuid)
    (hnodup : ((pagesOfZone b zone).map BrowserPage.uuid).Nodup)
    (hlength : ((pagesOfZone b zone).map BrowserPage.uuid).length = targets.length)
    (hslots : b'.slots = fun id => (b.slots id).map
      (Browser.movedTo (((pagesOfZone b zone).map BrowserPage.uuid).zip targets) id)) :
    (pagesOfZone b' zone).map BrowserPage.logicalPos = targets := by
  generalize (pagesOfZone b zone).map BrowserPage.uuid = ids at huuid hnodup hlength hslots
  have hlookup := map_lookup_zip hnodup hlength
  have hfound : ∀ p' ∈ pagesOfZone b' zone, some p'.logicalPos = (ids.zip targets).lookup p'.uuid := by
    intro p' hp'
    have hid : p'.uuid ∈ ids := huuid ▸ List.mem_map_of_mem hp'
    have hsome : (ids.zip targets).lookup p'.uuid ∈ targets.map some :=
      hlookup ▸ List.mem_map_of_mem (f := fun id => (ids.zip targets).lookup id) hid
    obtain ⟨pos, -, hpos⟩ := List.mem_map.mp hsome
    have hslot : b'.slots p'.uuid = some p'.slot :=
      Browser.slots_eq_some_iff.mpr ⟨p', ((mem_pagesOfZone hb').mp hp').1, rfl⟩
    rw [hslots] at hslot
    obtain ⟨s, -, hmoved⟩ := Option.map_eq_some_iff.mp hslot
    rw [Browser.movedTo, ← hpos] at hmoved
    rw [← hpos]
    exact congrArg some (congrArg Slot.logicalPos hmoved).symm
  have hread : ∀ f : String → Option ℤ, ids.map f = (pagesOfZone b' zone).map fun p' => f p'.uuid := by
    intro f
    rw [← huuid, List.map_map]
    rfl
  have hall : ((pagesOfZone b' zone).map BrowserPage.logicalPos).map some = targets.map some := by
    rw [← hlookup, hread, List.map_map]
    exact List.map_congr_left hfound
  exact List.map_injective_iff.mpr (Option.some_injective ℤ) hall

/-- The canonical form as moves: the pages of the zone, in their order, to the outermost positions. -/
def zoneMoves (b : Browser) (zone : ℤ) : List (String × ℤ) :=
  ((pagesOfZone b zone).map BrowserPage.uuid).zip
    (outermost zone (openPositions b zone) (pagesOfZone b zone).length)

/-- A successful allocation makes the moves of the canonical form. -/
theorem allocateZonePosition_eq_zoneMoves {b' : Browser} {allocated : Bool} (hb : b.Named)
    (hdistinct : Distinct (positions b.slots)) (hothers : OthersPlaced b page) (hp : b.list[page]? = some p)
    (hpref : p.preferredPos = zone) (hzone : IsZone zone)
    (h : b.allocateZonePosition page zone = some (b', allocated)) :
    (openPositions b zone = [] ∧ allocated = false ∧ b' = b)
      ∨ ((pagesOfZone b zone).length ≤ (openPositions b zone).length ∧ allocated = true
        ∧ b' = b.setPositions (zoneMoves b zone)) := by
  obtain ⟨hlow, -, hhigh⟩ := zone_bounds hzone
  obtain ⟨free, hfree⟩ := freePositionsInRange_isSome b hlow hhigh
  have hids := map_fst_sortedPages hb hothers hp hpref hzone
  have hlength : (sortedPages b page p zone).length = (pagesOfZone b zone).length := by
    rw [← map_snd_sortedPages hb hothers hp hpref hzone, List.length_map]
  have hmoves : ((pagesOfZone b zone).map BrowserPage.uuid).zip (Browser.allocatedPositions zone
      (openPositions b zone) (pagesOfZone b zone).length) = zoneMoves b zone := by
    have hzip := zip_allocatedPositions zone ((pagesOfZone b zone).map BrowserPage.uuid)
      (pairwise_openPositions b zone)
    rwa [List.length_map] at hzip
  rw [allocateZonePosition_eq hp hzone hfree,
    candidatePositions_eq hdistinct hothers hp hpref hzone hfree, hids, hlength, hmoves] at h
  split at h
  next hnone =>
    obtain ⟨rfl, rfl⟩ := Prod.mk.inj (Option.some.inj h)
    exact Or.inl ⟨hnone, rfl, rfl⟩
  next =>
    split at h
    · cases h
    next hroom =>
      obtain ⟨rfl, rfl⟩ := Prod.mk.inj (Option.some.inj h)
      exact Or.inr ⟨by omega, rfl, rfl⟩

section ZoneMoves

variable (hb : b.Named) (hroom : (pagesOfZone b zone).length ≤ (openPositions b zone).length)

include hroom in
theorem map_fst_zoneMoves : (zoneMoves b zone).map Prod.fst = (pagesOfZone b zone).map BrowserPage.uuid :=
  List.map_fst_zip (by rw [List.length_map, length_outermost hroom])

include hb hroom in
theorem slots_zoneMoves : (b.setPositions (zoneMoves b zone)).slots
    = fun id => (b.slots id).map (Browser.movedTo (zoneMoves b zone) id) :=
  b.slots_setPositions ((map_fst_zoneMoves hroom).symm ▸ nodup_pagesOfZone hb)

include hb hroom in
/-- The moves leave the other pages where they are. -/
theorem others_zoneMoves {id : String} {s : Slot} (hne : s.preferredPos ≠ zone) :
    (b.setPositions (zoneMoves b zone)).slots id = some s ↔ b.slots id = some s := by
  have hkeep : ∀ t, b.slots id = some t → t.preferredPos ≠ zone →
      Browser.movedTo (zoneMoves b zone) id t = t := by
    intro t ht htne
    rw [Browser.movedTo]
    split
    next pos hpos =>
      have hid : id ∈ (pagesOfZone b zone).map BrowserPage.uuid :=
        map_fst_zoneMoves hroom ▸ List.mem_map.mpr ⟨_, mem_of_lookup hpos, rfl⟩
      obtain ⟨q, hq, rfl⟩ := List.mem_map.mp hid
      obtain ⟨hlist, hqpref⟩ := (mem_pagesOfZone hb).mp hq
      obtain ⟨q', hq', rfl⟩ := Browser.slots_eq_some_iff.mp ht
      rw [Option.some.inj (hlist.symm.trans hq')] at hqpref
      exact absurd hqpref htne
    next => rfl
  rw [slots_zoneMoves hb hroom, Option.map_eq_some_iff]
  constructor
  · rintro ⟨t, ht, rfl⟩
    rw [movedTo_preferredPos] at hne
    rw [hkeep t ht hne, ht]
  · exact fun hs => ⟨s, hs, hkeep s hs hne⟩

include hb hroom in
/-- **The zone is packed** after the moves. -/
theorem packed_zoneMoves : Packed (b.setPositions (zoneMoves b zone)) zone := by
  have hrepositioned := b.repositioned_setPositions (zoneMoves b zone)
  have hkeys : (pagesOfZone (b.setPositions (zoneMoves b zone)) zone).map orderKey
      = (pagesOfZone b zone).map orderKey := map_orderKey_of_repositioned hrepositioned hb
  have huuid : (pagesOfZone (b.setPositions (zoneMoves b zone)) zone).map BrowserPage.uuid
      = (pagesOfZone b zone).map BrowserPage.uuid := by
    have := congrArg (List.map fun key => (ofLex key).2) hkeys
    rwa [List.map_map, List.map_map] at this
  have hopen : openPositions (b.setPositions (zoneMoves b zone)) zone = openPositions b zone := by
    refine openPositions_congr fun pos _ _ => exists_congr fun id => exists_congr fun s => ?_
    constructor
    · rintro ⟨hs, hpos, hne⟩
      exact ⟨(others_zoneMoves hb hroom hne).mp hs, hpos, hne⟩
    · rintro ⟨hs, hpos, hne⟩
      exact ⟨(others_zoneMoves hb hroom hne).mpr hs, hpos, hne⟩
  have hcount := congrArg List.length huuid
  rw [List.length_map, List.length_map] at hcount
  rw [Packed, hopen, hcount]
  exact map_logicalPos_of_moves (named_of_repositioned hrepositioned hb) huuid (nodup_pagesOfZone hb)
    (by rw [List.length_map, length_outermost hroom]) (slots_zoneMoves hb hroom)

end ZoneMoves

end Allocation

/-! ### What the form depends on -/

/-- The address and the slot of a live page. -/
def Browser.view (b : Browser) (id : String) : Option (String × Slot) :=
  b.list[id]?.map fun p => (p.url, p.slot)

theorem view_eq_some_iff {b : Browser} {id : String} {v : String × Slot} :
    b.view id = some v ↔ ∃ p, b.list[id]? = some p ∧ (p.url, p.slot) = v :=
  Option.map_eq_some_iff

/-- The address and the preference of a live page. -/
def Browser.pageOf (b : Browser) (id : String) : Option (String × ℤ) :=
  b.list[id]?.map fun p => (p.url, p.preferredPos)

theorem pageOf_eq_map_view (b : Browser) (id : String) :
    b.pageOf id = (b.view id).map fun v => (v.1, v.2.preferredPos) := by
  rw [Browser.pageOf, Browser.view, Option.map_map]
  rfl

theorem slots_eq_map_view (b : Browser) (id : String) : b.slots id = (b.view id).map Prod.snd := by
  rw [Browser.slots, Browser.view, Option.map_map]
  rfl

/-- The address and the slot are known separately. -/
theorem view_eq_some_iff_slots {b : Browser} {id : String} {v : String × Slot} :
    b.view id = some v ↔ b.pageOf id = some (v.1, v.2.preferredPos) ∧ b.slots id = some v.2 := by
  rw [pageOf_eq_map_view, slots_eq_map_view]
  constructor
  · intro hv
    rw [hv]
    exact ⟨rfl, rfl⟩
  · rintro ⟨hpage, hslot⟩
    obtain ⟨w, hw, hwslot⟩ := Option.map_eq_some_iff.mp hslot
    rw [hw, Option.map_some] at hpage
    rw [hw, Prod.ext (Prod.mk.inj (Option.some.inj hpage)).1 hwslot]

theorem Browser.Redisplayed.view {b b' : Browser} (h : Browser.Redisplayed b b') (id : String) :
    b'.view id = b.view id := h.map (fun _ => rfl) id

section Form

variable {b b' : Browser} {zone : ℤ}

/-- The form depends on the view of the zone's pages and on the open positions. -/
theorem packed_congr (hb : b.Named) (hb' : b'.Named)
    (hview : ∀ id v, v.2.preferredPos = zone → (b'.view id = some v ↔ b.view id = some v))
    (hopen : openPositions b' zone = openPositions b zone) (h : Packed b zone) : Packed b' zone := by
  have hsame : (pagesOfZone b' zone).map (fun p => (orderKey p, p.logicalPos))
      = (pagesOfZone b zone).map fun p => (orderKey p, p.logicalPos) := by
    have hread : ∀ {b : Browser}, b.Named → ∀ x, (∃ (id : String) (p : BrowserPage),
        b.list[id]? = some p ∧ p.preferredPos = zone ∧ (orderKey p, p.logicalPos) = x)
        ↔ ∃ id v, v.2.preferredPos = zone ∧ b.view id = some v
          ∧ (toLex (v.1, id), v.2.logicalPos) = x := by
      intro b h x
      constructor
      · rintro ⟨id, p, hp, hpref, rfl⟩
        exact ⟨id, (p.url, p.slot), hpref, view_eq_some_iff.mpr ⟨p, hp, rfl⟩, by rw [orderKey, h hp]; rfl⟩
      · rintro ⟨id, v, hpref, hv, rfl⟩
        obtain ⟨p, hp, rfl⟩ := view_eq_some_iff.mp hv
        exact ⟨id, p, hp, hpref, by rw [orderKey, h hp]; rfl⟩
    refine map_pagesOfZone_congr hb hb' Prod.fst (fun _ => rfl) fun x => ?_
    rw [hread hb, hread hb']
    refine exists_congr fun id => exists_congr fun v => and_congr_right fun hpref => ?_
    rw [hview id v hpref]
  have hpos : (pagesOfZone b' zone).map BrowserPage.logicalPos
      = (pagesOfZone b zone).map BrowserPage.logicalPos := by
    have := congrArg (List.map Prod.snd) hsame
    rwa [List.map_map, List.map_map] at this
  have hlength := congrArg List.length hpos
  rw [List.length_map, List.length_map] at hlength
  rw [Packed, hpos, hopen, hlength]
  exact h

/-- Two states with the same view. -/
theorem packed_of_view (hb : b.Named) (hb' : b'.Named) (hview : ∀ id, b'.view id = b.view id)
    (h : Packed b zone) : Packed b' zone := by
  refine packed_congr hb hb' (fun id v _ => by rw [hview]) (openPositions_congr fun pos _ _ => ?_) h
  simp only [slots_eq_map_view, hview]

/-- Two zones have no position in common. -/
theorem zones_disjoint {zone' pos : ℤ} (hzone : IsZone zone) (hzone' : IsZone zone') (hne : zone ≠ zone')
    (hpos : zoneStart zone ≤ pos ∧ pos ≤ zoneEnd zone) :
    ¬ (zoneStart zone' ≤ pos ∧ pos ≤ zoneEnd zone') := by
  have hbounds : ∀ {z}, IsZone z → (z = POS_BEGINNING ∧ zoneStart z = 0 ∧ zoneEnd z = 5)
      ∨ (z = POS_MIDDLE ∧ zoneStart z = 6 ∧ zoneEnd z = 11)
      ∨ (z = POS_END ∧ zoneStart z = 12 ∧ zoneEnd z = 19) := by
    rintro z (rfl | rfl | rfl)
    · exact Or.inl ⟨rfl, rfl, rfl⟩
    · exact Or.inr (Or.inl ⟨rfl, rfl, rfl⟩)
    · exact Or.inr (Or.inr ⟨rfl, rfl, rfl⟩)
  have h := hbounds hzone
  have h' := hbounds hzone'
  omega

end Form

end OpenMadt.Gui
