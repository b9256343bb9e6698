import Mathlib.Data.Prod.Lex
import Mathlib.Data.String.Basic
import OpenMadt.BrowserFrame
import OpenMadt.Library.Assignment
import OpenMadt.Library.Run

/-!
# The slots of the tab bar

Twenty logical positions are shared by four placement policies, and the zone policy moves pages that
are placed already.  A `Layout` is a set of slots in which that went well: its fields are the
invariant, so a browser whose slots are those of a layout satisfies it.

* `Layout` — every page where its preference wants it, no position held twice, one extra page.
* `ZoneMoves` — what `allocateZonePosition` does: a simultaneous reassignment of the zone's pages to
  positions that are free or held by one of them.
* `layout_exec` — every signal leads from a layout to a layout (or has no result).
* `tabMap_of_run` — hence every run of the browser does, and the answer to `GetTabMap` shows the layout.
-/

namespace OpenMadt.Gui

open Assignment

/-! ### Layouts -/

/-- The preference names one of the three zones. -/
def IsZone (preferredPos : ℤ) : Prop :=
  preferredPos = POS_BEGINNING ∨ preferredPos = POS_MIDDLE ∨ preferredPos = POS_END

instance (preferredPos : ℤ) : Decidable (IsZone preferredPos) := by
  unfold IsZone
  infer_instance

/-- The page of the slot is where its preference wants it. -/
structure WellPlaced (s : Slot) : Prop where
  extra : s.preferredPos = POS_EXTRA → s.logicalPos = POS_EXTRA
  normal : s.preferredPos ≠ POS_EXTRA → 0 ≤ s.logicalPos ∧ s.logicalPos < MAX_TABS
  zone : IsZone s.preferredPos →
    zoneStart s.preferredPos ≤ s.logicalPos ∧ s.logicalPos ≤ zoneEnd s.preferredPos
  absolute : 0 ≤ s.preferredPos → s.logicalPos = s.preferredPos

/-- The positions of the normal pages. -/
def positions (slots : String → Option Slot) (id : String) : Option ℤ :=
  (slots id).bind fun s => if s.preferredPos = POS_EXTRA then none else some s.logicalPos

/-- There is at most one extra page. -/
def OneExtra (slots : String → Option Slot) : Prop :=
  ∀ ⦃id id' : String⦄ ⦃s s' : Slot⦄, slots id = some s → slots id' = some s' →
    s.preferredPos = POS_EXTRA → s'.preferredPos = POS_EXTRA → id = id'

/-- Slots as they should be. -/
structure Layout where
  slots : String → Option Slot
  wellPlaced : ∀ {id : String} {s : Slot}, slots id = some s → WellPlaced s
  distinct : Distinct (positions slots)
  oneExtra : OneExtra slots

theorem positions_eq_some_iff {slots : String → Option Slot} {id : String} {pos : ℤ} :
    positions slots id = some pos
      ↔ ∃ s, slots id = some s ∧ s.preferredPos ≠ POS_EXTRA ∧ s.logicalPos = pos := by
  simp only [positions, Option.bind_eq_some_iff]
  refine exists_congr fun s => and_congr_right fun _ => ?_
  split <;> simp [*]

theorem positions_update (slots : String → Option Slot) (id : String) (o : Option Slot) :
    positions (Function.update slots id o)
      = Function.update (positions slots) id
          (o.bind fun s => if s.preferredPos = POS_EXTRA then none else some s.logicalPos) := by
  funext a
  by_cases h : a = id
  · simp [positions, h]
  · simp [positions, Function.update_of_ne h]

/-- No pages at all. -/
def Layout.empty : Layout where
  slots := fun _ => none
  wellPlaced := fun h => nomatch h
  distinct := distinct_none
  oneExtra := fun _ _ _ _ h => nomatch h

/-- A page is gone. -/
def Layout.erase (L : Layout) (id : String) : Layout where
  slots := Function.update L.slots id none
  wellPlaced := by
    intro a s h
    by_cases ha : a = id
    · simp [ha] at h
    · exact L.wellPlaced (by rwa [Function.update_of_ne ha] at h)
  distinct := by
    rw [positions_update]
    exact L.distinct.release id
  oneExtra := by
    have other : ∀ {a s}, Function.update L.slots id none a = some s → L.slots a = some s := by
      intro a s h
      by_cases ha : a = id
      · simp [ha] at h
      · rwa [Function.update_of_ne ha] at h
    exact fun a a' s s' h h' => L.oneExtra (other h) (other h')

/-- A second extra page is the one that is there already. -/
theorem oneExtra_update {slots : String → Option Slot} (h : OneExtra slots) {id : String} {s : Slot}
    (hextra : s.preferredPos = POS_EXTRA →
      ∀ a t, slots a = some t → t.preferredPos ≠ POS_EXTRA) :
    OneExtra (Function.update slots id (some s)) := by
  intro a a' t t' ht ht' he he'
  by_cases ha : a = id <;> by_cases ha' : a' = id
  · rw [ha, ha']
  · rw [ha, Function.update_self, Option.some.injEq] at ht
    rw [Function.update_of_ne ha'] at ht'
    exact absurd he' (hextra (ht ▸ he) a' t' ht')
  · rw [ha', Function.update_self, Option.some.injEq] at ht'
    rw [Function.update_of_ne ha] at ht
    exact absurd he (hextra (ht' ▸ he') a t ht)
  · rw [Function.update_of_ne ha] at ht
    rw [Function.update_of_ne ha'] at ht'
    exact h ht ht' he he'

/-- A new page at a position that is free, or a first extra page. -/
def Layout.place (L : Layout) (id : String) (s : Slot) (hs : WellPlaced s)
    (hfree : s.preferredPos ≠ POS_EXTRA → Free (positions L.slots) s.logicalPos)
    (hextra : s.preferredPos = POS_EXTRA →
      ∀ a t, L.slots a = some t → t.preferredPos ≠ POS_EXTRA) : Layout where
  slots := Function.update L.slots id (some s)
  wellPlaced := by
    intro a t h
    by_cases ha : a = id
    · rw [ha, Function.update_self, Option.some.injEq] at h
      exact h ▸ hs
    · exact L.wellPlaced (by rwa [Function.update_of_ne ha] at h)
  distinct := by
    rw [positions_update, Option.bind_some]
    split
    · exact L.distinct.release id
    · next hne => exact L.distinct.place (hfree hne) id
  oneExtra := oneExtra_update L.oneExtra hextra

/-! ### Free positions and zone pages -/

theorem mem_intRange {start stop pos : ℤ} : pos ∈ intRange start stop ↔ start ≤ pos ∧ pos ≤ stop := by
  simp only [intRange, List.mem_map, List.mem_range]
  constructor
  · rintro ⟨i, hi, rfl⟩
    omega
  · intro hpos
    exact ⟨(pos - start).toNat, by omega, by omega⟩

theorem nodup_intRange (start stop : ℤ) : (intRange start stop).Nodup :=
  List.nodup_range.map fun i j h => by omega

theorem pairwise_intRange (start stop : ℤ) : (intRange start stop).Pairwise (· < ·) := by
  rw [intRange, List.pairwise_map]
  exact List.pairwise_lt_range.imp fun h => by omega

/-- The list holds each free position of the range once. -/
structure FreePositions (b : Browser) (start stop : ℤ) (free : List ℤ) : Prop where
  bounds : ∀ pos, start ≤ pos → pos ≤ stop → 0 ≤ pos ∧ pos < MAX_TABS
  mem_iff : ∀ pos, pos ∈ free ↔ (start ≤ pos ∧ pos ≤ stop) ∧
    ∀ (id : String) (p : BrowserPage), b.list[id]? = some p → p.logicalPos ≠ pos
  nodup : free.Nodup

theorem freePositionsInRange_spec {b : Browser} {start stop : ℤ} {free : List ℤ}
    (h : b.freePositionsInRange start stop = some free) : FreePositions b start stop free := by
  unfold Browser.freePositionsInRange at h
  dsimp only at h
  split at h
  case isFalse => cases h
  case isTrue hall =>
    rw [Option.some.injEq] at h
    subst h
    have hbounds : ∀ pos, start ≤ pos → pos ≤ stop → 0 ≤ pos ∧ pos < MAX_TABS :=
      fun pos hlo hhi => hall pos (mem_intRange.mpr ⟨hlo, hhi⟩)
    refine ⟨hbounds, fun pos => ?_, (nodup_intRange start stop).filter _⟩
    rw [List.mem_filter, mem_intRange]
    refine and_congr_right fun hrange => ?_
    obtain ⟨hlo, hhi⟩ := hbounds pos hrange.1 hrange.2
    simp only [Bool.not_eq_true', List.any_eq_false, decide_eq_true_eq, Prod.forall,
      Browser.mem_toList_iff]
    exact forall_congr' fun id => forall_congr' fun p => forall_congr' fun _ => by
      constructor
      · exact fun hno heq => hno ⟨heq ▸ hlo, heq ▸ hhi, heq⟩
      · exact fun hne hocc => hne hocc.2.2

theorem mem_zonePages {b : Browser} {page id : String} {preferredPos start stop : ℤ}
    {p : BrowserPage} :
    (id, p) ∈ b.zonePages page preferredPos start stop
      ↔ b.list[id]? = some p ∧ id ≠ page ∧ p.preferredPos = preferredPos ∧ p.logicalPos ≥ start ∧
        p.logicalPos ≤ stop := by
  simp [Browser.zonePages]

theorem nodup_zonePages (b : Browser) (page : String) (preferredPos start stop : ℤ) :
    ((b.zonePages page preferredPos start stop).map Prod.fst).Nodup :=
  b.nodup_ids.sublist (List.filter_sublist.map Prod.fst)

theorem sort_perm {α : Type} (less : α → α → Prop) [DecidableRel less] (xs : List α) :
    (sort less xs).Perm xs :=
  List.perm_insertionSort _ xs

/-- Sorting with the comparison of a key. -/
theorem pairwise_sort_key {α κ : Type} [LinearOrder κ] {less : α → α → Prop} [DecidableRel less]
    {key : α → κ} (hless : ∀ a b, less a b ↔ key a < key b) (xs : List α) :
    (sort less xs).Pairwise fun a b => key a ≤ key b := by
  have hle : ∀ a b, ¬ less b a ↔ key a ≤ key b := fun a b => by rw [hless, not_lt]
  have htotal : Std.Total fun a b => ¬ less b a :=
    ⟨fun a b => by rw [hle, hle]; exact le_total _ _⟩
  have htrans : IsTrans α fun a b => ¬ less b a :=
    ⟨fun a b c hab hbc => (hle a c).mpr (((hle a b).mp hab).trans ((hle b c).mp hbc))⟩
  exact (List.pairwise_insertionSort (fun a b => ¬ less b a) xs).imp fun {a b} hab => (hle a b).mp hab

/-- A comparison by position, and by name where two positions are equal, sorts by position if no
position occurs twice. -/
theorem pairwise_sort {α : Type} {less : α → α → Prop} [DecidableRel less] {pos : α → ℤ}
    {name : α → String}
    (hless : ∀ a b, less a b ↔ if pos a ≠ pos b then pos a < pos b else name a < name b)
    {xs : List α} (hxs : xs.Nodup) (hdistinct : ∀ a ∈ xs, ∀ b ∈ xs, pos a = pos b → a = b) :
    (sort less xs).Pairwise fun a b => pos a < pos b := by
  have hlex : ∀ a b, less a b ↔ toLex (pos a, name a) < toLex (pos b, name b) := by
    intro a b
    rw [hless, Prod.Lex.toLex_lt_toLex]
    split
    next hne => exact ⟨Or.inl, fun h => h.resolve_right fun heq => hne heq.1⟩
    next heq => exact ⟨fun h => Or.inr ⟨not_not.mp heq, h⟩, fun h => (h.resolve_left (by omega)).2⟩
  have hnodup := (sort_perm less xs).nodup_iff.mpr hxs
  refine ((pairwise_sort_key hlex xs).and hnodup).imp_of_mem fun {a b} ha hb hab => ?_
  have hmem := fun x => (sort_perm less xs).mem_iff (a := x)
  have hpos : pos a ≤ pos b := by
    rcases Prod.Lex.toLex_le_toLex.mp hab.1 with hlt | ⟨heq, -⟩
    · exact hlt.le
    · exact heq.le
  exact lt_of_le_of_ne hpos fun heq => hab.2 (hdistinct a ((hmem a).mp ha) b ((hmem b).mp hb) heq)

/-! ### The zone policy -/

/-- A simultaneous move of pages of one zone, `page` among them, within the zone. -/
structure ZoneMoves (slots : String → Option Slot) (page : String) (preferredPos : ℤ)
    (moves : List (String × ℤ)) : Prop where
  ids : (moves.map Prod.fst).Nodup
  targets : (moves.map Prod.snd).Nodup
  held : ∀ pos ∈ moves.map Prod.snd, ∀ id, positions slots id = some pos → id ∈ moves.map Prod.fst
  mem : page ∈ moves.map Prod.fst
  inZone : ∀ pos ∈ moves.map Prod.snd, zoneStart preferredPos ≤ pos ∧ pos ≤ zoneEnd preferredPos
  ofZone : ∀ id ∈ moves.map Prod.fst, ∃ s, slots id = some s ∧ s.preferredPos = preferredPos

theorem zone_bounds {preferredPos : ℤ} (h : IsZone preferredPos) :
    0 ≤ zoneStart preferredPos ∧ zoneStart preferredPos ≤ zoneEnd preferredPos ∧
      zoneEnd preferredPos < MAX_TABS := by
  rcases h with rfl | rfl | rfl <;> decide

theorem ne_extra_of_isZone {preferredPos : ℤ} (h : IsZone preferredPos) :
    preferredPos ≠ POS_EXTRA := by
  rcases h with rfl | rfl | rfl <;> decide

/-- The candidates of a zone are distinct positions in the zone, and whoever holds one of them takes
part in the move. -/
structure Candidates (b : Browser) (ids : List String) (start stop : ℤ) (candidates : List ℤ) :
    Prop where
  nodup : candidates.Nodup
  inZone : ∀ pos ∈ candidates, start ≤ pos ∧ pos ≤ stop
  held : ∀ pos ∈ candidates, ∀ id, positions b.slots id = some pos → id ∈ ids

theorem positions_of_page {b : Browser} {id : String} {p : BrowserPage} (h : b.list[id]? = some p)
    (hne : p.preferredPos ≠ POS_EXTRA) : positions b.slots id = some p.logicalPos :=
  positions_eq_some_iff.mpr ⟨p.slot, Browser.slots_eq_some_iff.mpr ⟨p, h, rfl⟩, hne, rfl⟩

section CandidatePositions

variable {b : Browser} {page : String} {p : BrowserPage} {preferredPos start stop pos : ℤ}
  {free : List ℤ}

/-- A position of another page of the zone is held by that page. -/
theorem held_of_zonePages (hzone : IsZone preferredPos)
    (h : pos ∈ (b.zonePages page preferredPos start stop).map fun entry => entry.2.logicalPos) :
    (start ≤ pos ∧ pos ≤ stop) ∧ ∃ id, id ≠ page ∧ positions b.slots id = some pos ∧
      id ∈ (b.zonePages page preferredPos start stop).map Prod.fst := by
  obtain ⟨⟨id, q⟩, hmem, rfl⟩ := List.mem_map.mp h
  obtain ⟨hq, hne, hqpref, hlo, hhi⟩ := mem_zonePages.mp hmem
  have hheld := positions_of_page hq (hqpref ▸ ne_extra_of_isZone hzone)
  exact ⟨⟨hlo, hhi⟩, id, hne, hheld, List.mem_map.mpr ⟨_, hmem, rfl⟩⟩

/-- The position of the page itself, if it is in the zone. -/
theorem held_of_own (hp : b.list[page]? = some p) (hpref : p.preferredPos = preferredPos)
    (hzone : IsZone preferredPos)
    (h : pos ∈ if p.logicalPos ≥ start ∧ p.logicalPos ≤ stop then [p.logicalPos] else []) :
    (start ≤ pos ∧ pos ≤ stop) ∧ positions b.slots page = some pos := by
  split at h
  next hrange =>
    obtain rfl := List.mem_singleton.mp h
    exact ⟨hrange, positions_of_page hp (hpref ▸ ne_extra_of_isZone hzone)⟩
  next => exact absurd h List.not_mem_nil

/-- Nobody holds a free position. -/
theorem FreePositions.not_held (hfree : FreePositions b start stop free) (h : pos ∈ free)
    (id : String) : positions b.slots id ≠ some pos := by
  intro hid
  obtain ⟨s, hs, -, hs'⟩ := positions_eq_some_iff.mp hid
  obtain ⟨q, hq, rfl⟩ := Browser.slots_eq_some_iff.mp hs
  exact ((hfree.mem_iff pos).mp h).2 id q hq hs'

/-- No two pages of a zone are at the same position. -/
theorem nodup_zonePositions (hzone : IsZone preferredPos)
    (hdistinct : Distinct (positions b.slots)) :
    ((b.zonePages page preferredPos start stop).map fun entry => entry.2.logicalPos).Nodup := by
  refine List.Nodup.map_on ?_ (List.Nodup.of_map Prod.fst (nodup_zonePages _ _ _ _ _))
  rintro ⟨id, q⟩ hq ⟨id', q'⟩ hq' heq
  obtain ⟨hq, -, hqpref, -, -⟩ := mem_zonePages.mp hq
  obtain ⟨hq', -, hqpref', -, -⟩ := mem_zonePages.mp hq'
  have hheld := positions_of_page hq (hqpref ▸ ne_extra_of_isZone hzone)
  have hheld' := positions_of_page hq' (hqpref' ▸ ne_extra_of_isZone hzone)
  have hsame : id = id' := hdistinct hheld (hheld'.trans (congrArg some heq.symm))
  subst hsame
  rw [Option.some.inj (hq.symm.trans hq')]

theorem candidatePositions_spec (hp : b.list[page]? = some p)
    (hpref : p.preferredPos = preferredPos) (hzone : IsZone preferredPos)
    (hdistinct : Distinct (positions b.slots)) (hfree : FreePositions b start stop free) :
    Candidates b ((b.zonePages page preferredPos start stop).map Prod.fst ++ [page]) start stop
      (Browser.candidatePositions (b.zonePages page preferredPos start stop) p start stop free) := by
  have hperm := sort_perm (· < ·) ((b.zonePages page preferredPos start stop).map
    (fun entry => entry.2.logicalPos)
      ++ (if p.logicalPos ≥ start ∧ p.logicalPos ≤ stop then [p.logicalPos] else []) ++ free)
  refine ⟨hperm.nodup_iff.mpr ?_, fun pos hpos => ?_, fun pos hpos id hid => ?_⟩
  · refine (List.Nodup.append (nodup_zonePositions hzone hdistinct) ?_ ?_).append hfree.nodup ?_
    · split <;> simp
    · intro pos hpos hpos'
      obtain ⟨-, id, hne, hid, -⟩ := held_of_zonePages hzone hpos
      exact hne (hdistinct hid (held_of_own hp hpref hzone hpos').2)
    · intro pos hpos hpos'
      rcases List.mem_append.mp hpos with hpos | hpos
      · obtain ⟨-, id, -, hid, -⟩ := held_of_zonePages hzone hpos
        exact hfree.not_held hpos' id hid
      · exact hfree.not_held hpos' page (held_of_own hp hpref hzone hpos).2
  · rw [Browser.candidatePositions, hperm.mem_iff, List.mem_append, List.mem_append] at hpos
    rcases hpos with (hpos | hpos) | hpos
    · exact (held_of_zonePages hzone hpos).1
    · exact (held_of_own hp hpref hzone hpos).1
    · exact ((hfree.mem_iff pos).mp hpos).1
  · rw [Browser.candidatePositions, hperm.mem_iff, List.mem_append, List.mem_append] at hpos
    rcases hpos with (hpos | hpos) | hpos
    · obtain ⟨-, id', -, hid', hmem⟩ := held_of_zonePages hzone hpos
      exact List.mem_append_left _ (hdistinct hid' hid ▸ hmem)
    · have hsame := hdistinct hid (held_of_own hp hpref hzone hpos).2
      exact List.mem_append_right _ (List.mem_singleton.mpr hsame)
    · exact absurd hid (hfree.not_held hpos id)

end CandidatePositions

theorem map_snd_zip {α β : Type} (xs : List α) (ys : List β) :
    (xs.zip ys).map Prod.snd = ys.take xs.length := by
  induction xs generalizing ys with
  | nil => simp
  | cons x xs ih =>
    cases ys with
    | nil => simp
    | cons y ys => simp [ih]

theorem allocatedPositions_perm (preferredPos : ℤ) (candidates : List ℤ) (n : ℕ) :
    ∃ part, part.Sublist candidates ∧
      (Browser.allocatedPositions preferredPos candidates n).Perm part := by
  unfold Browser.allocatedPositions
  split
  · exact ⟨_, List.drop_sublist _ _, sort_perm _ _⟩
  · exact ⟨_, List.Sublist.refl _, List.Perm.refl _⟩

theorem length_allocatedPositions {preferredPos : ℤ} {candidates : List ℤ} {n : ℕ}
    (h : n ≤ candidates.length) :
    n ≤ (Browser.allocatedPositions preferredPos candidates n).length := by
  unfold Browser.allocatedPositions
  split
  · rw [(sort_perm _ _).length_eq, List.length_drop]
    omega
  · exact h

/-- The pages of a zone with `page` among them, in the order in which they get their positions. -/
def sortedPages (b : Browser) (page : String) (p : BrowserPage) (preferredPos : ℤ) :
    List (String × BrowserPage) :=
  sort (fun left right => pageUrlLess left.2 right.2)
    (b.zonePages page preferredPos (zoneStart preferredPos) (zoneEnd preferredPos) ++ [(page, p)])

theorem sortedPages_perm (b : Browser) (page : String) (p : BrowserPage) (preferredPos : ℤ) :
    ((sortedPages b page p preferredPos).map Prod.fst).Perm
      ((b.zonePages page preferredPos (zoneStart preferredPos) (zoneEnd preferredPos)).map
        Prod.fst ++ [page]) :=
  ((sort_perm _ _).map Prod.fst).trans (by simp)

/-- With a candidate for every page, giving them out in order is a zone move. -/
theorem zoneMoves_zip {b : Browser} {page : String} {p : BrowserPage} {preferredPos : ℤ}
    {candidates : List ℤ} (hp : b.list[page]? = some p) (hpref : p.preferredPos = preferredPos)
    (hcand : Candidates b ((b.zonePages page preferredPos (zoneStart preferredPos)
      (zoneEnd preferredPos)).map Prod.fst ++ [page]) (zoneStart preferredPos)
      (zoneEnd preferredPos) candidates)
    (hlen : (sortedPages b page p preferredPos).length ≤ candidates.length) :
    ZoneMoves b.slots page preferredPos (((sortedPages b page p preferredPos).map Prod.fst).zip
      (Browser.allocatedPositions preferredPos candidates
        (sortedPages b page p preferredPos).length)) := by
  have hperm := sortedPages_perm b page p preferredPos
  generalize sortedPages b page p preferredPos = pages at hperm hlen ⊢
  have hlong : (pages.map Prod.fst).length ≤
      (Browser.allocatedPositions preferredPos candidates pages.length).length := by
    rw [List.length_map]
    exact length_allocatedPositions hlen
  obtain ⟨part, hpart, hpartperm⟩ := allocatedPositions_perm preferredPos candidates pages.length
  have hsub : ∀ pos ∈ (Browser.allocatedPositions preferredPos candidates pages.length).take
      (pages.map Prod.fst).length, pos ∈ candidates := fun pos hpos =>
    hpart.subset (hpartperm.mem_iff.mp (List.take_subset _ _ hpos))
  have hfst := List.map_fst_zip hlong
  have hsnd := map_snd_zip (pages.map Prod.fst)
    (Browser.allocatedPositions preferredPos candidates pages.length)
  refine ⟨?_, ?_, fun pos hpos id hid => ?_, ?_, fun pos hpos => ?_, fun id hid => ?_⟩
  · rw [hfst]
    refine hperm.nodup_iff.mpr ((nodup_zonePages _ _ _ _ _).append (by simp) ?_)
    intro id hid hid'
    obtain ⟨⟨_, q⟩, hq, rfl⟩ := List.mem_map.mp hid
    exact (mem_zonePages.mp hq).2.1 (List.mem_singleton.mp hid')
  · rw [hsnd]
    exact (hpartperm.nodup_iff.mpr (hcand.nodup.sublist hpart)).sublist (List.take_sublist _ _)
  · rw [hsnd] at hpos
    rw [hfst]
    exact hperm.mem_iff.mpr (hcand.held pos (hsub pos hpos) id hid)
  · rw [hfst]
    exact hperm.mem_iff.mpr (by simp)
  · rw [hsnd] at hpos
    exact hcand.inZone pos (hsub pos hpos)
  · rw [hfst] at hid
    rcases List.mem_append.mp (hperm.mem_iff.mp hid) with hid | hid
    · obtain ⟨⟨_, q⟩, hq, rfl⟩ := List.mem_map.mp hid
      obtain ⟨hq, -, hqpref, -⟩ := mem_zonePages.mp hq
      exact ⟨q.slot, Browser.slots_eq_some_iff.mpr ⟨q, hq, rfl⟩, hqpref⟩
    · rw [List.mem_singleton.mp hid]
      exact ⟨p.slot, Browser.slots_eq_some_iff.mpr ⟨p, hp, rfl⟩, hpref⟩

/-- **One step of the zone policy.**  It fails and changes nothing, or is a zone move that includes
the page. -/
theorem allocateZonePosition_spec {b b' : Browser} {page : String} {p : BrowserPage}
    {preferredPos : ℤ} {allocated : Bool} (hp : b.list[page]? = some p)
    (hpref : p.preferredPos = preferredPos) (hzone : IsZone preferredPos)
    (hdistinct : Distinct (positions b.slots))
    (h : b.allocateZonePosition page preferredPos = some (b', allocated)) :
    allocated = false ∧ b' = b ∨ allocated = true ∧
      ∃ moves, ZoneMoves b.slots page preferredPos moves ∧ b' = b.setPositions moves := by
  obtain ⟨hstart, hstop, -⟩ := zone_bounds hzone
  unfold Browser.allocateZonePosition at h
  dsimp only at h
  rw [if_neg (by omega)] at h
  cases hfree : b.freePositionsInRange (zoneStart preferredPos) (zoneEnd preferredPos) with
  | none => simp [hp, hfree] at h
  | some free =>
    have hcand := candidatePositions_spec hp hpref hzone hdistinct (freePositionsInRange_spec hfree)
    simp only [hp, hfree] at h
    split at h
    · simp only [Option.some.injEq, Prod.mk.injEq] at h
      exact Or.inl ⟨h.2.symm, h.1.symm⟩
    · split at h
      · cases h
      · next hlen =>
        simp only [Option.some.injEq, Prod.mk.injEq] at h
        exact Or.inr ⟨h.2.symm, _, zoneMoves_zip hp hpref hcand (Nat.le_of_not_lt hlen), h.1.symm⟩

/-- The slots after some moves. -/
def moved (slots : String → Option Slot) (moves : List (String × ℤ)) (id : String) : Option Slot :=
  (slots id).map (Browser.movedTo moves id)

theorem movedTo_preferredPos (moves : List (String × ℤ)) (id : String) (s : Slot) :
    (Browser.movedTo moves id s).preferredPos = s.preferredPos := by
  unfold Browser.movedTo
  split <;> rfl

/-- A zone move is a reassignment in the sense of the library. -/
theorem positions_moved {slots : String → Option Slot} {page : String} {preferredPos : ℤ}
    {moves : List (String × ℤ)} (hzone : IsZone preferredPos)
    (h : ZoneMoves slots page preferredPos moves) :
    positions (moved slots moves) = reassign (positions slots) moves := by
  funext id
  unfold positions moved reassign Browser.movedTo
  cases hl : moves.lookup id with
  | none => simp
  | some pos =>
    have hid : id ∈ moves.map Prod.fst := List.mem_map.mpr ⟨_, mem_of_lookup hl, rfl⟩
    obtain ⟨s, hs, hpref⟩ := h.ofZone id hid
    simp [hs, hpref, ne_extra_of_isZone hzone]

section ZoneMoves

variable {slots : String → Option Slot} {page : String} {preferredPos : ℤ}
  {moves : List (String × ℤ)}

/-- After a zone move the pages outside it are where they were, and those in it are in the zone; so
if all other pages were well placed, all are now. -/
theorem wellPlaced_moved (hzone : IsZone preferredPos)
    (h : ZoneMoves slots page preferredPos moves)
    (hplaced : ∀ {id : String} {s : Slot}, id ≠ page → slots id = some s → WellPlaced s)
    {id : String} {t : Slot} (ht : moved slots moves id = some t) : WellPlaced t := by
  obtain ⟨s, hs, rfl⟩ := Option.map_eq_some_iff.mp ht
  cases hl : moves.lookup id with
  | none =>
    have hne : id ≠ page := by
      rintro rfl
      exact not_mem_of_lookup_eq_none hl h.mem
    simpa [Browser.movedTo, hl] using hplaced hne hs
  | some pos =>
    have hmem := mem_of_lookup hl
    obtain ⟨s', hs', hpref⟩ := h.ofZone id (List.mem_map.mpr ⟨_, hmem, rfl⟩)
    obtain rfl := Option.some.inj (hs.symm.trans hs')
    have hin := h.inZone pos (List.mem_map.mpr ⟨_, hmem, rfl⟩)
    obtain ⟨hlo, -, hhi⟩ := zone_bounds hzone
    have hneg : preferredPos < 0 := by
      rcases hzone with rfl | rfl | rfl <;> decide
    simp only [Browser.movedTo, hl]
    refine ⟨fun he => ?_, fun _ => ?_, fun _ => ?_, fun habs => ?_⟩
    · exact absurd (hpref.symm.trans he) (ne_extra_of_isZone hzone)
    · exact ⟨hlo.trans hin.1, by show pos < MAX_TABS; omega⟩
    · rw [hpref]
      exact hin
    · exact absurd habs (by rw [hpref]; omega)

theorem distinct_moved (hzone : IsZone preferredPos) (h : ZoneMoves slots page preferredPos moves)
    (hdistinct : Distinct (positions slots)) : Distinct (positions (moved slots moves)) := by
  rw [positions_moved hzone h]
  exact hdistinct.reassign h.targets h.held

theorem oneExtra_moved (hone : OneExtra slots) : OneExtra (moved slots moves) := by
  intro id id' t t' ht ht' he he'
  obtain ⟨s, hs, rfl⟩ := Option.map_eq_some_iff.mp ht
  obtain ⟨s', hs', rfl⟩ := Option.map_eq_some_iff.mp ht'
  rw [movedTo_preferredPos] at he he'
  exact hone hs hs' he he'

/-- The layout after a zone move. -/
def Layout.ofZoneMoves (hzone : IsZone preferredPos)
    (h : ZoneMoves slots page preferredPos moves) (hdistinct : Distinct (positions slots))
    (hone : OneExtra slots)
    (hplaced : ∀ {id : String} {s : Slot}, id ≠ page → slots id = some s → WellPlaced s) :
    Layout where
  slots := moved slots moves
  wellPlaced := wellPlaced_moved hzone h hplaced
  distinct := distinct_moved hzone h hdistinct
  oneExtra := oneExtra_moved hone

end ZoneMoves

/-! ### Every signal keeps a layout -/

/-- The browser's slots form a layout. -/
def WellLaid (b : Browser) : Prop := ∃ L : Layout, b.slots = L.slots

theorem WellLaid.frame {b b' : Browser} (h : WellLaid b) (hframe : Browser.Frame b b') :
    WellLaid b' := by
  obtain ⟨L, hL⟩ := h
  exact ⟨L, hframe.slots.trans hL⟩

theorem slots_insert_setPosition (b : Browser) (uuid : String) (page : BrowserPage) (pos : ℤ) :
    (Browser.modifyPage { b with list := b.list.insert uuid page } uuid
      fun q => { q with logicalPos := pos }).slots
      = Function.update b.slots uuid (some ⟨page.preferredPos, pos⟩) := by
  rw [Browser.slots_setPosition, Browser.slots_insert]
  funext a
  by_cases ha : a = uuid
  · simp [ha, BrowserPage.slot]
  · simp [Function.update_of_ne ha, Ne.symm ha]

/-- The new page's own position counts as no position: every other page is at 0 or above. -/
theorem distinct_of_new {L : Layout} (uuid : String) {s : Slot} (hs : s.logicalPos = -1) :
    Distinct (positions (Function.update L.slots uuid (some s))) := by
  rw [positions_update, Option.bind_some]
  split
  · exact L.distinct.release uuid
  · refine L.distinct.place (fun a ha => ?_) uuid
    obtain ⟨t, ht, hne, heq⟩ := positions_eq_some_iff.mp ha
    have hpos := ((L.wellPlaced ht).normal hne).1
    omega

section Placing

variable {b b' : Browser} {L : Layout} {uuid : String} {page : BrowserPage} {allocated : Bool}

/-- What no page but the new one holds was free before. -/
theorem free_of_new (hL : b.slots = L.slots) (hfresh : L.slots uuid = none) {pos : ℤ}
    (hnobody : ∀ id p, id ≠ uuid → (b.list.insert uuid page)[id]? = some p → p.logicalPos ≠ pos) :
    Free (positions L.slots) pos := by
  intro id hid
  obtain ⟨s, hs, -, heq⟩ := positions_eq_some_iff.mp hid
  have hne : id ≠ uuid := by
    rintro rfl
    cases hfresh.symm.trans hs
  rw [← hL] at hs
  obtain ⟨p, hp, rfl⟩ := Browser.slots_eq_some_iff.mp hs
  have hold : (b.list.insert uuid page)[id]? = some p := by
    rw [StdMap.getElem?_insert, if_neg hne.symm]
    exact hp
  exact hnobody id p hne hold heq

/-- The new page completes the layout if its position suits it and is free. -/
theorem wellLaid_place (hL : b.slots = L.slots) {pos : ℤ}
    (hplaced : WellPlaced ⟨page.preferredPos, pos⟩)
    (hfree : page.preferredPos ≠ POS_EXTRA → Free (positions L.slots) pos)
    (hextra : page.preferredPos = POS_EXTRA →
      ∀ a t, L.slots a = some t → t.preferredPos ≠ POS_EXTRA) :
    WellLaid (Browser.modifyPage { b with list := b.list.insert uuid page } uuid
      fun q => { q with logicalPos := pos }) := by
  refine ⟨L.place uuid ⟨page.preferredPos, pos⟩ hplaced hfree hextra, ?_⟩
  rw [slots_insert_setPosition, hL]
  rfl

theorem wellPlaced_any {pos : ℤ} (h : 0 ≤ pos ∧ pos < MAX_TABS) : WellPlaced ⟨POS_ANY, pos⟩ where
  extra he := absurd he (by decide : POS_ANY ≠ POS_EXTRA)
  normal _ := h
  zone hz := absurd hz (by decide : ¬ IsZone POS_ANY)
  absolute ha := absurd ha (by decide : ¬ 0 ≤ POS_ANY)

theorem wellPlaced_extra : WellPlaced ⟨POS_EXTRA, POS_EXTRA⟩ where
  extra _ := rfl
  normal hne := absurd rfl hne
  zone hz := absurd hz (by decide)
  absolute ha := absurd ha (by decide)

theorem wellPlaced_absolute {pos : ℤ} (hlo : 0 ≤ pos) (hhi : pos < MAX_TABS) :
    WellPlaced ⟨pos, pos⟩ where
  extra he := he
  normal _ := ⟨hlo, hhi⟩
  zone hz := absurd hz fun hz => by
    rcases hz with rfl | rfl | rfl <;> exact absurd hlo (by decide)
  absolute _ := rfl

/-- A new page in a zone: the other pages of the zone may have to move. -/
theorem allocateZonePosition_new (hL : b.slots = L.slots) (hpage : page.logicalPos = -1)
    (hextra : page.preferredPos = POS_EXTRA →
      ∀ a t, L.slots a = some t → t.preferredPos ≠ POS_EXTRA) (hzone : IsZone page.preferredPos)
    (h : Browser.allocateZonePosition { b with list := b.list.insert uuid page } uuid
      page.preferredPos = some (b', allocated)) :
    allocated = false ∧ b' = { b with list := b.list.insert uuid page } ∨
      allocated = true ∧ WellLaid b' := by
  have hlist : (b.list.insert uuid page)[uuid]? = some page := by simp
  have hslots : ({ b with list := b.list.insert uuid page } : Browser).slots
      = Function.update L.slots uuid (some page.slot) := by
    rw [Browser.slots_insert, hL]
  have hdistinct := distinct_of_new (L := L) uuid (s := page.slot) hpage
  rw [← hslots] at hdistinct
  rcases allocateZonePosition_spec hlist rfl hzone hdistinct h with hno | ⟨hyes, moves, hmoves, rfl⟩
  · exact Or.inl hno
  · refine Or.inr ⟨hyes, Layout.ofZoneMoves hzone hmoves hdistinct ?_ ?_, ?_⟩
    · rw [hslots]
      exact oneExtra_update L.oneExtra hextra
    · intro id s hne hs
      rw [hslots, Function.update_of_ne hne] at hs
      exact L.wellPlaced hs
    · exact Browser.slots_setPositions _ hmoves.ids

/-- A new page that wants one position and no other. -/
theorem allocateAbsolutePosition_new (hL : b.slots = L.slots) (hfresh : L.slots uuid = none)
    (hextra : page.preferredPos = POS_EXTRA →
      ∀ a t, L.slots a = some t → t.preferredPos ≠ POS_EXTRA)
    (h : Browser.allocateAbsolutePosition { b with list := b.list.insert uuid page } uuid
      = some (b', allocated)) :
    allocated = false ∧ b' = { b with list := b.list.insert uuid page } ∨
      allocated = true ∧ WellLaid b' := by
  have hlist : (b.list.insert uuid page)[uuid]? = some page := by simp
  unfold Browser.allocateAbsolutePosition at h
  simp only [hlist] at h
  split at h
  · cases h
    exact Or.inl ⟨rfl, rfl⟩
  split at h
  · cases h
    exact Or.inl ⟨rfl, rfl⟩
  next hrange hocc =>
    cases h
    have hnobody : ∀ id p, id ≠ uuid → (b.list.insert uuid page)[id]? = some p →
        p.logicalPos ≠ page.preferredPos := by
      simp only [List.any_eq_true, decide_eq_true_eq, Prod.exists, not_exists, not_and] at hocc
      exact fun id p hne hp =>
        hocc id p (Std.ExtTreeMap.mem_toList_iff_getElem?_eq_some.mpr hp) hne
    have hplaced : WellPlaced ⟨page.preferredPos, page.preferredPos⟩ :=
      wellPlaced_absolute (by omega) (by omega)
    exact Or.inr ⟨rfl, wellLaid_place hL hplaced (fun _ => free_of_new hL hfresh hnobody) hextra⟩

/-- **Placing a new page.**  The page is in the map already, at the invalid position -1; placing it
fails and changes nothing, or completes a layout. -/
theorem allocateLogicalPosition_spec (hL : b.slots = L.slots) (hfresh : L.slots uuid = none)
    (hpage : page.logicalPos = -1)
    (hextra : page.preferredPos = POS_EXTRA →
      ∀ a t, L.slots a = some t → t.preferredPos ≠ POS_EXTRA)
    (h : Browser.allocateLogicalPosition { b with list := b.list.insert uuid page } uuid
      = some (b', allocated)) :
    allocated = false ∧ b' = { b with list := b.list.insert uuid page } ∨
      allocated = true ∧ WellLaid b' := by
  have hlist : (b.list.insert uuid page)[uuid]? = some page := by simp
  unfold Browser.allocateLogicalPosition at h
  simp only [hlist] at h
  split at h
  · cases h
    exact Or.inl ⟨rfl, rfl⟩
  split at h
  next hany =>
    -- the first free position
    split at h
    · cases h
    · cases h
      exact Or.inl ⟨rfl, rfl⟩
    next pos rest hpos =>
      cases h
      have hfree := freePositionsInRange_spec hpos
      obtain ⟨⟨hlo, hhi⟩, hnobody⟩ := (hfree.mem_iff pos).mp List.mem_cons_self
      have hplaced : WellPlaced ⟨page.preferredPos, pos⟩ := by
        rw [hany]
        exact wellPlaced_any (hfree.bounds pos hlo hhi)
      exact Or.inr ⟨rfl, wellLaid_place hL hplaced
        (fun _ => free_of_new hL hfresh fun id p _ => hnobody id p) hextra⟩
  split at h
  next hzone => exact allocateZonePosition_new hL hpage hextra hzone h
  split at h
  next he =>
    cases h
    have hplaced : WellPlaced ⟨page.preferredPos, POS_EXTRA⟩ := by
      rw [he]
      exact wellPlaced_extra
    exact Or.inr ⟨rfl, wellLaid_place hL hplaced (fun hne => absurd he hne) hextra⟩
  next => exact allocateAbsolutePosition_new hL hfresh hextra h

end Placing

theorem not_extra_of_hasExtraPage {b : Browser} (h : b.hasExtraPage = false) :
    ∀ a t, b.slots a = some t → t.preferredPos ≠ POS_EXTRA := by
  intro a t ht he
  obtain ⟨p, hp, rfl⟩ := Browser.slots_eq_some_iff.mp ht
  have hno := List.any_eq_false.mp h (a, p) (Browser.mem_toList_iff.mpr hp)
  exact hno (decide_eq_true he)

/-- `onNewWebTab` with a fresh id. -/
theorem layout_onNewWebTab {b b' : Browser} {url iconUrl uuid : String} {preferredPos flags : ℤ}
    {resp : CmdResponse} (hb : WellLaid b) (hfresh : uuid ∉ b.list)
    (h : b.onNewWebTab url iconUrl preferredPos flags uuid = some (b', resp)) : WellLaid b' := by
  obtain ⟨L, hL⟩ := hb
  have hnone := Browser.slots_eq_none_iff.mpr hfresh
  rcases Browser.onNewWebTab_outcome h with
    ⟨-, rfl⟩ | ⟨-, rfl⟩ | ⟨-, hextra, b₁, hplaced, rfl⟩
  · exact ⟨L, hL⟩
  · -- placing failed: the page is taken out of the map again
    rw [StdMap.erase_insert hfresh]
    exact ⟨L, hL⟩
  · have hno : preferredPos = POS_EXTRA → ∀ a t, L.slots a = some t → t.preferredPos ≠ POS_EXTRA := by
      intro he
      rw [← hL]
      exact not_extra_of_hasExtraPage (hextra he)
    rcases allocateLogicalPosition_spec hL (hL ▸ hnone) rfl hno hplaced with ⟨hfalse, -⟩ | ⟨-, hlaid⟩
    · cases hfalse
    · split
      · exact hlaid.frame (Browser.redisplayed_updateExtraZoneVisibility _).frame
      · exact hlaid.frame (Browser.frame_showNewTab _ uuid)

/-- `onNavigateTo`. -/
theorem layout_onNavigateTo {b b' : Browser} {uuid url : String} {resp : CmdResponse}
    (hb : WellLaid b) (h : b.onNavigateTo uuid url = some (b', resp)) : WellLaid b' := by
  have hframe := b.frame_renamed uuid url
  rcases Browser.onNavigateTo_outcome h with ⟨-, rfl⟩ | ⟨-, page, hpage, hcases⟩
  · exact hb
  rcases hcases with ⟨-, rfl⟩ | ⟨-, hzone, b₂, allocated, hzoned, rfl⟩ | ⟨-, rfl⟩
  · exact (hb.frame hframe).frame (Browser.redisplayed_updateExtraZoneVisibility _).frame
  · obtain ⟨L, hL⟩ := hb.frame hframe
    -- the page that is placed anew is the one found in the map, with the same slot
    obtain ⟨p, hp, hslot⟩ : ∃ p, (b.renamed uuid url).list[uuid]? = some p ∧ p.slot = page.slot := by
      rw [← Browser.slots_eq_some_iff, hframe.slots]
      exact Browser.slots_eq_some_iff.mpr ⟨page, hpage, rfl⟩
    have hlaid : WellLaid b₂ := by
      rcases allocateZonePosition_spec hp (congrArg Slot.preferredPos hslot) hzone
        (hL ▸ L.distinct) hzoned with ⟨-, rfl⟩ | ⟨-, moves, hmoves, rfl⟩
      · exact ⟨L, hL⟩
      · refine ⟨Layout.ofZoneMoves hzone hmoves (hL ▸ L.distinct) (hL ▸ L.oneExtra) ?_,
          Browser.slots_setPositions _ hmoves.ids⟩
        exact fun _ hs => L.wellPlaced (hL ▸ hs)
    split
    · exact hlaid.frame (Browser.redisplayed_syncTabOrder b₂).frame
    · exact hlaid
  · exact hb.frame hframe

/-- `onKillTab`. -/
theorem layout_onKillTab {b : Browser} (hb : WellLaid b) (uuid : String) (forceDestroy : Bool) :
    WellLaid (b.onKillTab uuid forceDestroy).1 := by
  have erased : ∀ {b : Browser}, WellLaid b → WellLaid { b with list := b.list.erase uuid } := by
    rintro b ⟨L, hL⟩
    exact ⟨L.erase uuid, (b.slots_erase uuid).trans (by rw [hL]; rfl)⟩
  unfold Browser.onKillTab
  split
  · exact hb
  · have hstop := hb.frame (b.frame_stopBlink uuid)
    dsimp only
    split
    · exact hstop.frame (Browser.frame_extraFrame _ false)
    · split
      · exact (erased hstop).frame (Browser.redisplayed_updateExtraZoneVisibility _).frame
      · exact ((erased hstop).frame (Browser.frame_tabs _ _)).frame (Browser.redisplayed_syncTabOrder _).frame

/-- **The step lemma**: every signal leads from a layout to a layout. -/
theorem layout_exec {b b' : Browser} {signal : Browser.Signal} {resp : CmdResponse}
    (hb : WellLaid b) (hfresh : Fresh b signal) (h : b.exec signal = some (b', resp)) :
    WellLaid b' := by
  cases signal with
  | NewWebTab url iconUrl preferredPos flags uuid => exact layout_onNewWebTab hb hfresh h
  | NavigateTo uuid url => exact layout_onNavigateTo hb h
  | ActivateTab uuid =>
    obtain ⟨rfl, -⟩ := Prod.mk.inj (Option.some.inj h)
    exact hb.frame (b.frame_onActivateTab uuid)
  | GetTabMap =>
    obtain ⟨rfl, -⟩ := Prod.mk.inj (Option.some.inj h)
    exact hb
  | KillTab uuid forceDestroy =>
    obtain ⟨rfl, -⟩ := Prod.mk.inj (Option.some.inj h)
    exact layout_onKillTab hb uuid forceDestroy
  | BlinkTab uuid =>
    obtain ⟨rfl, -⟩ := Prod.mk.inj (Option.some.inj h)
    exact hb.frame (b.frame_onBlinkTab uuid)
  | GetShortcuts =>
    obtain ⟨rfl, -⟩ := Prod.mk.inj (Option.some.inj h)
    exact hb
  | NewShortcut url iconUrl preferredPos flags shortcutId =>
    rw [exec_eq_of_forShortcuts h trivial]
    exact hb
  | KillShortcut shortcutId =>
    rw [exec_eq_of_forShortcuts h trivial]
    exact hb

/-- One step of a browser: a signal with a fresh id is executed, and indexes no vector out of
bounds. -/
def BrowserStep (b : Browser) (signal : Browser.Signal) (b' : Browser) : Prop :=
  Fresh b signal ∧ ∃ resp, b.exec signal = some (b', resp)

theorem wellLaid_of_run {runtimeConfig : RuntimeConfig} {signals : List Browser.Signal} {b : Browser}
    (h : Run.Steps BrowserStep (Browser.new runtimeConfig) signals b) : WellLaid b := by
  refine h.invariant WellLaid ?_ ⟨Layout.empty, ?_⟩
  · rintro b signal b' hb ⟨hfresh, resp, hexec⟩
    exact layout_exec hb hfresh hexec
  · funext id
    exact Browser.slots_eq_none_iff.mpr (by simp [Browser.new])

/-! ### The tab map -/

/-- The page is shown at place `i` of the tab map. -/
def ShownAt (entry : String × BrowserPage) (i : ℕ) : Prop :=
  0 ≤ entry.2.logicalPos ∧ entry.2.logicalPos < MAX_TABS ∧ entry.2.logicalPos = i

theorem length_tabMapStep (tabMap : List Json) (entry : String × BrowserPage) :
    (Browser.tabMapStep tabMap entry).length = tabMap.length := by
  unfold Browser.tabMapStep
  split <;> simp

theorem length_tabMap (b : Browser) : b.tabMap.length = 20 := by
  have hfold : ∀ (entries : List (String × BrowserPage)) (tabMap : List Json),
      (entries.foldl Browser.tabMapStep tabMap).length = tabMap.length := by
    intro entries
    induction entries with
    | nil => exact fun _ => rfl
    | cons entry entries ih => exact fun tabMap => (ih _).trans (length_tabMapStep tabMap entry)
  exact (hfold _ _).trans (List.length_replicate ..)

theorem getElem?_tabMapStep_of_shown {tabMap : List Json} {entry : String × BrowserPage} {i : ℕ}
    (h : ShownAt entry i) (hi : i < tabMap.length) :
    (Browser.tabMapStep tabMap entry)[i]? = some (.str entry.1) := by
  obtain ⟨hlo, hhi, heq⟩ := h
  rw [Browser.tabMapStep, if_pos ⟨hlo, hhi⟩, show entry.2.logicalPos.toNat = i by omega]
  exact List.getElem?_set_self hi

theorem getElem?_tabMapStep_of_not_shown {tabMap : List Json} {entry : String × BrowserPage} {i : ℕ}
    (h : ¬ ShownAt entry i) : (Browser.tabMapStep tabMap entry)[i]? = tabMap[i]? := by
  unfold Browser.tabMapStep
  split
  · next hrange =>
    refine List.getElem?_set_ne fun heq => h ⟨hrange.1, hrange.2, ?_⟩
    omega
  · rfl

/-- A place where no page is shown keeps its entry. -/
theorem getElem?_foldl_of_not_shown {entries : List (String × BrowserPage)} {i : ℕ}
    (h : ∀ entry ∈ entries, ¬ ShownAt entry i) (tabMap : List Json) :
    (entries.foldl Browser.tabMapStep tabMap)[i]? = tabMap[i]? := by
  induction entries generalizing tabMap with
  | nil => rfl
  | cons entry entries ih =>
    obtain ⟨hentry, hentries⟩ := List.forall_mem_cons.mp h
    rw [List.foldl_cons, ih hentries, getElem?_tabMapStep_of_not_shown hentry]

/-- A place where one page is shown gets its id. -/
theorem getElem?_foldl_of_shown {entries : List (String × BrowserPage)} {i : ℕ}
    {entry : String × BrowserPage} (hmem : entry ∈ entries) (hshown : ShownAt entry i)
    (hone : ∀ other ∈ entries, ShownAt other i → other = entry) {tabMap : List Json}
    (hi : i < tabMap.length) :
    (entries.foldl Browser.tabMapStep tabMap)[i]? = some (.str entry.1) := by
  induction entries generalizing tabMap with
  | nil => exact nomatch hmem
  | cons first entries ih =>
    obtain ⟨hfirst, hentries⟩ := List.forall_mem_cons.mp hone
    rw [List.foldl_cons]
    by_cases hlater : entry ∈ entries
    · exact ih hlater hentries (by rwa [length_tabMapStep])
    · -- then it is the first one, and nobody after it is shown there
      obtain rfl : entry = first := by
        rcases List.mem_cons.mp hmem with h | h
        · exact h
        · exact absurd h hlater
      rw [getElem?_foldl_of_not_shown fun other hother hs => hlater (hentries other hother hs ▸ hother)]
      exact getElem?_tabMapStep_of_shown hshown hi

/-- The pages of a browser are where they belong. -/
structure PagesPlaced (b : Browser) : Prop where
  inRange : ∀ (id : String) (p : BrowserPage), b.list[id]? = some p → isExtraPage p = false →
    0 ≤ p.logicalPos ∧ p.logicalPos < MAX_TABS
  distinct : ∀ (id id' : String) (p p' : BrowserPage), b.list[id]? = some p →
    b.list[id']? = some p' → isExtraPage p = false → isExtraPage p' = false →
    p.logicalPos = p'.logicalPos → id = id'
  zone : ∀ (id : String) (p : BrowserPage), b.list[id]? = some p → IsZone p.preferredPos →
    zoneStart p.preferredPos ≤ p.logicalPos ∧ p.logicalPos ≤ zoneEnd p.preferredPos
  absolute : ∀ (id : String) (p : BrowserPage), b.list[id]? = some p → 0 ≤ p.preferredPos →
    p.logicalPos = p.preferredPos
  oneExtra : ∀ (id id' : String) (p p' : BrowserPage), b.list[id]? = some p →
    b.list[id']? = some p' → isExtraPage p = true → isExtraPage p' = true → id = id'
  extra : ∀ (id : String) (p : BrowserPage), b.list[id]? = some p → isExtraPage p = true →
    p.logicalPos = POS_EXTRA

/-- The array has each normal page of the browser once, at its position, and -1 everywhere else. -/
structure TabMapShows (b : Browser) (tabMap : List Json) : Prop where
  length : tabMap.length = MAX_TABS
  live : ∀ (id : String) (p : BrowserPage), b.list[id]? = some p → isExtraPage p = false →
    ∀ i : ℕ, tabMap[i]? = some (.str id) ↔ (i : ℤ) = p.logicalPos
  free : ∀ i : ℕ, i < MAX_TABS →
    (∀ (id : String) (p : BrowserPage), b.list[id]? = some p → isExtraPage p = false →
      p.logicalPos ≠ i) → tabMap[i]? = some (.int (-1))

/-- `GetTabMap` succeeds, changes nothing, and answers with such an array. -/
def AnswersTabMap (b : Browser) : Prop :=
  ∃ tabMap, b.exec .GetTabMap = some (b, { result := .OK, payload := .arr tabMap }) ∧ TabMapShows b tabMap

theorem WellLaid.pagesPlaced {b : Browser} (h : WellLaid b) : PagesPlaced b := by
  obtain ⟨L, hL⟩ := h
  have hslot : ∀ {id : String} {p : BrowserPage}, b.list[id]? = some p → L.slots id = some p.slot :=
    fun hp => hL ▸ Browser.slots_eq_some_iff.mpr ⟨_, hp, rfl⟩
  have hpos : ∀ {id : String} {p : BrowserPage}, b.list[id]? = some p → isExtraPage p = false →
      positions L.slots id = some p.logicalPos := fun hp hne =>
    positions_eq_some_iff.mpr ⟨_, hslot hp, of_decide_eq_false hne, rfl⟩
  exact {
    inRange := fun id p hp hne => (L.wellPlaced (hslot hp)).normal (of_decide_eq_false hne)
    distinct := fun id id' p p' hp hp' hne hne' heq =>
      L.distinct (hpos hp hne) ((hpos hp' hne').trans (congrArg some heq.symm))
    zone := fun id p hp => (L.wellPlaced (hslot hp)).zone
    absolute := fun id p hp => (L.wellPlaced (hslot hp)).absolute
    oneExtra := fun id id' p p' hp hp' he he' =>
      L.oneExtra (hslot hp) (hslot hp') (of_decide_eq_true he) (of_decide_eq_true he')
    extra := fun id p hp he => (L.wellPlaced (hslot hp)).extra (of_decide_eq_true he) }

theorem PagesPlaced.tabMapShows {b : Browser} (h : PagesPlaced b) : TabMapShows b b.tabMap := by
  -- a shown page is a normal one, so it is the only one at its place
  have hnormal : ∀ {entry : String × BrowserPage} {i : ℕ}, entry ∈ b.list.toList →
      ShownAt entry i → isExtraPage entry.2 = false := by
    rintro ⟨id, p⟩ i hmem ⟨hlo, -, -⟩
    by_contra he
    rw [Bool.not_eq_false] at he
    rw [h.extra id p (Browser.mem_toList_iff.mp hmem) he] at hlo
    exact absurd hlo (by decide)
  have hshown : ∀ {id : String} {p : BrowserPage}, b.list[id]? = some p → isExtraPage p = false →
      ∀ {i : ℕ}, (i : ℤ) = p.logicalPos → b.tabMap[i]? = some (.str id) := by
    intro id p hp hne i hi
    obtain ⟨hlo, hhi⟩ := h.inRange id p hp hne
    refine getElem?_foldl_of_shown (Browser.mem_toList_iff.mpr hp : (id, p) ∈ b.list.toList)
      ⟨hlo, hhi, hi.symm⟩ ?_ (by rw [List.length_replicate]; omega)
    rintro ⟨id', p'⟩ hmem hs
    have hp' := Browser.mem_toList_iff.mp hmem
    obtain rfl := h.distinct id' id p' p hp' hp (hnormal hmem hs) hne (hs.2.2.trans hi)
    rw [Option.some.inj (hp'.symm.trans hp)]
  have hfree : ∀ i : ℕ, i < MAX_TABS → (∀ (id : String) (p : BrowserPage), b.list[id]? = some p →
      isExtraPage p = false → p.logicalPos ≠ i) → b.tabMap[i]? = some (.int (-1)) := by
    intro i hi hnobody
    rw [Browser.tabMap, getElem?_foldl_of_not_shown]
    · exact List.getElem?_replicate_of_lt (by omega)
    · rintro ⟨id, p⟩ hmem hs
      exact hnobody id p (Browser.mem_toList_iff.mp hmem) (hnormal hmem hs) hs.2.2
  refine ⟨congrArg Int.ofNat (length_tabMap b), fun id p hp hne i => ⟨fun hi => ?_, hshown hp hne⟩,
    hfree⟩
  -- an id at place `i` is the id of the page that is shown there
  have hlt : (i : ℤ) < 20 := by
    have := (List.getElem?_eq_some_iff.mp hi).1
    rw [length_tabMap] at this
    omega
  by_contra hne'
  by_cases hsome : ∃ (id' : String) (p' : BrowserPage), b.list[id']? = some p' ∧
      isExtraPage p' = false ∧ p'.logicalPos = i
  · obtain ⟨id', p', hp', hn', hpos'⟩ := hsome
    have hid := (hshown hp' hn' hpos'.symm).symm.trans hi
    simp only [Option.some.injEq, Json.str.injEq] at hid
    subst hid
    exact hne' (Option.some.inj (hp.symm.trans hp') ▸ hpos'.symm)
  · have := (hfree i hlt fun id' p' hp' hn' hpos' => hsome ⟨id', p', hp', hn', hpos'⟩).symm.trans hi
    simp at this

/-- **Every run of the browser keeps the tabs in order.**  The pages are where they belong, and what `GetTabMap`
answers shows it. -/
theorem tabMap_of_run {runtimeConfig : RuntimeConfig} {signals : List Browser.Signal} {b : Browser}
    (h : Run.Steps BrowserStep (Browser.new runtimeConfig) signals b) :
    PagesPlaced b ∧ AnswersTabMap b := by
  have hplaced := (wellLaid_of_run h).pagesPlaced
  exact ⟨hplaced, b.tabMap, rfl, hplaced.tabMapShows⟩

/-- Two pages of the first zone, the extra page, a navigation that swaps the two, and a kill. -/
theorem tabMap_of_run_swapped : ∃ b,
    Run.Steps BrowserStep (Browser.new {})
      [.NewWebTab "m" "" POS_BEGINNING 0 "a", .NewWebTab "k" "" POS_BEGINNING 0 "b",
        .NewWebTab "x" "" POS_EXTRA 0 "c", .NavigateTo "b" "z", .KillTab "a" true] b ∧
      b.list["b"]?.map BrowserPage.logicalPos = some 1 ∧ PagesPlaced b ∧ AnswersTabMap b := by
  have hrun : Run.Steps BrowserStep (Browser.new {})
      [.NewWebTab "m" "" POS_BEGINNING 0 "a", .NewWebTab "k" "" POS_BEGINNING 0 "b",
        .NewWebTab "x" "" POS_EXTRA 0 "c", .NavigateTo "b" "z", .KillTab "a" true] _ :=
    .cons ⟨(by decide : ¬ _ ∈ _), _, rfl⟩ (.cons ⟨(by decide : ¬ _ ∈ _), _, rfl⟩
      (.cons ⟨(by decide : ¬ _ ∈ _), _, rfl⟩ (.cons ⟨trivial, _, rfl⟩ (.cons ⟨trivial, _, rfl⟩ (.nil _)))))
  exact ⟨_, hrun, by decide, tabMap_of_run hrun⟩

end OpenMadt.Gui
