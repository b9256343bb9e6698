import Mathlib.Logic.Function.Basic
import Mathlib.Order.Defs.LinearOrder

/-!
# Registries of leased items

A registry holds items under ids.  An item has a tag, which stays, and may have a deadline, which is set
anew whenever its lease is renewed.  An item without a deadline does not expire.

* `register`, `renew` — an item comes in, or its lease is renewed.
* `without` — all items with some property go at once; `drop` and `expire` are the two cases of it.
* `live_register_iff`, `live_renew_iff`, `live_without_iff` — which items are live after each of them.
* `tags` — the tags alone; `tags_register`, `tags_renew`, `tags_of_without` — what becomes of them.
-/

namespace Registry

/-- An item, with the deadline of its lease if it has one. -/
structure Item (Tag Time : Type) where
  tag : Tag
  deadline : Option Time := none

/-- The item is due at this time. -/
def Item.Due {Tag Time : Type} [LE Time] (now : Time) (item : Item Tag Time) : Prop :=
  ∃ deadline, item.deadline = some deadline ∧ deadline ≤ now

end Registry

/-- Items under ids. -/
abbrev Registry (Id Tag Time : Type) := Id → Option (Registry.Item Tag Time)

namespace Registry

variable {Id Tag Time : Type}

/-- Nothing. -/
def empty : Registry Id Tag Time := fun _ => none

/-- There is an item under this id. -/
def Live (r : Registry Id Tag Time) (id : Id) : Prop := (r id).isSome = true

theorem live_iff {r : Registry Id Tag Time} {id : Id} : r.Live id ↔ ∃ item, r id = some item :=
  Option.isSome_iff_exists

theorem not_live_empty (id : Id) : ¬ (empty : Registry Id Tag Time).Live id := Bool.false_ne_true

/-- The tags, whatever the leases. -/
def tags (r : Registry Id Tag Time) (id : Id) : Option Tag := (r id).map Item.tag

theorem isSome_tags (r : Registry Id Tag Time) (id : Id) : (r.tags id).isSome = true ↔ r.Live id := by
  rw [tags, Option.isSome_map]
  rfl

/-! ### Items that come in -/

section

variable [DecidableEq Id]

/-- A new item, without a lease. -/
def register (r : Registry Id Tag Time) (id : Id) (tag : Tag) : Registry Id Tag Time :=
  Function.update r id (some { tag := tag })

theorem register_self (r : Registry Id Tag Time) (id : Id) (tag : Tag) :
    r.register id tag id = some { tag := tag } := Function.update_self id _ r

theorem register_of_ne (r : Registry Id Tag Time) {id a : Id} (tag : Tag) (h : a ≠ id) :
    r.register id tag a = r a := Function.update_of_ne h _ r

theorem live_register_iff {r : Registry Id Tag Time} {id a : Id} {tag : Tag} :
    (r.register id tag).Live a ↔ a = id ∨ r.Live a := by
  by_cases ha : a = id
  · rw [ha, Live, register_self]
    exact iff_of_true rfl (Or.inl rfl)
  · rw [Live, register_of_ne r tag ha]
    exact (or_iff_right ha).symm

/-- The lease of the item under this id, if there is one, is renewed. -/
def renew (r : Registry Id Tag Time) (id : Id) (deadline : Time) : Registry Id Tag Time :=
  Function.update r id ((r id).map fun item => { item with deadline := some deadline })

theorem renew_self (r : Registry Id Tag Time) (id : Id) (deadline : Time) :
    r.renew id deadline id = (r id).map fun item => { item with deadline := some deadline } :=
  Function.update_self id _ r

theorem renew_of_ne (r : Registry Id Tag Time) {id a : Id} (deadline : Time) (h : a ≠ id) :
    r.renew id deadline a = r a := Function.update_of_ne h _ r

theorem tags_register (r : Registry Id Tag Time) (id : Id) (tag : Tag) :
    (r.register id tag).tags = Function.update r.tags id (some tag) := by
  funext a
  by_cases ha : a = id
  · rw [ha, tags, register_self, Function.update_self]
    rfl
  · rw [tags, register_of_ne r tag ha, Function.update_of_ne ha, tags]

/-- No tag changes, and nothing comes or goes. -/
theorem tags_renew (r : Registry Id Tag Time) (id : Id) (deadline : Time) :
    (r.renew id deadline).tags = r.tags := by
  funext a
  by_cases ha : a = id
  · rw [ha, tags, renew_self, Option.map_map]
    rfl
  · rw [tags, renew_of_ne r deadline ha, tags]

theorem live_renew_iff {r : Registry Id Tag Time} {id a : Id} {deadline : Time} :
    (r.renew id deadline).Live a ↔ r.Live a := by
  rw [← isSome_tags, tags_renew, isSome_tags]

end

/-! ### Items that go -/

open Classical in
/-- All of these items go. -/
noncomputable def without (r : Registry Id Tag Time) (gone : Id → Item Tag Time → Prop) :
    Registry Id Tag Time := fun id => (r id).filter fun item => decide (¬ gone id item)

theorem without_eq_some_iff {r : Registry Id Tag Time} {gone : Id → Item Tag Time → Prop} {id : Id}
    {item : Item Tag Time} : r.without gone id = some item ↔ r id = some item ∧ ¬ gone id item := by
  simp only [without, Option.filter_eq_some_iff, decide_eq_true_eq]

/-- What is left had its tag before. -/
theorem tags_of_without {r : Registry Id Tag Time} {gone : Id → Item Tag Time → Prop} {id : Id} {tag : Tag}
    (h : (r.without gone).tags id = some tag) : r.tags id = some tag := by
  obtain ⟨item, hitem, rfl⟩ := Option.map_eq_some_iff.mp h
  rw [tags, (without_eq_some_iff.mp hitem).1, Option.map_some]

theorem live_without_iff {r : Registry Id Tag Time} {gone : Id → Item Tag Time → Prop} {id : Id} :
    (r.without gone).Live id ↔ ∃ item, r id = some item ∧ ¬ gone id item := by
  simp only [live_iff, without_eq_some_iff]

/-- What is live stays so, or is one of those that go. -/
theorem live_without_iff_and {r : Registry Id Tag Time} {gone : Id → Item Tag Time → Prop} {id : Id} :
    (r.without gone).Live id ↔ r.Live id ∧ ¬ ∃ item, r id = some item ∧ gone id item := by
  rw [live_without_iff, live_iff]
  constructor
  · rintro ⟨item, hitem, hkept⟩
    refine ⟨⟨item, hitem⟩, ?_⟩
    rintro ⟨item', hitem', hgone⟩
    rw [hitem, Option.some.injEq] at hitem'
    exact hkept (hitem' ▸ hgone)
  · rintro ⟨⟨item, hitem⟩, hkept⟩
    exact ⟨item, hitem, fun hgone => hkept ⟨item, hitem, hgone⟩⟩

theorem without_of_gone {r : Registry Id Tag Time} {gone : Id → Item Tag Time → Prop} {id : Id}
    (h : ∀ item, gone id item) : r.without gone id = none :=
  Option.eq_none_iff_forall_ne_some.mpr fun item hitem => (without_eq_some_iff.mp hitem).2 (h item)

theorem without_of_kept {r : Registry Id Tag Time} {gone : Id → Item Tag Time → Prop} {id : Id}
    (h : ∀ item, ¬ gone id item) : r.without gone id = r id :=
  Option.ext fun item => without_eq_some_iff.trans (and_iff_left (h item))

/-- Only the items that are there count. -/
theorem without_congr {r : Registry Id Tag Time} {gone gone' : Id → Item Tag Time → Prop}
    (h : ∀ id item, r id = some item → (gone id item ↔ gone' id item)) :
    r.without gone = r.without gone' := by
  funext id
  refine Option.ext fun item => ?_
  rw [without_eq_some_iff, without_eq_some_iff]
  exact and_congr_right fun hitem => not_congr (h id item hitem)

/-- If none of these items is there, nothing happens. -/
theorem without_eq_self {r : Registry Id Tag Time} {gone : Id → Item Tag Time → Prop}
    (h : ∀ id item, r id = some item → ¬ gone id item) : r.without gone = r := by
  funext id
  refine Option.ext fun item => ?_
  rw [without_eq_some_iff]
  exact and_iff_left_of_imp (h id item)

/-- The item under this id goes. -/
noncomputable def drop (r : Registry Id Tag Time) (id : Id) : Registry Id Tag Time :=
  r.without fun a _ => a = id

/-- All items go that are due. -/
noncomputable def expire [LE Time] (r : Registry Id Tag Time) (now : Time) : Registry Id Tag Time :=
  r.without fun _ item => item.Due now

end Registry
