import Mathlib.Data.List.Nodup
import Mathlib.Data.Nat.Notation

/-!
# Putting a list in order by single moves

A list with the right members in the wrong order is repaired place by place: the member that belongs
at place `k` is taken out from where it is and put in at `k`, which shifts all members in between.
The invariant is that after `k` rounds the first `k` places are right, and the others hold what is
left.

* `moveTo` — one move; `moveTo_append` says what it does behind a prefix that is right already.
* `foldl_moves` — all the moves together, in any state that has such a list.
-/

namespace Reorder

variable {α : Type} [DecidableEq α]

/-- Take `a` out of the list and put it in at place `k`. -/
def moveTo (xs : List α) (a : α) (k : ℕ) : List α := (xs.eraseIdx (xs.idxOf a)).insertIdx k a

omit [DecidableEq α] in
theorem insertIdx_length_append (pre xs : List α) (a : α) :
    (pre ++ xs).insertIdx pre.length a = pre ++ a :: xs := by
  induction pre with
  | nil => rfl
  | cons p pre ih =>
    rw [List.cons_append, List.length_cons, List.insertIdx_succ_cons, ih, List.cons_append]

/-- A move to the place behind `pre`. -/
theorem moveTo_append {pre left right : List α} {a : α} (h : a ∉ pre ++ left) :
    moveTo (pre ++ left ++ a :: right) a pre.length = pre ++ a :: (left ++ right) := by
  have hidx : (pre ++ left ++ a :: right).idxOf a = (pre ++ left).length := by
    rw [List.idxOf_append, if_neg h, List.idxOf_cons_self, Nat.zero_add]
  rw [moveTo, hidx, List.eraseIdx_append_of_length_le (Nat.le_refl _), Nat.sub_self, List.eraseIdx_cons_zero,
    List.append_assoc, insertIdx_length_append]

/-- A member that is at its place already is not moved. -/
theorem moveTo_self {xs : List α} {a : α} (h : a ∈ xs) : moveTo xs a (xs.idxOf a) = xs := by
  obtain ⟨pre, right, rfl, hpre⟩ := List.eq_append_cons_of_mem h
  have hidx : (pre ++ a :: right).idxOf a = pre.length := by
    rw [List.idxOf_append, if_neg hpre, List.idxOf_cons_self, Nat.zero_add]
  rw [hidx]
  have hnot : a ∉ pre ++ [] := by rwa [List.append_nil]
  simpa using moveTo_append hnot

/-- **Moving every member to its place.**  A state whose members are moved one after the other, each
to the place that its name has in `ys`, has its members in the order of `ys` in the end. -/
theorem foldl_moves {S β : Type} {members : S → List α} {step : S → β × ℕ → S} {name : β → α}
    (hstep : ∀ s y k, name y ∈ members s → members (step s (y, k)) = moveTo (members s) (name y) k)
    {pre xs : List α} {ys : List β} {s : S} (hs : members s = pre ++ xs)
    (hperm : xs.Perm (ys.map name)) (hnodup : (pre ++ xs).Nodup) :
    members ((ys.zipIdx pre.length).foldl step s) = pre ++ ys.map name := by
  induction ys generalizing pre xs s with
  | nil =>
    rw [hperm.eq_nil] at hs
    exact hs
  | cons y ys ih =>
    -- the next member is somewhere behind the prefix
    have hmem : name y ∈ xs := hperm.mem_iff.mpr List.mem_cons_self
    obtain ⟨left, right, rfl⟩ := List.append_of_mem hmem
    have hrest : (left ++ right).Perm (ys.map name) := (List.perm_middle.symm.trans hperm).cons_inv
    have hmiddle : (pre ++ name y :: (left ++ right)).Nodup :=
      (List.perm_middle.append_left pre).nodup_iff.mp hnodup
    have hnot : name y ∉ pre ++ left := by
      have hfirst := (List.nodup_cons.mp (List.nodup_middle.mp hmiddle)).1
      rw [← List.append_assoc] at hfirst
      exact fun h => hfirst (List.mem_append_left right h)
    have hmove : members (step s (y, pre.length)) = (pre ++ [name y]) ++ (left ++ right) := by
      rw [hstep s y pre.length (hs ▸ List.mem_append_right pre hmem), hs, ← List.append_assoc,
        moveTo_append hnot]
      simp
    have hlater := ih hmove hrest (by simpa using hmiddle)
    rw [List.length_append, List.length_singleton] at hlater
    rw [List.zipIdx_cons, List.foldl_cons, hlater, List.map_cons, List.append_assoc,
      List.singleton_append]

end Reorder
