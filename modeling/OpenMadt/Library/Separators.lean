import Mathlib.Data.List.Basic
import Mathlib.Data.Nat.Notation

/-!
# Texts with separators

A text is cut at the first separator: in front of it there is none, and what is behind may contain
anything.  A URL is cut twice, first for its fragment and then for its query, and the query is a list of
parameters.

* `cut`, `join` — one cut, and its inverse; `append_sep_inj` says that the two fields are determined.
* `Url.parse`, `Url.render` — URLs as texts and as parts, inverse to each other.
* `Url.parameters_withParameter` — one more parameter goes behind those that are there.
-/

namespace Separators

variable {α : Type} [DecidableEq α]

/-! ### One cut -/

/-- What is in front of the first separator, and what is behind it, if there is one. -/
def cut (sep : α) : List α → List α × Option (List α)
  | [] => ([], none)
  | x :: xs => if x = sep then ([], some xs) else (x :: (cut sep xs).1, (cut sep xs).2)

/-- Put the separator back. -/
def join (sep : α) (front : List α) : Option (List α) → List α
  | none => front
  | some back => front ++ sep :: back

omit [DecidableEq α] in
@[simp] theorem join_none (sep : α) (front : List α) : join sep front none = front := rfl

omit [DecidableEq α] in
@[simp] theorem join_some (sep : α) (front back : List α) :
    join sep front (some back) = front ++ sep :: back := rfl

theorem not_mem_cut (sep : α) (xs : List α) : sep ∉ (cut sep xs).1 := by
  induction xs with
  | nil => exact List.not_mem_nil
  | cons x xs ih =>
    rw [cut]
    split
    next => exact List.not_mem_nil
    next hne =>
      intro hmem
      rcases List.mem_cons.mp hmem with hx | hmem
      · exact hne hx.symm
      · exact ih hmem

theorem cut_of_not_mem {sep : α} {xs : List α} (h : sep ∉ xs) : cut sep xs = (xs, none) := by
  induction xs with
  | nil => rfl
  | cons x xs ih =>
    rw [List.mem_cons, not_or] at h
    rw [cut, if_neg (Ne.symm h.1), ih h.2]

theorem cut_append {sep : α} {front : List α} (h : sep ∉ front) (back : List α) :
    cut sep (front ++ sep :: back) = (front, some back) := by
  induction front with
  | nil => exact if_pos rfl
  | cons x front ih =>
    rw [List.mem_cons, not_or] at h
    rw [List.cons_append, cut, if_neg (Ne.symm h.1), ih h.2]

theorem cut_join {sep : α} {front : List α} (h : sep ∉ front) (back : Option (List α)) :
    cut sep (join sep front back) = (front, back) := by
  cases back with
  | none => exact cut_of_not_mem h
  | some back => exact cut_append h back

theorem join_cut (sep : α) (xs : List α) : join sep (cut sep xs).1 (cut sep xs).2 = xs := by
  induction xs with
  | nil => rfl
  | cons x xs ih =>
    rw [cut]
    split
    next heq =>
      rw [heq]
      rfl
    next =>
      cases hback : (cut sep xs).2 with
      | none =>
        rw [hback] at ih
        exact congrArg (x :: ·) ih
      | some back =>
        rw [hback] at ih
        exact congrArg (x :: ·) ih

/-- There is a separator if something is behind it. -/
theorem cut_eq_none_iff {sep : α} {xs : List α} : (cut sep xs).2 = none ↔ sep ∉ xs := by
  constructor
  · intro hnone
    have hjoin := join_cut sep xs
    rw [hnone, join_none] at hjoin
    rw [← hjoin]
    exact not_mem_cut sep xs
  · intro hnot
    rw [cut_of_not_mem hnot]

/-- More text goes behind the last part. -/
theorem cut_append_right {sep : α} {xs back : List α} (h : (cut sep xs).2 = some back) (more : List α) :
    cut sep (xs ++ more) = ((cut sep xs).1, some (back ++ more)) := by
  have hjoin := join_cut sep xs
  rw [h, join_some] at hjoin
  calc cut sep (xs ++ more)
      = cut sep ((cut sep xs).1 ++ sep :: (back ++ more)) := by rw [← hjoin]; simp [cut_append, not_mem_cut]
    _ = ((cut sep xs).1, some (back ++ more)) := cut_append (not_mem_cut sep xs) _

/-- **A field without the separator ends at the first one.** -/
theorem append_sep_inj {sep : α} {xs xs' rest rest' : List α} (h : sep ∉ xs) (h' : sep ∉ xs')
    (heq : xs ++ sep :: rest = xs' ++ sep :: rest') : xs = xs' ∧ rest = rest' := by
  have hcut : (xs, some rest) = (xs', some rest') := by
    rw [← cut_append h rest, ← cut_append h' rest', heq]
  obtain ⟨hfront, hback⟩ := Prod.mk.inj hcut
  exact ⟨hfront, Option.some.inj hback⟩

/-! ### All pieces -/

/-- The pieces between separators contain none. -/
theorem not_mem_of_mem_splitOn {sep : α} {xs piece : List α} (h : piece ∈ xs.splitOn sep) : sep ∉ piece := by
  induction xs generalizing piece with
  | nil =>
    rw [List.splitOn_nil, List.mem_singleton] at h
    rw [h]
    exact List.not_mem_nil
  | cons x xs ih =>
    rw [List.splitOn_cons_eq_if_modifyHead] at h
    split at h
    next =>
      rcases List.mem_cons.mp h with rfl | h
      · exact List.not_mem_nil
      · exact ih h
    next hne =>
      cases hpieces : xs.splitOn sep with
      | nil => exact absurd hpieces (List.splitOn_ne_nil sep xs)
      | cons first others =>
        rw [hpieces, List.modifyHead_cons] at h
        rw [hpieces] at ih
        rcases List.mem_cons.mp h with rfl | h
        · intro hmem
          rcases List.mem_cons.mp hmem with rfl | hmem
          · exact hne BEq.rfl
          · exact ih List.mem_cons_self hmem
        · exact ih (List.mem_cons_of_mem _ h)

end Separators

open Separators

/-- A URL as parts: what is in front of `?` and `#`, the query, and the fragment. -/
@[ext] structure Url where
  base : List Char
  query : Option (List Char)
  fragment : Option (List Char)
  base_plain : '?' ∉ base ∧ '#' ∉ base
  query_plain : ∀ q ∈ query, '#' ∉ q

namespace Url

/-! ### URLs as texts -/

theorem mem_of_mem_cut {sep c : Char} {text : List Char} (h : c ∈ (cut sep text).1) : c ∈ text := by
  rw [← join_cut sep text]
  cases (cut sep text).2 with
  | none => exact h
  | some back => exact List.mem_append_left _ h

theorem mem_of_mem_cut_back {sep c : Char} {text back : List Char} (h : (cut sep text).2 = some back)
    (hmem : c ∈ back) : c ∈ text := by
  rw [← join_cut sep text, h]
  exact List.mem_append_right _ (List.mem_cons_of_mem sep hmem)

/-- The fragment begins at the first `#`, and the query at the first `?` in front of it. -/
def parse (text : List Char) : Url where
  base := (cut '?' (cut '#' text).1).1
  query := (cut '?' (cut '#' text).1).2
  fragment := (cut '#' text).2
  base_plain := ⟨not_mem_cut '?' _, fun hmem => not_mem_cut '#' text (mem_of_mem_cut hmem)⟩
  query_plain := fun _ hquery hmem => not_mem_cut '#' text (mem_of_mem_cut_back hquery hmem)

def render (u : Url) : List Char := join '#' (join '?' u.base u.query) u.fragment

theorem render_parse (text : List Char) : (parse text).render = text := by
  show join '#' (join '?' (cut '?' (cut '#' text).1).1 (cut '?' (cut '#' text).1).2) (cut '#' text).2 = text
  rw [join_cut, join_cut]

theorem hash_not_mem (u : Url) : '#' ∉ join '?' u.base u.query := by
  cases hquery : u.query with
  | none => exact u.base_plain.2
  | some q =>
    intro hmem
    rcases List.mem_append.mp hmem with hmem | hmem
    · exact u.base_plain.2 hmem
    · rcases List.mem_cons.mp hmem with hsep | hmem
      · exact absurd hsep (by decide)
      · exact u.query_plain q hquery hmem

theorem parse_render (u : Url) : parse u.render = u := by
  have hfragment : cut '#' u.render = (join '?' u.base u.query, u.fragment) := cut_join u.hash_not_mem _
  have hquery : cut '?' (join '?' u.base u.query) = (u.base, u.query) := cut_join u.base_plain.1 _
  ext1
  · show (cut '?' (cut '#' u.render).1).1 = u.base
    rw [hfragment, hquery]
  · show (cut '?' (cut '#' u.render).1).2 = u.query
    rw [hfragment, hquery]
  · show (cut '#' u.render).2 = u.fragment
    rw [hfragment]

theorem fragment_eq_none_iff {text : List Char} : (parse text).fragment = none ↔ '#' ∉ text := cut_eq_none_iff

/-! ### Parameters -/

/-- The parameters of a query: its pieces between `&`, without the empty ones. -/
def pieces : Option (List Char) → List (List Char)
  | none => []
  | some q => (q.splitOn '&').filter (· ≠ [])

/-- A query with one more parameter, which opens it if there is none. -/
def extend (p : List Char) : Option (List Char) → List Char
  | none => p
  | some q => q ++ '&' :: p

theorem pieces_extend (query : Option (List Char)) {p : List Char} (hp : '&' ∉ p) (hne : p ≠ []) :
    pieces (some (extend p query)) = pieces query ++ [p] := by
  have hsingle : (p.splitOn '&').filter (· ≠ []) = [p] := by
    rw [List.splitOn_eq_singleton hp]
    exact List.filter_cons_of_pos (decide_eq_true hne)
  cases query with
  | none => exact hsingle
  | some q =>
    show ((q ++ '&' :: p).splitOn '&').filter (· ≠ []) = (q.splitOn '&').filter (· ≠ []) ++ [p]
    rw [List.splitOn_append_cons_self, List.filter_append, hsingle]

theorem hash_not_mem_extend {query : Option (List Char)} {p : List Char} (hquery : ∀ q ∈ query, '#' ∉ q)
    (hp : '#' ∉ p) : '#' ∉ extend p query := by
  cases query with
  | none => exact hp
  | some q =>
    intro hmem
    rcases List.mem_append.mp hmem with hmem | hmem
    · exact hquery q rfl hmem
    · rcases List.mem_cons.mp hmem with hsep | hmem
      · exact absurd hsep (by decide)
      · exact hp hmem

def parameters (u : Url) : List (List Char) := pieces u.query

/-- The same URL with one more parameter. -/
def withParameter (u : Url) (p : List Char) (h : '#' ∉ p) : Url where
  base := u.base
  query := some (extend p u.query)
  fragment := u.fragment
  base_plain := u.base_plain
  query_plain := by
    intro q hq
    obtain rfl := Option.some.inj hq
    exact hash_not_mem_extend u.query_plain h

/-- **One more parameter goes behind those that are there**, also if the query is there but empty. -/
theorem parameters_withParameter (u : Url) {p : List Char} (h : '#' ∉ p) (hp : '&' ∉ p) (hne : p ≠ []) :
    (u.withParameter p h).parameters = u.parameters ++ [p] := pieces_extend u.query hp hne

/-- No parameter contains `&`. -/
theorem not_mem_of_mem_parameters {u : Url} {p : List Char} (h : p ∈ u.parameters) : '&' ∉ p := by
  unfold parameters at h
  cases hquery : u.query with
  | none =>
    rw [hquery] at h
    cases h
  | some q =>
    rw [hquery] at h
    exact not_mem_of_mem_splitOn (List.mem_filter.mp h).1

end Url
