import Mathlib.Data.Int.Notation
import Mathlib.Data.Nat.Notation
import Std.Data.ExtTreeMap
import Std.Data.ExtTreeSet

/-!
# Types shared by the whole model

A `std::string` of received or encoded data is a list of bytes; a `std::string` taken out of a JSON
value is a `String`, since the JSON library only holds well-formed UTF-8, and `std::string`'s byte
order is the code-point order of `String`.  A `std::map` is Lean's ordered map, with equality by
content.
-/

namespace OpenMadt

/-- A `std::string` of raw data. -/
abbrev Bytes := List UInt8

/-- The bytes of a text. -/
def utf8 (s : String) : Bytes := s.toUTF8.data.toList

/-- A `struct bufferevent*`: the address that stands for a connection while it is open. -/
abbrev Conn := ℕ

/-- `std::map<K, V>`. -/
abbrev StdMap (K V : Type) [Ord K] := Std.ExtTreeMap K V compare

/-- `std::set<K>`. -/
abbrev StdSet (K : Type) [Ord K] := Std.ExtTreeSet K compare

section StdMap

variable {K V : Type} [Ord K] [Std.TransOrd K] [Std.LawfulEqOrd K] [DecidableEq K]

/-- `operator[]` and `erase`, in terms of equal keys. -/
theorem StdMap.getElem?_insert (m : StdMap K V) (key k : K) (v : V) :
    (m.insert key v)[k]? = if key = k then some v else m[k]? := by
  simp only [Std.ExtTreeMap.getElem?_insert, Std.LawfulEqOrd.compare_eq_iff_eq]

theorem StdMap.getElem?_erase (m : StdMap K V) (key k : K) :
    (m.erase key)[k]? = if key = k then none else m[k]? := by
  simp only [Std.ExtTreeMap.getElem?_erase, Std.LawfulEqOrd.compare_eq_iff_eq]

end StdMap

/-- Taking a new entry out again. -/
theorem StdMap.erase_insert {K V : Type} [Ord K] [Std.TransOrd K] [Std.LawfulEqOrd K]
    {m : StdMap K V} {k : K} (h : k ∉ m) (v : V) : (m.insert k v).erase k = m := by
  refine Std.ExtTreeMap.ext_getElem? fun a => ?_
  rw [Std.ExtTreeMap.getElem?_erase, Std.ExtTreeMap.getElem?_insert]
  split
  next heq =>
    rw [Std.LawfulEqOrd.compare_eq_iff_eq] at heq
    rw [← heq, Std.ExtTreeMap.getElem?_eq_none h]
  next => rfl

/-- Changing a new entry. -/
theorem StdMap.modify_insert {K V : Type} [Ord K] [Std.TransOrd K] [Std.LawfulEqOrd K]
    (m : StdMap K V) (k : K) (v : V) (f : V → V) : (m.insert k v).modify k f = m.insert k (f v) := by
  refine Std.ExtTreeMap.ext_getElem? fun a => ?_
  simp only [Std.ExtTreeMap.getElem?_modify, Std.ExtTreeMap.getElem?_insert]
  split
  · simp
  · rfl

end OpenMadt
