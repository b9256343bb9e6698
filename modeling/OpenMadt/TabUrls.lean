import OpenMadt.Library.Separators
import OpenMadt.Server

/-!
# The id of a tab in its URL

With `FLAG_APPEND_ID` the page of a new tab is told the id of the tab, as one more parameter of the query
of its URL.  The code appends the parameter to the text, and looks for a question mark only.

* `toList_render` — without a fragment, this adds a parameter to the query.
* `fragment_buildWebTabUrl` — with a fragment, it adds a piece to the fragment.
* `tabUrlMeant_iff` — when the page finds its id in the query.
-/

namespace OpenMadt.Server

open Separators

/-- The parameter for the tab. -/
def tabParameter (tabId : String) : List Char := ("tabid=" ++ tabId).toList

/-- The page under `url` finds the id of its tab behind the parameters of the requested URL, and the rest of
that is as it was. -/
structure TellsTabId (requestedUrl tabId url : String) : Prop where
  base : (Url.parse url.toList).base = (Url.parse requestedUrl.toList).base
  fragment : (Url.parse url.toList).fragment = (Url.parse requestedUrl.toList).fragment
  parameters : (Url.parse url.toList).parameters
    = (Url.parse requestedUrl.toList).parameters ++ [tabParameter tabId]

/-- What the flag is for. -/
def TabUrlMeant (requestedUrl tabId : String) (flags : ℤ) : Prop :=
  (flags % 2 = 0 → buildWebTabUrl requestedUrl tabId flags = requestedUrl)
    ∧ (flags % 2 ≠ 0 → TellsTabId requestedUrl tabId (buildWebTabUrl requestedUrl tabId flags))

variable {requestedUrl tabId : String} {flags : ℤ}

theorem buildWebTabUrl_of_unset (h : flags % 2 = 0) :
    buildWebTabUrl requestedUrl tabId flags = requestedUrl := if_pos h

/-- The text with the flag. -/
theorem toList_buildWebTabUrl (h : flags % 2 ≠ 0) :
    (buildWebTabUrl requestedUrl tabId flags).toList
      = requestedUrl.toList ++ (if '?' ∈ requestedUrl.toList then '&' else '?') :: tabParameter tabId := by
  unfold buildWebTabUrl tabParameter
  rw [if_neg h]
  by_cases hmark : '?' ∈ requestedUrl.toList
  · rw [if_pos hmark, if_pos hmark]
    simp
  · rw [if_neg hmark, if_neg hmark]
    simp

theorem tabParameter_ne_nil (tabId : String) : tabParameter tabId ≠ [] := by
  intro hnil
  have hlength := congrArg List.length hnil
  simp [tabParameter] at hlength

theorem mem_tabParameter {c : Char} (hc : c ∉ "tabid=".toList) :
    c ∈ tabParameter tabId ↔ c ∈ tabId.toList := by
  rw [tabParameter, String.toList_append, List.mem_append]
  exact or_iff_right hc

/-! ### Without a fragment -/

/-- **Appending to the text adds a parameter**, if the requested URL has no fragment. -/
theorem toList_render (hflag : flags % 2 ≠ 0) (hurl : '#' ∉ requestedUrl.toList)
    (hid : '#' ∉ tabParameter tabId) :
    (buildWebTabUrl requestedUrl tabId flags).toList
      = ((Url.parse requestedUrl.toList).withParameter (tabParameter tabId) hid).render := by
  have hnone : (Url.parse requestedUrl.toList).fragment = none := Url.fragment_eq_none_iff.mpr hurl
  have htext : join '?' (Url.parse requestedUrl.toList).base (Url.parse requestedUrl.toList).query
      = requestedUrl.toList := by
    have hrender := Url.render_parse requestedUrl.toList
    rwa [Url.render, hnone] at hrender
  rw [toList_buildWebTabUrl hflag]
  show _ = join '#' (join '?' (Url.parse requestedUrl.toList).base
    (some (Url.extend (tabParameter tabId) (Url.parse requestedUrl.toList).query)))
    (Url.parse requestedUrl.toList).fragment
  rw [hnone, join_none, join_some]
  cases hquery : (Url.parse requestedUrl.toList).query with
  | none =>
    -- the base is all there is, and it has no question mark
    rw [hquery, join_none] at htext
    have hmark : '?' ∉ requestedUrl.toList := by
      rw [← htext]
      exact (Url.parse requestedUrl.toList).base_plain.1
    rw [if_neg hmark, htext]
    rfl
  | some q =>
    rw [hquery, join_some] at htext
    have hmark : '?' ∈ requestedUrl.toList := by
      rw [← htext]
      exact List.mem_append_right _ List.mem_cons_self
    calc requestedUrl.toList ++ (if '?' ∈ requestedUrl.toList then '&' else '?') :: tabParameter tabId
        = ((Url.parse requestedUrl.toList).base ++ '?' :: q) ++ '&' :: tabParameter tabId := by
          rw [if_pos hmark, htext]
      _ = (Url.parse requestedUrl.toList).base ++ '?' :: (q ++ '&' :: tabParameter tabId) :=
          List.append_assoc _ _ _

theorem tellsTabId_of_plain (hflag : flags % 2 ≠ 0) (hurl : '#' ∉ requestedUrl.toList)
    (hhash : '#' ∉ tabId.toList) (hamp : '&' ∉ tabId.toList) :
    TellsTabId requestedUrl tabId (buildWebTabUrl requestedUrl tabId flags) := by
  have hid : '#' ∉ tabParameter tabId := by rwa [mem_tabParameter (by decide)]
  have hid' : '&' ∉ tabParameter tabId := by rwa [mem_tabParameter (by decide)]
  have hparse : Url.parse (buildWebTabUrl requestedUrl tabId flags).toList
      = (Url.parse requestedUrl.toList).withParameter (tabParameter tabId) hid := by
    rw [toList_render hflag hurl hid, Url.parse_render]
  constructor
  · rw [hparse]
    rfl
  · rw [hparse]
    rfl
  · rw [hparse]
    exact Url.parameters_withParameter _ hid hid' (tabParameter_ne_nil tabId)

/-! ### With a fragment -/

/-- **Appending to the text adds to the fragment**, if the requested URL has one. -/
theorem fragment_buildWebTabUrl (hflag : flags % 2 ≠ 0) {fragment : List Char}
    (h : (Url.parse requestedUrl.toList).fragment = some fragment) :
    Url.parse (buildWebTabUrl requestedUrl tabId flags).toList
      = { Url.parse requestedUrl.toList with
          fragment := some (fragment
            ++ (if '?' ∈ requestedUrl.toList then '&' else '?') :: tabParameter tabId) } := by
  have hcut : cut '#' (requestedUrl.toList ++ _) = _ := cut_append_right h
    ((if '?' ∈ requestedUrl.toList then '&' else '?') :: tabParameter tabId)
  rw [← toList_buildWebTabUrl hflag] at hcut
  ext1
  · show (cut '?' (cut '#' _).1).1 = (cut '?' (cut '#' _).1).1
    rw [hcut]
  · show (cut '?' (cut '#' _).1).2 = (cut '?' (cut '#' _).1).2
    rw [hcut]
  · show (cut '#' _).2 = _
    rw [hcut]

theorem TellsTabId.plain (hflag : flags % 2 ≠ 0)
    (h : TellsTabId requestedUrl tabId (buildWebTabUrl requestedUrl tabId flags)) :
    '#' ∉ requestedUrl.toList ∧ '#' ∉ tabId.toList ∧ '&' ∉ tabId.toList := by
  have hurl : '#' ∉ requestedUrl.toList := by
    cases hfragment : (Url.parse requestedUrl.toList).fragment with
    | none => exact Url.fragment_eq_none_iff.mp hfragment
    | some fragment =>
      -- the fragment is longer than the requested one
      have hsame := h.fragment
      rw [fragment_buildWebTabUrl hflag hfragment, hfragment] at hsame
      have hlength := congrArg List.length (Option.some.inj hsame)
      rw [List.length_append, List.length_cons] at hlength
      omega
  refine ⟨hurl, ?_, ?_⟩
  · have hnone : '#' ∉ (buildWebTabUrl requestedUrl tabId flags).toList := by
      rw [← Url.fragment_eq_none_iff, h.fragment, Url.fragment_eq_none_iff]
      exact hurl
    rw [toList_buildWebTabUrl hflag] at hnone
    intro hmem
    refine hnone (List.mem_append_right _ (List.mem_cons_of_mem _ ?_))
    exact (mem_tabParameter (by decide)).mpr hmem
  · have hlast : tabParameter tabId ∈ (Url.parse (buildWebTabUrl requestedUrl tabId flags).toList).parameters := by
      rw [h.parameters]
      exact List.mem_append_right _ (List.mem_singleton_self _)
    intro hmem
    exact Url.not_mem_of_mem_parameters hlast ((mem_tabParameter (by decide)).mpr hmem)

/-- **When the page finds its id.**  For every requested URL, id and flags: the URL that is built is what the
flag asks for if and only if the flag is not set, or the requested URL has no `#` and the id has no `#` and
no `&`. -/
theorem tabUrlMeant_iff (requestedUrl tabId : String) (flags : ℤ) :
    TabUrlMeant requestedUrl tabId flags
      ↔ flags % 2 = 0
        ∨ ('#' ∉ requestedUrl.toList ∧ '#' ∉ tabId.toList ∧ '&' ∉ tabId.toList) := by
  by_cases hflag : flags % 2 = 0
  · have hmeant : TabUrlMeant requestedUrl tabId flags :=
      ⟨fun _ => buildWebTabUrl_of_unset hflag, fun hset => absurd hflag hset⟩
    exact iff_of_true hmeant (Or.inl hflag)
  · constructor
    · intro hmeant
      exact Or.inr ((hmeant.2 hflag).plain hflag)
    · intro hplain
      obtain ⟨hurl, hhash, hamp⟩ := hplain.resolve_left hflag
      exact ⟨fun hunset => absurd hunset hflag, fun _ => tellsTabId_of_plain hflag hurl hhash hamp⟩

/-- The query of `/?` is there, and has no parameters. -/
example : (Url.parse (buildWebTabUrl "http://kiosk/?" "7" 1).toList).parameters = ["tabid=7".toList] := by
  decide

/-- The id of the tab is put behind the anchor. -/
theorem fragment_takes_tabId :
    buildWebTabUrl "http://kiosk/#top" "00000000-0000-0000-0000-00000000000f" 1
        = "http://kiosk/#top?tabid=00000000-0000-0000-0000-00000000000f"
      ∧ ¬ TabUrlMeant "http://kiosk/#top" "00000000-0000-0000-0000-00000000000f" 1 := by
  have hurl : buildWebTabUrl "http://kiosk/#top" "00000000-0000-0000-0000-00000000000f" 1
      = "http://kiosk/#top?tabid=00000000-0000-0000-0000-00000000000f" := by
    decide
  have hfragment : (Url.parse "http://kiosk/#top?tabid=00000000-0000-0000-0000-00000000000f".toList).fragment
      ≠ (Url.parse "http://kiosk/#top".toList).fragment := by
    decide
  refine ⟨hurl, fun hmeant => ?_⟩
  have htells := hmeant.2 (by decide)
  rw [hurl] at htells
  exact hfragment htells.fragment

end OpenMadt.Server
