import Mathlib.Data.List.Forall2
import Mathlib.Data.List.Induction

/-!
# Runs of a labelled transition system

A system is a relation `step s l s'`: in state `s` the event `l` may lead to `s'`.  A run is a finite
sequence of such steps.

* `Steps.invariant` — what every step keeps, every run keeps; `Steps.invariant_of` — for admitted events.
* `Steps.history` — the same for a property of the state and of the events that led to it.
* `Logged`, `Traced` — the same system with each event logged together with the state it met, and the
  state it led to.
* `Steps.split` — a run through a given event passes through a state before and a state after it.
* `Steps.forall_iff` — when all steps of a run go well, by a condition on the states before them.
* `Steps.forall_clean` — the invariant of a run whose steps all meet a condition.
* `Steps.simulates` — a run whose steps all meet a condition is answered by a run of another system.
* `Reaches` — some run leads from one state to the other.
* `Since` — something happened, and since then nothing ended it; `Steps.since_iff` — what begins and ends by
  steps of a kind holds exactly since the last one that began it; `since_iff_of_forall₂` — from one trace to
  another.
* `SinceGiven` — the same where it depends on what happened before whether something is an end;
  `since_iff_sinceGiven` — the two agree if they agree about what there is to end.
-/

namespace Run

variable {S L : Type}

/-- `Steps step s ls s'`: the events `ls`, in this order, lead from `s` to `s'`. -/
inductive Steps (step : S → L → S → Prop) : S → List L → S → Prop where
  | nil (s : S) : Steps step s [] s
  | cons {s s' s'' : S} {l : L} {ls : List L} :
      step s l s' → Steps step s' ls s'' → Steps step s (l :: ls) s''

variable {step : S → L → S → Prop} {s s' s'' : S} {l : L} {ls ls' : List L}

/-- **The invariant rule.** -/
theorem Steps.invariant (I : S → Prop) (hstep : ∀ {s l s'}, I s → step s l s' → I s')
    (h : Steps step s ls s') (hs : I s) : I s' := by
  induction h with
  | nil s => exact hs
  | cons hl _ ih => exact ih (hstep hs hl)

/-- **The same for admitted events**: what every step with an admitted event keeps, a run of them keeps. -/
theorem Steps.invariant_of (I : S → Prop) (admitted : L → Prop)
    (hstep : ∀ {s l s'}, I s → admitted l → step s l s' → I s') (h : Steps step s ls s') (hs : I s)
    (hadmitted : ∀ l ∈ ls, admitted l) : I s' := by
  induction h with
  | nil s => exact hs
  | cons hl _ ih =>
    obtain ⟨hfirst, hrest⟩ := List.forall_mem_cons.mp hadmitted
    exact ih (hstep hs hfirst hl) hrest

/-- What an invariant says about the events of a run. -/
theorem Steps.forall_events (I : S → Prop) (good : L → Prop)
    (hstep : ∀ {s l s'}, I s → step s l s' → good l ∧ I s') (h : Steps step s ls s') (hs : I s) :
    ∀ l ∈ ls, good l := by
  induction h with
  | nil s => simp
  | cons hl _ ih =>
    obtain ⟨hgood, hnext⟩ := hstep hs hl
    exact List.forall_mem_cons.mpr ⟨hgood, ih hnext⟩

/-- A run goes on with a run from where it ends. -/
theorem Steps.append (h : Steps step s ls s') (h' : Steps step s' ls' s'') :
    Steps step s (ls ++ ls') s'' := by
  induction h with
  | nil s => exact h'
  | cons hl _ ih => exact .cons hl (ih h')

/-- **The history rule**: like the invariant rule, with the events so far. -/
theorem Steps.history (I : List L → S → Prop)
    (hstep : ∀ {before s₁ l s₂}, Steps step s before s₁ → I before s₁ → step s₁ l s₂ →
      I (before ++ [l]) s₂)
    (h : Steps step s ls s') (hs : I [] s) : I ls s' := by
  have hfrom : ∀ {a b : S} {after : List L}, Steps step a after b →
      ∀ {before : List L}, Steps step s before a → I before a → I (before ++ after) b := by
    intro a b after hafter
    induction hafter with
    | nil a =>
      intro before _ hbefore
      rwa [List.append_nil]
    | cons hl _ ih =>
      intro before hrun hbefore
      have := ih (hrun.append (.cons hl (.nil _))) (hstep hrun hbefore hl)
      rwa [List.append_assoc] at this
  exact hfrom h (.nil s) hs

/-- What is read off the events, after one more. -/
theorem filterMap_concat {β : Type} (f : L → Option β) (ls : List L) (l : L) :
    (ls ++ [l]).filterMap f = ls.filterMap f ++ (f l).toList := by
  rw [List.filterMap_append]
  cases h : f l <;> simp [h]

/-- The system that logs each event together with the state in which it happens. -/
def Logged (step : S → L → S → Prop) : S → S × L → S → Prop :=
  fun s entry s' => entry.1 = s ∧ step s entry.2 s'

/-- Every run has a log. -/
theorem Steps.logged (h : Steps step s ls s') :
    ∃ log : List (S × L), log.map Prod.snd = ls ∧ Steps (Logged step) s log s' := by
  induction h with
  | nil s => exact ⟨[], rfl, .nil s⟩
  | @cons s₁ s₂ s₃ l ls hl _ ih =>
    obtain ⟨log, hlog, hrun⟩ := ih
    exact ⟨(s₁, l) :: log, by rw [List.map_cons, hlog], .cons ⟨rfl, hl⟩ hrun⟩

/-- The system that traces each event together with the states before and after it. -/
def Traced (step : S → L → S → Prop) : S → S × L × S → S → Prop :=
  fun s entry s' => entry.1 = s ∧ entry.2.2 = s' ∧ step s entry.2.1 s'

/-- Every run has a trace. -/
theorem Steps.traced (h : Steps step s ls s') :
    ∃ trace : List (S × L × S), trace.map (fun entry => entry.2.1) = ls
      ∧ Steps (Traced step) s trace s' := by
  induction h with
  | nil s => exact ⟨[], rfl, .nil s⟩
  | @cons s₁ s₂ s₃ l ls hl _ ih =>
    obtain ⟨trace, htrace, hrun⟩ := ih
    exact ⟨(s₁, l, s₂) :: trace, by rw [List.map_cons, htrace], .cons ⟨rfl, rfl, hl⟩ hrun⟩

/-- A trace is one of a run. -/
theorem Steps.untraced {trace : List (S × L × S)} (h : Steps (Traced step) s trace s') :
    Steps step s (trace.map fun entry => entry.2.1) s' := by
  induction h with
  | nil s => exact .nil s
  | cons hentry _ ih =>
    obtain ⟨rfl, rfl, hl⟩ := hentry
    exact .cons hl ih

/-- A run of a joined sequence of events stops over in between. -/
theorem Steps.of_append (h : Steps step s (ls ++ ls') s'') :
    ∃ s', Steps step s ls s' ∧ Steps step s' ls' s'' := by
  induction ls generalizing s with
  | nil => exact ⟨s, .nil s, h⟩
  | cons l ls ih =>
    cases h with
    | cons hl hrest =>
      obtain ⟨s', hleft, hright⟩ := ih hrest
      exact ⟨s', .cons hl hleft, hright⟩

/-- The states around an event of the run. -/
theorem Steps.split (h : Steps step s (ls ++ l :: ls') s'') :
    ∃ a b, Steps step s ls a ∧ step a l b ∧ Steps step b ls' s'' := by
  obtain ⟨a, hleft, hright⟩ := h.of_append
  cases hright with
  | cons hl hrest => exact ⟨a, _, hleft, hl, hrest⟩

/-- **The exact condition for a run.**  If a step that starts well goes well exactly under `clean`, and
ends where the next one starts well, then all steps of a run go well exactly if all are clean. -/
theorem Steps.forall_iff {I : S → Prop} {good : S → S → Prop} {clean : S → L → Prop}
    (hstep : ∀ {s l s'}, I s → step s l s' → (good s s' ↔ clean s l))
    (hkeep : ∀ {s l s'}, I s → step s l s' → good s s' → I s') {trace : List (S × L × S)}
    (h : Steps (Traced step) s trace s') (hs : I s) :
    (∀ entry ∈ trace, good entry.1 entry.2.2) ↔ ∀ entry ∈ trace, clean entry.1 entry.2.1 := by
  induction h with
  | nil s => simp
  | cons hentry _ ih =>
    obtain ⟨rfl, rfl, hl⟩ := hentry
    have hfirst := hstep hs hl
    simp only [List.forall_mem_cons]
    constructor
    · rintro ⟨hgood, hrest⟩
      exact ⟨hfirst.mp hgood, (ih (hkeep hs hl hgood)).mp hrest⟩
    · rintro ⟨hclean, hrest⟩
      have hgood := hfirst.mpr hclean
      exact ⟨hgood, (ih (hkeep hs hl hgood)).mpr hrest⟩

/-- **The invariant of a clean run** holds before and after each of its steps. -/
theorem Steps.forall_clean {I : S → Prop} {clean : S → L → Prop}
    (hstep : ∀ {s l s'}, I s → clean s l → step s l s' → I s') {trace : List (S × L × S)}
    (h : Steps (Traced step) s trace s') (hs : I s) (hclean : ∀ entry ∈ trace, clean entry.1 entry.2.1) :
    ∀ entry ∈ trace, I entry.1 ∧ step entry.1 entry.2.1 entry.2.2 ∧ I entry.2.2 := by
  induction h with
  | nil s => simp
  | cons hentry _ ih =>
    obtain ⟨rfl, rfl, hl⟩ := hentry
    obtain ⟨hfirst, hrest⟩ := List.forall_mem_cons.mp hclean
    have hnext := hstep hs hfirst hl
    exact List.forall_mem_cons.mpr ⟨⟨hs, hl, hnext⟩, ih hnext hrest⟩

/-- **The simulation rule.**  If every clean step is answered by a step of the other system with the same event,
so is every clean run. -/
theorem Steps.simulates {T : Type} {step' : T → L → T → Prop} {R : S → T → Prop} {clean : S → L → Prop}
    (hstep : ∀ {s t l s'}, R s t → clean s l → step s l s' → ∃ t', step' t l t' ∧ R s' t')
    {trace : List (S × L × S)} (h : Steps (Traced step) s trace s') {t : T} (hs : R s t)
    (hclean : ∀ entry ∈ trace, clean entry.1 entry.2.1) :
    ∃ t', Steps step' t (trace.map fun entry => entry.2.1) t' ∧ R s' t' := by
  induction h generalizing t with
  | nil s => exact ⟨t, .nil t, hs⟩
  | cons hentry _ ih =>
    obtain ⟨rfl, rfl, hl⟩ := hentry
    obtain ⟨hfirst, hrest⟩ := List.forall_mem_cons.mp hclean
    obtain ⟨next, hanswer, hnext⟩ := hstep hs hfirst hl
    obtain ⟨t', hsteps, hlast⟩ := ih hnext hrest
    exact ⟨t', .cons hanswer hsteps, hlast⟩

/-! ### Reachability -/

/-- Some run leads from `s` to `s'`. -/
def Reaches (step : S → L → S → Prop) (s s' : S) : Prop := ∃ ls, Steps step s ls s'

theorem Reaches.refl (step : S → L → S → Prop) (s : S) : Reaches step s s := ⟨[], .nil s⟩

theorem Reaches.trans (h : Reaches step s s') (h' : Reaches step s' s'') : Reaches step s s'' := by
  obtain ⟨ls, hleft⟩ := h
  obtain ⟨ls', hright⟩ := h'
  exact ⟨ls ++ ls', hleft.append hright⟩

/-- One step, and on from there. -/
theorem Reaches.head (hl : step s l s') (h : Reaches step s' s'') : Reaches step s s'' := by
  obtain ⟨ls, hrest⟩ := h
  exact ⟨l :: ls, .cons hl hrest⟩

/-- What every step keeps holds of all that is reached. -/
theorem Reaches.invariant (I : S → Prop) (hstep : ∀ {s l s'}, I s → step s l s' → I s')
    (h : Reaches step s s') (hs : I s) : I s' := by
  obtain ⟨ls, hrun⟩ := h
  exact hrun.invariant I hstep hs

/-! ### Since -/

/-- An entry of the trace is one of `good`, and no later one is one of `ends`. -/
def Since {E : Type} (good ends : E → Prop) (trace : List E) : Prop :=
  ∃ before entry after, trace = before ++ entry :: after ∧ good entry ∧ ∀ later ∈ after, ¬ ends later

section Since

variable {E : Type} {good ends : E → Prop} {trace : List E} {entry : E}

/-- The same where it depends on the entries before an entry whether it is an end. -/
def SinceGiven (good : E → Prop) (given : List E → E → Prop) (trace : List E) : Prop :=
  ∃ before entry after, trace = before ++ entry :: after ∧ good entry
    ∧ ∀ earlier later rest, after = earlier ++ later :: rest → ¬ given (before ++ entry :: earlier) later

theorem not_sinceGiven_nil {given : List E → E → Prop} : ¬ SinceGiven good given [] := by
  rintro ⟨before, entry, after, hsplit, -⟩
  simp at hsplit

/-- **One more entry** is a good one, or it is not the end of what was before. -/
theorem sinceGiven_append_singleton {given : List E → E → Prop} :
    SinceGiven good given (trace ++ [entry])
      ↔ good entry ∨ SinceGiven good given trace ∧ ¬ given trace entry := by
  constructor
  · rintro ⟨before, found, after, hsplit, hgood, hafter⟩
    rcases List.eq_nil_or_concat after with rfl | ⟨after, last, rfl⟩
    · obtain ⟨-, hlast⟩ := List.append_inj' hsplit rfl
      rw [List.singleton_inj.mp hlast]
      exact Or.inl hgood
    · rw [List.concat_eq_append, ← List.cons_append, ← List.append_assoc] at hsplit
      obtain ⟨rfl, hlast⟩ := List.append_inj' hsplit rfl
      obtain rfl := List.singleton_inj.mp hlast
      rw [List.concat_eq_append] at hafter
      refine Or.inr ⟨⟨before, found, after, rfl, hgood, fun earlier later rest hrest => ?_⟩, ?_⟩
      · exact hafter earlier later (rest ++ [entry]) (by rw [hrest, List.append_assoc, List.cons_append])
      · exact hafter after entry [] rfl
  · rintro (hgood | ⟨⟨before, found, after, rfl, hgood, hafter⟩, hends⟩)
    · exact ⟨trace, entry, [], rfl, hgood, by simp⟩
    · refine ⟨before, found, after ++ [entry], by simp, hgood, fun earlier later rest hrest => ?_⟩
      rcases List.eq_nil_or_concat rest with rfl | ⟨rest, last, rfl⟩
      · obtain ⟨rfl, hlast⟩ := List.append_inj' hrest rfl
        obtain rfl := List.singleton_inj.mp hlast
        exact hends
      · rw [List.concat_eq_append, ← List.cons_append, ← List.append_assoc] at hrest
        exact hafter earlier later rest (List.append_inj' hrest rfl).1

/-- Where it does not depend on them. -/
theorem since_iff : Since good ends trace ↔ SinceGiven good (fun _ later => ends later) trace := by
  refine exists_congr fun before => exists_congr fun found => exists_congr fun after =>
    and_congr_right fun _ => and_congr_right fun _ =>
      ⟨fun h earlier later rest hrest => ?_, fun h later hlater => ?_⟩
  · exact h later (by rw [hrest]; exact List.mem_append_right _ List.mem_cons_self)
  · obtain ⟨earlier, rest, hrest⟩ := List.append_of_mem hlater
    exact h earlier later rest hrest

@[simp] theorem not_since_nil : ¬ Since good ends [] := by
  rw [since_iff]
  exact not_sinceGiven_nil

/-- **One more entry** is a good one, or it is not the end. -/
theorem since_append_singleton :
    Since good ends (trace ++ [entry]) ↔ good entry ∨ Since good ends trace ∧ ¬ ends entry := by
  rw [since_iff, sinceGiven_append_singleton, ← since_iff]

theorem Since.mono {good' : E → Prop} (h : Since good ends trace)
    (hgood : ∀ entry, good entry → good' entry) : Since good' ends trace := by
  obtain ⟨before, entry, after, hsplit, hentry, hafter⟩ := h
  exact ⟨before, entry, after, hsplit, hgood entry hentry, hafter⟩

theorem Since.exists (h : Since good ends trace) : ∃ entry ∈ trace, good entry := by
  obtain ⟨before, entry, after, rfl, hgood, -⟩ := h
  exact ⟨entry, by simp, hgood⟩

/-- One more entry at the front, which only counts if nothing ends it. -/
theorem since_cons : Since good ends (entry :: trace)
    ↔ Since good ends trace ∨ good entry ∧ ∀ later ∈ trace, ¬ ends later := by
  constructor
  · rintro ⟨before, found, after, hsplit, hgood, hafter⟩
    cases before with
    | nil =>
      obtain ⟨rfl, rfl⟩ := List.cons_eq_cons.mp hsplit
      exact Or.inr ⟨hgood, hafter⟩
    | cons first before =>
      obtain ⟨rfl, rfl⟩ := List.cons_eq_cons.mp hsplit
      exact Or.inl ⟨before, found, after, rfl, hgood, hafter⟩
  · rintro (⟨before, found, after, rfl, hgood, hafter⟩ | ⟨hgood, hafter⟩)
    · exact ⟨entry :: before, found, after, rfl, hgood, hafter⟩
    · exact ⟨[], entry, trace, rfl, hgood, hafter⟩

/-- **Two traces whose entries correspond**: what begins and ends alike holds alike. -/
theorem since_iff_of_forall₂ {F : Type} {R : E → F → Prop} {good' ends' : F → Prop} {trace' : List F}
    (hgood : ∀ {e f}, R e f → (good e ↔ good' f)) (hends : ∀ {e f}, R e f → (ends e ↔ ends' f))
    (h : List.Forall₂ R trace trace') : Since good ends trace ↔ Since good' ends' trace' := by
  refine (show (Since good ends trace ↔ Since good' ends' trace')
    ∧ ((∀ later ∈ trace, ¬ ends later) ↔ ∀ later ∈ trace', ¬ ends' later) from ?_).1
  induction h with
  | nil => exact ⟨iff_of_false not_since_nil not_since_nil, by simp⟩
  | cons hentry _ ih =>
    obtain ⟨hsince, hkept⟩ := ih
    constructor
    · rw [since_cons, since_cons, hsince, hgood hentry, hkept]
    · rw [List.forall_mem_cons, List.forall_mem_cons, hends hentry, hkept]

/-- **The two agree** if they agree about what there is to end. -/
theorem since_iff_sinceGiven {given : List E → E → Prop}
    (h : ∀ before entry after, trace = before ++ entry :: after → Since good ends before →
      (ends entry ↔ given before entry)) : Since good ends trace ↔ SinceGiven good given trace := by
  induction trace using List.reverseRecOn with
  | nil => exact iff_of_false not_since_nil not_sinceGiven_nil
  | append_singleton trace entry ih =>
    have hbefore : Since good ends trace ↔ SinceGiven good given trace := by
      refine ih fun before found after hsplit => h before found (after ++ [entry]) ?_
      rw [hsplit, List.append_assoc, List.cons_append]
    rw [since_append_singleton, sinceGiven_append_singleton, ← hbefore]
    exact or_congr_right (and_congr_right fun hsince => not_congr (h trace entry [] rfl hsince))

end Since

/-- **What begins and ends by steps of a kind** holds exactly since one that began it. -/
theorem Steps.since_iff {I P : S → Prop} {good ends : S × L × S → Prop}
    (hkeep : ∀ {s l s'}, I s → step s l s' → I s')
    (hstep : ∀ {s l s'}, I s → step s l s' → (P s' ↔ good (s, l, s') ∨ P s ∧ ¬ ends (s, l, s')))
    {trace : List (S × L × S)} (h : Steps (Traced step) s trace s') (hI : I s) (hs : ¬ P s) :
    P s' ↔ Since good ends trace := by
  refine (h.history (fun trace s => I s ∧ (P s ↔ Since good ends trace)) ?_
    ⟨hI, iff_of_false hs not_since_nil⟩).2
  rintro before s₁ ⟨_, l, _⟩ s₂ - ⟨hI₁, ih⟩ ⟨rfl, rfl, hl⟩
  refine ⟨hkeep hI₁ hl, ?_⟩
  rw [since_append_singleton, hstep hI₁ hl, ih]

end Run
