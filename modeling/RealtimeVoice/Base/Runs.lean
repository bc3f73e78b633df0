import Mathlib

namespace RealtimeVoice.Base.Runs

variable {σ ε ι ο : Type}

/-- A run of a labelled transition system, recorded in the order of its steps. -/
inductive Run (step : σ → ε → σ → Prop) (s : σ) : List ε → σ → Prop
  | nil : Run step s [] s
  | snoc {es : List ε} {t u : σ} {e : ε} : Run step s es t → step t e u → Run step s (es ++ [e]) u

/-- A component that answers calls: one step is a call together with its reply. -/
def Answers (call : σ → ι → σ × ο) (s : σ) (e : ι × ο) (t : σ) : Prop := call s e.1 = (t, e.2)

variable {step : σ → ε → σ → Prop} {s t u : σ} {es fs : List ε}

namespace Run

/-- What the empty run has and every step keeps, every run has. The predicate
may speak about the steps taken so far as well as about the state reached. -/
theorem invariant {R : List ε → σ → Prop} (h : Run step s es t) (hnil : R [] s)
    (hsnoc : ∀ es t e u, Run step s es t → R es t → step t e u → R (es ++ [e]) u) : R es t := by
  induction h with
  | nil => exact hnil
  | snoc hr hs ih => exact hsnoc _ _ _ _ hr ih hs

theorem state_invariant {P : σ → Prop} (h : Run step s es t) (hs : P s)
    (hstep : ∀ t e u, P t → step t e u → P u) : P t :=
  h.invariant (R := fun _ t => P t) hs (fun _ _ _ _ _ ht he => hstep _ _ _ ht he)

/-- If an event of the first kind leaves a mark, the mark stays, and a marked
state has no event of the second kind, then none of these follows one of those. -/
theorem never_after {I P : σ → Prop} {X Y : ε → Prop} (h : Run step s es t) (hs : I s)
    (hstep : ∀ t e u, I t → step t e u → I u) (hmark : ∀ t e u, I t → step t e u → X e → P u)
    (hstay : ∀ t e u, I t → step t e u → P t → P u)
    (hblock : ∀ t e u, I t → step t e u → P t → ¬Y e) : es.Pairwise (fun e f => X e → ¬Y f) := by
  have hinv : I t ∧ ((∃ e ∈ es, X e) → P t) ∧ es.Pairwise (fun e f => X e → ¬Y f) := by
    refine h.invariant (R := fun es t => I t ∧ ((∃ e ∈ es, X e) → P t) ∧
      es.Pairwise (fun e f => X e → ¬Y f)) ⟨hs, by simp, List.Pairwise.nil⟩ ?_
    rintro es t e u - ⟨ht, hp, hpair⟩ he
    refine ⟨hstep t e u ht he, ?_, ?_⟩
    · rintro ⟨f, hf, hX⟩
      rw [List.mem_append, List.mem_singleton] at hf
      rcases hf with hf | rfl
      · exact hstay t e u ht he (hp ⟨f, hf, hX⟩)
      · exact hmark t f u ht he hX
    · rw [List.pairwise_append]
      refine ⟨hpair, List.pairwise_singleton _ _, ?_⟩
      intro f hf g hg hX
      obtain rfl := List.mem_singleton.mp hg
      exact hblock t g u ht he (hp ⟨f, hf, hX⟩)
  exact hinv.2.2

theorem trans (h : Run step s es t) (h' : Run step t fs u) : Run step s (es ++ fs) u := by
  induction h' with
  | nil => rwa [List.append_nil]
  | snoc hr hs ih =>
    rw [← List.append_assoc]
    exact ih.snoc hs

theorem single {e : ε} (h : step s e t) : Run step s [e] t := by
  have h' : Run step s ([] ++ [e]) t := Run.nil.snoc h
  simpa using h'

theorem split (h : Run step s (es ++ fs) u) : ∃ t, Run step s es t ∧ Run step t fs u := by
  generalize hall : es ++ fs = all at h
  induction h generalizing fs with
  | nil =>
    obtain ⟨rfl, rfl⟩ := List.append_eq_nil_iff.mp hall
    exact ⟨s, .nil, .nil⟩
  | @snoc es' t u e hr hs ih =>
    rcases List.eq_nil_or_concat fs with rfl | ⟨fs', e', rfl⟩
    · rw [List.append_nil] at hall
      subst hall
      exact ⟨u, hr.snoc hs, .nil⟩
    · rw [List.concat_eq_append, ← List.append_assoc] at hall
      obtain ⟨rfl, he⟩ := List.append_inj' hall rfl
      obtain ⟨m, hm, hm'⟩ := ih rfl
      rw [List.singleton_inj] at he
      subst he
      exact ⟨m, hm, by simpa using hm'.snoc hs⟩

theorem of_nil (h : Run step s [] t) : t = s := by
  generalize hall : ([] : List ε) = all at h
  cases h with
  | nil => rfl
  | snoc hr hs => simp at hall

theorem of_single {e : ε} (h : Run step s [e] t) : step s e t := by
  generalize hall : [e] = all at h
  cases h with
  | nil => simp at hall
  | @snoc es' m _ e' hr hs =>
    have hall' : [] ++ [e] = es' ++ [e'] := hall
    obtain ⟨rfl, he⟩ := List.append_inj' hall' rfl
    rw [List.singleton_inj] at he
    subst he
    rwa [hr.of_nil] at hs

theorem cons_iff {e : ε} : Run step s (e :: es) u ↔ ∃ t, step s e t ∧ Run step t es u := by
  constructor
  · intro h
    have h' : Run step s ([e] ++ es) u := h
    obtain ⟨t, ht, hu⟩ := h'.split
    exact ⟨t, ht.of_single, hu⟩
  · rintro ⟨t, ht, hu⟩
    simpa using (single ht).trans hu

theorem snoc_iff {e : ε} : Run step s (es ++ [e]) u ↔ ∃ t, Run step s es t ∧ step t e u := by
  constructor
  · intro h
    obtain ⟨t, ht, hu⟩ := h.split
    exact ⟨t, ht, hu.of_single⟩
  · rintro ⟨t, ht, hu⟩
    exact ht.snoc hu

theorem mono {step' : σ → ε → σ → Prop} (h : Run step s es t) (hstep : ∀ t e u, step t e u → step' t e u) :
    Run step' s es t := by
  induction h with
  | nil => exact .nil
  | snoc hr hs ih => exact ih.snoc (hstep _ _ _ hs)

/-- Steps with one outcome make runs with one outcome. -/
theorem unique (hstep : ∀ t e u v, step t e u → step t e v → u = v) (h : Run step s es t) (h' : Run step s es u) :
    t = u := by
  induction h generalizing u with
  | nil => exact h'.of_nil.symm
  | snoc hr hs ih =>
    obtain ⟨m, hm, hu⟩ := snoc_iff.mp h'
    obtain rfl := ih hm
    exact hstep _ _ _ _ hs hu

/-- A run meets a condition at every step, and is good, or it does not, and is broken: a step
that does not meet the condition breaks what was good, and nothing mends it. -/
theorem meets_or_broken (Meets : σ → ε → Prop) (Good Broken : List ε → σ → Prop) (h : Run step s es t)
    (hunique : ∀ t e u v, step t e u → step t e v → u = v) (hnil : Good [] s)
    (hgood : ∀ es t e u, Good es t → step t e u → Meets t e → Good (es ++ [e]) u)
    (hbreak : ∀ es t e u, Good es t → step t e u → ¬Meets t e → Broken (es ++ [e]) u)
    (hbroken : ∀ es t e u, Broken es t → step t e u → Broken (es ++ [e]) u) :
    Good es t ∧ Run (fun t e u => Meets t e ∧ step t e u) s es t ∨
      Broken es t ∧ ¬Run (fun t e u => Meets t e ∧ step t e u) s es t := by
  induction h with
  | nil => exact .inl ⟨hnil, .nil⟩
  | @snoc es t u e hr hs ih =>
    have hbefore : ∀ v, Run (fun t e u => Meets t e ∧ step t e u) s es v → v = t := fun v hv =>
      (hv.mono fun _ _ _ hm => hm.2).unique hunique hr
    obtain ⟨hg, hmeeting⟩ | ⟨hb, hnot⟩ := ih
    · by_cases hmeets : Meets t e
      · exact .inl ⟨hgood _ _ _ _ hg hs hmeets, hmeeting.snoc ⟨hmeets, hs⟩⟩
      · refine .inr ⟨hbreak _ _ _ _ hg hs hmeets, fun hall => ?_⟩
        obtain ⟨v, hv, hlast⟩ := snoc_iff.mp hall
        obtain rfl := hbefore v hv
        exact hmeets hlast.1
    · refine .inr ⟨hbroken _ _ _ _ hb hs, fun hall => ?_⟩
      obtain ⟨v, hv, -⟩ := snoc_iff.mp hall
      obtain rfl := hbefore v hv
      exact hnot hv

/-- The runs of a step function that some states refuse. -/
theorem iff_foldlM {f : σ → ε → Option σ} : Run (fun s e t => f s e = some t) s es t ↔ es.foldlM f s = some t := by
  induction es generalizing s with
  | nil => exact ⟨fun h => by rw [h.of_nil]; rfl, fun h => by obtain rfl := Option.some.inj h; exact .nil⟩
  | cons e es ih =>
    rw [cons_iff, List.foldlM_cons]
    constructor
    · rintro ⟨u, hu, hrest⟩
      rw [hu]
      exact ih.mp hrest
    · intro h
      obtain ⟨u, hu, hrest⟩ := Option.bind_eq_some_iff.mp h
      exact ⟨u, hu, ih.mpr hrest⟩

/-- The runs of a step function where a condition holds at every step. -/
theorem of_foldlM_if {f : σ → ε → Option σ} {P : σ → ε → Prop} [∀ s e, Decidable (P s e)]
    (h : es.foldlM (fun s e => if P s e then f s e else none) s = some t) :
    Run (fun s e t => P s e ∧ f s e = some t) s es t :=
  (iff_foldlM.mpr h).mono fun _ _ _ hs => Option.ite_none_right_eq_some.mp hs

end Run

/-- Of a kind of items that no two positions share and no position shows twice,
all positions together show at most one. -/
theorem countP_flatMap_le_one {α β : Type} {l : List α} {f : α → List β} {p : β → Bool}
    (hone : ∀ a ∈ l, (f a).countP p ≤ 1)
    (hpair : l.Pairwise (fun a b => 0 < (f a).countP p → ¬0 < (f b).countP p)) :
    (l.flatMap f).countP p ≤ 1 := by
  induction l with
  | nil => simp
  | cons a l ih =>
    rw [List.flatMap_cons, List.countP_append]
    rw [List.pairwise_cons] at hpair
    have htail := ih (fun b hb => hone b (List.mem_cons_of_mem _ hb)) hpair.2
    by_cases ha : 0 < (f a).countP p
    · have hzero : (l.flatMap f).countP p = 0 := by
        rw [List.countP_flatMap, List.sum_eq_zero_iff]
        intro n hn
        obtain ⟨b, hb, rfl⟩ := List.mem_map.mp hn
        exact Nat.eq_zero_of_not_pos (hpair.1 b hb ha)
      rw [hzero]
      exact hone a List.mem_cons_self
    · omega

/-- A property of every position of a list, from the position's number. -/
theorem split_of_take {P : List ε → ε → Prop} {es : List ε}
    (h : ∀ n, (hn : n < es.length) → P (es.take n) es[n]) {before later : List ε} {e : ε}
    (hes : es = before ++ e :: later) : P before e := by
  have hlen : before.length < es.length := by simp [hes]
  have htake : es.take before.length = before := by simp [hes]
  have hget : es[before.length] = e := by simp [hes]
  have hp := h before.length hlen
  rwa [htake, hget] at hp

/-- A property of every position of a list is one of every position of its front. -/
theorem split_front {P : List ε → ε → Prop} {es rest : List ε}
    (h : ∀ before e later, es ++ rest = before ++ e :: later → P before e) :
    ∀ before e later, es = before ++ e :: later → P before e := by
  intro before e later hes
  refine h before e (later ++ rest) ?_
  rw [hes, List.append_assoc, List.cons_append]

/-- The steps after the last one of a kind. -/
def since (p : ε → Bool) (es : List ε) : List ε := es.foldl (fun rest e => if p e then [] else rest ++ [e]) []

theorem since_snoc (p : ε → Bool) (es : List ε) (e : ε) :
    since p (es ++ [e]) = if p e then [] else since p es ++ [e] := by
  rw [since, List.foldl_append]
  rfl

/-- The calls with their replies, and the state they lead to. -/
def history (call : σ → ι → σ × ο) : σ → List ι → List (ι × ο)
  | _, [] => []
  | s, c :: cs => (c, (call s c).2) :: history call (call s c).1 cs

def after (call : σ → ι → σ × ο) (s : σ) (cs : List ι) : σ := cs.foldl (fun s c => (call s c).1) s

theorem run_history (call : σ → ι → σ × ο) (s : σ) (cs : List ι) :
    Run (Answers call) s (history call s cs) (after call s cs) := by
  induction cs generalizing s with
  | nil => exact .nil
  | cons c cs ih => exact Run.cons_iff.mpr ⟨(call s c).1, rfl, ih _⟩

theorem run_of_history {call : σ → ι → σ × ο} (es : List (ι × ο)) (cs : List ι) (h : es = history call s cs) :
    Run (Answers call) s es (after call s cs) := by
  rw [h]
  exact run_history call s cs

/-- A condition on the state and the next call that holds at each call in turn. -/
def Along (P : σ → ι → Prop) (call : σ → ι → σ × ο) : σ → List ι → Prop
  | _, [] => True
  | s, c :: cs => P s c ∧ Along P call (call s c).1 cs

instance decidableAlong (P : σ → ι → Prop) [∀ s c, Decidable (P s c)] (call : σ → ι → σ × ο) :
    ∀ (s : σ) (cs : List ι), Decidable (Along P call s cs)
  | _, [] => .isTrue trivial
  | s, c :: cs =>
    match (inferInstance : Decidable (P s c)), decidableAlong P call (call s c).1 cs with
    | .isTrue hp, .isTrue hcs => .isTrue ⟨hp, hcs⟩
    | .isFalse hp, _ => .isFalse (fun h => hp h.1)
    | _, .isFalse hcs => .isFalse (fun h => hcs h.2)

theorem run_history_along {P : σ → ι → Prop} {call : σ → ι → σ × ο} {s : σ} {cs : List ι} (h : Along P call s cs) :
    Run (fun s e t => P s e.1 ∧ Answers call s e t) s (history call s cs) (after call s cs) := by
  induction cs generalizing s with
  | nil => exact .nil
  | cons c cs ih => exact Run.cons_iff.mpr ⟨(call s c).1, ⟨h.1, rfl⟩, ih h.2⟩

end RealtimeVoice.Base.Runs
