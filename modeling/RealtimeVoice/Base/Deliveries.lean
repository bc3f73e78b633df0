import RealtimeVoice.Base.Runs

namespace RealtimeVoice.Base.Runs

variable {σ τ ε μ ρ ω : Type}

/-- A component that takes messages, reads its environment meanwhile, answers each with a part of its output,
and does nothing more once it has stopped. -/
structure Peer (τ μ ρ ω : Type) where
  react : τ → μ → ρ → τ × List ω
  running : τ → Bool
  stopped : ∀ p m r, running p = false → react p m r = (p, [])

/-- The messages up to the first final one. -/
def upTo (final : μ → Bool) : List μ → List μ
  | [] => []
  | m :: ms => if final m then [m] else m :: upTo final ms

namespace Peer

variable (P : Peer τ μ ρ ω)

/-- The peer takes messages in their order, each with what it reads. -/
def respond : τ → List (μ × ρ) → τ × List ω
  | p, [] => (p, [])
  | p, (m, r) :: taken => ((respond (P.react p m r).1 taken).1, (P.react p m r).2 ++ (respond (P.react p m r).1 taken).2)

/-- Whatever part of the messages the peer has taken, with reads that are ready, it has answered them up to
the first final one as expected, and it runs on if there is none. Once it has taken all of them, it is in a
state that is fine. -/
def Answers (ready : ρ → Prop) (final : μ → Bool) (expected : μ → ρ → List ω) (fine : τ → Prop) (p : τ)
    (ms : List μ) : Prop :=
  ∀ taken : List (μ × ρ), taken.map Prod.fst <+: ms → (∀ d ∈ taken, ready d.2) →
    (P.respond p taken).2 = (upTo (final ∘ Prod.fst) taken).flatMap (Function.uncurry expected) ∧
    P.running (P.respond p taken).1 = !taken.any (final ∘ Prod.fst) ∧
    (taken.map Prod.fst = ms → ms.any final = false → fine (P.respond p taken).1)

end Peer

variable {P : Peer τ μ ρ ω} {p : τ} {ms ns : List μ} {m : μ} {ready : ρ → Prop} {final : μ → Bool}
  {expected : μ → ρ → List ω} {fine fine' : τ → Prop}

theorem upTo_append {α : Type} (final : α → Bool) (l later : List α) :
    upTo final (l ++ later) = if l.any final then upTo final l else l ++ upTo final later := by
  induction l with
  | nil => rfl
  | cons a l ih =>
    rw [List.cons_append, upTo, upTo, List.any_cons]
    cases final a with
    | true => rfl
    | false =>
      rw [Bool.false_or, if_neg Bool.false_ne_true, if_neg Bool.false_ne_true, ih]
      cases l.any final <;> rfl

theorem upTo_eq_self {α : Type} {final : α → Bool} {l : List α} (h : l.any final = false) : upTo final l = l := by
  have hsame := upTo_append final l []
  rwa [h, List.append_nil, if_neg Bool.false_ne_true, upTo, List.append_nil] at hsame

namespace Peer

theorem respond_append (p : τ) (taken later : List (μ × ρ)) :
    P.respond p (taken ++ later) =
      ((P.respond (P.respond p taken).1 later).1, (P.respond p taken).2 ++ (P.respond (P.respond p taken).1 later).2) := by
  induction taken generalizing p with
  | nil => rfl
  | cons d taken ih => rw [List.cons_append, respond, ih, respond, List.append_assoc]

theorem respond_stopped (h : P.running p = false) (taken : List (μ × ρ)) : P.respond p taken = (p, []) := by
  induction taken with
  | nil => rfl
  | cons d taken ih =>
    rw [respond, P.stopped p d.1 d.2 h, ih]
    rfl

theorem Answers.nil (h : P.running p = true) (hp : fine p) : P.Answers ready final expected fine p [] := by
  intro taken htaken _
  obtain rfl := List.map_eq_nil_iff.mp (List.prefix_nil.mp htaken)
  exact ⟨rfl, h, fun _ _ => hp⟩

/-- A message that is not final, and then the others. -/
theorem Answers.cons (hp : P.running p = true) (hfinal : final m = false)
    (h : ∀ r, ready r → ∃ q, P.react p m r = (q, expected m r) ∧ P.Answers ready final expected fine q ms) :
    P.Answers ready final expected fine p (m :: ms) := by
  intro taken htaken hready
  cases taken with
  | nil => exact ⟨rfl, hp, fun hall => by cases hall⟩
  | cons d taken =>
    obtain ⟨m', r⟩ := d
    obtain ⟨rfl, htail⟩ := List.cons_prefix_cons.mp htaken
    obtain ⟨q, hreact, hq⟩ := h r (hready _ List.mem_cons_self)
    obtain ⟨hout, hrunning, hfine⟩ := hq taken htail fun d hd => hready d (List.mem_cons_of_mem _ hd)
    have hnot : (final ∘ Prod.fst) (m', r) = false := hfinal
    rw [respond, hreact, List.any_cons, upTo, hnot, Bool.false_or]
    refine ⟨congrArg (expected m' r ++ ·) hout, hrunning, fun hall hany => hfine ?_ ?_⟩
    · exact (List.cons_inj_right m').mp hall
    · rwa [List.any_cons, hfinal, Bool.false_or] at hany

theorem Answers.single (hp : P.running p = true) (hfinal : final m = false)
    (h : ∀ r, ready r → ∃ q, P.react p m r = (q, expected m r) ∧ P.running q = true ∧ fine q) :
    P.Answers ready final expected fine p [m] := by
  refine .cons hp hfinal fun r hr => ?_
  obtain ⟨q, hreact, hq, hfine⟩ := h r hr
  exact ⟨q, hreact, .nil hq hfine⟩

/-- A final message stops the peer. -/
theorem Answers.last (hp : P.running p = true) (hfinal : final m = true)
    (h : ∀ r, ready r → ∃ q, P.react p m r = (q, expected m r) ∧ P.running q = false) (ms : List μ) :
    P.Answers ready final expected fine p (m :: ms) := by
  intro taken htaken hready
  cases taken with
  | nil => exact ⟨rfl, hp, fun hall => by cases hall⟩
  | cons d taken =>
    obtain ⟨m', r⟩ := d
    obtain ⟨rfl, -⟩ := List.cons_prefix_cons.mp htaken
    obtain ⟨q, hreact, hq⟩ := h r (hready _ List.mem_cons_self)
    have hyes : (final ∘ Prod.fst) (m', r) = true := hfinal
    rw [respond, hreact, respond_stopped hq, List.any_cons, upTo, hyes]
    refine ⟨rfl, hq, fun _ hany => ?_⟩
    rw [List.any_cons, hfinal] at hany
    cases hany

theorem Answers.imp (h : P.Answers ready final expected fine p ms) (himp : ∀ q, fine q → fine' q) :
    P.Answers ready final expected fine' p ms := by
  intro taken htaken hready
  obtain ⟨hout, hrunning, hfine⟩ := h taken htaken hready
  exact ⟨hout, hrunning, fun hall hany => himp _ (hfine hall hany)⟩

theorem Answers.running (h : P.Answers ready final expected fine p ms) : P.running p = true :=
  (h [] List.nil_prefix (by simp)).2.1

/-- The first message is answered, and then the others. -/
theorem Answers.tail (h : P.Answers ready final expected fine p (m :: ms)) (hfinal : final m = false) {r : ρ}
    (hr : ready r) :
    (P.react p m r).2 = expected m r ∧ P.Answers ready final expected fine (P.react p m r).1 ms := by
  have hnot : (final ∘ Prod.fst) (m, r) = false := hfinal
  have hfirst : (P.react p m r).2 = expected m r := by
    have hone := (h [(m, r)] (List.prefix_append [m] ms) (by simpa using hr)).1
    rw [respond, respond, upTo, hnot, if_neg Bool.false_ne_true, upTo, List.append_nil, List.flatMap_singleton] at hone
    exact hone
  refine ⟨hfirst, fun taken htaken hready => ?_⟩
  obtain ⟨hout, hrunning, hfine⟩ := h ((m, r) :: taken) (List.cons_prefix_cons.mpr ⟨rfl, htaken⟩)
    (List.forall_mem_cons.mpr ⟨hr, hready⟩)
  rw [respond, hfirst, upTo, hnot, if_neg Bool.false_ne_true, List.flatMap_cons] at hout
  rw [respond, List.any_cons, hnot, Bool.false_or] at hrunning
  refine ⟨List.append_cancel_left hout, hrunning, fun hall hany => hfine (congrArg (m :: ·) hall) ?_⟩
  rw [List.any_cons, hfinal, hany]
  rfl

theorem Answers.append (h : P.Answers ready final expected fine p ms)
    (h' : ∀ q, P.running q = true → fine q → P.Answers ready final expected fine' q ns) :
    P.Answers ready final expected fine' p (ms ++ ns) := by
  intro taken htaken hready
  by_cases hwhole : ms <+: taken.map Prod.fst
  · -- all of the first messages, and a part of the later ones
    obtain ⟨between, hbetween⟩ := hwhole
    obtain ⟨before, after, rfl, rfl, rfl⟩ := List.map_eq_append_iff.mp hbetween.symm
    rw [List.map_append, List.prefix_append_right_inj] at htaken
    obtain ⟨hout, hrunning, hfine⟩ := h before List.prefix_rfl fun d hd => hready d (List.mem_append_left _ hd)
    rw [respond_append, upTo_append, List.any_append, List.any_append, List.any_map]
    cases hany : before.any (final ∘ Prod.fst) with
    | true =>
      rw [hany] at hrunning
      rw [respond_stopped hrunning, List.append_nil, if_pos rfl]
      exact ⟨hout, hrunning, fun _ hnone => by cases hnone⟩
    | false =>
      have hnone : (before.map Prod.fst).any final = false := by rwa [List.any_map]
      rw [hany] at hrunning
      obtain ⟨hout', hrunning', hfine'⟩ := h' _ hrunning (hfine rfl hnone) after htaken
        fun d hd => hready d (List.mem_append_right _ hd)
      rw [upTo_eq_self hany] at hout
      rw [if_neg Bool.false_ne_true, List.flatMap_append, ← hout, hout', Bool.false_or, Bool.false_or]
      refine ⟨rfl, hrunning', fun hall hlater => hfine' ?_ hlater⟩
      rw [List.map_append] at hall
      exact List.append_cancel_left hall
  · have hpart : taken.map Prod.fst <+: ms :=
      (List.prefix_or_prefix_of_prefix htaken (List.prefix_append ms ns)).resolve_right hwhole
    obtain ⟨hout, hrunning, -⟩ := h taken hpart hready
    exact ⟨hout, hrunning, fun hall => absurd (hall ▸ List.prefix_append ms ns) hwhole⟩

end Peer

/-- What a component sends a peer in a run is answered as expected, if that is so in every step from states
that are related, and the states stay related. -/
theorem Run.answered {step : σ → ε → σ → Prop} {sent : ε → List μ} {R : σ → τ → Prop} {s t : σ} {es : List ε}
    (h : Run step s es t) (hs : R s p) (hp : P.running p = true)
    (hstep : ∀ s e t p, R s p → P.running p = true → step s e t → P.Answers ready final expected (R t) p (sent e)) :
    P.Answers ready final expected (R t) p (es.flatMap sent) := by
  induction h with
  | nil => exact .nil hp hs
  | snoc _ he ih =>
    rw [List.flatMap_append, List.flatMap_singleton]
    exact ih.append fun q hq hR => hstep _ _ _ q hR hq he

end RealtimeVoice.Base.Runs
