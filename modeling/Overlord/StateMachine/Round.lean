import Overlord.StateMachine.Invariant

/-!
# Rounds within a height

Every event a move throws carries the round the move leaves (`Transition.round_of_mem`).
Within a height the round goes up by one on a precommit timeout, is set at a commit, and
is lowered by a prevote QC from the State whose round is below the current one:
`handle_prevote` sets `self.round = vote_round` there (`Handled.Lowers`).

`roundOrder_counterexample`: six triggers from `StateMachine::new` throw a prevote of
round `1` and then a precommit of round `0` in one height, so event rounds can go down
and two precommits can share a round. `rounds_monotone`: between two accepted
`NewHeight` triggers, unless such a lowering QC is taken in between (handled and throwing
an event; a lowering QC the SMR ignores is allowed), event rounds do not go down and two
prevotes (or two precommits) never share a round; and a lowering QC, when taken, moves
the SMR to the QC's round and precommits there. The proof carries `Window` from the
earlier event to the later one.
-/

namespace Overlord

namespace StateMachine

variable {s : StateMachine} {t : SMRTrigger}

/-- The event `e'`, thrown after `e` in one height, does not carry a lower round, nor
the round of an earlier event of its own kind. -/
def RoundOrder (e e' : SMREvent) : Prop :=
  ∀ r r', e.round? = some r → e'.round? = some r' → r ≤ r' ∧
    (e.isPrevoteVote → e'.isPrevoteVote → r < r') ∧
    (e.isPrecommitVote → e'.isPrecommitVote → r < r')

/-- Handling `h` is a prevote QC from the State of a round below the SMR's round. -/
def Handled.Lowers (h : Handled) : Prop :=
  h.trigger.triggerType = .prevoteQC ∧ h.trigger.source = .state ∧
    ∃ vr, h.trigger.round = some vr ∧ vr < h.pre.round

/-! ## The original statement fails -/

/-- A new height, a timed-out propose, prevote and precommit step, a timed-out propose in
round `1`, then a prevote QC from the State for round `0`. -/
def lowerRun : List SMRTrigger :=
  [⟨.newHeight ⟨1⟩, .state, [], none, 0, none⟩, ⟨.proposal, .timer, [], none, 1, none⟩,
   ⟨.prevoteQC, .timer, [], some 0, 1, none⟩, ⟨.precommitQC, .timer, [], some 0, 1, none⟩,
   ⟨.proposal, .timer, [], none, 1, none⟩, ⟨.prevoteQC, .state, [1], some 0, 1, none⟩]

theorem roundOrder_counterexample :
    ¬∀ ts, NoWal ts → ∀ (pre mid post : List Handled) (h h' : Handled),
      trace new ts = pre ++ h :: (mid ++ h' :: post) → (∀ x ∈ mid ++ [h'], ¬x.Accepted) →
      ∀ e ∈ h.res.events, ∀ e' ∈ h'.res.events, RoundOrder e e' := by
  intro hall
  have h5 : ((trace new lowerRun).get ⟨5, by decide⟩).trigger.triggerType = .prevoteQC := rfl
  have := hall lowerRun (by simp [NoWal, lowerRun]) ((trace new lowerRun).take 4) []
    [] ((trace new lowerRun).get ⟨4, by decide⟩) ((trace new lowerRun).get ⟨5, by decide⟩) rfl
    (fun x hx ⟨⟨st, hst⟩, _⟩ => by
      simp only [List.nil_append, List.mem_singleton] at hx
      subst hx; rw [h5] at hst; cases hst)
    (.prevoteVote 1 1 [] none) (by decide) (.precommitVote 1 0 [1] (some 0)) (by decide) 1 0 rfl rfl
  omega

/-! ## Rounds without a lowering QC -/

/-- Every event a move throws carries the round the move leaves. -/
theorem Transition.round_of_mem {r : Res} (h : Transition s t r) {e : SMREvent}
    (he : e ∈ r.events) {n : Nat} (hn : e.round? = some n) : n = r.sm.round := by
  cases h with
  | noop _ hev _ => simp [hev] at he
  | newHeight | proposalTimer | proposalState | prevoteTimer | prevoteState
    | precommitTimer =>
    simp only [List.mem_singleton] at he; subst he
    simp only [SMREvent.round?, Option.some.injEq] at hn
    first | (subst hn; simp; done) | (simp at hn ⊢; omega) | (split_ifs <;> simp_all)
  | precommitState => simp only [List.mem_singleton] at he; subst he; simp [SMREvent.round?] at hn

/-- From a round event of round `R₀` on: the round is at least `R₀`, above it when back in
the propose step after a prevote, and above it when back before the precommit step after
a precommit; or the SMR has committed. -/
def Window (R₀ : Nat) (pv pc : Bool) (s : StateMachine) : Prop :=
  s.step = .commit ∨ (R₀ ≤ s.round ∧ (pv → s.step = .propose → R₀ < s.round) ∧
    (pc → s.step ≤ .prevote → R₀ < s.round))

/-- The window opens at the move that throws the earlier event. -/
theorem Transition.window_init {r : Res} (h : Transition s t r) {e : SMREvent}
    (he : e ∈ r.events) {R₀ : Nat} (hR : e.round? = some R₀) :
    Window R₀ e.isPrevoteVote e.isPrecommitVote r.sm := by
  have hr := h.round_of_mem he hR
  subst hr
  cases h with
  | noop _ hev _ => simp [hev] at he
  | precommitState => exact .inl rfl
  | prevoteTimer | prevoteState =>
    simp only [List.mem_singleton] at he; subst he
    exact .inr ⟨le_rfl, by simp [SMREvent.isPrevoteVote], by simp [Step.le_iff, Step.toU8]⟩
  | _ =>
    simp only [List.mem_singleton] at he; subst he
    exact .inr ⟨le_rfl, by simp [SMREvent.isPrevoteVote], by simp [SMREvent.isPrecommitVote]⟩

/-- A move that neither moves to a new height nor takes a lowering QC keeps the window,
and its events keep the order. -/
theorem Transition.window_step {r : Res} (h : Transition s t r) {R₀ : Nat} {pv pc : Bool}
    (hwin : Window R₀ pv pc s) (hna : ¬Handled.Accepted ⟨s, t, r⟩)
    (hnl : ¬(Handled.Lowers ⟨s, t, r⟩ ∧ r.events ≠ [])) :
    Window R₀ pv pc r.sm ∧ ∀ e' ∈ r.events, ∀ r', e'.round? = some r' → R₀ ≤ r' ∧
      (pv → e'.isPrevoteVote → R₀ < r') ∧ (pc → e'.isPrecommitVote → R₀ < r') := by
  cases h with
  | noop hs hev _ => rw [hs, hev]; exact ⟨hwin, by simp⟩
  | newHeight ht => exact absurd ⟨⟨_, ht⟩, rfl⟩ hna
  | precommitState => exact ⟨.inl rfl, by simp [SMREvent.round?]⟩
  | proposalTimer _ _ _ hst =>
    rcases hwin with hc | ⟨h0, hpv, hpc⟩
    · simp [hst] at hc
    refine ⟨.inr ⟨h0, by simp, fun hp _ => hpc hp (by simp [hst, Step.le_iff, Step.toU8])⟩, ?_⟩
    simp only [List.mem_singleton, forall_eq, SMREvent.round?, Option.some.injEq, forall_eq']
    exact ⟨h0, fun hp _ => hpv hp hst, by simp [SMREvent.isPrecommitVote]⟩
  | proposalState _ _ _ hst _ _ hs' =>
    have hr : ∀ {s' : StateMachine}, s.proposalPolc t.hash t.round = Res.ret s' →
        s'.round = s.round := fun hs' => by
      rcases proposalPolc_ret hs' with rfl | ⟨rfl, -⟩ <;> rfl
    rcases hwin with hc | ⟨h0, hpv, hpc⟩
    · simp [hst] at hc
    refine ⟨.inr ⟨by simp [hr hs', h0], by simp,
      fun hp _ => by simpa [hr hs'] using hpc hp (by simp [hst, Step.le_iff, Step.toU8])⟩, ?_⟩
    simp only [List.mem_singleton, forall_eq, SMREvent.round?, Option.some.injEq, forall_eq',
      hr hs']
    exact ⟨h0, fun hp _ => hpv hp hst, by simp [SMREvent.isPrecommitVote]⟩
  | prevoteTimer _ _ _ _ hst =>
    rcases hwin with hc | ⟨h0, _, hpc⟩
    · simp [hc, Step.le_iff, Step.toU8] at hst
    refine ⟨.inr ⟨by split_ifs <;> simpa, by simp, by simp [Step.le_iff, Step.toU8]⟩, ?_⟩
    simp only [List.mem_singleton, forall_eq, SMREvent.round?, Option.some.injEq, forall_eq']
    exact ⟨h0, by simp [SMREvent.isPrevoteVote], fun hp _ => hpc hp hst⟩
  | @prevoteState vr ht hr hsrc _ hst _ _ =>
    have hvr : s.round ≤ vr := Nat.not_lt.mp fun hlt => hnl ⟨⟨ht, hsrc, vr, hr, hlt⟩, by simp⟩
    rcases hwin with hc | ⟨h0, _, hpc⟩
    · simp [hc, Step.le_iff, Step.toU8] at hst
    refine ⟨.inr ⟨by simp; omega, by simp, by simp [Step.le_iff, Step.toU8]⟩, ?_⟩
    simp only [List.mem_singleton, forall_eq, SMREvent.round?, Option.some.injEq, forall_eq',
      prevotePolc_round, Nat.min_eq_left hvr]
    exact ⟨h0, by simp [SMREvent.isPrevoteVote], fun hp _ => hpc hp hst⟩
  | precommitTimer _ _ _ _ hst =>
    rcases hwin with hc | ⟨h0, -, -⟩
    · exact absurd hc hst
    refine ⟨.inr ⟨by simp; omega, fun _ _ => by simp; omega, fun _ _ => by simp; omega⟩, ?_⟩
    simp only [List.mem_singleton, forall_eq, SMREvent.round?, Option.some.injEq, forall_eq']
    exact ⟨by omega, by simp [SMREvent.isPrevoteVote], by simp [SMREvent.isPrecommitVote]⟩

/-- Along a run with no accepted `NewHeight` and no lowering QC taken, the window stays
open, and the events of its last step keep the order. -/
theorem window_run {ts : List SMRTrigger} (hw : NoWal ts) {R₀ : Nat} {pv pc : Bool} :
    ∀ {s : StateMachine}, s.eventOpen = true → Window R₀ pv pc s →
      ∀ {mid post : List Handled} {h' : Handled}, trace s ts = mid ++ h' :: post →
        (∀ x ∈ mid ++ [h'], ¬x.Accepted ∧ ¬(x.Lowers ∧ x.res.events ≠ [])) →
        ∀ e' ∈ h'.res.events, ∀ r', e'.round? = some r' → R₀ ≤ r' ∧
          (pv → e'.isPrevoteVote → R₀ < r') ∧ (pc → e'.isPrecommitVote → R₀ < r') := by
  induction ts with
  | nil => intro s _ _ mid post h' htr; cases mid <;> simp [trace] at htr
  | cons t ts ih =>
    intro s ho hwin mid post h' htr hx
    have hT := pollNext_transition ho (hw t (.head _))
    cases mid with
    | nil =>
      simp only [trace, List.nil_append, List.cons.injEq] at htr
      obtain ⟨rfl, -⟩ := htr
      have := hx ⟨s, t, s.pollNext t⟩ (by simp)
      exact (hT.window_step hwin this.1 this.2).2
    | cons x mid =>
      simp only [trace, List.cons_append, List.cons.injEq] at htr
      obtain ⟨rfl, htr⟩ := htr
      have := hx _ (.head _)
      exact ih (fun t' h => hw t' (.tail _ h)) (hT.eventOpen ho)
        (hT.window_step hwin this.1 this.2).1 htr (fun y hy => hx y (.tail _ hy))

/-- A lowering QC that is taken moves the SMR to the QC's round and precommits there. -/
theorem Transition.lowers {r : Res} (h : Transition s t r) (hl : Handled.Lowers ⟨s, t, r⟩)
    (hne : r.events ≠ []) :
    ∃ vr, t.round = some vr ∧ r.sm.round = vr ∧
      r.events = [.precommitVote s.height vr r.sm.blockHash r.sm.lockRound] := by
  obtain ⟨ht, hsrc, vr, hvr, hlt⟩ := hl
  dsimp only at ht hsrc hvr hlt
  cases h with
  | noop _ hev _ => exact absurd hev hne
  | @prevoteState vr' _ hr =>
    rw [hvr, Option.some.injEq] at hr
    subst hr
    refine ⟨vr, hvr, by simp; omega, ?_⟩
    simp only [prevotePolc_height, prevotePolc_round, gotoStep, lockRound,
      List.cons.injEq, and_true]
    congr 1
    omega
  | prevoteTimer _ _ htm => simp [hsrc] at htm
  | newHeight h1 | proposalTimer h1 | proposalState h1 | precommitTimer h1
    | precommitState h1 => simp [h1] at ht

/-- **Rounds within a height** (as the code has it). In a run without WAL records from
`StateMachine::new`: between two accepted `NewHeight` triggers, unless a prevote QC from
the State of a round below the SMR's round is taken (handled, throwing an event) after the
earlier event (up to the step that throws the later one), a later round event does not
carry a lower round, and two prevotes (or two precommits) do not share a round; and such a
lowering QC, when taken, sets the SMR's round to the QC's round and precommits there. -/
theorem rounds_monotone {ts : List SMRTrigger} (hw : NoWal ts) :
    (∀ (pre mid post : List Handled) (h h' : Handled),
      trace new ts = pre ++ h :: (mid ++ h' :: post) →
      (∀ x ∈ mid ++ [h'], ¬x.Accepted ∧ ¬(x.Lowers ∧ x.res.events ≠ [])) →
      ∀ e ∈ h.res.events, ∀ e' ∈ h'.res.events, RoundOrder e e') ∧
    ∀ x ∈ trace new ts, x.Lowers → x.res.events ≠ [] →
      ∃ vr, x.trigger.round = some vr ∧ x.res.sm.round = vr ∧
        x.res.events = [.precommitVote x.pre.height vr x.res.sm.blockHash x.res.sm.lockRound] := by
  refine ⟨fun pre mid post h h' htr hx e he e' he' r r' hr hr' => ?_, fun x hm hl hne => ?_⟩
  · obtain ⟨ts₀, ts₁, rfl, -, hp, hres, hpost⟩ := trace_eq_append_cons htr
    have hw₀ : NoWal ts₀ := fun t ht => hw t (by simp [ht])
    have ho : h.pre.eventOpen = true := hp ▸ (inv_run hw₀).eventOpen
    have hT := pollNext_transition ho (hw h.trigger (by simp))
    rw [← hres] at hT
    have := window_run (fun t ht => hw t (by simp [ht])) (hT.eventOpen ho)
      (hT.window_init he hr) (hpost.trans rfl) hx e' he' r' hr'
    exact ⟨this.1, fun hp hp' => this.2.1 hp hp', fun hp hp' => this.2.2 hp hp'⟩
  · obtain ⟨ts₀, ts₁, rfl, hp, hres⟩ := mem_trace hm
    have hw₀ : NoWal ts₀ := fun t ht => hw t (by simp [ht])
    have hT := pollNext_transition (hp ▸ (inv_run hw₀).eventOpen) (hw x.trigger (by simp))
    rw [← hres] at hT
    exact hT.lowers hl hne

theorem rounds_monotone_lowerRun :
    NoWal lowerRun ∧
    ((∀ (pre mid post : List Handled) (h h' : Handled),
      trace new lowerRun = pre ++ h :: (mid ++ h' :: post) →
      (∀ x ∈ mid ++ [h'], ¬x.Accepted ∧ ¬(x.Lowers ∧ x.res.events ≠ [])) →
      ∀ e ∈ h.res.events, ∀ e' ∈ h'.res.events, RoundOrder e e') ∧
    ∀ x ∈ trace new lowerRun, x.Lowers → x.res.events ≠ [] →
      ∃ vr, x.trigger.round = some vr ∧ x.res.sm.round = vr ∧
        x.res.events = [.precommitVote x.pre.height vr x.res.sm.blockHash x.res.sm.lockRound]) :=
  ⟨by decide, rounds_monotone (by decide)⟩

end StateMachine

end Overlord
