import Overlord.StateMachine.Invariant

/-!
# One commit per height

The SMR throws `Commit(H)` only on a precommit QC from the State for its height, with a
non-empty hash `H`, when unlocked or locked on `H` (`Transition.commit_of_mem`); the
commit moves it to the commit step, where every trigger but an accepted `NewHeight` is
turned away with nothing thrown (`Transition.of_commit`). `commit_once` puts the two
together over a run: after a commit, no event is thrown until the next accepted
`NewHeight`, so a height sees at most one commit.
-/

namespace Overlord

namespace StateMachine

variable {s : StateMachine} {t : SMRTrigger}

/-- What the move that throws a commit looks like. -/
theorem Transition.commit_of_mem {r : Res} (h : Transition s t r) {H : Hash}
    (he : SMREvent.commit H ∈ r.events) :
    t.triggerType = .precommitQC ∧ t.source = .state ∧ t.height = s.height ∧ t.hash = H ∧
      H ≠ [] ∧ (∀ l, s.lock = some l → l.hash = H) ∧ r.events = [.commit H] ∧
      r.sm.step = .commit := by
  cases h with
  | noop _ hev _ => simp [hev] at he
  | precommitState ht _ hsrc hth _ hne _ hs' =>
    simp only [List.mem_singleton, SMREvent.commit.injEq] at he
    subst he
    exact ⟨ht, hsrc, hth, rfl, hne, (checkPolc_ret hs').2, rfl, rfl⟩
  | _ => simp at he

/-- In the commit step, a trigger that is not an accepted `NewHeight` changes nothing and
throws nothing. -/
theorem Transition.of_commit {r : Res} (h : Transition s t r) (hs : s.step = .commit)
    (hna : ¬Handled.Accepted ⟨s, t, r⟩) : r.sm = s ∧ r.events = [] := by
  cases h with
  | noop hsm hev _ => exact ⟨hsm, hev⟩
  | newHeight ht => exact absurd ⟨⟨_, ht⟩, rfl⟩ hna
  | prevoteTimer _ _ _ _ hst | prevoteState _ _ _ _ hst =>
    simp [hs, Step.le_iff, Step.toU8] at hst
  | proposalTimer _ _ _ hst | proposalState _ _ _ hst => simp [hs] at hst
  | precommitTimer _ _ _ _ hst | precommitState _ _ _ _ hst => exact absurd hs hst

/-- From the commit step, a run is silent up to its first accepted `NewHeight`. -/
theorem quiet_of_commit {ts : List SMRTrigger} (hw : NoWal ts) :
    ∀ {s : StateMachine}, s.step = .commit → s.eventOpen = true →
      ∀ {mid post : List Handled} {h' : Handled}, trace s ts = mid ++ h' :: post →
        (∀ x ∈ mid, ¬x.Accepted) → ¬h'.Accepted → h'.res.events = [] := by
  induction ts with
  | nil => intro s _ _ mid post h' htr; cases mid <;> simp [trace] at htr
  | cons t ts ih =>
    intro s hs ho mid post h' htr hmid hna
    have hT := pollNext_transition ho (hw t (.head _))
    cases mid with
    | nil =>
      simp only [trace, List.nil_append, List.cons.injEq] at htr
      obtain ⟨rfl, -⟩ := htr
      exact (hT.of_commit hs hna).2
    | cons x mid =>
      simp only [trace, List.cons_append, List.cons.injEq] at htr
      obtain ⟨rfl, htr⟩ := htr
      have hq := hT.of_commit hs (hmid _ (.head _))
      rw [hq.1] at htr
      exact ih (fun t' h => hw t' (.tail _ h)) hs ho htr (fun y hy => hmid y (.tail _ hy)) hna

/-- **One commit per height.** In a run without WAL records from `StateMachine::new`, a
`Commit(H)` event is thrown alone, on a precommit QC from the State for the current
height with the non-empty hash `H`, by an SMR unlocked or locked on `H`; and no later
step throws any event before the next accepted `NewHeight`. -/
theorem commit_once {ts : List SMRTrigger} (hw : NoWal ts) {pre post : List Handled}
    {h : Handled} (htr : trace new ts = pre ++ h :: post) {H : Hash}
    (he : SMREvent.commit H ∈ h.res.events) :
    (h.trigger.triggerType = .precommitQC ∧ h.trigger.source = .state ∧
      h.trigger.height = h.pre.height ∧ h.trigger.hash = H ∧ H ≠ [] ∧
      (∀ l, h.pre.lock = some l → l.hash = H) ∧ h.res.events = [.commit H]) ∧
    ∀ mid h' post', post = mid ++ h' :: post' → (∀ x ∈ mid, ¬x.Accepted) → ¬h'.Accepted →
      h'.res.events = [] := by
  obtain ⟨ts₀, ts₁, rfl, -, hp, hr, hpost⟩ := trace_eq_append_cons htr
  have hw₀ : NoWal ts₀ := fun t ht => hw t (by simp [ht])
  have ho : h.pre.eventOpen = true := hp ▸ (inv_run hw₀).eventOpen
  have hT := pollNext_transition ho (hw h.trigger (by simp))
  rw [← hr] at hT
  obtain ⟨h1, h2, h3, h4, h5, h6, h7, h8⟩ := hT.commit_of_mem he
  refine ⟨⟨h1, h2, h3, h4, h5, h6, h7⟩, fun mid h' post' hpost' hmid hna => ?_⟩
  rw [← hpost] at hpost'
  exact quiet_of_commit (fun t ht => hw t (by simp [ht])) h8 (hT.eventOpen ho) hpost' hmid hna

theorem commit_once_commitRun :
    NoWal commitRun ∧
    trace new commitRun = (trace new commitRun).take 3 ++
      (trace new commitRun).get ⟨3, by decide⟩ :: [] ∧
    SMREvent.commit [1] ∈ ((trace new commitRun).get ⟨3, by decide⟩).res.events ∧
    ((((trace new commitRun).get ⟨3, by decide⟩).trigger.triggerType = .precommitQC ∧
      ((trace new commitRun).get ⟨3, by decide⟩).trigger.source = .state ∧
      ((trace new commitRun).get ⟨3, by decide⟩).trigger.height =
        ((trace new commitRun).get ⟨3, by decide⟩).pre.height ∧
      ((trace new commitRun).get ⟨3, by decide⟩).trigger.hash = [1] ∧ ([1] : Hash) ≠ [] ∧
      (∀ l, ((trace new commitRun).get ⟨3, by decide⟩).pre.lock = some l → l.hash = [1]) ∧
      ((trace new commitRun).get ⟨3, by decide⟩).res.events = [.commit [1]]) ∧
    ∀ mid h' post', ([] : List Handled) = mid ++ h' :: post' → (∀ x ∈ mid, ¬x.Accepted) →
      ¬h'.Accepted → h'.res.events = []) :=
  have htr : trace new commitRun = (trace new commitRun).take 3 ++
      (trace new commitRun).get ⟨3, by decide⟩ :: [] := rfl
  ⟨by decide, htr, by decide, commit_once (by decide) htr (by decide)⟩

end StateMachine

end Overlord
