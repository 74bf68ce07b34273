import Overlord.StateMachine.Transition

/-!
# A failed trigger leaves the SMR as it was

A handler of `poll_next` fails in one of two ways. Either it returns an error before it
writes anything: a trigger from the wrong source, a delayed status, an empty hash or QC,
no vote round, a failed self-check, or a fork found by the PoLC update or by `check_polc`.
Or `throw_event` finds a receiver dropped, after the writes the handler made so far.
`Res.SendsOnly r` says that `r` can fail only the second way, and `Res.Untouched s r` that
an error of the first kind leaves `s` as it was and throws nothing.

`pollNext_error_untouched` is the result: on every machine and every trigger, an error
other than `ThrowEventErr` leaves the height, the round, the step, the proposal hash and
the lock as they were, and no event has been thrown.
-/

namespace Overlord

namespace Res

/-- `r` fails, if at all, only on a dropped event channel. -/
def SendsOnly (r : Res) : Prop := ∀ e, r.exit = .err e → ∃ m, e = .throwEventErr m

/-- An error of `r` other than a dropped event channel leaves `s` and throws nothing. -/
def Untouched (s : StateMachine) (r : Res) : Prop :=
  ∀ e, r.exit = .err e → (∀ m, e ≠ .throwEventErr m) → r.sm = s ∧ r.events = []

variable {s : StateMachine} {r : Res} {k : StateMachine → Res}

theorem sendsOnly_ret (s' : StateMachine) : (ret s').SendsOnly := by
  simp [SendsOnly]

theorem SendsOnly.untouched (h : r.SendsOnly) : r.Untouched s := fun e he hne => by
  obtain ⟨m, rfl⟩ := h e he
  exact absurd rfl (hne m)

theorem untouched_fail (e : ConsensusError) : (fail s e).Untouched s :=
  fun _ _ _ => ⟨rfl, rfl⟩

theorem SendsOnly.andThen (hr : r.SendsOnly) (hk : ∀ s', (k s').SendsOnly) :
    (r.andThen k).SendsOnly := by
  intro e he
  unfold Res.andThen at he
  split at he
  exacts [hk r.sm e he, hr e he]

/-- After a step that fails only before its writes, the rest may fail only on a send. -/
theorem Untouched.andThen (hr : r.Untouched s) (hk : ∀ s', (k s').SendsOnly) :
    (r.andThen k).Untouched s := by
  intro e he hne
  cases hx : r.exit with
  | ok =>
    simp only [Res.andThen, hx] at he
    obtain ⟨m, rfl⟩ := hk r.sm e he
    exact absurd rfl (hne m)
  | err e' =>
    simp only [Res.andThen, hx] at he ⊢
    exact hr e' hx (by cases he; exact hne)
  | panic => simp [Res.andThen, hx] at he

end Res

namespace StateMachine

open Res

variable {s : StateMachine}

theorem throwEvent_sendsOnly (ev : SMREvent) : (s.throwEvent ev).SendsOnly := by
  unfold throwEvent
  split
  · simp [SendsOnly]
  · exact fun e he => ⟨_, by cases he; rfl⟩

theorem checked_untouched {k : StateMachine → Res} (hk : (k s).Untouched s) :
    (s.checked k).Untouched s := by
  unfold checked
  split
  exacts [hk, untouched_fail _]

theorem proposalPolc_untouched (h : Hash) (lr : Option Nat) :
    (s.proposalPolc h lr).Untouched s := by
  rcases proposalPolc_cases s h lr with hs | ⟨hs, -⟩ | ⟨e, hs⟩ <;> rw [hs]
  exacts [(sendsOnly_ret _).untouched, (sendsOnly_ret _).untouched, untouched_fail e]

theorem checkPolc_untouched (h : Hash) (r : Nat) : (s.checkPolc h r).Untouched s := by
  rcases checkPolc_cases s h r with ⟨hs, -⟩ | ⟨e, hs⟩ <;> rw [hs]
  exacts [(sendsOnly_ret _).untouched, untouched_fail e]

/-- A send, then `Ok`. -/
theorem throwEvent_then_sendsOnly (ev : SMREvent) (f : StateMachine → StateMachine) :
    ((s.throwEvent ev).andThen fun s => ret (f s)).SendsOnly :=
  (throwEvent_sendsOnly ev).andThen fun _ => sendsOnly_ret _

theorem handleNewHeight_untouched (status : SMRStatus) (source : TriggerSource) :
    (s.handleNewHeight status source).Untouched s := by
  dsimp only [handleNewHeight]
  split_ifs
  · exact untouched_fail _
  · exact untouched_fail _
  · exact checked_untouched (throwEvent_sendsOnly _).untouched

theorem handleProposal_untouched (h : Hash) (lr : Option Nat) (source : TriggerSource)
    (height : Nat) : (s.handleProposal h lr source height).Untouched s := by
  unfold handleProposal
  split_ifs
  · exact (sendsOnly_ret _).untouched
  · exact (sendsOnly_ret _).untouched
  · exact (throwEvent_then_sendsOnly _ _).untouched
  · exact untouched_fail _
  · exact checked_untouched
      ((proposalPolc_untouched h lr).andThen fun _ => throwEvent_then_sendsOnly _ _)

theorem handlePrevote_untouched (h : Hash) (vr : Option Nat) (source : TriggerSource)
    (height : Nat) : (s.handlePrevote h vr source height).Untouched s := by
  unfold handlePrevote
  split
  · exact untouched_fail _
  split
  · exact (sendsOnly_ret _).untouched
  split
  · exact (sendsOnly_ret _).untouched
  split
  · exact (throwEvent_then_sendsOnly _ _).untouched
  split
  · exact untouched_fail _
  refine checked_untouched ?_
  exact (throwEvent_then_sendsOnly _ _).untouched

theorem handlePrecommit_untouched (h : Hash) (pr : Option Nat) (source : TriggerSource)
    (height : Nat) : (s.handlePrecommit h pr source height).Untouched s := by
  unfold handlePrecommit
  split
  · exact untouched_fail _
  split_ifs
  · exact (sendsOnly_ret _).untouched
  · exact (sendsOnly_ret _).untouched
  · exact (throwEvent_then_sendsOnly _ _).untouched
  · exact untouched_fail _
  · exact checked_untouched
      ((checkPolc_untouched h _).andThen fun _ => throwEvent_then_sendsOnly _ _)

theorem handleWal_sendsOnly (info : SMRBase) : (s.handleWal info).SendsOnly := by
  dsimp only [handleWal, setTimerAfterWal]
  split
  · exact throwEvent_sendsOnly _
  · exact throwEvent_sendsOnly _
  · exact throwEvent_sendsOnly _
  · simp [SendsOnly]

/-- **A failed trigger leaves the SMR as it was.** On every machine and every trigger, when
`poll_next` returns an error other than `ThrowEventErr`, the machine is as it was before,
height, round, step, proposal hash and lock, and no event has been thrown. -/
theorem pollNext_error_untouched (s : StateMachine) (t : SMRTrigger) (e : ConsensusError)
    (he : (s.pollNext t).exit = .err e) (hne : ∀ m, e ≠ .throwEventErr m) :
    (s.pollNext t).sm = s ∧ (s.pollNext t).events = [] := by
  revert he hne
  unfold pollNext
  split
  · exact handleNewHeight_untouched _ _ e
  · exact handleProposal_untouched _ _ _ _ e
  · exact handlePrevote_untouched _ _ _ _ e
  · exact handlePrecommit_untouched _ _ _ _ e
  · split
    · exact (handleWal_sendsOnly _).untouched e
    · simp

/-- The precommit QC of another hash than the lock, after `commitRun`'s prevote QC, is a
fork found by `check_polc`. -/
theorem pollNext_error_untouched_fork :
    ((run new (commitRun.take 3)).pollNext ⟨.precommitQC, .state, [2], some 0, 1, none⟩).exit =
      .err (.correctnessErr "Fork") ∧
    (∀ m, ConsensusError.correctnessErr "Fork" ≠ .throwEventErr m) ∧
    ((run new (commitRun.take 3)).pollNext ⟨.precommitQC, .state, [2], some 0, 1, none⟩).sm =
      run new (commitRun.take 3) ∧
    ((run new (commitRun.take 3)).pollNext ⟨.precommitQC, .state, [2], some 0, 1, none⟩).events =
      [] :=
  have he : ((run new (commitRun.take 3)).pollNext
      ⟨.precommitQC, .state, [2], some 0, 1, none⟩).exit = .err (.correctnessErr "Fork") := by
    decide
  have hne : ∀ m, ConsensusError.correctnessErr "Fork" ≠ .throwEventErr m := by simp
  ⟨he, hne, pollNext_error_untouched _ _ _ he hne⟩

end StateMachine

end Overlord
