import Overlord.StateMachine.Transition

/-!
# The self-check invariant

`check` rejects a trigger from the State when the lock and the proposal hash disagree
(at height `0`), when a lock stands before the precommit step of round `0`, or when in
the precommit step exactly one of "the proposal hash is empty" and "there is no lock"
holds. `Inv` is the invariant that rules out all three on every machine the triggers
reach from `StateMachine::new`:

* a lock names the proposal hash, which is then not empty, outside the commit step;
* in the precommit step, the proposal hash is empty exactly when there is no lock;
* before the precommit step of round `0` there is no lock;
* at height `0` the machine still waits in the commit step, unlocked.

`Transition.inv` proves it kept by each move of `Transition`, `inv_run` along every run
without a WAL record, and `check_run` that `check` then passes: no trigger of a live
node is ever refused with `SelfCheckErr`.
-/

namespace Overlord

namespace StateMachine

variable {s : StateMachine} {t : SMRTrigger}

/-- The invariant behind `check`. -/
structure Inv (s : StateMachine) : Prop where
  lock_hash : ∀ l, s.lock = some l → s.step ≠ .commit → l.hash = s.blockHash ∧ l.hash ≠ []
  precommit_hash : s.step = .precommit → (s.blockHash = [] ↔ s.lock = none)
  round_zero : s.step < .precommit → s.round = 0 → s.lock = none
  height_zero : s.height = 0 → s.step = .commit ∧ s.lock = none
  eventOpen : s.eventOpen = true

theorem inv_new : Inv new where
  lock_hash := by simp [new]
  precommit_hash := by simp [new, Step.default]
  round_zero := by simp [new]
  height_zero := by simp [new, Step.default]
  eventOpen := rfl

/-- The machine a move starts from is not at height `0`, unless it stays put. -/
theorem Inv.height_ne_zero (hi : Inv s) (hs : s.step ≠ .commit) : s.height ≠ 0 :=
  fun h => hs (hi.height_zero h).1

/-- `check` passes on a machine that keeps the invariant. -/
theorem Inv.check_ok (hi : Inv s) : s.check = .ok () := by
  have h1 : ¬(s.height = 0 ∧ s.lock.any (fun l => l.hash != s.blockHash) = true) := by
    rintro ⟨h0, ha⟩
    rw [(hi.height_zero h0).2] at ha
    exact absurd ha (by simp)
  have h2 : ¬(s.step < .precommit ∧ s.round = 0 ∧ s.lock.isSome = true) := by
    rintro ⟨hst, h0, hl⟩
    simp [hi.round_zero hst h0] at hl
  have h3 : ¬(s.step = .precommit ∧ (s.blockHash.isEmpty ^^ s.lock.isNone) = true) := by
    rintro ⟨hst, hx⟩
    have := hi.precommit_hash hst
    cases hb : s.blockHash.isEmpty <;> cases hl : s.lock.isNone <;> simp_all
  rw [check, if_neg h1, if_neg h2, if_neg h3]

/-- **Each move keeps the invariant.** -/
theorem Transition.inv {r : Res} (h : Transition s t r) (hi : Inv s) : Inv r.sm := by
  cases h with
  | noop hs _ _ => rw [hs]; exact hi
  | newHeight _ _ hlt _ =>
    exact ⟨by simp, by simp, by simp, by simp; omega, by simpa using hi.eventOpen⟩
  | proposalTimer _ _ _ hst =>
    have hh := hi.height_ne_zero (by simp [hst])
    exact ⟨fun l hl _ => hi.lock_hash l hl (by simp [hst]), by simp,
      fun _ => hi.round_zero (by simp [hst]), by simp [hh], hi.eventOpen⟩
  | proposalState _ _ _ hst _ _ hs' =>
    have hh := hi.height_ne_zero (by simp [hst])
    rcases proposalPolc_ret hs' with rfl | ⟨rfl, -⟩
    · exact ⟨fun l hl _ => hi.lock_hash l hl (by simp [hst]), by simp,
        fun _ => hi.round_zero (by simp [hst]), by simp [hh], hi.eventOpen⟩
    · exact ⟨by simp, by simp, by simp, by simp [hh], hi.eventOpen⟩
  | prevoteTimer _ _ _ _ hst =>
    have hnc : s.step ≠ .commit := by rintro h; simp [h, Step.le_iff, Step.toU8] at hst
    have hh := hi.height_ne_zero hnc
    rcases hl : s.lock with _ | l
    · exact ⟨by simp [hl], by simp [hl], by simp, by simp [hh], hi.eventOpen⟩
    · obtain ⟨hb, hne⟩ := hi.lock_hash l hl hnc
      refine ⟨?_, ?_, by simp, by simp [hh], hi.eventOpen⟩ <;> simp [hl, ← hb, hne]
  | @prevoteState vr _ _ _ _ hst hne _ =>
    have hnc : s.step ≠ .commit := by rintro h; simp [h, Step.le_iff, Step.toU8] at hst
    have hh := hi.height_ne_zero hnc
    refine ⟨fun l' h' _ => ?_, fun _ => ?_, by simp, by simp [hh], by simpa using hi.eventOpen⟩
    · rcases prevotePolc_lock s hne vr with ⟨hl, hb, -⟩ | ⟨hl, hb, l, hl', -⟩
      · rw [gotoStep, hl] at h'; cases h'; exact ⟨hb.symm, hne⟩
      · rw [gotoStep, hl, hl'] at h'; cases h'; rw [gotoStep, hb]; exact hi.lock_hash _ hl' hnc
    · rcases prevotePolc_lock s hne vr with ⟨hl, hb, -⟩ | ⟨hl, hb, l, hl', -⟩
      · simp [hl, hb, hne]
      · simp [hl, hl', hb, ← (hi.lock_hash l hl' hnc).1, (hi.lock_hash l hl' hnc).2]
  | precommitTimer _ _ _ _ hst =>
    have hh := hi.height_ne_zero hst
    exact ⟨fun l hl _ => hi.lock_hash l hl hst, by simp, by simp, by simp [hh], hi.eventOpen⟩
  | precommitState _ _ _ _ hst _ _ hs' =>
    have hh := hi.height_ne_zero hst
    rw [(checkPolc_ret hs').1]
    exact ⟨by simp, by simp, by simp, by simp [hh], hi.eventOpen⟩

theorem Inv.pollNext (hi : Inv s) (hw : t.triggerType ≠ .walInfo) : Inv (s.pollNext t).sm :=
  (pollNext_transition hi.eventOpen hw).inv hi

theorem Inv.run {ts : List SMRTrigger} (hw : NoWal ts) (hi : Inv s) : Inv (run s ts) := by
  induction ts generalizing s with
  | nil => exact hi
  | cons t ts ih =>
    exact ih (fun t' h => hw t' (.tail _ h)) (hi.pollNext (hw t (.head _)))

theorem inv_run {ts : List SMRTrigger} (hw : NoWal ts) : Inv (run new ts) :=
  inv_new.run hw

/-- **The self-check invariant of the SMR.** On every machine that a run without WAL
records reaches from `StateMachine::new`: a lock outside the commit step names the
non-empty proposal hash; in the precommit step the proposal hash is empty exactly when
there is no lock; before the precommit step of round `0` there is no lock; and `check`
passes. -/
theorem check_run {ts : List SMRTrigger} (hw : NoWal ts) :
    (∀ l, (run new ts).lock = some l → (run new ts).step ≠ .commit →
      l.hash = (run new ts).blockHash ∧ l.hash ≠ []) ∧
    ((run new ts).step = .precommit → ((run new ts).blockHash = [] ↔ (run new ts).lock = none)) ∧
    ((run new ts).step < .precommit → (run new ts).round = 0 → (run new ts).lock = none) ∧
    (run new ts).check = .ok () :=
  let hi := inv_run hw
  ⟨hi.lock_hash, hi.precommit_hash, hi.round_zero, hi.check_ok⟩

theorem check_run_locked :
    NoWal (commitRun.take 3) ∧
    ((∀ l, (run new (commitRun.take 3)).lock = some l →
      (run new (commitRun.take 3)).step ≠ .commit →
        l.hash = (run new (commitRun.take 3)).blockHash ∧ l.hash ≠ []) ∧
    ((run new (commitRun.take 3)).step = .precommit →
      ((run new (commitRun.take 3)).blockHash = [] ↔ (run new (commitRun.take 3)).lock = none)) ∧
    ((run new (commitRun.take 3)).step < .precommit → (run new (commitRun.take 3)).round = 0 →
      (run new (commitRun.take 3)).lock = none) ∧
    (run new (commitRun.take 3)).check = .ok ()) :=
  ⟨by decide, check_run (by decide)⟩

end StateMachine

end Overlord
