import Overlord.StateMachine

/-!
# What one trigger does to the SMR

`Transition s t r` lists what handling the trigger `t` can do to the machine `s` while
its event channels are open: leave it as it was and throw nothing, or take one of the
eight moves of the handlers, each with its guards, the machine it leaves and the one
event it throws. `pollNext_transition` proves that `pollNext` always takes one of them,
so that the invariants of the later files never unfold a handler.

`trace s ts` is the run of the triggers `ts` from `s`: for each trigger, the machine
before it and what handling it left. `trace_append` adds a trigger at the end.
-/

namespace Overlord

namespace StateMachine

variable {s : StateMachine} {t : SMRTrigger}

/-! ## The moves of one trigger -/

/-- The moves the handlers make on a trigger other than a WAL record. -/
inductive Transition (s : StateMachine) (t : SMRTrigger) : Res → Prop where
  | noop {r : Res} : r.sm = s → r.events = [] →
      (r.exit = .ok → ∀ status, t.triggerType ≠ .newHeight status) → Transition s t r
  | newHeight {status : SMRStatus} :
      t.triggerType = .newHeight status → t.source = .state → s.height < status.height →
      s.check = .ok () →
      Transition s t ⟨s.gotoNewHeight status.height,
        [.newRoundInfo status.height INIT_ROUND none none], .ok⟩
  | proposalTimer :
      t.triggerType = .proposal → t.source = .timer → t.height = s.height →
      s.step = .propose →
      Transition s t ⟨s.gotoStep .prevote, [.prevoteVote s.height s.round [] s.lockRound], .ok⟩
  | proposalState {s' : StateMachine} :
      t.triggerType = .proposal → t.source = .state → t.height = s.height →
      s.step = .propose → t.hash ≠ [] → s.check = .ok () →
      s.proposalPolc t.hash t.round = Res.ret s' →
      Transition s t ⟨s'.gotoStep .prevote,
        [.prevoteVote s'.height s'.round s'.blockHash s'.lockRound], .ok⟩
  | prevoteTimer {vr : Nat} :
      t.triggerType = .prevoteQC → t.round = some vr → t.source = .timer →
      t.height = s.height → s.step ≤ .prevote →
      Transition s t ⟨(if s.lock.isSome then s else s.setProposal []).gotoStep .precommit,
        [.precommitVote s.height s.round [] s.lockRound], .ok⟩
  | prevoteState {vr : Nat} :
      t.triggerType = .prevoteQC → t.round = some vr → t.source = .state →
      t.height = s.height → s.step ≤ .prevote → t.hash ≠ [] → s.check = .ok () →
      Transition s t ⟨(s.prevotePolc t.hash vr).gotoStep .precommit,
        [.precommitVote (s.prevotePolc t.hash vr).height (s.prevotePolc t.hash vr).round
          (s.prevotePolc t.hash vr).blockHash (s.prevotePolc t.hash vr).lockRound], .ok⟩
  | precommitTimer {pr : Nat} :
      t.triggerType = .precommitQC → t.round = some pr → t.source = .timer →
      t.height = s.height → s.step ≠ .commit →
      Transition s t ⟨s.gotoNextRound,
        [.newRoundInfo s.height (s.round + 1) s.lockRound (s.lock.map Lock.hash)], .ok⟩
  | precommitState {pr : Nat} {s' : StateMachine} :
      t.triggerType = .precommitQC → t.round = some pr → t.source = .state →
      t.height = s.height → s.step ≠ .commit → t.hash ≠ [] → s.check = .ok () →
      s.checkPolc t.hash pr = Res.ret s' →
      Transition s t ⟨s'.gotoStep .commit, [.commit t.hash], .ok⟩

/-! ## The helpers -/

/-- `proposalPolc` keeps the machine, or sets the proposal hash after unlocking by a
higher lock round (or with no lock at all), or finds a fork. -/
theorem proposalPolc_cases (s : StateMachine) (h : Hash) (lr : Option Nat) :
    s.proposalPolc h lr = Res.ret s ∨
    (s.proposalPolc h lr = Res.ret { s with lock := none, blockHash := h } ∧
      (s.lock = none ∨ ∃ l r, s.lock = some l ∧ lr = some r ∧ l.round < r)) ∨
    ∃ e, s.proposalPolc h lr = Res.fail s e := by
  unfold proposalPolc
  rcases s with ⟨ht, rd, st, bh, _ | l, eo⟩ <;> rcases lr with _ | r
  · exact .inr (.inl ⟨rfl, .inl rfl⟩)
  · exact .inr (.inl ⟨rfl, .inl rfl⟩)
  · exact .inl rfl
  · dsimp only
    split_ifs with h1
    · exact .inr (.inl ⟨rfl, .inr ⟨l, r, rfl, rfl, h1⟩⟩)
    · exact .inr (.inr ⟨_, rfl⟩)
    · exact .inl rfl

/-- `checkPolc` locks on the QC's hash at its round, unless locked on another hash. -/
theorem checkPolc_cases (s : StateMachine) (h : Hash) (r : Nat) :
    (s.checkPolc h r = Res.ret { s with lock := some ⟨r, h⟩, round := r } ∧
      ∀ l, s.lock = some l → l.hash = h) ∨ ∃ e, s.checkPolc h r = Res.fail s e := by
  unfold checkPolc
  rcases s with ⟨ht, rd, st, bh, _ | ⟨lr, lh⟩, eo⟩
  · exact .inl ⟨rfl, by simp⟩
  · dsimp only
    split_ifs with hh
    · exact .inr ⟨_, rfl⟩
    · exact .inl ⟨by simp_all, by simp_all⟩

theorem proposalPolc_ret {h : Hash} {lr : Option Nat} {s' : StateMachine}
    (hs : s.proposalPolc h lr = Res.ret s') :
    s' = s ∨ (s' = { s with lock := none, blockHash := h } ∧
      (s.lock = none ∨ ∃ l r, s.lock = some l ∧ lr = some r ∧ l.round < r)) := by
  rcases proposalPolc_cases s h lr with h1 | ⟨h1, h2⟩ | ⟨e, h1⟩ <;> rw [hs] at h1
  · exact .inl (Res.ret_inj.mp h1)
  · exact .inr ⟨Res.ret_inj.mp h1, h2⟩
  · exact absurd h1 Res.ret_ne_fail

theorem checkPolc_ret {h : Hash} {r : Nat} {s' : StateMachine}
    (hs : s.checkPolc h r = Res.ret s') :
    s' = { s with lock := some ⟨r, h⟩, round := r } ∧ ∀ l, s.lock = some l → l.hash = h := by
  rcases checkPolc_cases s h r with ⟨h1, h2⟩ | ⟨e, h1⟩ <;> rw [hs] at h1
  · exact ⟨Res.ret_inj.mp h1, h2⟩
  · exact absurd h1 Res.ret_ne_fail

@[simp] theorem prevotePolc_height (s : StateMachine) (h : Hash) (r : Nat) :
    (s.prevotePolc h r).height = s.height := by
  rcases s with ⟨_, _, _, _, _ | l, _⟩ <;>
    simp only [prevotePolc, updatePolc, setProposal, removePolc] <;> split_ifs <;> rfl

@[simp] theorem prevotePolc_step (s : StateMachine) (h : Hash) (r : Nat) :
    (s.prevotePolc h r).step = s.step := by
  rcases s with ⟨_, _, _, _, _ | l, _⟩ <;>
    simp only [prevotePolc, updatePolc, setProposal, removePolc] <;> split_ifs <;> rfl

@[simp] theorem prevotePolc_eventOpen (s : StateMachine) (h : Hash) (r : Nat) :
    (s.prevotePolc h r).eventOpen = s.eventOpen := by
  rcases s with ⟨_, _, _, _, _ | l, _⟩ <;>
    simp only [prevotePolc, updatePolc, setProposal, removePolc] <;> split_ifs <;> rfl

@[simp] theorem prevotePolc_round (s : StateMachine) (h : Hash) (r : Nat) :
    (s.prevotePolc h r).round = min s.round r := by
  rcases s with ⟨_, _, _, _, _ | l, _⟩ <;>
    simp only [prevotePolc, updatePolc, setProposal, removePolc] <;> split_ifs <;>
    simp_all <;> omega

/-- On a non-empty hash, `prevotePolc` locks on it when the QC round is above the lock
round (or when unlocked), and otherwise keeps the lock and the proposal hash. -/
theorem prevotePolc_lock (s : StateMachine) {h : Hash} (hh : h ≠ []) (r : Nat) :
    ((s.prevotePolc h r).lock = some ⟨r, h⟩ ∧ (s.prevotePolc h r).blockHash = h ∧
      ∀ l, s.lock = some l → l.round < r) ∨
    ((s.prevotePolc h r).lock = s.lock ∧ (s.prevotePolc h r).blockHash = s.blockHash ∧
      ∃ l, s.lock = some l ∧ r ≤ l.round) := by
  rcases s with ⟨_, _, _, _, _ | l, _⟩ <;>
    simp only [prevotePolc, updatePolc, setProposal, removePolc] <;> split_ifs <;> simp_all

theorem throwEvent_open (ho : s.eventOpen = true) (ev : SMREvent) :
    s.throwEvent ev = ⟨s, [ev], .ok⟩ := by
  simp [throwEvent, ho]

theorem checked_of_error {k : StateMachine → Res} {e : ConsensusError}
    (h : s.check = .error e) : s.checked k = Res.fail s e := by
  simp [checked, h]

theorem checked_of_ok {k : StateMachine → Res} (h : s.check = .ok ()) : s.checked k = k s := by
  simp [checked, h]

theorem andThen_event (r : StateMachine → Res) (s : StateMachine) (ev : SMREvent) :
    Res.andThen ⟨s, [ev], .ok⟩ r = { r s with events := ev :: (r s).events } := rfl

/-! ## Each handler takes one move -/

theorem handleNewHeight_transition (ho : s.eventOpen = true) {status : SMRStatus}
    (ht : t.triggerType = .newHeight status) :
    Transition s t (s.handleNewHeight status t.source) := by
  dsimp only [handleNewHeight]
  split_ifs with h1 h2
  · exact .noop rfl rfl (by simp [ht])
  · exact .noop rfl rfl (by simp [ht])
  · cases hc : s.check with
    | error e => rw [checked_of_error hc]; exact .noop rfl rfl (by simp [ht])
    | ok u =>
      rw [checked_of_ok hc, throwEvent_open (by simpa using ho)]
      exact .newHeight ht (by simpa using h1) (by omega) hc

theorem handleProposal_transition (ho : s.eventOpen = true) (ht : t.triggerType = .proposal) :
    Transition s t (s.handleProposal t.hash t.round t.source t.height) := by
  unfold handleProposal
  by_cases h1 : s.height ≠ t.height
  · rw [if_pos h1]; exact .noop rfl rfl (by simp [ht])
  rw [if_neg h1]
  by_cases h2 : s.step > .propose
  · rw [if_pos h2]; exact .noop rfl rfl (by simp [ht])
  rw [if_neg h2]
  have hst : s.step = .propose := by simpa using h2
  by_cases h3 : t.source = .timer
  · rw [if_pos h3, throwEvent_open ho, andThen_event]
    exact .proposalTimer ht h3 (not_not.mp h1).symm hst
  rw [if_neg h3]
  have hsrc : t.source = .state := by cases h : t.source <;> simp_all
  by_cases h4 : t.hash.isEmpty
  · rw [if_pos h4]; exact .noop rfl rfl (by simp [ht])
  rw [if_neg h4]
  cases hc : s.check with
  | error e => rw [checked_of_error hc]; exact .noop rfl rfl (by simp [ht])
  | ok u =>
    rw [checked_of_ok hc]
    rcases proposalPolc_cases s t.hash t.round with hs' | ⟨hs', -⟩ | ⟨e, he⟩
    · rw [hs', Res.ret_andThen, throwEvent_open ho, andThen_event]
      exact .proposalState ht hsrc (not_not.mp h1).symm hst (by simpa using h4) hc hs'
    · rw [hs', Res.ret_andThen, throwEvent_open (by exact ho), andThen_event]
      exact .proposalState ht hsrc (not_not.mp h1).symm hst (by simpa using h4) hc hs'
    · rw [he]; exact .noop rfl rfl (by simp [ht])

theorem handlePrevote_transition (ho : s.eventOpen = true) (ht : t.triggerType = .prevoteQC) :
    Transition s t (s.handlePrevote t.hash t.round t.source t.height) := by
  unfold handlePrevote
  rcases hr : t.round with _ | vr
  · exact .noop rfl rfl (by simp [ht])
  dsimp only
  by_cases h1 : s.height ≠ t.height
  · rw [if_pos h1]; exact .noop rfl rfl (by simp [ht])
  rw [if_neg h1]
  by_cases h2 : s.step > .prevote
  · rw [if_pos h2]; exact .noop rfl rfl (by simp [ht])
  rw [if_neg h2]
  have hst : s.step ≤ .prevote := Step.le_prevote_of_not_lt h2
  by_cases h3 : t.source = .timer
  · rw [if_pos h3, throwEvent_open (by split_ifs <;> simpa using ho), andThen_event]
    exact .prevoteTimer ht hr h3 (not_not.mp h1).symm hst
  rw [if_neg h3]
  have hsrc : t.source = .state := by cases h : t.source <;> simp_all
  by_cases h4 : t.hash.isEmpty
  · rw [if_pos h4]; exact .noop rfl rfl (by simp [ht])
  rw [if_neg h4]
  cases hc : s.check with
  | error e => rw [checked_of_error hc]; exact .noop rfl rfl (by simp [ht])
  | ok u =>
    rw [checked_of_ok hc, throwEvent_open (by simpa using ho), andThen_event]
    exact .prevoteState ht hr hsrc (not_not.mp h1).symm hst (by simpa using h4) hc

theorem handlePrecommit_transition (ho : s.eventOpen = true)
    (ht : t.triggerType = .precommitQC) :
    Transition s t (s.handlePrecommit t.hash t.round t.source t.height) := by
  unfold handlePrecommit
  rcases hr : t.round with _ | pr
  · exact .noop rfl rfl (by simp [ht])
  dsimp only
  by_cases h1 : s.height ≠ t.height
  · rw [if_pos h1]; exact .noop rfl rfl (by simp [ht])
  rw [if_neg h1]
  by_cases h2 : s.step > .precommit
  · rw [if_pos h2]; exact .noop rfl rfl (by simp [ht])
  rw [if_neg h2]
  have hst : s.step ≠ .commit := by simpa using h2
  by_cases h3 : t.source = .timer
  · rw [if_pos h3, throwEvent_open ho, andThen_event]
    exact .precommitTimer ht hr h3 (not_not.mp h1).symm hst
  rw [if_neg h3]
  have hsrc : t.source = .state := by cases h : t.source <;> simp_all
  by_cases h4 : t.hash.isEmpty
  · rw [if_pos h4]; exact .noop rfl rfl (by simp [ht])
  rw [if_neg h4]
  cases hc : s.check with
  | error e => rw [checked_of_error hc]; exact .noop rfl rfl (by simp [ht])
  | ok u =>
    rw [checked_of_ok hc]
    rcases checkPolc_cases s t.hash pr with ⟨hs', -⟩ | ⟨e, he⟩
    · rw [hs', Res.ret_andThen, throwEvent_open (by exact ho), andThen_event]
      exact .precommitState ht hr hsrc (not_not.mp h1).symm hst (by simpa using h4) hc hs'
    · rw [he]; exact .noop rfl rfl (by simp [ht])

/-- **Every trigger but a WAL record takes one of the moves.** -/
theorem pollNext_transition (ho : s.eventOpen = true) (hw : t.triggerType ≠ .walInfo) :
    Transition s t (s.pollNext t) := by
  unfold pollNext
  split
  · exact handleNewHeight_transition ho ‹_›
  · exact handleProposal_transition ho ‹_›
  · exact handlePrevote_transition ho ‹_›
  · exact handlePrecommit_transition ho ‹_›
  · exact absurd ‹_› hw

theorem Transition.eventOpen {r : Res} (h : Transition s t r) (ho : s.eventOpen = true) :
    r.sm.eventOpen = true := by
  cases h with
  | noop hs _ _ => rw [hs]; exact ho
  | proposalState _ _ _ _ _ _ hs' =>
    rcases proposalPolc_ret hs' with rfl | ⟨rfl, -⟩ <;> exact ho
  | precommitState _ _ _ _ _ _ _ hs' => rw [(checkPolc_ret hs').1]; exact ho
  | prevoteTimer => dsimp only; split_ifs <;> exact ho
  | _ => simpa using ho

/-! ## Runs -/

/-- One handled trigger: the machine before it, the trigger, and what handling it left. -/
structure Handled where
  pre : StateMachine
  trigger : SMRTrigger
  res : Res

/-- The machine a run of the triggers `ts` from `s` ends in. -/
def run (s : StateMachine) (ts : List SMRTrigger) : StateMachine :=
  ts.foldl (fun s t => (s.pollNext t).sm) s

/-- The handled triggers of a run of `ts` from `s`, in order. -/
def trace (s : StateMachine) : List SMRTrigger → List Handled
  | [] => []
  | t :: ts => ⟨s, t, s.pollNext t⟩ :: trace (s.pollNext t).sm ts

/-- An accepted `NewHeight` trigger: a rich status the SMR moved to. -/
def Handled.Accepted (h : Handled) : Prop :=
  (∃ status, h.trigger.triggerType = .newHeight status) ∧ h.res.exit = .ok

/-- A height run to its commit: a new height, then a proposal, a prevote QC and a
precommit QC from the State, all for the hash `[1]` in round `0`. -/
def commitRun : List SMRTrigger :=
  [⟨.newHeight ⟨1⟩, .state, [], none, 0, none⟩, ⟨.proposal, .state, [1], none, 1, none⟩,
   ⟨.prevoteQC, .state, [1], some 0, 1, none⟩, ⟨.precommitQC, .state, [1], some 0, 1, none⟩]

/-- The run has no WAL record: the triggers of a live node. -/
def NoWal (ts : List SMRTrigger) : Prop := ∀ t ∈ ts, t.triggerType ≠ .walInfo

instance (ts : List SMRTrigger) : Decidable (NoWal ts) :=
  inferInstanceAs (Decidable (∀ t ∈ ts, t.triggerType ≠ .walInfo))

@[simp] theorem run_nil (s : StateMachine) : run s [] = s := rfl

@[simp] theorem run_cons (s : StateMachine) (t : SMRTrigger) (ts : List SMRTrigger) :
    run s (t :: ts) = run (s.pollNext t).sm ts := rfl

theorem run_append (s : StateMachine) (ts : List SMRTrigger) (t : SMRTrigger) :
    run s (ts ++ [t]) = ((run s ts).pollNext t).sm := by
  simp [run, List.foldl_append]

theorem trace_append (s : StateMachine) (ts : List SMRTrigger) (t : SMRTrigger) :
    trace s (ts ++ [t]) = trace s ts ++ [⟨run s ts, t, (run s ts).pollNext t⟩] := by
  induction ts generalizing s with
  | nil => rfl
  | cons t' ts ih => simp [trace, ih]

theorem noWal_append {ts : List SMRTrigger} {t : SMRTrigger} :
    NoWal (ts ++ [t]) ↔ NoWal ts ∧ t.triggerType ≠ .walInfo := by
  simp [NoWal, or_imp, forall_and]

theorem trace_eq_append_cons {s : StateMachine} {ts : List SMRTrigger}
    {pre post : List Handled} {h : Handled} (he : trace s ts = pre ++ h :: post) :
    ∃ ts₀ ts₁, ts = ts₀ ++ h.trigger :: ts₁ ∧ trace s ts₀ = pre ∧ h.pre = run s ts₀ ∧
      h.res = h.pre.pollNext h.trigger ∧ trace h.res.sm ts₁ = post := by
  induction ts generalizing s pre with
  | nil => cases pre <;> simp [trace] at he
  | cons t ts ih =>
    cases pre with
    | nil =>
      simp only [trace, List.nil_append, List.cons.injEq] at he
      obtain ⟨rfl, rfl⟩ := he
      exact ⟨[], ts, rfl, rfl, rfl, rfl, rfl⟩
    | cons x pre =>
      simp only [trace, List.cons_append, List.cons.injEq] at he
      obtain ⟨rfl, he⟩ := he
      obtain ⟨ts₀, ts₁, rfl, rfl, hp, hr, hpost⟩ := ih he
      exact ⟨t :: ts₀, ts₁, rfl, rfl, hp, hr, hpost⟩

theorem mem_trace {s : StateMachine} {ts : List SMRTrigger} {h : Handled}
    (hm : h ∈ trace s ts) :
    ∃ ts₀ ts₁, ts = ts₀ ++ h.trigger :: ts₁ ∧ h.pre = run s ts₀ ∧
      h.res = h.pre.pollNext h.trigger := by
  obtain ⟨pre, post, he⟩ := List.append_of_mem hm
  obtain ⟨ts₀, ts₁, hts, -, hp, hr, -⟩ := trace_eq_append_cons he
  exact ⟨ts₀, ts₁, hts, hp, hr⟩

end StateMachine

end Overlord
