import Overlord.StateMachine.Invariant

/-!
# The lock

How the lock of the SMR moves, and where the lock a precommit vote names comes from.

`LockStep s t s'` is the law of one trigger `t` within a height: the lock round never
goes down; a new lock is only taken on a prevote QC from the State, of the new lock's
round and hash (and, when it replaces a lock, of a higher round); and the lock is only
dropped on a proposal from the State whose lock round is above it. `Transition.lockStep`
proves it of every move that keeps the height and does not commit (committing retakes
the lock at the QC's round, `check_polc`), and `lockStep_trace` of every such step of a
run from `StateMachine::new`.

`precommitVote_lock`: a precommit vote for a non-empty hash `H` names the lock the SMR
then holds, `(r, H)`, with lock round `Some(r)`; that lock was installed, with no height
change since, by a prevote QC from the State of round `r` and hash `H` for the current
height. The proof carries `Provenance` along the run.

`handleProposal_locked`: a locked SMR in the propose step prevotes a hash other than its
lock's only on a proposal whose lock round is above its lock's (`PrevoteDiscipline`).
-/

namespace Overlord

namespace StateMachine

variable {s s' : StateMachine} {t : SMRTrigger}

/-! ## One step -/

/-- How the lock may move on one trigger within a height. -/
def LockStep (s : StateMachine) (t : SMRTrigger) (s' : StateMachine) : Prop :=
  (∀ l l', s.lock = some l → s'.lock = some l' → l.round ≤ l'.round ∧
    (l' ≠ l → t.triggerType = .prevoteQC ∧ t.source = .state ∧ t.round = some l'.round ∧
      l.round < l'.round ∧ t.hash = l'.hash)) ∧
  (∀ l', s.lock = none → s'.lock = some l' → t.triggerType = .prevoteQC ∧
    t.source = .state ∧ t.round = some l'.round ∧ t.hash = l'.hash) ∧
  (∀ l, s.lock = some l → s'.lock = none → t.triggerType = .proposal ∧ t.source = .state ∧
    ∃ lr, t.round = some lr ∧ l.round < lr)

theorem LockStep.of_lock_eq (h : s'.lock = s.lock) : LockStep s t s' := by
  refine ⟨fun l l' hl hl' => ?_, fun l' hl hl' => ?_, fun l hl hl' => ?_⟩ <;> simp_all

/-- **The lock law of one move.** -/
theorem Transition.lockStep {r : Res} (h : Transition s t r) (hh : r.sm.height = s.height)
    (hc : r.sm.step ≠ .commit) : LockStep s t r.sm := by
  cases h with
  | noop hs _ _ => exact .of_lock_eq (by rw [hs])
  | newHeight _ _ hlt _ => simp at hh; omega
  | proposalTimer => exact .of_lock_eq rfl
  | proposalState ht hsrc _ _ _ _ hs' =>
    rcases proposalPolc_ret hs' with rfl | ⟨rfl, hu⟩
    · exact .of_lock_eq rfl
    · refine ⟨by simp, by simp, fun l hl _ => ⟨ht, hsrc, ?_⟩⟩
      rcases hu with hu | ⟨l₀, lr, hl₀, hlr, hlt⟩
      · simp [hu] at hl
      · rw [hl] at hl₀; cases hl₀; exact ⟨lr, hlr, hlt⟩
  | prevoteTimer => exact .of_lock_eq (by simp only [gotoStep]; split_ifs <;> rfl)
  | @prevoteState vr ht hr hsrc _ _ hne _ =>
    rcases prevotePolc_lock s hne vr with ⟨hl, -, hlt⟩ | ⟨hl, -⟩
    · refine ⟨fun l l' h1 h2 => ?_, fun l' _ h2 => ?_, fun l _ h2 => ?_⟩
      · simp only [gotoStep, hl, Option.some.injEq] at h2; subst h2
        exact ⟨Nat.le_of_lt (hlt l h1), fun _ => ⟨ht, hsrc, hr, hlt l h1, rfl⟩⟩
      · simp only [gotoStep, hl, Option.some.injEq] at h2; subst h2
        exact ⟨ht, hsrc, hr, rfl⟩
      · simp [hl] at h2
    · exact .of_lock_eq hl
  | precommitTimer => exact .of_lock_eq rfl
  | precommitState => simp at hc

/-- **Lock discipline within a height.** On every step of a run without WAL records
from `StateMachine::new` that keeps the height and does not end in the commit step, the
lock moves by `LockStep`. -/
theorem lockStep_trace {ts : List SMRTrigger} (hw : NoWal ts) {h : Handled}
    (hm : h ∈ trace new ts) (hh : h.res.sm.height = h.pre.height)
    (hc : h.res.sm.step ≠ .commit) : LockStep h.pre h.trigger h.res.sm := by
  obtain ⟨ts₀, ts₁, rfl, hp, hr⟩ := mem_trace hm
  have hw₀ : NoWal ts₀ := fun t ht => hw t (by simp [ht])
  have ho : h.pre.eventOpen = true := hp ▸ (inv_run hw₀).eventOpen
  have hT := pollNext_transition ho (hw h.trigger (by simp))
  rw [← hr] at hT
  exact hT.lockStep hh hc

theorem lockStep_trace_prevoteQC :
    NoWal commitRun ∧ (trace new commitRun).get ⟨2, by decide⟩ ∈ trace new commitRun ∧
    ((trace new commitRun).get ⟨2, by decide⟩).res.sm.height =
      ((trace new commitRun).get ⟨2, by decide⟩).pre.height ∧
    ((trace new commitRun).get ⟨2, by decide⟩).res.sm.step ≠ .commit ∧
    LockStep ((trace new commitRun).get ⟨2, by decide⟩).pre
      ((trace new commitRun).get ⟨2, by decide⟩).trigger
      ((trace new commitRun).get ⟨2, by decide⟩).res.sm :=
  ⟨by decide, List.get_mem _ _ _, rfl, by decide,
    lockStep_trace (by decide) (List.get_mem _ _ _) rfl (by decide)⟩

/-! ## Where a precommit's lock comes from -/

/-- Handling `h` installed the lock `l`: a prevote QC from the State for the machine's
height, of `l`'s round and hash, after which the machine holds `l` and before which it
did not. -/
def Handled.Installs (h : Handled) (l : Lock) : Prop :=
  h.trigger.triggerType = .prevoteQC ∧ h.trigger.source = .state ∧
  h.trigger.height = h.pre.height ∧ h.trigger.round = some l.round ∧
  h.trigger.hash = l.hash ∧ h.pre.lock ≠ some l ∧ h.res.sm.lock = some l

/-- The lock of the machine `s` a run `tr` ends in, outside the commit step, was
installed by a step of the run for the current height, and held since with no accepted
`NewHeight`. -/
def Provenance (tr : List Handled) (s : StateMachine) : Prop :=
  ∀ l, s.lock = some l → s.step ≠ .commit →
    ∃ a k b, tr = a ++ k :: b ∧ k.Installs l ∧ k.trigger.height = s.height ∧
      ∀ x ∈ b, x.res.sm.lock = some l ∧ ¬x.Accepted

theorem provenance_nil : Provenance [] new := by
  simp [Provenance, new]

/-- A step that keeps the lock and the height, from outside the commit step, keeps the
provenance. -/
theorem Provenance.keep {tr : List Handled} {r : Res} (hp : Provenance tr s)
    (hl : r.sm.lock = s.lock) (hh : r.sm.height = s.height) (hc : s.step ≠ .commit)
    (hna : ¬Handled.Accepted ⟨s, t, r⟩) : Provenance (tr ++ [⟨s, t, r⟩]) r.sm := by
  intro l hl' _
  obtain ⟨a, k, b, rfl, hk, hkh, hb⟩ := hp l (hl ▸ hl') hc
  refine ⟨a, k, b ++ [⟨s, t, r⟩], by simp, hk, hh ▸ hkh, fun x hx => ?_⟩
  rcases List.mem_append.mp hx with hx | hx
  · exact hb x hx
  · rw [List.mem_singleton.mp hx]; exact ⟨hl', hna⟩

/-- **Each move keeps the provenance of the lock.** -/
theorem Transition.provenance {tr : List Handled} {r : Res} (h : Transition s t r)
    (hp : Provenance tr s) : Provenance (tr ++ [⟨s, t, r⟩]) r.sm := by
  have hna (ht : ∀ st, t.triggerType ≠ .newHeight st) : ¬Handled.Accepted ⟨s, t, r⟩ :=
    fun ⟨⟨st, hst⟩, _⟩ => ht st hst
  cases h with
  | noop hs _ hx =>
    obtain ⟨rs, re, rx⟩ := r
    simp only at hs; subst hs
    intro l hl hc
    exact hp.keep rfl rfl hc (fun ⟨⟨st, hst⟩, hok⟩ => hx hok st hst) l hl hc
  | newHeight => intro l hl; simp at hl
  | proposalTimer ht _ _ hst =>
    exact hp.keep rfl rfl (by simp [hst]) (hna (by simp [ht]))
  | proposalState ht _ _ hst _ _ hs' =>
    rcases proposalPolc_ret hs' with rfl | ⟨rfl, -⟩
    · exact hp.keep rfl rfl (by simp [hst]) (hna (by simp [ht]))
    · intro l hl; simp at hl
  | prevoteTimer ht _ _ _ hst =>
    have hl : ((if s.lock.isSome then s else s.setProposal []).gotoStep .precommit).lock =
        s.lock := by simp only [gotoStep]; split_ifs <;> rfl
    have hh : ((if s.lock.isSome then s else s.setProposal []).gotoStep .precommit).height =
        s.height := by simp only [gotoStep]; split_ifs <;> rfl
    exact hp.keep hl hh (by rintro h; simp [h, Step.le_iff, Step.toU8] at hst)
      (hna (by simp [ht]))
  | @prevoteState vr ht hr hsrc hth hst hne _ =>
    rcases prevotePolc_lock s hne vr with ⟨hl, -, hlt⟩ | ⟨hl, -⟩
    · intro l hl' _
      simp only [gotoStep, hl, Option.some.injEq] at hl'
      subst hl'
      refine ⟨tr, ⟨s, t, _⟩, [], rfl, ⟨ht, hsrc, hth, hr, rfl, fun he => ?_, by simp [hl]⟩,
        by simp [hth], by simp⟩
      exact absurd (hlt _ he) (lt_irrefl _)
    · exact hp.keep hl (by simp) (by rintro h; simp [h, Step.le_iff, Step.toU8] at hst)
        (hna (by simp [ht]))
  | precommitTimer ht _ _ _ hst => exact hp.keep rfl rfl hst (hna (by simp [ht]))
  | precommitState => intro l _ hc; simp at hc

/-- A precommit vote is thrown for the empty hash on a timer, or for the proposal hash
and lock round of the machine the move leaves in the precommit step. -/
theorem Transition.precommitVote_of_mem {r : Res} (h : Transition s t r) {height round : Nat}
    {H : Hash} {lr : Option Nat} (he : SMREvent.precommitVote height round H lr ∈ r.events) :
    H = [] ∨ (H = r.sm.blockHash ∧ lr = r.sm.lockRound ∧ r.sm.step = .precommit) := by
  cases h with
  | noop _ hev _ => simp [hev] at he
  | prevoteTimer => simp at he; exact .inl he.2.2.1
  | prevoteState => simp at he; exact .inr ⟨he.2.2.1, by simp [he.2.2.2], rfl⟩
  | _ => simp at he

theorem provenance_run {ts : List SMRTrigger} (hw : NoWal ts) :
    Provenance (trace new ts) (run new ts) := by
  induction ts using List.reverseRecOn with
  | nil => exact provenance_nil
  | append_singleton ts t ih =>
    obtain ⟨hw₀, ht⟩ := noWal_append.mp hw
    rw [trace_append, run_append]
    exact (pollNext_transition (inv_run hw₀).eventOpen ht).provenance (ih hw₀)

/-- **Precommit discipline.** In a run without WAL records from `StateMachine::new`, a
precommit vote for a non-empty hash `H` names the lock `(r, H)` the SMR holds right
after throwing it, with lock round `Some(r)`; and that lock was installed, with no
accepted `NewHeight` since, by a prevote QC from the State for the current height, of
round `r` and hash `H`. -/
theorem precommitVote_lock {ts : List SMRTrigger} (hw : NoWal ts) {pre post : List Handled}
    {h : Handled} (htr : trace new ts = pre ++ h :: post) {height round : Nat} {H : Hash}
    {lr : Option Nat} (he : SMREvent.precommitVote height round H lr ∈ h.res.events)
    (hH : H ≠ []) :
    ∃ r, h.res.sm.lock = some ⟨r, H⟩ ∧ lr = some r ∧
      ∃ a k b, pre ++ [h] = a ++ k :: b ∧ k.Installs ⟨r, H⟩ ∧
        k.trigger.height = h.res.sm.height ∧ ∀ x ∈ b, x.res.sm.lock = some ⟨r, H⟩ ∧ ¬x.Accepted := by
  obtain ⟨ts₀, ts₁, rfl, rfl, hp, hr, -⟩ := trace_eq_append_cons htr
  have hw₀ : NoWal ts₀ := fun t ht => hw t (by simp [ht])
  have hi := inv_run hw₀
  have hT := pollNext_transition hi.eventOpen (hw h.trigger (by simp))
  rw [← hp, ← hr] at hT
  have hprov : Provenance (trace new ts₀ ++ [h]) h.res.sm := by
    exact hT.provenance (hp ▸ provenance_run hw₀)
  have hi' : Inv h.res.sm := hT.inv (hp ▸ hi)
  obtain ⟨rfl, rfl, hst⟩ := (hT.precommitVote_of_mem he).resolve_left hH
  obtain ⟨l, hl⟩ := Option.ne_none_iff_exists'.mp
    (mt (hi'.precommit_hash hst).mpr hH)
  obtain ⟨hlh, -⟩ := hi'.lock_hash l hl (by simp [hst])
  obtain ⟨r, _⟩ := l
  subst hlh
  obtain ⟨a, k, b, hab, hk, hkh, hb⟩ := hprov _ hl (by simp [hst])
  exact ⟨r, hl, by simp [hl], a, k, b, hab, hk, hkh, hb⟩

theorem precommitVote_lock_commitRun :
    NoWal commitRun ∧
    trace new commitRun = (trace new commitRun).take 2 ++
      (trace new commitRun).get ⟨2, by decide⟩ :: (trace new commitRun).drop 3 ∧
    SMREvent.precommitVote 1 0 [1] (some 0) ∈
      ((trace new commitRun).get ⟨2, by decide⟩).res.events ∧ ([1] : Hash) ≠ [] ∧
    ∃ r, ((trace new commitRun).get ⟨2, by decide⟩).res.sm.lock = some ⟨r, [1]⟩ ∧
      some 0 = some r ∧
      ∃ a k b, (trace new commitRun).take 2 ++ [(trace new commitRun).get ⟨2, by decide⟩] =
          a ++ k :: b ∧ k.Installs ⟨r, [1]⟩ ∧
        k.trigger.height = ((trace new commitRun).get ⟨2, by decide⟩).res.sm.height ∧
        ∀ x ∈ b, x.res.sm.lock = some ⟨r, [1]⟩ ∧ ¬x.Accepted :=
  have htr : trace new commitRun = (trace new commitRun).take 2 ++
      (trace new commitRun).get ⟨2, by decide⟩ :: (trace new commitRun).drop 3 := rfl
  have he : SMREvent.precommitVote 1 0 [1] (some 0) ∈
      ((trace new commitRun).get ⟨2, by decide⟩).res.events := by decide
  ⟨by decide, htr, he, by decide, precommitVote_lock (by decide) htr he (by decide)⟩

/-! ## Prevote discipline -/

/-- What a locked SMR in the propose step does with a proposal `t` from the State: a lock
round above the lock's unlocks and prevotes the proposal's hash; the lock's own round with
another hash is a fork, with nothing thrown and the machine kept; anything else keeps the
lock and prevotes its hash with its round. -/
def PrevoteDiscipline (s : StateMachine) (l : Lock) (t : SMRTrigger) : Prop :=
  (∀ r, t.round = some r → l.round < r →
    s.pollNext t = ⟨{ s with lock := none, blockHash := t.hash, step := .prevote },
      [.prevoteVote s.height s.round t.hash none], .ok⟩) ∧
  (t.round = some l.round → t.hash ≠ l.hash →
    s.pollNext t = Res.fail s (.correctnessErr "Fork")) ∧
  ((∀ r, t.round = some r → r < l.round ∨ r = l.round ∧ t.hash = l.hash) →
    s.pollNext t = ⟨{ s with step := .prevote },
      [.prevoteVote s.height s.round l.hash (some l.round)], .ok⟩)

/-- A proposal from the State, at the SMR's height, in the propose step and with a
non-empty hash, goes through the self-check to the PoLC update and the prevote. -/
theorem pollNext_proposal (ht : t.triggerType = .proposal) (hsrc : t.source = .state)
    (hh : t.height = s.height) (hs : s.step = .propose) (hne : t.hash ≠ [])
    (hc : s.check = .ok ()) :
    s.pollNext t = (s.proposalPolc t.hash t.round).andThen fun s =>
      (s.throwEvent (.prevoteVote s.height s.round s.blockHash s.lockRound)).andThen fun s =>
        Res.ret (s.gotoStep .prevote) := by
  simp [pollNext, ht, handleProposal, hh, hs, hsrc, hne, checked_of_ok hc]

theorem Inv.prevoteDiscipline (hi : Inv s) {l : Lock} (hs : s.step = .propose)
    (hl : s.lock = some l) (ht : t.triggerType = .proposal) (hsrc : t.source = .state)
    (hh : t.height = s.height) (hne : t.hash ≠ []) : PrevoteDiscipline s l t := by
  have hb : l.hash = s.blockHash := (hi.lock_hash l hl (by simp [hs])).1
  have hp := pollNext_proposal ht hsrc hh hs hne hi.check_ok
  have ho := hi.eventOpen
  refine ⟨fun r hr hlt => ?_, fun hr hne' => ?_, fun hr => ?_⟩
  · simp [hp, proposalPolc, hr, hl, hlt, throwEvent, ho, Res.andThen]
  · simp [hp, proposalPolc, hr, hl, ← hb, hne', Res.andThen]
  · rcases ho' : t.round with _ | r
    · simp [hp, proposalPolc, ho', hl, throwEvent, ho, Res.andThen, hb]
    · rcases hr r ho' with hlt | ⟨rfl, heq⟩
      · simp [hp, proposalPolc, ho', hl, hlt, Nat.not_lt.mpr hlt.le, throwEvent, ho,
          Res.andThen, hb, Nat.ne_of_lt hlt]
      · simp [hp, proposalPolc, ho', hl, heq, hb, throwEvent, ho, Res.andThen]

/-- **Prevote discipline of a locked replica.** On every machine that a run without WAL
records reaches from `StateMachine::new`, in the propose step and locked on `l`, a
proposal from the State for the current height with a non-empty hash unlocks and is
prevoted only with a lock round above `l`'s; with `l`'s round and another hash it is a
fork that changes nothing; otherwise the SMR keeps `l` and prevotes `l`'s hash. -/
theorem handleProposal_locked {ts : List SMRTrigger} (hw : NoWal ts) {l : Lock}
    (hs : (run new ts).step = .propose) (hl : (run new ts).lock = some l)
    (ht : t.triggerType = .proposal) (hsrc : t.source = .state)
    (hh : t.height = (run new ts).height) (hne : t.hash ≠ []) :
    PrevoteDiscipline (run new ts) l t :=
  (inv_run hw).prevoteDiscipline hs hl ht hsrc hh hne

/-- Round `0` locks `[1]` and its precommit times out: at round `1` a proposal of `[2]`
with lock round `1` unlocks. -/
def lockedRun : List SMRTrigger :=
  commitRun.take 3 ++ [⟨.precommitQC, .timer, [], some 0, 1, none⟩]

theorem handleProposal_locked_lockedRun :
    NoWal lockedRun ∧ (run new lockedRun).step = .propose ∧
    (run new lockedRun).lock = some ⟨0, [1]⟩ ∧
    PrevoteDiscipline (run new lockedRun) ⟨0, [1]⟩ ⟨.proposal, .state, [2], some 1, 1, none⟩ :=
  have hw : NoWal lockedRun := by decide
  have hs : (run new lockedRun).step = .propose := by decide
  have hl : (run new lockedRun).lock = some ⟨0, [1]⟩ := by decide
  ⟨hw, hs, hl, handleProposal_locked hw hs hl rfl rfl (by decide) (by decide)⟩

end StateMachine

end Overlord
