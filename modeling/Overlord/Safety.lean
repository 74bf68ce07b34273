import Overlord.State.Loop
import Overlord.State.Height
import Overlord.StateMachine.Commit

/-!
# What honest replicas keep in every run of the network

`World.run` interleaves the moves of every replica in any order: messages come in any
order, more than once or never, Byzantine replicas send what they can build, block checks
answer late or never, timeouts run out at any time, and a replica may crash and restart
from its WAL. Whatever the run, every honest replica keeps `Peer.Inv`, where its
application passes a hash (`Adapter.Passes`) when some `check_block` of it passes:

* its State keeps `State.Inv` with the hashes its application passes;
* everything its State handed out since it first started is sound (`Output.Sound`);
* its WAL holds a sound record, written by its State;
* a trigger of the State in its SMR's queue is one the State handed out, and a commit in
  its State's queue names a hash its application passes;
* every trigger queued for its SMR or armed by its timer is one the SMR takes without a
  panic (`SMRTrigger.walSafe`), and its SMR's loop runs.

`World.Inv.run` carries this over every run from `World.init` (`inv_init`, `Inv.step`), and
the results read it off: an honest replica triggers its SMR with a prevote or precommit QC
(`honest_qcTrigger`) and commits (`honest_commit`) only for hashes its application passed,
its WAL holds only records as `save_wal` writes them (`honest_walRecord`), its vote
collector holds only votes signed by their voters (`honest_signedVotes`), and its SMR never
panics (`honest_smrLive`).

The SMR's part is `StateMachine.pollNext_commit`: it sends `Commit(H)` only on a precommit
QC of hash `H` from the State; and `StateMachine.pollNext_live`: the only panics of
`poll_next` are on a WAL trigger, without a record or in the commit step.
-/

namespace Overlord

/-- The hashes whose blocks the application passes in some check: the hashes of the
`VerifyResp`s that `check_current_block` sends. -/
def Adapter.Passes (env : Adapter) (hash : Hash) : Prop :=
  ∃ height block, env.checkBlock height hash block = true

namespace StateMachine

variable {s : StateMachine} {t : SMRTrigger}

theorem handleWal_commit (info : SMRBase) {H : Hash} :
    SMREvent.commit H ∉ (s.handleWal info).events := by
  unfold handleWal setTimerAfterWal throwEvent
  dsimp only
  split <;> split <;> (try split) <;> simp

theorem handleWal_eventOpen (ho : s.eventOpen = true) (info : SMRBase) :
    (s.handleWal info).sm.eventOpen = true := by
  unfold handleWal setTimerAfterWal throwEvent
  dsimp only
  split <;> split <;> (try split) <;> simpa using ho

/-- The SMR sends `Commit(H)` only on a precommit QC of hash `H` from the State. -/
theorem pollNext_commit (ho : s.eventOpen = true) {H : Hash}
    (he : SMREvent.commit H ∈ (s.pollNext t).events) :
    t.triggerType = .precommitQC ∧ t.source = .state ∧ t.hash = H := by
  by_cases hw : t.triggerType = .walInfo
  · unfold pollNext at he
    rw [hw] at he
    dsimp only at he
    split at he
    · exact absurd he (handleWal_commit _)
    · simp at he
  · obtain ⟨h1, h2, -, h4, -⟩ := (pollNext_transition ho hw).commit_of_mem he
    exact ⟨h1, h2, h4⟩

theorem pollNext_eventOpen (ho : s.eventOpen = true) : (s.pollNext t).sm.eventOpen = true := by
  by_cases hw : t.triggerType = .walInfo
  · unfold pollNext
    rw [hw]
    dsimp only
    split
    · exact handleWal_eventOpen ho _
    · exact ho
  · exact (pollNext_transition ho hw).eventOpen ho

/-! ### The panics of `poll_next` -/

theorem andThen_ne_panic {r : Res} {k : StateMachine → Res} (hr : r.exit ≠ .panic)
    (hk : ∀ s', (k s').exit ≠ .panic) : (r.andThen k).exit ≠ .panic := by
  unfold Res.andThen
  split
  exacts [hk _, hr]

theorem throwEvent_ne_panic (ev : SMREvent) : (s.throwEvent ev).exit ≠ .panic := by
  unfold throwEvent
  split <;> nofun

/-- A send, then `Ok`. -/
theorem throwEvent_then_ne_panic (ev : SMREvent) (f : StateMachine → StateMachine) :
    ((s.throwEvent ev).andThen fun s => Res.ret (f s)).exit ≠ .panic :=
  andThen_ne_panic (throwEvent_ne_panic ev) fun _ => nofun

theorem checked_ne_panic {k : StateMachine → Res} (hk : (k s).exit ≠ .panic) :
    (s.checked k).exit ≠ .panic := by
  unfold checked
  split
  exacts [hk, nofun]

theorem proposalPolc_ne_panic (h : Hash) (lr : Option Nat) :
    (s.proposalPolc h lr).exit ≠ .panic := by
  rcases proposalPolc_cases s h lr with hs | ⟨hs, -⟩ | ⟨e, hs⟩ <;> rw [hs] <;> nofun

theorem checkPolc_ne_panic (h : Hash) (r : Nat) : (s.checkPolc h r).exit ≠ .panic := by
  rcases checkPolc_cases s h r with ⟨hs, -⟩ | ⟨e, hs⟩ <;> rw [hs] <;> nofun

/-- The handlers of a trigger other than a WAL record never panic. -/
theorem pollNext_ne_panic (hw : t.triggerType ≠ .walInfo) : (s.pollNext t).exit ≠ .panic := by
  unfold pollNext
  split
  · dsimp only [handleNewHeight]
    split_ifs
    exacts [nofun, nofun, checked_ne_panic (throwEvent_ne_panic _)]
  · unfold handleProposal
    split_ifs
    exacts [nofun, nofun, throwEvent_then_ne_panic _ _, nofun, checked_ne_panic
      (andThen_ne_panic (proposalPolc_ne_panic _ _) fun _ => throwEvent_then_ne_panic _ _)]
  · unfold handlePrevote
    split
    · nofun
    split_ifs
    exacts [nofun, nofun, throwEvent_then_ne_panic _ _, throwEvent_then_ne_panic _ _, nofun,
      checked_ne_panic (by exact throwEvent_then_ne_panic _ _)]
  · unfold handlePrecommit
    split
    · nofun
    split_ifs
    exacts [nofun, nofun, throwEvent_then_ne_panic _ _, nofun, checked_ne_panic
      (andThen_ne_panic (checkPolc_ne_panic _ _) fun _ => throwEvent_then_ne_panic _ _)]
  · exact absurd ‹_› hw

/-- `set_timer_after_wal` is `unreachable!()` in the commit step only. -/
theorem handleWal_ne_panic {info : SMRBase} (h : info.step ≠ .commit) :
    (s.handleWal info).exit ≠ .panic := by
  unfold handleWal setTimerAfterWal
  rcases info with ⟨_, _, step, _ | _⟩ <;> cases step
  all_goals first | exact absurd rfl h | exact throwEvent_ne_panic _

/-- **`poll_next` panics on no trigger that `walSafe` admits.** -/
theorem pollNext_live (hw : t.walSafe = true) : (s.pollNext t).exit ≠ .panic := by
  by_cases hwi : t.triggerType = .walInfo
  · unfold SMRTrigger.walSafe at hw
    unfold pollNext
    rw [hwi] at hw ⊢
    dsimp only
    split
    · rename_i info hinfo
      rw [hinfo] at hw
      exact handleWal_ne_panic (by simpa using hw)
    · rename_i hinfo
      rw [hinfo] at hw
      cases hw
  · exact pollNext_ne_panic hwi

end StateMachine

namespace Peer

/-- What an honest replica of address `a` keeps, where its application is `env`. -/
structure Inv (env : Adapter) (a : Address) (p : Peer) : Prop where
  /-- Its State keeps the invariant with the hashes its application passes. -/
  state : p.state.Inv env.Passes a
  /-- Everything its State handed out since the replica first started is sound. -/
  history : ∀ o ∈ p.history, o.Sound env.Passes
  /-- Its WAL holds a sound record. -/
  wal : ∀ info, p.wal = some info → (Output.saveWal info).Sound env.Passes
  /-- A trigger from the State in the SMR's queue is one the State handed out. -/
  triggers : ∀ t ∈ p.triggers, t.source = .state → .trigger t ∈ p.history
  /-- The timer arms triggers of its own. -/
  armed : ∀ t ∈ p.armed, t.source = .timer
  /-- The SMR can send events. -/
  eventOpen : p.smr.eventOpen = true
  /-- A commit in the State's queue names a hash the application passes. -/
  events : ∀ hash, .commit hash ∈ p.events → env.Passes hash
  /-- The SMR takes every trigger in its queue without a panic. -/
  queued : ∀ t ∈ p.triggers, t.walSafe = true
  /-- So does it every trigger the timer armed. -/
  armedSafe : ∀ t ∈ p.armed, t.walSafe = true
  /-- The SMR's loop runs. -/
  smrLive : p.smrLive = true

variable {env : Adapter} {a : Address} {p : Peer}

/-- What absorbing the State's outputs changes: the SMR's queue gets the triggers, the WAL
the last record. -/
theorem foldl_absorb (outs : List Output) (p : Peer) :
    (outs.foldl absorb p).state = p.state ∧ (outs.foldl absorb p).history = p.history ∧
      (outs.foldl absorb p).smr = p.smr ∧ (outs.foldl absorb p).events = p.events ∧
      (outs.foldl absorb p).armed = p.armed ∧ (outs.foldl absorb p).smrLive = p.smrLive ∧
      (∀ t ∈ (outs.foldl absorb p).triggers, t ∈ p.triggers ∨ .trigger t ∈ outs) ∧
      ((outs.foldl absorb p).wal = p.wal ∨
        ∃ info, .saveWal info ∈ outs ∧ (outs.foldl absorb p).wal = some info) := by
  induction outs generalizing p with
  | nil => exact ⟨rfl, rfl, rfl, rfl, rfl, rfl, fun t ht => .inl ht, .inl rfl⟩
  | cons o outs ih =>
    obtain ⟨h1, h2, h3, h4, h5, hl, h6, h7⟩ := ih (p.absorb o)
    simp only [List.foldl_cons]
    cases o with
    | trigger t' =>
      refine ⟨h1, h2, h3, h4, h5, hl, fun t ht => ?_, ?_⟩
      · rcases h6 t ht with ht | ht
        · simp only [absorb, List.mem_append, List.mem_singleton] at ht
          rcases ht with ht | rfl
          exacts [.inl ht, .inr (List.mem_cons_self _ _)]
        · exact .inr (List.mem_cons_of_mem _ ht)
      · rcases h7 with h7 | ⟨info, hi, h7⟩
        exacts [.inl h7, .inr ⟨info, List.mem_cons_of_mem _ hi, h7⟩]
    | saveWal info' =>
      refine ⟨h1, h2, h3, h4, h5, hl,
        fun t ht => (h6 t ht).imp id (List.mem_cons_of_mem _), .inr ?_⟩
      rcases h7 with h7 | ⟨info, hi, h7⟩
      exacts [⟨info', List.mem_cons_self _ _, h7⟩, ⟨info, List.mem_cons_of_mem _ hi, h7⟩]
    | _ =>
      refine ⟨h1, h2, h3, h4, h5, hl,
        fun t ht => (h6 t ht).imp id (List.mem_cons_of_mem _), ?_⟩
      rcases h7 with h7 | ⟨info, hi, h7⟩
      exacts [.inl h7, .inr ⟨info, List.mem_cons_of_mem _ hi, h7⟩]

theorem inv_out_nil {ok : Hash → Prop} {s : State} (hs : s.Inv ok a) :
    State.Inv ok a { s with out := [] } :=
  ⟨hs.address, hs.signed, hs.passed, by simp⟩

/-- A turn of the State's loop that keeps the State's invariant keeps the replica's. -/
theorem Inv.runState (hp : p.Inv env a) {act : Exec Unit}
    (hx : State.Keeps env.Passes a act) : (p.runState act).1.Inv env a := by
  obtain ⟨live, hr⟩ := runState_fst p act
  have hs : State.Inv env.Passes a (post act { p.state with out := [] }) :=
    hx _ (inv_out_nil hp.state)
  generalize post act { p.state with out := [] } = s at hr hs
  rw [hr]
  obtain ⟨h1, h2, h3, h4, h5, hl, h6, h7⟩ := foldl_absorb s.out
    { p with state := { s with out := [] }, stateLive := live, history := p.history ++ s.out }
  refine ⟨h1 ▸ inv_out_nil hs, fun o ho => ?_, fun info hi => ?_, fun t ht hsrc => ?_,
    fun t ht => hp.armed t (h5 ▸ ht), by rw [h3]; exact hp.eventOpen,
    fun hash he => hp.events hash (h4 ▸ he), fun t ht => ?_,
    fun t ht => hp.armedSafe t (h5 ▸ ht), by rw [hl]; exact hp.smrLive⟩
  · rw [h2, List.mem_append] at ho
    exact ho.elim (hp.history o) (hs.sound o)
  · rcases h7 with h7 | ⟨info', hi', h7⟩
    · exact hp.wal info (h7 ▸ hi)
    · exact Option.some.inj (h7.symm.trans hi) ▸ hs.sound _ hi'
  · rw [h2, List.mem_append]
    exact (h6 t ht).imp (hp.triggers t · hsrc) id
  · exact (h6 t ht).elim (hp.queued t) fun ho => (hs.sound _ ho).2

/-- A move that leaves the State, the history, the WAL, the SMR, its loop and the queues of
triggers, armed timeouts and events alone keeps the replica's invariant. -/
theorem Inv.frame (hp : p.Inv env a) {p' : Peer} (hs : p'.state = p.state)
    (hh : p'.history = p.history) (hw : p'.wal = p.wal) (ht : p'.triggers = p.triggers)
    (ha : p'.armed = p.armed) (hsm : p'.smr = p.smr) (he : p'.events = p.events)
    (hl : p'.smrLive = p.smrLive) : p'.Inv env a :=
  ⟨hs ▸ hp.state, hh ▸ hp.history, hw ▸ hp.wal, ht ▸ hh ▸ hp.triggers, ha ▸ hp.armed,
    hsm ▸ hp.eventOpen, he ▸ hp.events, ht ▸ hp.queued, ha ▸ hp.armedSafe, hl ▸ hp.smrLive⟩

/-- The SMR takes a trigger: a commit it sends names a hash the application passes, as the
QC trigger it came from does, and it does not panic. -/
theorem Inv.smrStep (hp : p.Inv env a) {p' : Peer} (h : p.smrStep = some p') :
    p'.Inv env a := by
  unfold Peer.smrStep at h
  split at h
  · cases h
  · rename_i t rest ht
    cases h
    refine ⟨hp.state, hp.history, hp.wal, fun t' ht' => hp.triggers t' (ht ▸ .tail _ ht'),
      hp.armed, StateMachine.pollNext_eventOpen hp.eventOpen, fun hash he => ?_,
      fun t' ht' => hp.queued t' (ht ▸ .tail _ ht'), hp.armedSafe, ?_⟩
    · rcases List.mem_append.mp he with he | he
      · exact hp.events hash he
      · obtain ⟨hqc, hsrc, rfl⟩ := StateMachine.pollNext_commit hp.eventOpen he
        exact (hp.history _ (hp.triggers t (ht ▸ List.mem_cons_self _ _) hsrc)).1 (.inr hqc)
    · simpa using StateMachine.pollNext_live (hp.queued t (ht ▸ List.mem_cons_self _ _))

/-- The timer arms proposal and QC triggers of its own. -/
theorem mem_timeoutOf {e : SMREvent} {t : SMRTrigger} (h : t ∈ (timeoutOf e).toList) :
    t.source = .timer ∧ t.walSafe = true := by
  cases e <;> simp [timeoutOf] at h <;> simp [h, SMRTrigger.walSafe]

theorem Inv.timerStep (hp : p.Inv env a) {p' : Peer} (h : p.timerStep = some p') :
    p'.Inv env a := by
  unfold Peer.timerStep at h
  split at h
  · cases h
  · cases h
    refine ⟨hp.state, hp.history, hp.wal, hp.triggers, fun t ht => ?_, hp.eventOpen, hp.events,
      hp.queued, fun t ht => ?_, hp.smrLive⟩
    all_goals rcases List.mem_append.mp ht with ht | ht
    exacts [hp.armed t ht, (mem_timeoutOf ht).1, hp.armedSafe t ht, (mem_timeoutOf ht).2]

theorem Inv.fire (hp : p.Inv env a) {k : Nat} {p' : Peer} (h : p.fire k = some p') :
    p'.Inv env a := by
  unfold Peer.fire at h
  cases ht : p.armed[k]? with
  | none => simp [ht] at h
  | some t =>
  simp only [ht, bind, Option.bind, Option.some.injEq] at h
  subst h
  refine ⟨hp.state, hp.history, hp.wal, fun t' ht' hsrc => ?_,
    fun t' ht' => hp.armed t' (List.mem_of_mem_eraseIdx ht'), hp.eventOpen, hp.events,
    fun t' ht' => ?_, fun t' ht' => hp.armedSafe t' (List.mem_of_mem_eraseIdx ht'), hp.smrLive⟩
  all_goals rcases List.mem_append.mp ht' with ht' | ht'
  · exact hp.triggers t' ht' hsrc
  · rw [List.mem_singleton.mp ht', hp.armed t (List.getElem?_mem ht)] at hsrc
    cases hsrc
  · exact hp.queued t' ht'
  · exact List.mem_singleton.mp ht' ▸ hp.armedSafe t (List.getElem?_mem ht)

theorem Inv.eventStep (hp : p.Inv env a) {r : Peer × List Output}
    (h : p.eventStep env = some r) : r.1.Inv env a := by
  unfold Peer.eventStep at h
  split at h
  · cases h
  · rename_i e rest he
    cases h
    have hp' : ({ p with events := rest } : Peer).Inv env a :=
      ⟨hp.state, hp.history, hp.wal, hp.triggers, hp.armed, hp.eventOpen,
        fun hash h => hp.events hash (he ▸ .tail _ h), hp.queued, hp.armedSafe, hp.smrLive⟩
    exact hp'.runState (State.keeps_handleEvent env e fun hash h =>
      hp.events hash (he ▸ h ▸ List.mem_cons_self _ _))

theorem Inv.respStep (hp : p.Inv env a) {k : Nat} {r : Peer × List Output}
    (h : p.respStep env k = some r) : r.1.Inv env a := by
  unfold Peer.respStep at h
  cases hc : p.checks[k]? with
  | none => simp [hc] at h
  | some c =>
  obtain ⟨height, hash, block⟩ := c
  simp only [hc, bind, Option.bind] at h
  have hp' : ({ p with checks := p.checks.eraseIdx k } : Peer).Inv env a :=
    hp.frame rfl rfl rfl rfl rfl rfl rfl rfl
  split at h
  · cases h
    exact hp'.runState (State.keeps_handleResp _ ⟨height, block, ‹_›⟩)
  · cases h
    exact hp'

/-- A replica (re)started from a sound record with a sound history keeps the invariant. -/
theorem start_inv (interval : Nat) (authorityList : List Node) {wal : Option WalInfo}
    {history : List Output} (smrErrors : List ConsensusError)
    (hh : ∀ o ∈ history, o.Sound env.Passes)
    (hw : ∀ info, wal = some info → (Output.saveWal info).Sound env.Passes) :
    (start a interval authorityList wal history smrErrors env).1.Inv env a :=
  Inv.runState ⟨State.inv_new _ _, hh, hw, by simp, by simp, rfl, by simp, by simp, by simp, rfl⟩
    (State.keeps_startWithWal env wal fun info h => (hw info h).2)

theorem Inv.rebase {env : Address → Adapter} (hp : p.Inv (env a) a) :
    p.Inv (env p.state.address) p.state.address := by
  obtain rfl := hp.state.address
  exact hp

end Peer

namespace World

variable {env : Address → Adapter}

/-- Every honest replica keeps its invariant, with its own application. -/
def Inv (env : Address → Adapter) (w : World) : Prop :=
  ∀ p ∈ w.peers, p.Inv (env p.state.address) p.state.address

theorem inv_init (honest byzantine : List Address) (interval : Nat)
    (authorityList : List Node) : (init env honest byzantine interval authorityList).Inv env := by
  intro p hp
  simp only [World.init, List.mem_map] at hp
  obtain ⟨a, -, rfl⟩ := hp
  exact (Peer.start_inv interval authorityList [] (by simp) (by simp)).rebase

/-- A move of one replica that keeps its invariant keeps the world's. -/
theorem Inv.act {w w' : World} (hw : w.Inv env) {i : Nat}
    {f : Peer → Option (Peer × List Output)}
    (hf : ∀ p ∈ w.peers, ∀ r, f p = some r → r.1.Inv (env p.state.address) p.state.address)
    (h : w.act i f = some w') : w'.Inv env := by
  unfold World.act at h
  cases hp : w.peers[i]? with
  | none => simp [hp] at h
  | some p =>
  cases hr : f p with
  | none => simp [hp, hr, bind, Option.bind] at h
  | some r =>
  obtain ⟨p', outs⟩ := r
  simp only [hp, hr, bind, Option.bind, Option.some.injEq] at h
  subst h
  intro q hq
  rcases List.mem_or_eq_of_mem_set hq with hq | rfl
  · exact hw q hq
  · exact (hf p (List.getElem?_mem hp) _ hr).rebase

theorem guard_bind_eq_some {α : Type} {c : Prop} [Decidable c] {x : Option α} {r : α}
    (h : (guard c >>= fun _ => x) = some r) : c ∧ x = some r := by
  by_cases hc : c <;> simp_all [guard, failure]

theorem bind_pair_eq_some {α β : Type} {x : Option α} {b : β} {r : α × β}
    (h : (x >>= fun y => some (y, b)) = some r) : x = some r.1 := by
  cases x <;> simp_all [bind, Option.bind]
  exact congrArg Prod.fst h

/-- **Every move keeps the world's invariant.** -/
theorem Inv.step {w w' : World} (hw : w.Inv env) {act : Action}
    (h : w.step env act = some w') : w'.Inv env := by
  cases act <;> refine hw.act (fun p hp r hr => ?_) h
  case deliver i k =>
    cases hk : w.sent[k]? with
    | none => simp [hk, bind, Option.bind] at hr
    | some e =>
    obtain ⟨dest, msg⟩ := e
    simp only [hk, bind, Option.bind] at hr
    obtain ⟨hd, hr⟩ := guard_bind_eq_some hr
    simp only [Bool.and_eq_true, beq_iff_eq] at hd
    cases Option.some.inj hr
    rw [hd.1]
    exact (hw p hp).runState (State.keeps_handleMsg _ msg)
  case inject i msg =>
    cases Option.some.inj (guard_bind_eq_some hr).2
    exact (hw p hp).runState (State.keeps_handleMsg _ msg)
  case status i rs =>
    cases Option.some.inj (guard_bind_eq_some hr).2
    exact (hw p hp).runState (State.keeps_handleMsg _ _)
  case smr i => exact (hw p hp).smrStep (bind_pair_eq_some (guard_bind_eq_some hr).2)
  case event i => exact (hw p hp).eventStep (guard_bind_eq_some hr).2
  case timer i => exact (hw p hp).timerStep (bind_pair_eq_some hr)
  case fire i k => exact (hw p hp).fire (bind_pair_eq_some hr)
  case resp i k => exact (hw p hp).respStep (guard_bind_eq_some hr).2
  case restart i =>
    cases hr
    exact Peer.start_inv _ _ _ (hw p hp).history (hw p hp).wal

/-- **Every run keeps the world's invariant.** -/
theorem Inv.run {w w' : World} (hw : w.Inv env) {actions : List Action}
    (h : w.run env actions = some w') : w'.Inv env := by
  induction actions generalizing w with
  | nil => cases h; exact hw
  | cons act rest ih =>
    simp only [World.run, bind, Option.bind] at h
    cases hs : w.step env act with
    | none => simp [hs] at h
    | some w₁ =>
      simp only [hs] at h
      exact ih (hw.step hs) h

/-! ## Honest replicas -/

section Honest

variable {honest byzantine : List Address} {interval : Nat} {authorityList : List Node}
  {actions : List Action} {w : World}

theorem inv_of_run
    (h : (init env honest byzantine interval authorityList).run env actions = some w) :
    w.Inv env :=
  (inv_init honest byzantine interval authorityList).run h

/-- One replica through height `1` alone: it proposes, checks, votes twice, commits block
`[7]` of hash `[9]` and goes to height `2`. -/
def soloCommit : List Action :=
  [.status 0 ⟨1, none, soloNodes⟩, .smr 0, .event 0, .resp 0 0, .smr 0, .event 0, .smr 0,
    .event 0, .smr 0, .event 0]

/-- The world `soloCommit` leaves. -/
def soloCommitted : World := (soloWorld.run soloEnv soloCommit).getD soloWorld

theorem soloCommit_run : soloWorld.run soloEnv soloCommit = some soloCommitted := by
  decide

/-- **An honest replica triggers its SMR with a prevote or precommit QC only for a block
hash its application passed**, in every run of the network. -/
theorem honest_qcTrigger
    (h : (init env honest byzantine interval authorityList).run env actions = some w)
    (p : Peer) (hp : p ∈ w.peers) (t : SMRTrigger) (ht : .trigger t ∈ p.history)
    (hqc : t.triggerType = .prevoteQC ∨ t.triggerType = .precommitQC) :
    (env p.state.address).Passes t.hash :=
  ((inv_of_run h p hp).history _ ht).1 hqc

theorem honest_qcTrigger_solo : (soloEnv [1]).Passes [9] :=
  honest_qcTrigger soloCommit_run _ (List.get_mem _ 0 (by decide))
    ⟨.precommitQC, .state, [9], some 0, 1, none⟩ (by decide) (.inr rfl)

theorem mem_commits {p : Peer} {c : Commit} (hc : c ∈ p.commits) :
    ∃ height, Output.commit height c ∈ p.history := by
  simp only [Peer.commits, List.mem_filterMap] at hc
  obtain ⟨o, ho, hoc⟩ := hc
  cases o <;> simp at hoc
  exact ⟨_, hoc ▸ ho⟩

/-- **An honest replica commits only blocks whose hash its application passed**, in every
run of the network: the hash of the proof it hands to `Consensus::commit` passed one of its
own `check_block`s. -/
theorem honest_commit
    (h : (init env honest byzantine interval authorityList).run env actions = some w)
    (p : Peer) (hp : p ∈ w.peers) (c : Commit) (hc : c ∈ p.commits) :
    (env p.state.address).Passes c.proof.blockHash := by
  obtain ⟨height, ho⟩ := mem_commits hc
  exact (inv_of_run h p hp).history _ ho

theorem honest_commit_solo : (soloEnv [1]).Passes [9] :=
  honest_commit soloCommit_run _ (List.get_mem _ 0 (by decide))
    ⟨1, [7], ⟨1, 0, [9], ⟨⟨[[1]], ⟨1, 0, .precommit, [9]⟩⟩, [true]⟩⟩⟩ (by decide)

/-- **The WAL of an honest replica holds a record as `save_wal` writes it**, in every run of
the network: well formed (a lock of the record's height, a prevote QC of the lock round
outside the commit step, a precommit QC saved under the record's round in it, and a lock
in the commit step, so that `start_with_wal` never fails with "no lock in commit step"),
and locking in the commit step a hash its application passed. -/
theorem honest_walRecord
    (h : (init env honest byzantine interval authorityList).run env actions = some w)
    (p : Peer) (hp : p ∈ w.peers) (info : WalInfo) (hw : p.wal = some info) :
    info.wellFormed = true ∧ (info.step = .commit →
      ∀ l, info.lock = some l → (env p.state.address).Passes l.lockVotes.blockHash) :=
  (inv_of_run h p hp).wal info hw

theorem honest_walRecord_solo :
    (⟨1, 0, .commit, some ⟨0, ⟨⟨⟨[[1]], ⟨1, 0, .precommit, [9]⟩⟩, [true]⟩, .precommit, 1, 0, [9],
      [1]⟩, [7]⟩⟩ : WalInfo).wellFormed = true ∧ (soloEnv [1]).Passes [9] :=
  (honest_walRecord soloCommit_run _ (List.get_mem _ 0 (by decide)) _ (by decide)).imp id
    fun hc => hc rfl _ rfl

/-- **The vote collector of an honest replica holds only votes signed by their voters**, in
every run of the network, whatever the Byzantine replicas send. -/
theorem honest_signedVotes
    (h : (init env honest byzantine interval authorityList).run env actions = some w)
    (p : Peer) (hp : p ∈ w.peers) (sv : SignedVote) (hsv : sv ∈ p.state.votes.votes) :
    sv.signature = sign sv.voter sv.vote :=
  (inv_of_run h p hp).state.signed sv hsv

theorem honest_signedVotes_solo :
    (⟨sign [1] ⟨1, 0, .precommit, [9]⟩, ⟨1, 0, .precommit, [9]⟩, [1]⟩ : SignedVote).signature =
      sign [1] ⟨1, 0, .precommit, [9]⟩ :=
  honest_signedVotes soloCommit_run _ (List.get_mem _ 0 (by decide)) _ (by decide)

/-- **The SMR of an honest replica never panics**, in every run of the network, across
restarts: its loop meets neither the `unwrap()` of a WAL trigger without a record nor the
`unreachable!()` of `set_timer_after_wal`, since `start_with_wal` hands it a record only
outside the commit step and the timer arms proposal and QC triggers only. -/
theorem honest_smrLive
    (h : (init env honest byzantine interval authorityList).run env actions = some w)
    (p : Peer) (hp : p ∈ w.peers) : p.smrLive = true :=
  (inv_of_run h p hp).smrLive

theorem honest_smrLive_solo : ∃ p ∈ soloCommitted.peers, p.smrLive = true :=
  ⟨_, List.get_mem _ 0 (by decide),
    honest_smrLive soloCommit_run _ (List.get_mem _ 0 (by decide))⟩

end Honest

end World

end Overlord
