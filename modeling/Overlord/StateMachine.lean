import Overlord.Types

/-!
# The state machine replica

`StateMachine` of `smr/state_machine.rs`: the height, round, step, proposal hash and lock
of one replica's SMR, with the handlers that `poll_next` runs on each trigger.

The handlers take `&mut self` and return `ConsensusResult<()>`, so an error leaves the
writes made before it. A handler here returns a `Res`: the machine as it stands when the
handler returns, the events it threw, and how it returned. `Res.andThen` is Rust's `?`.

`throw_event` sends on the State's and the timer's channel, and fails once a receiver
is dropped. The two senders are one flag, `eventOpen`: a failed send throws nothing.
`unreachable!()` and `unwrap()` on `None` are the exit `panic`.
-/

namespace Overlord

/-- How an SMR handler returns. -/
inductive Exit where
  | ok
  | err (e : ConsensusError)
  | panic
deriving DecidableEq, Repr

/-- The SMR of one replica. -/
structure StateMachine where
  height : Nat
  round : Nat
  step : Step
  blockHash : Hash
  lock : Option Lock
  /-- Both receivers of the event channels are alive, so a send succeeds. -/
  eventOpen : Bool
deriving DecidableEq, Repr

/-- What a handler leaves: the machine, the events thrown, and how it returned. -/
structure Res where
  sm : StateMachine
  events : List SMREvent
  exit : Exit
deriving DecidableEq, Repr

namespace Res

/-- `Ok(())` with no event. -/
def ret (s : StateMachine) : Res := ⟨s, [], .ok⟩

/-- `Err(e)` with no event. -/
def fail (s : StateMachine) (e : ConsensusError) : Res := ⟨s, [], .err e⟩

/-- Rust's `?`: go on from the machine `r` left if it returned `Ok`. -/
def andThen (r : Res) (k : StateMachine → Res) : Res :=
  match r.exit with
  | .ok => let r' := k r.sm; { r' with events := r.events ++ r'.events }
  | _ => r

@[simp] theorem ret_sm (s : StateMachine) : (ret s).sm = s := rfl
@[simp] theorem ret_events (s : StateMachine) : (ret s).events = [] := rfl
@[simp] theorem ret_exit (s : StateMachine) : (ret s).exit = .ok := rfl
@[simp] theorem fail_sm (s : StateMachine) (e) : (fail s e).sm = s := rfl
@[simp] theorem fail_events (s : StateMachine) (e) : (fail s e).events = [] := rfl
@[simp] theorem fail_exit (s : StateMachine) (e) : (fail s e).exit = .err e := rfl

@[simp] theorem ret_andThen (s : StateMachine) (k : StateMachine → Res) :
    (ret s).andThen k = k s := by
  simp [andThen, ret]

@[simp] theorem ret_inj {s s' : StateMachine} : ret s = ret s' ↔ s = s' := by
  simp [ret]

@[simp] theorem ret_ne_fail {s s' : StateMachine} {e} : ret s ≠ fail s' e := by
  simp [ret, fail]

@[simp] theorem fail_andThen (s : StateMachine) (e) (k : StateMachine → Res) :
    (fail s e).andThen k = fail s e := rfl

end Res

namespace StateMachine

/-- `StateMachine::new`: the state before the first rich status. -/
def new : StateMachine :=
  ⟨INIT_HEIGHT, INIT_ROUND, Step.default, [], none, true⟩

/-! ## Small mutators -/

/-- `throw_event`: send the event to the State and to the timer. -/
def throwEvent (s : StateMachine) (event : SMREvent) : Res :=
  if s.eventOpen then ⟨s, [event], .ok⟩ else Res.fail s (.throwEventErr event.display)

/-- `goto_step`. -/
@[simp] def gotoStep (s : StateMachine) (step : Step) : StateMachine := { s with step }

/-- `set_proposal`. -/
@[simp] def setProposal (s : StateMachine) (proposalHash : Hash) : StateMachine :=
  { s with blockHash := proposalHash }

/-- `remove_polc`. -/
@[simp] def removePolc (s : StateMachine) : StateMachine := { s with lock := none }

/-- `update_polc`: set the proposal hash, then lock on it, or unlock on an empty hash. -/
def updatePolc (s : StateMachine) (hash : Hash) (round : Nat) : StateMachine :=
  let s := s.setProposal hash
  if hash.isEmpty then s.removePolc else { s with lock := some ⟨round, hash⟩ }

/-- `goto_new_height`: go to the new height and clear everything. -/
@[simp] def gotoNewHeight (s : StateMachine) (height : Nat) : StateMachine :=
  { s with height, round := INIT_ROUND, step := .propose, blockHash := [], lock := none }

/-- `goto_next_round`: keep the lock, if any. -/
@[simp] def gotoNextRound (s : StateMachine) : StateMachine :=
  { s with round := s.round + 1, step := .propose }

/-- The lock round of an event: `Some(lock.round)` while locked. -/
@[simp] def lockRound (s : StateMachine) : Option Nat := s.lock.map Lock.round

/-- `check`: the self checks done before a State trigger is processed. The lock check
only runs at height `0`. -/
def check (s : StateMachine) : Except ConsensusError Unit :=
  if s.height = 0 ∧ s.lock.any (fun l => l.hash != s.blockHash) then
    .error (.selfCheckErr "Lock")
  else if s.step < .precommit ∧ s.round = 0 ∧ s.lock.isSome then
    .error (.selfCheckErr
      ("Invalid lock, height " ++ toString s.height ++ ", round " ++ toString s.round))
  else if s.step = .precommit ∧ (s.blockHash.isEmpty ^^ s.lock.isNone) then
    .error (.selfCheckErr
      ("Invalid status in precommit, height " ++ toString s.height ++ ", round "
        ++ toString s.round))
  else .ok ()

/-- `self.check()?` before the rest of a handler. -/
def checked (s : StateMachine) (k : StateMachine → Res) : Res :=
  match s.check with
  | .ok () => k s
  | .error e => Res.fail s e

/-- `check_polc`: on a precommit QC from the State, keep or take the lock of its hash and
move to its round; a lock of another hash is a fork. -/
def checkPolc (s : StateMachine) (hash : Hash) (round : Nat) : Res :=
  match s.lock with
  | some lock =>
    if lock.hash ≠ hash then Res.fail s (.correctnessErr "Fork")
    else Res.ret { s with lock := some { lock with round }, round }
  | none => Res.ret { s with lock := some ⟨round, hash⟩, round }

/-! ## Handlers -/

/-- `handle_new_height`: go to a higher height and throw the new round info. -/
def handleNewHeight (s : StateMachine) (status : SMRStatus) (source : TriggerSource) : Res :=
  let height := status.height
  if source ≠ .state then Res.fail s (.other "Rich status source error")
  else if height ≤ s.height then Res.fail s (.other "Delayed status")
  else s.checked fun s =>
    let s := s.gotoNewHeight height
    s.throwEvent (.newRoundInfo s.height INIT_ROUND none none)

/-- The "update PoLC" part of `handle_proposal`: a higher lock round unlocks, an equal
lock round with another hash is a fork. -/
def proposalPolc (s : StateMachine) (proposalHash : Hash) (lockRound : Option Nat) : Res :=
  match lockRound with
  | some lockRound =>
    match s.lock with
    | some lock =>
      if lockRound > lock.round then Res.ret (s.removePolc.setProposal proposalHash)
      else if lockRound = lock.round ∧ proposalHash ≠ s.blockHash then
        Res.fail s (.correctnessErr "Fork")
      else Res.ret s
    | none => Res.ret (s.setProposal proposalHash)
  | none => if s.lock.isNone then Res.ret (s.setProposal proposalHash) else Res.ret s

/-- `handle_proposal`: only in the propose step. A timer trigger prevotes the empty hash;
a proposal from the State updates the PoLC and prevotes the proposal hash. -/
def handleProposal (s : StateMachine) (proposalHash : Hash) (lockRound : Option Nat)
    (source : TriggerSource) (height : Nat) : Res :=
  if s.height ≠ height then Res.ret s
  else if s.step > .propose then Res.ret s
  else if source = .timer then
    (s.throwEvent (.prevoteVote s.height s.round [] s.lockRound)).andThen fun s =>
      Res.ret (s.gotoStep .prevote)
  else if proposalHash.isEmpty then Res.fail s (.proposalErr "Empty proposal")
  else s.checked fun s =>
    (s.proposalPolc proposalHash lockRound).andThen fun s =>
      (s.throwEvent (.prevoteVote s.height s.round s.blockHash s.lockRound)).andThen fun s =>
        Res.ret (s.gotoStep .prevote)

/-- The PoLC update of `handle_prevote` on a QC from the State: a QC round above the lock
round (or any, when unlocked) locks on the QC, and a QC round below the current round
becomes the current round. -/
def prevotePolc (s : StateMachine) (prevoteHash : Hash) (voteRound : Nat) : StateMachine :=
  let s := match s.lock with
    | some lock => if voteRound > lock.round then s.updatePolc prevoteHash voteRound else s
    | none => s.updatePolc prevoteHash voteRound
  if s.round > voteRound then { s with round := voteRound } else s

/-- `handle_prevote`: only up to the prevote step. A timer trigger precommits the empty
hash; a QC from the State of a round above the lock round updates the PoLC, lowers the
round to the QC's, and precommits the proposal hash. -/
def handlePrevote (s : StateMachine) (prevoteHash : Hash) (prevoteRound : Option Nat)
    (source : TriggerSource) (height : Nat) : Res :=
  match prevoteRound with
  | none => Res.fail s (.prevoteErr "No vote round")
  | some prevoteRound =>
    if s.height ≠ height then Res.ret s
    else if s.step > .prevote then Res.ret s
    else if source = .timer then
      let s' := if s.lock.isSome then s else s.setProposal []
      (s'.throwEvent (.precommitVote s.height s.round [] s.lockRound)).andThen fun s =>
        Res.ret (s.gotoStep .precommit)
    else if prevoteHash.isEmpty then Res.fail s (.prevoteErr "Empty qc")
    else s.checked fun s =>
      let s := s.prevotePolc prevoteHash prevoteRound
      (s.throwEvent (.precommitVote s.height s.round s.blockHash s.lockRound)).andThen fun s =>
        Res.ret (s.gotoStep .precommit)

/-- `handle_precommit`: only up to the precommit step. A timer trigger goes to the next
round; a QC from the State checks the PoLC and commits its hash. -/
def handlePrecommit (s : StateMachine) (precommitHash : Hash) (precommitRound : Option Nat)
    (source : TriggerSource) (height : Nat) : Res :=
  match precommitRound with
  | none => Res.fail s (.prevoteErr "No vote round")
  | some precommitRound =>
    if s.height ≠ height then Res.ret s
    else if s.step > .precommit then Res.ret s
    else if source = .timer then
      (s.throwEvent (.newRoundInfo s.height (s.round + 1) s.lockRound (s.lock.map Lock.hash))
        ).andThen fun s => Res.ret s.gotoNextRound
    else if precommitHash.isEmpty then Res.fail s (.precommitErr "Empty qc")
    else s.checked fun s =>
      (s.checkPolc precommitHash precommitRound).andThen fun s =>
        (s.throwEvent (.commit precommitHash)).andThen fun s => Res.ret (s.gotoStep .commit)

/-- `set_timer_after_wal`: throw the event of the restored step, so that the timer is set. -/
def setTimerAfterWal (s : StateMachine) : Res :=
  match s.step with
  | .propose => s.throwEvent (.newRoundInfo s.height s.round s.lockRound (s.lock.map Lock.hash))
  | .prevote => s.throwEvent (.prevoteVote s.height s.round [] s.lockRound)
  | .precommit => s.throwEvent (.precommitVote s.height s.round [] s.lockRound)
  | .commit => ⟨s, [], .panic⟩

/-- `handle_wal`: restore height, round, step and lock from a WAL record. -/
def handleWal (s : StateMachine) (info : SMRBase) : Res :=
  let s := { s with height := info.height, round := info.round, step := info.step }
  let s := match info.polc with
    | some polc => s.setProposal polc.hash
    | none => s
  let s := { s with lock := info.polc }
  s.setTimerAfterWal

/-- `poll_next` on one trigger. -/
def pollNext (s : StateMachine) (msg : SMRTrigger) : Res :=
  match msg.triggerType with
  | .newHeight status => s.handleNewHeight status msg.source
  | .proposal => s.handleProposal msg.hash msg.round msg.source msg.height
  | .prevoteQC => s.handlePrevote msg.hash msg.round msg.source msg.height
  | .precommitQC => s.handlePrecommit msg.hash msg.round msg.source msg.height
  | .walInfo =>
    match msg.walInfo with
    | some info => s.handleWal info
    | none => ⟨s, [], .panic⟩

end StateMachine

end Overlord
