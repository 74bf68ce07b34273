import Overlord.Driver.Types

/-!
# The SMR driver

`smr.rs`: `SMR::handle_msg` and every handler it reaches, the `EventAgent`, and the loop
that takes one input at a time.

The driver's collaborators that are not among the sources are parameters, bundled in
`Env` with the interface `smr.rs` calls: the `StateInfo` (its reads and its transitions,
which leave it as it was when they fail), the `Cabinet`, the `AuthManage`, the
`ProposePrepare`, the adapter and the WAL. The `EventAgent` is in the source and is
translated. Each handler is a `DriverM` action: it may change the driver, appends what it
does to `trace`, and returns `Ok`, an error, or the panic of an `expect`. The time is a
field, `now`, that the loop's caller sets before each input; within one handler it does
not move.

Two arithmetic details follow the code: `interval * ratio` is a `u64` product, which
wraps, and `apply_power` takes the round cast to `u32`.
-/

namespace Overlord

namespace Driver

/-- `POWER_CAP`. -/
def POWER_CAP : Nat := 5

/-- `TIME_DIVISOR`. -/
def TIME_DIVISOR : Nat := 10

/-- `HEIGHT_WINDOW`. -/
def HEIGHT_WINDOW : Nat := 5

/-- `ROUND_WINDOW`. -/
def ROUND_WINDOW : Nat := 5

/-! ## The collaborators -/

/-- Modelled from the spec: the `StateInfo`, its reads and its transitions. -/
structure StateOps (σ : Type) where
  stage : σ → Stage
  lock : σ → Option PreVoteQC
  block : σ → Option Blk
  preCommitQc : σ → Option PreCommitQC
  handleSignedProposal : σ → SignedProposal → Except OverlordError σ
  handlePreVoteQc : σ → PreVoteQC → Blk → Except OverlordError σ
  handlePreCommitQc : σ → PreCommitQC → Blk → Except OverlordError σ
  handleChokeQc : σ → ChokeQC → Except OverlordError σ
  nextHeight : σ → σ

/-- Modelled from the spec: the `Cabinet`. `insert` returns the weight a hash gathered
when the message makes a threshold crossed; `take_signed_proposal` drains a proposal. -/
structure CabinetOps (κ α : Type) where
  insert : κ → Nat → Nat → Capsule → Except OverlordError (κ × Option SumWeight)
  getSignedPreVotesByHash : κ → Nat → Nat → Hash → Option (List SignedPreVote)
  getSignedPreCommitsByHash : κ → Nat → Nat → Hash → Option (List SignedPreCommit)
  getSignedChokes : κ → Nat → Nat → Option (List SignedChoke)
  getFullBlock : κ → Nat → Hash → Option Block
  getBlock : κ → Nat → Hash → Option Blk
  takeSignedProposal : κ → Nat → Nat → κ × Option SignedProposal
  insertFullBlock : κ → FetchedFullBlock → κ
  handleCommit : κ → Nat → α → κ

/-- Modelled from the spec: the `AuthManage`, which signs, verifies and aggregates. -/
structure AuthOps (α : Type) where
  address : α → Address
  verifySignedProposal : α → SignedProposal → Except OverlordError Unit
  verifySignedPreVote : α → SignedPreVote → Except OverlordError Unit
  verifySignedPreCommit : α → SignedPreCommit → Except OverlordError Unit
  verifySignedChoke : α → SignedChoke → Except OverlordError Unit
  verifyPreVoteQc : α → PreVoteQC → Except OverlordError Unit
  verifyPreCommitQc : α → PreCommitQC → Except OverlordError Unit
  verifyChokeQc : α → ChokeQC → Except OverlordError Unit
  verifyProof : α → PreCommitQC → Except OverlordError Unit
  beyondMajority : α → Nat → Bool
  aggregatePreVotes : α → List SignedPreVote → Except OverlordError PreVoteQC
  aggregatePreCommits : α → List SignedPreCommit → Except OverlordError PreCommitQC
  aggregateChokes : α → List SignedChoke → Except OverlordError ChokeQC
  canIVote : α → Except OverlordError Unit
  signPreVote : α → Vote → Except OverlordError SignedPreVote
  signPreCommit : α → Vote → Except OverlordError SignedPreCommit
  signProposal : α → Proposal → Except OverlordError SignedProposal
  amILeader : α → Nat → Nat → Bool
  getLeader : α → Nat → Nat → Address
  handleCommit : α → List Node → α

/-- Modelled from the spec: the `ProposePrepare`, what proposals are built and checked
against. -/
structure PrepareOps (ρ : Type) where
  preHash : ρ → Hash
  execHeight : ρ → Nat
  handleCommit : ρ → Hash → PreCommitQC → Nat → Nat → ρ × ExecResult
  handleExecResult : ρ → ExecResult → ρ

/-- Modelled from the spec: the adapter calls of the driver. `check_block` and
`create_block` read the block states the `ProposePrepare` lists. -/
structure AdapterOps (ρ : Type) where
  checkBlock : ρ → Blk → Except String Unit
  createBlock : ρ → Nat → Except String Blk
  transmit : Address → OverlordMsg → Except String Unit
  broadcast : OverlordMsg → Except String Unit

/-- Modelled from the spec: the WAL, which saves the `StateInfo` (`StateInfo::save_wal`)
and fetched blocks. -/
structure WalOps (σ : Type) where
  save : σ → Except OverlordError Unit
  saveFullBlock : FetchedFullBlock → Except OverlordError Unit

/-- The driver's collaborators. -/
structure Env (σ κ α ρ : Type) where
  state : StateOps σ
  cabinet : CabinetOps κ α
  auth : AuthOps α
  prepare : PrepareOps ρ
  adapter : AdapterOps ρ
  wal : WalOps σ

/-! ## The event agent -/

/-- The `EventAgent`'s own state: the height's time configuration, when the height
started, and `fetch_set`. -/
structure Agent where
  timeConfig : TimeConfig
  startTime : Nat
  fetchSet : List Hash
deriving DecidableEq, Repr

/-- `apply_power`: the timeout doubled once for each round, at most `POWER_CAP` times. -/
def applyPower (timeout power : Nat) : Nat :=
  let power := if power > POWER_CAP then POWER_CAP else power
  timeout * 2 ^ power

namespace Agent

/-- `EventAgent::new`: an empty `fetch_set`, and the height started now. -/
def new (timeConfig : TimeConfig) (now : Nat) : Agent := ⟨timeConfig, now, []⟩

/-- `EventAgent::next_height`. -/
def nextHeight (a : Agent) (timeConfig : TimeConfig) (now : Nat) : Agent :=
  { a with timeConfig, fetchSet := [], startTime := now }

/-- `compute_timeout` at time `now`: the timeout of a step, or, for `Commit`, the time
`checked_sub` leaves of the height so far once the interval is taken off. -/
def computeTimeout (a : Agent) (now : Nat) (stage : Stage) : Option Nat :=
  let config := a.timeConfig
  match stage.step with
  | .propose =>
    some (applyPower (config.interval * config.proposeRatio % 2 ^ 64 / TIME_DIVISOR)
      (stage.round % 2 ^ 32))
  | .preVote =>
    some (applyPower (config.interval * config.preVoteRatio % 2 ^ 64 / TIME_DIVISOR)
      (stage.round % 2 ^ 32))
  | .preCommit =>
    some (applyPower (config.interval * config.preCommitRatio % 2 ^ 64 / TIME_DIVISOR)
      (stage.round % 2 ^ 32))
  | .brake => some (config.interval * config.brakeRatio % 2 ^ 64 / TIME_DIVISOR)
  | .commit =>
    let cost := now - a.startTime
    if config.interval ≤ cost then some (cost - config.interval) else none

end Agent

/-! ## The driver -/

/-- The driver: its `StateInfo`, `ProposePrepare`, `Cabinet`, `AuthManage` and agent, the
time of the input at hand, and what it did. -/
structure Smr (σ κ α ρ : Type) where
  state : σ
  prepare : ρ
  cabinet : κ
  auth : α
  agent : Agent
  now : Nat
  trace : List (Event σ)

/-- An `async fn` of the driver. -/
abbrev DriverM (σ κ α ρ β : Type) := EStateM Halt (Smr σ κ α ρ) β

variable {σ κ α ρ β : Type}

/-- Note what the driver does. -/
def record (e : Event σ) : DriverM σ κ α ρ Unit :=
  modify fun d => { d with trace := d.trace ++ [e] }

/-- `?` on a component's result. -/
def liftE : Except OverlordError β → DriverM σ κ α ρ β
  | .ok a => pure a
  | .error e => throw (.err e)

/-- `if c { return Err(e) }`. -/
def throwIf (c : Bool) (h : Halt) : DriverM σ κ α ρ Unit := if c then throw h else pure ()

/-- `expect`: the value, or the panic. -/
def expect (o : Option β) (msg : String) : DriverM σ κ α ρ β :=
  match o with
  | some a => pure a
  | none => throw (.panic msg)

/-- `self.state.<transition>(..)?`: the `StateInfo` becomes what the transition returns. -/
def transition (f : σ → Except OverlordError σ) : DriverM σ κ α ρ Unit := do
  let s ← liftE (f (← get).state)
  modify fun d => { d with state := s, trace := d.trace ++ [.transition s] }

/-- `request_full_block`: spawn the fetch of a block unless its hash is in `fetch_set`,
which nothing fills. -/
def requestFullBlock (block : Blk) : DriverM σ κ α ρ Unit := do
  unless (← get).agent.fetchSet.contains block.blockHash do
    record (.fetch block.height block.blockHash)

/-- `set_timeout`: arm the timer of a stage, if `compute_timeout` gives one. -/
def setTimeout (stage : Stage) : DriverM σ κ α ρ Bool := do
  let d ← get
  match d.agent.computeTimeout d.now stage with
  | some interval =>
    record (.timer stage interval)
    return true
  | none => return false

/-- `save_and_exec_block`: send the execution request. -/
def saveAndExecBlock (request : ExecRequest) : DriverM σ κ α ρ Unit := record (.exec request)

section Handlers

variable (env : Env σ κ α ρ)

/-- `EventAgent::transmit`. -/
def transmit (address : Address) (msg : OverlordMsg) : DriverM σ κ α ρ Unit := do
  record (.transmit address msg)
  match env.adapter.transmit address msg with
  | .ok () => pure ()
  | .error e => throw (.err (.netTransmit e))

/-- `EventAgent::broadcast`. -/
def broadcast (msg : OverlordMsg) : DriverM σ κ α ρ Unit := do
  record (.broadcast msg)
  match env.adapter.broadcast msg with
  | .ok () => pure ()
  | .error e => throw (.err (.localBroadcast e))

/-- `self.state.save_wal(&self.wal)?`. -/
def saveWal : DriverM σ κ α ρ Unit := do
  let d ← get
  liftE (env.wal.save d.state)
  record (.saveWal d.state)

/-- `self.cabinet.insert(height, round, capsule)?`. -/
def cabinetInsert (height round : Nat) (capsule : Capsule) :
    DriverM σ κ α ρ (Option SumWeight) := do
  let (cabinet, sumW) ← liftE (env.cabinet.insert (← get).cabinet height round capsule)
  modify fun d => { d with cabinet }
  return sumW

/-- `filter_msg`: an old message is dropped, except a proposal of an earlier round of the
height; one too far ahead is dropped; one of a later height is kept in the cabinet. -/
def filterMsg (height round : Nat) (capsule : Capsule) : DriverM σ κ α ρ Unit := do
  let stage := env.state.stage (← get).state
  if height < stage.height then throw (.err .debugOld)
  else if height == stage.height && round < stage.round then
    match capsule with
    | .signedProposal _ => return
    | _ => throw (.err .debugOld)
  else if height > stage.height + HEIGHT_WINDOW || round > stage.round + ROUND_WINDOW then
    throw (.err .netMuchHigh)
  else if height > stage.height then
    let _ ← cabinetInsert env height round capsule
    throw (.err .debugHigh)

/-- `check_proposal`: the block's height and hash, its previous hash, its proof, and the
lock's QC. -/
def checkProposal (p : Proposal) : DriverM σ κ α ρ Unit := do
  let d ← get
  throwIf (p.height != p.block.height || p.blockHash != p.block.blockHash) (.err .byzBlock)
  throwIf (env.prepare.preHash d.prepare != p.block.preHash) (.err .byzBlock)
  liftE (env.auth.verifyProof d.auth p.block.proof)
  if let some lock := p.lock then liftE (env.auth.verifyPreVoteQc d.auth lock)

/-- `check_block`: a block executed beyond what is known is early; the adapter checks the
rest. -/
def checkBlock (block : Blk) : DriverM σ κ α ρ Unit := do
  let d ← get
  throwIf (env.prepare.execHeight d.prepare < block.execHeight) (.err .warnBlock)
  match env.adapter.checkBlock d.prepare block with
  | .ok () => pure ()
  | .error e => throw (.err (.byzAdapterCheckBlock e))

/-- `create_block`. -/
def createBlock : DriverM σ κ α ρ Blk := do
  let d ← get
  match env.adapter.createBlock d.prepare (env.state.stage d.state).height with
  | .ok block => pure block
  | .error e => throw (.err (.localCreateBlock e))

/-- `create_signed_proposal`: the locked block with its lock, or a new block. -/
def createSignedProposal : DriverM σ κ α ρ SignedProposal := do
  let d ← get
  let stage := env.state.stage d.state
  let proposer := env.auth.address d.auth
  let proposal : Proposal ← match env.state.lock d.state with
    | some lock => do
      let block ← expect (env.state.block d.state) "Unreachable! Block is none when lock is some"
      pure ⟨stage.height, stage.round, block, lock.vote.blockHash, some lock, proposer⟩
    | none => do
      let block ← createBlock env
      pure ⟨stage.height, stage.round, block, block.blockHash, none, proposer⟩
  liftE (env.auth.signProposal (← get).auth proposal)

/-- `handle_signed_proposal`: check the proposal and its block, ask for the full block,
take the proposal, save the WAL, and prevote. -/
def handleSignedProposal (sp : SignedProposal) : DriverM σ κ α ρ Unit := do
  let msgH := sp.proposal.height
  let msgR := sp.proposal.round
  filterMsg env msgH msgR (.signedProposal sp)
  checkProposal env sp.proposal
  liftE (env.auth.verifySignedProposal (← get).auth sp)
  let _ ← cabinetInsert env msgH msgR (.signedProposal sp)
  checkBlock env sp.proposal.block
  requestFullBlock sp.proposal.block
  throwIf (sp.proposal.lock.isNone && msgR > (env.state.stage (← get).state).round)
    (.err .debugHigh)
  transition (env.state.handleSignedProposal · sp)
  let _ ← setTimeout (env.state.stage (← get).state)
  saveWal env
  liftE (env.auth.canIVote (← get).auth)
  let vote ← liftE (env.auth.signPreVote (← get).auth sp.proposal.asVote)
  transmit env sp.proposal.proposer (.signedPreVote vote)

/-- `new_round`: the leader proposes; a replica takes the proposal the cabinet holds for
the round, if any. -/
def newRound : DriverM σ κ α ρ Unit := do
  let stage := env.state.stage (← get).state
  let h := stage.height
  let r := stage.round
  let _ ← setTimeout stage
  if env.auth.amILeader (← get).auth h r then
    let signedProposal ← createSignedProposal env
    broadcast env (.signedProposal signedProposal)
  else
    let (cabinet, sp) := env.cabinet.takeSignedProposal (← get).cabinet h r
    modify fun d => { d with cabinet }
    if let some signedProposal := sp then handleSignedProposal env signedProposal

/-- `next_height`: go to the next height, save the WAL, and start its first round. -/
def nextHeight (timeConfig : TimeConfig) : DriverM σ κ α ρ Unit := do
  transition fun s => .ok (env.state.nextHeight s)
  saveWal env
  modify fun d => { d with agent := d.agent.nextHeight timeConfig d.now }
  newRound env

/-- `handle_commit`: send the block to execution with its proof, move the
`ProposePrepare`, the authority and the cabinet to the next height, and go there, at once
for its leader and after the commit timeout for the others. -/
def handleCommit : DriverM σ κ α ρ Unit := do
  let d ← get
  let proof ← expect (env.state.preCommitQc d.state) "Unreachable! Lost pre_commit_qc when commit"
  let commitHash := proof.vote.blockHash
  let height := (env.state.stage d.state).height
  let fullBlock ← expect (env.cabinet.getFullBlock d.cabinet height commitHash)
    "Unreachable! Lost full block when commit"
  saveAndExecBlock ⟨height, fullBlock, proof⟩
  let block ← expect (env.state.block d.state) "Unreachable! Lost commit block when commit"
  let nextHeight' := height + 1
  let (prepare, commitExecResult) :=
    env.prepare.handleCommit d.prepare commitHash proof block.execHeight nextHeight'
  modify fun d => { d with prepare }
  modify fun d =>
    { d with auth := env.auth.handleCommit d.auth commitExecResult.consensusConfig.authConfig }
  modify fun d => { d with cabinet := env.cabinet.handleCommit d.cabinet nextHeight' d.auth }
  let leader := env.auth.amILeader (← get).auth nextHeight' INIT_ROUND
  let stage := env.state.stage (← get).state
  let wait ← (if leader then pure false else setTimeout stage)
  unless wait do nextHeight env commitExecResult.consensusConfig.timeConfig

/-- `handle_pre_vote_qc`: once the full block is at hand, lock, save the WAL, and send the
precommit to the leader. -/
def handlePreVoteQc (qc : PreVoteQC) : DriverM σ κ α ρ Unit := do
  let msgH := qc.vote.height
  let msgR := qc.vote.round
  filterMsg env msgH msgR (.preVoteQC qc)
  liftE (env.auth.verifyPreVoteQc (← get).auth qc)
  let _ ← cabinetInsert env msgH msgR (.preVoteQC qc)
  if (env.cabinet.getFullBlock (← get).cabinet msgH qc.vote.blockHash).isSome then
    let block ← expect (env.cabinet.getBlock (← get).cabinet msgH qc.vote.blockHash)
      "Unreachable! Lost a block which full block exist"
    transition (env.state.handlePreVoteQc · qc block)
    let _ ← setTimeout (env.state.stage (← get).state)
    saveWal env
    liftE (env.auth.canIVote (← get).auth)
    let vote ← liftE (env.auth.signPreCommit (← get).auth qc.vote)
    let leader := env.auth.getLeader (← get).auth msgH msgR
    transmit env leader (.signedPreCommit vote)

/-- `handle_pre_commit_qc`: once the full block is at hand, take the QC, save the WAL,
and commit. -/
def handlePreCommitQc (qc : PreCommitQC) : DriverM σ κ α ρ Unit := do
  let msgH := qc.vote.height
  let msgR := qc.vote.round
  filterMsg env msgH msgR (.preCommitQC qc)
  liftE (env.auth.verifyPreCommitQc (← get).auth qc)
  let _ ← cabinetInsert env msgH msgR (.preCommitQC qc)
  if (env.cabinet.getFullBlock (← get).cabinet msgH qc.vote.blockHash).isSome then
    let block ← expect (env.cabinet.getBlock (← get).cabinet msgH qc.vote.blockHash)
      "Unreachable! Lost a block which full block exist"
    transition (env.state.handlePreCommitQc · qc block)
    saveWal env
    handleCommit env

/-- `handle_choke_qc`: go to the next round, save the WAL, and start the round. -/
def handleChokeQc (qc : ChokeQC) : DriverM σ κ α ρ Unit := do
  filterMsg env qc.choke.height qc.choke.round (.chokeQC qc)
  liftE (env.auth.verifyChokeQc (← get).auth qc)
  transition (env.state.handleChokeQc · qc)
  saveWal env
  newRound env

/-- `handle_signed_pre_vote`: count the prevote; past the majority, aggregate the QC,
broadcast it and handle it. -/
def handleSignedPreVote (sv : SignedPreVote) : DriverM σ κ α ρ Unit := do
  let msgH := sv.vote.height
  let msgR := sv.vote.round
  filterMsg env msgH msgR (.signedPreVote sv)
  liftE (env.auth.verifySignedPreVote (← get).auth sv)
  if let some sumW ← cabinetInsert env msgH msgR (.signedPreVote sv) then
    if env.auth.beyondMajority (← get).auth sumW.cumWeight then
      let hash ← expect sumW.blockHash "Unreachable! Lost the vote_hash while beyond majority"
      let votes ← expect (env.cabinet.getSignedPreVotesByHash (← get).cabinet msgH sumW.round hash)
        "Unreachable! Lost signed_pre_votes while beyond majority"
      let preVoteQc ← liftE (env.auth.aggregatePreVotes (← get).auth votes)
      broadcast env (.preVoteQC preVoteQc)
      handlePreVoteQc env preVoteQc

/-- `handle_signed_pre_commit`: count the precommit; past the majority, aggregate the QC,
broadcast it and handle it. -/
def handleSignedPreCommit (sv : SignedPreCommit) : DriverM σ κ α ρ Unit := do
  let msgH := sv.vote.height
  let msgR := sv.vote.round
  filterMsg env msgH msgR (.signedPreCommit sv)
  liftE (env.auth.verifySignedPreCommit (← get).auth sv)
  if let some sumW ← cabinetInsert env msgH msgR (.signedPreCommit sv) then
    if env.auth.beyondMajority (← get).auth sumW.cumWeight then
      let hash ← expect sumW.blockHash "Unreachable! Lost the vote_hash while beyond majority"
      let votes ← expect
        (env.cabinet.getSignedPreCommitsByHash (← get).cabinet msgH sumW.round hash)
        "Unreachable! Lost signed_pre_votes while beyond majority"
      let preCommitQc ← liftE (env.auth.aggregatePreCommits (← get).auth votes)
      broadcast env (.preCommitQC preCommitQc)
      handlePreCommitQc env preCommitQc

/-- `handle_signed_choke`: count the choke; past the majority, aggregate the choke QC and
handle it, else handle the QC the choke carries. -/
def handleSignedChoke (sc : SignedChoke) : DriverM σ κ α ρ Unit := do
  let msgH := sc.choke.height
  let msgR := sc.choke.round
  filterMsg env msgH msgR (.signedChoke sc)
  liftE (env.auth.verifySignedChoke (← get).auth sc)
  if let some sumW ← cabinetInsert env msgH msgR (.signedChoke sc) then
    if env.auth.beyondMajority (← get).auth sumW.cumWeight then
      let votes ← expect (env.cabinet.getSignedChokes (← get).cabinet msgH sumW.round)
        "Unreachable! Lost signed_chokes while beyond majority"
      let chokeQc ← liftE (env.auth.aggregateChokes (← get).auth votes)
      handleChokeQc env chokeQc
    else
      match sc.updateFrom with
      | .preVoteQC qc => handlePreVoteQc env qc
      | .preCommitQC qc => handlePreCommitQc env qc
      | .chokeQC qc => handleChokeQc env qc

/-- `handle_msg`. -/
def handleMsg (msg : OverlordMsg) : DriverM σ κ α ρ Unit :=
  match msg with
  | .signedProposal sp => handleSignedProposal env sp
  | .signedPreVote sv => handleSignedPreVote env sv
  | .signedPreCommit sv => handleSignedPreCommit env sv
  | .signedChoke sc => handleSignedChoke env sc
  | .preVoteQC qc => handlePreVoteQc env qc
  | .preCommitQC qc => handlePreCommitQc env qc
  | .other => pure ()

/-! ## The loop -/

/-- `EventAgent::handle_fetch`: a failed fetch leaves `fetch_set`. -/
def agentHandleFetch (fetchResult : Except OverlordError FetchedFullBlock) :
    DriverM σ κ α ρ FetchedFullBlock :=
  match fetchResult with
  | .ok fetch => pure fetch
  | .error (.netFetch hash) => do
    modify fun d => { d with agent := { d.agent with fetchSet := d.agent.fetchSet.erase hash } }
    throw (.err (.netFetch hash))
  | .error _ => throw (.panic "unreachable")

/-- `handle_fetch`: keep a fetched block of the current height or above, and save it. -/
def handleFetch (fetchResult : Except OverlordError FetchedFullBlock) :
    DriverM σ κ α ρ Unit := do
  let fetch ← agentHandleFetch fetchResult
  throwIf (fetch.height < (env.state.stage (← get).state).height) (.err .debugOld)
  modify fun d => { d with cabinet := env.cabinet.insertFullBlock d.cabinet fetch }
  liftE (env.wal.saveFullBlock fetch)

/-- Modelled from the spec: `TimeoutEvent`. -/
inductive TimeoutEvent where
  | proposeTimeout (stage : Stage)
  | preVoteTimeout (stage : Stage)
  | preCommitTimeout (stage : Stage)
  | brakeTimeout (stage : Stage)
  | nextHeightTimeout (height : Nat)
deriving DecidableEq, Repr

/-- `handle_timeout`, which does nothing yet. -/
def handleTimeout (_ : TimeoutEvent) : DriverM σ κ α ρ Unit := pure ()

/-- What the loop takes: a network message, an execution result, a fetch result or a
timeout. -/
inductive Input where
  | net (msg : OverlordMsg)
  | exec (result : ExecResult)
  | fetch (result : Except OverlordError FetchedFullBlock)
  | timeout (event : TimeoutEvent)

/-- One turn of `SMR::run`: the errors of a handler are logged; a panic ends the task. -/
def handleInput : Input → DriverM σ κ α ρ Unit
  | .net msg => tryCatch (handleMsg env msg) fun
    | .err _ => pure ()
    | h => throw h
  | .exec result => modify fun d =>
    { d with prepare := env.prepare.handleExecResult d.prepare result }
  | .fetch result => tryCatch (handleFetch env result) fun
    | .err _ => pure ()
    | h => throw h
  | .timeout event => tryCatch (handleTimeout event) fun
    | .err _ => pure ()
    | h => throw h

/-- `SMR::run` over the inputs it takes, in order, each with the time it comes at. -/
def run : List (Nat × Input) → DriverM σ κ α ρ Unit
  | [] => pure ()
  | (now, input) :: inputs => do
    modify fun d => { d with now }
    handleInput env input
    run inputs

end Handlers

end Driver

end Overlord
