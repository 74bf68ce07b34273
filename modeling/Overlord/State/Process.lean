import Overlord.State.Collection

/-!
# The State of a replica

`state/process.rs`. The State takes signed proposals, votes and QCs from the network, the
rich status from the application, the events of its SMR and the answers of the block
checks it spawns, and drives the SMR with triggers.

Each `async fn` of the State is an `Exec` action over its collaborators `env` (`Adapter`:
the application, the WAL and the proposer schedule): it may change the State, and returns
`Ok` or an error. An error keeps what was written before it, as Rust's `?` does. What the
State hands to the outside (a trigger to its SMR, a message to the network, a WAL record,
a commit, a block check) is appended to `out`, in the order the code does it.

Logging and tracing are left out, and so is the time: the start of a height and the pause
before the next height in `handle_commit` only wait. Sending on the SMR's channel and to
the network never fails here; the code logs a failed network send and goes on.
-/

namespace Overlord

/-- `FUTURE_HEIGHT_GAP`. -/
def FUTURE_HEIGHT_GAP : Nat := 5

/-- `FUTURE_ROUND_GAP`. -/
def FUTURE_ROUND_GAP : Nat := 10

/-- What the State hands to the outside. -/
inductive Output where
  | trigger (t : SMRTrigger)
  | broadcast (msg : OverlordMsg)
  | transmit (address : Address) (msg : OverlordMsg)
  | saveWal (info : WalInfo)
  | commit (height : Nat) (commit : Commit)
  | checkBlock (height : Nat) (hash : Hash) (block : Block)
deriving DecidableEq, Repr

/-- The State's collaborators: `Consensus` (blocks, their checks, commits, authority
lists), `Wal::save`, and the proposer schedule `get_proposer` of the authority list, which
`auth_manage.rs` computes and the sources do not show. -/
structure Adapter where
  getBlock : Nat → Except String (Block × Hash)
  checkBlock : Nat → Hash → Block → Bool
  commit : Nat → Commit → Except String Status
  getAuthorityList : Nat → Except String (List Node)
  walSave : WalInfo → Bool
  getProposer : Nat → Nat → List Node → Address

/-- The State of one replica. -/
structure State where
  height : Nat
  round : Nat
  address : Address
  proposals : ProposalCollector
  votes : VoteCollector
  authority : AuthorityManage
  hashWithBlock : List (Hash × Block)
  isFullTranscation : List (Hash × Bool)
  isLeader : Bool
  leaderAddress : Address
  lastCommitQc : Option AggregatedVote
  blockInterval : Nat
  out : List Output
deriving DecidableEq, Repr

/-- An `async fn` of the State: it may change the State, and returns `Ok` or an error. -/
abbrev Exec (α : Type) := EStateM ConsensusError State α

/-- The kinds of signed messages. -/
inductive MsgType where
  | signedProposal
  | signedVote

/-- The `Debug` of a message kind. -/
def MsgType.debug : MsgType → String
  | signedProposal => "SignedProposal"
  | signedVote => "SignedVote"

/-- The `Debug` of a vote type. -/
def VoteType.debug : VoteType → String
  | prevote => "Prevote"
  | precommit => "Precommit"

namespace State

/-- `State::new`. -/
def new (address : Address) (interval : Nat) (authorityList : List Node) : State where
  height := INIT_HEIGHT
  round := INIT_ROUND
  address := address
  proposals := .new
  votes := .new
  authority := AuthorityManage.new.update authorityList false
  hashWithBlock := []
  isFullTranscation := []
  isLeader := false
  leaderAddress := []
  lastCommitQc := none
  blockInterval := interval
  out := []

/-! ## Checks -/

/-- `verify_signature`. -/
def verifySignature {α : Type} [DecidableEq α] (sig : Signature α) (msg : α)
    (address : Address) (msgType : MsgType) : Except ConsensusError Unit :=
  if cryptoVerifySignature sig msg address then .ok ()
  else .error (.cryptoErr (msgType.debug ++ " signature error"))

/-- `verify_aggregated_signature`: more than two thirds of the weight, and the aggregate
signature of exactly the marked voters on `vote`. -/
def verifyAggregatedSignature (s : State) (signature : AggregatedSignature) (vote : Vote)
    (height : Nat) (voteType : VoteType) : Except ConsensusError Unit :=
  if !s.authority.isAboveThreshold signature.addressBitmap (height == s.height) then
    .error (.aggregatedSignatureErr (voteType.debug ++ " QC of height " ++ toString s.height ++
      ", round " ++ toString s.round ++ " is not above threshold"))
  else if cryptoVerifyAggregatedSignature signature.signature vote
      (s.authority.getVoters signature.addressBitmap (height == s.height)) then .ok ()
  else .error (.aggregatedSignatureErr (voteType.debug ++ " aggregate signature error"))

/-- `verify_address`. -/
def verifyAddress (s : State) (address : Address) (isCurrent : Bool) :
    Except ConsensusError Unit :=
  if s.authority.contains address isCurrent then .ok () else .error .invalidAddress

/-- `get_proposer` of the current or the last authority list. -/
def getProposer (s : State) (env : Adapter) (height round : Nat) (isCurrent : Bool) :
    Address :=
  env.getProposer height round (s.authority.list isCurrent)

/-- `verify_proposer`. -/
def verifyProposer (s : State) (env : Adapter) (height round : Nat) (address : Address)
    (isCurrent : Bool) : Except ConsensusError Unit := do
  s.verifyAddress address isCurrent
  if address != s.getProposer env height round isCurrent then
    throw (.proposalErr "Invalid proposer")

/-- `check_full_txs`: the hash, if its block was checked and passed. -/
def checkFullTxs (s : State) (hash : Hash) : Option Hash :=
  if s.isFullTranscation.lookup hash = some true then some hash else none

/-- `try_get_full_txs`. -/
def tryGetFullTxs (s : State) (hash : Hash) : Bool :=
  (s.isFullTranscation.lookup hash).getD false

/-- The weight of `voters`, summed in a `u8` as `counting_vote` does. -/
def voteWeight (a : AuthorityManage) (voters : List Address) : Except ConsensusError Nat :=
  voters.foldlM (fun acc addr => do return (acc + (← a.getVoteWeight addr)) % 256) 0

/-- The first hash of a vote map whose voters weigh more than `threshold / 3`. -/
def firstAbove (a : AuthorityManage) (threshold : Nat) :
    List (Hash × List Address) → Except ConsensusError (Option Hash)
  | [] => .ok none
  | (hash, voters) :: rest => do
    if threshold < (← voteWeight a voters) * 3 then return some hash
    firstAbove a threshold rest

/-! ## Effects -/

/-- `Result` of a synchronous helper, under `?`. -/
def lift {α : Type} : Except ConsensusError α → Exec α
  | .ok a => pure a
  | .error e => throw e

/-- Hand `o` to the outside. -/
def emit (o : Output) : Exec Unit := modify fun s => { s with out := s.out ++ [o] }

/-- `self.state_machine.trigger(..)`. -/
def trigger (t : SMRTrigger) : Exec Unit := emit (.trigger t)

/-- `broadcast`. -/
def broadcast (msg : OverlordMsg) : Exec Unit := emit (.broadcast msg)

/-- `transmit`: to the leader of the round. -/
def transmit (msg : OverlordMsg) : Exec Unit := do emit (.transmit (← get).leaderAddress msg)

/-- `retransmit_qc`: the last commit QC to `address`, if there is one. -/
def retransmitQc (address : Address) : Exec Unit := do
  if let some qc := (← get).lastCommitQc then emit (.transmit address (.aggregatedVote qc))

/-- `check_block`: spawn the check of a block of the current height. -/
def checkBlock (hash : Hash) (block : Block) : Exec Unit := do
  emit (.checkBlock (← get).height hash block)

/-- `save_wal`: the record of the current height and round. -/
def saveWal (env : Adapter) (step : Step) (lock : Option WalLock) : Exec Unit := do
  let s ← get
  let walInfo : WalInfo := ⟨s.height, s.round, step, lock⟩
  if env.walSave walInfo then emit (.saveWal walInfo)
  else throw (.saveWalErr s.height s.round step.display)

/-- `save_wal_before_vote`: with a lock round, the prevote QC of that round and its block. -/
def saveWalBeforeVote (env : Adapter) (step : Step) (lockRound : Option Nat) : Exec Unit := do
  let s ← get
  let polc ← match lockRound with
    | some round =>
      match s.votes.getQcById s.height round .prevote with
      | .ok qc =>
        match s.hashWithBlock.lookup qc.blockHash with
        | some block => pure (some ⟨round, qc, block⟩)
        | none => throw (.other "lose whole block")
      | .error _ => throw (.other "no qc")
    | none => pure none
  saveWal env step polc

/-- `is_proposer`: whether this node leads the round; if not, note the leader. -/
def isProposer (env : Adapter) : Exec Bool := do
  let s ← get
  let proposer := s.getProposer env s.height s.round true
  if proposer == s.address then return true
  set { s with leaderAddress := proposer }
  return false

/-! ## A new height -/

/-- `re_check_proposals`: keep again the proposals of the new height that verify. The loop
reads the authority list, which it does not write. -/
def reCheckProposals (s : State) (env : Adapter) (proposals : List SignedProposal) :
    ProposalCollector :=
  proposals.foldl (fun c sp =>
    let p := sp.proposal
    if (s.verifyProposer env p.height p.round p.proposer true).isOk &&
        (verifySignature sp.signature p p.proposer .signedProposal).isOk then
      c.insert p.height p.round sp
    else c) s.proposals

/-- `re_check_votes`: keep again the votes of the new height that verify. -/
def reCheckVotes (s : State) (votes : List SignedVote) : VoteCollector :=
  votes.foldl (fun c sv =>
    if (verifySignature sv.signature sv.vote sv.voter .signedVote).isOk &&
        (s.verifyAddress sv.voter true).isOk then
      c.insertVote sv
    else c) s.votes

/-- `re_check_qcs`: keep again the QCs of the new height that verify. -/
def reCheckQcs (s : State) (qcs : List AggregatedVote) : VoteCollector :=
  qcs.foldl (fun c qc =>
    if (s.verifyAggregatedSignature qc.signature qc.toVote s.height qc.voteType).isOk then
      c.setQc qc
    else c) s.votes

/-- Re-check what the collectors hold for a new height: its proposals (`self.height`),
then its votes and QCs. -/
def reCheck (s : State) (env : Adapter) (newHeight : Nat) : State :=
  let s := match s.proposals.getHeightProposals s.height with
    | some proposals => { s with proposals := s.reCheckProposals env proposals }
    | none => s
  match s.votes.getHeightVotes newHeight with
  | some (votes, qcs) =>
    let s := { s with votes := s.reCheckVotes votes }
    { s with votes := s.reCheckQcs qcs }
  | none => s

/-- `goto_new_height`: take the status's height, whatever the current one, clear the old
messages, re-check those of the new height, and send the SMR to the height. -/
def gotoNewHeight (env : Adapter) (status : Status) (getLastFlag : Bool) : Exec Unit := do
  let newHeight := status.height
  modify fun s => { s with height := newHeight, round := INIT_ROUND }
  modify fun s => { s with authority := s.authority.update status.authorityList true }
  if getLastFlag then
    match env.getAuthorityList (u64Pred newHeight) with
    | .ok tmp => modify fun s => { s with authority := s.authority.setLastList tmp }
    | .error err => throw (.other ("get authority list error " ++ err))
  if let some interval := status.interval then
    modify fun s => { s with blockInterval := interval }
  modify fun s => { s with proposals := s.proposals.flush (u64Pred newHeight) }
  modify fun s => { s with votes := s.votes.flush (u64Pred newHeight), hashWithBlock := [] }
  modify fun s => s.reCheck env newHeight
  trigger ⟨.newHeight ⟨newHeight⟩, .state, [], none, newHeight, none⟩

/-! ## Messages from the network -/

/-- `filter_signed_proposal`: whether to leave the proposal, caching those of a later
height or round. -/
def filterSignedProposal (height round : Nat) (sp : SignedProposal) : Exec Bool := do
  let s ← get
  if height < u64Pred s.height || (height == s.height && round < s.round) then return true
  else if s.height + FUTURE_HEIGHT_GAP < height then return true
  else if (height == s.height && s.round + FUTURE_ROUND_GAP < round) ||
      (s.height < height && FUTURE_ROUND_GAP < round) then return true
  if (height == s.height && round != s.round) || s.height < height then
    set { s with proposals := s.proposals.insert height round sp }
    return true
  return false

/-- `handle_signed_proposal`. A proof of lock is checked for its weight and its aggregate
signature, and its lock round is passed on to the SMR. -/
def handleSignedProposal (env : Adapter) (sp : SignedProposal) : Exec Unit := do
  let height := sp.proposal.height
  let round := sp.proposal.round
  if ← filterSignedProposal height round sp then return
  let proposal := sp.proposal
  let s ← get
  lift (s.verifyProposer env height round proposal.proposer (height == s.height))
  lift (verifySignature sp.signature proposal proposal.proposer .signedProposal)
  if height == u64Pred s.height then
    retransmitQc proposal.proposer
    return
  let lockRound ← match proposal.lock with
    | some polc => do
      if !s.authority.isAboveThreshold polc.lockVotes.signature.addressBitmap
          (proposal.height == s.height) then
        throw (.aggregatedSignatureErr ("aggregate signature below two thirds, proposal of " ++
          "height " ++ toString proposal.height ++ ", round " ++ toString proposal.round))
      match s.verifyAggregatedSignature polc.lockVotes.signature polc.lockVotes.toVote s.height
          .prevote with
      | .ok () => pure (some polc.lockRound)
      | .error _ => throw (.aggregatedSignatureErr ("proposal of height " ++
          toString proposal.height ++ ", round " ++ toString proposal.round))
    | none => pure none
  let hash := proposal.blockHash
  set { s with hashWithBlock := mapInsert s.hashWithBlock hash proposal.content }
  modify fun s => { s with proposals := s.proposals.insert s.height s.round sp }
  trigger ⟨.proposal, .state, hash, lockRound, s.height, none⟩
  checkBlock hash proposal.content

/-- `counting_vote`: a hash of the current round whose voters weigh more than two thirds. -/
def countingVote (voteType : VoteType) : Exec (Option Hash) := do
  let s ← get
  let voteMap ← lift (s.votes.getVoteMap s.height s.round voteType)
  let threshold := (← lift (s.authority.getVoteWeightSum true)) * 2
  lift (firstAbove s.authority threshold voteMap)

/-- `generate_qc`: aggregate the votes of the current round for `blockHash`, in the
collector's order (the code sorts them first; an aggregate signature is checked against its
voters as a set, so the order is not seen). -/
def generateQc (blockHash : Hash) (voteType : VoteType) : Exec AggregatedVote := do
  let s ← get
  let votes ← lift (s.votes.getVotes s.height s.round voteType blockHash)
  let voters := votes.map SignedVote.voter
  match aggregateSignatures (votes.map SignedVote.signature) voters with
  | some signature =>
    return ⟨⟨signature, s.authority.getAddresRef.map voters.contains⟩, voteType, s.height,
      s.round, blockHash, s.address⟩
  | none => throw (.cryptoErr "aggregate signatures error")

/-- `handle_signed_vote`: the leader counts the votes of its round, builds and broadcasts a
QC when a hash passes two thirds, and triggers its SMR once the block is checked. -/
def handleSignedVote (sv : SignedVote) : Exec Unit := do
  if sv.vote.blockHash.isEmpty then return
  let height := sv.vote.height
  let round := sv.vote.round
  let voteType : VoteType := if sv.isPrevote then .prevote else .precommit
  let s ← get
  if height != u64Pred s.height && (!s.isLeader || height != s.height || round != s.round) then
    return
  lift (verifySignature sv.signature sv.vote sv.voter .signedVote)
  lift (s.verifyAddress sv.voter true)
  if height == u64Pred s.height then
    retransmitQc sv.voter
    return
  if (s.votes.getQcById height round voteType).isOk then return
  set { s with votes := s.votes.insertVote sv }
  let some blockHash ← countingVote voteType | return
  let qc ← generateQc blockHash voteType
  modify fun s => { s with votes := s.votes.setQc qc }
  broadcast (.aggregatedVote qc)
  let mut blockHash := blockHash
  if voteType == .prevote then
    match (← get).checkFullTxs blockHash with
    | some tmp => blockHash := tmp
    | none => return
  else if !(← get).tryGetFullTxs blockHash then return
  trigger ⟨voteType.toTriggerType, .state, blockHash, some round, (← get).height, none⟩

/-- `handle_aggregated_vote`: a QC of the current height, not an outdated prevote QC, is
checked, kept, and triggers the SMR once its block is checked. -/
def handleAggregatedVote (av : AggregatedVote) : Exec Unit := do
  if av.blockHash.isEmpty then return
  let height := av.height
  let round := av.round
  let qcType : VoteType := if av.isPrevoteQc then .prevote else .precommit
  let s ← get
  if height < s.height then return
  if s.height < height then
    if height < s.height + FUTURE_HEIGHT_GAP && round < FUTURE_ROUND_GAP then
      set { s with votes := s.votes.setQc av }
    return
  if qcType == .prevote && round < s.round then return
  lift (s.verifyAggregatedSignature av.signature av.toVote height qcType)
  let qcHash := av.blockHash
  set { s with votes := s.votes.setQc av }
  if !s.tryGetFullTxs qcHash then return
  trigger ⟨qcType.toTriggerType, .state, qcHash, some round, s.height, none⟩

/-! ## Events of the SMR -/

/-- `vote_process`: after voting, act on a QC of the round already at hand (a replica) or
on the votes already counted (the leader). Before the trigger the WAL gets the "lastest
lock": the prevote QC of the current round. -/
def voteProcess (env : Adapter) (voteType : VoteType) (lockRound : Option Nat) : Exec Unit := do
  let s ← get
  if !s.isLeader then
    if let .ok qc := s.votes.getQcById s.height s.round voteType then
      let mut blockHash := qc.blockHash
      if !blockHash.isEmpty then
        if voteType == .prevote then
          match s.checkFullTxs blockHash with
          | some tmp => blockHash := tmp
          | none =>
            saveWalBeforeVote env voteType.toStep lockRound
            return
        else if !s.tryGetFullTxs blockHash then
          saveWalBeforeVote env voteType.toStep lockRound
          return
      else
        throw (.other "Empty qc")
      saveWalBeforeVote env voteType.toStep (some s.round)
      trigger ⟨qc.voteType.toTriggerType, .state, blockHash, some s.round, s.height, none⟩
  else if let some blockHash ← countingVote voteType then
    let qc ← generateQc blockHash voteType
    modify fun s => { s with votes := s.votes.setQc qc }
    broadcast (.aggregatedVote qc)
    let mut blockHash := blockHash
    if !blockHash.isEmpty then
      if voteType == .prevote then
        match (← get).checkFullTxs blockHash with
        | some tmp => blockHash := tmp
        | none =>
          saveWalBeforeVote env voteType.toStep lockRound
          return
      else if !(← get).tryGetFullTxs blockHash then
        saveWalBeforeVote env voteType.toStep lockRound
        return
    else
      throw (.other "empty qc")
    saveWalBeforeVote env voteType.toStep (some s.round)
    trigger ⟨voteType.toTriggerType, .state, blockHash, some s.round, s.height, none⟩

/-- `handle_vote_event`: on an empty hash (a timeout) save the WAL at the next step; else
sign the vote, count it (the leader) or send it to the leader, and go on to
`vote_process`. -/
def handleVoteEvent (env : Adapter) (hash : Hash) (voteType : VoteType)
    (lockRound : Option Nat) :
    Exec Unit := do
  let s ← get
  if hash.isEmpty then
    let step : Step := match voteType with
      | .prevote => .precommit
      | .precommit => .propose
    let lock ← match lockRound with
      | some round => do
        let qc ← lift (s.votes.getQcById s.height round .prevote)
        match s.hashWithBlock.lookup qc.blockHash with
        | some content => pure (some ⟨round, qc, content⟩)
        | none => throw (.other "lose whole block")
      | none => pure none
    saveWal env step lock
    return
  let vote : Vote := ⟨s.height, s.round, voteType, hash⟩
  let signedVote : SignedVote := ⟨sign s.address vote, vote, s.address⟩
  if s.isLeader then
    set { s with votes := s.votes.insertVote signedVote }
  else
    transmit (.signedVote signedVote)
  voteProcess env voteType lockRound

/-- `handle_new_round`: save the WAL in the propose step; a replica handles the proposal it
already holds for the round, the leader proposes (its lock's block with a proof of lock, or
a new block) and triggers its SMR. -/
def handleNewRound (env : Adapter) (round : Nat) (lockRound : Option Nat)
    (lockProposal : Option Hash) :
    Exec Unit := do
  modify fun s => { s with round := round, isLeader := false }
  if lockRound.isSome ^^ lockProposal.isSome then
    throw (.proposalErr "Lock round is inconsistent with lock proposal")
  let s ← get
  let lock ← match lockRound with
    | none => pure none
    | some round => do
      let qc ← match s.votes.getQcById s.height round .prevote with
        | .ok qc => pure qc
        | .error _ => throw (.proposalErr "QC not found when propose")
      match s.hashWithBlock.lookup qc.blockHash with
      | some content => pure (some ⟨round, qc, content⟩)
      | none => throw (.other "lose whole block")
  saveWal env .propose lock
  if !(← isProposer env) then
    let s ← get
    if let some signedProposal := s.proposals.get s.height s.round then
      handleSignedProposal env signedProposal
    return
  modify fun s => { s with isLeader := true }
  let s ← get
  let (block, hash, polc) ← match lockRound with
    | none =>
      match env.getBlock s.height with
      | .ok (newBlock, newHash) => pure (newBlock, newHash, none)
      | .error err => throw (.other ("get block error " ++ err))
    | some round => do
      let hash := lockProposal.getD []
      let some block := s.hashWithBlock.lookup hash
        | throw (.proposalErr "Lose whole block that hash is")
      let qc ← match s.votes.getQcById s.height round .prevote with
        | .ok qc => pure qc
        | .error _ => throw (.proposalErr "QC not found when propose")
      pure (block, hash, some (⟨round, qc⟩ : PoLC))
  if (s.hashWithBlock.lookup hash).isNone then
    set { s with hashWithBlock := mapInsert s.hashWithBlock hash block }
  let s ← get
  let proposal : Proposal := ⟨s.height, s.round, block, hash, polc, s.address⟩
  broadcast (.signedProposal ⟨sign s.address proposal, proposal⟩)
  trigger ⟨.proposal, .state, hash, lockRound, s.height, none⟩
  checkBlock hash block

/-- `handle_commit`: the proof of the commit is the signature of the precommit QC of the
hash, with the State's height and round; save the WAL in the commit step, commit, and go
to the height of the status the application answers with. -/
def handleCommit (env : Adapter) (hash : Hash) : Exec Unit := do
  let s ← get
  let height := s.height
  let some content := s.hashWithBlock.lookup hash
    | throw (.other ("Lose whole block height " ++ toString s.height ++ ", round " ++
        toString s.round))
  let some qc := s.votes.getQcByHash height hash .precommit
    | throw (.storageErr "Lose precommit QC")
  let proof : Proof := ⟨height, s.round, hash, qc.signature⟩
  let commit : Commit := ⟨height, content, proof⟩
  set { s with lastCommitQc := some qc }
  saveWal env .commit (some ⟨s.round, qc, content⟩)
  emit (.commit height commit)
  match env.commit height commit with
  | .error err => throw (.other ("commit error " ++ err))
  | .ok status =>
    modify fun s => { s with authority := s.authority.update status.authorityList true }
    gotoNewHeight env status false

/-! ## The loop -/

/-- `handle_resp`: note the checked block; trigger the SMR with a precommit QC of its hash,
or else a prevote QC of the current round. -/
def handleResp (resp : VerifyResp) : Exec Unit := do
  let s ← get
  if resp.height != s.height then return
  let blockHash := resp.blockHash
  set { s with isFullTranscation := mapInsert s.isFullTranscation blockHash resp.isPass }
  if let some qc := s.votes.getQcByHash s.height blockHash .precommit then
    trigger ⟨.precommitQC, .state, qc.blockHash, some s.round, s.height, none⟩
  else if let some qc := s.votes.getQcByHash s.height blockHash .prevote then
    if qc.round == s.round then
      trigger ⟨.prevoteQC, .state, qc.blockHash, some s.round, s.height, none⟩

/-- `handle_msg`: the errors of a network message are logged; those of a rich status end
the loop. -/
def handleMsg (env : Adapter) (msg : OverlordMsg) : Exec Unit :=
  match msg with
  | .signedProposal sp => try handleSignedProposal env sp catch _ => pure ()
  | .aggregatedVote av => try handleAggregatedVote av catch _ => pure ()
  | .signedVote sv => try handleSignedVote sv catch _ => pure ()
  | .richStatus rs => gotoNewHeight env rs true

/-- `handle_event`: the errors of an event's handler are logged. The SMR never sends `Stop`
to the State, whose loop the code ends there with `unreachable!`. -/
def handleEvent (env : Adapter) (event : SMREvent) : Exec Unit :=
  match event with
  | .newRoundInfo _ round lockRound lockProposal =>
    try handleNewRound env round lockRound lockProposal catch _ => pure ()
  | .prevoteVote _ _ blockHash lockRound =>
    try handleVoteEvent env blockHash .prevote lockRound catch _ => pure ()
  | .precommitVote _ _ blockHash lockRound =>
    try handleVoteEvent env blockHash .precommit lockRound catch _ => pure ()
  | .commit hash => try handleCommit env hash catch _ => pure ()
  | .stop => throw (.other "unreachable")

/-- `start_with_wal`: restart from the record `load_wal` read, if any: the SMR gets the
record, and the State goes on from its step. -/
def startWithWal (env : Adapter) (walInfo : Option WalInfo) : Exec Unit := do
  let some walInfo := walInfo | return
  modify fun s => { s with height := walInfo.height, round := walInfo.round }
  let isLeader ← isProposer env
  modify fun s => { s with isLeader := isLeader }
  let walTrigger : SMRTrigger :=
    ⟨.walInfo, .state, [], none, walInfo.height, some walInfo.toSmrBase⟩
  let some lock := walInfo.lock
    | if walInfo.step == .commit then throw (.loadWalErr "no lock in commit step")
      trigger walTrigger
  let qc := lock.lockVotes
  modify fun s => { s with votes := s.votes.setQc qc }
  modify fun s => { s with hashWithBlock := mapInsert s.hashWithBlock qc.blockHash lock.content }
  match walInfo.step with
  | .propose =>
    trigger walTrigger
    if isLeader then
      let s ← get
      let proposal : Proposal :=
        ⟨s.height, s.round, lock.content, qc.blockHash, some lock.toPolc, s.address⟩
      broadcast (.signedProposal ⟨sign s.address proposal, proposal⟩)
      trigger ⟨.proposal, .state, qc.blockHash, some lock.lockRound, s.height, none⟩
  | .prevote | .precommit =>
    let s ← get
    let vote : Vote := { qc.toVote with round := s.round }
    let signedVote : SignedVote := ⟨sign s.address vote, vote, s.address⟩
    trigger walTrigger
    if !isLeader then transmit (.signedVote signedVote)
    else handleSignedVote signedVote
  | .commit => handleCommit env qc.blockHash

/-- What the loop of `State::run` takes: a message from the network, an event of the SMR,
or the answer of a block check. -/
inductive Input where
  | msg (msg : OverlordMsg)
  | event (event : SMREvent)
  | resp (resp : VerifyResp)
deriving DecidableEq, Repr

/-- One turn of the loop: the `select!` of `State::run` on the input that came. -/
def handleInput (env : Adapter) : Input → Exec Unit
  | .msg msg => handleMsg env msg
  | .event event => handleEvent env event
  | .resp resp => handleResp resp

/-- `State::run`: restart from the record the WAL holds, then take the inputs one at a time,
in the order they came; the first error ends the loop. The channels never close here. -/
def run (env : Adapter) (walInfo : Option WalInfo) (inputs : List Input) : Exec Unit := do
  startWithWal env walInfo
  inputs.forM (handleInput env)

end State

end Overlord
