import Overlord.State.Types

/-!
# The types of the SMR driver

`smr.rs` is the newer, integrated driver: one task that owns the `StateInfo`, the
`Cabinet`, the `AuthManage`, the `ProposePrepare` and the WAL, and takes network messages,
execution results, fetched blocks and timeouts one at a time. The message types of
`types.rs` are not among the sources; each is modelled from the spec with the fields the
driver reads. A signature or an aggregate is left out: only `AuthManage` reads it.

`Event` is what a run of the driver does, in order: the effects on the outside (a message
transmitted or broadcast, an execution request, a fetch or a timer spawned, a WAL record
written), and, as a ghost event of the model, each change of the `StateInfo`.
`Event.outbound` marks the effects the WAL must precede: a signed vote transmitted, a
signed proposal broadcast, an execution request.
-/

namespace Overlord

namespace Driver

/-! ## Stages and times -/

/-- Modelled from the spec: the steps of `StateInfo`. -/
inductive Step where
  | propose
  | preVote
  | preCommit
  | brake
  | commit
deriving DecidableEq, Repr

/-- Modelled from the spec: `Stage`, where a `StateInfo` is. -/
structure Stage where
  height : Nat
  round : Nat
  step : Step
deriving DecidableEq, Repr

/-- Modelled from the spec: `TimeConfig`, the interval of a height and the ratios, in
tenths, of each step's timeout. -/
structure TimeConfig where
  interval : Nat
  proposeRatio : Nat
  preVoteRatio : Nat
  preCommitRatio : Nat
  brakeRatio : Nat
deriving DecidableEq, Repr

/-! ## Votes, QCs and proposals -/

/-- Modelled from the spec: `Vote`. -/
structure Vote where
  height : Nat
  round : Nat
  blockHash : Hash
deriving DecidableEq, Repr

/-- Modelled from the spec: `PreVoteQC`. -/
structure PreVoteQC where
  vote : Vote
deriving DecidableEq, Repr

/-- Modelled from the spec: `PreCommitQC`, which is also the `Proof` of a block. -/
structure PreCommitQC where
  vote : Vote
deriving DecidableEq, Repr

/-- Modelled from the spec: `Choke`, a vote to leave a round. -/
structure Choke where
  height : Nat
  round : Nat
deriving DecidableEq, Repr

/-- Modelled from the spec: `ChokeQC`. -/
structure ChokeQC where
  choke : Choke
deriving DecidableEq, Repr

/-- Modelled from the spec: `UpdateFrom`, the strongest QC a choke carries. -/
inductive UpdateFrom where
  | preVoteQC (qc : PreVoteQC)
  | preCommitQC (qc : PreCommitQC)
  | chokeQC (qc : ChokeQC)
deriving DecidableEq, Repr

/-- Modelled from the spec: `SignedPreVote`. -/
structure SignedPreVote where
  vote : Vote
  voter : Address
deriving DecidableEq, Repr

/-- Modelled from the spec: `SignedPreCommit`. -/
structure SignedPreCommit where
  vote : Vote
  voter : Address
deriving DecidableEq, Repr

/-- Modelled from the spec: `SignedChoke`; the source's field `from` is `updateFrom`. -/
structure SignedChoke where
  choke : Choke
  updateFrom : UpdateFrom
  voter : Address
deriving DecidableEq, Repr

/-- Modelled from the spec: what the `Blk` trait gives of a block. -/
structure Blk where
  height : Nat
  blockHash : Hash
  preHash : Hash
  proof : PreCommitQC
  execHeight : Nat
deriving DecidableEq, Repr

/-- Modelled from the spec: `Proposal`. -/
structure Proposal where
  height : Nat
  round : Nat
  block : Blk
  blockHash : Hash
  lock : Option PreVoteQC
  proposer : Address
deriving DecidableEq, Repr

/-- `Proposal::as_vote`. -/
def Proposal.asVote (p : Proposal) : Vote := ⟨p.height, p.round, p.blockHash⟩

/-- Modelled from the spec: `SignedProposal`. -/
structure SignedProposal where
  proposal : Proposal
  signer : Address
deriving DecidableEq, Repr

/-! ## Messages -/

/-- Modelled from the spec: `Capsule`, a message the cabinet keeps. -/
inductive Capsule where
  | signedProposal (sp : SignedProposal)
  | signedPreVote (sv : SignedPreVote)
  | signedPreCommit (sv : SignedPreCommit)
  | signedChoke (sc : SignedChoke)
  | preVoteQC (qc : PreVoteQC)
  | preCommitQC (qc : PreCommitQC)
  | chokeQC (qc : ChokeQC)
deriving DecidableEq, Repr

/-- Modelled from the spec: `OverlordMsg`; `other` stands for the messages the driver
leaves to synchronisation. -/
inductive OverlordMsg where
  | signedProposal (sp : SignedProposal)
  | signedPreVote (sv : SignedPreVote)
  | signedPreCommit (sv : SignedPreCommit)
  | signedChoke (sc : SignedChoke)
  | preVoteQC (qc : PreVoteQC)
  | preCommitQC (qc : PreCommitQC)
  | other
deriving DecidableEq, Repr

/-- Modelled from the spec: `SumWeight`, the weight a hash has gathered in a round, as
`Cabinet::insert` returns it. -/
structure SumWeight where
  cumWeight : Nat
  round : Nat
  blockHash : Option Hash
deriving DecidableEq, Repr

/-- Modelled from the spec: `ExecRequest`. -/
structure ExecRequest where
  height : Nat
  fullBlock : Block
  proof : PreCommitQC
deriving DecidableEq, Repr

/-- Modelled from the spec: `FetchedFullBlock`. -/
structure FetchedFullBlock where
  height : Nat
  blockHash : Hash
  fullBlock : Block
deriving DecidableEq, Repr

/-- Modelled from the spec: the consensus configuration an execution result carries. -/
structure ConsensusConfig where
  authConfig : List Node
  timeConfig : TimeConfig
deriving DecidableEq, Repr

/-- Modelled from the spec: `ExecResult`. -/
structure ExecResult where
  consensusConfig : ConsensusConfig
deriving DecidableEq, Repr

/-! ## Errors -/

/-- Modelled from the spec: the kinds of `OverlordError` the driver builds; `other` is an
error of a component that is not among the sources. -/
inductive OverlordError where
  | debugOld
  | debugHigh
  | netMuchHigh
  | byzBlock
  | warnBlock
  | byzAdapterCheckBlock (msg : String)
  | localCreateBlock (msg : String)
  | netTransmit (msg : String)
  | localBroadcast (msg : String)
  | netFetch (hash : Hash)
  | other (msg : String)
deriving DecidableEq, Repr

/-- How a handler stops early: an error it returns, or the panic of an `expect` or an
`unreachable!`. -/
inductive Halt where
  | err (e : OverlordError)
  | panic (msg : String)
deriving DecidableEq, Repr

/-! ## The trace -/

/-- What a run of the driver does, in order. `transition s` is a ghost event: the
`StateInfo` became `s`. -/
inductive Event (σ : Type) where
  | transition (s : σ)
  | saveWal (s : σ)
  | transmit (address : Address) (msg : OverlordMsg)
  | broadcast (msg : OverlordMsg)
  | exec (request : ExecRequest)
  | fetch (height : Nat) (blockHash : Hash)
  | timer (stage : Stage) (interval : Nat)
deriving DecidableEq, Repr

namespace Event

variable {σ : Type}

/-- The effects the WAL must precede: a signed vote transmitted, a signed proposal
broadcast, an execution request. -/
def outbound : Event σ → Bool
  | transmit _ (.signedPreVote _) | transmit _ (.signedPreCommit _) => true
  | broadcast (.signedProposal _) => true
  | exec _ => true
  | _ => false

/-- The events that neither change nor save the `StateInfo` nor need a saved one. -/
def quiet : Event σ → Bool
  | transition _ | saveWal _ => false
  | e => !e.outbound

end Event

end Driver

end Overlord
