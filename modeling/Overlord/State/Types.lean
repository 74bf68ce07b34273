import Overlord.Types

/-!
# The messages and records of the State

The data `state/process.rs` reads and writes: votes and their quorum certificates
(`AggregatedVote`), proposals with an optional proof of lock (`PoLC`), the commit with its
proof, the rich status the application answers a commit with, and the WAL record of
`wal/wal_type.rs` with its conversions `to_smr_base`, `to_lock` and `to_polc`.

`types.rs` and the `Crypto` trait are not among the sources. Signatures are symbolic: a
signature names its signer and the message it signs, an aggregate signature its voters
and the one vote they signed. Two signatures on different messages are different, which
is what a collision-free hash under an unforgeable scheme gives. The block type `T` is
opaque to the State, which stores and forwards it: here it is a byte string. Weights are
`u8` in the code and `Nat` below `256` here.
-/

namespace Overlord

/-- `Address`: a validator's address. -/
abbrev Address := List UInt8

/-- The application's block type `T`. -/
abbrev Block := List UInt8

/-! ## Votes and certificates -/

/-- Vote types. -/
inductive VoteType where
  | prevote
  | precommit
deriving DecidableEq, Repr

/-- A vote on a block hash at a height and round. -/
structure Vote where
  height : Nat
  round : Nat
  voteType : VoteType
  blockHash : Hash
deriving DecidableEq, Repr

/-- Modelled from the spec: a signature of `Crypto::sign`, the signer and what it signed. -/
structure Signature (α : Type) where
  signer : Address
  msg : α
deriving DecidableEq, Repr

/-- Modelled from the spec: the signature `Crypto::aggregate_signatures` returns, the voters
whose signatures on one vote it aggregates. -/
structure AggSignature where
  voters : List Address
  vote : Vote
deriving DecidableEq, Repr

/-- An aggregate signature with the bitmap of its voters over the sorted authority list. -/
structure AggregatedSignature where
  signature : AggSignature
  addressBitmap : List Bool
deriving DecidableEq, Repr

/-- A quorum certificate: the aggregate signature on a vote, built by a leader. -/
structure AggregatedVote where
  signature : AggregatedSignature
  voteType : VoteType
  height : Nat
  round : Nat
  blockHash : Hash
  leader : Address
deriving DecidableEq, Repr

namespace AggregatedVote

/-- `to_vote`: the vote the certificate is on. -/
def toVote (qc : AggregatedVote) : Vote := ⟨qc.height, qc.round, qc.voteType, qc.blockHash⟩

/-- `is_prevote_qc`. -/
def isPrevoteQc (qc : AggregatedVote) : Bool := qc.voteType == .prevote

end AggregatedVote

/-- A signed vote. -/
structure SignedVote where
  signature : Signature Vote
  vote : Vote
  voter : Address
deriving DecidableEq, Repr

/-- `is_prevote`. -/
def SignedVote.isPrevote (sv : SignedVote) : Bool := sv.vote.voteType == .prevote

/-! ## Proposals -/

/-- A proof of lock: a prevote QC and the round the proposer claims for it. -/
structure PoLC where
  lockRound : Nat
  lockVotes : AggregatedVote
deriving DecidableEq, Repr

/-- A proposal of a block at a height and round, with the proposer's lock if any. -/
structure Proposal where
  height : Nat
  round : Nat
  content : Block
  blockHash : Hash
  lock : Option PoLC
  proposer : Address
deriving DecidableEq, Repr

/-- A signed proposal. -/
structure SignedProposal where
  signature : Signature Proposal
  proposal : Proposal
deriving DecidableEq, Repr

/-! ## Commits, statuses and the network -/

/-- The proof of a commit: the aggregate signature of a precommit QC. -/
structure Proof where
  height : Nat
  round : Nat
  blockHash : Hash
  signature : AggregatedSignature
deriving DecidableEq, Repr

/-- What `Consensus::commit` receives. -/
structure Commit where
  height : Nat
  content : Block
  proof : Proof
deriving DecidableEq, Repr

/-- A validator with its propose and vote weights. -/
structure Node where
  address : Address
  proposeWeight : Nat
  voteWeight : Nat
deriving DecidableEq, Repr

/-- A rich status: the next height, its interval and its authority list. -/
structure Status where
  height : Nat
  interval : Option Nat
  authorityList : List Node
deriving DecidableEq, Repr

/-- The answer of the block check the State spawns. -/
structure VerifyResp where
  height : Nat
  blockHash : Hash
  isPass : Bool
deriving DecidableEq, Repr

/-- The messages of the network, and the rich status from the application. -/
inductive OverlordMsg where
  | signedProposal (sp : SignedProposal)
  | aggregatedVote (av : AggregatedVote)
  | signedVote (sv : SignedVote)
  | richStatus (rs : Status)
deriving DecidableEq, Repr

/-! ## The WAL record -/

/-- The lock saved in a WAL record: the prevote QC and the block it is on. -/
structure WalLock where
  lockRound : Nat
  lockVotes : AggregatedVote
  content : Block
deriving DecidableEq, Repr

/-- The record the State saves before acting, and restarts from. -/
structure WalInfo where
  height : Nat
  round : Nat
  step : Step
  lock : Option WalLock
deriving DecidableEq, Repr

/-- `WalLock::to_polc`. -/
def WalLock.toPolc (l : WalLock) : PoLC := ⟨l.lockRound, l.lockVotes⟩

/-- `WalLock::to_lock`: the lock the SMR restarts with. -/
def WalLock.toLock (l : WalLock) : Lock := ⟨l.lockRound, l.lockVotes.blockHash⟩

/-- `WalInfo::to_smr_base`. -/
def WalInfo.toSmrBase (w : WalInfo) : SMRBase :=
  ⟨w.height, w.round, w.step, w.lock.map WalLock.toLock⟩

/-! ## Conversions -/

/-- Modelled from the spec: `Into<Step>` of `VoteType`, the step of the same name. -/
def VoteType.toStep : VoteType → Step
  | prevote => .prevote
  | precommit => .precommit

/-- Modelled from the spec: `Into<TriggerType>` of `VoteType`, the QC trigger of that kind. -/
def VoteType.toTriggerType : VoteType → TriggerType
  | prevote => .prevoteQC
  | precommit => .precommitQC

/-- The `Display` of a step, which a failed WAL save carries. -/
def Step.display : Step → String
  | .propose => "Prepose step"
  | .prevote => "Prevote step"
  | .precommit => "Precommit step"
  | .commit => "Commit step"

end Overlord
