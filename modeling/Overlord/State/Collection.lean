import Overlord.State.Types

/-!
# The collectors, the authority list and the signatures

`state/collection.rs`, `utils/auth_manage.rs` and the `Crypto` trait are not among the
sources. Each is modelled from the spec (the Cabinet, AuthManage and the signing rules)
with exactly the interface `process.rs` calls:

* `VoteCollector` keeps the signed votes, a voter's vote counted once, and one QC for each
  height, round and vote type, the one set last; `get_qc_by_hash` answers with the last QC
  set for a hash; `get_votes` and `get_vote_map` fail when it holds no vote for the hash
  or for the round;
* `ProposalCollector` keeps one signed proposal for each height and round;
* `AuthorityManage` keeps the current and the last authority lists, sorted by address, the
  last one possibly missing (empty); `get_vote_weight_sum` fails on a missing last list;
  `is_above_threshold` is "more than two thirds of the vote weight", as the spec's
  `beyond_majority`, and on a missing last list it, `contains` and `get_voters` answer as
  on an empty list, where each check that calls them fails as the code's `?` does;
* signatures are checked symbolically, an aggregate signature against its voters as a set.

`flush(till)` keeps the heights from `till` on, as `BTreeMap::split_off` does. A `u64`
of the code that is decremented below zero wraps, as in a release build (`u64Pred`).
-/

namespace Overlord

/-! ## Helpers -/

/-- `HashMap::insert` on an association list: the new entry replaces the old one. -/
def mapInsert {α β : Type} [BEq α] (m : List (α × β)) (k : α) (v : β) : List (α × β) :=
  (k, v) :: m.filter (fun e => e.1 != k)

@[simp] theorem lookup_mapInsert_self {α β : Type} [BEq α] [LawfulBEq α]
    (m : List (α × β)) (k : α) (v : β) : (mapInsert m k v).lookup k = some v := by
  simp [mapInsert, List.lookup]

/-- `x - 1` on a `u64`, which wraps at zero. -/
def u64Pred (x : Nat) : Nat := if x = 0 then 2 ^ 64 - 1 else x - 1

theorem u64Pred_of_pos {x : Nat} (h : 0 < x) : u64Pred x = x - 1 := by
  simp [u64Pred, Nat.pos_iff_ne_zero.mp h]

/-! ## Signatures -/

/-- Modelled from the spec: `Crypto::sign` with the key of `signer`. -/
def sign {α : Type} (signer : Address) (msg : α) : Signature α := ⟨signer, msg⟩

/-- Modelled from the spec: `Crypto::verify_signature`, the signature is `address`'s on
`msg`. -/
def cryptoVerifySignature {α : Type} [DecidableEq α] (sig : Signature α) (msg : α)
    (address : Address) : Bool :=
  sig.signer == address && sig.msg == msg

/-- Modelled from the spec: `Crypto::aggregate_signatures`, signatures on one vote by the
given voters. -/
def aggregateSignatures (signatures : List (Signature Vote)) (voters : List Address) :
    Option AggSignature :=
  match signatures with
  | [] => none
  | s :: rest =>
    if rest.all (fun x => x.msg == s.msg) && signatures.map Signature.signer == voters then
      some ⟨voters, s.msg⟩
    else none

/-- Modelled from the spec: `Crypto::verify_aggregated_signature`, the signature of these
voters, as a set, on this vote. -/
def cryptoVerifyAggregatedSignature (sig : AggSignature) (vote : Vote)
    (voters : List Address) : Bool :=
  sig.vote == vote && sig.voters.all voters.contains && voters.all sig.voters.contains

/-! ## The vote collector -/

/-- Modelled from the spec: `VoteCollector` of `state/collection.rs`, the signed votes
(newest first) and the QCs (the one set last for a height, round and type first). -/
structure VoteCollector where
  votes : List SignedVote
  qcs : List AggregatedVote
deriving DecidableEq, Repr

namespace VoteCollector

/-- An empty collector. -/
def new : VoteCollector := ⟨[], []⟩

/-- `insert_vote`: a voter's vote is kept once. -/
def insertVote (c : VoteCollector) (sv : SignedVote) : VoteCollector :=
  if c.votes.any (fun v => v.voter == sv.voter && v.vote == sv.vote) then c
  else { c with votes := sv :: c.votes }

/-- The votes of a height, round and type. -/
def roundVotes (c : VoteCollector) (height round : Nat) (voteType : VoteType) :
    List SignedVote :=
  c.votes.filter fun v =>
    v.vote.height == height && v.vote.round == round && v.vote.voteType == voteType

/-- The votes of a height, round and type for one block hash. -/
def hashVotes (c : VoteCollector) (height round : Nat) (voteType : VoteType) (hash : Hash) :
    List SignedVote :=
  (c.roundVotes height round voteType).filter fun v => v.vote.blockHash == hash

/-- `get_votes`: an error when the collector holds no vote for the hash. -/
def getVotes (c : VoteCollector) (height round : Nat) (voteType : VoteType) (hash : Hash) :
    Except ConsensusError (List SignedVote) :=
  match c.hashVotes height round voteType hash with
  | [] => .error (.storageErr "Can not get votes")
  | votes => .ok votes

/-- Whether the collector holds a vote of the height and round, of either type: the code
keeps a collector for a round from its first vote on. -/
def hasRound (c : VoteCollector) (height round : Nat) : Bool :=
  c.votes.any fun v => v.vote.height == height && v.vote.round == round

/-- The voters of each block hash, hashes in the order first voted. -/
def voteMap (c : VoteCollector) (height round : Nat) (voteType : VoteType) :
    List (Hash × List Address) :=
  ((c.roundVotes height round voteType).reverse.map (·.vote.blockHash)).eraseDups.map
    fun hash => (hash, (c.hashVotes height round voteType hash).map SignedVote.voter)

/-- `get_vote_map`: an error when the collector has no collector for the round. -/
def getVoteMap (c : VoteCollector) (height round : Nat) (voteType : VoteType) :
    Except ConsensusError (List (Hash × List Address)) :=
  if c.hasRound height round then .ok (c.voteMap height round voteType)
  else .error (.storageErr "Can not get vote map")

/-- `set_qc`: the QC replaces the one of its height, round and type. -/
def setQc (c : VoteCollector) (qc : AggregatedVote) : VoteCollector :=
  { c with qcs := qc :: c.qcs.filter fun q =>
      !(q.height == qc.height && q.round == qc.round && q.voteType == qc.voteType) }

/-- `get_qc_by_id`. -/
def getQcById (c : VoteCollector) (height round : Nat) (voteType : VoteType) :
    Except ConsensusError AggregatedVote :=
  match c.qcs.find? fun q => q.height == height && q.round == round && q.voteType == voteType
  with
  | some qc => .ok qc
  | none => .error (.storageErr "QC not found")

/-- `get_qc_by_hash`: the QC of this type set last for the hash at the height. -/
def getQcByHash (c : VoteCollector) (height : Nat) (hash : Hash) (voteType : VoteType) :
    Option AggregatedVote :=
  c.qcs.find? fun q => q.height == height && q.blockHash == hash && q.voteType == voteType

/-- `flush(till)`: keep the heights from `till` on. -/
def flush (c : VoteCollector) (till : Nat) : VoteCollector :=
  ⟨c.votes.filter (fun v => till ≤ v.vote.height), c.qcs.filter (fun q => till ≤ q.height)⟩

/-- `get_height_votes`: the votes and QCs of a height, if any. -/
def getHeightVotes (c : VoteCollector) (height : Nat) :
    Option (List SignedVote × List AggregatedVote) :=
  let votes := c.votes.filter (fun v => v.vote.height == height)
  let qcs := c.qcs.filter (fun q => q.height == height)
  if votes.isEmpty && qcs.isEmpty then none else some (votes, qcs)

theorem getVotes_of_ne_nil {c : VoteCollector} {height round : Nat} {voteType : VoteType}
    {hash : Hash} (h : c.hashVotes height round voteType hash ≠ []) :
    c.getVotes height round voteType hash = .ok (c.hashVotes height round voteType hash) := by
  unfold getVotes
  split
  · contradiction
  · rfl

@[simp] theorem setQc_votes (c : VoteCollector) (qc : AggregatedVote) :
    (c.setQc qc).votes = c.votes := rfl

end VoteCollector

/-! ## The proposal collector -/

/-- Modelled from the spec: `ProposalCollector` of `state/collection.rs`, one signed
proposal for each height and round. -/
structure ProposalCollector where
  proposals : List ((Nat × Nat) × SignedProposal)
deriving DecidableEq, Repr

namespace ProposalCollector

/-- An empty collector. -/
def new : ProposalCollector := ⟨[]⟩

/-- `insert`. -/
def insert (c : ProposalCollector) (height round : Nat) (sp : SignedProposal) :
    ProposalCollector :=
  ⟨mapInsert c.proposals (height, round) sp⟩

/-- `get`. -/
def get (c : ProposalCollector) (height round : Nat) : Option SignedProposal :=
  c.proposals.lookup (height, round)

/-- `get_height_proposals`. -/
def getHeightProposals (c : ProposalCollector) (height : Nat) :
    Option (List SignedProposal) :=
  match c.proposals.filter (fun e => e.1.1 == height) with
  | [] => none
  | ps => some (ps.map Prod.snd)

/-- `flush(till)`: keep the heights from `till` on. -/
def flush (c : ProposalCollector) (till : Nat) : ProposalCollector :=
  ⟨c.proposals.filter fun e => till ≤ e.1.1⟩

end ProposalCollector

/-! ## The authority list -/

/-- Modelled from the spec: `AuthorityManage` of `utils/auth_manage.rs`, the current and
the last authority lists, each sorted by address. -/
structure AuthorityManage where
  current : List Node
  last : List Node
deriving DecidableEq, Repr

namespace AuthorityManage

/-- An empty manager. -/
def new : AuthorityManage := ⟨[], []⟩

/-- A list sorted by address. -/
def sortNodes (nodes : List Node) : List Node :=
  nodes.insertionSort fun a b => a.address ≤ b.address

/-- `update`: the new current list; with `reserve_old`, the old one becomes the last. -/
def update (a : AuthorityManage) (nodes : List Node) (reserveOld : Bool) : AuthorityManage :=
  ⟨sortNodes nodes, if reserveOld then a.current else a.last⟩

/-- `set_last_list`. -/
def setLastList (a : AuthorityManage) (nodes : List Node) : AuthorityManage :=
  { a with last := sortNodes nodes }

/-- The current or the last list. -/
def list (a : AuthorityManage) (isCurrent : Bool) : List Node :=
  if isCurrent then a.current else a.last

/-- `contains`. -/
def contains (a : AuthorityManage) (address : Address) (isCurrent : Bool) : Bool :=
  (a.list isCurrent).any (·.address == address)

/-- The vote weight of the current or the last list. -/
def voteWeightSum (a : AuthorityManage) (isCurrent : Bool) : Nat :=
  ((a.list isCurrent).map Node.voteWeight).sum

/-- `get_vote_weight_sum`: the last list may be missing (the spec's optional `last_auth`,
the empty list here); the current one is always there. -/
def getVoteWeightSum (a : AuthorityManage) (isCurrent : Bool) : Except ConsensusError Nat :=
  if !isCurrent && a.last.isEmpty then .error (.other "There is no last authority list")
  else .ok (a.voteWeightSum isCurrent)

@[simp] theorem getVoteWeightSum_current (a : AuthorityManage) :
    a.getVoteWeightSum true = .ok (a.voteWeightSum true) := rfl

/-- `get_vote_weight` in the current list. -/
def getVoteWeight (a : AuthorityManage) (address : Address) : Except ConsensusError Nat :=
  match a.current.find? (·.address == address) with
  | some n => .ok n.voteWeight
  | none => .error .invalidAddress

/-- `get_voters`: the addresses the bitmap marks. -/
def getVoters (a : AuthorityManage) (bitmap : List Bool) (isCurrent : Bool) : List Address :=
  ((a.list isCurrent).zip bitmap).filterMap fun e => if e.2 then some e.1.address else none

/-- `is_above_threshold`: the marked voters hold more than two thirds of the vote weight. -/
def isAboveThreshold (a : AuthorityManage) (bitmap : List Bool) (isCurrent : Bool) : Bool :=
  let marked := ((a.list isCurrent).zip bitmap).filter (·.2)
  2 * a.voteWeightSum isCurrent < 3 * (marked.map (·.1.voteWeight)).sum

/-- `get_addres_ref`: the current addresses in order. -/
def getAddresRef (a : AuthorityManage) : List Address := a.current.map Node.address

end AuthorityManage

end Overlord
