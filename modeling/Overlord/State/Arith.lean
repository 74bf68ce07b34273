import Overlord.State.Height

/-!
# The machine arithmetic of the State

Two places where the State's fixed-width arithmetic is not the arithmetic the spec states.

`counting_vote` adds the vote weights of a hash's voters in a `u8` (`let mut acc = 0u8`).
The model takes the wrapping addition of a release build (a debug build panics instead):
the weight it compares with the threshold is the sum of the voters' weights modulo `256`
(`voteWeight_mod`). Below `256` the count is exact (`countingVote_exact`);
`heavyVoters_countingVote` is a hash whose voters carry more than two thirds of the weight
and that `counting_vote` does not find.

`self.height - 1` is a `u64` subtraction, `u64Pred` in the model, which wraps at `0`
(`u64Pred_zero`). The State starts at `INIT_HEIGHT`, `0`, and its loop takes network
messages before any rich status: `filter_signed_proposal` then computes `0 - 1`, and
drops every proposal as outdated (`initialProposal_underflow`).
-/

namespace Overlord

namespace State

/-! ## The `u8` vote weight -/

section Weight

variable (a : AuthorityManage)

/-- The accumulator of `counting_vote`, from any `u8` value on. -/
theorem foldlM_voteWeight {voters : List Address} (wt : Address → Nat)
    (hw : ∀ v ∈ voters, a.getVoteWeight v = .ok (wt v)) {acc : Nat} (hacc : acc < 256) :
    voters.foldlM (fun acc addr => do return (acc + (← a.getVoteWeight addr)) % 256) acc =
      .ok ((acc + (voters.map wt).sum) % 256) := by
  induction voters generalizing acc with
  | nil => simp [Nat.mod_eq_of_lt hacc, pure, Except.pure]
  | cons v vs ih =>
    have hv := hw v (List.mem_cons_self v vs)
    have hrest := ih (fun v' h => hw v' (List.mem_cons_of_mem v h))
      (Nat.mod_lt (acc + wt v) (by decide : 256 > 0))
    simp only [List.foldlM_cons, hv, bind, Except.bind, pure, Except.pure] at hrest ⊢
    rw [hrest, Nat.mod_add_mod, List.map_cons, List.sum_cons, Nat.add_assoc]

/-- **`counting_vote` weighs modulo `256`.** When every voter has a vote weight, the weight
`counting_vote` gives a voter set is the sum of their weights modulo `256`. -/
theorem voteWeight_mod {voters : List Address} (wt : Address → Nat)
    (hw : ∀ v ∈ voters, a.getVoteWeight v = .ok (wt v)) :
    voteWeight a voters = .ok ((voters.map wt).sum % 256) := by
  simpa [voteWeight] using foldlM_voteWeight a wt hw (by decide : 0 < 256)

/-- Below `256` the accumulator is exact: `firstAbove` finds the first hash whose voters
weigh more than a third of the threshold. -/
theorem firstAbove_exact (threshold : Nat) {vm : List (Hash × List Address)} (wt : Address → Nat)
    (hw : ∀ p ∈ vm, ∀ v ∈ p.2, a.getVoteWeight v = .ok (wt v))
    (hs : ∀ p ∈ vm, (p.2.map wt).sum < 256) :
    firstAbove a threshold vm =
      .ok ((vm.find? fun p => threshold < (p.2.map wt).sum * 3).map Prod.fst) := by
  induction vm with
  | nil => rfl
  | cons p vm ih =>
    obtain ⟨hash, voters⟩ := p
    have hp := voteWeight_mod a wt (hw _ (List.mem_cons_self _ _))
    rw [Nat.mod_eq_of_lt (hs _ (List.mem_cons_self _ _))] at hp
    have hrest := ih (fun q hq => hw q (List.mem_cons_of_mem _ hq))
      (fun q hq => hs q (List.mem_cons_of_mem _ hq))
    by_cases hc : threshold < (voters.map wt).sum * 3 <;>
      simp [firstAbove, hp, hc, hrest, bind, Except.bind, pure, Except.pure]

end Weight

/-- **Quorum counting is exact below the `u8` range.** With no vote of the current height
and round, `counting_vote` fails as the collector's `get_vote_map` does. Otherwise, when the
voters of each hash of the current height, round and vote type weigh less than `256` in
all, it returns the first hash whose voters carry more than two thirds of the total weight,
if any. Either way it leaves the State as it was. -/
theorem countingVote_exact (voteType : VoteType) (s : State) (wt : Address → Nat)
    (hw : ∀ p ∈ s.votes.voteMap s.height s.round voteType, ∀ v ∈ p.2,
      s.authority.getVoteWeight v = .ok (wt v))
    (hs : ∀ p ∈ s.votes.voteMap s.height s.round voteType, (p.2.map wt).sum < 256) :
    (countingVote voteType).run s =
      if s.votes.hasRound s.height s.round then
        .ok (((s.votes.voteMap s.height s.round voteType).find? fun p =>
          s.authority.voteWeightSum true * 2 < (p.2.map wt).sum * 3).map Prod.fst) s
      else .error (.storageErr "Can not get vote map") s := by
  by_cases h : s.votes.hasRound s.height s.round <;>
    simp only [countingVote, VoteCollector.getVoteMap, h, Bool.false_eq_true, ite_true, ite_false,
      run_bind, run_get, run_lift_ok, run_lift_error, AuthorityManage.getVoteWeightSum_current,
      firstAbove_exact _ _ wt hw hs]

/-- Two validators, `[0]` and `[1]`, of vote weight `128`. -/
def heavyNodes : List Node := [⟨[0], 1, 128⟩, ⟨[1], 1, 128⟩]

/-- The prevote of `voter` for block `[5]` at height `1`, round `0`. -/
def heavyVote (voter : Address) : SignedVote :=
  ⟨sign voter ⟨1, 0, .prevote, [5]⟩, ⟨1, 0, .prevote, [5]⟩, voter⟩

/-- Validator `[0]` at height `1`, round `0`, holding the prevotes of both validators. -/
def heavyVoters : State :=
  { State.new [0] 3000 heavyNodes with
    height := 1
    votes := (VoteCollector.new.insertVote (heavyVote [0])).insertVote (heavyVote [1]) }

/-- Both validators prevote `[5]`: their weight, `256`, is more than two thirds of the
total, `256`, but the `u8` accumulator wraps to `0` and `counting_vote` finds no hash. -/
theorem heavyVoters_countingVote :
    heavyVoters.authority.getVoteWeightSum true = .ok 256 ∧
    heavyVoters.votes.getVoteMap heavyVoters.height heavyVoters.round .prevote =
      .ok [([5], [[1], [0]])] ∧
    (countingVote .prevote).run heavyVoters = .ok none heavyVoters :=
  ⟨rfl, rfl, rfl⟩

/-- Two validators of vote weight `1`, `[0]` and `[1]`. -/
def lightNodes : List Node := [⟨[0], 1, 1⟩, ⟨[1], 1, 1⟩]

/-- Validator `[0]` at height `1`, round `0`, holding the prevotes of both for `[5]`. -/
def lightVoters : State :=
  { State.new [0] 3000 lightNodes with
    height := 1
    votes := (VoteCollector.new.insertVote (heavyVote [0])).insertVote (heavyVote [1]) }

/-- The same two prevotes with weight `1` each: `counting_vote` finds `[5]`. -/
theorem countingVote_exact_lightVoters :
    (∀ p ∈ lightVoters.votes.voteMap lightVoters.height lightVoters.round .prevote,
      ∀ v ∈ p.2, lightVoters.authority.getVoteWeight v = .ok 1) ∧
    (∀ p ∈ lightVoters.votes.voteMap lightVoters.height lightVoters.round .prevote,
      (p.2.map fun _ => 1).sum < 256) ∧
    (countingVote .prevote).run lightVoters =
      if lightVoters.votes.hasRound lightVoters.height lightVoters.round then
        .ok (((lightVoters.votes.voteMap lightVoters.height lightVoters.round .prevote).find?
          fun p => lightVoters.authority.voteWeightSum true * 2 < (p.2.map fun _ => 1).sum * 3
          ).map Prod.fst) lightVoters
      else .error (.storageErr "Can not get vote map") lightVoters :=
  have hm : lightVoters.votes.voteMap lightVoters.height lightVoters.round .prevote =
      [([5], [[1], [0]])] := rfl
  have hw : ∀ p ∈ lightVoters.votes.voteMap lightVoters.height lightVoters.round .prevote,
      ∀ v ∈ p.2, lightVoters.authority.getVoteWeight v = .ok 1 := by
    rw [hm]
    intro p hp v hv
    obtain rfl := List.mem_singleton.mp hp
    rcases List.mem_pair.mp hv with rfl | rfl <;> rfl
  have hs : ∀ p ∈ lightVoters.votes.voteMap lightVoters.height lightVoters.round .prevote,
      (p.2.map fun _ => 1).sum < 256 := by
    rw [hm]; decide
  ⟨hw, hs, countingVote_exact .prevote lightVoters (fun _ => 1) hw hs⟩

/-! ## The `u64` height before the first status -/

theorem u64Pred_zero : u64Pred 0 = 2 ^ 64 - 1 := rfl

/-- **A proposal before the first status.** The State starts at `INIT_HEIGHT`, `0`, and
`filter_signed_proposal` first compares a proposal's height with `self.height - 1`, which
wraps to `2^64 - 1`: every proposal of a lower height is dropped as outdated, with no
error, nothing cached and nothing handed out. -/
theorem initialProposal_underflow (env : Adapter) (address : Address) (interval : Nat)
    (authorityList : List Node) (sp : SignedProposal) (hh : sp.proposal.height < 2 ^ 64 - 1) :
    (State.new address interval authorityList).height = 0 ∧
    u64Pred (State.new address interval authorityList).height = 2 ^ 64 - 1 ∧
    (handleMsg env (.signedProposal sp)).run (State.new address interval authorityList) =
      .ok () (State.new address interval authorityList) := by
  refine ⟨rfl, rfl, ?_⟩
  have hf : (filterSignedProposal sp.proposal.height sp.proposal.round sp).run
      (State.new address interval authorityList) = .ok true (State.new address interval authorityList) := by
    simp only [filterSignedProposal, State.new, INIT_HEIGHT, run_bind, run_get, u64Pred_zero,
      decide_eq_true hh, Bool.true_or, ↓reduceIte, run_pure]
  simp only [handleMsg, handleSignedProposal, run_tryCatch, run_bind, hf, ↓reduceIte, run_pure]

/-- The first proposal of the single validator, for height `1`, reaches it before its
first status. -/
theorem initialProposal_underflow_solo :
    (⟨sign [1] ⟨1, 0, [7], [9], none, [1]⟩, ⟨1, 0, [7], [9], none, [1]⟩⟩ :
      SignedProposal).proposal.height < 2 ^ 64 - 1 ∧
    (State.new [1] 3000 World.soloNodes).height = 0 ∧
    u64Pred (State.new [1] 3000 World.soloNodes).height = 2 ^ 64 - 1 ∧
    (handleMsg (World.soloEnv [1])
      (.signedProposal ⟨sign [1] ⟨1, 0, [7], [9], none, [1]⟩, ⟨1, 0, [7], [9], none, [1]⟩⟩)).run
      (State.new [1] 3000 World.soloNodes) = .ok () (State.new [1] 3000 World.soloNodes) :=
  have hh : (⟨sign [1] ⟨1, 0, [7], [9], none, [1]⟩, ⟨1, 0, [7], [9], none, [1]⟩⟩ :
      SignedProposal).proposal.height < 2 ^ 64 - 1 := by decide
  ⟨hh, initialProposal_underflow (World.soloEnv [1]) [1] 3000 World.soloNodes _ hh⟩

end State

end Overlord
