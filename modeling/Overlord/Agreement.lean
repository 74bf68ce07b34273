import Overlord.State.Commit

/-!
# Agreement across replicas

A proof of lock lets a locked replica unlock. `handle_signed_proposal` checks the weight
and the aggregate signature of the QC a proposal carries as its lock, and passes to the SMR
the lock round the proposer wrote, whatever the QC's own round and hash
(`handleSignedProposal_lockRound`). A locked SMR unlocks on any lock round above its lock's
and prevotes the proposal's hash (`StateMachine.handleProposal_locked`).

So a Byzantine leader can unlock the honest replicas with any prevote QC of the height it
has seen, by writing a higher lock round over it: in `forgedLock_run` the last move, taken
from `handleSignedProposal_lockRound`, hands such a lock round to a replica's SMR.
`splitCommit_run` is such a run of four validators, one of them Byzantine: at height `1`,
replica `[1]` commits the block of round `0`, whose precommit QC the others never get; the
Byzantine leader of round `1` unlocks them with the prevote QC of round `0` given as a lock
of round `1`, and they commit another block at height `1`, the two last moves, as
`Peer.runState_commit` says.
-/

namespace Overlord

namespace State

variable (env : Adapter) (s : State)

/-- **A proof of lock passes its written lock round.** A proposal of the current height
and round, from the round's proposer, whose lock QC has the weight and verifies as a
prevote QC, triggers the SMR with the lock round the proposal gives, whatever the round
and the hash of the QC. -/
theorem handleSignedProposal_lockRound (sp : SignedProposal) (polc : PoLC)
    (hl : sp.proposal.lock = some polc) (h0 : 0 < s.height) (hh : sp.proposal.height = s.height)
    (hr : sp.proposal.round = s.round)
    (hp : s.verifyProposer env s.height s.round sp.proposal.proposer true = .ok ())
    (hs : verifySignature sp.signature sp.proposal sp.proposal.proposer .signedProposal = .ok ())
    (ht : s.authority.isAboveThreshold polc.lockVotes.signature.addressBitmap true = true)
    (hv : s.verifyAggregatedSignature polc.lockVotes.signature polc.lockVotes.toVote s.height
      .prevote = .ok ()) :
    (post (handleSignedProposal env sp) s).out = s.out ++
      [.trigger ⟨.proposal, .state, sp.proposal.blockHash, some polc.lockRound, s.height, none⟩,
        .checkBlock s.height sp.proposal.blockHash sp.proposal.content] := by
  have hf : ¬ s.height < u64Pred s.height := by simp [u64Pred_of_pos h0]
  have hn : s.height ≠ u64Pred s.height := by rw [u64Pred_of_pos h0]; omega
  have hgh : ¬ s.height + FUTURE_HEIGHT_GAP < s.height := by omega
  have hgr : ¬ s.round + FUTURE_ROUND_GAP < s.round := by omega
  simp only [post, handleSignedProposal, filterSignedProposal, hh, hr, Bool.or_eq_true,
    decide_eq_true_eq, Bool.and_eq_true, beq_iff_eq, bne_iff_ne, ne_eq, bind_pure_comp, map_pure,
    pure_bind, lift, hs, id_map', hl, Bool.not_eq_eq_eq_not, Bool.not_true, String.reduceAppend,
    trigger, emit, checkBlock, bind_assoc, run_bind, run_get, hf, lt_self_iff_false, and_false,
    or_self, ↓reduceIte, hgh, hgr, false_and, not_true_eq_false, Bool.false_eq_true,
    beq_self_eq_true, hp, hn, ht, Bool.true_eq_false, hv, run_set, run_modify, List.append_assoc,
    List.singleton_append]

end State

namespace World

/-- Replicas `[0]`, `[1]` and `[3]` honest and just started, `[2]` Byzantine. -/
def byzantineQuartet : World :=
  init quartetEnv [[0], [1], [3]] [[2]] 100 quartetNodes

/-- The prevote QC of round `0` for the block of replica `[1]`, which replica `[1]` builds
and sends to every replica. -/
def roundZeroQc : AggregatedVote :=
  ⟨⟨⟨[[3], [0], [1]], ⟨1, 0, .prevote, [20, 1]⟩⟩, [true, true, false, true]⟩, .prevote, 1, 0,
    [20, 1], [1]⟩

/-- The Byzantine proposal of round `1`: a new block, with the QC of round `0` given as a
lock of round `1`. -/
def splitProposal : Proposal := ⟨1, 1, [12], [22], some ⟨1, roundZeroQc⟩, [2]⟩

/-- A QC of round `1` for the Byzantine block, which the Byzantine replica aggregates from
the votes of replicas `[0]` and `[3]` and its own. -/
def splitQc (voteType : VoteType) : AggregatedVote :=
  ⟨⟨⟨[[0], [3], [2]], ⟨1, 1, voteType, [22]⟩⟩, [true, false, true, true]⟩, voteType, 1, 1, [22],
    [2]⟩

/-- Round `0` of height `1`: replica `[1]` proposes, the honest replicas prevote and lock,
and only replica `[1]` gets the precommits, so it alone commits. The two others time out
to round `1`, whose leader is the Byzantine replica: its proposal unlocks them, and they
prevote, precommit and commit its block. -/
def splitCommit : List Action :=
  [.status 0 quartetStatus, .status 1 quartetStatus, .status 2 quartetStatus,
    .smr 0, .smr 1, .smr 2, .event 0, .event 1, .event 2,
    .deliver 0 0, .deliver 2 1, .resp 0 0, .resp 1 0, .resp 2 0, .smr 0, .smr 1, .smr 2,
    .event 0, .event 1, .event 2, .deliver 1 3, .deliver 1 4] ++
  [.deliver 0 5, .deliver 2 6, .smr 0, .smr 1, .smr 2, .event 0, .event 1, .event 2,
    .deliver 1 8, .deliver 1 9, .smr 1, .event 1] ++
  [.timer 0, .timer 0, .timer 0, .fire 0 2, .smr 0, .event 0,
    .timer 2, .timer 2, .timer 2, .fire 2 2, .smr 2, .event 2] ++
  [.inject 0 (.signedProposal ⟨sign [2] splitProposal, splitProposal⟩),
    .inject 2 (.signedProposal ⟨sign [2] splitProposal, splitProposal⟩),
    .resp 0 0, .resp 2 0, .smr 0, .smr 2, .event 0, .event 2,
    .inject 0 (.aggregatedVote (splitQc .prevote)), .inject 2 (.aggregatedVote (splitQc .prevote)),
    .smr 0, .smr 2, .event 0, .event 2,
    .inject 0 (.aggregatedVote (splitQc .precommit)),
    .inject 2 (.aggregatedVote (splitQc .precommit)), .smr 0, .smr 2, .event 0, .event 2]

/-- The proof of lock of `splitProposal` is the prevote QC of round `0` for block `[20, 1]`,
written as a lock of round `1` over block `[22]`. Replica `0`, timed out to round `1`,
checks its weight and its signature and hands it to its SMR as a proposal of `[22]` with
lock round `1`. -/
theorem forgedLock_run :
    splitProposal.lock = some ⟨1, roundZeroQc⟩ ∧ roundZeroQc.round = 0 ∧
    roundZeroQc.blockHash ≠ splitProposal.blockHash ∧
    (byzantineQuartet.run quartetEnv (splitCommit.take 47)).map
      (fun w => w.peers[0]?.map fun p => p.triggers.getLast?) =
      some (some (some ⟨.proposal, .state, [22], some 1, 1, none⟩)) := by
  refine ⟨rfl, rfl, by decide, ?_⟩
  obtain ⟨w, hw, hv⟩ := Option.map_eq_some'.mp (by decide :
    (byzantineQuartet.run quartetEnv (splitCommit.take 46)).map (fun w => w.peers[0]?.map fun p =>
      (p.stateLive && w.forgeable (.signedProposal ⟨sign [2] splitProposal, splitProposal⟩) &&
        p.state.authority.isAboveThreshold roundZeroQc.signature.addressBitmap true &&
        (p.state.verifyProposer (quartetEnv p.state.address) p.state.height p.state.round [2]
          true).isOk &&
        (p.state.verifyAggregatedSignature roundZeroQc.signature roundZeroQc.toVote p.state.height
          .prevote).isOk, p.state.height, p.state.round)) = some (some (true, 1, 1)))
  obtain ⟨p, hp, hq⟩ := Option.map_eq_some'.mp hv
  simp only [Prod.mk.injEq, Bool.and_eq_true] at hq
  obtain ⟨⟨⟨⟨⟨hlive, hforge⟩, ht⟩, hprop⟩, hagg⟩, h1, hr1⟩ := hq
  obtain ⟨w', hstep, hpeers⟩ := step_inject quartetEnv hp hlive hforge
  have hout := State.handleSignedProposal_lockRound (quartetEnv p.state.address)
    { p.state with out := [] } ⟨sign [2] splitProposal, splitProposal⟩ ⟨1, roundZeroQc⟩ rfl
    (by simp [h1]) (by simp [h1, splitProposal]) (by simp [hr1, splitProposal]) (ok_of_isOk hprop)
    rfl ht (ok_of_isOk hagg)
  obtain ⟨live, hrs⟩ := Peer.runState_fst p (State.handleMsg (quartetEnv p.state.address)
    (.signedProposal ⟨sign [2] splitProposal, splitProposal⟩))
  rw [show splitCommit.take 47 = splitCommit.take 46 ++
    [.inject 0 (.signedProposal ⟨sign [2] splitProposal, splitProposal⟩)] from rfl, run_snoc hw,
    hstep, Option.map_some', hpeers, List.getElem?_set_self (List.getElem?_eq_some_iff.mp hp).1,
    Option.map_some', hrs, State.handleMsg, post_tryCatch_pure, hout]
  simp [Peer.absorb, h1, splitProposal]

theorem splitCommit_run :
    (byzantineQuartet.run quartetEnv splitCommit).map (fun w => w.peers.map fun p =>
      p.commits.map fun c => (c.height, c.proof.blockHash)) =
      some [[(1, [22])], [(1, [20, 1])], [(1, [22])]] := by
  obtain ⟨w, hw, hv⟩ := Option.map_eq_some'.mp (by decide :
    (byzantineQuartet.run quartetEnv splitCommit.dropLast.dropLast).map (fun w =>
      (w.peers.map fun p => p.commits.map fun c => (c.height, c.proof.blockHash),
        [0, 2].map fun i => w.peers[i]?.map fun p =>
          p.stateLive && (p.state.hashWithBlock.lookup [22]).isSome && p.commits.isEmpty &&
            (p.state.votes.getQcByHash 1 [22] .precommit).isSome &&
            p.events.head? == some (.commit [22]) && p.state.height == 1)) =
      some ([[], [(1, [20, 1])], []], [some true, some true]))
  simp only [Prod.mk.injEq, List.map_cons, List.map_nil, List.cons.injEq, and_true] at hv
  obtain ⟨hmap, hv0, hv2⟩ := hv
  obtain ⟨p0, hp0, hq0⟩ := Option.map_eq_some'.mp hv0
  obtain ⟨p2, hp2, hq2⟩ := Option.map_eq_some'.mp hv2
  simp only [Bool.and_eq_true, beq_iff_eq, List.isEmpty_iff, Option.isSome_iff_exists] at hq0 hq2
  obtain ⟨⟨⟨⟨⟨hl0, c0, hc0⟩, hn0⟩, q0, hqc0⟩, he0⟩, h0⟩ := hq0
  obtain ⟨⟨⟨⟨⟨hl2, c2, hc2⟩, hn2⟩, q2, hqc2⟩, he2⟩, h2⟩ := hq2
  obtain ⟨w1, hstep1, hpeers1⟩ := step_event quartetEnv hp0 hl0 (List.eq_cons_of_mem_head? he0)
  have hp2' : w1.peers[2]? = some p2 := by rw [hpeers1, List.getElem?_set_ne (by decide)]; exact hp2
  obtain ⟨w2, hstep2, hpeers2⟩ := step_event quartetEnv hp2' hl2 (List.eq_cons_of_mem_head? he2)
  have hw1 : byzantineQuartet.run quartetEnv (splitCommit.dropLast.dropLast ++ [.event 0]) =
      some w1 := by rw [run_snoc hw, hstep1]
  obtain ⟨hcommits0, -⟩ := Peer.runState_commit p0 (quartetEnv p0.state.address) _ _ c0 q0 hc0
    (by rw [h0]; exact hqc0) rfl
  obtain ⟨hcommits2, -⟩ := Peer.runState_commit p2 (quartetEnv p2.state.address) _ _ c2 q2 hc2
    (by rw [h2]; exact hqc2) rfl
  rw [show splitCommit = splitCommit.dropLast.dropLast ++ [.event 0] ++ [.event 2] from rfl,
    run_snoc hw1, hstep2, Option.map_some', hpeers2, hpeers1, List.map_set, List.map_set, hmap,
    hcommits0, hcommits2, hn0, hn2, h0, h2]
  rfl

end World

end Overlord
