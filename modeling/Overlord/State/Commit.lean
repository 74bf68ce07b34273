import Overlord.State.Wal

/-!
# The proof of a commit

`handle_commit` builds the proof it hands to `Consensus::commit` from the State's height
and round and the signature of the precommit QC it holds for the hash, and saves the WAL
in the commit step with a lock of the State's round on that QC (`handleCommit_commits`).
The QC's own round is never read. `Peer.runState_commit` is the same turn seen from the
replica: its commits gain that proof, and its WAL holds that record.

`handle_aggregated_vote` keeps a precommit QC of the current height whatever its round, so
a replica that lags a round commits with a proof of its own round and the signature of a
QC of another. `laggingCommit_run` is such a run of four honest replicas: replica `3`,
left at round `0`, commits on the precommit QC of round `1`, its last move taken from
`Peer.runState_commit`.
-/

namespace Overlord

namespace State

variable (env : Adapter) (s : State)

/-- **`handle_commit` proves with its own round.** With the block and a precommit QC of the
hash at hand, and a WAL that saves, `handle_commit` saves the WAL in the commit step with a
lock of the State's round on the QC, then commits with the proof of the State's height and
round carrying the QC's signature, whatever round the QC is of; once committed, it sends
its SMR to the height of the status the application answers. -/
theorem handleCommit_commits (hash : Hash) (content : Block) (qc : AggregatedVote)
    (hc : s.hashWithBlock.lookup hash = some content)
    (hq : s.votes.getQcByHash s.height hash .precommit = some qc)
    (hw : env.walSave ⟨s.height, s.round, .commit, some ⟨s.round, qc, content⟩⟩ = true) :
    (post (handleCommit env hash) s).out = s.out ++
      [.saveWal ⟨s.height, s.round, .commit, some ⟨s.round, qc, content⟩⟩,
        .commit s.height ⟨s.height, content, ⟨s.height, s.round, hash, qc.signature⟩⟩] ++
      match env.commit s.height ⟨s.height, content, ⟨s.height, s.round, hash, qc.signature⟩⟩ with
      | .ok status => [.trigger (newHeightTrigger status.height)]
      | .error _ => [] := by
  rcases hC : env.commit s.height ⟨s.height, content, ⟨s.height, s.round, hash, qc.signature⟩⟩
    with err | status
  · simp [handleCommit, post, hc, hq, hw, saveWal, emit, hC]
  · simp [handleCommit, post_bind, hc, hq, hw, saveWal, emit, hC, gotoNewHeight_out]

end State

namespace Peer

/-- **A replica's turn on a `Commit` event.** With the block and a precommit QC of the hash
at hand, and a WAL that saves, the replica's commits gain the proof of its State's height
and round with the QC's signature, and its WAL holds the commit step with a lock of the
State's round on the QC. -/
theorem runState_commit (p : Peer) (env : Adapter) (rest : List SMREvent) (hash : Hash)
    (content : Block) (qc : AggregatedVote)
    (hc : p.state.hashWithBlock.lookup hash = some content)
    (hq : p.state.votes.getQcByHash p.state.height hash .precommit = some qc)
    (hw : env.walSave ⟨p.state.height, p.state.round, .commit,
      some ⟨p.state.round, qc, content⟩⟩ = true) :
    ({ p with events := rest }.runState (State.handleEvent env (.commit hash))).1.commits =
        p.commits ++
          [⟨p.state.height, content, ⟨p.state.height, p.state.round, hash, qc.signature⟩⟩] ∧
      ({ p with events := rest }.runState (State.handleEvent env (.commit hash))).1.wal =
        some ⟨p.state.height, p.state.round, .commit, some ⟨p.state.round, qc, content⟩⟩ := by
  obtain ⟨live, hrs⟩ :=
    runState_fst { p with events := rest } (State.handleEvent env (.commit hash))
  have hout := State.handleCommit_commits env { p.state with out := [] } hash content qc hc hq hw
  rw [hrs, State.handleEvent, post_tryCatch_pure, hout]
  split <;> simp [commits, absorb]

end Peer

namespace World

/-- After `quartetStart`: round `0` locks replicas `0`, `1` and `2` but its precommits are
lost; they time out to round `1`, whose leader, replica `2`, proposes the locked block with
its proof of lock; the three prevote and precommit it, and the precommit QC of round `1`
reaches replica `3`, still at round `0`, which commits. -/
def laggingCommit : List Action :=
  quartetStart ++
  [.event 1, .event 0, .event 2, .deliver 1 3, .deliver 1 4, .deliver 0 5, .deliver 2 6,
    .smr 0, .smr 1, .smr 2, .event 0, .event 1, .event 2] ++
  [.timer 0, .timer 0, .timer 0, .fire 0 2, .smr 0, .event 0,
    .timer 1, .timer 1, .timer 1, .fire 1 2, .smr 1, .event 1,
    .timer 2, .timer 2, .timer 2, .fire 2 2, .smr 2, .event 2] ++
  [.deliver 0 10, .deliver 1 11, .resp 0 0, .resp 1 0, .resp 2 0, .smr 0, .smr 1, .smr 2,
    .event 2, .event 0, .event 1, .deliver 2 13, .deliver 2 14, .deliver 0 15, .deliver 1 16] ++
  [.smr 0, .smr 1, .smr 2, .event 2, .event 0, .event 1, .deliver 2 18, .deliver 2 19,
    .deliver 3 22, .smr 3, .event 3, .event 3]

set_option maxRecDepth 1000 in
theorem laggingCommit_run :
    (quartet.run quartetEnv laggingCommit).map (fun w => w.peers[3]?.map fun p =>
      (p.commits.map Commit.proof,
        (p.wal.bind WalInfo.lock).map fun l => (l.lockRound, l.lockVotes.round))) =
      some (some ([⟨1, 0, [20, 1],
          ⟨⟨[[1], [0], [2]], ⟨1, 1, .precommit, [20, 1]⟩⟩, [true, true, true, false]⟩⟩],
        some (0, 1))) := by
  obtain ⟨w, hw, hv⟩ := Option.map_eq_some'.mp (by decide :
    (quartet.run quartetEnv laggingCommit.dropLast).map (fun w => w.peers[3]?.map fun p =>
      (p.stateLive && (p.state.hashWithBlock.lookup [20, 1]).isSome && p.commits.isEmpty &&
        p.events.head? == some (.commit [20, 1]) && p.state.height == 1 && p.state.round == 0,
        (p.state.votes.getQcByHash 1 [20, 1] .precommit).map fun qc => (qc.signature, qc.round))) =
      some (some (true, some (⟨⟨[[1], [0], [2]], ⟨1, 1, .precommit, [20, 1]⟩⟩,
        [true, true, true, false]⟩, 1))))
  obtain ⟨p, hp, hq⟩ := Option.map_eq_some'.mp hv
  simp only [Prod.mk.injEq, Bool.and_eq_true, beq_iff_eq, List.isEmpty_iff,
    Option.isSome_iff_exists] at hq
  obtain ⟨⟨⟨⟨⟨⟨hlive, content, hc⟩, hnil⟩, he⟩, h1⟩, h0⟩, hqc⟩ := hq
  obtain ⟨qc, hq, hsig⟩ := Option.map_eq_some'.mp hqc
  simp only [Prod.mk.injEq] at hsig
  obtain ⟨w', hstep, hpeers⟩ := step_event quartetEnv hp hlive (List.eq_cons_of_mem_head? he)
  obtain ⟨hcommits, hwal⟩ := Peer.runState_commit p (quartetEnv p.state.address) _ _ content qc hc
    (by rw [h1]; exact hq) rfl
  rw [show laggingCommit = laggingCommit.dropLast ++ [.event 3] from rfl, run_snoc hw, hstep,
    Option.map_some', hpeers, List.getElem?_set_self (List.getElem?_eq_some_iff.mp hp).1,
    Option.map_some', hcommits, hwal, hnil]
  simp [h1, h0, hsig]

end World

end Overlord
