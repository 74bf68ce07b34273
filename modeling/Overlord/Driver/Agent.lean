import Overlord.Driver.Wal

/-!
# The event agent: timeouts and fetches

`EventAgent::compute_timeout` against the formula of the spec, `specTimeout`: for the vote
steps `interval · ratio / 10 · 2^min(round, 5)`, for the brake step
`interval · brake_ratio / 10`, and for the commit step what is left of the interval since
the height started, if anything. On the vote steps the code casts the round to a `u32`
before `apply_power`, so the back-off starts over every `2^32` rounds: at round `2^32` the
timeout falls to the round-`0` one, a 32nd of the capped timeout of the round before
(`computeTimeout_roundWrap`). On the commit step it computes `cost.checked_sub(interval)`,
the time since the interval ran out: it arms the commit timer exactly when the formula
arms none (`commitTimeout_reversed`), so an early node goes to the next height at once
and a late one waits.

`EventAgent::request_full_block` spawns a fetch unless the hash is in `fetch_set`, and
never puts it there (`requestFullBlock_post`): the same block asked for twice in a height
is fetched twice (`duplicateProposal_fetches`).
-/

namespace Overlord

namespace Driver

/-! ## Timeouts -/

/-- The timeout the spec gives a stage, `elapsed` after the height started. -/
def specTimeout (config : TimeConfig) (elapsed : Nat) (stage : Stage) : Option Nat :=
  match stage.step with
  | .propose => some (config.interval * config.proposeRatio / TIME_DIVISOR *
      2 ^ min stage.round POWER_CAP)
  | .preVote => some (config.interval * config.preVoteRatio / TIME_DIVISOR *
      2 ^ min stage.round POWER_CAP)
  | .preCommit => some (config.interval * config.preCommitRatio / TIME_DIVISOR *
      2 ^ min stage.round POWER_CAP)
  | .brake => some (config.interval * config.brakeRatio / TIME_DIVISOR)
  | .commit => if elapsed < config.interval then some (config.interval - elapsed) else none

example : (⟨⟨3000, 3, 3, 3, 3⟩, 0, []⟩ : Agent).computeTimeout 0 ⟨1, 2 ^ 32 - 1, .preVote⟩ =
      some 28800 ∧
    (⟨⟨3000, 3, 3, 3, 3⟩, 0, []⟩ : Agent).computeTimeout 0 ⟨1, 2 ^ 32, .preVote⟩ = some 900 := by
  decide

/-- **The commit throttle is reversed.** For every configuration, start time, time and
stage of the commit step, `compute_timeout` arms the commit timer exactly when the formula
arms none: the time it waits is what has passed since the interval ran out. -/
theorem commitTimeout_reversed (a : Agent) (now height round : Nat) :
    (a.computeTimeout now ⟨height, round, .commit⟩).isSome =
      (specTimeout a.timeConfig (now - a.startTime) ⟨height, round, .commit⟩).isNone := by
  simp only [Agent.computeTimeout, specTimeout]
  split_ifs <;> first | rfl | omega

/-- An interval of `3000`: a node `1000` after the height started gets no timer, where the
formula waits `2000`; a node `5000` after waits `2000`, where the formula waits for none. -/
example :
    (⟨⟨3000, 3, 3, 3, 3⟩, 0, []⟩ : Agent).computeTimeout 1000 ⟨1, 0, .commit⟩ = none ∧
    specTimeout ⟨3000, 3, 3, 3, 3⟩ 1000 ⟨1, 0, .commit⟩ = some 2000 ∧
    (⟨⟨3000, 3, 3, 3, 3⟩, 0, []⟩ : Agent).computeTimeout 5000 ⟨1, 0, .commit⟩ = some 2000 ∧
    specTimeout ⟨3000, 3, 3, 3, 3⟩ 5000 ⟨1, 0, .commit⟩ = none := by
  decide

/-! ## Fetches -/

variable {σ κ α ρ : Type}

/-- `request_full_block` spawns the fetch of a block whose hash is not in `fetch_set`, and
leaves `fetch_set` as it was. -/
theorem requestFullBlock_post (block : Blk) (d : Smr σ κ α ρ) :
    post (requestFullBlock block : DriverM σ κ α ρ Unit) d =
      if block.blockHash ∈ d.agent.fetchSet then d
      else { d with trace := d.trace ++ [.fetch block.height block.blockHash] } := by
  by_cases h : block.blockHash ∈ d.agent.fetchSet <;>
    simp [post, requestFullBlock, record, h, List.elem_iff]

/-- **A block asked for twice is fetched twice.** The same proposal of block `[5]`, delivered
twice at height `1` with no fetch result in between, spawns two fetches of `[5]`. -/
theorem duplicateProposal_fetches :
    ((post (run trustingEnv [(0, .net (.signedProposal trustingProposal)),
        (0, .net (.signedProposal trustingProposal))]) trustingDriver).trace.count
      (.fetch 1 [5])) = 2 ∧
    (post (run trustingEnv [(0, .net (.signedProposal trustingProposal)),
        (0, .net (.signedProposal trustingProposal))]) trustingDriver).state =
      ⟨1, 0, .preVote⟩ := by
  decide

end Driver

end Overlord
