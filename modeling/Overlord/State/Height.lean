import Overlord.State.Run
import Overlord.System

/-!
# The height of the State and of its SMR

`goto_new_height` takes the height of every rich status it is given, whatever the
current one: it resets the round, drops the blocks, flushes the collectors and sends the
SMR to that height (`gotoNewHeight_run`). The SMR has a guard the State lacks:
`handle_new_height` refuses a height that is not above its own as a delayed status
(`handleNewHeight_delayed`).

So a stale status, as a synchronisation racing a commit may deliver, moves the State and
leaves its SMR where it was (`staleStatus_splits`): afterwards the State's height is the
stale one and the SMR's is not. `staleStatus_run` is one such run of a single replica:
statuses of height `5` and then `3`, the second one's two moves taken from
`staleStatus_splits`.
-/

namespace Overlord

namespace State

variable (env : Adapter) (s : State) (status : Status)

/-- The trigger that sends the SMR to a new height. -/
def newHeightTrigger (height : Nat) : SMRTrigger :=
  ⟨.newHeight ⟨height⟩, .state, [], none, height, none⟩

/-- When the last authority list is at hand, `goto_new_height` returns `Ok` at the new
height and round `0`, with no block, having handed out the new height's trigger only. -/
theorem gotoNewHeight_run (getLastFlag : Bool)
    (hA : getLastFlag = false ∨ ∃ l, env.getAuthorityList (u64Pred status.height) = .ok l) :
    ∃ s', (gotoNewHeight env status getLastFlag).run s = .ok () s' ∧
      s'.height = status.height ∧ s'.round = INIT_ROUND ∧ s'.hashWithBlock = [] ∧
      s'.out = s.out ++ [.trigger (newHeightTrigger status.height)] := by
  unfold gotoNewHeight
  rcases hA with hf | ⟨l', hl⟩ <;> rcases status with ⟨h, _ | i, l⟩ <;> cases getLastFlag <;>
    simp_all only [trigger, emit, newHeightTrigger, run_bind, run_modify, pure_bind, reduceIte,
      Bool.false_eq_true, reCheck_height, reCheck_round, reCheck_hashWithBlock, reCheck_out,
      EStateM.Result.ok.injEq, true_and, exists_eq_left', and_self, Bool.true_eq_false]

/-- Without the last authority list to fetch, `goto_new_height` hands out the new height's
trigger only. -/
theorem gotoNewHeight_out :
    (post (gotoNewHeight env status false) s).out =
      s.out ++ [.trigger (newHeightTrigger status.height)] := by
  obtain ⟨s', hr, -, -, -, ho⟩ := gotoNewHeight_run env s status false (.inl rfl)
  simp [post, hr, ho]

end State

namespace StateMachine

/-- **The SMR refuses a delayed status** and stays as it is. -/
theorem handleNewHeight_delayed (s : StateMachine) (status : SMRStatus)
    (h : status.height ≤ s.height) :
    s.handleNewHeight status .state = Res.fail s (.other "Delayed status") := by
  simp [handleNewHeight, h]

end StateMachine

namespace World

/-- **A stale status splits the State from its SMR.** A live replica whose SMR has no
trigger pending gets a rich status not above its SMR's height: the State takes the
status's height, and the SMR, refusing it as delayed, stays as it was. -/
theorem staleStatus_splits (env : Address → Adapter) (w : World) (i : Nat) (p : Peer)
    (rs : Status) (hp : w.peers[i]? = some p) (hl : p.stateLive = true)
    (hs : p.smrLive = true) (ht : p.triggers = [])
    (ha : ∃ l, (env p.state.address).getAuthorityList (u64Pred rs.height) = .ok l)
    (hh : rs.height ≤ p.smr.height) :
    ∃ w', w.run env [.status i rs, .smr i] = some w' ∧ ∃ p', w'.peers = w.peers.set i p' ∧
      p'.state.height = rs.height ∧ p'.smr = p.smr ∧
      p'.smrErrors = p.smrErrors ++ [.other "Delayed status"] := by
  obtain ⟨s', hrun, hh', -, -, hout⟩ :=
    State.gotoNewHeight_run (env p.state.address) { p.state with out := [] } rs true (.inr ha)
  have hi : i < w.peers.length := (List.getElem?_eq_some_iff.mp hp).1
  simp only [run, step, act, hp, hl, guard, Option.bind_eq_bind, Option.some_bind,
    State.handleMsg, Peer.runState, hrun, hout, if_true]
  simp [post, List.getElem?_set_self hi, hs, Peer.smrStep, Peer.absorb, ht, StateMachine.pollNext,
    State.newHeightTrigger, StateMachine.handleNewHeight_delayed p.smr ⟨rs.height⟩ hh, Exit.errors, hh']
  exact ⟨_, rfl, rfl, rfl, rfl⟩

/-- One validator, of address `[1]` and weights `1`. -/
def soloNodes : List Node := [⟨[1], 1, 1⟩]

/-- Collaborators that answer every request: block `[7]` of hash `[9]` at every height, the
next height's status on a commit, and the first validator as the proposer. -/
def soloEnv : Address → Adapter := fun _ =>
  ⟨fun _ => .ok ([7], [9]), fun _ _ _ => true, fun h _ => .ok ⟨h + 1, none, soloNodes⟩,
    fun _ => .ok soloNodes, fun _ => true, fun _ _ l => (l.head?.map Node.address).getD []⟩

/-- The single replica, just started. -/
def soloWorld : World := init soloEnv [[1]] [] 100 soloNodes

theorem staleStatus_run :
    (soloWorld.run soloEnv [.status 0 ⟨5, none, soloNodes⟩, .smr 0, .status 0 ⟨3, none, soloNodes⟩,
      .smr 0]).map (fun w => w.peers.map fun p => (p.state.height, p.smr.height, p.smrErrors)) =
      some [(3, 5, [.other "Delayed status"])] := by
  obtain ⟨w, hw, hv⟩ := Option.map_eq_some'.mp (by decide :
    (soloWorld.run soloEnv [.status 0 ⟨5, none, soloNodes⟩, .smr 0]).map (fun w =>
      w.peers.map fun p => (p.stateLive && p.smrLive && p.triggers.isEmpty, p.smr.height,
        p.smrErrors)) = some [(true, 5, [])])
  obtain ⟨p, l, hpeers, hp, hl⟩ := List.map_eq_cons_iff.mp hv
  obtain rfl := List.map_eq_nil_iff.mp hl
  simp only [Prod.mk.injEq, Bool.and_eq_true, List.isEmpty_iff] at hp
  obtain ⟨⟨⟨hlive, hsmr⟩, htr⟩, h5, herr⟩ := hp
  obtain ⟨w', hw', p', hset, h3, hsame, hdelayed⟩ := staleStatus_splits soloEnv w 0 p
    ⟨3, none, soloNodes⟩ (by simp [hpeers]) hlive hsmr htr ⟨soloNodes, rfl⟩ (by simp [h5])
  rw [show [Action.status 0 ⟨5, none, soloNodes⟩, .smr 0, .status 0 ⟨3, none, soloNodes⟩, .smr 0] =
    [.status 0 ⟨5, none, soloNodes⟩, .smr 0] ++ [.status 0 ⟨3, none, soloNodes⟩, .smr 0] from rfl,
    run_append, hw, Option.some_bind, hw']
  simp [hset, hpeers, h3, hsame, hdelayed, h5, herr]

end World

end Overlord
