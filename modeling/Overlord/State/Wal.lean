import Overlord.State.Height

/-!
# Restarting from the WAL

`start_with_wal` hands the SMR the record the WAL holds, and `handle_wal` restores from it
the height, the round, the step and the lock, whose hash becomes the proposal hash
(`handleWal_sm`). Before every trigger of the State the SMR checks itself, and `check`
refuses a lock held before the precommit step of round `0`, a state that no run of the SMR
without WAL reaches. A record of that shape restores an SMR that refuses every later
trigger of the State (`handleWal_check_lock`).

`vote_process` writes such a record: a replica that finds, after its vote, the QC of its
round at hand saves the WAL at the step of its vote with the "lastest lock", the prevote QC
of its round, whatever lock its SMR reported; on a timeout, `handle_vote_event` saves at
the step after the vote instead. `walRestart_run` is such a run of four honest replicas:
replica `0` gets the prevote QC of round `0` before it handles its own prevote, saves the
record of a prevote at round `0`, crashes and restarts, and its SMR refuses the first
trigger of its State, the last move, as `handleWal_check_lock` says.
-/

namespace Overlord

namespace StateMachine

@[simp] theorem throwEvent_sm (s : StateMachine) (e : SMREvent) : (s.throwEvent e).sm = s := by
  unfold throwEvent; split <;> rfl

/-- `handle_wal` restores the record's height, round, step and lock, and the lock's hash as
the proposal hash; sending the event of the step, or failing to, changes nothing more. -/
theorem handleWal_sm (s : StateMachine) (info : SMRBase) :
    (s.handleWal info).sm =
      { s with
        height := info.height, round := info.round, step := info.step,
        blockHash := (info.polc.map Lock.hash).getD s.blockHash, lock := info.polc } := by
  unfold handleWal setTimerAfterWal
  rcases info with ⟨h, r, st, _ | l⟩ <;> cases st <;> simp

/-- **A lock before the precommit step of round `0` fails the self-check** of every SMR
restored from it. -/
theorem handleWal_check_lock (s : StateMachine) (info : SMRBase) (l : Lock)
    (hs : info.step < .precommit) (hr : info.round = 0) (hl : info.polc = some l) :
    (s.handleWal info).sm.check =
      .error (.selfCheckErr ("Invalid lock, height " ++ toString info.height ++ ", round 0")) := by
  rw [handleWal_sm, check, hl]
  simp [hs, hr, String.append_assoc]
  rfl

end StateMachine

namespace World

/-- After `quartetStart`, replica `1` gets the prevotes of replicas `2` and `3` and sends
the prevote QC of round `0`; replica `0` gets it before it handles its own prevote, which
then saves the WAL. Replica `0` crashes and restarts from the record, its SMR restores it,
the proposal is delivered once more and the block's check answers. -/
def walRestart : List Action :=
  quartetStart ++ [.event 1, .event 2, .event 3, .deliver 1 3, .deliver 1 4, .deliver 0 5,
    .event 0, .restart 0, .smr 0, .deliver 0 0, .resp 0 0, .smr 0, .smr 0]

theorem walRestart_run :
    (quartet.run quartetEnv walRestart).map (fun w => w.peers[0]?.map fun p =>
      (p.wal.map WalInfo.toSmrBase, p.smrErrors)) =
      some (some (some ⟨1, 0, .prevote, some ⟨0, [20, 1]⟩⟩,
        [.selfCheckErr "Invalid lock, height 1, round 0"])) := by
  obtain ⟨w, hw, hv⟩ := Option.map_eq_some'.mp (by decide :
    (quartet.run quartetEnv walRestart.dropLast).map (fun w => w.peers[0]?.map fun p =>
      (p.smrLive && p.smr == (StateMachine.new.handleWal ⟨1, 0, .prevote, some ⟨0, [20, 1]⟩⟩).sm &&
        p.triggers.head? == some ⟨.prevoteQC, .state, [20, 1], some 0, 1, none⟩ &&
        p.smrErrors.isEmpty, p.wal.map WalInfo.toSmrBase)) =
      some (some (true, some ⟨1, 0, .prevote, some ⟨0, [20, 1]⟩⟩)))
  obtain ⟨p, hp, hq⟩ := Option.map_eq_some'.mp hv
  simp only [Prod.mk.injEq, Bool.and_eq_true, beq_iff_eq, List.isEmpty_iff] at hq
  obtain ⟨⟨⟨⟨hlive, hsm⟩, ht⟩, herr⟩, hwal⟩ := hq
  have hcheck := hsm ▸ StateMachine.handleWal_check_lock StateMachine.new
    ⟨1, 0, .prevote, some ⟨0, [20, 1]⟩⟩ ⟨0, [20, 1]⟩ (by decide) rfl rfl
  have hfields : p.smr.height = 1 ∧ p.smr.step = .prevote := by
    rw [hsm, StateMachine.handleWal_sm]; exact ⟨rfl, rfl⟩
  obtain ⟨w', hstep, hpeers⟩ := step_smr quartetEnv hp hlive (List.eq_cons_of_mem_head? ht)
  rw [show walRestart = walRestart.dropLast ++ [.smr 0] from rfl, run_snoc hw, hstep,
    Option.map_some', hpeers, List.getElem?_set_self (List.getElem?_eq_some_iff.mp hp).1,
    Option.map_some']
  simp [hwal, herr, StateMachine.pollNext, StateMachine.handlePrevote, hfields,
    StateMachine.checked, hcheck, Exit.errors]
  rfl

end World

end Overlord
