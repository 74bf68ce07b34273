import Overlord.State.Invariant
import Overlord.System

/-!
# Every handler keeps the invariant

One lemma per handler of `process.rs`, each run forward from the State it starts from with
the combinators of `Overlord.State.Invariant`; a handler calls the lemmas of the handlers
it calls. The `do` blocks of the model keep the join points Lean builds for early returns
and `let mut`: a proof names each join point (`lift_lets`, then `intro`), proves it once
for every State it may be entered from, and forgets its body (`clear_value`) before it
jumps to it.

* `keeps_handleMsg`, `keeps_handleEvent`: every message and every event keeps `Inv ok a`;
* `keeps_handleResp`: so does the answer of a check, when it names an `ok` hash;
* `keeps_startWithWal`: so does a restart, from any record;
* `keeps_run`: so does every run of `State::run`, and `run_new_inv` says it from
  `State::new`.
-/

namespace Overlord

namespace State

variable {ok : Hash → Prop} {a : Address} (env : Adapter)

/-! ## A new height -/

/-- `goto_new_height` keeps only signed votes through its flush and re-checks, and triggers
the SMR with the new height. -/
theorem keeps_gotoNewHeight (status : Status) (getLastFlag : Bool) :
    Keeps ok a (gotoNewHeight env status getLastFlag) := by
  intro s hs
  unfold gotoNewHeight
  refine keepsAt_modify_bind (keepsAt_modify_bind ?_)
  lift_lets
  intro tail jp
  have htail : ∀ t, Inv ok a t → KeepsAt ok a t (tail ⟨⟩) := by
    intro t ht
    refine keepsAt_modify_bind (keepsAt_modify_bind (keepsAt_modify_bind ?_))
    refine keepsAt_of_run (trigger_run _) (Inv.emit ?_ _ (sound_trigger nofun nofun nofun))
    refine Inv.reCheck env ?_ _
    exact ht.of_signed (fun sv hsv => ht.signed sv (List.mem_of_mem_filter hsv)) rfl rfl rfl
  have hjp : ∀ t, Inv ok a t → KeepsAt ok a t (jp ⟨⟩) := by
    intro t ht
    simp only [jp]
    split
    · exact keepsAt_modify_bind (htail _ (by exact ht.frame rfl rfl rfl rfl))
    · exact keepsAt_pure_bind (htail _ ht)
  split
  · split
    · exact keepsAt_modify_bind (hjp _ (by exact hs.frame rfl rfl rfl rfl))
    · exact keepsAt_throw_bind (by exact hs.frame rfl rfl rfl rfl)
  · exact keepsAt_pure_bind (hjp _ (by exact hs.frame rfl rfl rfl rfl))

/-! ## Messages from the network -/

theorem keeps_handleSignedProposal (sp : SignedProposal) :
    Keeps ok a (handleSignedProposal env sp) := by
  intro s hs
  unfold handleSignedProposal
  dsimp only
  refine keepsAt_bind (keeps_filterSignedProposal _ _ _ s hs) fun b t _ ht => ?_
  split
  · exact ht
  refine keepsAt_pure_bind (keepsAt_get_bind ?_)
  refine keepsAt_lift_bind ht fun _ _ => keepsAt_lift_bind ht fun _ _ => ?_
  split
  · exact keepsAt_bind (keeps_retransmitQc _ t ht) fun _ _ _ h => h
  refine keepsAt_pure_bind ?_
  -- every way on either throws or stores the proposal and triggers the SMR with it
  have htail : ∀ (r : Option Nat) t', Inv ok a t' → KeepsAt ok a t'
      (trigger ⟨.proposal, .state, sp.proposal.blockHash, r, t.height, none⟩ >>=
        fun _ => checkBlock sp.proposal.blockHash sp.proposal.content) := fun _ t' ht' =>
    keepsAt_bind_ok (trigger_run _) (keepsAt_of_run (checkBlock_run _ _)
      ((ht'.emit (.trigger _) (sound_trigger (by nofun) (by nofun) (by nofun))).emit _ trivial))
  split
  · split
    · exact keepsAt_throw_bind ht
    refine keepsAt_pure_bind ?_
    split
    · exact keepsAt_pure_bind (keepsAt_set_bind (keepsAt_modify_bind (htail _ _ (by exact ht.frame rfl rfl rfl rfl))))
    · exact keepsAt_throw_bind ht
  · exact keepsAt_pure_bind (keepsAt_set_bind (keepsAt_modify_bind (htail _ _ (by exact ht.frame rfl rfl rfl rfl))))

/-- A vote enters the collector only once its signature verifies; a QC built from the
collector is an aggregate signature on its own vote, and the SMR gets it only once its
block is noted as passed. -/
theorem keeps_handleSignedVote (sv : SignedVote) : Keeps ok a (handleSignedVote sv) := by
  intro s hs
  unfold handleSignedVote
  dsimp only
  generalize (if sv.isPrevote then VoteType.prevote else .precommit) = voteType
  split
  · exact hs
  refine keepsAt_pure_bind (keepsAt_get_bind ?_)
  split
  · exact hs
  refine keepsAt_pure_bind (keepsAt_lift_bind hs fun _ hsig => keepsAt_lift_bind hs fun _ _ => ?_)
  split
  · exact keepsAt_bind (keeps_retransmitQc _ s hs) fun _ _ _ h => h
  refine keepsAt_pure_bind ?_
  split
  · exact hs
  refine keepsAt_pure_bind (keepsAt_set_bind ?_)
  have h1 := hs.insertVote (signature_eq_of_verify (by rw [hsig]; rfl))
  refine keepsAt_readsOnly_bind (readsOnly_countingVote _) h1 fun d _ => ?_
  split
  · refine keepsAt_readsOnly_bind (readsOnly_generateQc _ _) h1 fun qc hqc => ?_
    have h2 := (h1.setQc qc).emit (.broadcast (.aggregatedVote qc)) (generateQc_ok h1.signed hqc)
    refine keepsAt_modify_bind (keepsAt_bind_ok (broadcast_run _) ?_)
    split
    · refine keepsAt_get_bind ?_
      split
      · exact keepsAt_pure_bind (keepsAt_get_bind (keepsAt_of_run (trigger_run _)
          (h2.emit _ (sound_qcTrigger (h2.ok_of_checkFullTxs ‹_›) (toTriggerType_ne_walInfo _)))))
      · exact h2
    · refine keepsAt_get_bind ?_
      split
      · exact h2
      · rename_i hf
        exact keepsAt_pure_bind (keepsAt_get_bind (keepsAt_of_run (trigger_run _)
          (h2.emit _ (sound_qcTrigger (h2.ok_of_tryGetFullTxs (by simpa using hf))
            (toTriggerType_ne_walInfo _)))))
  · exact h1

theorem keeps_handleAggregatedVote (av : AggregatedVote) :
    Keeps ok a (handleAggregatedVote av) := by
  intro s hs
  unfold handleAggregatedVote
  dsimp only
  generalize (if av.isPrevoteQc then VoteType.prevote else .precommit) = qcType
  split
  · exact hs
  refine keepsAt_pure_bind (keepsAt_get_bind ?_)
  split
  · exact hs
  refine keepsAt_pure_bind ?_
  split
  · split
    · refine keepsAt_set_bind ?_
      exact hs.frame rfl rfl rfl rfl
    · exact hs
  refine keepsAt_pure_bind ?_
  split
  · exact hs
  refine keepsAt_pure_bind (keepsAt_lift_bind hs fun _ _ => keepsAt_set_bind ?_)
  have hv : Inv ok a { s with votes := s.votes.setQc av } := hs.frame rfl rfl rfl rfl
  split
  · exact hv
  · rename_i hf
    exact keepsAt_pure_bind (keepsAt_of_run (trigger_run _) (hv.emit _ (sound_qcTrigger
      (hs.ok_of_tryGetFullTxs (by simpa using hf)) (toTriggerType_ne_walInfo _))))

/-! ## Events of the SMR -/

/-- Before a QC trigger, `vote_process` saves the WAL with a well-formed lock; the trigger
names a hash whose block is noted as passed. -/
theorem keeps_voteProcess (voteType : VoteType) (lockRound : Option Nat) :
    Keeps ok a (voteProcess env voteType lockRound) := by
  intro s hs
  unfold voteProcess
  refine keepsAt_get_bind ?_
  dsimp only
  have hstep := toStep_ne_commit voteType
  -- the vote is saved with the lock it had, when the QC's block is not checked yet
  have hsave : ∀ t, Inv ok a t → KeepsAt ok a t
      (saveWalBeforeVote env voteType.toStep lockRound >>= fun _ => pure ()) :=
    fun t ht => keepsAt_saveWalBeforeVote_bind env ht hstep _ fun _ hw => ht.emit (.saveWal _) hw
  -- else with a lock of the round, and the SMR is triggered with the QC's `ok` hash
  have hqc : ∀ (vt : VoteType) (h : Hash) t, Inv ok a t → ok h → KeepsAt ok a t
      (saveWalBeforeVote env voteType.toStep (some s.round) >>= fun _ =>
        trigger ⟨vt.toTriggerType, .state, h, some s.round, s.height, none⟩) :=
    fun vt _ t ht hk => keepsAt_saveWalBeforeVote_bind env ht hstep _ fun _ hw =>
      keepsAt_of_run (trigger_run _) ((ht.emit (.saveWal _) hw).emit _
        (sound_qcTrigger hk (toTriggerType_ne_walInfo vt)))
  split
  · split
    · split
      · split
        · split
          · exact keepsAt_pure_bind (hqc _ _ s hs (hs.ok_of_checkFullTxs ‹_›))
          · exact hsave s hs
        · split
          · exact hsave s hs
          · rename_i hf
            exact keepsAt_pure_bind (hqc _ _ s hs (hs.ok_of_tryGetFullTxs (by simpa using hf)))
      · exact keepsAt_throw_bind hs
    · exact hs
  · refine keepsAt_readsOnly_bind (readsOnly_countingVote _) hs fun d _ => ?_
    split
    · refine keepsAt_readsOnly_bind (readsOnly_generateQc _ _) hs fun qc hg => ?_
      have h2 := (hs.setQc qc).emit (.broadcast (.aggregatedVote qc)) (generateQc_ok hs.signed hg)
      refine keepsAt_modify_bind (keepsAt_bind_ok (broadcast_run _) ?_)
      split
      · split
        · refine keepsAt_get_bind ?_
          split
          · exact keepsAt_pure_bind (hqc _ _ _ h2 (h2.ok_of_checkFullTxs ‹_›))
          · exact hsave _ h2
        · refine keepsAt_get_bind ?_
          split
          · exact hsave _ h2
          · rename_i hf
            exact keepsAt_pure_bind (hqc _ _ _ h2 (h2.ok_of_tryGetFullTxs (by simpa using hf)))
      · exact keepsAt_throw_bind h2
    · exact hs

theorem keeps_handleVoteEvent (hash : Hash) (voteType : VoteType) (lockRound : Option Nat) :
    Keeps ok a (handleVoteEvent env hash voteType lockRound) := by
  intro s hs
  unfold handleVoteEvent
  refine keepsAt_get_bind ?_
  dsimp only
  split
  · -- a timeout: the WAL gets the next step, with the lock the SMR holds
    have hsave : ∀ step lock, step ≠ .commit →
        WalInfo.wellFormed ⟨s.height, s.round, step, lock⟩ = true →
        KeepsAt ok a s (saveWal env step lock >>= fun _ => pure ()) := fun _ _ hstep hw =>
      keepsAt_bind (keepsAt_saveWal env hs (sound_saveWal hw hstep)) fun _ _ _ h => h
    split
    · refine keepsAt_lift_bind hs fun qc hq => ?_
      split
      · exact keepsAt_pure_bind (hsave _ _ (by cases voteType <;> nofun)
          (wellFormed_prevoteQc (by cases voteType <;> nofun) hq))
      · exact keepsAt_throw_bind hs
    · exact keepsAt_pure_bind (hsave _ _ (by cases voteType <;> nofun)
        (wellFormed_none (by cases voteType <;> nofun)))
  · refine keepsAt_pure_bind ?_
    split
    · exact keepsAt_set_bind (keeps_voteProcess env _ _ _ (hs.insertVote rfl))
    · exact keepsAt_bind_ok (transmit_run _) (keeps_voteProcess env _ _ _ (hs.emit _ (by exact rfl)))

/-- `handle_new_round` saves the propose step with the lock of a prevote QC it holds; the
leader signs the proposal it broadcasts. -/
theorem keeps_handleNewRound (round : Nat) (lockRound : Option Nat) (lockProposal : Option Hash) :
    Keeps ok a (handleNewRound env round lockRound lockProposal) := by
  intro s hs
  unfold handleNewRound
  refine keepsAt_modify_bind ?_
  lift_lets
  intro hash lead done save start
  -- the leader proposes the block of its lock, or a new one, and triggers its SMR with it
  have hlead : ∀ t, Inv ok a t → KeepsAt ok a t (lead ⟨⟩) := by
    intro t ht
    unfold lead
    refine keepsAt_modify_bind
      (keepsAt_get_bind_inv (by exact ht.frame rfl rfl rfl rfl) fun u hu => ?_)
    lift_lets
    intro propose
    have hpropose : ∀ x, KeepsAt ok a u (propose x) := by
      rintro ⟨block, hash', polc⟩
      unfold propose
      dsimp -zeta only
      lift_lets
      intro send
      have hsend : ∀ t'', Inv ok a t'' → KeepsAt ok a t'' (send ⟨⟩) := by
        intro t'' ht''
        simp only [send]
        refine keepsAt_get_bind (keepsAt_bind_ok (broadcast_run _)
          (keepsAt_bind_ok (trigger_run _) (keepsAt_of_run (checkBlock_run _ _) ?_)))
        refine Inv.emit (Inv.emit (ht''.emit _ ?_) _
          (sound_trigger (by nofun) (by nofun) (by nofun))) _ trivial
        rfl
      split
      · exact keepsAt_set_bind (hsend _ (by exact hu.frame rfl rfl rfl rfl))
      · exact keepsAt_pure_bind (hsend _ hu)
    clear_value propose
    split
    · split
      · exact keepsAt_pure_bind (hpropose _)
      · exact keepsAt_throw_bind hu
    · split
      · dsimp only
        split
        · exact keepsAt_pure_bind (keepsAt_pure_bind (hpropose _))
        · exact keepsAt_throw_bind hu
      · exact keepsAt_throw_bind hu
  -- after the propose step is saved: a replica handles the proposal it holds for the round
  have hsave : ∀ lock t, WalInfo.wellFormed ⟨t.height, t.round, .propose, lock⟩ = true →
      Inv ok a t → KeepsAt ok a t (save lock) := by
    intro lock t hw ht
    simp only [save]
    refine keepsAt_bind (keepsAt_saveWal env ht (sound_saveWal hw nofun)) fun _ _ _ h2 =>
      keepsAt_bind (keeps_isProposer env _ h2) fun _ _ _ h3 => ?_
    split
    · refine keepsAt_get_bind ?_
      split
      · exact keepsAt_bind (keeps_handleSignedProposal env _ _ h3) fun _ _ _ h => h
      · exact keepsAt_pure_bind h3
    · exact keepsAt_pure_bind (hlead _ h3)
  -- the propose step is saved with the lock of the prevote QC the SMR locked on
  have hstart : ∀ t, Inv ok a t → KeepsAt ok a t (start ⟨⟩) := by
    intro t ht
    simp only [start]
    refine keepsAt_get_bind ?_
    split
    · exact keepsAt_pure_bind (hsave _ _ (wellFormed_none nofun) ht)
    · split
      · refine keepsAt_pure_bind ?_
        split
        · exact keepsAt_pure_bind (hsave _ _ (wellFormed_prevoteQc nofun ‹_›) ht)
        · exact keepsAt_throw_bind ht
      · exact keepsAt_throw_bind ht
  split
  · exact keepsAt_throw_bind (by exact hs.frame rfl rfl rfl rfl)
  · exact keepsAt_pure_bind (hstart _ (by exact hs.frame rfl rfl rfl rfl))

/-- `handle_commit` of an `ok` hash saves the commit step with a lock on the precommit QC of
the hash, under the State's round, and commits that hash. -/
theorem keeps_handleCommit (hash : Hash) (hk : ok hash) : Keeps ok a (handleCommit env hash) := by
  intro s hs
  unfold handleCommit
  refine keepsAt_get_bind ?_
  dsimp only
  split
  · rename_i content _
    split
    · rename_i qc hq
      obtain ⟨hh, hb, ht⟩ := getQcByHash_some hq
      have hw : (Output.saveWal ⟨s.height, s.round, .commit, some ⟨s.round, qc, content⟩⟩).Sound ok :=
        ⟨by simp [WalInfo.wellFormed, hh, ht], fun _ l hl => Option.some.inj hl ▸ hb ▸ hk⟩
      have h1 : Inv ok a { s with lastCommitQc := some qc } := hs.frame rfl rfl rfl rfl
      refine keepsAt_set_bind (keepsAt_bind (keepsAt_saveWal env h1 hw) fun _ _ _ h2 =>
        keepsAt_bind_ok (emit_run _) ?_)
      split
      · exact h2.emit _ (by exact hk)
      · exact keepsAt_modify_bind (keeps_gotoNewHeight env _ _ _
          (by exact (h2.emit _ (by exact hk)).frame rfl rfl rfl rfl))
    · exact hs
  · exact hs

/-! ## The loop -/

/-- The answer of a check of an `ok` hash keeps the invariant, passed or not: the QC
triggers of `handle_resp` name that hash. -/
theorem keeps_handleResp (resp : VerifyResp) (hk : ok resp.blockHash) :
    Keeps ok a (handleResp resp) := by
  intro s hs
  unfold handleResp
  refine keepsAt_get_bind ?_
  dsimp only
  split
  · exact hs
  · refine keepsAt_pure_bind (keepsAt_set_bind ?_)
    have hn := hs.note hk resp.isPass
    split
    · rename_i qc hq
      exact keepsAt_of_run (trigger_run _)
        (hn.emit _ (sound_qcTrigger ((getQcByHash_some hq).2.1 ▸ hk) nofun))
    · split
      · rename_i qc hq
        split
        · exact keepsAt_of_run (trigger_run _)
            (hn.emit _ (sound_qcTrigger ((getQcByHash_some hq).2.1 ▸ hk) nofun))
        · exact hn
      · exact hn

theorem keeps_handleMsg (msg : OverlordMsg) : Keeps ok a (handleMsg env msg) := by
  cases msg with
  | signedProposal sp => exact (keeps_handleSignedProposal env sp).logged
  | aggregatedVote av => exact (keeps_handleAggregatedVote av).logged
  | signedVote sv => exact (keeps_handleSignedVote sv).logged
  | richStatus rs => exact keeps_gotoNewHeight env rs true

theorem keeps_handleEvent (event : SMREvent) (hc : ∀ hash, event = .commit hash → ok hash) :
    Keeps ok a (handleEvent env event) := by
  cases event with
  | newRoundInfo _ round lockRound lockProposal =>
    exact (keeps_handleNewRound env round lockRound lockProposal).logged
  | prevoteVote _ _ hash lockRound => exact (keeps_handleVoteEvent env hash _ lockRound).logged
  | precommitVote _ _ hash lockRound => exact (keeps_handleVoteEvent env hash _ lockRound).logged
  | commit hash => exact (keeps_handleCommit env hash (hc hash rfl)).logged
  | stop => exact fun _ hs => hs

/-- A restart keeps the invariant from any record the WAL holds that locks an `ok` hash in
the commit step. -/
theorem keeps_startWithWal (walInfo : Option WalInfo)
    (hw : ∀ info, walInfo = some info → info.step = .commit →
      ∀ l, info.lock = some l → ok l.lockVotes.blockHash) :
    Keeps ok a (startWithWal env walInfo) := by
  intro s hs
  unfold startWithWal
  dsimp only
  split
  · rename_i info
    have hc := hw info rfl
    refine keepsAt_modify_bind (keepsAt_bind (keeps_isProposer env _
      (by exact hs.frame rfl rfl rfl rfl)) fun b t _ ht => keepsAt_modify_bind ?_)
    split
    · rename_i lock hl
      refine keepsAt_modify_bind (keepsAt_modify_bind (keepsAt_of_inv ?_ fun u hu => ?_))
      · exact ht.frame rfl rfl rfl rfl
      -- outside the commit step the SMR gets the record
      have hw : info.step ≠ .commit → Inv ok a { u with out := u.out ++
          [.trigger ⟨.walInfo, .state, [], none, info.height, some info.toSmrBase⟩] } :=
        fun hstep => hu.emit _ (sound_walTrigger hstep)
      split
      · have hw := hw (by rw [‹info.step = _›]; nofun)
        refine keepsAt_bind_ok (trigger_run _) ?_
        split
        · refine keepsAt_get_bind (keepsAt_bind_ok (broadcast_run _) (keepsAt_of_run (trigger_run _) ?_))
          refine Inv.emit (hw.emit _ ?_) _ (sound_trigger (by nofun) (by nofun) (by nofun))
          rfl
        · exact hw
      -- a prevote or a precommit: the lock's vote, signed again, goes to the leader
      iterate 2
        have hw := hw (by rw [‹info.step = _›]; nofun)
        refine keepsAt_get_bind (keepsAt_bind_ok (trigger_run _) ?_)
        split
        · exact keepsAt_of_run (transmit_run _) (hw.emit _ (by exact rfl))
        · exact keeps_handleSignedVote _ _ hw
      · exact keeps_handleCommit env _ (hc ‹_› lock hl) _ hu
    · have h1 : Inv ok a { t with isLeader := b } := ht.frame rfl rfl rfl rfl
      split
      · exact keepsAt_throw_bind h1
      · rename_i hstep
        exact keepsAt_pure_bind (keepsAt_of_run (trigger_run _)
          (h1.emit _ (sound_walTrigger (by simpa using hstep))))
  · exact hs

/-- The hash an input names is `ok`: the hash of the answer of a check, and the hash of a
commit of the SMR. -/
def Input.Checked (ok : Hash → Prop) : Input → Prop
  | .resp r => ok r.blockHash
  | .event (.commit h) => ok h
  | _ => True

theorem keeps_handleInput (input : Input) (hi : input.Checked ok) :
    Keeps ok a (handleInput env input) := by
  cases input with
  | msg msg => exact keeps_handleMsg env msg
  | event event => exact keeps_handleEvent env event fun _ h => by subst h; exact hi
  | resp resp => exact keeps_handleResp resp hi

/-- The loop keeps the invariant when each of its turns does. -/
theorem keeps_forM {inputs : List Input}
    (h : ∀ input ∈ inputs, Keeps ok a (handleInput env input)) :
    Keeps ok a (inputs.forM (handleInput env)) := by
  induction inputs with
  | nil => exact fun _ hs => hs
  | cons input rest ih =>
    intro s hs
    exact keepsAt_bind (h input (List.mem_cons_self _ _) s hs) fun _ t _ ht =>
      ih (fun i hi => h i (List.mem_cons_of_mem _ hi)) t ht

/-- **`State::run` keeps the invariant**: restarted from a record that locks an `ok` hash
in the commit step, the State keeps it through every input that names `ok` hashes. -/
theorem keeps_run (walInfo : Option WalInfo) (inputs : List Input)
    (hw : ∀ info, walInfo = some info → info.step = .commit →
      ∀ l, info.lock = some l → ok l.lockVotes.blockHash)
    (hi : ∀ input ∈ inputs, input.Checked ok) :
    Keeps ok a (run env walInfo inputs) := fun s hs =>
  keepsAt_bind (keeps_startWithWal env walInfo hw s hs) fun _ t _ ht =>
    keeps_forM env (fun input h => keeps_handleInput env input (hi input h)) t ht

/-- **What every run of a State keeps.** From `State::new`, restarted from a record that
locks an `ok` hash in the commit step and fed inputs that name `ok` hashes, in any order,
the State keeps its address, holds only votes signed by their voters, notes as passed only
`ok` hashes, and has handed out only sound outputs: QC triggers and commits of `ok` hashes,
well-formed WAL records, QCs that aggregate signatures on their own vote, and proposals and
votes under the signature of their proposer or voter. -/
theorem run_new_inv (ok : Hash → Prop) (a : Address) (interval : Nat)
    (authorityList : List Node) (walInfo : Option WalInfo) (inputs : List Input)
    (hw : ∀ info, walInfo = some info → info.step = .commit →
      ∀ l, info.lock = some l → ok l.lockVotes.blockHash)
    (hi : ∀ input ∈ inputs, input.Checked ok) :
    Inv ok a (post (run env walInfo inputs) (State.new a interval authorityList)) :=
  keeps_run env walInfo inputs hw hi _ (inv_new interval authorityList)

theorem run_new_inv_leader :
    Inv (· = [20, 1]) [1] (post (run (quartetEnv [1]) none
      [.msg (.richStatus quartetStatus), .event (.newRoundInfo 1 0 none none),
        .resp ⟨1, [20, 1], true⟩]) (State.new [1] 100 quartetNodes)) :=
  run_new_inv (quartetEnv [1]) _ [1] 100 quartetNodes none _ (by simp)
    (by simp [Input.Checked])

end State

end Overlord
