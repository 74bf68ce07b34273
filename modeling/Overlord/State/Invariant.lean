import Overlord.State.Run

/-!
# What the State keeps over whole runs

Four facts hold of every State its loop reaches, whatever messages, events and block
checks it takes, in whatever order (`Inv ok a`), where `a` is the replica's address and
`ok` holds of the hashes whose blocks passed their check (the hashes of the `VerifyResp`s
the State took):

* the State keeps its address;
* every vote its vote collector holds carries its voter's signature on that vote;
* every block the State noted as checked and passed has an `ok` hash;
* everything it handed out is sound (`Output.Sound`): a prevote or precommit QC reaches
  its SMR only with an `ok` hash, a WAL trigger only with a record outside the commit
  step (`SMRTrigger.walSafe`), every WAL record is well formed (`WalInfo.wellFormed`),
  every QC it broadcasts is an aggregate signature on the QC's own vote, and every
  proposal and vote it sends carries its own signature.

`KeepsAt ok a s x` says that `x`, run from `s`, leaves a State that keeps the invariant,
returning or not. The combinators below run a handler forward from the State it starts
from, one step at a time; each handler of `process.rs` gets one lemma, from the helpers up
to `handle_msg`, `handle_event`, `handle_resp` and `start_with_wal`.
-/

namespace Overlord

/-- A WAL record as `save_wal` writes it. Outside the commit step its lock, if any, is the
prevote QC of the record's height and of the lock round; in the commit step the lock is a
precommit QC of the record's height, saved under the record's round. -/
def WalInfo.wellFormed (info : WalInfo) : Bool :=
  match info.lock with
  | none => info.step != .commit
  | some l => l.lockVotes.height == info.height &&
    if info.step == .commit then l.lockVotes.voteType == .precommit && l.lockRound == info.round
    else l.lockVotes.voteType == .prevote && l.lockVotes.round == l.lockRound

/-- A trigger the SMR takes without a panic: a WAL trigger carries a record
(`wal_info.unwrap()` of `poll_next`), and one outside the commit step, for which
`set_timer_after_wal` is `unreachable!()`. -/
def SMRTrigger.walSafe (t : SMRTrigger) : Bool :=
  match t.triggerType, t.walInfo with
  | .walInfo, some info => info.step != .commit
  | .walInfo, none => false
  | _, _ => true

/-- What the State hands out, where `ok` holds of the hashes of checked blocks: a QC
trigger and a commit name an `ok` hash, a trigger is one the SMR takes without a panic, a
WAL record is well formed and locks an `ok` hash in the commit step, a broadcast QC is a
signature on its own vote, and a proposal or vote it sends is signed by its proposer or
voter. -/
def Output.Sound (ok : Hash → Prop) : Output → Prop
  | .trigger t => (t.triggerType = .prevoteQC ∨ t.triggerType = .precommitQC → ok t.hash) ∧
      t.walSafe = true
  | .saveWal info => info.wellFormed = true ∧
      (info.step = .commit → ∀ l, info.lock = some l → ok l.lockVotes.blockHash)
  | .commit _ c => ok c.proof.blockHash
  | .broadcast (.aggregatedVote qc) => qc.signature.signature.vote = qc.toVote
  | .broadcast (.signedProposal sp) => sp.signature = sign sp.proposal.proposer sp.proposal
  | .transmit _ (.signedVote sv) => sv.signature = sign sv.voter sv.vote
  | _ => True

namespace State

/-- The invariant of the State of the replica of address `a`, where `ok` holds of the
hashes of checked blocks. -/
structure Inv (ok : Hash → Prop) (a : Address) (s : State) : Prop where
  /-- The State keeps its address. -/
  address : s.address = a
  /-- Every vote the collector holds carries its voter's signature on it. -/
  signed : ∀ sv ∈ s.votes.votes, sv.signature = sign sv.voter sv.vote
  /-- Every block noted as passed has an `ok` hash. -/
  passed : ∀ e ∈ s.isFullTranscation, e.2 = true → ok e.1
  /-- Everything handed out is sound. -/
  sound : ∀ o ∈ s.out, o.Sound ok

/-! ## The invariant under the State's updates -/

section Updates

variable {ok : Hash → Prop} {a : Address} {s : State}

theorem inv_new (interval : Nat) (authorityList : List Node) :
    Inv ok a (State.new a interval authorityList) :=
  ⟨rfl, by simp [State.new, VoteCollector.new], by simp [State.new], by simp [State.new]⟩

/-- A State with the same address, votes, checks and outputs keeps the invariant. -/
theorem Inv.frame (hs : Inv ok a s) {s' : State} (ha : s'.address = s.address)
    (hv : s'.votes.votes = s.votes.votes) (hc : s'.isFullTranscation = s.isFullTranscation)
    (ho : s'.out = s.out) : Inv ok a s' :=
  ⟨ha ▸ hs.address, hv ▸ hs.signed, hc ▸ hs.passed, ho ▸ hs.sound⟩

theorem Inv.emit (hs : Inv ok a s) (o : Output) (ho : o.Sound ok) :
    Inv ok a { s with out := s.out ++ [o] } :=
  ⟨hs.address, hs.signed, hs.passed, fun o' h => by
    rcases List.mem_append.mp h with h | h
    exacts [hs.sound o' h, (List.mem_singleton.mp h) ▸ ho]⟩

/-- A State whose votes are all signed by their voters, with the same address, checks and
outputs, keeps the invariant. -/
theorem Inv.of_signed (hs : Inv ok a s) {s' : State}
    (hv : ∀ sv ∈ s'.votes.votes, sv.signature = sign sv.voter sv.vote)
    (ha : s'.address = s.address) (hc : s'.isFullTranscation = s.isFullTranscation)
    (ho : s'.out = s.out) : Inv ok a s' :=
  ⟨ha ▸ hs.address, hv, hc ▸ hs.passed, ho ▸ hs.sound⟩

/-- Noting the answer of a check of an `ok` hash keeps the invariant. -/
theorem Inv.note (hs : Inv ok a s) {hash : Hash} (hk : ok hash) (isPass : Bool) :
    Inv ok a { s with isFullTranscation := mapInsert s.isFullTranscation hash isPass } :=
  ⟨hs.address, hs.signed, fun e he hp => by
    rcases List.mem_cons.mp he with rfl | he
    exacts [hk, hs.passed e (List.mem_filter.mp he).1 hp], hs.sound⟩

/-- A hash noted as passed is `ok`. -/
theorem Inv.ok_of_lookup (hs : Inv ok a s) {hash : Hash}
    (h : s.isFullTranscation.lookup hash = some true) : ok hash := by
  obtain ⟨l₁, l₂, hl, -⟩ := List.lookup_eq_some_iff.mp h
  exact hs.passed (hash, true) (hl ▸ List.mem_append_right _ (List.mem_cons_self _ _)) rfl

theorem Inv.ok_of_checkFullTxs (hs : Inv ok a s) {hash tmp : Hash}
    (h : s.checkFullTxs hash = some tmp) : ok tmp := by
  unfold checkFullTxs at h
  split at h
  · cases h; exact hs.ok_of_lookup ‹_›
  · cases h

theorem Inv.ok_of_tryGetFullTxs (hs : Inv ok a s) {hash : Hash}
    (h : s.tryGetFullTxs hash = true) : ok hash := by
  unfold tryGetFullTxs at h
  cases hl : s.isFullTranscation.lookup hash with
  | none => simp [hl] at h
  | some b => exact hs.ok_of_lookup (by simpa [hl] using h)

theorem signed_insertVote {c : VoteCollector} {sv : SignedVote}
    (hc : ∀ v ∈ c.votes, v.signature = sign v.voter v.vote)
    (hsv : sv.signature = sign sv.voter sv.vote) :
    ∀ v ∈ (c.insertVote sv).votes, v.signature = sign v.voter v.vote := by
  unfold VoteCollector.insertVote
  split
  · exact hc
  · intro v hv
    rcases List.mem_cons.mp hv with rfl | hv
    exacts [hsv, hc v hv]

theorem Inv.insertVote (hs : Inv ok a s) {sv : SignedVote}
    (hsv : sv.signature = sign sv.voter sv.vote) :
    Inv ok a { s with votes := s.votes.insertVote sv } :=
  hs.of_signed (signed_insertVote hs.signed hsv) rfl rfl rfl

theorem Inv.setQc (hs : Inv ok a s) (qc : AggregatedVote) :
    Inv ok a { s with votes := s.votes.setQc qc } :=
  hs.frame rfl rfl rfl rfl

end Updates

/-! ## Running a handler forward -/

section Framework

variable (ok : Hash → Prop) (a : Address)

/-- Run from `s`, `x` leaves a State that keeps the invariant, returning or not. -/
def KeepsAt {α : Type} (s : State) (x : Exec α) : Prop := Inv ok a (post x s)

/-- `x` keeps the invariant from every State that keeps it. -/
def Keeps {α : Type} (x : Exec α) : Prop := ∀ s, Inv ok a s → KeepsAt ok a s x

variable {ok a} {α β : Type} {s : State}

/-- After a step that returns `Ok`, the rest runs from the State it left, which keeps the
invariant. -/
theorem keepsAt_bind {x : Exec α} {f : α → Exec β} (hx : KeepsAt ok a s x)
    (hf : ∀ r s', x.run s = .ok r s' → Inv ok a s' → KeepsAt ok a s' (f r)) : KeepsAt ok a s (x >>= f) := by
  unfold KeepsAt at *
  rw [post_bind]
  cases hr : x.run s with
  | ok r s' => exact hf r s' hr (by simpa only [post, hr] using hx)
  | error e s' => simpa only [post, hr] using hx

theorem keepsAt_get_bind {f : State → Exec β} (h : KeepsAt ok a s (f s)) :
    KeepsAt ok a s (get >>= f) := h

/-- The State a handler reads is any State that keeps the invariant. -/
theorem keepsAt_get_bind_inv {f : State → Exec β} (hs : Inv ok a s)
    (h : ∀ t, Inv ok a t → KeepsAt ok a t (f t)) : KeepsAt ok a s (get >>= f) := h s hs

theorem keepsAt_set_bind {s' : State} {f : PUnit → Exec β} (h : KeepsAt ok a s' (f ⟨⟩)) :
    KeepsAt ok a s (set s' >>= f) := h

theorem keepsAt_modify_bind {g : State → State} {f : PUnit → Exec β}
    (h : KeepsAt ok a (g s) (f ⟨⟩)) : KeepsAt ok a s (modify g >>= f) := h

theorem keepsAt_lift_bind (hs : Inv ok a s) {e : Except ConsensusError α} {f : α → Exec β}
    (h : ∀ r, e = .ok r → KeepsAt ok a s (f r)) : KeepsAt ok a s (lift e >>= f) := by
  cases e with
  | error e => exact hs
  | ok r => exact h r rfl

/-- A caught error goes to the handler from the State the error left. -/
theorem keepsAt_tryCatch {x : Exec α} {h : ConsensusError → Exec α} (hx : KeepsAt ok a s x)
    (hh : ∀ e s', x.run s = .error e s' → Inv ok a s' → KeepsAt ok a s' (h e)) :
    KeepsAt ok a s (tryCatch x h) := by
  unfold KeepsAt post at *
  rw [run_tryCatch]
  cases hr : x.run s with
  | ok a s' => simpa only [hr] using hx
  | error e s' =>
    simp only [hr] at hx ⊢
    exact hh e s' hr hx

/-- A handler whose errors the loop logs and drops keeps the invariant when it does. -/
theorem Keeps.logged {x : Exec Unit} (hx : Keeps ok a x) :
    Keeps ok a (tryCatch x fun _ => pure ()) := fun s hs =>
  keepsAt_tryCatch (hx s hs) fun _ _ _ h => h

/-- The rest of a handler that does not read the State runs from any State that keeps the
invariant. -/
theorem keepsAt_of_inv {x : Exec α} (hs : Inv ok a s) (h : ∀ t, Inv ok a t → KeepsAt ok a t x) :
    KeepsAt ok a s x := h s hs

/-- `x` reads the State and writes nothing, returning or not. -/
def ReadsOnly (x : Exec α) : Prop := ∀ s, (∃ r, x.run s = .ok r s) ∨ ∃ e, x.run s = .error e s

theorem keepsAt_readsOnly_bind {x : Exec α} {f : α → Exec β} (hx : ReadsOnly x) (hs : Inv ok a s)
    (hf : ∀ r, x.run s = .ok r s → KeepsAt ok a s (f r)) : KeepsAt ok a s (x >>= f) := by
  rcases hx s with ⟨r, h⟩ | ⟨e, h⟩
  · unfold KeepsAt; rw [post_bind, h]; exact hf r h
  · unfold KeepsAt; rw [post_bind, h]; exact hs

theorem keepsAt_pure_bind {r : α} {f : α → Exec β} (h : KeepsAt ok a s (f r)) :
    KeepsAt ok a s (pure r >>= f) := h

theorem keepsAt_throw_bind (hs : Inv ok a s) {e : ConsensusError} {f : α → Exec β} :
    KeepsAt ok a s (throw e >>= f) := hs

/-- A step that returns `Ok` at a known State. -/
theorem keepsAt_bind_ok {x : Exec α} {f : α → Exec β} {r : α} {s' : State}
    (hx : x.run s = .ok r s') (h : KeepsAt ok a s' (f r)) : KeepsAt ok a s (x >>= f) := by
  unfold KeepsAt at *
  rw [post_bind, hx]
  exact h

theorem keepsAt_of_run {x : Exec α} {r : α} {s' : State} (hx : x.run s = .ok r s')
    (h : Inv ok a s') : KeepsAt ok a s x := by
  unfold KeepsAt post
  rw [hx]
  exact h

end Framework

/-! ## The helpers -/

section Helpers

variable {ok : Hash → Prop} {a : Address} {s : State} (env : Adapter)

theorem getQcById_ok {c : VoteCollector} {height round : Nat} {voteType : VoteType}
    {qc : AggregatedVote} (h : c.getQcById height round voteType = .ok qc) :
    qc.height = height ∧ qc.round = round ∧ qc.voteType = voteType := by
  unfold VoteCollector.getQcById at h
  split at h
  · rename_i hf
    cases h
    simpa [and_assoc] using List.find?_some hf
  · cases h

theorem getQcByHash_some {c : VoteCollector} {height : Nat} {hash : Hash} {voteType : VoteType}
    {qc : AggregatedVote} (h : c.getQcByHash height hash voteType = some qc) :
    qc.height = height ∧ qc.blockHash = hash ∧ qc.voteType = voteType := by
  simpa [and_assoc] using List.find?_some h

theorem saveWal_run (step : Step) (lock : Option WalLock) :
    (saveWal env step lock).run s =
      if env.walSave ⟨s.height, s.round, step, lock⟩ then
        .ok () { s with out := s.out ++ [.saveWal ⟨s.height, s.round, step, lock⟩] }
      else .error (.saveWalErr s.height s.round step.display) s := by
  simp only [saveWal, emit, run_bind, run_get]
  split <;> rfl

/-- A save of a sound record keeps the invariant. -/
theorem keepsAt_saveWal (hs : Inv ok a s) {step : Step} {lock : Option WalLock}
    (hw : (Output.saveWal ⟨s.height, s.round, step, lock⟩).Sound ok) :
    KeepsAt ok a s (saveWal env step lock) := by
  unfold KeepsAt post
  rw [saveWal_run]
  cases hw' : env.walSave ⟨s.height, s.round, step, lock⟩
  · exact hs
  · exact hs.emit (.saveWal _) hw

/-- A save either writes the record or fails with the State as it was. -/
theorem saveWal_cases (step : Step) (lock : Option WalLock) :
    (saveWal env step lock).run s =
        .ok () { s with out := s.out ++ [.saveWal ⟨s.height, s.round, step, lock⟩] } ∨
      ∃ e, (saveWal env step lock).run s = .error e s := by
  rw [saveWal_run]
  split
  exacts [.inl rfl, .inr ⟨_, rfl⟩]

theorem wellFormed_none {height round : Nat} {step : Step} (hstep : step ≠ .commit) :
    (⟨height, round, step, none⟩ : WalInfo).wellFormed = true := by
  simpa [WalInfo.wellFormed] using hstep

/-- Outside the commit step, a lock on a prevote QC the collector holds for the lock round
and the record's height is well formed. -/
theorem wellFormed_prevoteQc {c : VoteCollector} {height r round : Nat} {step : Step}
    {qc : AggregatedVote} {content : Block} (hstep : step ≠ .commit)
    (hq : c.getQcById height round .prevote = .ok qc) :
    (⟨height, r, step, some ⟨round, qc, content⟩⟩ : WalInfo).wellFormed = true := by
  obtain ⟨hh, hr, ht⟩ := getQcById_ok hq
  simp [WalInfo.wellFormed, hstep, hh, hr, ht]

/-- A record outside the commit step is sound when it is well formed. -/
theorem sound_saveWal {info : WalInfo} (hw : info.wellFormed = true)
    (hstep : info.step ≠ .commit) : (Output.saveWal info).Sound ok :=
  ⟨hw, fun h => absurd h hstep⟩

/-- `save_wal_before_vote` at a vote step saves a sound record, or fails with the State as
it was. -/
theorem saveWalBeforeVote_cases {step : Step} (hstep : step ≠ .commit)
    (lockRound : Option Nat) :
    (∃ info, (Output.saveWal info).Sound ok ∧ (saveWalBeforeVote env step lockRound).run s =
        .ok () { s with out := s.out ++ [.saveWal info] }) ∨
      ∃ e, (saveWalBeforeVote env step lockRound).run s = .error e s := by
  have hsave : ∀ lock, (⟨s.height, s.round, step, lock⟩ : WalInfo).wellFormed = true →
      (∃ info, (Output.saveWal info).Sound ok ∧ (saveWal env step lock).run s =
        .ok () { s with out := s.out ++ [.saveWal info] }) ∨
      ∃ e, (saveWal env step lock).run s = .error e s := fun lock hw =>
    (saveWal_cases env step lock).imp (fun h => ⟨_, sound_saveWal hw hstep, h⟩) id
  unfold saveWalBeforeVote
  simp only [run_bind, run_get]
  rcases lockRound with _ | round
  · exact hsave none (wellFormed_none hstep)
  · simp only
    split
    · split
      · exact hsave _ (wellFormed_prevoteQc hstep ‹_›)
      · exact .inr ⟨_, rfl⟩
    · exact .inr ⟨_, rfl⟩

/-- After `save_wal_before_vote`, the rest runs from the State with one record more. -/
theorem keepsAt_saveWalBeforeVote_bind (hs : Inv ok a s) {step : Step} (hstep : step ≠ .commit)
    (lockRound : Option Nat) {β : Type} {f : Unit → Exec β}
    (hf : ∀ info, (Output.saveWal info).Sound ok →
      KeepsAt ok a { s with out := s.out ++ [.saveWal info] } (f ())) :
    KeepsAt ok a s (saveWalBeforeVote env step lockRound >>= f) := by
  rcases saveWalBeforeVote_cases env hstep lockRound with ⟨info, hw, h⟩ | ⟨e, h⟩
  · exact keepsAt_bind_ok h (hf info hw)
  · unfold KeepsAt; rw [post_bind, h]; exact hs

@[simp] theorem emit_run (o : Output) : (emit o).run s = .ok () { s with out := s.out ++ [o] } :=
  rfl

@[simp] theorem trigger_run (t : SMRTrigger) :
    (trigger t).run s = .ok () { s with out := s.out ++ [.trigger t] } := rfl

@[simp] theorem broadcast_run (msg : OverlordMsg) :
    (broadcast msg).run s = .ok () { s with out := s.out ++ [.broadcast msg] } := rfl

@[simp] theorem transmit_run (msg : OverlordMsg) :
    (transmit msg).run s = .ok () { s with out := s.out ++ [.transmit s.leaderAddress msg] } :=
  rfl

@[simp] theorem checkBlock_run (hash : Hash) (block : Block) :
    (checkBlock hash block).run s =
      .ok () { s with out := s.out ++ [.checkBlock s.height hash block] } := rfl

theorem keeps_retransmitQc (address : Address) : Keeps ok a (retransmitQc address) := by
  intro s hs
  unfold retransmitQc
  refine keepsAt_get_bind ?_
  split
  · exact keepsAt_of_run (emit_run _) (hs.emit _ trivial)
  · exact hs

/-- `counting_vote` reads the State and writes nothing. -/
theorem readsOnly_countingVote (voteType : VoteType) : ReadsOnly (countingVote voteType) := by
  intro s
  simp only [countingVote, run_bind, run_get]
  cases s.votes.getVoteMap s.height s.round voteType
  · exact .inr ⟨_, rfl⟩
  cases s.authority.getVoteWeightSum true
  · exact .inr ⟨_, rfl⟩
  simp only [run_lift_ok]
  cases firstAbove _ _ _
  exacts [.inr ⟨_, rfl⟩, .inl ⟨_, rfl⟩]

theorem mem_hashVotes {c : VoteCollector} {height round : Nat} {voteType : VoteType}
    {hash : Hash} {sv : SignedVote} (h : sv ∈ c.hashVotes height round voteType hash) :
    sv ∈ c.votes ∧ sv.vote = ⟨height, round, voteType, hash⟩ := by
  simp only [VoteCollector.hashVotes, VoteCollector.roundVotes, List.mem_filter, Bool.and_eq_true,
    beq_iff_eq] at h
  obtain ⟨⟨hm, ⟨hh, hr⟩, ht⟩, hb⟩ := h
  exact ⟨hm, by rw [← hh, ← hr, ← ht, ← hb]⟩

/-- Signatures of their voters on one vote aggregate into the signature of those voters on
it. -/
theorem aggregateSignatures_signed {votes : List SignedVote} {vote : Vote} (hne : votes ≠ [])
    (h : ∀ sv ∈ votes, sv.signature = sign sv.voter vote) :
    aggregateSignatures (votes.map SignedVote.signature) (votes.map SignedVote.voter) =
      some ⟨votes.map SignedVote.voter, vote⟩ := by
  obtain ⟨sv, rest, rfl⟩ := List.exists_cons_of_ne_nil hne
  have hrest : ∀ x ∈ rest.map SignedVote.signature, x.msg = vote := by
    simp only [List.mem_map]
    rintro _ ⟨v, hv, rfl⟩
    rw [h v (List.mem_cons_of_mem sv hv)]; rfl
  simp only [List.map_cons, aggregateSignatures, h sv (List.mem_cons_self _ _), sign]
  rw [if_pos]
  simp only [Bool.and_eq_true, List.all_eq_true, beq_iff_eq, List.map_map]
  exact ⟨hrest, by simpa using fun v hv => by rw [h v (List.mem_cons_of_mem sv hv)]; rfl⟩

theorem readsOnly_generateQc (hash : Hash) (voteType : VoteType) :
    ReadsOnly (generateQc hash voteType) := by
  intro s
  simp only [generateQc, run_bind, run_get]
  cases s.votes.getVotes s.height s.round voteType hash
  · exact .inr ⟨_, rfl⟩
  simp only [run_lift_ok]
  split
  exacts [.inl ⟨_, rfl⟩, .inr ⟨_, rfl⟩]

/-- At a State whose votes are signed, `generate_qc` aggregates the voters of the hash in the
current round into a signature on the vote the QC names. -/
theorem generateQc_run (hs : ∀ sv ∈ s.votes.votes, sv.signature = sign sv.voter sv.vote)
    {hash : Hash} {voteType : VoteType}
    (hne : s.votes.hashVotes s.height s.round voteType hash ≠ []) :
    (generateQc hash voteType).run s =
      .ok ⟨⟨⟨(s.votes.hashVotes s.height s.round voteType hash).map SignedVote.voter,
          ⟨s.height, s.round, voteType, hash⟩⟩,
        s.authority.getAddresRef.map
          ((s.votes.hashVotes s.height s.round voteType hash).map SignedVote.voter).contains⟩,
        voteType, s.height, s.round, hash, s.address⟩ s := by
  have hagg := aggregateSignatures_signed hne fun sv hsv => by
    obtain ⟨hm, hv⟩ := mem_hashVotes hsv
    rw [hs sv hm, hv]
  simp only [generateQc, run_bind, run_get, VoteCollector.getVotes_of_ne_nil hne, run_lift_ok,
    List.map_map, hagg]
  rfl

theorem generateQc_ok (hs : ∀ sv ∈ s.votes.votes, sv.signature = sign sv.voter sv.vote)
    {hash : Hash} {voteType : VoteType} {qc : AggregatedVote} {s' : State}
    (h : (generateQc hash voteType).run s = .ok qc s') :
    qc.signature.signature.vote = qc.toVote := by
  by_cases hne : s.votes.hashVotes s.height s.round voteType hash = []
  · simp [generateQc, VoteCollector.getVotes, hne] at h
  · rw [generateQc_run hs hne] at h
    cases h
    rfl

theorem keeps_isProposer : Keeps ok a (isProposer env) := by
  intro s hs
  unfold isProposer
  refine keepsAt_get_bind ?_
  dsimp only
  split
  · exact hs
  · refine keepsAt_pure_bind (keepsAt_set_bind ?_)
    exact hs.frame rfl rfl rfl rfl

theorem keeps_filterSignedProposal (height round : Nat) (sp : SignedProposal) :
    Keeps ok a (filterSignedProposal height round sp) := by
  intro s hs
  unfold filterSignedProposal
  refine keepsAt_get_bind ?_
  dsimp only
  split_ifs
  all_goals first
    | exact hs
    | refine keepsAt_pure_bind (keepsAt_set_bind ?_); exact hs.frame rfl rfl rfl rfl

theorem signature_eq_of_verify {sv : SignedVote}
    (h : (verifySignature sv.signature sv.vote sv.voter .signedVote).isOk = true) :
    sv.signature = sign sv.voter sv.vote := by
  unfold verifySignature at h
  split at h
  · rename_i hc
    simp only [cryptoVerifySignature, Bool.and_eq_true, beq_iff_eq] at hc
    rcases sv with ⟨⟨signer, msg⟩, vote, voter⟩
    simp_all [sign]
  · cases h

/-- `re_check_votes` keeps again only votes signed by their voters. -/
theorem signed_reCheckVotes (t : State) (votes : List SignedVote)
    (ht : ∀ v ∈ t.votes.votes, v.signature = sign v.voter v.vote) :
    ∀ v ∈ (t.reCheckVotes votes).votes, v.signature = sign v.voter v.vote := by
  unfold State.reCheckVotes
  generalize t.votes = c at ht
  induction votes generalizing c with
  | nil => exact ht
  | cons sv rest ih =>
    refine ih _ ?_
    dsimp only
    split
    · rename_i hv
      exact signed_insertVote ht (signature_eq_of_verify (Bool.and_eq_true _ _ ▸ hv).1)
    · exact ht

theorem reCheckQcs_votes (t : State) (qcs : List AggregatedVote) :
    (t.reCheckQcs qcs).votes = t.votes.votes := by
  unfold State.reCheckQcs
  generalize t.votes = c
  induction qcs generalizing c with
  | nil => rfl
  | cons qc rest ih => rw [List.foldl_cons, ih]; split <;> rfl

/-- The re-checks of a new height keep only signed votes. -/
theorem Inv.reCheck (hs : Inv ok a s) (h : Nat) : Inv ok a (s.reCheck env h) := by
  unfold State.reCheck
  dsimp only
  split
  · split <;> refine hs.of_signed ?_ rfl rfl rfl <;> rw [reCheckQcs_votes] <;>
      exact signed_reCheckVotes _ _ hs.signed
  · split <;> exact hs.frame rfl rfl rfl rfl

theorem toStep_ne_commit (voteType : VoteType) : voteType.toStep ≠ .commit := by
  cases voteType <;> nofun

theorem toTriggerType_ne_walInfo (voteType : VoteType) : voteType.toTriggerType ≠ .walInfo := by
  cases voteType <;> nofun

theorem walSafe_of_ne {t : SMRTrigger} (h : t.triggerType ≠ .walInfo) : t.walSafe = true := by
  unfold SMRTrigger.walSafe
  split
  iterate 2 exact absurd ‹_› h
  rfl

/-- A trigger that is neither a QC nor a WAL record is sound. -/
theorem sound_trigger {t : SMRTrigger} (hp : t.triggerType ≠ .prevoteQC)
    (hc : t.triggerType ≠ .precommitQC) (hw : t.triggerType ≠ .walInfo) :
    (Output.trigger t).Sound ok :=
  ⟨fun h => (h.elim hp hc).elim, walSafe_of_ne hw⟩

/-- A QC trigger of an `ok` hash is sound. -/
theorem sound_qcTrigger {t : SMRTrigger} (hk : ok t.hash) (hw : t.triggerType ≠ .walInfo) :
    (Output.trigger t).Sound ok :=
  ⟨fun _ => hk, walSafe_of_ne hw⟩

/-- The trigger of `start_with_wal` is sound for a record outside the commit step. -/
theorem sound_walTrigger {height : Nat} {info : WalInfo} (h : info.step ≠ .commit) :
    (Output.trigger ⟨.walInfo, .state, [], none, height, some info.toSmrBase⟩).Sound ok :=
  ⟨(by rintro (h' | h') <;> cases h'), by simpa [SMRTrigger.walSafe, WalInfo.toSmrBase] using h⟩

end Helpers

end State

end Overlord
