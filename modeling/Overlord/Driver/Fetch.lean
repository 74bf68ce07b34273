import Overlord.Driver.Agent

/-!
# `fetch_set` never fills

`EventAgent::request_full_block` skips a block whose hash is in `fetch_set`, but no
function of the driver puts a hash there: `next_height` clears the set and a failed fetch
removes its hash. `ShrinksFetch x` says that `x` adds no hash to `fetch_set`, whether it
returns or not. Every function of the driver does, and so does every run of the loop of
`SMR::run` (`run_fetchSet_subset`). From the empty set of `EventAgent::new` the set stays
empty (`run_fetchSet_empty`), so after any run `request_full_block` spawns the fetch of
whatever block it is given (`run_requestFullBlock_fetches`).
-/

namespace Overlord

namespace Driver

variable {σ κ α ρ β γ : Type}

/-- `x` adds no hash to `fetch_set`, whether it returns or not. -/
def ShrinksFetch (x : DriverM σ κ α ρ β) : Prop :=
  ∀ d, (post x d).agent.fetchSet ⊆ d.agent.fetchSet

/-! ## Combinators -/

section Combinators

variable {x : DriverM σ κ α ρ β} {f : β → DriverM σ κ α ρ γ}

theorem shrinksFetch_pure (a : β) : ShrinksFetch (pure a : DriverM σ κ α ρ β) :=
  fun _ => List.Subset.refl _

theorem shrinksFetch_throw (h : Halt) : ShrinksFetch (throw h : DriverM σ κ α ρ β) :=
  fun _ => List.Subset.refl _

theorem shrinksFetch_get : ShrinksFetch (get : DriverM σ κ α ρ (Smr σ κ α ρ)) :=
  fun _ => List.Subset.refl _

theorem shrinksFetch_modify {g : Smr σ κ α ρ → Smr σ κ α ρ}
    (hg : ∀ d, (g d).agent.fetchSet ⊆ d.agent.fetchSet) : ShrinksFetch (modify g) :=
  hg

/-- A `modify` that leaves the agent as it was. -/
theorem shrinksFetch_modify_agent {g : Smr σ κ α ρ → Smr σ κ α ρ}
    (hg : ∀ d, (g d).agent = d.agent) : ShrinksFetch (modify g) :=
  shrinksFetch_modify fun d => (hg d) ▸ List.Subset.refl _

theorem shrinksFetch_bind (hx : ShrinksFetch x) (hf : ∀ a, ShrinksFetch (f a)) :
    ShrinksFetch (x >>= f) := by
  intro d
  have hk := hx d
  rw [post_bind]
  cases hr : x.run d with
  | ok a d' => simp only [post, hr] at hk; exact (hf a d').trans hk
  | error e d' => simpa only [post, hr] using hk

theorem shrinksFetch_tryCatch {h : Halt → DriverM σ κ α ρ β} (hx : ShrinksFetch x)
    (hh : ∀ e, ShrinksFetch (h e)) : ShrinksFetch (tryCatch x h) := by
  intro d
  have hk := hx d
  unfold post at hk ⊢
  rw [run_tryCatch]
  cases hr : x.run d with
  | ok a d' => simpa only [hr] using hk
  | error e d' => simp only [hr] at hk ⊢; exact (hh e d').trans hk

theorem shrinksFetch_ite {c : Prop} [Decidable c] {y : DriverM σ κ α ρ β} (hx : ShrinksFetch x)
    (hy : ShrinksFetch y) : ShrinksFetch (if c then x else y) := by
  split
  exacts [hx, hy]

theorem shrinksFetch_liftE (r : Except OverlordError β) :
    ShrinksFetch (liftE r : DriverM σ κ α ρ β) := by
  cases r
  exacts [shrinksFetch_throw _, shrinksFetch_pure _]

theorem shrinksFetch_expect (o : Option β) (msg : String) :
    ShrinksFetch (expect o msg : DriverM σ κ α ρ β) := by
  cases o
  exacts [shrinksFetch_throw _, shrinksFetch_pure _]

theorem shrinksFetch_throwIf (c : Bool) (h : Halt) :
    ShrinksFetch (throwIf c h : DriverM σ κ α ρ Unit) := by
  cases c
  exacts [shrinksFetch_pure _, shrinksFetch_throw _]

theorem shrinksFetch_record (e : Event σ) : ShrinksFetch (record e : DriverM σ κ α ρ Unit) :=
  shrinksFetch_modify_agent fun _ => rfl

end Combinators

/-! ## The functions of the driver -/

section Functions

variable {env : Env σ κ α ρ}

theorem shrinksFetch_transition (g : σ → Except OverlordError σ) :
    ShrinksFetch (transition g : DriverM σ κ α ρ Unit) :=
  shrinksFetch_bind shrinksFetch_get fun _ => shrinksFetch_bind (shrinksFetch_liftE _) fun _ =>
    shrinksFetch_modify_agent fun _ => rfl

theorem shrinksFetch_saveWal : ShrinksFetch (saveWal env) :=
  shrinksFetch_bind shrinksFetch_get fun _ => shrinksFetch_bind (shrinksFetch_liftE _) fun _ =>
    shrinksFetch_record _

theorem shrinksFetch_cabinetInsert (height round : Nat) (capsule : Capsule) :
    ShrinksFetch (cabinetInsert env height round capsule) :=
  shrinksFetch_bind shrinksFetch_get fun _ => shrinksFetch_bind (shrinksFetch_liftE _) fun _ =>
    shrinksFetch_bind (shrinksFetch_modify_agent fun _ => rfl) fun _ => shrinksFetch_pure _

theorem shrinksFetch_filterMsg (height round : Nat) (capsule : Capsule) :
    ShrinksFetch (filterMsg env height round capsule) := by
  refine shrinksFetch_bind shrinksFetch_get fun _ => ?_
  dsimp only
  split_ifs
  · exact shrinksFetch_throw _
  · split
    exacts [shrinksFetch_pure _, shrinksFetch_throw _]
  · exact shrinksFetch_throw _
  · exact shrinksFetch_bind (shrinksFetch_cabinetInsert _ _ _) fun _ => shrinksFetch_throw _
  · exact shrinksFetch_pure _

theorem shrinksFetch_checkProposal (p : Proposal) : ShrinksFetch (checkProposal env p) := by
  refine shrinksFetch_bind shrinksFetch_get fun _ => shrinksFetch_bind (shrinksFetch_throwIf _ _)
    fun _ => shrinksFetch_bind (shrinksFetch_throwIf _ _) fun _ =>
      shrinksFetch_bind (shrinksFetch_liftE _) fun _ => ?_
  split
  exacts [shrinksFetch_liftE _, shrinksFetch_pure _]

theorem shrinksFetch_checkBlock (block : Blk) : ShrinksFetch (checkBlock env block) := by
  refine shrinksFetch_bind shrinksFetch_get fun _ =>
    shrinksFetch_bind (shrinksFetch_throwIf _ _) fun _ => ?_
  split
  exacts [shrinksFetch_pure _, shrinksFetch_throw _]

theorem shrinksFetch_requestFullBlock (block : Blk) :
    ShrinksFetch (requestFullBlock block : DriverM σ κ α ρ Unit) :=
  shrinksFetch_bind shrinksFetch_get fun _ =>
    shrinksFetch_ite (shrinksFetch_pure _) (shrinksFetch_record _)

theorem shrinksFetch_setTimeout (stage : Stage) :
    ShrinksFetch (setTimeout stage : DriverM σ κ α ρ Bool) := by
  refine shrinksFetch_bind shrinksFetch_get fun _ => ?_
  split
  exacts [shrinksFetch_bind (shrinksFetch_record _) fun _ => shrinksFetch_pure _,
    shrinksFetch_pure _]

theorem shrinksFetch_createSignedProposal : ShrinksFetch (createSignedProposal env) := by
  have hc : ShrinksFetch (createBlock env) := by
    refine shrinksFetch_bind shrinksFetch_get fun _ => ?_
    split
    exacts [shrinksFetch_pure _, shrinksFetch_throw _]
  refine shrinksFetch_bind shrinksFetch_get fun _ => ?_
  dsimp only
  split
  · exact shrinksFetch_bind (shrinksFetch_expect _ _) fun _ =>
      shrinksFetch_bind (shrinksFetch_pure _) fun _ =>
        shrinksFetch_bind shrinksFetch_get fun _ => shrinksFetch_liftE _
  · exact shrinksFetch_bind hc fun _ => shrinksFetch_bind (shrinksFetch_pure _) fun _ =>
      shrinksFetch_bind shrinksFetch_get fun _ => shrinksFetch_liftE _

theorem shrinksFetch_transmit (address : Address) (msg : OverlordMsg) :
    ShrinksFetch (transmit env address msg) := by
  refine shrinksFetch_bind (shrinksFetch_record _) fun _ => ?_
  split
  exacts [shrinksFetch_pure _, shrinksFetch_throw _]

theorem shrinksFetch_broadcast (msg : OverlordMsg) : ShrinksFetch (broadcast env msg) := by
  refine shrinksFetch_bind (shrinksFetch_record _) fun _ => ?_
  split
  exacts [shrinksFetch_pure _, shrinksFetch_throw _]

end Functions

/-! ## The handlers -/

section Handlers

variable {env : Env σ κ α ρ}

theorem shrinksFetch_handleSignedProposal (sp : SignedProposal) :
    ShrinksFetch (handleSignedProposal env sp) := by
  unfold handleSignedProposal
  refine shrinksFetch_bind (shrinksFetch_filterMsg _ _ _) fun _ => ?_
  refine shrinksFetch_bind (shrinksFetch_checkProposal _) fun _ => ?_
  refine shrinksFetch_bind shrinksFetch_get fun _ => shrinksFetch_bind (shrinksFetch_liftE _)
    fun _ => ?_
  refine shrinksFetch_bind (shrinksFetch_cabinetInsert _ _ _) fun _ => ?_
  refine shrinksFetch_bind (shrinksFetch_checkBlock _) fun _ => ?_
  refine shrinksFetch_bind (shrinksFetch_requestFullBlock _) fun _ => ?_
  refine shrinksFetch_bind shrinksFetch_get fun _ => shrinksFetch_bind (shrinksFetch_throwIf _ _)
    fun _ => ?_
  refine shrinksFetch_bind (shrinksFetch_transition _) fun _ => ?_
  refine shrinksFetch_bind shrinksFetch_get fun _ => shrinksFetch_bind (shrinksFetch_setTimeout _)
    fun _ => ?_
  refine shrinksFetch_bind shrinksFetch_saveWal fun _ => ?_
  refine shrinksFetch_bind shrinksFetch_get fun _ => shrinksFetch_bind (shrinksFetch_liftE _)
    fun _ => ?_
  refine shrinksFetch_bind shrinksFetch_get fun _ => shrinksFetch_bind (shrinksFetch_liftE _)
    fun _ => ?_
  exact shrinksFetch_transmit _ _

theorem shrinksFetch_newRound : ShrinksFetch (newRound env) := by
  unfold newRound
  refine shrinksFetch_bind shrinksFetch_get fun _ => shrinksFetch_bind (shrinksFetch_setTimeout _)
    fun _ => shrinksFetch_bind shrinksFetch_get fun _ => ?_
  split
  · exact shrinksFetch_bind shrinksFetch_createSignedProposal fun _ => shrinksFetch_broadcast _
  · refine shrinksFetch_bind shrinksFetch_get fun _ => ?_
    split
    refine shrinksFetch_bind (shrinksFetch_modify_agent fun _ => rfl) fun _ => ?_
    split
    exacts [shrinksFetch_handleSignedProposal _, shrinksFetch_pure _]

/-- `next_height` clears `fetch_set`. -/
theorem shrinksFetch_nextHeight (timeConfig : TimeConfig) :
    ShrinksFetch (nextHeight env timeConfig) := by
  unfold nextHeight
  refine shrinksFetch_bind (shrinksFetch_transition _) fun _ =>
    shrinksFetch_bind shrinksFetch_saveWal fun _ => ?_
  exact shrinksFetch_bind (shrinksFetch_modify fun _ => List.nil_subset _) fun _ =>
    shrinksFetch_newRound

theorem shrinksFetch_handleCommit : ShrinksFetch (handleCommit env) := by
  unfold handleCommit
  refine shrinksFetch_bind shrinksFetch_get fun _ => shrinksFetch_bind (shrinksFetch_expect _ _)
    fun _ => shrinksFetch_bind (shrinksFetch_expect _ _) fun _ => ?_
  refine shrinksFetch_bind (shrinksFetch_record _) fun _ =>
    shrinksFetch_bind (shrinksFetch_expect _ _) fun _ => ?_
  dsimp only
  refine shrinksFetch_bind (shrinksFetch_modify_agent fun _ => rfl) fun _ =>
    shrinksFetch_bind (shrinksFetch_modify_agent fun _ => rfl) fun _ =>
      shrinksFetch_bind (shrinksFetch_modify_agent fun _ => rfl) fun _ => ?_
  refine shrinksFetch_bind shrinksFetch_get fun _ => shrinksFetch_bind shrinksFetch_get fun _ =>
    shrinksFetch_bind (shrinksFetch_ite (shrinksFetch_pure _) (shrinksFetch_setTimeout _))
      fun _ => ?_
  split
  exacts [shrinksFetch_pure _, shrinksFetch_nextHeight _]

theorem shrinksFetch_handlePreVoteQc (qc : PreVoteQC) :
    ShrinksFetch (handlePreVoteQc env qc) := by
  unfold handlePreVoteQc
  refine shrinksFetch_bind (shrinksFetch_filterMsg _ _ _) fun _ => ?_
  refine shrinksFetch_bind shrinksFetch_get fun _ => shrinksFetch_bind (shrinksFetch_liftE _)
    fun _ => shrinksFetch_bind (shrinksFetch_cabinetInsert _ _ _) fun _ => ?_
  refine shrinksFetch_bind shrinksFetch_get fun _ => ?_
  split
  · refine shrinksFetch_bind shrinksFetch_get fun _ => shrinksFetch_bind (shrinksFetch_expect _ _)
      fun _ => shrinksFetch_bind (shrinksFetch_transition _) fun _ => ?_
    refine shrinksFetch_bind shrinksFetch_get fun _ =>
      shrinksFetch_bind (shrinksFetch_setTimeout _) fun _ =>
        shrinksFetch_bind shrinksFetch_saveWal fun _ => ?_
    refine shrinksFetch_bind shrinksFetch_get fun _ => shrinksFetch_bind (shrinksFetch_liftE _)
      fun _ => shrinksFetch_bind shrinksFetch_get fun _ =>
        shrinksFetch_bind (shrinksFetch_liftE _) fun _ => ?_
    exact shrinksFetch_bind shrinksFetch_get fun _ => shrinksFetch_transmit _ _
  · exact shrinksFetch_pure _

theorem shrinksFetch_handlePreCommitQc (qc : PreCommitQC) :
    ShrinksFetch (handlePreCommitQc env qc) := by
  unfold handlePreCommitQc
  refine shrinksFetch_bind (shrinksFetch_filterMsg _ _ _) fun _ => ?_
  refine shrinksFetch_bind shrinksFetch_get fun _ => shrinksFetch_bind (shrinksFetch_liftE _)
    fun _ => shrinksFetch_bind (shrinksFetch_cabinetInsert _ _ _) fun _ => ?_
  refine shrinksFetch_bind shrinksFetch_get fun _ => ?_
  split
  · refine shrinksFetch_bind shrinksFetch_get fun _ => shrinksFetch_bind (shrinksFetch_expect _ _)
      fun _ => ?_
    exact shrinksFetch_bind (shrinksFetch_transition _) fun _ =>
      shrinksFetch_bind shrinksFetch_saveWal fun _ => shrinksFetch_handleCommit
  · exact shrinksFetch_pure _

theorem shrinksFetch_handleChokeQc (qc : ChokeQC) : ShrinksFetch (handleChokeQc env qc) := by
  unfold handleChokeQc
  refine shrinksFetch_bind (shrinksFetch_filterMsg _ _ _) fun _ => ?_
  refine shrinksFetch_bind shrinksFetch_get fun _ => shrinksFetch_bind (shrinksFetch_liftE _)
    fun _ => ?_
  exact shrinksFetch_bind (shrinksFetch_transition _) fun _ =>
    shrinksFetch_bind shrinksFetch_saveWal fun _ => shrinksFetch_newRound

theorem shrinksFetch_handleSignedPreVote (sv : SignedPreVote) :
    ShrinksFetch (handleSignedPreVote env sv) := by
  unfold handleSignedPreVote
  refine shrinksFetch_bind (shrinksFetch_filterMsg _ _ _) fun _ => ?_
  refine shrinksFetch_bind shrinksFetch_get fun _ => shrinksFetch_bind (shrinksFetch_liftE _)
    fun _ => shrinksFetch_bind (shrinksFetch_cabinetInsert _ _ _) fun _ => ?_
  split
  · refine shrinksFetch_bind shrinksFetch_get fun _ => ?_
    split
    · refine shrinksFetch_bind (shrinksFetch_expect _ _) fun _ =>
        shrinksFetch_bind shrinksFetch_get fun _ =>
          shrinksFetch_bind (shrinksFetch_expect _ _) fun _ => ?_
      exact shrinksFetch_bind shrinksFetch_get fun _ => shrinksFetch_bind (shrinksFetch_liftE _)
        fun _ => shrinksFetch_bind (shrinksFetch_broadcast _) fun _ =>
          shrinksFetch_handlePreVoteQc _
    · exact shrinksFetch_pure _
  · exact shrinksFetch_pure _

theorem shrinksFetch_handleSignedPreCommit (sv : SignedPreCommit) :
    ShrinksFetch (handleSignedPreCommit env sv) := by
  unfold handleSignedPreCommit
  refine shrinksFetch_bind (shrinksFetch_filterMsg _ _ _) fun _ => ?_
  refine shrinksFetch_bind shrinksFetch_get fun _ => shrinksFetch_bind (shrinksFetch_liftE _)
    fun _ => shrinksFetch_bind (shrinksFetch_cabinetInsert _ _ _) fun _ => ?_
  split
  · refine shrinksFetch_bind shrinksFetch_get fun _ => ?_
    split
    · refine shrinksFetch_bind (shrinksFetch_expect _ _) fun _ =>
        shrinksFetch_bind shrinksFetch_get fun _ =>
          shrinksFetch_bind (shrinksFetch_expect _ _) fun _ => ?_
      exact shrinksFetch_bind shrinksFetch_get fun _ => shrinksFetch_bind (shrinksFetch_liftE _)
        fun _ => shrinksFetch_bind (shrinksFetch_broadcast _) fun _ =>
          shrinksFetch_handlePreCommitQc _
    · exact shrinksFetch_pure _
  · exact shrinksFetch_pure _

theorem shrinksFetch_handleSignedChoke (sc : SignedChoke) :
    ShrinksFetch (handleSignedChoke env sc) := by
  unfold handleSignedChoke
  refine shrinksFetch_bind (shrinksFetch_filterMsg _ _ _) fun _ => ?_
  refine shrinksFetch_bind shrinksFetch_get fun _ => shrinksFetch_bind (shrinksFetch_liftE _)
    fun _ => shrinksFetch_bind (shrinksFetch_cabinetInsert _ _ _) fun _ => ?_
  split
  · refine shrinksFetch_bind shrinksFetch_get fun _ => ?_
    split
    · refine shrinksFetch_bind shrinksFetch_get fun _ =>
        shrinksFetch_bind (shrinksFetch_expect _ _) fun _ => ?_
      exact shrinksFetch_bind shrinksFetch_get fun _ => shrinksFetch_bind (shrinksFetch_liftE _)
        fun _ => shrinksFetch_handleChokeQc _
    · split
      exacts [shrinksFetch_handlePreVoteQc _, shrinksFetch_handlePreCommitQc _,
        shrinksFetch_handleChokeQc _]
  · exact shrinksFetch_pure _

theorem shrinksFetch_handleMsg (msg : OverlordMsg) : ShrinksFetch (handleMsg env msg) := by
  cases msg
  exacts [shrinksFetch_handleSignedProposal _, shrinksFetch_handleSignedPreVote _,
    shrinksFetch_handleSignedPreCommit _, shrinksFetch_handleSignedChoke _,
    shrinksFetch_handlePreVoteQc _, shrinksFetch_handlePreCommitQc _, shrinksFetch_pure _]

/-- A failed fetch removes its hash from `fetch_set`. -/
theorem shrinksFetch_handleFetch (fetchResult : Except OverlordError FetchedFullBlock) :
    ShrinksFetch (handleFetch env fetchResult) := by
  have ha : ShrinksFetch (agentHandleFetch fetchResult : DriverM σ κ α ρ FetchedFullBlock) := by
    unfold agentHandleFetch
    split
    · exact shrinksFetch_pure _
    · exact shrinksFetch_bind (shrinksFetch_modify fun _ => List.erase_subset _ _) fun _ =>
        shrinksFetch_throw _
    · exact shrinksFetch_throw _
  exact shrinksFetch_bind ha fun _ => shrinksFetch_bind shrinksFetch_get fun _ =>
    shrinksFetch_bind (shrinksFetch_throwIf _ _) fun _ =>
      shrinksFetch_bind (shrinksFetch_modify_agent fun _ => rfl) fun _ => shrinksFetch_liftE _

theorem shrinksFetch_handleInput (input : Input) : ShrinksFetch (handleInput env input) := by
  cases input with
  | net msg =>
    exact shrinksFetch_tryCatch (shrinksFetch_handleMsg msg)
      fun | .err _ => shrinksFetch_pure _ | .panic _ => shrinksFetch_throw _
  | exec result => exact shrinksFetch_modify_agent fun _ => rfl
  | fetch result =>
    exact shrinksFetch_tryCatch (shrinksFetch_handleFetch result)
      fun | .err _ => shrinksFetch_pure _ | .panic _ => shrinksFetch_throw _
  | timeout event =>
    exact shrinksFetch_tryCatch (shrinksFetch_pure ())
      fun | .err _ => shrinksFetch_pure _ | .panic _ => shrinksFetch_throw _

end Handlers

/-! ## The loop -/

/-- **`fetch_set` never gains a hash.** In every run of the loop of `SMR::run`, from any
driver, over any inputs at any times, every hash in `fetch_set` at the end was there at
the start. -/
theorem run_fetchSet_subset (env : Env σ κ α ρ) (d : Smr σ κ α ρ) (inputs : List (Nat × Input)) :
    (post (run env inputs) d).agent.fetchSet ⊆ d.agent.fetchSet := by
  suffices h : ShrinksFetch (run env inputs) from h d
  induction inputs with
  | nil => exact shrinksFetch_pure _
  | cons input inputs ih =>
    exact shrinksFetch_bind (shrinksFetch_modify_agent fun _ => rfl) fun _ =>
      shrinksFetch_bind (shrinksFetch_handleInput input.2) fun _ => ih

/-- **`fetch_set` stays empty.** From the agent `EventAgent::new` makes, in every run of
the loop, over any inputs at any times, `fetch_set` is empty. -/
theorem run_fetchSet_empty (env : Env σ κ α ρ) (d : Smr σ κ α ρ) (timeConfig : TimeConfig)
    (now : Nat) (inputs : List (Nat × Input)) :
    (post (run env inputs) { d with agent := Agent.new timeConfig now }).agent.fetchSet = [] :=
  List.eq_nil_of_subset_nil (run_fetchSet_subset env _ inputs)

/-- **Every request spawns a fetch.** After any run of the loop from the agent
`EventAgent::new` makes, `request_full_block` spawns the fetch of any block it is given. -/
theorem run_requestFullBlock_fetches (env : Env σ κ α ρ) (d : Smr σ κ α ρ)
    (timeConfig : TimeConfig) (now : Nat) (inputs : List (Nat × Input)) (block : Blk) :
    post (requestFullBlock block) (post (run env inputs) { d with agent := Agent.new timeConfig now }) =
      { post (run env inputs) { d with agent := Agent.new timeConfig now } with
        trace := (post (run env inputs) { d with agent := Agent.new timeConfig now }).trace ++
          [.fetch block.height block.blockHash] } := by
  rw [requestFullBlock_post, run_fetchSet_empty]
  rfl

/-- After the two deliveries of `duplicateProposal_fetches`, a third request of the block
spawns a third fetch. -/
theorem run_requestFullBlock_fetches_trusting :
    post (requestFullBlock trustingProposal.proposal.block)
        (post (run trustingEnv [(0, .net (.signedProposal trustingProposal)),
          (0, .net (.signedProposal trustingProposal))])
          { trustingDriver with agent := Agent.new ⟨10, 3, 3, 3, 3⟩ 0 }) =
      { post (run trustingEnv [(0, .net (.signedProposal trustingProposal)),
          (0, .net (.signedProposal trustingProposal))])
          { trustingDriver with agent := Agent.new ⟨10, 3, 3, 3, 3⟩ 0 } with
        trace := (post (run trustingEnv [(0, .net (.signedProposal trustingProposal)),
          (0, .net (.signedProposal trustingProposal))])
          { trustingDriver with agent := Agent.new ⟨10, 3, 3, 3, 3⟩ 0 }).trace ++
            [.fetch 1 [5]] } :=
  run_requestFullBlock_fetches trustingEnv trustingDriver ⟨10, 3, 3, 3, 3⟩ 0 _
    trustingProposal.proposal.block

end Driver

end Overlord
