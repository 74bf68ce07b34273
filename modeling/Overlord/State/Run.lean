import Overlord.State.Process

/-!
# Running the State's actions

The simp lemmas that run an `EStateM` action symbolically: `run_bind` threads the state
through a `do` block and stops at the first error, the others run the primitives. With
them, `simp` executes a handler of `process.rs` on a State it knows enough about.

`post` is the state an action leaves, whether it returns `Ok` or an error; `post_bind`
follows it through a `do` block, `post_tryCatch_pure` through a handler whose errors are
logged. Both serve the driver of `smr.rs` as well.
`reCheck_frame` says what the re-checks of a new height leave alone: the height, the
round, the blocks and what was handed out.
-/

namespace Overlord

section Run

variable {ε σ α β : Type} (s : σ)

@[simp] theorem run_pure (a : α) : (pure a : EStateM ε σ α).run s = .ok a s := rfl

@[simp] theorem run_bind (x : EStateM ε σ α) (f : α → EStateM ε σ β) :
    (x >>= f).run s = match x.run s with
      | .ok a s' => (f a).run s'
      | .error e s' => .error e s' := by
  show EStateM.bind x f s = _
  unfold EStateM.bind EStateM.run
  cases x s <;> rfl

@[simp] theorem run_get : (get : EStateM ε σ σ).run s = .ok s s := rfl

@[simp] theorem run_set (s' : σ) : (set s' : EStateM ε σ PUnit).run s = .ok ⟨⟩ s' := rfl

@[simp] theorem run_modify (f : σ → σ) :
    (modify f : EStateM ε σ PUnit).run s = .ok ⟨⟩ (f s) := rfl

@[simp] theorem run_throw (e : ε) : (throw e : EStateM ε σ α).run s = .error e s := rfl

@[simp] theorem run_tryCatch (x : EStateM ε σ α) (h : ε → EStateM ε σ α) :
    (tryCatch x h : EStateM ε σ α).run s = match x.run s with
      | .ok a s' => .ok a s'
      | .error e s' => (h e).run s' := by
  show EStateM.tryCatch x h s = _
  unfold EStateM.tryCatch EStateM.run
  cases x s <;> rfl

/-- The state an action leaves, on `Ok` or on an error. -/
def post (act : EStateM ε σ α) (s : σ) : σ :=
  match act.run s with
  | .ok _ s' => s'
  | .error _ s' => s'

/-- After a step that returns `Ok`, the state the rest leaves. -/
theorem post_bind (x : EStateM ε σ α) (f : α → EStateM ε σ β) :
    post (x >>= f) s = match x.run s with
      | .ok a s' => post (f a) s'
      | .error _ s' => s' := by
  unfold post; rw [run_bind]; cases x.run s <;> rfl

/-- A check that passes returns `Ok ()`. -/
theorem ok_of_isOk {e : Except ε Unit} (h : e.isOk = true) : e = .ok () := by
  cases e
  · cases h
  · rfl

/-- A handler whose errors are logged and dropped leaves what the handler leaves. -/
theorem post_tryCatch_pure (x : EStateM ε σ PUnit) :
    post (tryCatch x fun _ => pure ⟨⟩) s = post x s := by
  unfold post; rw [run_tryCatch]; cases x.run s <;> rfl

end Run

namespace State

@[simp] theorem run_lift_ok {α : Type} (a : α) (s : State) : (lift (.ok a)).run s = .ok a s := rfl

@[simp] theorem run_lift_error {α : Type} (e : ConsensusError) (s : State) :
    (lift (.error e) : Exec α).run s = .error e s := rfl

/-! ## What the re-checks leave alone -/

section ReCheck

variable (s : State) (env : Adapter) (h : Nat)

/-- The re-checks of a new height change only the collectors. -/
theorem reCheck_frame :
    (s.reCheck env h).height = s.height ∧ (s.reCheck env h).round = s.round ∧
      (s.reCheck env h).out = s.out ∧ (s.reCheck env h).hashWithBlock = s.hashWithBlock := by
  unfold reCheck
  split <;> dsimp only <;> split <;> simp

@[simp] theorem reCheck_height : (s.reCheck env h).height = s.height := (reCheck_frame s env h).1

@[simp] theorem reCheck_round : (s.reCheck env h).round = s.round := (reCheck_frame s env h).2.1

@[simp] theorem reCheck_out : (s.reCheck env h).out = s.out := (reCheck_frame s env h).2.2.1

@[simp] theorem reCheck_hashWithBlock : (s.reCheck env h).hashWithBlock = s.hashWithBlock :=
  (reCheck_frame s env h).2.2.2

end ReCheck

end State

end Overlord
