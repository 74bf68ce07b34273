import Overlord.Driver.Smr
import Overlord.State.Run

/-!
# The WAL comes before every outbound effect of the driver

A vote the replica signs, a proposal it signs and an execution request may leave only once
the `StateInfo` that justifies them is in the WAL. In a trace, the `StateInfo` that
justifies an outbound effect is the one the last transition before it produced. The WAL
status of a trace (`walStatus`) is that state and whether a save of it followed. A trace
is `Sound` when each outbound effect comes while that state is saved and each save it
notes succeeded.

Each function of the driver gets one `Triple`: from a driver whose trace is sound and that
meets a precondition, it keeps the trace sound, returning or not, and on `Ok` meets a
postcondition. Most steps are quiet (`QuietAct`): they keep the `StateInfo` and add no
transition, save or outbound effect, so they keep every precondition that reads only
these (`Stable`). A transition leaves its state unsaved (`Unsaved`), the save saves it
(`Synced`), and an outbound effect needs it saved. `handle_commit` and `new_round` start
with an outbound effect and need a synced driver; their callers, `handle_pre_commit_qc`,
`next_height` and `handle_choke_qc`, transition and save right before they call them.

`handleMsg_walFirst` is the result: in every run of `handle_msg`, each outbound effect
comes after a transition to some state `s` and a successful save of `s`, with no
transition in between (`Sound.walFirst`). So when that save fails, the run stops there
and the effect never happens. The other inputs of the loop, execution results, fetched
blocks and timeouts, are quiet, and a handler's error is caught with the trace still
sound; so the same holds over every run of the loop of `SMR::run` (`run_walFirst`).
-/

namespace Overlord

namespace Driver

variable {σ κ α ρ β γ : Type}

theorem outbound_of_quiet {e : Event σ} (h : e.quiet = true) : e.outbound = false := by
  cases e <;> simp_all [Event.quiet]

/-! ## The WAL status of a trace -/

section Status

variable [DecidableEq σ]

/-- What one event does to the WAL status: after a transition to `s`, `s` is unsaved; a
save of `s` saves it. -/
def walStep (st : Option (σ × Bool)) : Event σ → Option (σ × Bool)
  | .transition s => some (s, false)
  | .saveWal s => st.map fun p => (p.1, p.2 || s == p.1)
  | _ => st

/-- The state of the last transition of a trace, and whether a save of it followed;
`none` before any transition. -/
def walStatus (trace : List (Event σ)) : Option (σ × Bool) := trace.foldl walStep none

/-- From WAL status `st` on, each outbound effect of `trace` comes while the last
transition's state is saved. -/
def justifiedFrom : Option (σ × Bool) → List (Event σ) → Bool
  | _, [] => true
  | st, e :: rest => (!e.outbound || st.any (·.2)) && justifiedFrom (walStep st e) rest

/-- A sound trace: each outbound effect comes while the last transition's state is saved,
and each save it notes succeeded. -/
def Sound (env : Env σ κ α ρ) (trace : List (Event σ)) : Prop :=
  justifiedFrom none trace = true ∧ ∀ s, Event.saveWal s ∈ trace → env.wal.save s = .ok ()

@[simp] theorem walStatus_append_singleton (L : List (Event σ)) (e : Event σ) :
    walStatus (L ++ [e]) = walStep (walStatus L) e := by
  simp [walStatus]

theorem justifiedFrom_append (st : Option (σ × Bool)) (L M : List (Event σ)) :
    justifiedFrom st (L ++ M) = (justifiedFrom st L && justifiedFrom (L.foldl walStep st) M) := by
  induction L generalizing st with
  | nil => simp [justifiedFrom]
  | cons e L ih => simp [justifiedFrom, ih, Bool.and_assoc]

theorem walStep_of_quiet {e : Event σ} (h : e.quiet = true) (st : Option (σ × Bool)) :
    walStep st e = st := by
  cases e <;> simp_all [Event.quiet, walStep]

theorem sound_nil (env : Env σ κ α ρ) : Sound env [] := ⟨rfl, by simp⟩

/-- One event more keeps a trace sound, unless it is an outbound effect while the last
transition's state is unsaved, or a failed save. -/
theorem Sound.snoc {env : Env σ κ α ρ} {L : List (Event σ)} {e : Event σ} (h : Sound env L)
    (ho : e.outbound = true → (walStatus L).any (·.2) = true)
    (hs : ∀ s, e = .saveWal s → env.wal.save s = .ok ()) : Sound env (L ++ [e]) := by
  refine ⟨?_, fun s hm => ?_⟩
  · rw [justifiedFrom_append, h.1]
    cases he : e.outbound <;> simp_all [justifiedFrom, walStatus]
  · rcases List.mem_append.mp hm with hm | hm
    · exact h.2 s hm
    · exact hs s (List.mem_singleton.mp hm).symm

theorem Sound.append_quiet {env : Env σ κ α ρ} {L ev : List (Event σ)} (h : Sound env L)
    (hq : ∀ e ∈ ev, e.quiet = true) : Sound env (L ++ ev) := by
  induction ev generalizing L with
  | nil => simpa
  | cons e ev ih =>
    have he := hq e (List.mem_cons_self e ev)
    rw [← List.singleton_append, ← List.append_assoc]
    refine ih (h.snoc (by simp [outbound_of_quiet he]) ?_) fun e' h' => hq e' (by simp [h'])
    rintro s rfl
    simp [Event.quiet] at he

theorem walStatus_append_quiet {L ev : List (Event σ)} (hq : ∀ e ∈ ev, e.quiet = true) :
    walStatus (L ++ ev) = walStatus L := by
  induction ev generalizing L with
  | nil => simp
  | cons e ev ih =>
    rw [← List.singleton_append, ← List.append_assoc,
      ih fun e' h' => hq e' (by simp [h']), walStatus_append_singleton,
      walStep_of_quiet (hq e (List.mem_cons_self e ev))]

/-- A WAL status comes from the last transition: after it, only events other than
transitions, among them a save of its state if the status says saved. -/
theorem walStatus_eq_some {L : List (Event σ)} {s : σ} {b : Bool}
    (h : walStatus L = some (s, b)) :
    ∃ pre mid, L = pre ++ .transition s :: mid ∧ (∀ s', .transition s' ∉ mid) ∧
      (b = true → .saveWal s ∈ mid) := by
  induction L using List.reverseRecOn generalizing b with
  | nil => simp [walStatus] at h
  | append_singleton L e ih =>
    rw [walStatus_append_singleton] at h
    by_cases ht : ∃ s', e = .transition s'
    · obtain ⟨s', rfl⟩ := ht
      simp only [walStep, Option.some.injEq, Prod.mk.injEq] at h
      obtain ⟨rfl, rfl⟩ := h
      exact ⟨L, [], by simp, by simp, by simp⟩
    by_cases hv : ∃ s', e = .saveWal s'
    · obtain ⟨s', rfl⟩ := hv
      obtain ⟨⟨s₀, b₀⟩, hL, hp⟩ := Option.map_eq_some'.mp h
      simp only [Prod.mk.injEq] at hp
      obtain ⟨rfl, rfl⟩ := hp
      obtain ⟨pre, mid, rfl, hmid, hs⟩ := ih hL
      refine ⟨pre, mid ++ [.saveWal s'], by simp, by simp [hmid], fun hb => ?_⟩
      rcases Bool.or_eq_true_iff.mp hb with hb | hb
      · simp [hs hb]
      · simp [beq_iff_eq.mp hb]
    push_neg at ht hv
    have hq : walStep (walStatus L) e = walStatus L := by
      cases e
      case transition s' => exact absurd rfl (ht s')
      case saveWal s' => exact absurd rfl (hv s')
      all_goals rfl
    obtain ⟨pre, mid, rfl, hmid, hs⟩ := ih (hq ▸ h)
    refine ⟨pre, mid ++ [e], by simp, fun s' hm => ?_, fun hb => by simp [hs hb]⟩
    rcases List.mem_append.mp hm with hm | hm
    exacts [hmid s' hm, ht s' (List.mem_singleton.mp hm).symm]

/-- In a sound trace, an outbound effect comes after a transition to some `s` and a
successful save of `s`, with no transition in between. -/
theorem Sound.walFirst {env : Env σ κ α ρ} {before after : List (Event σ)} {e : Event σ}
    (h : Sound env (before ++ e :: after)) (he : e.outbound = true) :
    ∃ s pre mid, before = pre ++ .transition s :: mid ∧ .saveWal s ∈ mid ∧
      (∀ s', .transition s' ∉ mid) ∧ env.wal.save s = .ok () := by
  obtain ⟨hj, hs⟩ := h
  rw [justifiedFrom_append] at hj
  simp only [justifiedFrom, he, Bool.not_true, Bool.false_or, Bool.and_eq_true] at hj
  obtain ⟨⟨s, b⟩, hw, hb⟩ : ∃ p, walStatus before = some p ∧ p.2 = true := by
    cases h : walStatus before <;> simp_all [walStatus]
  obtain ⟨pre, mid, rfl, hmid, hsave⟩ := walStatus_eq_some hw
  exact ⟨s, pre, mid, rfl, hsave hb, hmid, hs s (by simp [hsave hb])⟩

end Status

/-! ## Quiet steps -/

/-- `d'` is `d` with the same `StateInfo` and only quiet events more. -/
def Keeps (d d' : Smr σ κ α ρ) : Prop :=
  d'.state = d.state ∧ ∃ ev, d'.trace = d.trace ++ ev ∧ ∀ e ∈ ev, e.quiet = true

theorem Keeps.refl (d : Smr σ κ α ρ) : Keeps d d := ⟨rfl, [], by simp, by simp⟩

theorem Keeps.trans {d₁ d₂ d₃ : Smr σ κ α ρ} (h₁ : Keeps d₁ d₂) (h₂ : Keeps d₂ d₃) :
    Keeps d₁ d₃ := by
  obtain ⟨hs₁, ev₁, ht₁, hq₁⟩ := h₁
  obtain ⟨hs₂, ev₂, ht₂, hq₂⟩ := h₂
  refine ⟨hs₂.trans hs₁, ev₁ ++ ev₂, by simp [ht₂, ht₁], fun e he => ?_⟩
  rcases List.mem_append.mp he with he | he
  exacts [hq₁ e he, hq₂ e he]

/-- An action that keeps the driver, whether it returns or not. -/
def QuietAct (x : DriverM σ κ α ρ β) : Prop := ∀ d, Keeps d (post x d)

theorem quiet_pure (a : β) : QuietAct (pure a : DriverM σ κ α ρ β) := fun d => Keeps.refl d

theorem quiet_throw (h : Halt) : QuietAct (throw h : DriverM σ κ α ρ β) := fun d => Keeps.refl d

theorem quiet_get : QuietAct (get : DriverM σ κ α ρ (Smr σ κ α ρ)) := fun d => Keeps.refl d

theorem quiet_bind {x : DriverM σ κ α ρ β} {f : β → DriverM σ κ α ρ γ} (hx : QuietAct x)
    (hf : ∀ a, QuietAct (f a)) : QuietAct (x >>= f) := by
  intro d
  have hk := hx d
  rw [post_bind]
  cases hr : x.run d with
  | ok a d' => simp only [post, hr] at hk; exact hk.trans (hf a d')
  | error e d' => simpa [post, hr] using hk

theorem quiet_liftE (r : Except OverlordError β) : QuietAct (liftE r : DriverM σ κ α ρ β) := by
  cases r
  exacts [quiet_throw _, quiet_pure _]

theorem quiet_expect (o : Option β) (msg : String) :
    QuietAct (expect o msg : DriverM σ κ α ρ β) := by
  cases o
  exacts [quiet_throw _, quiet_pure _]

theorem quiet_throwIf (c : Bool) (h : Halt) : QuietAct (throwIf c h : DriverM σ κ α ρ Unit) := by
  cases c
  exacts [quiet_pure _, quiet_throw _]

theorem quiet_record {e : Event σ} (he : e.quiet = true) :
    QuietAct (record e : DriverM σ κ α ρ Unit) :=
  fun d => ⟨rfl, [e], rfl, by simpa using he⟩

theorem quiet_modify {f : Smr σ κ α ρ → Smr σ κ α ρ} (hs : ∀ d, (f d).state = d.state)
    (ht : ∀ d, (f d).trace = d.trace) : QuietAct (modify f) :=
  fun d => ⟨hs d, [], by simp [post, ht], by simp⟩

theorem quiet_ite {c : Prop} [Decidable c] {x y : DriverM σ κ α ρ β} (hx : QuietAct x)
    (hy : QuietAct y) : QuietAct (if c then x else y) := by
  split
  exacts [hx, hy]

/-- A condition that quiet steps keep. -/
def Stable (P : Smr σ κ α ρ → Prop) : Prop := ∀ d d', Keeps d d' → P d → P d'

theorem stable_true : Stable (fun _ : Smr σ κ α ρ => True) := fun _ _ _ _ => trivial

/-! ## The quiet functions -/

section Quiet

variable {env : Env σ κ α ρ}

theorem quiet_cabinetInsert (height round : Nat) (capsule : Capsule) :
    QuietAct (cabinetInsert env height round capsule) :=
  quiet_bind quiet_get fun _ => quiet_bind (quiet_liftE _) fun _ =>
    quiet_bind (quiet_modify (fun _ => by rfl) fun _ => by rfl) fun _ => quiet_pure _

theorem quiet_filterMsg (height round : Nat) (capsule : Capsule) :
    QuietAct (filterMsg env height round capsule) := by
  refine quiet_bind quiet_get fun _ => ?_
  dsimp only
  split_ifs
  · exact quiet_throw _
  · split
    exacts [quiet_pure _, quiet_throw _]
  · exact quiet_throw _
  · exact quiet_bind (quiet_cabinetInsert _ _ _) fun _ => quiet_throw _
  · exact quiet_pure _

theorem quiet_checkProposal (p : Proposal) : QuietAct (checkProposal env p) := by
  refine quiet_bind quiet_get fun _ => quiet_bind (quiet_throwIf _ _) fun _ =>
    quiet_bind (quiet_throwIf _ _) fun _ => quiet_bind (quiet_liftE _) fun _ => ?_
  split
  exacts [quiet_liftE _, quiet_pure _]

theorem quiet_checkBlock (block : Blk) : QuietAct (checkBlock env block) := by
  refine quiet_bind quiet_get fun _ => quiet_bind (quiet_throwIf _ _) fun _ => ?_
  split
  exacts [quiet_pure _, quiet_throw _]

theorem quiet_requestFullBlock (block : Blk) :
    QuietAct (requestFullBlock block : DriverM σ κ α ρ Unit) :=
  quiet_bind quiet_get fun _ => quiet_ite (quiet_pure _) (quiet_record rfl)

theorem quiet_setTimeout (stage : Stage) : QuietAct (setTimeout stage : DriverM σ κ α ρ Bool) := by
  refine quiet_bind quiet_get fun _ => ?_
  split
  exacts [quiet_bind (quiet_record rfl) fun _ => quiet_pure _, quiet_pure _]

theorem quiet_createBlock : QuietAct (createBlock env) := by
  refine quiet_bind quiet_get fun _ => ?_
  split
  exacts [quiet_pure _, quiet_throw _]

theorem quiet_createSignedProposal : QuietAct (createSignedProposal env) := by
  refine quiet_bind quiet_get fun _ => ?_
  dsimp only
  split
  · exact quiet_bind (quiet_expect _ _) fun _ => quiet_bind (quiet_pure _) fun _ =>
      quiet_bind quiet_get fun _ => quiet_liftE _
  · exact quiet_bind quiet_createBlock fun _ => quiet_bind (quiet_pure _) fun _ =>
      quiet_bind quiet_get fun _ => quiet_liftE _

/-- A broadcast of a QC. -/
theorem quiet_broadcast {msg : OverlordMsg} (h : (Event.broadcast msg : Event σ).quiet = true) :
    QuietAct (broadcast env msg) := by
  refine quiet_bind (quiet_record h) fun _ => ?_
  split
  exacts [quiet_pure _, quiet_throw _]

theorem quiet_agentHandleFetch (fetchResult : Except OverlordError FetchedFullBlock) :
    QuietAct (agentHandleFetch fetchResult : DriverM σ κ α ρ FetchedFullBlock) := by
  unfold agentHandleFetch
  split
  · exact quiet_pure _
  · exact quiet_bind (quiet_modify (fun _ => by rfl) fun _ => by rfl) fun _ => quiet_throw _
  · exact quiet_throw _

theorem quiet_handleFetch (fetchResult : Except OverlordError FetchedFullBlock) :
    QuietAct (handleFetch env fetchResult) :=
  quiet_bind (quiet_agentHandleFetch fetchResult) fun _ => quiet_bind quiet_get fun _ =>
    quiet_bind (quiet_throwIf _ _) fun _ =>
      quiet_bind (quiet_modify (fun _ => by rfl) fun _ => by rfl) fun _ => quiet_liftE _

end Quiet

/-! ## Triples -/

variable [DecidableEq σ] (env : Env σ κ α ρ)

/-- From a driver whose trace is sound and that satisfies `P`, `x` keeps the trace sound,
and on `Ok a` leaves a driver that satisfies `Q a`. -/
def Triple (P : Smr σ κ α ρ → Prop) (x : DriverM σ κ α ρ β)
    (Q : β → Smr σ κ α ρ → Prop) : Prop :=
  ∀ d, Sound env d.trace → P d → match x.run d with
    | .ok a d' => Sound env d'.trace ∧ Q a d'
    | .error _ d' => Sound env d'.trace

/-- The state of the last transition is the current `StateInfo`, unsaved. -/
def Unsaved (d : Smr σ κ α ρ) : Prop := walStatus d.trace = some (d.state, false)

/-- The state of the last transition is the current `StateInfo`, saved. -/
def Synced (d : Smr σ κ α ρ) : Prop := walStatus d.trace = some (d.state, true)

variable {env}

theorem Triple.bind {P : Smr σ κ α ρ → Prop} {R : β → Smr σ κ α ρ → Prop}
    {Q : γ → Smr σ κ α ρ → Prop} {x : DriverM σ κ α ρ β} {f : β → DriverM σ κ α ρ γ}
    (hx : Triple env P x R) (hf : ∀ a, Triple env (R a) (f a) Q) :
    Triple env P (x >>= f) Q := by
  intro d hd hp
  have h := hx d hd hp
  rw [run_bind]
  cases hr : x.run d with
  | ok a d' => rw [hr] at h; exact hf a d' h.1 h.2
  | error e d' => rw [hr] at h; exact h

theorem Triple.mono {P P' : Smr σ κ α ρ → Prop} {Q Q' : β → Smr σ κ α ρ → Prop}
    {x : DriverM σ κ α ρ β} (h : Triple env P x Q) (hP : ∀ d, P' d → P d)
    (hQ : ∀ a d, Q a d → Q' a d) : Triple env P' x Q' := by
  intro d hd hp
  have h := h d hd (hP d hp)
  split at h <;> simp_all

/-- A triple whose postcondition says nothing. -/
theorem Triple.done {P P' : Smr σ κ α ρ → Prop} {Q : β → Smr σ κ α ρ → Prop}
    {x : DriverM σ κ α ρ β} (h : Triple env P x Q) (hP : ∀ d, P' d → P d) :
    Triple env P' x fun _ _ => True :=
  h.mono hP fun _ _ _ => trivial

/-- What a triple says of the driver it leaves, returning or not. -/
theorem Triple.post_sound {P : Smr σ κ α ρ → Prop} {Q : β → Smr σ κ α ρ → Prop}
    {x : DriverM σ κ α ρ β} (h : Triple env P x Q) {d : Smr σ κ α ρ} (hd : Sound env d.trace)
    (hp : P d) : Sound env (post x d).trace := by
  have h := h d hd hp
  unfold post
  split at h <;> simp_all

/-- A caught halt goes to a handler that must keep the trace sound from any driver. -/
theorem Triple.tryCatch {P : Smr σ κ α ρ → Prop} {Q : β → Smr σ κ α ρ → Prop}
    {x : DriverM σ κ α ρ β} {h : Halt → DriverM σ κ α ρ β} (hx : Triple env P x Q)
    (hh : ∀ e, Triple env (fun _ => True) (h e) Q) : Triple env P (tryCatch x h) Q := by
  intro d hd hp
  have hx := hx d hd hp
  rw [run_tryCatch]
  cases hr : x.run d with
  | ok a d' => rw [hr] at hx; exact hx
  | error e d' => rw [hr] at hx; exact hh e d' hx trivial

theorem triple_throw {P : Smr σ κ α ρ → Prop} {Q : β → Smr σ κ α ρ → Prop} (h : Halt) :
    Triple env P (throw h : DriverM σ κ α ρ β) Q :=
  fun _ hd _ => hd

theorem Keeps.sound {d d' : Smr σ κ α ρ} (h : Keeps d d') (hd : Sound env d.trace) :
    Sound env d'.trace := by
  obtain ⟨-, ev, ht, hq⟩ := h
  exact ht ▸ hd.append_quiet hq

theorem QuietAct.triple {P : Smr σ κ α ρ → Prop} {x : DriverM σ κ α ρ β} (hx : QuietAct x)
    (hP : Stable P) : Triple env P x fun _ => P := by
  intro d hd hp
  have hk := hx d
  cases hr : x.run d with
  | ok a d' => simp only [post, hr] at hk; exact ⟨hk.sound hd, hP d d' hk hp⟩
  | error e d' => simp only [post, hr] at hk; exact hk.sound hd

/-- A quiet step, then the rest under the same stable condition. -/
theorem QuietAct.then {P : Smr σ κ α ρ → Prop} {Q : γ → Smr σ κ α ρ → Prop}
    {x : DriverM σ κ α ρ β} {f : β → DriverM σ κ α ρ γ} (hx : QuietAct x) (hP : Stable P)
    (hf : ∀ a, Triple env P (f a) Q) : Triple env P (x >>= f) Q :=
  (hx.triple hP).bind hf

/-- `pure`, with nothing to show. -/
theorem triple_pure {P : Smr σ κ α ρ → Prop} (a : β) :
    Triple env P (pure a : DriverM σ κ α ρ β) fun _ _ => True :=
  fun _ hd _ => ⟨hd, trivial⟩

theorem Keeps.walStatus_eq {d d' : Smr σ κ α ρ} (h : Keeps d d') :
    walStatus d'.trace = walStatus d.trace := by
  obtain ⟨-, ev, ht, hq⟩ := h
  rw [ht, walStatus_append_quiet hq]

theorem stable_unsaved : Stable (Unsaved : Smr σ κ α ρ → Prop) := fun d d' h hd => by
  rw [Unsaved, h.walStatus_eq, h.1]; exact hd

theorem stable_synced : Stable (Synced : Smr σ κ α ρ → Prop) := fun d d' h hd => by
  rw [Synced, h.walStatus_eq, h.1]; exact hd

/-! ## The steps that change the WAL status -/

/-- A transition leaves its state unsaved. -/
theorem transition_triple {P : Smr σ κ α ρ → Prop} (f : σ → Except OverlordError σ) :
    Triple env P (transition f) fun _ => Unsaved := by
  intro d hd _
  unfold transition
  cases hf : f d.state with
  | error e => simpa [liftE, hf] using hd
  | ok s =>
    simp only [run_bind, run_get, hf, liftE, run_pure, run_modify]
    exact ⟨hd.snoc (by simp [Event.outbound]) (by simp), by simp [Unsaved, walStep]⟩

/-- The save of an unsaved state saves it, or stops the run. -/
theorem saveWal_triple : Triple env Unsaved (saveWal env) fun _ => Synced := by
  intro d hd hu
  unfold saveWal
  cases hs : env.wal.save d.state with
  | error e => simpa [liftE, hs] using hd
  | ok u =>
    simp only [run_bind, run_get, hs, liftE, run_pure, record, run_modify]
    refine ⟨hd.snoc (by simp [Event.outbound]) (by rintro s ⟨⟩; exact hs), ?_⟩
    unfold Unsaved at hu
    simp [Synced, hu, walStep]

/-- An event other than a transition or a save, recorded while synced. -/
theorem record_triple (e : Event σ) (he : ∀ s, e ≠ .saveWal s ∧ e ≠ .transition s) :
    Triple env Synced (record e) fun _ => Synced := by
  intro d hd hs
  unfold Synced at hs
  refine ⟨hd.snoc (fun _ => by simp [hs]) fun s h => absurd h (he s).1, ?_⟩
  simp only [Synced, walStatus_append_singleton]
  cases e <;> simp_all [walStep]

theorem transmit_triple (address : Address) (msg : OverlordMsg) :
    Triple env Synced (transmit env address msg) fun _ => Synced := by
  refine (record_triple (.transmit address msg) fun _ => ⟨by simp, by simp⟩).bind fun _ => ?_
  split
  exacts [(quiet_pure ()).triple stable_synced, (quiet_throw _).triple stable_synced]

theorem broadcast_triple (msg : OverlordMsg) :
    Triple env Synced (broadcast env msg) fun _ => Synced := by
  refine (record_triple (.broadcast msg) fun _ => ⟨by simp, by simp⟩).bind fun _ => ?_
  split
  exacts [(quiet_pure ()).triple stable_synced, (quiet_throw _).triple stable_synced]

theorem saveAndExecBlock_triple (request : ExecRequest) :
    Triple env Synced (saveAndExecBlock request) fun _ => Synced :=
  record_triple (.exec request) fun _ => ⟨by simp, by simp⟩

/-! ## The handlers -/

theorem handleSignedProposal_triple (sp : SignedProposal) :
    Triple env (fun _ => True) (handleSignedProposal env sp) fun _ _ => True := by
  unfold handleSignedProposal
  refine (quiet_filterMsg _ _ _).then stable_true fun _ => ?_
  refine (quiet_checkProposal _).then stable_true fun _ => ?_
  refine quiet_get.then stable_true fun _ => (quiet_liftE _).then stable_true fun _ => ?_
  refine (quiet_cabinetInsert _ _ _).then stable_true fun _ => ?_
  refine (quiet_checkBlock _).then stable_true fun _ => ?_
  refine (quiet_requestFullBlock _).then stable_true fun _ => ?_
  refine quiet_get.then stable_true fun _ => (quiet_throwIf _ _).then stable_true fun _ => ?_
  refine (transition_triple _).bind fun _ => ?_
  refine quiet_get.then stable_unsaved fun _ => (quiet_setTimeout _).then stable_unsaved fun _ => ?_
  refine saveWal_triple.bind fun _ => ?_
  refine quiet_get.then stable_synced fun _ => (quiet_liftE _).then stable_synced fun _ => ?_
  refine quiet_get.then stable_synced fun _ => (quiet_liftE _).then stable_synced fun _ => ?_
  exact (transmit_triple _ _).done fun _ h => h

theorem newRound_triple : Triple env Synced (newRound env) fun _ _ => True := by
  unfold newRound
  refine quiet_get.then stable_synced fun _ => (quiet_setTimeout _).then stable_synced fun _ => ?_
  refine quiet_get.then stable_synced fun _ => ?_
  split
  · exact quiet_createSignedProposal.then stable_synced fun _ =>
      (broadcast_triple _).done fun _ h => h
  · refine quiet_get.then stable_synced fun _ => ?_
    split
    refine (quiet_modify (fun _ => by rfl) fun _ => by rfl).then stable_synced fun _ => ?_
    split
    exacts [(handleSignedProposal_triple _).done fun _ _ => trivial, triple_pure _]

theorem nextHeight_triple (timeConfig : TimeConfig) :
    Triple env (fun _ => True) (nextHeight env timeConfig) fun _ _ => True := by
  unfold nextHeight
  refine (transition_triple _).bind fun _ => saveWal_triple.bind fun _ => ?_
  exact (quiet_modify (fun _ => by rfl) fun _ => by rfl).then stable_synced fun _ => newRound_triple

theorem handleCommit_triple : Triple env Synced (handleCommit env) fun _ _ => True := by
  unfold handleCommit
  refine quiet_get.then stable_synced fun _ => (quiet_expect _ _).then stable_synced fun _ => ?_
  refine (quiet_expect _ _).then stable_synced fun _ => ?_
  refine (saveAndExecBlock_triple _).bind fun _ => ?_
  refine (quiet_expect _ _).then stable_synced fun _ => ?_
  dsimp only
  refine (quiet_modify (fun _ => by rfl) fun _ => by rfl).then stable_synced fun _ => ?_
  refine (quiet_modify (fun _ => by rfl) fun _ => by rfl).then stable_synced fun _ => ?_
  refine (quiet_modify (fun _ => by rfl) fun _ => by rfl).then stable_synced fun _ => ?_
  refine quiet_get.then stable_synced fun _ => quiet_get.then stable_synced fun _ => ?_
  refine (quiet_ite (quiet_pure _) (quiet_setTimeout _)).then stable_synced fun _ => ?_
  split
  exacts [triple_pure _, (nextHeight_triple _).done fun _ _ => trivial]

theorem handlePreVoteQc_triple (qc : PreVoteQC) :
    Triple env (fun _ => True) (handlePreVoteQc env qc) fun _ _ => True := by
  unfold handlePreVoteQc
  refine (quiet_filterMsg _ _ _).then stable_true fun _ => ?_
  refine quiet_get.then stable_true fun _ => (quiet_liftE _).then stable_true fun _ => ?_
  refine (quiet_cabinetInsert _ _ _).then stable_true fun _ => ?_
  refine quiet_get.then stable_true fun _ => ?_
  split
  · refine quiet_get.then stable_true fun _ => (quiet_expect _ _).then stable_true fun _ => ?_
    refine (transition_triple _).bind fun _ => ?_
    refine quiet_get.then stable_unsaved fun _ =>
      (quiet_setTimeout _).then stable_unsaved fun _ => ?_
    refine saveWal_triple.bind fun _ => ?_
    refine quiet_get.then stable_synced fun _ => (quiet_liftE _).then stable_synced fun _ => ?_
    refine quiet_get.then stable_synced fun _ => (quiet_liftE _).then stable_synced fun _ => ?_
    exact quiet_get.then stable_synced fun _ => (transmit_triple _ _).done fun _ h => h
  · exact triple_pure _

theorem handlePreCommitQc_triple (qc : PreCommitQC) :
    Triple env (fun _ => True) (handlePreCommitQc env qc) fun _ _ => True := by
  unfold handlePreCommitQc
  refine (quiet_filterMsg _ _ _).then stable_true fun _ => ?_
  refine quiet_get.then stable_true fun _ => (quiet_liftE _).then stable_true fun _ => ?_
  refine (quiet_cabinetInsert _ _ _).then stable_true fun _ => ?_
  refine quiet_get.then stable_true fun _ => ?_
  split
  · refine quiet_get.then stable_true fun _ => (quiet_expect _ _).then stable_true fun _ => ?_
    exact (transition_triple _).bind fun _ => saveWal_triple.bind fun _ => handleCommit_triple
  · exact triple_pure _

theorem handleChokeQc_triple (qc : ChokeQC) :
    Triple env (fun _ => True) (handleChokeQc env qc) fun _ _ => True := by
  unfold handleChokeQc
  refine (quiet_filterMsg _ _ _).then stable_true fun _ => ?_
  refine quiet_get.then stable_true fun _ => (quiet_liftE _).then stable_true fun _ => ?_
  exact (transition_triple _).bind fun _ => saveWal_triple.bind fun _ => newRound_triple

theorem handleSignedPreVote_triple (sv : SignedPreVote) :
    Triple env (fun _ => True) (handleSignedPreVote env sv) fun _ _ => True := by
  unfold handleSignedPreVote
  refine (quiet_filterMsg _ _ _).then stable_true fun _ => ?_
  refine quiet_get.then stable_true fun _ => (quiet_liftE _).then stable_true fun _ => ?_
  refine (quiet_cabinetInsert _ _ _).then stable_true fun _ => ?_
  split
  · refine quiet_get.then stable_true fun _ => ?_
    split
    · refine (quiet_expect _ _).then stable_true fun _ => ?_
      refine quiet_get.then stable_true fun _ => (quiet_expect _ _).then stable_true fun _ => ?_
      refine quiet_get.then stable_true fun _ => (quiet_liftE _).then stable_true fun _ => ?_
      exact (quiet_broadcast (by rfl)).then stable_true fun _ => handlePreVoteQc_triple _
    · exact triple_pure _
  · exact triple_pure _

theorem handleSignedPreCommit_triple (sv : SignedPreCommit) :
    Triple env (fun _ => True) (handleSignedPreCommit env sv) fun _ _ => True := by
  unfold handleSignedPreCommit
  refine (quiet_filterMsg _ _ _).then stable_true fun _ => ?_
  refine quiet_get.then stable_true fun _ => (quiet_liftE _).then stable_true fun _ => ?_
  refine (quiet_cabinetInsert _ _ _).then stable_true fun _ => ?_
  split
  · refine quiet_get.then stable_true fun _ => ?_
    split
    · refine (quiet_expect _ _).then stable_true fun _ => ?_
      refine quiet_get.then stable_true fun _ => (quiet_expect _ _).then stable_true fun _ => ?_
      refine quiet_get.then stable_true fun _ => (quiet_liftE _).then stable_true fun _ => ?_
      exact (quiet_broadcast (by rfl)).then stable_true fun _ => handlePreCommitQc_triple _
    · exact triple_pure _
  · exact triple_pure _

theorem handleSignedChoke_triple (sc : SignedChoke) :
    Triple env (fun _ => True) (handleSignedChoke env sc) fun _ _ => True := by
  unfold handleSignedChoke
  refine (quiet_filterMsg _ _ _).then stable_true fun _ => ?_
  refine quiet_get.then stable_true fun _ => (quiet_liftE _).then stable_true fun _ => ?_
  refine (quiet_cabinetInsert _ _ _).then stable_true fun _ => ?_
  split
  · refine quiet_get.then stable_true fun _ => ?_
    split
    · refine quiet_get.then stable_true fun _ => (quiet_expect _ _).then stable_true fun _ => ?_
      exact quiet_get.then stable_true fun _ =>
        (quiet_liftE _).then stable_true fun _ => handleChokeQc_triple _
    · split
      exacts [handlePreVoteQc_triple _, handlePreCommitQc_triple _, handleChokeQc_triple _]
  · exact triple_pure _

theorem handleMsg_triple (msg : OverlordMsg) :
    Triple env (fun _ => True) (handleMsg env msg) fun _ _ => True := by
  cases msg
  exacts [handleSignedProposal_triple _, handleSignedPreVote_triple _,
    handleSignedPreCommit_triple _, handleSignedChoke_triple _, handlePreVoteQc_triple _,
    handlePreCommitQc_triple _, triple_pure _]

/-- **The WAL comes first.** In every run of `handle_msg`, from any driver, every signed
vote transmitted, every signed proposal broadcast and every execution request comes after
a transition of the `StateInfo` to some `s` and a successful save of `s` in the WAL, with
no transition in between. -/
theorem handleMsg_walFirst (env : Env σ κ α ρ) (d : Smr σ κ α ρ) (msg : OverlordMsg)
    (before after : List (Event σ)) (e : Event σ)
    (ht : (post (handleMsg env msg) { d with trace := [] }).trace = before ++ e :: after)
    (he : e.outbound = true) :
    ∃ s pre mid, before = pre ++ .transition s :: mid ∧ .saveWal s ∈ mid ∧
      (∀ s', .transition s' ∉ mid) ∧ env.wal.save s = .ok () := by
  have h : Sound env (post (handleMsg env msg) { d with trace := [] }).trace :=
    (handleMsg_triple msg).post_sound (sound_nil env) trivial
  rw [ht] at h
  exact h.walFirst he

/-! ## A prevote -/

/-- Collaborators that accept every message and every check: the `StateInfo` is its stage,
a proposal moves it to the prevote step, and the leader of every round is `[1]`. -/
def trustingEnv : Env Stage Unit Unit Unit :=
  ⟨⟨id, fun _ => none, fun _ => none, fun _ => none,
      fun s sp => .ok ⟨s.height, sp.proposal.round, .preVote⟩,
      fun s _ _ => .ok { s with step := .preCommit }, fun s _ _ => .ok { s with step := .commit },
      fun s qc => .ok ⟨s.height, qc.choke.round + 1, .propose⟩,
      fun s => ⟨s.height + 1, 0, .propose⟩⟩,
    ⟨fun c _ _ _ => .ok (c, none), fun _ _ _ _ => none, fun _ _ _ _ => none,
      fun _ _ _ => none, fun _ _ _ => none, fun _ _ _ => none, fun c _ _ => (c, none),
      fun c _ => c, fun c _ _ => c⟩,
    ⟨fun _ => [0], fun _ _ => .ok (), fun _ _ => .ok (), fun _ _ => .ok (), fun _ _ => .ok (),
      fun _ _ => .ok (), fun _ _ => .ok (), fun _ _ => .ok (), fun _ _ => .ok (),
      fun _ _ => true, fun _ _ => .error .debugHigh, fun _ _ => .error .debugHigh,
      fun _ _ => .error .debugHigh, fun _ => .ok (), fun _ v => .ok ⟨v, [0]⟩,
      fun _ v => .ok ⟨v, [0]⟩, fun _ p => .ok ⟨p, [0]⟩, fun _ _ _ => false,
      fun _ _ _ => [1], fun a _ => a⟩,
    ⟨fun _ => [], fun _ => 0, fun p _ _ _ _ => (p, ⟨⟨[], ⟨10, 3, 3, 3, 3⟩⟩⟩), fun p _ => p⟩,
    ⟨fun _ _ => .ok (), fun _ _ => .error "", fun _ _ => .ok (), fun _ => .ok ()⟩,
    ⟨fun _ => .ok (), fun _ => .ok ()⟩⟩

/-- A replica at height `1`, round `0`, that has done nothing yet. -/
def trustingDriver : Smr Stage Unit Unit Unit :=
  ⟨⟨1, 0, .propose⟩, (), (), (), ⟨⟨10, 3, 3, 3, 3⟩, 0, []⟩, 0, []⟩

/-- The proposal of block `[5]` at height `1`, round `0`, by `[1]`. -/
def trustingProposal : SignedProposal :=
  ⟨⟨1, 0, ⟨1, [5], [], ⟨⟨0, 0, []⟩⟩, 0⟩, [5], none, [1]⟩, [1]⟩

/-- The replica fetches the block, takes the proposal, arms its timer, saves the WAL and
then transmits its prevote to the leader. -/
theorem trustingProposal_walFirst :
    (post (handleMsg trustingEnv (.signedProposal trustingProposal))
        { trustingDriver with trace := [] }).trace =
      [.fetch 1 [5], .transition ⟨1, 0, .preVote⟩, .timer ⟨1, 0, .preVote⟩ 3,
        .saveWal ⟨1, 0, .preVote⟩] ++ [.transmit [1] (.signedPreVote ⟨⟨1, 0, [5]⟩, [0]⟩)] ∧
    (Event.transmit [1] (.signedPreVote ⟨⟨1, 0, [5]⟩, [0]⟩) : Event Stage).outbound = true ∧
    ∃ s pre mid, ([.fetch 1 [5], .transition ⟨1, 0, .preVote⟩, .timer ⟨1, 0, .preVote⟩ 3,
        .saveWal ⟨1, 0, .preVote⟩] : List (Event Stage)) = pre ++ .transition s :: mid ∧
      .saveWal s ∈ mid ∧
      (∀ s', .transition s' ∉ mid) ∧ trustingEnv.wal.save s = .ok () := by
  have ht : (post (handleMsg trustingEnv (.signedProposal trustingProposal))
      { trustingDriver with trace := [] }).trace =
        [.fetch 1 [5], .transition ⟨1, 0, .preVote⟩, .timer ⟨1, 0, .preVote⟩ 3,
          .saveWal ⟨1, 0, .preVote⟩] ++ [.transmit [1] (.signedPreVote ⟨⟨1, 0, [5]⟩, [0]⟩)] :=
    rfl
  exact ⟨ht, rfl, handleMsg_walFirst trustingEnv trustingDriver _ _ _ _ ht rfl⟩

/-! ## The loop -/

theorem handleInput_triple (input : Input) :
    Triple env (fun _ => True) (handleInput env input) fun _ _ => True := by
  cases input with
  | net msg =>
    exact (handleMsg_triple msg).tryCatch fun | .err _ => triple_pure _ | .panic _ => triple_throw _
  | exec result =>
    have hq : QuietAct (handleInput env (.exec result)) := quiet_modify (fun _ => rfl) fun _ => rfl
    exact (hq.triple stable_true).done fun _ h => h
  | fetch result =>
    have hq : QuietAct (handleFetch env result) := quiet_handleFetch result
    exact ((hq.triple stable_true).done fun _ h => h).tryCatch
      fun | .err _ => triple_pure _ | .panic _ => triple_throw _
  | timeout event =>
    exact (triple_pure ()).tryCatch fun | .err _ => triple_pure _ | .panic _ => triple_throw _

theorem run_triple (inputs : List (Nat × Input)) :
    Triple env (fun _ => True) (run env inputs) fun _ _ => True := by
  induction inputs with
  | nil => exact triple_pure _
  | cons input inputs ih =>
    exact (quiet_modify (fun _ => by rfl) fun _ => by rfl).then stable_true fun _ =>
      (handleInput_triple input.2).bind fun _ => ih

/-- **The WAL comes first, over the whole life of the driver.** In every run of the loop of
`SMR::run`, from any driver, over any inputs at any times, every signed vote transmitted,
every signed proposal broadcast and every execution request comes after a transition of
the `StateInfo` to some `s` and a successful save of `s` in the WAL, with no transition in
between. -/
theorem run_walFirst (env : Env σ κ α ρ) (d : Smr σ κ α ρ) (inputs : List (Nat × Input))
    (before after : List (Event σ)) (e : Event σ)
    (ht : (post (run env inputs) { d with trace := [] }).trace = before ++ e :: after)
    (he : e.outbound = true) :
    ∃ s pre mid, before = pre ++ .transition s :: mid ∧ .saveWal s ∈ mid ∧
      (∀ s', .transition s' ∉ mid) ∧ env.wal.save s = .ok () := by
  have h : Sound env (post (run env inputs) { d with trace := [] }).trace :=
    (run_triple inputs).post_sound (sound_nil env) trivial
  rw [ht] at h
  exact h.walFirst he

/-- The loop takes the proposal at time `0`: the run of `trustingProposal_walFirst`. -/
theorem trustingRun_walFirst :
    (post (run trustingEnv [(0, .net (.signedProposal trustingProposal))])
        { trustingDriver with trace := [] }).trace =
      [.fetch 1 [5], .transition ⟨1, 0, .preVote⟩, .timer ⟨1, 0, .preVote⟩ 3,
        .saveWal ⟨1, 0, .preVote⟩] ++ [.transmit [1] (.signedPreVote ⟨⟨1, 0, [5]⟩, [0]⟩)] ∧
    (Event.transmit [1] (.signedPreVote ⟨⟨1, 0, [5]⟩, [0]⟩) : Event Stage).outbound = true ∧
    ∃ s pre mid, ([.fetch 1 [5], .transition ⟨1, 0, .preVote⟩, .timer ⟨1, 0, .preVote⟩ 3,
        .saveWal ⟨1, 0, .preVote⟩] : List (Event Stage)) = pre ++ .transition s :: mid ∧
      .saveWal s ∈ mid ∧ (∀ s', .transition s' ∉ mid) ∧ trustingEnv.wal.save s = .ok () := by
  have ht : (post (run trustingEnv [(0, .net (.signedProposal trustingProposal))])
      { trustingDriver with trace := [] }).trace =
        [.fetch 1 [5], .transition ⟨1, 0, .preVote⟩, .timer ⟨1, 0, .preVote⟩ 3,
          .saveWal ⟨1, 0, .preVote⟩] ++ [.transmit [1] (.signedPreVote ⟨⟨1, 0, [5]⟩, [0]⟩)] :=
    rfl
  exact ⟨ht, rfl, run_walFirst trustingEnv trustingDriver _ _ _ _ ht rfl⟩

end Driver

end Overlord
