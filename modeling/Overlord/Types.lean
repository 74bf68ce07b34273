import Mathlib

/-!
# The data the SMR and the State exchange

The types of `smr/smr_types.rs` as `smr/state_machine.rs` uses them, the WAL record
`SMRBase` of `wal/wal_type.rs` that restarts the SMR, and the error kinds the two
components return.

Heights and rounds are `u64` in the code and `Nat` here: the round counter only grows
by one per round, and no modelled path wraps. A hash is the byte string `Bytes`, and
`Hash::new()` is the empty one. `Step` is ordered by declaration, as its derived
`PartialOrd` is; `Step.toU8` is its `Into<u8>` and the order compares those numbers.

`INIT_HEIGHT` and `INIT_ROUND` live in the crate root, which is not part of the sources
read here: both are `0`, the height and round a fresh SMR starts from.
-/

namespace Overlord

/-- `Bytes`: a block hash. -/
abbrev Hash := List UInt8

/-- Modelled from the spec: the crate constant `INIT_HEIGHT`, the height a fresh node
starts from ("Starting at height 0 round 0"). -/
def INIT_HEIGHT : Nat := 0

/-- Modelled from the spec: the crate constant `INIT_ROUND` ("Round ... starts at 0"). -/
def INIT_ROUND : Nat := 0

/-! ## Steps -/

/-- SMR steps. -/
inductive Step where
  | propose
  | prevote
  | precommit
  | commit
deriving DecidableEq, Repr

namespace Step

/-- `Into<u8>` of a step. -/
def toU8 : Step → Nat
  | propose => 0
  | prevote => 1
  | precommit => 2
  | commit => 3

/-- The default step is `Commit`: a fresh SMR waits for a rich status. -/
def default : Step := commit

instance : LT Step := ⟨fun a b => a.toU8 < b.toU8⟩
instance : LE Step := ⟨fun a b => a.toU8 ≤ b.toU8⟩
instance (a b : Step) : Decidable (a < b) := inferInstanceAs (Decidable (a.toU8 < b.toU8))
instance (a b : Step) : Decidable (a ≤ b) := inferInstanceAs (Decidable (a.toU8 ≤ b.toU8))

theorem le_iff {a b : Step} : a ≤ b ↔ a.toU8 ≤ b.toU8 := Iff.rfl

@[simp] theorem not_commit_lt (a : Step) : ¬commit < a := by
  cases a <;> decide

@[simp] theorem propose_lt_iff {a : Step} : propose < a ↔ a ≠ propose := by
  cases a <;> decide

@[simp] theorem prevote_lt_iff {a : Step} : prevote < a ↔ a = precommit ∨ a = commit := by
  cases a <;> decide

@[simp] theorem precommit_lt_iff {a : Step} : precommit < a ↔ a = commit := by
  cases a <;> decide

theorem le_prevote_of_not_lt {a : Step} (h : ¬prevote < a) : a ≤ prevote := by
  cases a <;> simp_all [le_iff, toU8]

@[simp] theorem lt_precommit_iff {a : Step} : a < precommit ↔ a = propose ∨ a = prevote := by
  cases a <;> decide

end Step

/-! ## Triggers and events -/

/-- An inner lock: the round and hash of a prevote QC. -/
structure Lock where
  round : Nat
  hash : Hash
deriving DecidableEq, Repr

/-- The part of a WAL record that restarts the SMR. -/
structure SMRBase where
  height : Nat
  round : Nat
  step : Step
  polc : Option Lock
deriving DecidableEq, Repr

/-- The rich status a `NewHeight` trigger carries. Its interval and duration config pass
through to the `NewRoundInfo` event unread, and are left out. -/
structure SMRStatus where
  height : Nat
deriving DecidableEq, Repr

/-- SMR trigger types, as `state_machine.rs` matches on them. -/
inductive TriggerType where
  | proposal
  | prevoteQC
  | precommitQC
  | newHeight (status : SMRStatus)
  | walInfo
deriving DecidableEq, Repr

/-- SMR trigger sources. -/
inductive TriggerSource where
  | state
  | timer
deriving DecidableEq, Repr

/-- A trigger to the SMR. For a proposal, `round` is the optional lock round; for a QC, the
QC round, which must be `Some`. -/
structure SMRTrigger where
  triggerType : TriggerType
  source : TriggerSource
  hash : Hash
  round : Option Nat
  height : Nat
  walInfo : Option SMRBase
deriving DecidableEq, Repr

/-- SMR events, for the State and the timer. -/
inductive SMREvent where
  | newRoundInfo (height round : Nat) (lockRound : Option Nat) (lockProposal : Option Hash)
  | prevoteVote (height round : Nat) (blockHash : Hash) (lockRound : Option Nat)
  | precommitVote (height round : Nat) (blockHash : Hash) (lockRound : Option Nat)
  | commit (hash : Hash)
  | stop
deriving DecidableEq, Repr

/-- The `Display` of an event, which a failed send carries. -/
def SMREvent.display : SMREvent → String
  | newRoundInfo _ round _ _ => "New round " ++ toString round ++ " event"
  | prevoteVote .. => "Prevote event"
  | precommitVote .. => "Precommit event"
  | commit _ => "Commit event"
  | stop => "Stop event"

/-- The round an event carries, if any. -/
def SMREvent.round? : SMREvent → Option Nat
  | newRoundInfo _ r _ _ | prevoteVote _ r _ _ | precommitVote _ r _ _ => some r
  | commit _ | stop => none

/-- A prevote event. -/
def SMREvent.isPrevoteVote : SMREvent → Bool
  | prevoteVote .. => true
  | _ => false

/-- A precommit event. -/
def SMREvent.isPrecommitVote : SMREvent → Bool
  | precommitVote .. => true
  | _ => false

/-! ## Errors -/

/-- The error kinds of `ConsensusError` that the SMR and the State return. -/
inductive ConsensusError where
  | other (msg : String)
  | proposalErr (msg : String)
  | prevoteErr (msg : String)
  | precommitErr (msg : String)
  | correctnessErr (msg : String)
  | selfCheckErr (msg : String)
  | throwEventErr (msg : String)
  | aggregatedSignatureErr (msg : String)
  | cryptoErr (msg : String)
  | storageErr (msg : String)
  | invalidAddress
  | saveWalErr (height round : Nat) (step : String)
  | loadWalErr (msg : String)
deriving DecidableEq, Repr

end Overlord
