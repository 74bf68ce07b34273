import Overlord.State.Run
import Overlord.StateMachine

/-!
# Replicas and the network

A replica runs its State and its SMR as two tasks joined by channels: the SMR's trigger
channel, and the two event channels on which the SMR sends every event, to the State and
to the timer. The State's loop (`State::run`) takes, one at a time, a network message, an
event or the answer of a block check it spawned; the SMR's loop takes a trigger; the timer
takes an event and arms a timeout, which may run out at any later time. `Peer` holds all
of that and what the WAL holds. `World` holds the honest replicas, the addresses of the
Byzantine ones, and every message ever sent with its destination: a delivery picks any
sent message, so messages come in any order, more than once, or never.

A Byzantine replica holds its own key only. It may send any message whose signatures are
its own or were seen on the network (`World.forgeable`); a QC it builds aggregates, for
each voter, a signed vote on that vote that it holds.

`World.step` is one move of one replica; `World.run` a list of moves, `none` as soon as one
of them is not possible in the world it meets.

`World.quartet` is the world the runs of the other modules start from: four validators of
weight `1` whose collaborators answer every request, and `quartetStart` the moves that take
them to the first vote of height `1`.
-/

namespace Overlord

/-- Modelled from the spec: the timer of `smr/timer.rs` arms one timeout for each vote step
an event starts; when it runs out, it triggers the SMR from the timer. -/
def timeoutOf : SMREvent → Option SMRTrigger
  | .newRoundInfo height _ _ _ => some ⟨.proposal, .timer, [], none, height, none⟩
  | .prevoteVote height round _ _ => some ⟨.prevoteQC, .timer, [], some round, height, none⟩
  | .precommitVote height round _ _ =>
    some ⟨.precommitQC, .timer, [], some round, height, none⟩
  | .commit _ | .stop => none

/-- The errors an SMR handler returned. -/
def Exit.errors : Exit → List ConsensusError
  | .err e => [e]
  | _ => []

/-- One replica: its State and SMR, the channels between them, the timer's armed
timeouts, the block checks in flight, and the WAL. `history` is everything the State
handed out since the replica first started, `smrErrors` every error the SMR's loop logged. -/
structure Peer where
  state : State
  smr : StateMachine
  triggers : List SMRTrigger
  events : List SMREvent
  timerEvents : List SMREvent
  armed : List SMRTrigger
  checks : List (Nat × Hash × Block)
  wal : Option WalInfo
  stateLive : Bool
  smrLive : Bool
  interval : Nat
  authorityList : List Node
  history : List Output
  smrErrors : List ConsensusError
deriving DecidableEq, Repr

namespace Peer

/-- Take one output of the State: a trigger goes to the SMR, a WAL record to the WAL, a
block check to the spawned tasks. -/
def absorb (p : Peer) : Output → Peer
  | .trigger t => { p with triggers := p.triggers ++ [t] }
  | .saveWal info => { p with wal := some info }
  | .checkBlock height hash block => { p with checks := p.checks ++ [(height, hash, block)] }
  | _ => p

/-- Run one action of the State's loop; an error ends the loop. -/
def runState (p : Peer) (act : Exec Unit) : Peer × List Output :=
  let (live, s) := match act.run { p.state with out := [] } with
    | .ok () s => (true, s)
    | .error _ s => (false, s)
  let p := { p with state := { s with out := [] }, stateLive := live }
  (s.out.foldl absorb { p with history := p.history ++ s.out }, s.out)

/-- A replica that (re)starts: `State::new` and `StateMachine::new`, then `start_with_wal`
on what the WAL holds. -/
def start (address : Address) (interval : Nat) (authorityList : List Node)
    (wal : Option WalInfo) (history : List Output) (smrErrors : List ConsensusError)
    (env : Adapter) : Peer × List Output :=
  let p : Peer := ⟨State.new address interval authorityList, StateMachine.new, [], [], [], [],
    [], wal, true, true, interval, authorityList, history, smrErrors⟩
  p.runState (State.startWithWal env wal)

/-- The SMR takes its next trigger and sends the events it throws; its loop logs an error,
and a panic ends it. -/
def smrStep (p : Peer) : Option Peer :=
  match p.triggers with
  | [] => none
  | t :: rest =>
    let r := p.smr.pollNext t
    let p := { p with smr := r.sm, triggers := rest, smrLive := r.exit != .panic }
    let p := { p with events := p.events ++ r.events, timerEvents := p.timerEvents ++ r.events }
    some { p with smrErrors := p.smrErrors ++ r.exit.errors }

/-- The timer takes its next event and arms its timeout. -/
def timerStep (p : Peer) : Option Peer :=
  match p.timerEvents with
  | [] => none
  | e :: rest => some { p with timerEvents := rest, armed := p.armed ++ (timeoutOf e).toList }

/-- The `k`-th armed timeout runs out. -/
def fire (p : Peer) (k : Nat) : Option Peer := do
  let t ← p.armed[k]?
  some { p with armed := p.armed.eraseIdx k, triggers := p.triggers ++ [t] }

/-- The State takes its next event. -/
def eventStep (p : Peer) (env : Adapter) : Option (Peer × List Output) :=
  match p.events with
  | [] => none
  | e :: rest => some ({ p with events := rest }.runState (State.handleEvent env e))

/-- The `k`-th block check answers: a block that passes sends its `VerifyResp`, which the
State handles; a block that fails sends nothing. -/
def respStep (p : Peer) (env : Adapter) (k : Nat) : Option (Peer × List Output) := do
  let (height, hash, block) ← p.checks[k]?
  let p := { p with checks := p.checks.eraseIdx k }
  if env.checkBlock height hash block then
    some (p.runState (State.handleResp ⟨height, hash, true⟩))
  else some (p, [])

/-- The commits this replica made: what it handed to `Consensus::commit`. -/
def commits (p : Peer) : List Commit :=
  p.history.filterMap fun o => match o with
    | .commit _ c => some c
    | _ => none

end Peer

/-! ## The network -/

/-- The honest replicas, the Byzantine addresses, and every message sent, with its
destination. -/
structure World where
  peers : List Peer
  byzantine : List Address
  sent : List (Address × OverlordMsg)
deriving DecidableEq, Repr

/-- One move of the system. -/
inductive Action where
  /-- Replica `i` handles the `k`-th message sent, addressed to it. -/
  | deliver (i k : Nat)
  /-- Replica `i` handles a message the Byzantine replicas can build. -/
  | inject (i : Nat) (msg : OverlordMsg)
  /-- The application sends replica `i` a rich status. -/
  | status (i : Nat) (rs : Status)
  /-- The SMR of replica `i` takes its next trigger. -/
  | smr (i : Nat)
  /-- The State of replica `i` takes its next event. -/
  | event (i : Nat)
  /-- The timer of replica `i` takes its next event. -/
  | timer (i : Nat)
  /-- The `k`-th armed timeout of replica `i` runs out. -/
  | fire (i k : Nat)
  /-- The `k`-th block check of replica `i` answers. -/
  | resp (i k : Nat)
  /-- Replica `i` crashes and restarts from its WAL. -/
  | restart (i : Nat)
deriving DecidableEq, Repr

namespace World

/-- Every address of the network. -/
def addresses (w : World) : List Address := w.peers.map (·.state.address) ++ w.byzantine

/-- Send what a replica handed out: a broadcast to every other address. -/
def post (w : World) (sender : Address) (outs : List Output) : World :=
  { w with sent := w.sent ++ outs.flatMap fun o => match o with
    | .broadcast msg => (w.addresses.filter (· != sender)).map (·, msg)
    | .transmit address msg => [(address, msg)]
    | _ => [] }

/-- The aggregate signatures a message carries. -/
def aggsOf : OverlordMsg → List AggSignature
  | .aggregatedVote av => [av.signature.signature]
  | .signedProposal sp => (sp.proposal.lock.map (·.lockVotes.signature.signature)).toList
  | _ => []

/-- A vote signature the Byzantine replicas hold: their own, or one sent. -/
def seenVote (w : World) (sig : Signature Vote) : Bool :=
  w.byzantine.contains sig.signer || w.sent.any fun e => match e.2 with
    | .signedVote sv => sv.signature == sig
    | _ => false

/-- An aggregate signature the Byzantine replicas can show: one sent, or one they
aggregate from vote signatures they hold. -/
def seenAgg (w : World) (agg : AggSignature) : Bool :=
  agg.voters.all (fun v => w.seenVote ⟨v, agg.vote⟩) ||
    w.sent.any fun e => (aggsOf e.2).contains agg

/-- A message the Byzantine replicas can build. -/
def forgeable (w : World) : OverlordMsg → Bool
  | .signedVote sv => w.seenVote sv.signature
  | .aggregatedVote av => w.seenAgg av.signature.signature
  | .signedProposal sp =>
    (w.byzantine.contains sp.signature.signer || w.sent.any (·.2 == .signedProposal sp)) &&
      (aggsOf (.signedProposal sp)).all w.seenAgg
  | .richStatus _ => false

/-- Replica `i` moves by `f`; what it hands out is sent. -/
def act (w : World) (i : Nat) (f : Peer → Option (Peer × List Output)) : Option World := do
  let p ← w.peers[i]?
  let (p', outs) ← f p
  some { w.post p.state.address outs with peers := w.peers.set i p' }

/-- One move. `env a` is the collaborators of the replica of address `a`. -/
def step (env : Address → Adapter) (w : World) : Action → Option World
  | .deliver i k => w.act i fun p => do
    let (dest, msg) ← w.sent[k]?
    guard (dest == p.state.address && p.stateLive)
    some (p.runState (State.handleMsg (env dest) msg))
  | .inject i msg => w.act i fun p => do
    guard (w.forgeable msg && p.stateLive)
    some (p.runState (State.handleMsg (env p.state.address) msg))
  | .status i rs => w.act i fun p => do
    guard p.stateLive
    some (p.runState (State.handleMsg (env p.state.address) (.richStatus rs)))
  | .smr i => w.act i fun p => do
    guard p.smrLive
    some ((← p.smrStep), [])
  | .event i => w.act i fun p => do
    guard p.stateLive
    p.eventStep (env p.state.address)
  | .timer i => w.act i fun p => do some ((← p.timerStep), [])
  | .fire i k => w.act i fun p => do some ((← p.fire k), [])
  | .resp i k => w.act i fun p => do
    guard p.stateLive
    p.respStep (env p.state.address) k
  | .restart i => w.act i fun p =>
    some (Peer.start p.state.address p.interval p.authorityList p.wal p.history p.smrErrors
      (env p.state.address))

/-- A run of moves; `none` if one is not possible. -/
def run (env : Address → Adapter) (w : World) : List Action → Option World
  | [] => some w
  | a :: as => do run env (← w.step env a) as

/-- The world where every honest replica has just started, with an empty WAL. -/
def init (env : Address → Adapter) (honest byzantine : List Address) (interval : Nat)
    (authorityList : List Node) : World :=
  ⟨honest.map fun a => (Peer.start a interval authorityList none [] [] (env a)).1, byzantine, []⟩

end World

/-! ## Runs -/

namespace Peer

/-- A turn of the State's loop: the action runs from the State with nothing handed out, and
the replica takes its outputs into its history and its queues. -/
theorem runState_fst (p : Peer) (act : Exec Unit) :
    ∃ live, (p.runState act).1 = (post act { p.state with out := [] }).out.foldl absorb
      { p with
        state := { post act { p.state with out := [] } with out := [] }
        stateLive := live
        history := p.history ++ (post act { p.state with out := [] }).out } := by
  unfold runState post
  cases act.run { p.state with out := [] } <;> exact ⟨_, rfl⟩

end Peer

namespace World

variable {w : World} {i : Nat} {p : Peer}

theorem run_append (env : Address → Adapter) (w : World) (as bs : List Action) :
    w.run env (as ++ bs) = (w.run env as).bind fun w' => w'.run env bs := by
  induction as generalizing w with
  | nil => rfl
  | cons a as ih =>
    show (w.step env a).bind (fun w' => w'.run env (as ++ bs)) =
      ((w.step env a).bind fun w' => w'.run env as).bind fun w' => w'.run env bs
    simp only [ih, Option.bind_assoc]

/-- One more move after a run that reaches `w'`. -/
theorem run_snoc {env : Address → Adapter} {pre : List Action} {w' : World}
    (hw : w.run env pre = some w') (a : Action) :
    w.run env (pre ++ [a]) = w'.step env a := by
  rw [run_append, hw, Option.some_bind]
  exact Option.bind_some _

/-- A move of replica `i` by `f` replaces it by what `f` makes of it. -/
theorem act_peers {f : Peer → Option (Peer × List Output)} {p' : Peer} {outs : List Output}
    (hp : w.peers[i]? = some p) (hf : f p = some (p', outs)) :
    ∃ w', w.act i f = some w' ∧ w'.peers = w.peers.set i p' := by
  simp [act, hp, hf]

/-- The State of a live replica takes its next event. -/
theorem step_event (env : Address → Adapter) (hp : w.peers[i]? = some p)
    (hl : p.stateLive = true) {e : SMREvent} {rest : List SMREvent} (he : p.events = e :: rest) :
    ∃ w', w.step env (.event i) = some w' ∧ w'.peers = w.peers.set i
      ({ p with events := rest }.runState (State.handleEvent (env p.state.address) e)).1 :=
  act_peers hp (by simp [hl, Peer.eventStep, he]; rfl)

/-- A live replica handles a message the Byzantine replicas can build. -/
theorem step_inject (env : Address → Adapter) (hp : w.peers[i]? = some p)
    (hl : p.stateLive = true) {msg : OverlordMsg} (hf : w.forgeable msg = true) :
    ∃ w', w.step env (.inject i msg) = some w' ∧
      w'.peers = w.peers.set i (p.runState (State.handleMsg (env p.state.address) msg)).1 :=
  act_peers hp (by simp [hl, hf]; rfl)

/-- The SMR of a live replica takes its next trigger. -/
theorem step_smr (env : Address → Adapter) (hp : w.peers[i]? = some p)
    (hs : p.smrLive = true) {t : SMRTrigger} {rest : List SMRTrigger}
    (ht : p.triggers = t :: rest) :
    ∃ w', w.step env (.smr i) = some w' ∧ w'.peers = w.peers.set i
      { p with
        smr := (p.smr.pollNext t).sm
        triggers := rest
        smrLive := (p.smr.pollNext t).exit != .panic
        events := p.events ++ (p.smr.pollNext t).events
        timerEvents := p.timerEvents ++ (p.smr.pollNext t).events
        smrErrors := p.smrErrors ++ (p.smr.pollNext t).exit.errors } :=
  act_peers hp (by simp [hs, Peer.smrStep, ht]; rfl)

end World

/-! ## Four validators -/

/-- Four validators, of addresses `[0]` to `[3]` and weights `1`. -/
def quartetNodes : List Node := [⟨[0], 1, 1⟩, ⟨[1], 1, 1⟩, ⟨[2], 1, 1⟩, ⟨[3], 1, 1⟩]

/-- Collaborators that answer every request: replica `a` proposes block `[10] ++ a` of hash
`[20] ++ a`, every block passes its check, a commit answers the next height's status, and
the proposer of height `h` and round `r` is the `(h + r) % 4`-th validator. -/
def quartetEnv : Address → Adapter := fun a =>
  ⟨fun _ => .ok ([10] ++ a, [20] ++ a), fun _ _ _ => true,
    fun h _ => .ok ⟨h + 1, none, quartetNodes⟩, fun _ => .ok quartetNodes, fun _ => true,
    fun h r l => ((l[(h + r) % l.length]?).map Node.address).getD []⟩

/-- The status of height `1`. -/
def quartetStatus : Status := ⟨1, none, quartetNodes⟩

/-- The four validators, all honest, just started. -/
def World.quartet : World := World.init quartetEnv [[0], [1], [2], [3]] [] 100 quartetNodes

/-- Every replica takes the status of height `1`; replica `1`, the leader of round `0`,
proposes, the three others get the proposal, every replica checks the block and its SMR
prevotes. No State has handled its prevote yet. -/
def quartetStart : List Action :=
  [.status 0 quartetStatus, .status 1 quartetStatus, .status 2 quartetStatus,
    .status 3 quartetStatus, .smr 0, .smr 1, .smr 2, .smr 3, .event 0, .event 1, .event 2,
    .event 3, .deliver 0 0, .deliver 2 1, .deliver 3 2, .resp 0 0, .resp 1 0, .resp 2 0,
    .resp 3 0, .smr 0, .smr 1, .smr 2, .smr 3]

end Overlord
