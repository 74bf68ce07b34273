import Overlord.Types
import Overlord.StateMachine
import Overlord.StateMachine.Transition
import Overlord.StateMachine.Invariant
import Overlord.StateMachine.Lock
import Overlord.StateMachine.Commit
import Overlord.StateMachine.Round
import Overlord.StateMachine.Error
import Overlord.State.Types
import Overlord.State.Collection
import Overlord.State.Process
import Overlord.State.Run
import Overlord.System
import Overlord.State.Height
import Overlord.State.Wal
import Overlord.State.Commit
import Overlord.Agreement
import Overlord.State.Arith
import Overlord.Driver.Types
import Overlord.Driver.Smr
import Overlord.Driver.Wal
import Overlord.Driver.Agent
import Overlord.Driver.Fetch
import Overlord.State.Invariant
import Overlord.State.Loop
import Overlord.Safety
