import Bombay.Fifo.Order
import Bombay.Fifo.Clock
import Bombay.Fifo.Drained
import Bombay.Keyed.Source
import Bombay.Keyed.Startups
import Bombay.Keyed.Commands
import Bombay.Keyed.Order
import Bombay.Keyed.Retirement
import Bombay.Proxy.Predecessor
import Bombay.Directory.Ready
import Bombay.Directory.Creation
import Bombay.Directory.Freshness
import Bombay.Routing.Openings
import Bombay.Discovery.Expiry
import Bombay.Effects.Resumed
import Bombay.Effects.Residual
import Bombay.Fixed.Preserved
import Bombay.Routing.Contiguous
import Bombay.Release
import Bombay.Time.Tenure
import Bombay.Pool.Join
import Bombay.Stash.Replay
import Bombay.Fsm.Deferral
import Bombay.Time.Firing
import Bombay.Workflow.Runs
import Bombay.Workflow.Generations
import Bombay.Shutdown.Tree
import Bombay.Routing.OrderGate
import Bombay.Routing.WorkQueue
import Bombay.Routing.PriorityQueue
import Bombay.Routing.Correlator
import Bombay.Routing.RateLimiter
import Bombay.Routing.RoundRobin
import Bombay.Persistence.Cache
