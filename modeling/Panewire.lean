import Panewire.Prompt.SendOnce
import Panewire.Relay.Once
import Panewire.Wire.Inject
import Panewire.Wire.Persisted
import Panewire.Arbiter.Fencing
import Panewire.Arbiter.Reclaim
import Panewire.Arbiter.Artifacts
import Panewire.Arbiter.Passes
import Panewire.Spawn.Ownership
import Panewire.Inbox.Custody
import Panewire.Inbox.Claims
import Panewire.NodeSpawn.Once
import Panewire.HubRelay.Eviction
import Panewire.HubJobs.Revocations
import Panewire.HubJobs.Absence
import Panewire.Events.Reclaim
import Panewire.Events.Writers
import Panewire.ControlPlane.Once
import Panewire.Lanes.Bookkeeping
import Panewire.Spawn.PoolCap
import Panewire.Placement.Decision
import Panewire.Fleet.Census
import Panewire.Fleet.Lifecycle
import Panewire.ControlPlane.Authority
import Panewire.Admission.Circle
import Panewire.Select.Order
import Panewire.Sweep.Worktree
import Panewire.Arbiter.Numbers
import Panewire.Prompt.Body
import Panewire.Select.Presence
import Panewire.Inbox.Superseding
import Panewire.Lanes.Rewrite
import Panewire.Quota.Decisions
import Panewire.Stall.Reads
import Panewire.Wire.Inflight
import Panewire.HubRelay.LruIndex
