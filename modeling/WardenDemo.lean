import WardenDemo.Durable.Invariant
import WardenDemo.Durable.Schedule
import WardenDemo.Durable.Queue
import WardenDemo.Durable.Trace
import WardenDemo.Durable.FirstRun
import WardenDemo.Durable.CurrentRun
import WardenDemo.Fold.LastWrite
import WardenDemo.Fold.Runs
import WardenDemo.Common.Models
import WardenDemo.Common.Json
import WardenDemo.Control.LastWriter
import WardenDemo.Control.Updates
import WardenDemo.Control.Quota
import WardenDemo.Dispatch.Conservation
import WardenDemo.Dispatch.Matching
import WardenDemo.Dispatch.Wakeup
import WardenDemo.Dispatch.Visibility
import WardenDemo.Dispatch.Bound
import WardenDemo.Courier.EndShift
import WardenDemo.Courier.Assignments
import WardenDemo.Order.Settlement
import WardenDemo.Traffic.Healing
import WardenDemo.Dispatch.Booking
import WardenDemo.Order.Independence
import WardenDemo.Traffic.Loops
import WardenDemo.Traffic.Parameters
import WardenDemo.Traffic.Survival
import WardenDemo.Traffic.Fleet
import WardenDemo.Supervision.Orphans
import WardenDemo.Supervision.Restart
import WardenDemo.Dashboard.Edits
import WardenDemo.Dispatch.Progress
import WardenDemo.Courier.Batching
import WardenDemo.Batch.Workflow
import WardenDemo.Batch.Fanout
import WardenDemo.Batch.Winners
import WardenDemo.Durable.Metering
import WardenDemo.Order.Upserts
import WardenDemo.Settlement.Workflow
import WardenDemo.Dashboard.Estimate
import WardenDemo.Supervision.Lifespan
import WardenDemo.Supervision.Startup
import WardenDemo.Durable.Network
import WardenDemo.Order.Request
import WardenDemo.Courier.Reports
import WardenDemo.Delivery.Network
import WardenDemo.Delivery.Agreement
import WardenDemo.Delivery.Bookings
import WardenDemo.Delivery.Settling
import WardenDemo.Common.Retry
import WardenDemo.Control.Cache
import WardenDemo.Order.Activities
import WardenDemo.Control.Plane
import WardenDemo.Control.Reset
import WardenDemo.Dispatch.Deadline
import WardenDemo.Supervision.Isolation
import WardenDemo.Supervision.SelfHealing
import WardenDemo.Supervision.Shutdown
import WardenDemo.Traffic.Entities
import WardenDemo.Menu.Workflow
import WardenDemo.Order.Visibility
import WardenDemo.Courier.Stats
import WardenDemo.Dispatch.Degradation
import WardenDemo.Supervision.Offline
import WardenDemo.Traffic.Relay
