import GaleraControl.Main
import GaleraControl.Watch.Session
import GaleraControl.World.Scenario
import GaleraControl.World.Server
import GaleraControl.Proofs.CollisionAdvice
import GaleraControl.Proofs.StatusWrite
import GaleraControl.Proofs.Delivery
import GaleraControl.Proofs.BootstrapOrder
import GaleraControl.Proofs.StaleCache
import GaleraControl.Proofs.SpecEdits
import GaleraControl.Proofs.Requeues
import GaleraControl.Proofs.WorkerPool
import GaleraControl.Proofs.WakeUps
import GaleraControl.Proofs.Announcements
import GaleraControl.Proofs.EventHistory
import GaleraControl.Proofs.Coherence
import GaleraControl.Proofs.Settling
import GaleraControl.Proofs.Observation
import GaleraControl.Proofs.OrderedDocuments
import GaleraControl.Proofs.StatusDifference
import GaleraControl.Proofs.RoundTrip
import GaleraControl.Proofs.BackoffDelays
import GaleraControl.Proofs.HandOutOrder
import GaleraControl.Proofs.Shutdown
import GaleraControl.Proofs.SyncedReplicas
import GaleraControl.Proofs.KeyTexts
import GaleraControl.Proofs.ManagedObjects
import GaleraControl.Proofs.ObjectReferences
import GaleraControl.Proofs.WatchedObjects
