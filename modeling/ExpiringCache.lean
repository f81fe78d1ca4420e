import ExpiringCache.Reaction
import ExpiringCache.Service.App
import ExpiringCache.Sweeper.Timeline
import ExpiringCache.Proofs.Limbs
import ExpiringCache.Proofs.Deadlines
import ExpiringCache.Proofs.Schedule.Order
import ExpiringCache.Proofs.Schedule.Queue
import ExpiringCache.Proofs.FreeSlots
import ExpiringCache.Proofs.Schedule.Valid
import ExpiringCache.Proofs.Schedule.Usage
import ExpiringCache.Proofs.Keys
import ExpiringCache.Proofs.Store.Valid
import ExpiringCache.Proofs.Cache.Invariant
import ExpiringCache.Proofs.Cache.Outcome
import ExpiringCache.Proofs.Sweeper.WakeUp
import ExpiringCache.Proofs.Sweeper.Timeline
import ExpiringCache.Proofs.Checks
import ExpiringCache.Proofs.Store.Pass
import ExpiringCache.Proofs.Store.SteadyPass
import ExpiringCache.Proofs.Store.Rounds
import ExpiringCache.Proofs.Store.Batches
import ExpiringCache.Proofs.Ledger.Machine
import ExpiringCache.Proofs.Cache.Quiet
import ExpiringCache.Proofs.Ledger.Agreement
import ExpiringCache.Proofs.Ledger.Passes
import ExpiringCache.Proofs.Ledger.Simulation
import ExpiringCache.Proofs.Cache.Outlook
import ExpiringCache.Proofs.Cache.Readers
import ExpiringCache.Proofs.Store.PassByKey
import ExpiringCache.Proofs.Store.ExactPass
import ExpiringCache.Proofs.Sweeper.Vigil
import ExpiringCache.Proofs.Cache.Dossier
import ExpiringCache.Proofs.Cache.Isolation
import ExpiringCache.Proofs.Cache.Chronicle
import ExpiringCache.Proofs.Cache.Visibility
import ExpiringCache.Proofs.Cache.Closing
import ExpiringCache.Proofs.Cache.SectionByKey
import ExpiringCache.Proofs.Cache.Course
import ExpiringCache.Proofs.Cache.Accounts
import ExpiringCache.Proofs.Cache.FailingHandlers
import ExpiringCache.Proofs.Cache.Overtaking
import ExpiringCache.Proofs.Cache.SharedLifetime
import ExpiringCache.Proofs.Schedule.Backed
import ExpiringCache.Proofs.Schedule.Accesses
import ExpiringCache.Proofs.Cache.ReadPaths
import ExpiringCache.Proofs.Cache.Record
import ExpiringCache.Proofs.Cache.Announcements
import ExpiringCache.Proofs.Store.Reprieve
import ExpiringCache.Proofs.Cache.Cycles
import ExpiringCache.Proofs.SlotHistory
import ExpiringCache.Proofs.Cache.Overrun
import ExpiringCache.Proofs.Json.Written
import ExpiringCache.Proofs.Service.JsonLibrary
import ExpiringCache.Proofs.Service.Replay
import ExpiringCache.Proofs.Service.States
import ExpiringCache.Proofs.Service.Exchange
