import AddressSync.Cloudflare.Api
import AddressSync.Detection.Source
import AddressSync.Environment
import AddressSync.Http.Form
import AddressSync.Main
import AddressSync.Proofs.Directory.History
import AddressSync.Proofs.Reconcile.Continuity
import AddressSync.Proofs.Service.CleanUp
import AddressSync.Settings.Json
import AddressSync.Simulation.Server
import AddressSync.Simulation.World
import AddressSync.Proofs.Directory.Staleness
import AddressSync.Proofs.Provider.Items
import AddressSync.Proofs.Reconcile.Plan
import AddressSync.Proofs.Reconcile.Population
import AddressSync.Proofs.Reconcile.Upkeep
import AddressSync.Proofs.Reconcile.Order
import AddressSync.Proofs.Reconcile.Requests
import AddressSync.Proofs.Reconcile.Restraint
import AddressSync.Proofs.Reconcile.Coverage
import AddressSync.Proofs.Service.Sighting
import AddressSync.Proofs.Service.Safety
import AddressSync.Proofs.Reconcile.Tidiness
import AddressSync.Proofs.Surroundings.Staged
import AddressSync.Proofs.Reconcile.Transparency
import AddressSync.Proofs.Reconcile.Completion
import AddressSync.Proofs.Reconcile.Repetition
import AddressSync.Proofs.Reconcile.Retrial
import AddressSync.Proofs.Service.Deadlines
import AddressSync.Proofs.Service.Rounds
import AddressSync.Proofs.Service.News
import AddressSync.Proofs.Directory.Overtaking
import AddressSync.Proofs.Directory.Missing
import AddressSync.Proofs.Service.Containment
import AddressSync.Proofs.Cloudflare.Session
import AddressSync.Proofs.Cloudflare.FailClosed
import AddressSync.Proofs.Cloudflare.Requests
import AddressSync.Proofs.Cloudflare.Trial
import AddressSync.Proofs.Cloudflare.Secrecy
import AddressSync.Proofs.Domain.Reading
import AddressSync.Proofs.Json.Shapes
import AddressSync.Proofs.Settings.RoundTrip
import AddressSync.Proofs.Cache.History
import AddressSync.Proofs.Cache.Stamps
import AddressSync.Proofs.Domain.Suffixes
import AddressSync.Proofs.Directory.Resolution
import AddressSync.Proofs.Provider.Without
import AddressSync.Proofs.Reconcile.Distance
import AddressSync.Proofs.Reconcile.Economy
import AddressSync.Proofs.Reconcile.Deletion
import AddressSync.Proofs.Reconcile.Clearance
import AddressSync.Proofs.Http.Visit
import AddressSync.Proofs.Cloudflare.Paging
import AddressSync.Proofs.Cloudflare.Courses
import AddressSync.Proofs.Cloudflare.Completeness
import AddressSync.Proofs.Cloudflare.Waiting
import AddressSync.Proofs.Address.Bits
import AddressSync.Proofs.Domain.Grammar
import AddressSync.Proofs.Address.Digits
import AddressSync.Proofs.Address.RoundTrip
import AddressSync.Proofs.Cloudflare.Echo
import AddressSync.Proofs.Domain.Canonical
import AddressSync.Proofs.Domain.Descent
import AddressSync.Proofs.Detection.Pages
import AddressSync.Proofs.Domain.Order
import AddressSync.Proofs.Environment.Loading
import AddressSync.Proofs.Settings.Validation
import AddressSync.Proofs.Surroundings.Booked
import AddressSync.Proofs.Service.Limits
