import Injector.Settings.Reader
import Injector.Scenario.CatalogSession
import Injector.Scenario.Session
import Injector.Proofs.Bean.Forest
import Injector.Proofs.Ends
import Injector.Proofs.Lists
import Injector.Proofs.Bean.Fit
import Injector.Proofs.Scan.Change
import Injector.Proofs.Scan.Progress
import Injector.Proofs.Scan.Slot
import Injector.Proofs.Scan.Resolve
import Injector.Proofs.Scan.Run
import Injector.Proofs.Scan.Attempt
import Injector.Proofs.Hook.Draft
import Injector.Proofs.Hook.Catalog
import Injector.Proofs.Hook.Lookup
import Injector.Proofs.Bean.Dependencies
import Injector.Proofs.Bean.Invocation
import Injector.Proofs.Service.Graph
import Injector.Proofs.Service.Resolution
import Injector.Proofs.Container.Build
import Injector.Proofs.Container.Resolve
import Injector.Proofs.Scan.Budget
import Injector.Proofs.Scan.Limit
import Injector.Proofs.Service.Registration
import Injector.Proofs.Container.Assembly
import Injector.Proofs.Container.Invocation
import Injector.Proofs.Scan.Local
import Injector.Proofs.Together
import Injector.Proofs.Hook.Usage
import Injector.Proofs.Bean.Marked
import Injector.Proofs.Handler
import Injector.Proofs.Scan.Company
import Injector.Proofs.Scan.Alongside
import Injector.Proofs.Container.Repeat
import Injector.Proofs.Service.Cycle
import Injector.Proofs.Service.Acyclic
import Injector.Proofs.Service.Order
import Injector.Proofs.Container.Order
import Injector.Proofs.Container.Validation
import Injector.Proofs.Service.Asking
import Injector.Proofs.Service.Journal
import Injector.Proofs.Service.Discipline
import Injector.Proofs.Service.Trace
import Injector.Proofs.Service.Depth
import Injector.Proofs.Container.Course
import Injector.Proofs.Scan.Roster
import Injector.Proofs.Scan.Attendance
import Injector.Proofs.Scan.Activation
import Injector.Proofs.Scan.Requests
import Injector.Proofs.Scan.Walks
import Injector.Proofs.Bean.Tree
import Injector.Proofs.Scan.Farewell
import Injector.Proofs.Scan.Callback
import Injector.Proofs.Scan.LifeCycle
import Injector.Proofs.Scan.Sequence
import Injector.Proofs.Hook.Mapping
import Injector.Proofs.Scan.Claim
import Injector.Proofs.Scan.Grouping
import Injector.Proofs.Scan.Origin
import Injector.Proofs.Scan.Warrant
import Injector.Proofs.Scan.Entitlement
import Injector.Proofs.Scan.Licence
import Injector.Proofs.Scan.Access
import Injector.Proofs.Scan.Outlook
import Injector.Proofs.Service.Namespace
import Injector.Proofs.Container.Namespace
import Injector.Proofs.Scan.Task
import Injector.Proofs.Scan.Routine
import Injector.Proofs.Scan.Need
import Injector.Proofs.Scan.Failure
import Injector.Proofs.Class.Interfaces
import Injector.Proofs.Class.Overriding
import Injector.Proofs.Class.Defaults
import Injector.Proofs.Scan.Learning
import Injector.Proofs.Scan.Priority
import Injector.Proofs.Scan.Rounds
import Injector.Proofs.Scan.Coverage
import Injector.Proofs.Scan.Kinds
import Injector.Proofs.Scan.Dispatch
import Injector.Proofs.Scan.Visits
import Injector.Proofs.Service.Fault
import Injector.Proofs.Bean.Optional
import Injector.Proofs.Bean.Postorder
import Injector.Proofs.Bean.Evaluation
import Injector.Proofs.Scan.Evaluation
import Injector.Proofs.Scan.Handed
import Injector.Proofs.Scan.Talk
import Injector.Proofs.Scan.Harmless
import Injector.Proofs.Bean.Naming
import Injector.Proofs.Scan.Naming
import Injector.Proofs.Scan.Duplicates
import Injector.Proofs.Scan.Crew
import Injector.Proofs.Scan.Passage
import Injector.Proofs.Scan.Injection
import Injector.Proofs.Text.TypeName
import Injector.Proofs.Text.Suggestion
import Injector.Proofs.Bean.Declaration
import Injector.Proofs.Scan.Declaration
