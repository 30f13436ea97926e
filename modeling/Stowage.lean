import Stowage.AccessType
import Stowage.Config
import Stowage.Container
import Stowage.Decimal.Basic
import Stowage.Decimal.Double
import Stowage.Decimal.Quotient
import Stowage.Decimal.Rounding
import Stowage.Decimal.Shortest
import Stowage.Declaration
import Stowage.DeclarationFile
import Stowage.Document.Basic
import Stowage.Document.Display
import Stowage.Document.Equality
import Stowage.Engine
import Stowage.Environment
import Stowage.Event
import Stowage.Failure
import Stowage.FileTree
import Stowage.Gateway
import Stowage.Identity.Address
import Stowage.Identity.Basic
import Stowage.Identity.Compatibility
import Stowage.Identity.HostLiteral
import Stowage.Interleaving
import Stowage.Interpolation
import Stowage.Logged
import Stowage.Migration
import Stowage.Naming
import Stowage.Program
import Stowage.Proofs.Blocks
import Stowage.Proofs.Collection
import Stowage.Proofs.Configuration
import Stowage.Proofs.Discipline
import Stowage.Proofs.Engine.Attempts
import Stowage.Proofs.Engine.Changes
import Stowage.Proofs.Engine.Creation
import Stowage.Proofs.Engine.Deletion
import Stowage.Proofs.Engine.Protocol
import Stowage.Proofs.Engine.Queries
import Stowage.Proofs.Engine.Reading
import Stowage.Proofs.Engine.Replacement
import Stowage.Proofs.Engine.Reports
import Stowage.Proofs.Engine.Tracking
import Stowage.Proofs.Engine.Waiting
import Stowage.Proofs.Environments
import Stowage.Proofs.FileTree
import Stowage.Proofs.Grouping
import Stowage.Proofs.Identity.Accounts
import Stowage.Proofs.Identity.Cuts
import Stowage.Proofs.Identity.NormalForm
import Stowage.Proofs.Identity.Parts
import Stowage.Proofs.Identity.RoundTrip
import Stowage.Proofs.Identity.Spelling
import Stowage.Proofs.Identity.Suffix
import Stowage.Proofs.Interference
import Stowage.Proofs.Interpolation
import Stowage.Proofs.Migration
import Stowage.Proofs.Naming
import Stowage.Proofs.Retry.Bound
import Stowage.Proofs.Retry.Course
import Stowage.Proofs.Retry.Pace
import Stowage.Proofs.Runs
import Stowage.Proofs.Scanning
import Stowage.Proofs.Schedules
import Stowage.Proofs.Session
import Stowage.Proofs.Store.Acknowledgement
import Stowage.Proofs.Store.Concurrency
import Stowage.Proofs.Store.Contents
import Stowage.Proofs.Store.Convergence
import Stowage.Proofs.Store.Declarations
import Stowage.Proofs.Store.Establishment
import Stowage.Proofs.Store.Inspection
import Stowage.Proofs.Store.Operations
import Stowage.Proofs.Store.Ordering
import Stowage.Proofs.Store.Reconciliation
import Stowage.Proofs.Store.Rehearsal
import Stowage.Proofs.Store.Removal
import Stowage.Proofs.Store.Replacing
import Stowage.Proofs.Store.Replay
import Stowage.Proofs.Store.Sharing
import Stowage.Proofs.Text.CharClass
import Stowage.Proofs.Text.LowerForm
import Stowage.Proofs.Text.Lowering
import Stowage.Reconciliation
import Stowage.Retry
import Stowage.Scan
import Stowage.Service
import Stowage.Session
import Stowage.Shape
import Stowage.Source.Body
import Stowage.Source.Expression
import Stowage.Source.Passage
import Stowage.Source.Token
import Stowage.Source.Value
import Stowage.Store
import Stowage.Strategy
import Stowage.Table
import Stowage.Taken
import Stowage.Template.Evaluation
import Stowage.Template.Expression
import Stowage.Template.Rendering
import Stowage.Template.Segment
import Stowage.Template.Statement
import Stowage.Template.Token
import Stowage.Template.Value
import Stowage.Text.Blank
import Stowage.Text.Case
import Stowage.Text.CaseTable
import Stowage.Text.CharRange
import Stowage.Text.Cut
import Stowage.Text.Printable
import Stowage.Text.Quoted
import Stowage.Text.WordChar
import Stowage.Timescale
import Stowage.Trial
