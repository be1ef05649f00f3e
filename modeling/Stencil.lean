import Stencil.Config
import Stencil.Data
import Stencil.Logging.Install
import Stencil.Task
import Stencil.Proofs.Cache.Alone
import Stencil.Proofs.Cache.Leftover
import Stencil.Proofs.Cache.Nested
import Stencil.Proofs.Resolver.Transparency
import Stencil.Proofs.Cache.Size
import Stencil.Proofs.Cache.Accounts
import Stencil.Proofs.Resolver.Resolve
import Stencil.Proofs.Resolver.Retry
import Stencil.Proofs.Resolver.Tally
import Stencil.Proofs.Task.Execute
import Stencil.Proofs.Task.Order
import Stencil.Proofs.File.Walk
import Stencil.Proofs.Resolver.Account
import Stencil.Proofs.Resolver.Isolation
import Stencil.Proofs.Store.Confined
import Stencil.Proofs.Task.Counts
import Stencil.Proofs.File.Lead
import Stencil.Proofs.Store.Absence
import Stencil.Proofs.Config.Build
import Stencil.Proofs.Task.Attribution
import Stencil.Proofs.Text.Bytes
import Stencil.Proofs.Config.Dirs
import Stencil.Proofs.Subject.RoundTrip
import Stencil.Proofs.Artifact.Encoding
import Stencil.Proofs.Template.Rendering
import Stencil.Proofs.Config.Rebasing
import Stencil.Proofs.Store.Nest
import Stencil.Proofs.Failure.Report
import Stencil.Proofs.Template.Filling
import Stencil.Proofs.Config.Escaping
import Stencil.Proofs.Logging.Overlay
import Stencil.Proofs.Context.History
import Stencil.Proofs.Template.Escaping
import Stencil.Proofs.Subject.Naming
import Stencil.Proofs.Logging.Once
import Stencil.Proofs.Template.Handle
