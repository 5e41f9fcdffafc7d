import Authorization.Audit
import Authorization.Config
import Authorization.Constraint.Basic
import Authorization.Constraint.Index
import Authorization.Decimal.Binary64
import Authorization.Decimal.Format
import Authorization.Environment
import Authorization.Identifier
import Authorization.Instant
import Authorization.Json.Basic
import Authorization.Json.Fault
import Authorization.Json.Reader
import Authorization.Json.Scan
import Authorization.Json.Shape
import Authorization.Json.Skip
import Authorization.Permission.Table
import Authorization.Permission.Target
import Authorization.Proofs.Canonical
import Authorization.Proofs.Chains
import Authorization.Proofs.Chronicles
import Authorization.Proofs.Commutation
import Authorization.Proofs.Connections
import Authorization.Proofs.Constraints
import Authorization.Proofs.Decision
import Authorization.Proofs.Denial
import Authorization.Proofs.Documents
import Authorization.Proofs.Effects
import Authorization.Proofs.Entries
import Authorization.Proofs.Families
import Authorization.Proofs.FirstGrants
import Authorization.Proofs.Grants
import Authorization.Proofs.IdentifierOrder
import Authorization.Proofs.IdentifierTexts
import Authorization.Proofs.Insertions
import Authorization.Proofs.Interleavings
import Authorization.Proofs.Isolation
import Authorization.Proofs.Listings
import Authorization.Proofs.Loading
import Authorization.Proofs.NamedRoles
import Authorization.Proofs.Numerals
import Authorization.Proofs.Operations
import Authorization.Proofs.Rebuilding
import Authorization.Proofs.Reordering
import Authorization.Proofs.Replication
import Authorization.Proofs.Requests
import Authorization.Proofs.ReservedAttributes
import Authorization.Proofs.Rewording
import Authorization.Proofs.RoleLists
import Authorization.Proofs.RoundTrip
import Authorization.Proofs.Runs
import Authorization.Proofs.Scenes
import Authorization.Proofs.Services
import Authorization.Proofs.Sorting
import Authorization.Proofs.Soundness
import Authorization.Proofs.Targets
import Authorization.Proofs.Trails
import Authorization.Proofs.Words
import Authorization.Proofs.Written
import Authorization.Role
import Authorization.Session.Basic
import Authorization.Session.Builder
import Authorization.Session.Command
import Authorization.Session.Query
import Authorization.Session.Registry
import Authorization.Session.Script
import Authorization.Text.Blank
import Authorization.Text.LowerCase
import Authorization.Text.Quoted
import Authorization.Wire
