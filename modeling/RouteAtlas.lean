import RouteAtlas.Main
import RouteAtlas.Schema.Linking
import RouteAtlas.Schema.Validate
import RouteAtlas.Json.Printer
import RouteAtlas.Source.Standing
import RouteAtlas.Proofs.OpenApi.Settling
import RouteAtlas.Proofs.Generation.Receivers
import RouteAtlas.Proofs.Canonical.Extraction
import RouteAtlas.Proofs.Route.Truncation
import RouteAtlas.Proofs.Route.Composition
import RouteAtlas.Proofs.Generation.Skipping
import RouteAtlas.Proofs.Api.Registry
import RouteAtlas.Proofs.OpenApi.Operations
import RouteAtlas.Proofs.Generation.Loading
import RouteAtlas.Proofs.Generation.Cycles
import RouteAtlas.Proofs.Middleware.Loading
import RouteAtlas.Proofs.Generation.Expansion
import RouteAtlas.Proofs.OpenApi.Distinct
import RouteAtlas.Proofs.OpenApi.Repeating
import RouteAtlas.Proofs.OpenApi.Properties
import RouteAtlas.Proofs.OpenApi.Findings
import RouteAtlas.Proofs.CommandLine.Saving
import RouteAtlas.Proofs.Schema.Built
import RouteAtlas.Proofs.Middleware.Failures
import RouteAtlas.Proofs.Generation.Failures
import RouteAtlas.Proofs.Source.Cutting
import RouteAtlas.Proofs.Source.Closing
import RouteAtlas.Proofs.Source.Nesting
import RouteAtlas.Proofs.Source.Splitting
import RouteAtlas.Proofs.OpenApi.NullUnions
import RouteAtlas.Proofs.OpenApi.Validity
import RouteAtlas.Proofs.OpenApi.Ordering
import RouteAtlas.Proofs.Schema.Types
import RouteAtlas.Proofs.OpenApi.Meaning
import RouteAtlas.Proofs.Middleware.Classification
import RouteAtlas.Proofs.Source.Enclosing
import RouteAtlas.Proofs.Middleware.Composites
import RouteAtlas.Proofs.Middleware.Accumulation
import RouteAtlas.Proofs.Router.ImportRuns
import RouteAtlas.Proofs.Source.Objects
import RouteAtlas.Proofs.Middleware.Declarations
import RouteAtlas.Proofs.Middleware.Braces
import RouteAtlas.Proofs.Middleware.Documented
import RouteAtlas.Proofs.Route.Segments
import RouteAtlas.Proofs.Source.Quoting
import RouteAtlas.Proofs.Generation.LiveMounts
import RouteAtlas.Proofs.Router.SubMounts
import RouteAtlas.Proofs.Route.Templates
import RouteAtlas.Proofs.Text.Blanks
import RouteAtlas.Proofs.Router.Markers
import RouteAtlas.Proofs.Router.DefaultExports
import RouteAtlas.Proofs.Router.ImportLines
import RouteAtlas.Proofs.Middleware.Collisions
import RouteAtlas.Proofs.Route.Chaining
import RouteAtlas.Proofs.Router.Spans
import RouteAtlas.Proofs.OpenApi.Security
import RouteAtlas.Proofs.OpenApi.Conversion
