import Stencil.Main
import Stencil.Service.Basic
import Stencil.Proofs.Lists
import Stencil.Proofs.Json.Alike
import Stencil.Proofs.Json.Reading
import Stencil.Proofs.Directive.Rendering
import Stencil.Proofs.Directive.Nesting
import Stencil.Proofs.Directive.Offsets
import Stencil.Proofs.Directive.SectionExpansion
import Stencil.Proofs.Naming.Delimited
import Stencil.Proofs.Naming.Alphabet
import Stencil.Proofs.Moment.Duration
import Stencil.Proofs.FileTree.Paths
import Stencil.Proofs.FileTree.Writing
import Stencil.Proofs.Schema.Grouping
import Stencil.Proofs.Schema.Absorption
import Stencil.Proofs.Schema.Positions
import Stencil.Proofs.Schema.Provenance
import Stencil.Proofs.Schema.Gathering
import Stencil.Proofs.Schema.Coherence
import Stencil.Proofs.Schema.KeywiseUnion
import Stencil.Proofs.Schema.Copies
import Stencil.Proofs.Schema.Subtypes
import Stencil.Proofs.Schema.Presence
import Stencil.Proofs.Schema.KeyOrder
import Stencil.Proofs.Schema.Reordering
import Stencil.Proofs.Schema.TextVotes
import Stencil.Proofs.Schema.Verdict
import Stencil.Proofs.Schema.Descent
import Stencil.Proofs.Format.Sorting
import Stencil.Proofs.Computation
import Stencil.Proofs.Format.Filling
import Stencil.Proofs.Format.Frame
import Stencil.Proofs.Format.InlineText
import Stencil.Proofs.Profile.Checking
import Stencil.Proofs.Profile.Builtin
import Stencil.Proofs.Format.Builtin
import Stencil.Proofs.Format.FileNames
import Stencil.Proofs.Format.References
import Stencil.Proofs.Format.Balance
import Stencil.Proofs.Profile.Registration
import Stencil.Proofs.Profile.Lookup
import Stencil.Proofs.Profile.Unrelated
import Stencil.Proofs.Schema.RoundTrip
import Stencil.Proofs.Datum.Records
import Stencil.Proofs.Datum.RoundTrip
import Stencil.Proofs.Generate.Steps
import Stencil.Proofs.Generate.KeyOrder
import Stencil.Proofs.Generate.Splitting
import Stencil.Proofs.Generate.Faults
import Stencil.Proofs.Generate.Writing
import Stencil.Proofs.Service.Generation
