import TaggedContent.Json.Printing
import TaggedContent.Json.Reading
import TaggedContent.Resolution.Walk
import TaggedContent.Proofs.Entries
import TaggedContent.Proofs.Path
import TaggedContent.Proofs.Verdict
import TaggedContent.Proofs.Tag
import TaggedContent.Proofs.Resolution.Outcome
import TaggedContent.Proofs.Resolution.Passes
import TaggedContent.Proofs.Resolution.Mirroring
import TaggedContent.Proofs.Resolution.LocksAndMarks
import TaggedContent.Proofs.Resolution.Relocation
import TaggedContent.Proofs.Resolution.Thinning
import TaggedContent.Proofs.Resolution.Inertness
import TaggedContent.Proofs.Resolution.Invariants
import TaggedContent.Proofs.Resolution.Independence
import TaggedContent.Proofs.Resolution.Aliases
import TaggedContent.Proofs.Resolution.Precedence
import TaggedContent.Proofs.Resolution.NormalForm
import TaggedContent.Proofs.Resolution.Idempotence
import TaggedContent.Proofs.Tag.Grammar
import TaggedContent.Proofs.Tree.Rearranged
import TaggedContent.Proofs.Resolution.Shuffling
import TaggedContent.Proofs.Resolution.Choices
import TaggedContent.Proofs.Resolution.Locking
import TaggedContent.Proofs.Resolution.Reordering
import TaggedContent.Proofs.Resolution.Disabling
import TaggedContent.Proofs.Tree.Addressing
import TaggedContent.Proofs.Resolution.Failures
import TaggedContent.Proofs.Pattern.Assembly
import TaggedContent.Proofs.Pattern.Matching
import TaggedContent.Proofs.Pattern.Ordering
import TaggedContent.Proofs.Pattern.Bracket
import TaggedContent.Proofs.Pattern.Scanning
import TaggedContent.Proofs.Pattern.Anchoring
import TaggedContent.Proofs.Pattern.WholeMatch
import TaggedContent.Proofs.Pattern.LeastSize
import TaggedContent.Proofs.Pattern.ExactSize
import TaggedContent.Proofs.Resolution.Rejection
import TaggedContent.Proofs.Json.Quoted
import TaggedContent.Proofs.Json.Number
import TaggedContent.Proofs.Tree.Naming
import TaggedContent.Proofs.Json.RoundTrip
import TaggedContent.Proofs.Resolution.Targets
import TaggedContent.Proofs.Resolution.Placement
import TaggedContent.Proofs.Resolution.Extraction
import TaggedContent.Proofs.Resolution.Reporting
import TaggedContent.Proofs.Resolution.Audit
import TaggedContent.Proofs.Pattern.Transparency
import TaggedContent.Proofs.Parameter.Question
import TaggedContent.Proofs.Resolution.Parameters
import TaggedContent.Proofs.Tag.Registered
import TaggedContent.Proofs.Tag.EditDistance
import TaggedContent.Proofs.Tag.Suggestion
import TaggedContent.Proofs.Resolution.NearMiss
import TaggedContent.Proofs.Resolution.Marking
