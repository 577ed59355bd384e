import Spacing.Config.File
import Spacing.Draft.History
import Spacing.Draft.Query
import Spacing.Segment.Stops
import Spacing.Proofs.Patch
import Spacing.Proofs.Stretch
import Spacing.Proofs.Offset
import Spacing.Proofs.Range
import Spacing.Proofs.Change
import Spacing.Proofs.Rendering
import Spacing.Proofs.Effect
import Spacing.Proofs.NormalForm
import Spacing.Proofs.Splicing
import Spacing.Proofs.Tokens
import Spacing.Proofs.Traversal
import Spacing.Proofs.Addressing
import Spacing.Proofs.Landing
import Spacing.Proofs.Atomicity
import Spacing.Proofs.Verdict
import Spacing.Proofs.Acceptance
import Spacing.Proofs.Removal
import Spacing.Proofs.Frame
import Spacing.Proofs.Resubmission
import Spacing.Proofs.Separation
import Spacing.Proofs.Replay
import Spacing.Proofs.Reading
import Spacing.Proofs.Locality
import Spacing.Proofs.Columns
import Spacing.Proofs.Table
import Spacing.Proofs.Lookup
import Spacing.Patch.Columns
import Spacing.Proofs.Search
import Spacing.Proofs.TokenSearch
import Spacing.Proofs.Weaving
import Spacing.Proofs.Summary
import Spacing.Proofs.Expansion
import Spacing.Proofs.Journal
import Spacing.Proofs.Touching
import Spacing.Proofs.Description
import Spacing.Proofs.Mapping
import Spacing.Proofs.Loading
import Spacing.Proofs.Whole
import Spacing.Proofs.Settings
