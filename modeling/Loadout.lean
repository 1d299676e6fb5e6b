import Loadout.Text.Blank
import Loadout.Text.DecimalDigit
import Loadout.Text.LetterCase
import Loadout.Text.Quoted
import Loadout.Text.Markup
import Loadout.Text.Escape
import Loadout.Text.Utf8
import Loadout.Number.Shortest
import Loadout.Number.Places
import Loadout.Number.Numeral
import Loadout.Failure
import Loadout.Value.Sameness
import Loadout.Value.Order
import Loadout.Value.Arithmetic
import Loadout.Value.Intersection
import Loadout.Equipment
import Loadout.Run
import Loadout.Selection.ByComponent
import Loadout.Selection.DisjointRow
import Loadout.Gear.Selection
import Loadout.Entry.Graph
import Loadout.Value.Buffer
import Loadout.Catalog
import Loadout.Journal.Page
import Loadout.Journal.Desk
import Loadout.Entry.Filling
import Loadout.Entry.Reports
import Loadout.Proofs.Graph.Filling
import Loadout.Proofs.Graph.DepthFirst
import Loadout.Proofs.Distinct
import Loadout.Proofs.Graph.Partition
import Loadout.Proofs.Selection.Enumeration
import Loadout.Proofs.Selection.Independent
import Loadout.Proofs.Selection.Exhaustive
import Loadout.Proofs.Selection.Solution
import Loadout.Proofs.Selection.ByComponent
import Loadout.Proofs.Selection.Exactness
import Loadout.Proofs.Gear.Reduction
import Loadout.Proofs.Gear.Selection
import Loadout.Proofs.Gear.Exactness
import Loadout.Proofs.Gear.Shortcuts
import Loadout.Proofs.Graph.Peeling
import Loadout.Proofs.Selection.Distribution
import Loadout.Proofs.Selection.DisjointRow
import Loadout.Proofs.Value.Intersection
import Loadout.Proofs.Selection.RowBound
import Loadout.Proofs.Selection.InfiniteWeight
import Loadout.Proofs.Selection.RowChoice
import Loadout.Proofs.Selection.Repetition
import Loadout.Proofs.Gear.Repetition
import Loadout.Proofs.Gear.Rivals
import Loadout.Proofs.Gear.Precedence
import Loadout.Proofs.Gear.Grouping
import Loadout.Proofs.Gear.Slotless
import Loadout.Proofs.Gear.Insertion
import Loadout.Proofs.Selection.FirstHeaviest
import Loadout.Proofs.Graph.Representation
import Loadout.Proofs.Graph.Decomposition
import Loadout.Proofs.Entry.Queries
import Loadout.Proofs.Selection.Tracing
import Loadout.Proofs.Entry.Tracing
import Loadout.Proofs.Journal.Forest
import Loadout.Proofs.Journal.Fragments
import Loadout.Proofs.Journal.Sections
import Loadout.Proofs.Journal.Outline
import Loadout.Proofs.Journal.History
import Loadout.Proofs.Graph.PartialFilling
import Loadout.Proofs.Graph.Questions
import Loadout.Proofs.Selection.Caller
import Loadout.Proofs.Selection.Questions
import Loadout.Proofs.Gear.Questions
import Loadout.Proofs.Journal.Records
import Loadout.Proofs.Selection.Backtracking
import Loadout.Proofs.Selection.Warnings
import Loadout.Proofs.Value.Equality
import Loadout.Proofs.Entry.Intersections
import Loadout.Proofs.Sort.Insertion
import Loadout.Proofs.Sort.Merge
import Loadout.Proofs.Sort.Runs
import Loadout.Proofs.Equipment.Spelling
import Loadout.Proofs.Number.Binary64
import Loadout.Proofs.Number.Exactness
import Loadout.Proofs.Equipment.Reading
import Loadout.Proofs.Equipment.Amounts
import Loadout.Proofs.Equipment.Creation
import Loadout.Proofs.Equipment.Canonical
import Loadout.Proofs.Graph.Traversal
import Loadout.Proofs.Entry.Labels
import Loadout.Proofs.Number.Places
import Loadout.Proofs.Journal.MatrixBlock
