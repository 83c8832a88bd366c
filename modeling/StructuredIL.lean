import StructuredIL.Main
import StructuredIL.Proofs.Loading.Reporting
import StructuredIL.Proofs.Lowering.Jumps
import StructuredIL.Proofs.Lowering.Modes
import StructuredIL.Proofs.Lowering.Simulation
import StructuredIL.Proofs.Tree.Pruning
import StructuredIL.Tree.Draft
import StructuredIL.Tree.Query
import StructuredIL.Proofs.Loading.Pruning
import StructuredIL.Proofs.Loading.Reuse
import StructuredIL.Proofs.Lowering.Arms
import StructuredIL.Proofs.Text.Avoidance
import StructuredIL.Proofs.Lowering.Layout
import StructuredIL.Proofs.Lowering.Diagnostics
import StructuredIL.Proofs.CommandLine.Answers
import StructuredIL.Proofs.CommandLine.Leftovers
import StructuredIL.Proofs.Loading.Selection
import StructuredIL.Proofs.Configuration.Precedence
import StructuredIL.Proofs.Text.Nesting
import StructuredIL.Proofs.Tree.Notation
import StructuredIL.Proofs.Lowering.Likeness
import StructuredIL.Proofs.Tree.Lines
import StructuredIL.Proofs.Loading.Legibility
import StructuredIL.Proofs.Lowering.Dumps
import StructuredIL.Proofs.C.Reassociation
import StructuredIL.Proofs.Lowering.Survival
import StructuredIL.Proofs.C.IntegerTypes
import StructuredIL.Proofs.Lowering.Types
import StructuredIL.Proofs.Lowering.Names
import StructuredIL.Proofs.Lowering.Totality
import StructuredIL.Proofs.Lowering.Brackets
import StructuredIL.Proofs.CommandLine.Agreement
import StructuredIL.Proofs.Document.Sameness
import StructuredIL.Proofs.Lowering.Skeletons
import StructuredIL.Proofs.Loading.Labels
import StructuredIL.Proofs.Spelling
import StructuredIL.Proofs.Loading.Restoring
