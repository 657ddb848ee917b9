import Disposal.Main
import Disposal.Proofs.Closure
import Disposal.Proofs.Walk
import Disposal.TypeGraph
import Disposal.Proofs.Merge
import Disposal.Proofs.Meaning
import Disposal.Proofs.Delivery
import Disposal.Proofs.Generation
import Disposal.Proofs.Program
import Disposal.Proofs.Disposing
import Disposal.Proofs.Readback
import Disposal.Proofs.Regeneration
import Disposal.Proofs.Cancelling
import Disposal.Proofs.Sharing
import Disposal.Proofs.Worklist
import Disposal.Proofs.Partial
import Disposal.Proofs.Reaching
import Disposal.Proofs.Agreement
import Disposal.Proofs.Ordering
import Disposal.Proofs.Unrelated
import Disposal.Proofs.Outline
import Disposal.Proofs.Formatting
import Disposal.Proofs.Strictness
import Disposal.Proofs.Redeclaration
import Disposal.Proofs.Running
import Disposal.Proofs.ExitCode
import Disposal.Proofs.DiskTree
import Disposal.Proofs.Following
import Disposal.Proofs.Searching
import Disposal.Proofs.Storing
import Disposal.Proofs.Rerun
import Disposal.Proofs.Selecting
import Disposal.Proofs.Naming
import Disposal.Proofs.NamespaceForms
import Disposal.Proofs.Distinguishing
import Disposal.Proofs.Brackets
import Disposal.Proofs.WrittenTypes
import Disposal.Proofs.Lookup
import Disposal.Proofs.Shadowing
import Disposal.Proofs.Directives
import Disposal.Proofs.Coherence
import Disposal.Proofs.Advice
import Disposal.Proofs.DocumentOrder
import Disposal.Proofs.Traversing
import Disposal.Proofs.SyntaxErrors
import Disposal.Proofs.Listing
import Disposal.Proofs.Indentation
import Disposal.Proofs.Histories
