import LayoutInheritance.Main
import LayoutInheritance.Proofs.Store.Graph
import LayoutInheritance.Proofs.Store.Outline
import LayoutInheritance.Proofs.Block.Collect
import LayoutInheritance.Proofs.Block.Fill
import LayoutInheritance.Proofs.Inheritance.Evaluation
import LayoutInheritance.Proofs.Inheritance.Effects
import LayoutInheritance.Proofs.Inheritance.Bounds
import LayoutInheritance.Proofs.Inheritance.Document
import LayoutInheritance.Proofs.Inheritance.Graph
import LayoutInheritance.Proofs.Inheritance.Cycle
import LayoutInheritance.Proofs.Store.Depth
import LayoutInheritance.Proofs.Block.Unwrap
import LayoutInheritance.Proofs.Inheritance.Termination
import LayoutInheritance.Proofs.Inheritance.Flat
import LayoutInheritance.Proofs.Block.Visit
import LayoutInheritance.Proofs.Block.Failure
import LayoutInheritance.Proofs.Block.Flattening
import LayoutInheritance.Proofs.Block.Copying
import LayoutInheritance.Proofs.Block.Refinement
import LayoutInheritance.Proofs.Inheritance.Copying
import LayoutInheritance.Proofs.Inheritance.Refinement
import LayoutInheritance.Proofs.Inheritance.Rebuild
import LayoutInheritance.Proofs.Inheritance.Ownership
import LayoutInheritance.Proofs.Markup.RoundTrip
import LayoutInheritance.Proofs.Store.Shared
import LayoutInheritance.Proofs.Block.Substitution
import LayoutInheritance.Proofs.Block.Layers
import LayoutInheritance.Proofs.Inheritance.Chain
import LayoutInheritance.Proofs.Markup.Place
import LayoutInheritance.Proofs.Markup.Location
import LayoutInheritance.Proofs.Store.Shift
import LayoutInheritance.Proofs.Block.Shift
import LayoutInheritance.Proofs.Inheritance.Shift
import LayoutInheritance.Proofs.Inheritance.Meaning
import LayoutInheritance.Proofs.Inheritance.Resumption
import LayoutInheritance.Proofs.Inheritance.Retry
import LayoutInheritance.Proofs.Inheritance.Reuse
import LayoutInheritance.Proofs.Markup.Spine
import LayoutInheritance.Proofs.Markup.Cut
import LayoutInheritance.Proofs.Markup.Growth
import LayoutInheritance.Proofs.Markup.Parts
import LayoutInheritance.Proofs.Markup.Verbatim
import LayoutInheritance.Proofs.Store.Heads
import LayoutInheritance.Proofs.Inheritance.Origin
import LayoutInheritance.Proofs.Path.Walk
import LayoutInheritance.Proofs.Inheritance.LayoutPath
import LayoutInheritance.Proofs.Markup.Refusal
import LayoutInheritance.Proofs.Inheritance.Refusal
import LayoutInheritance.Proofs.Disk.Growth
import LayoutInheritance.Proofs.Log.Setup
import LayoutInheritance.Proofs.Block.Unplaced
import LayoutInheritance.Proofs.Inheritance.Overrides
import LayoutInheritance.Proofs.Inheritance.Trail
import LayoutInheritance.Proofs.Inheritance.Strays
import LayoutInheritance.Proofs.Options.Precedence
import LayoutInheritance.Proofs.Command.Failure
import LayoutInheritance.Proofs.Command.Reporting
import LayoutInheritance.Proofs.Options.Grammar
