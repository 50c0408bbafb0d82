import Stencil.Augmentation.Index
import Stencil.Augmentation.Parse
import Stencil.Augmentation.Write
import Stencil.Build.Config
import Stencil.Build.Manifest
import Stencil.Build.Selection
import Stencil.Definition.Build
import Stencil.Definition.Context
import Stencil.Document.Parse
import Stencil.Document.Write
import Stencil.Files.Listing
import Stencil.Main
import Stencil.Proofs.Outcome
import Stencil.Proofs.TypeText
import Stencil.Template.Render
import Stencil.Words
import Stencil.Proofs.Definition.Inversion
import Stencil.Proofs.Definition.Acceptance
import Stencil.Proofs.Definition.Closed
import Stencil.Proofs.Build.Looking
import Stencil.Proofs.Build.Checking
import Stencil.Proofs.Files.Writing
import Stencil.Proofs.Build.Rendering
import Stencil.Proofs.Template.Plain
import Stencil.Proofs.Build.Stopping
import Stencil.Proofs.Build.Containment
import Stencil.Proofs.Target.Registering
import Stencil.Proofs.Augmentation.History
import Stencil.Proofs.Augmentation.Independence
import Stencil.Proofs.Definition.Substitution
import Stencil.Proofs.Definition.Reordering
import Stencil.Proofs.Build.Redundancy
import Stencil.Proofs.Document.Reading
import Stencil.Proofs.Target.Ordering
import Stencil.Proofs.Files.Exchange
import Stencil.Proofs.Files.Making
import Stencil.Proofs.Build.Confluence
import Stencil.Proofs.Definition.Merging
import Stencil.Proofs.Definition.Relisting
import Stencil.Proofs.Augmentation.Patching
import Stencil.Proofs.Definition.Layering
import Stencil.Proofs.Words.Splitting
import Stencil.Proofs.Definition.References
import Stencil.Proofs.Definition.Describing
import Stencil.Proofs.Build.Overriding
import Stencil.Proofs.Words.Joining
import Stencil.Proofs.Build.Selecting
import Stencil.Proofs.Files.Joining
import Stencil.Proofs.Glob.Reading
import Stencil.Proofs.Files.Tree
import Stencil.Proofs.Glob.Below
import Stencil.Proofs.Files.Listing
import Stencil.Proofs.Target.Naming
