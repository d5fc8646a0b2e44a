import Metaobject.Main
import Metaobject.Session.Descriptions
import Metaobject.Session.Types
import Metaobject.Proofs.Contract
import Metaobject.Proofs.Storage.Effects
import Metaobject.Proofs.Storage.Ledger
import Metaobject.Proofs.Storage.Upkeep
import Metaobject.Proofs.Storage.Embedded
import Metaobject.Proofs.Storage.World
import Metaobject.Proofs.Storage.Returns
import Metaobject.Proofs.Storage.Derived
import Metaobject.Proofs.Lifecycle.Disposal
import Metaobject.Proofs.Lifecycle.Building
import Metaobject.Proofs.Lifecycle.Failure
import Metaobject.Proofs.Comparison.Exchange
import Metaobject.Proofs.Lifecycle.Soundness
import Metaobject.Proofs.Comparison.WeakOrder
import Metaobject.Proofs.Lifecycle.Assembly
import Metaobject.Proofs.Lifecycle.Termination
import Metaobject.Proofs.Lifecycle.DefaultRule
import Metaobject.Proofs.Lifecycle.Formation
import Metaobject.Proofs.Universe.Declared
import Metaobject.Proofs.Program
import Metaobject.Proofs.Lifecycle.Unseen
import Metaobject.Proofs.Storage.Liveness
import Metaobject.Proofs.Storage.Passage
import Metaobject.Proofs.Storage.Substitution
import Metaobject.Proofs.Lifecycle.Clearance
import Metaobject.Proofs.Lifecycle.Passage
import Metaobject.Proofs.Lifecycle.Supply
import Metaobject.Proofs.Lifecycle.Editing
import Metaobject.Proofs.Lifecycle.Handles
import Metaobject.Proofs.Comparison.Mixed
import Metaobject.Proofs.Storage.Transfer
import Metaobject.Proofs.Lifecycle.Permanence
import Metaobject.Proofs.Lifecycle.Abandonment
import Metaobject.Proofs.Lifecycle.Twin
import Metaobject.Proofs.Lifecycle.Accounting
import Metaobject.Proofs.Lifecycle.Aliasing
import Metaobject.Proofs.Lifecycle.Assignment
import Metaobject.Proofs.Lifecycle.NamedWrites
import Metaobject.Proofs.Text.Message
import Metaobject.Proofs.Text.Pieces
import Metaobject.Proofs.Lifecycle.Sourcing
import Metaobject.Proofs.Lifecycle.DepthFirst
import Metaobject.Proofs.Lifecycle.Levels
import Metaobject.Proofs.Lifecycle.FirstFailure
import Metaobject.Proofs.Storage.Records
import Metaobject.Proofs.Lifecycle.Frame
import Metaobject.Proofs.Comparison.Content
import Metaobject.Proofs.Lifecycle.Likeness
import Metaobject.Proofs.Lifecycle.Origins
import Metaobject.Proofs.Lifecycle.Reconstruction
import Metaobject.Proofs.Lifecycle.Ownership
import Metaobject.Proofs.Lifecycle.Pairing
import Metaobject.Proofs.Sequence.Sorting
import Metaobject.Proofs.Sequence.Searching
import Metaobject.Proofs.Text.Terminated
import Metaobject.Proofs.Comparison.Progress
import Metaobject.Proofs.Universe.Subtyping
import Metaobject.Proofs.Universe.Substitution
import Metaobject.Proofs.Lifecycle.HandingBack
import Metaobject.Proofs.Lifecycle.Zeros
import Metaobject.Proofs.Lifecycle.InPlace
import Metaobject.Proofs.Lifecycle.Substitution
import Metaobject.Proofs.Lifecycle.StandIn
import Metaobject.Proofs.Lifecycle.Conduct
import Metaobject.Proofs.Storage.Growth
