import Interop.Session.Run
import Interop.Context.Release
import Interop.Proofs.Cache
import Interop.Proofs.Process
import Interop.Proofs.History
import Interop.Proofs.WeakCache
import Interop.Proofs.Transparency
import Interop.Proofs.Race
import Interop.Proofs.Racing
import Interop.Proofs.Conversation
import Interop.Proofs.Gate
import Interop.Proofs.Grants
import Interop.Proofs.ByteOrder
import Interop.Proofs.Precedence
import Interop.Proofs.Isolation
import Interop.Proofs.Chronicle
import Interop.Proofs.Refusal
import Interop.Proofs.Flattening
import Interop.Proofs.Calls
import Interop.Proofs.Specificity
import Interop.Proofs.Agreement
import Interop.Proofs.Delegation
import Interop.Proofs.Naming
import Interop.Proofs.Indifference
import Interop.Proofs.Updates
import Interop.Proofs.Packages
import Interop.Proofs.Placement
import Interop.Proofs.Grammar
import Interop.Proofs.Elevations
import Interop.Proofs.Panics
import Interop.Proofs.Causes
import Interop.Proofs.Handles
import Interop.Proofs.Reentry
import Interop.Proofs.Overrides
