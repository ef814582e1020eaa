import CompileWatch.Proofs.Actor.Serving
import CompileWatch.Proofs.Controller.Numbering
import CompileWatch.Proofs.Correlation.Run
import CompileWatch.Proofs.InlineTree.CallSite
import CompileWatch.Proofs.Session.Delivery
import CompileWatch.Session
import CompileWatch.Proofs.Dot.Reader
import CompileWatch.Proofs.Dot.Drawing
import CompileWatch.Proofs.Message.Sentinel
import CompileWatch.Proofs.Controller.Outgoing
import CompileWatch.Proofs.Controller.Register
import CompileWatch.Proofs.Controller.Selection
import CompileWatch.Proofs.Controller.Owed
import CompileWatch.Proofs.Controller.Handling
import CompileWatch.Proofs.Listing.Preview
import CompileWatch.Proofs.Listing.Mirror
import CompileWatch.Proofs.Listing.Moves
import CompileWatch.Proofs.Listing.Run
import CompileWatch.Proofs.Listing.Selected
import CompileWatch.Proofs.Store.Refinement
import CompileWatch.Proofs.Front.Conservation
import CompileWatch.Proofs.Actor.Watching
import CompileWatch.Proofs.Controller.Indicator
import CompileWatch.Proofs.Graph.RoundTrip
import CompileWatch.Proofs.Panel.Display
import CompileWatch.Proofs.Session.Agreement
import CompileWatch.Proofs.InlineTree.Flow
import CompileWatch.Proofs.InlineTree.Issue
import CompileWatch.Proofs.InlineTree.Locality
import CompileWatch.Proofs.InlineTree.Dependence
import CompileWatch.Proofs.InlineTree.Query
import CompileWatch.Proofs.InlineTree.Rounds
import CompileWatch.Proofs.Dot.Blocks
import CompileWatch.Proofs.Dot.Successors
import CompileWatch.Proofs.Dot.Rows
import CompileWatch.Proofs.Dot.Frames
import CompileWatch.Proofs.Dot.Attribute
import CompileWatch.Proofs.Message.Collision
import CompileWatch.Proofs.Panel.Refusal
import CompileWatch.Proofs.Panel.Selecting
import CompileWatch.Proofs.Message.Revision
