import RoomTimeline.Batch
import RoomTimeline.Bridge
import RoomTimeline.Config
import RoomTimeline.Controller.Session
import RoomTimeline.Fault
import RoomTimeline.Proofs.Batch.Unnumbered
import RoomTimeline.Proofs.Continuity
import RoomTimeline.Proofs.Faces
import RoomTimeline.Proofs.Controller.Coherence
import RoomTimeline.Proofs.Controller.Lossless
import RoomTimeline.Proofs.Controller.Desk
import RoomTimeline.Proofs.Controller.Fetches
import RoomTimeline.Proofs.Controller.Callers
import RoomTimeline.Proofs.Controller.Sharing
import RoomTimeline.Proofs.Controller.Parts
import RoomTimeline.Proofs.Blocks
import RoomTimeline.Proofs.Rendering
import RoomTimeline.Proofs.Identifiers
import RoomTimeline.Proofs.Json.Reading
import RoomTimeline.Proofs.Controller.Identifiers
import RoomTimeline.Proofs.Controller.Gate
import RoomTimeline.Proofs.Batch.Accepted
import RoomTimeline.Proofs.Controller.Shadow
import RoomTimeline.Proofs.Controller.Rejection
import RoomTimeline.Proofs.Batch.Splitting
import RoomTimeline.Proofs.Controller.Deeds
import RoomTimeline.Proofs.Controller.Memberships
import RoomTimeline.Proofs.Controller.Lanes
import RoomTimeline.Proofs.Controller.Ending
import RoomTimeline.Proofs.Controller.Stranding
import RoomTimeline.Proofs.Controller.Subscribing
import RoomTimeline.Proofs.Controller.Capabilities
import RoomTimeline.Proofs.Controller.Watchers
import RoomTimeline.Proofs.Config
import RoomTimeline.Proofs.SenderBlocks
import RoomTimeline.Proofs.Reactions
import RoomTimeline.Proofs.Json.Written
import RoomTimeline.Proofs.Visible
import RoomTimeline.Proofs.Keeping
import RoomTimeline.Proofs.Positions
import RoomTimeline.Proofs.Framing
import RoomTimeline.Proofs.Controller.Republishing
import RoomTimeline.Proofs.Replacing
import RoomTimeline.Proofs.Controller.Replacing
import RoomTimeline.Proofs.Batch.Offsets
import RoomTimeline.Proofs.Refolding
import RoomTimeline.Proofs.GroupingLimit
import RoomTimeline.Proofs.Identities
import RoomTimeline.Proofs.Directions
import RoomTimeline.Proofs.Batch.Origins
