import MotionLink.Board
import MotionLink.Main
import MotionLink.Stream.FrameReader
import MotionLink.Stream.PacketBuffer
import MotionLink.Stream.Sink
import MotionLink.Proofs.Layout.Packing
import MotionLink.Proofs.Frame.Parts
import MotionLink.Proofs.Frame.Access
import MotionLink.Proofs.Frame.RoundTrip
import MotionLink.Proofs.Frame.Format
import MotionLink.Proofs.Stream.Blocks
import MotionLink.Proofs.Checksum.Message
import MotionLink.Proofs.Checksum.Detection
import MotionLink.Proofs.Frame.Corruption
import MotionLink.Proofs.Layout.Rewriting
import MotionLink.Proofs.Frame.Exactness
import MotionLink.Proofs.Frame.Rewriting
import MotionLink.Proofs.Frame.Errors
import MotionLink.Proofs.Stream.Turns
import MotionLink.Proofs.Stream.Reads
import MotionLink.Proofs.Stream.Room
import MotionLink.Proofs.Stream.Delivery
import MotionLink.Proofs.Board.History
import MotionLink.Proofs.Stream.Ledger
import MotionLink.Proofs.Stream.Lockstep
import MotionLink.Proofs.Stream.Exchanges
import MotionLink.Proofs.Stream.Passage
import MotionLink.Proofs.Board.Reports
import MotionLink.Proofs.Board.Reception
import MotionLink.Proofs.Stream.Faults
import MotionLink.Proofs.Stream.Directions
import MotionLink.Proofs.CommandLine.Status
import MotionLink.Proofs.Checksum.Remainder
import MotionLink.Proofs.Frame.Objections
import MotionLink.Proofs.Frame.Appending
import MotionLink.Proofs.Stream.Recovery
import MotionLink.Proofs.Stream.Waiting
import MotionLink.Proofs.Stream.Draining
import MotionLink.Proofs.Board.Window
import MotionLink.Proofs.Report.Frames
import MotionLink.Proofs.Argument.Spelling
import MotionLink.Proofs.Argument.Spans
import MotionLink.Proofs.Report.Identity
import MotionLink.Proofs.Layout.Inverse
