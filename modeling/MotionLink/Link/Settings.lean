import MotionLink.Duration
import MotionLink.Link.Address
import MotionLink.Stream.Reassembler

/-!
# Settings of a link

A board takes in commands and gives feedback over a stream, and takes in
emergency stops as datagrams too, each at an endpoint of its own.
-/

namespace MotionLink

/-- Ports, limits and timing of a link. -/
structure LinkSettings where
  streamPort : UInt16 := 5000
  datagramPort : UInt16 := 6000
  connectTimeout : Duration := .ofSeconds 5
  /-- Bytes of the largest datagram taken in. -/
  maxDatagram : Nat := 512
  stream : StreamSettings := {}
  deriving DecidableEq, Repr

namespace LinkSettings

/-- Where a host takes in the stream. -/
def streamEndpoint (settings : LinkSettings) (address : Address) : Endpoint :=
  .ofAddress address settings.streamPort

/-- Where a host takes in datagrams. -/
def datagramEndpoint (settings : LinkSettings) (address : Address) : Endpoint :=
  .ofAddress address settings.datagramPort

end LinkSettings

end MotionLink
