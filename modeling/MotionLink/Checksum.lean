import MotionLink.Bytes

/-!
# The frame checksum

Every frame ends in a 16-bit cyclic redundancy check of all bytes before it:
generator `x¹⁶ + x¹² + x⁵ + 1`, register preset to all ones, most significant
bit first, no final inversion. The register is stored least significant byte
first in the two-byte trailer.

`shift` is one step of the division by the generator, `absorb` takes in one
byte and `update` a run of bytes, so a run may be taken in piece by piece
(`update_append`).
-/

namespace MotionLink.Checksum

/-- The generator polynomial without its leading term. -/
def generator : UInt16 := 0x1021

/-- The register before the first byte. -/
def preset : UInt16 := 0xFFFF

/-- Bytes taken by the trailer. -/
def width : Nat := 2

/-- One division step: the register times `x`, reduced by the generator. -/
def shift (register : UInt16) : UInt16 :=
  if register &&& 0x8000 = 0 then register <<< 1 else (register <<< 1) ^^^ generator

/-- Takes one byte into the register, its most significant bit first. -/
def absorb (register : UInt16) (byte : UInt8) : UInt16 :=
  Nat.repeat shift 8 (register ^^^ (byte.toUInt16 <<< 8))

/-- Takes a run of bytes into the register. -/
def update (register : UInt16) (bytes : Bytes) : UInt16 :=
  bytes.foldl absorb register

/-- The check value of a run of bytes. -/
def ofBytes (bytes : Bytes) : UInt16 := update preset bytes

/-- The bytes of a frame before its trailer. -/
def content (frame : Bytes) : Bytes := frame.take (frame.length - width)

/-- The last bytes of a frame, which carry the check value. -/
def trailer (frame : Bytes) : Bytes := frame.drop (frame.length - width)

/-- The check value a frame carries, if it is long enough to have a trailer. -/
def stored? (frame : Bytes) : Option UInt16 :=
  if frame.length < width then none else some (LittleEndian.word16 (trailer frame))

/-- Whether the trailer of a frame agrees with the bytes before it. -/
def valid (frame : Bytes) : Bool := stored? frame == some (ofBytes (content frame))

/-- The run with its check value behind it. -/
def sealed (bytes : Bytes) : Bytes := bytes ++ LittleEndian.ofWord16 (ofBytes bytes)

/-- Taking in a run piece by piece is taking it in at once. -/
theorem update_append (register : UInt16) (first second : Bytes) :
    update register (first ++ second) = update (update register first) second :=
  List.foldl_append

end MotionLink.Checksum
