import MotionLink.Number.Rounding

/-!
# 32-bit floating-point values

A frame carries floating-point values as bit patterns, and a value that is only
carried keeps every bit, so `Binary32` is the pattern: two values are equal
when their bits are, a NaN included. Arithmetic goes through the machine's
32-bit floats, one rounding per operation.
-/

namespace MotionLink

/-- A 32-bit floating-point value, as its bit pattern. -/
structure Binary32 where
  bits : UInt32
  deriving DecidableEq, Repr, Inhabited

namespace Binary32

/-- The bits of the exponent field, all set in infinities and NaNs. -/
def exponentMask : UInt32 := 0x7F800000

/-- The bits of the fraction field. -/
def fractionMask : UInt32 := 0x007FFFFF

def zero : Binary32 := ⟨0⟩

def infinity : Binary32 := ⟨exponentMask⟩

/-- The quiet NaN with an empty payload. -/
def nan : Binary32 := ⟨0x7FC00000⟩

/-- Whether the value is a zero, a subnormal or a normal number. -/
def isFinite (x : Binary32) : Bool := x.bits &&& exponentMask != exponentMask

def isNaN (x : Binary32) : Bool := !x.isFinite && x.bits &&& fractionMask != 0

def isNegative (x : Binary32) : Bool := x.bits &&& 0x80000000 != 0

/-- The value with its sign bit flipped. -/
def neg (x : Binary32) : Binary32 := ⟨x.bits ^^^ 0x80000000⟩

/-- The rank of the magnitude in the format; see `BinaryFormat.rank`. -/
def magnitude (x : Binary32) : Nat := (x.bits &&& 0x7FFFFFFF).toNat

/-- Significand and places of the magnitude of a finite value, which is
`significand / 2 ^ places`. -/
def dyadic (x : Binary32) : Nat × Nat :=
  let step := Nat.pow 2 (BinaryFormat.single.precision - 1)
  let field := x.magnitude / step
  let fraction := x.magnitude % step
  if field = 0 then (fraction, 149)
  else if field ≤ 150 then (fraction + step, 150 - field)
  else ((fraction + step) * Nat.pow 2 (field - 150), 0)

/-- The value nearest to `num / den`, infinite where that is past the largest finite value. -/
def ofRatio (num den : Nat) : Binary32 :=
  ⟨UInt32.ofNat (min (BinaryFormat.single.rank num den) infinity.magnitude)⟩

def toFloat32 (x : Binary32) : Float32 := Float32.ofBits x.bits

def ofFloat32 (x : Float32) : Binary32 := ⟨x.toBits⟩

/-- The value nearest to a natural below `2 ^ 32`. -/
def ofWord32 (n : UInt32) : Binary32 := ofFloat32 n.toFloat32

instance : Add Binary32 := ⟨fun x y => ofFloat32 (x.toFloat32 + y.toFloat32)⟩

instance : Mul Binary32 := ⟨fun x y => ofFloat32 (x.toFloat32 * y.toFloat32)⟩

instance : Div Binary32 := ⟨fun x y => ofFloat32 (x.toFloat32 / y.toFloat32)⟩

def sin (x : Binary32) : Binary32 := ofFloat32 x.toFloat32.sin

def cos (x : Binary32) : Binary32 := ofFloat32 x.toFloat32.cos

end Binary32

end MotionLink
