/-!
# Bytes and little-endian words

Frames, streams and buffers are lists of bytes. A word travels least
significant byte first: `LittleEndian.digits` writes the base-256 digits of a
number at a fixed width and `LittleEndian.value` reads them back. The two are
inverse on numbers that fit the width (`value_digits`) and on every list of
bytes (`digits_value`), so one pair of laws serves all word sizes.
-/

namespace MotionLink

/-- A finite run of bytes in the order they travel. -/
abbrev Bytes := List UInt8

/-- The `width` bytes that start at `offset`, fewer where the run ends early. -/
def Bytes.slice (bytes : Bytes) (offset width : Nat) : Bytes :=
  (bytes.drop offset).take width

/-- The run cut into pieces of `size` bytes, of which the last may be shorter. -/
def Bytes.pieces (bytes : Bytes) (size : Nat) : List Bytes :=
  if h : size = 0 ∨ bytes = [] then []
  else
    have : 0 < bytes.length := List.length_pos_iff.mpr fun empty => h (.inr empty)
    bytes.take size :: Bytes.pieces (bytes.drop size) size
  termination_by bytes.length
  decreasing_by simp only [List.length_drop]; omega

namespace LittleEndian

/-- The lowest `width` base-256 digits of a number, least significant first. -/
def digits : (width : Nat) → Nat → Bytes
  | 0, _ => []
  | width + 1, n => UInt8.ofNat n :: digits width (n / 256)

/-- The number whose base-256 digits are the given bytes, least significant first. -/
def value : Bytes → Nat
  | [] => 0
  | byte :: rest => byte.toNat + 256 * value rest

@[simp] theorem length_digits (width n : Nat) : (digits width n).length = width := by
  induction width generalizing n with
  | zero => rfl
  | succ width ih => simp [digits, ih]

theorem value_lt (bytes : Bytes) : value bytes < Nat.pow 256 bytes.length := by
  induction bytes with
  | nil => simp [value]
  | cons byte rest ih =>
    have := byte.toNat_lt
    simp only [value, List.length_cons, Nat.pow_eq, Nat.pow_succ] at ih ⊢
    omega

theorem value_digits (width n : Nat) : value (digits width n) = n % Nat.pow 256 width := by
  induction width generalizing n with
  | zero => simp [digits, value, Nat.mod_one]
  | succ width ih =>
    simp only [digits, value, ih, UInt8.toNat_ofNat']
    simp only [Nat.pow_eq]
    rw [Nat.pow_succ' (n := width), Nat.mod_mul]

theorem digits_value (bytes : Bytes) : digits bytes.length (value bytes) = bytes := by
  induction bytes with
  | nil => rfl
  | cons byte rest ih =>
    have hlt := byte.toNat_lt
    have hbyte : UInt8.ofNat (byte.toNat + 256 * value rest) = byte := by
      apply UInt8.toNat_inj.mp
      rw [UInt8.toNat_ofNat']
      omega
    have hrest : (byte.toNat + 256 * value rest) / 256 = value rest := by omega
    simp [digits, value, hbyte, hrest, ih]

/-- The two bytes of a 16-bit word. -/
def ofWord16 (word : UInt16) : Bytes := digits 2 word.toNat

/-- The four bytes of a 32-bit word. -/
def ofWord32 (word : UInt32) : Bytes := digits 4 word.toNat

/-- The 16-bit word with these bytes. -/
def word16 (bytes : Bytes) : UInt16 := UInt16.ofNat (value bytes)

/-- The 32-bit word with these bytes. -/
def word32 (bytes : Bytes) : UInt32 := UInt32.ofNat (value bytes)

/-- The single byte of a one-byte run. -/
def byte (bytes : Bytes) : UInt8 := UInt8.ofNat (value bytes)

@[simp] theorem length_ofWord16 (word : UInt16) : (ofWord16 word).length = 2 :=
  length_digits ..

@[simp] theorem length_ofWord32 (word : UInt32) : (ofWord32 word).length = 4 :=
  length_digits ..

@[simp] theorem word16_ofWord16 (word : UInt16) : word16 (ofWord16 word) = word := by
  apply UInt16.toNat_inj.mp
  have := word.toNat_lt
  simp only [word16, ofWord16, value_digits, UInt16.toNat_ofNat', Nat.pow_eq]
  omega

@[simp] theorem word32_ofWord32 (word : UInt32) : word32 (ofWord32 word) = word := by
  apply UInt32.toNat_inj.mp
  have := word.toNat_lt
  simp only [word32, ofWord32, value_digits, UInt32.toNat_ofNat', Nat.pow_eq]
  omega

theorem ofWord16_word16 {bytes : Bytes} (width : bytes.length = 2) :
    ofWord16 (word16 bytes) = bytes := by
  have hlt := value_lt bytes
  rw [width, Nat.pow_eq] at hlt
  have hval : (word16 bytes).toNat = value bytes := by
    rw [word16, UInt16.toNat_ofNat']
    omega
  rw [ofWord16, hval, ← width, digits_value]

theorem ofWord32_word32 {bytes : Bytes} (width : bytes.length = 4) :
    ofWord32 (word32 bytes) = bytes := by
  have hlt := value_lt bytes
  rw [width, Nat.pow_eq] at hlt
  have hval : (word32 bytes).toNat = value bytes := by
    rw [word32, UInt32.toNat_ofNat']
    omega
  rw [ofWord32, hval, ← width, digits_value]

@[simp] theorem byte_singleton (b : UInt8) : byte [b] = b := by
  simp [byte, value]

end LittleEndian

end MotionLink
