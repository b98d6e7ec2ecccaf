import Mathlib
import MotionLink.Proofs.Checksum.Detection
import MotionLink.Proofs.Checksum.Message

/-!
# The check value is a remainder

The register that a run of bytes leaves behind is the remainder of a division:
of the register before, moved to the front of the run, and of the run, moved to
the front of a register (`dividend`), by the generator polynomial. A class modulo
the divisor has one representative below its degree, so the class that
`residue_update` gives decides the remainder (`binary_eq_remainder`).

Since `x` is a unit modulo the divisor, no two registers come out of a run alike,
and the check value is the only trailer that makes a frame valid.
-/

namespace MotionLink.Checksum

open Polynomial

/-! ## Remainders and classes -/

/-- A register is a remainder when it is of the same class. Its polynomial is of
a lower degree than the divisor, and there is one such polynomial in every
class. -/
theorem binary_eq_remainder {word : UInt16} {p : (ZMod 2)[X]} :
    binary word.toNat = p %ₘ divisor ↔ residue word = AdjoinRoot.mk divisor p := by
  have small : (binary word.toNat).degree < divisor.degree := by
    rw [degree_divisor]
    exact degree_binary_lt word.toNat_lt
  have own := (modByMonic_eq_self_iff divisor_monic).mpr small
  constructor
  · intro same
    rw [residue, same, AdjoinRoot.mk_eq_mk, modByMonic_eq_sub_mul_div]
    exact ⟨-(p /ₘ divisor), by ring⟩
  · intro same
    rw [← own]
    exact modByMonic_eq_of_dvd_sub divisor_monic (AdjoinRoot.mk_eq_mk.mp same)

/-- What is divided: the digits of a register with room for a run behind them, and the digits of
the run with room for a register. -/
noncomputable def dividend (register : UInt16) (bytes : Bytes) : (ZMod 2)[X] :=
  binary register.toNat * X ^ (8 * bytes.length) + message bytes * X ^ 16

/-- The class of the dividend is that of the register which the run leaves
behind. -/
theorem mk_dividend (register : UInt16) (bytes : Bytes) :
    AdjoinRoot.mk divisor (dividend register bytes) = residue (update register bytes) := by
  rw [residue_update, dividend, map_add, map_mul, map_mul, map_pow, map_pow, AdjoinRoot.mk_X]
  show residue register * _ + _ = _
  ring

/-! ## Runs as maps of the register -/

/-- No two registers come out of a run alike, for the power of `x` that they are
multiplied by has an inverse. -/
theorem update_injective (bytes : Bytes) : Function.Injective (update · bytes) := by
  intro first second same
  have classes : residue (update first bytes) = residue (update second bytes) :=
    congrArg residue same
  rw [residue_update, residue_update, add_left_inj] at classes
  exact residue_injective ((isUnit_root.pow _).mul_left_cancel classes)

/-- There are as many registers after a run as before it, so that every register
comes out of the run from just one. -/
theorem update_bijective (bytes : Bytes) : Function.Bijective (update · bytes) := by
  have finite : Finite UInt16 := Finite.of_injective UInt16.toFin fun _ _ => UInt16.toFin_inj.mp
  exact Finite.injective_iff_bijective.mp (update_injective bytes)

/-- Chunks may be taken in one after the other, the register going from one to
the next: only the bytes count, not where they are cut. -/
theorem foldl_update (register : UInt16) (chunks : List Bytes) :
    chunks.foldl update register = update register chunks.flatten := by
  induction chunks generalizing register with
  | nil => rfl
  | cons chunk chunks ih => rw [List.foldl_cons, ih, List.flatten_cons, update_append]

/-! ## Trailers -/

/-- The trailer of a valid frame is the check value of what stands before it. So
every run of bytes has just one trailer that makes it a valid frame. -/
theorem valid_append_iff {bytes last : Bytes} (two : last.length = 2) :
    valid (bytes ++ last) = true ↔ last = LittleEndian.ofWord16 (ofBytes bytes) := by
  have start : (bytes ++ last).length - width = bytes.length := by
    rw [List.length_append, two, width, Nat.add_sub_cancel]
  have before : content (bytes ++ last) = bytes := by
    rw [content, start, List.take_left]
  have behind : trailer (bytes ++ last) = last := by
    rw [trailer, start, List.drop_left]
  constructor
  · intro intact
    have agrees := (valid_iff.mp intact).2
    rw [before, behind] at agrees
    rw [← agrees, LittleEndian.ofWord16_word16 two]
  · rintro rfl
    exact valid_sealed bytes

/-- The check value of a run is the remainder of its polynomial by the generator's, from any
register on and in any chunks. A run maps the registers one to one, and the check value, its low
byte first, is the one trailer that makes a valid frame. -/
theorem update_eq_remainder (bytes : Bytes) :
    (∀ register word : UInt16, word = update register bytes ↔
      binary word.toNat =
        (binary register.toNat * X ^ (8 * bytes.length) + message bytes * X ^ 16) %ₘ
          (X ^ 16 + X ^ 12 + X ^ 5 + 1)) ∧
    ofBytes bytes = update 0xFFFF bytes ∧
    (∀ (register : UInt16) (chunks : List Bytes), chunks.flatten = bytes →
      chunks.foldl update register = update register bytes) ∧
    Function.Bijective (update · bytes) ∧
    ∀ last : Bytes, last.length = 2 ∧ valid (bytes ++ last) = true ↔
      last = LittleEndian.ofWord16 (ofBytes bytes) := by
  refine ⟨?_, rfl, ?_, update_bijective bytes, ?_⟩
  · intro register word
    show _ ↔ binary word.toNat = dividend register bytes %ₘ divisor
    rw [binary_eq_remainder, mk_dividend, residue_injective.eq_iff]
  · rintro register chunks rfl
    exact foldl_update register chunks
  · intro last
    constructor
    · rintro ⟨two, intact⟩
      exact (valid_append_iff two).mp intact
    · rintro rfl
      exact ⟨LittleEndian.length_ofWord16 _, valid_sealed bytes⟩

end MotionLink.Checksum
