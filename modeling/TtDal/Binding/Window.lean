import TtDal.Binding.Tlb

/-!
# Window accessors of the Python binding

A `Window` is a reference to its `Tlb`. Each of its accessors checks the offset against the length
of the window and then makes one volatile access at the pointer the `Tlb` has now. Offsets are
`usize`, here of 64 bits.
-/

namespace TtDal.Binding.Python

open Dev

/-- The exceptions an accessor raises. -/
inductive AccessErr where
  | IndexError
  | ValueError
  deriving DecidableEq, Repr

/-- A volatile access: its address, its width in bytes, and the value if it is a write. -/
structure Access where
  addr : ℕ
  width : ℕ
  written : Option ℕ
  deriving DecidableEq, Repr

/-- `usize::checked_add` -/
def checkedAdd (offset : UInt64) (width : ℕ) : Option ℕ :=
  if offset.toNat + width < 2 ^ 64 then some (offset.toNat + width) else none

/-- An access of one byte. -/
def byte (raw : Tlb) (offset : UInt64) (written : Option ℕ) : Except AccessErr Access :=
  if raw.len ≤ offset.toNat then
    .error .IndexError
  else
    .ok { addr := raw.ptr + offset.toNat, width := 1, written := written }

/-- An access of several bytes, which has to be aligned. -/
def aligned (width : ℕ) (raw : Tlb) (offset : UInt64) (written : Option ℕ) :
    Except AccessErr Access :=
  if offset.toNat % width ≠ 0 then
    .error .ValueError
  else
    match checkedAdd offset width with
    | none => .error .IndexError
    | some stop =>
      if raw.len < stop then
        .error .IndexError
      else
        .ok { addr := raw.ptr + offset.toNat, width := width, written := written }

/-- `Window.read_u8` -/
def readU8 (raw : Tlb) (offset : UInt64) : Except AccessErr Access := byte raw offset none

/-- `Window.read_u32` -/
def readU32 (raw : Tlb) (offset : UInt64) : Except AccessErr Access := aligned 4 raw offset none

/-- `Window.read_u64` -/
def readU64 (raw : Tlb) (offset : UInt64) : Except AccessErr Access := aligned 8 raw offset none

/-- `Window.write_u8` -/
def writeU8 (raw : Tlb) (offset : UInt64) (value : UInt8) : Except AccessErr Access :=
  byte raw offset (some value.toNat)

/-- `Window.write_u32` -/
def writeU32 (raw : Tlb) (offset : UInt64) (value : UInt32) : Except AccessErr Access :=
  aligned 4 raw offset (some value.toNat)

/-- `Window.write_u64` -/
def writeU64 (raw : Tlb) (offset : UInt64) (value : UInt64) : Except AccessErr Access :=
  aligned 8 raw offset (some value.toNat)

/-! ## The accessors together -/

inductive Accessor where
  | readU8
  | readU32
  | readU64
  | writeU8 (value : UInt8)
  | writeU32 (value : UInt32)
  | writeU64 (value : UInt64)
  deriving DecidableEq

namespace Accessor

def run : Accessor → Tlb → UInt64 → Except AccessErr Access
  | .readU8, raw, offset => Python.readU8 raw offset
  | .readU32, raw, offset => Python.readU32 raw offset
  | .readU64, raw, offset => Python.readU64 raw offset
  | .writeU8 value, raw, offset => Python.writeU8 raw offset value
  | .writeU32 value, raw, offset => Python.writeU32 raw offset value
  | .writeU64 value, raw, offset => Python.writeU64 raw offset value

/-- The bytes that are asked for. -/
def width : Accessor → ℕ
  | .readU8 | .writeU8 _ => 1
  | .readU32 | .writeU32 _ => 4
  | .readU64 | .writeU64 _ => 8

/-- The value that is to be written. -/
def written : Accessor → Option ℕ
  | .readU8 | .readU32 | .readU64 => none
  | .writeU8 value => some value.toNat
  | .writeU32 value => some value.toNat
  | .writeU64 value => some value.toNat

/-- The offset is aligned, and the bytes asked for lie within the window. -/
def Within (accessor : Accessor) (raw : Tlb) (offset : UInt64) : Prop :=
  offset.toNat % accessor.width = 0 ∧ offset.toNat + accessor.width ≤ raw.len

variable {accessor : Accessor} {raw : Tlb} {offset : UInt64} {access : Access} {w : Option ℕ}

theorem byte_eq_ok : byte raw offset w = .ok access ↔
    offset.toNat + 1 ≤ raw.len ∧
      access = { addr := raw.ptr + offset.toNat, width := 1, written := w } := by
  unfold byte
  split
  · rename_i hlen
    exact iff_of_false nofun fun h ↦ by omega
  · rename_i hlen
    rw [Except.ok.injEq, eq_comm]
    exact iff_and_self.mpr fun _ ↦ by omega

theorem aligned_eq_ok {width : ℕ} (hlen : raw.len < 2 ^ 64) :
    aligned width raw offset w = .ok access ↔
      (offset.toNat % width = 0 ∧ offset.toNat + width ≤ raw.len) ∧
        access = { addr := raw.ptr + offset.toNat, width := width, written := w } := by
  unfold aligned checkedAdd
  split
  · rename_i haligned
    exact iff_of_false nofun fun h ↦ haligned h.1.1
  · rename_i haligned
    by_cases hsum : offset.toNat + width < 2 ^ 64
    · simp only [if_pos hsum]
      split
      · rename_i hstop
        exact iff_of_false nofun fun h ↦ by omega
      · rename_i hstop
        rw [Except.ok.injEq, eq_comm]
        exact iff_and_self.mpr fun _ ↦ ⟨not_not.mp haligned, Nat.not_lt.mp hstop⟩
    · simp only [if_neg hsum]
      exact iff_of_false nofun fun h ↦ by omega

/-- An accessor raises, or touches exactly the bytes it was asked for. -/
theorem run_eq_ok (hlen : raw.len < 2 ^ 64) : accessor.run raw offset = .ok access ↔
    accessor.Within raw offset ∧
      access = { addr := raw.ptr + offset.toNat, width := accessor.width,
                 written := accessor.written } := by
  have hbyte : ∀ w, byte raw offset w = .ok access ↔
      (offset.toNat % 1 = 0 ∧ offset.toNat + 1 ≤ raw.len) ∧
        access = { addr := raw.ptr + offset.toNat, width := 1, written := w } := by
    intro w
    rw [byte_eq_ok, Nat.mod_one, eq_self_iff_true, true_and]
  cases accessor with
  | readU8 => exact hbyte none
  | readU32 => exact aligned_eq_ok hlen
  | readU64 => exact aligned_eq_ok hlen
  | writeU8 value => exact hbyte (some value.toNat)
  | writeU32 value => exact aligned_eq_ok hlen
  | writeU64 value => exact aligned_eq_ok hlen

end Accessor

end TtDal.Binding.Python
