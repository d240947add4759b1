import TtDal.Dev.Telemetry

/-!
# The firmware behind the telemetry window

The firmware goes through update cycles while the library reads. A read sees the memory of one
cycle, at or after the cycle every earlier read saw. A read may also fault.
-/

namespace TtDal.Driver

open Effect Platform Dev

/-- The word at each address. -/
abbrev Memory := ℕ → UInt32

namespace Memory

/-- `count`, clamped. -/
def entryCount (memory : Memory) (tbl : ℕ) : ℕ := min (memory (tbl + 4)).toNat TELEM_ENTRY_CAP

def entry (memory : Memory) (tbl idx : ℕ) : UInt32 := memory (tbl + 4 * (2 + idx))

/-- The entries of the tag table. -/
def entries (memory : Memory) (tbl : ℕ) : List UInt32 :=
  (List.range (memory.entryCount tbl)).map (memory.entry tbl)

/-- A memory that does not change while it is read, and does not fault. -/
def contract (memory : Memory) : Contract Sys Unit where
  answers
    | .load _ addr, _, answer, _ => answer = some (memory addr)
    | _, _, _, _ => True
  permits _ _ := True
  tolerates _ := False

/-- Everything is answered. -/
theorem contract_answered (memory : Memory) (op : Syscall) :
    ∃ answer, memory.contract.answers op () answer () := by
  cases op with
  | load guard addr => exact ⟨some (memory addr), rfl⟩
  | readdir => exact ⟨none, trivial⟩
  | clockGettime => exact ⟨⟨0, 0⟩, trivial⟩
  | usleep => exact ⟨(), trivial⟩
  | nanosleep => exact ⟨(.ok () (.other 0), ⟨0, 0⟩), trivial⟩
  | sigaction => exact ⟨.SIG_DFL, trivial⟩
  | indeterminate => exact ⟨0, trivial⟩
  | tryBorrow => exact ⟨true, trivial⟩
  | _ => exact ⟨.fail Errno.EIO, trivial⟩

end Memory

/-- The cycles at which the reads so far saw the memory, the last one first. -/
abbrev Times := List ℕ

/-- The memory of each cycle. -/
structure Firmware where
  memory : ℕ → Memory

namespace Firmware

/-- Reads see the memory of the current cycle, and cycles may pass between any two of them. -/
def contract (firmware : Firmware) : Contract Sys Times where
  answers
    | .load _ addr, times, answer, times' => ∃ cycle, (∀ time ∈ times, time ≤ cycle) ∧
        times' = cycle :: times ∧ ∀ word, answer = some word → word = firmware.memory cycle addr
    | _, times, _, times' => times' = times
  permits _ _ := True
  tolerates _ := True

/-- The tag table at an address does not change. -/
structure Publishes (firmware : Firmware) (tbl : ℕ) : Prop where
  count : ∀ cycle, firmware.memory cycle (tbl + 4) = firmware.memory 0 (tbl + 4)
  entry : ∀ cycle idx, idx < TELEM_ENTRY_CAP →
    (firmware.memory cycle).entry tbl idx = (firmware.memory 0).entry tbl idx

/-- Each cycle advances the heartbeat word, which wraps around. -/
def Beats (firmware : Firmware) (addr : ℕ) : Prop :=
  ∀ cycle, firmware.memory (cycle + 1) addr = firmware.memory cycle addr + 1

variable {firmware : Firmware} {addr : ℕ}

theorem Beats.eq_add (h : firmware.Beats addr) (cycle : ℕ) :
    firmware.memory cycle addr = firmware.memory 0 addr + UInt32.ofNat cycle := by
  induction cycle with
  | zero => simp
  | succ cycle ih =>
    rw [h cycle, ih, UInt32.ofNat_add, UInt32.add_assoc]
    rfl

/-- Equal heartbeats mean the same cycle, unless the counter went around. -/
theorem Beats.cycle_eq (h : firmware.Beats addr) {first last : ℕ} (hle : first ≤ last)
    (hlt : last < first + 2 ^ 32)
    (heq : firmware.memory first addr = firmware.memory last addr) : last = first := by
  rw [h.eq_add first, h.eq_add last] at heq
  have hnat : UInt32.ofNat first = UInt32.ofNat last := by
    simpa using heq
  have hmod : first % 2 ^ 32 = last % 2 ^ 32 := by
    simpa using congrArg UInt32.toNat hnat
  omega

end Firmware

end TtDal.Driver
