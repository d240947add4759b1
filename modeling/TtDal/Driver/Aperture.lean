import TtDal.Driver.Firmware

/-!
# The controller behind a window

A window shows the address space of the controller from its configured address on. Each read finds
the word the firmware holds at the address at that time. An undisturbed device refuses no call and
severs no mapping.
-/

namespace TtDal.Driver

open Effect Platform Dev

structure Aperture where
  /-- Where the window was mapped last. -/
  start : ℕ
  /-- The address it was last configured for. -/
  target : ℕ
  /-- The controller addresses of the reads so far. -/
  log : List ℕ

namespace Aperture

/-- What a place in the window shows. -/
def address (s : Aperture) (addr : ℕ) : ℕ := s.target + (addr - s.start)

def logged (s : Aperture) (addrs : List ℕ) : Aperture :=
  { s with log := s.log ++ addrs }

/-- The memory is given for each read that is made. -/
def answers (arch : ArchConstants) (memory : ℕ → Memory) (undisturbed : Bool) :
    (op : Syscall) → Aperture → op.Answer → Aperture → Prop
  | .getDeviceInfo _, s, .ok info _, s' => archConstants info.deviceId = some arch ∧ s' = s
  | .getDeviceInfo _, s, .fail _, s' => undisturbed = false ∧ s' = s
  | .allocateTlb _ _, s, .fail _, s' => undisturbed = false ∧ s' = s
  | .mmap _ _ _, s, .ok start _, s' => s' = { s with start := start }
  | .mmap _ _ _, s, .fail _, s' => undisturbed = false ∧ s' = s
  | .configureTlb _ _ config, s, .ok _ _, s' => s' = { s with target := config.addr.toNat }
  | .configureTlb _ _ _, s, .fail _, s' =>
    undisturbed = false ∧ ∃ target, s' = { s with target := target }
  | .load _ addr, s, answer, s' => s' = s.logged [s.address addr] ∧
    (answer = some (memory s.log.length (s.address addr)) ∨ undisturbed = false ∧ answer = none)
  | _, s, _, s' => s' = s

def contract (arch : ArchConstants) (memory : ℕ → Memory) (undisturbed : Bool) :
    Contract Sys Aperture where
  answers := answers arch memory undisturbed
  permits _ _ := True
  tolerates _ := undisturbed = false

/-- A device of the architecture answers everything. -/
theorem contract_answered {arch : ArchConstants} {memory : ℕ → Memory} {undisturbed : Bool}
    {info : DevInfo} (harch : archConstants info.deviceId = some arch) (op : Syscall)
    (s : Aperture) : ∃ answer s', (contract arch memory undisturbed).answers op s answer s' := by
  cases op with
  | getDeviceInfo fd => exact ⟨.ok info (.other 0), s, harch, rfl⟩
  | allocateTlb fd size => exact ⟨.ok ⟨0, 0, 0⟩ (.other 0), s, rfl⟩
  | mmap len fd offset => exact ⟨.ok 0x200000 (.other 0), _, rfl⟩
  | configureTlb fd id config => exact ⟨.ok () (.other 0), _, rfl⟩
  | load guard addr => exact ⟨some (memory s.log.length (s.address addr)), _, rfl, .inl rfl⟩
  | readdir => exact ⟨none, s, rfl⟩
  | clockGettime => exact ⟨⟨0, 0⟩, s, rfl⟩
  | usleep => exact ⟨(), s, rfl⟩
  | nanosleep => exact ⟨(.ok () (.other 0), ⟨0, 0⟩), s, rfl⟩
  | sigaction => exact ⟨.SIG_DFL, s, rfl⟩
  | indeterminate => exact ⟨0, s, rfl⟩
  | tryBorrow => exact ⟨true, s, rfl⟩
  | _ => exact ⟨.fail Errno.EIO, s, rfl⟩

variable {s : Aperture} {addrs addrs' : List ℕ} {off : ℕ}

@[simp]
theorem logged_nil : s.logged [] = s :=
  congrArg (Aperture.mk s.start s.target) (List.append_nil s.log)

@[simp]
theorem logged_logged : (s.logged addrs).logged addrs' = s.logged (addrs ++ addrs') :=
  congrArg (Aperture.mk s.start s.target) (List.append_assoc s.log addrs addrs')

@[simp]
theorem logged_log : (s.logged addrs).log = s.log ++ addrs := rfl

@[simp]
theorem logged_start : (s.logged addrs).start = s.start := rfl

@[simp]
theorem logged_target : (s.logged addrs).target = s.target := rfl

@[simp]
theorem address_start : s.address (s.start + off) = s.target + off := by
  rw [address, Nat.add_sub_cancel_left]

end Aperture

end TtDal.Driver
