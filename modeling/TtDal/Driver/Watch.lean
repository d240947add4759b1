import TtDal.Platform.Thread

/-!
# A device that completes its reset

Time passes between any two system calls, in nanoseconds of the monotonic clock. From one instant
on the device is present in sysfs with its reset marker clear. The calls on sysfs succeed while the
device is present, and the driver and the kernel do not report `ETIMEDOUT` of their own.
-/

namespace TtDal.Driver

open Effect Platform

structure Watch where
  now : ℕ
  /-- The first reading of the clock. -/
  started : Option ℕ
  /-- The instants at which the device was found absent, or its marker was read. -/
  checks : List ℕ
  /-- The device was found absent. -/
  absent : Bool
  /-- The device was found present after it was found absent. -/
  back : Bool

namespace Watch

/-- A reading of the clock. -/
def reading (t : ℕ) : Timespec where
  sec := t / 1000000000
  nsec := t % 1000000000

/-- Only time passes. -/
def Passes (s s' : Watch) : Prop :=
  ∃ t, s.now ≤ t ∧ s' = { s with now := t }

def answers (completion : ℕ) : (op : Syscall) → Watch → op.Answer → Watch → Prop
  | .clockGettime, s, answer, s' => ∃ t, s.now ≤ t ∧ answer = reading t ∧
      s' = { s with now := t, started := s.started.or (some t) }
  | .usleep usec, s, _, s' => ∃ t, s.now + usec * 1000 ≤ t ∧ s' = { s with now := t }
  | .access _, s, .ok _ _, s' => ∃ t, s.now ≤ t ∧
      s' = { s with now := t, back := s.back || s.absent }
  | .access _, s, .fail _, s' => ∃ t, s.now ≤ t ∧ t < completion ∧
      s' = { s with now := t, checks := t :: s.checks, absent := true }
  | .openFile _ flags, s, reply, s' => (flags.excl = false → reply.isOk = true) ∧ Passes s s'
  | .pread _ _ _, s, reply, s' => ∃ t cmd residue, s.now ≤ t ∧ reply = .ok [cmd] residue ∧
      (cmd.toNat / 2 ^ 6 % 2 = 0 ↔ completion ≤ t) ∧
      s' = { s with now := t, checks := t :: s.checks }
  | .getDeviceInfo _, s, reply, s' => reply ≠ .fail .ETIMEDOUT ∧ Passes s s'
  | .resetDevice _ _, s, reply, s' => reply ≠ .fail .ETIMEDOUT ∧ Passes s s'
  | .close _, s, reply, s' => reply ≠ .fail .ETIMEDOUT ∧ Passes s s'
  | _, s, _, s' => Passes s s'

def contract (completion : ℕ) : Contract Sys Watch where
  answers := answers completion
  permits _ _ := True
  tolerates _ := True

/-- Nothing was observed yet. -/
structure Begins (s : Watch) : Prop where
  started : s.started = none
  checks : s.checks = []
  absent : s.absent = false
  back : s.back = false

/-- A check fell at or after the completion, or the device came back. -/
def Seen (completion : ℕ) (s : Watch) : Prop :=
  (∃ t ∈ s.checks, completion ≤ t) ∨ s.back = true

theorem Passes.refl (s : Watch) : Passes s s := ⟨s.now, Nat.le_refl _, rfl⟩

theorem Passes.trans {s s' s'' : Watch} (h : Passes s s') (h' : Passes s' s'') : Passes s s'' := by
  obtain ⟨t, hle, rfl⟩ := h
  obtain ⟨t', hle', rfl⟩ := h'
  exact ⟨t', Nat.le_trans hle hle', rfl⟩

theorem Passes.seen {completion : ℕ} {s s' : Watch} (h : Passes s s') :
    Seen completion s' ↔ Seen completion s := by
  obtain ⟨t, -, rfl⟩ := h
  exact Iff.rfl

theorem Passes.started_eq {s s' : Watch} (h : Passes s s') : s'.started = s.started := by
  obtain ⟨t, -, rfl⟩ := h
  rfl

theorem Passes.absent_eq {s s' : Watch} (h : Passes s s') : s'.absent = s.absent := by
  obtain ⟨t, -, rfl⟩ := h
  rfl

theorem Begins.passes {s s' : Watch} (h : Begins s) (hpasses : Passes s s') : Begins s' := by
  obtain ⟨t, -, rfl⟩ := hpasses
  exact ⟨h.started, h.checks, h.absent, h.back⟩

theorem Begins.unseen {completion : ℕ} {s : Watch} (h : Begins s) : ¬Seen completion s := by
  simp [Seen, h.checks, h.back]

theorem seen_checked {completion t now : ℕ} {absent : Bool} {s : Watch} :
    Seen completion { s with now := now, checks := t :: s.checks, absent := absent } ↔
      completion ≤ t ∨ Seen completion s := by
  simp [Seen, or_assoc]

end Watch

end TtDal.Driver
