import TtDal.Driver.Firmware
import TtDal.Driver.Space

/-!
# A device whose mapping is severed

A reset from outside severs the mapping of a device. Each read through a window finds the word the
firmware holds at its address at that time, until the mapping is severed. From then on every read
raises `SIGBUS`. A mapping that was severed is unmapped like any other.
-/

namespace TtDal.Driver

open Effect Platform

structure Severance where
  space : Space
  /-- How many reads were made through windows. -/
  reads : ℕ

/-- Everything but a read of mapped memory. -/
def NoLoad (op : Syscall) : Prop :=
  ∀ guard addr, op ≠ .load guard addr

namespace Severance

/-- The mapping was severed at the given read, if ever, or before. -/
def severed (cut : Option ℕ) (reads : ℕ) : Bool :=
  cut.any (· ≤ reads)

/-- The memory is given for each read that is made. -/
def answers (maker : ℕ) (memory : ℕ → Memory) (cut : Option ℕ) :
    (op : Syscall) → Severance → op.Answer → Severance → Prop
  | .load _ addr, s, answer, s' => s' = { s with reads := s.reads + 1 } ∧
    answer = if severed cut s.reads then none else some (memory s.reads addr)
  | op, s, answer, s' => Space.answers maker op s.space answer s'.space ∧ s'.reads = s.reads

/-- A word may be read that lies inside the guarded range, while that is a whole mapping. -/
def Readable (maker : ℕ) (space : Space) (guard : Guard) (addr : ℕ) : Prop :=
  guard.ptr ≠ NULL ∧ space.Whole maker guard.ptr guard.len ∧ guard.ptr ≤ addr ∧
    addr + 4 ≤ guard.ptr + guard.len

def permits (maker : ℕ) : Syscall → Severance → Prop
  | .load guard addr, s => Readable maker s.space guard addr
  | _, _ => True

def contract (maker : ℕ) (memory : ℕ → Memory) (cut : Option ℕ) : Contract Sys Severance where
  answers := answers maker memory cut
  permits := permits maker
  tolerates _ := False

variable {maker : ℕ} {memory : ℕ → Memory} {cut : Option ℕ} {op : Syscall} {s s' : Severance}
  {answer : op.Answer}

theorem permits_of_noLoad (h : NoLoad op) : permits maker op s := by
  cases op with
  | load guard addr => exact absurd rfl (h guard addr)
  | _ => exact trivial

theorem answers_of_noLoad (h : NoLoad op) (hanswer : answers maker memory cut op s answer s') :
    Space.answers maker op s.space answer s'.space := by
  cases op with
  | load guard addr => exact absurd rfl (h guard addr)
  | _ => exact hanswer.1

/-- An answer that is no fault is also one of a mapping that is never severed. -/
theorem answers_uncut (hanswer : answers maker memory cut op s answer s')
    (hfault : ∀ guard addr, (⟨op, answer⟩ : Event Sys) ≠ ⟨.load guard addr, none⟩) :
    answers maker memory none op s answer s' := by
  cases op with
  | load guard addr =>
    obtain ⟨hreads, hword⟩ := hanswer
    refine ⟨hreads, hword.trans (if_neg fun hsevered ↦ hfault guard addr ?_)⟩
    rw [hword, if_pos hsevered]
  | _ => exact hanswer

end Severance

end TtDal.Driver
