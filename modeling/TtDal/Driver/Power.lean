import TtDal.Dev.Power
import TtDal.Effect.Clients
import Mathlib.Data.Set.Lattice

/-!
# Power requests in the driver

The driver keeps the power features that each open file descriptor requests. A description opened
with `O_APPEND` starts with no feature, any other with all of them. A request states as many
features as its validity field counts, and closing a descriptor removes what it requested. A
feature of a device is on while some descriptor of the device requests it.
-/

namespace TtDal.Driver

open Effect Platform Dev

/-- What an open file descriptor requests. -/
structure Contribution where
  dev : Device
  wanted : Set PowerFlag

/-- The contributions of one process, by descriptor. -/
abbrev Contributions := ℤ → Option Contribution

namespace Contribution

/-- The number of feature bits that count. -/
def validFlags (power : PowerState) : ℕ := power.validity.toNat % 16

/-- The request has the size of its structure, and what is reserved is zero. -/
def WellFormed (power : PowerState) : Prop :=
  power.argsz = 40 ∧ power.flags = 0 ∧ power.reserved0 = 0

/-- The features that count are as requested, the others may be anything. -/
def Records (power : PowerState) (contribution contribution' : Contribution) : Prop :=
  contribution'.dev = contribution.dev ∧ ∀ flag : PowerFlag, flag.index < validFlags power →
    (flag ∈ contribution'.wanted ↔ flag.In power.powerFlags)

/-- What an open that succeeded adds. -/
def opened (flags : OpenFlags) (dev : Device) : Contribution where
  dev := dev
  wanted := if flags.append then ∅ else Set.univ

end Contribution

namespace Contributions

def answersOpen (table : Contributions) (path : String) (flags : OpenFlags) :
    Reply ℕ → Contributions → Prop
  | .ok fd _, table' => table fd = none ∧
      ((∃ dev, path = devicePath dev ∧
          table' = Function.update table fd (some (.opened flags dev))) ∨
        (∀ dev, path ≠ devicePath dev) ∧ table' = table)
  | .fail _, table' => table' = table

/-- A request that failed was recorded, or it was not. -/
def answersPower (table : Contributions) (fd : ℤ) (power : PowerState) (reply : Reply Unit)
    (table' : Contributions) : Prop :=
  (reply.isOk = false ∧ table' = table) ∨
    ∃ contribution contribution', table fd = some contribution ∧
      Contribution.WellFormed power ∧ Contribution.Records power contribution contribution' ∧
      table' = Function.update table fd (some contribution')

/-- A descriptor is gone whatever `close(2)` reports. -/
def answers : (op : Syscall) → Contributions → op.Answer → Contributions → Prop
  | .openFile path flags, table, reply, table' => table.answersOpen path flags reply table'
  | .close fd, table, _, table' => table' = Function.update table fd none
  | .setPowerState fd power, table, reply, table' => table.answersPower fd power reply table'
  | _, table, _, table' => table' = table

def contract : Contract Sys Contributions where
  answers := answers
  permits _ _ := True
  tolerates _ := True

/-- What is left once a session is closed. -/
def without (table : Contributions) (sess : Session) : Contributions :=
  if sess.fd < 0 then table else Function.update table sess.fd none

section Without

variable {table : Contributions} {sess : Session}

theorem without_of_ne {fd : ℤ} (hne : fd ≠ sess.fd) : table.without sess fd = table fd := by
  unfold without
  split
  · rfl
  · exact Function.update_of_ne hne _ _

theorem without_self (hfd : 0 ≤ sess.fd) : table.without sess sess.fd = none := by
  simp [without, Int.not_lt.mpr hfd]

end Without

end Contributions

variable {Client : Type}

/-- The features of a device that are on. -/
def features (tables : Client → Contributions) (dev : Device) : Set PowerFlag :=
  {flag | ∃ client fd contribution, tables client fd = some contribution ∧
    contribution.dev = dev ∧ flag ∈ contribution.wanted}

end TtDal.Driver
