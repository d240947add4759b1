import TtDal.Effect.Procedure
import Mathlib.Algebra.Group.Int.Defs
import Mathlib.Algebra.Group.Nat.Defs

/-!
# The system interface of the library

Every effect of the library is a system call, a word read through a mapped window, or a use of
the clock. Each is one operation of the signature `Sys`, with its arguments as the library passes
them. `Reply` is the answer of a call that follows the libc convention. A success may leave any
residue in `errno`.
-/

namespace TtDal.Platform

open Effect

/-- The `errno` values the library names, and every other code. -/
inductive Errno where
  | EINVAL
  | ENOTCONN
  | ENODEV
  | EAGAIN
  | ECONNRESET
  | EIO
  | ETIMEDOUT
  | ENOTSUP
  | EBUSY
  | ESRCH
  | ENOENT
  | EINTR
  | other (code : ℕ)
  deriving DecidableEq, Repr

inductive Reply (β : Type) where
  | ok (value : β) (residue : Errno)
  | fail (errno : Errno)
  deriving DecidableEq, Repr

/-- The content of `errno` after the call. -/
def Reply.errno {β : Type} : Reply β → Errno
  | .ok _ residue => residue
  | .fail errno => errno

@[simp]
theorem Reply.errno_ok {β : Type} (value : β) (residue : Errno) :
    (Reply.ok value residue).errno = residue := rfl

@[simp]
theorem Reply.errno_fail {β : Type} (err : Errno) :
    (Reply.fail err : Reply β).errno = err := rfl

def Reply.isOk {β : Type} : Reply β → Bool
  | .ok _ _ => true
  | .fail _ => false

/-- The bits of `open(2)` the library uses. -/
structure OpenFlags where
  rdwr : Bool
  cloexec : Bool
  append : Bool
  excl : Bool
  nonblock : Bool
  deriving DecidableEq, Repr

structure Timespec where
  sec : ℤ
  nsec : ℤ
  deriving DecidableEq, Repr

/-- Output of `TENSTORRENT_IOCTL_GET_DEVICE_INFO`, copied unchanged to `tt_dev_info_t`. -/
structure DevInfo where
  outputSizeBytes : UInt32
  vendorId : UInt16
  deviceId : UInt16
  subsystemVendorId : UInt16
  subsystemId : UInt16
  busDevFn : UInt16
  maxDmaBufSizeLog2 : UInt16
  pciDomain : UInt16
  deriving DecidableEq, Repr

structure DriverInfo where
  driverVersionMajor : UInt8
  driverVersionMinor : UInt8
  driverVersionPatch : UInt8
  deriving DecidableEq, Repr

/-- Output of `TENSTORRENT_IOCTL_ALLOCATE_TLB`. -/
structure AllocateTlbOut where
  id : ℕ
  mmapOffsetUc : ℕ
  mmapOffsetWc : ℕ
  deriving DecidableEq, Repr

/-- `struct tenstorrent_noc_tlb_config`. -/
structure NocTlbConfig where
  addr : UInt64
  xEnd : UInt16
  yEnd : UInt16
  xStart : UInt16
  yStart : UInt16
  noc : UInt8
  mcast : UInt8
  ordering : UInt8
  linked : UInt8
  staticVc : UInt8
  deriving DecidableEq, Repr

/-- `struct tenstorrent_power_state`. -/
structure PowerState where
  argsz : UInt32
  flags : UInt32
  reserved0 : UInt8
  validity : UInt8
  powerFlags : UInt16
  powerSettings : Vector UInt16 14
  deriving DecidableEq

/-- The eight words of an SMC message. -/
structure SmcMsg where
  message : Vector UInt32 8
  deriving DecidableEq

def SmcMsg.zero : SmcMsg := ⟨Vector.replicate 8 0⟩

inductive SmcMsgFlag where
  | POST
  | POLL
  | ABANDON
  deriving DecidableEq, Repr

/-- `struct tenstorrent_smc_msg`. -/
structure SmcMsgIoctl where
  argsz : UInt32
  flags : SmcMsgFlag
  queueIndex : UInt32
  reserved0 : UInt32
  message : SmcMsg
  deriving DecidableEq

inductive ResetFlag where
  | ASIC_RESET
  | POST_RESET
  deriving DecidableEq, Repr

/-- Input of `TENSTORRENT_IOCTL_RESET_DEVICE`. -/
structure ResetDeviceIn where
  outputSizeBytes : UInt32
  flags : ResetFlag
  deriving DecidableEq, Repr

/-- A directory entry: its name, and whether `d_type` is `DT_CHR`. -/
structure Dirent where
  name : String
  isChr : Bool
  deriving DecidableEq, Repr

/-- What was installed for `SIGBUS` before. -/
inductive Disposition where
  | SIG_DFL
  | SIG_IGN
  | handler
  deriving DecidableEq, Repr

def NULL : ℕ := 0

/-- The address range of the calling thread's `SIGBUS` guard, empty while `ptr` is null. -/
structure Guard where
  ptr : ℕ
  len : ℕ
  deriving DecidableEq, Repr

inductive Syscall where
  | openFile (path : String) (flags : OpenFlags)
  | close (fd : ℤ)
  | read (fd : ℤ) (count : ℕ)
  | pread (fd : ℤ) (count offset : ℕ)
  | access (path : String)
  | realpath (path : String)
  | opendir (path : String)
  | readdir (dir : ℤ)
  | closedir (dir : ℤ)
  | mmap (len : ℕ) (fd : ℤ) (offset : ℕ)
  | munmap (addr len : ℕ)
  | getDeviceInfo (fd : ℤ)
  | getDriverInfo (fd : ℤ)
  | allocateTlb (fd : ℤ) (size : ℕ)
  | freeTlb (fd : ℤ) (id : ℕ)
  | configureTlb (fd : ℤ) (id : ℕ) (config : NocTlbConfig)
  | setPowerState (fd : ℤ) (power : PowerState)
  | smcMsg (fd : ℤ) (msg : SmcMsgIoctl)
  | resetDevice (fd : ℤ) (req : ResetDeviceIn)
  | clockGettime
  | usleep (usec : ℕ)
  | nanosleep (delay : Timespec)
  | sigaction
  /-- A 32-bit read of mapped memory, made while the guard is as given. -/
  | load (guard : Guard) (addr : ℕ)
  /-- The value of an object nothing was stored in. -/
  | indeterminate
  /-- Whether another thread has no exclusive borrow of the session object. -/
  | tryBorrow
  deriving DecidableEq

/-- Answers to each call. A descriptor number that was granted is never negative. A `load`
answered by `none` raised `SIGBUS` at its address. A `nanosleep` also reports the time left. -/
abbrev Syscall.Answer : Syscall → Type
  | .openFile _ _ => Reply ℕ
  | .close _ => Reply Unit
  | .read _ _ => Reply (List UInt8)
  | .pread _ _ _ => Reply (List UInt8)
  | .access _ => Reply Unit
  | .realpath _ => Reply String
  | .opendir _ => Reply ℕ
  | .readdir _ => Option Dirent
  | .closedir _ => Reply Unit
  | .mmap _ _ _ => Reply ℕ
  | .munmap _ _ => Reply Unit
  | .getDeviceInfo _ => Reply DevInfo
  | .getDriverInfo _ => Reply DriverInfo
  | .allocateTlb _ _ => Reply AllocateTlbOut
  | .freeTlb _ _ => Reply Unit
  | .configureTlb _ _ _ => Reply Unit
  | .setPowerState _ _ => Reply Unit
  | .smcMsg _ _ => Reply SmcMsg
  | .resetDevice _ _ => Reply UInt32
  | .clockGettime => Timespec
  | .usleep _ => Unit
  | .nanosleep _ => Reply Unit × Timespec
  | .sigaction => Disposition
  | .load _ _ => Option UInt32
  | .indeterminate => UInt32
  | .tryBorrow => Bool

abbrev Sys : Signature where
  Op := Syscall
  Answer := Syscall.Answer

/-- `errno` after a call that was answered, given its content before. -/
def Syscall.errnoAfter : (op : Syscall) → op.Answer → Errno → Errno
  | .openFile _ _, answer, _ => answer.errno
  | .close _, answer, _ => answer.errno
  | .read _ _, answer, _ => answer.errno
  | .pread _ _ _, answer, _ => answer.errno
  | .access _, answer, _ => answer.errno
  | .realpath _, answer, _ => answer.errno
  | .opendir _, answer, _ => answer.errno
  | .closedir _, answer, _ => answer.errno
  | .mmap _ _ _, answer, _ => answer.errno
  | .munmap _ _, answer, _ => answer.errno
  | .getDeviceInfo _, answer, _ => answer.errno
  | .getDriverInfo _, answer, _ => answer.errno
  | .allocateTlb _ _, answer, _ => answer.errno
  | .freeTlb _ _, answer, _ => answer.errno
  | .configureTlb _ _ _, answer, _ => answer.errno
  | .setPowerState _ _, answer, _ => answer.errno
  | .smcMsg _ _, answer, _ => answer.errno
  | .resetDevice _ _, answer, _ => answer.errno
  | .nanosleep _, answer, _ => answer.1.errno
  | .readdir _, _, errno => errno
  | .clockGettime, _, errno => errno
  | .usleep _, _, errno => errno
  | .sigaction, _, errno => errno
  | .load _ _, _, errno => errno
  | .indeterminate, _, errno => errno
  | .tryBorrow, _, errno => errno

end TtDal.Platform
