import TtDal.Platform.Syscall
import Mathlib.Logic.Function.Basic

/-!
# The calling thread

`C` is the monad of the library: programs over system calls whose private state is what a thread
of the calling process keeps, its `errno`, its `SIGBUS` guard, and the caller's objects the
library writes to through a pointer. `ttFail` and `ttFailIo` are the two ways to report a failure.
-/

namespace TtDal.Platform

open Effect

/-- The address of a caller's object. -/
abbrev Ref := ℕ

/-- `TT_TELEMETRY_LEN` -/
def TT_TELEMETRY_LEN : ℕ := 69

/-- `tt_telemetry_t` -/
abbrev Telemetry := Fin TT_TELEMETRY_LEN → UInt32

structure Thread where
  errno : Errno
  /-- `armed_ptr` and `armed_len`. -/
  armed : Guard
  /-- Whether the process has installed the `SIGBUS` handler. -/
  once : Bool
  /-- What was installed for `SIGBUS` before the handler. -/
  prev : Disposition
  /-- The caller's `tt_smc_msg_t` objects. -/
  messages : Ref → SmcMsg
  /-- The caller's `tt_telemetry_t` objects. -/
  tables : Ref → Telemetry

/-- A thread that has not called the library yet. -/
def Thread.initial : Thread where
  errno := .other 0
  armed := { ptr := NULL, len := 0 }
  once := false
  prev := .SIG_DFL
  messages _ := SmcMsg.zero
  tables _ _ := 0

/-- Library code run by one thread. -/
abbrev C := Procedure Sys Thread

/-- What a library function returns. Its out-parameters are written only with `TT_OK`. -/
inductive Result (α : Type) where
  | TT_OK (out : α)
  | TT_ERR
  deriving DecidableEq, Repr

abbrev Status := Result Unit

/-- Make a system call. -/
def sys (op : Syscall) : C op.Answer := do
  let answer ← Procedure.request (S := Sys) op
  modify fun thread ↦ { thread with errno := op.errnoAfter answer thread.errno }
  return answer

def setErrno (errno : Errno) : C Unit :=
  modify fun thread ↦ { thread with errno := errno }

def getErrno : C Errno := do
  return (← get).errno

/-- Record a failure and return `TT_ERR`. -/
def ttFail {α : Type} (err : Errno) : C (Result α) := do
  setErrno err
  return .TT_ERR

/-- The rewrite of `ENODEV` by `tt_fail_io`. -/
def normalise (err : Errno) : Errno :=
  if err = .ENODEV then .ECONNRESET else err

/-- Record a failed session operation and return `TT_ERR`. -/
def ttFailIo {α : Type} (err : Errno) : C (Result α) :=
  ttFail (normalise err)

theorem normalise_ne_ENODEV (err : Errno) : normalise err ≠ .ENODEV := by
  unfold normalise
  split
  · decide
  · assumption

theorem normalise_eq_EAGAIN {err : Errno} : normalise err = .EAGAIN ↔ err = .EAGAIN := by
  unfold normalise
  split
  · rename_i h
    simp [h]
  · exact Iff.rfl

/-! ## The monotonic clock -/

/-- The signed difference of two readings in nanoseconds. -/
def timespecDiffNs (start stop : Timespec) : ℤ :=
  (stop.sec - start.sec) * 1000000000 + (stop.nsec - start.nsec)

/-- Elapsed milliseconds between two readings, converted to `uint64_t`. -/
def timespecDiffMs (start stop : Timespec) : ℕ :=
  ((timespecDiffNs start stop).tdiv 1000000 % 2 ^ 64).toNat

/-- Elapsed milliseconds since a reading. -/
def elapsedMs (start : Timespec) : C ℕ := do
  let now ← sys .clockGettime
  return timespecDiffMs start now

/-! ## Symbolic execution -/

section Rules

variable {W α : Type} {contract : Contract Sys W} {thread : Thread} {w : W}

@[simp]
theorem wp_sys (op : Syscall) (post : Procedure.Post Sys op.Answer Thread W) :
    @Procedure.wp Sys W Thread (no_index op.Answer) contract (sys op) post thread w ↔
      contract.permits op w ∧ ∀ answer v, contract.answers op w answer v →
        post [⟨op, answer⟩] answer
          { thread with errno := op.errnoAfter answer thread.errno } v := Iff.rfl

@[simp]
theorem wp_setErrno (err : Errno) (post : Procedure.Post Sys Unit Thread W) :
    Procedure.wp contract (setErrno err) post thread w ↔
      post [] () { thread with errno := err } w := Iff.rfl

@[simp]
theorem wp_getErrno (post : Procedure.Post Sys Errno Thread W) :
    Procedure.wp contract getErrno post thread w ↔ post [] thread.errno thread w := Iff.rfl

@[simp]
theorem wp_ttFail (err : Errno) (post : Procedure.Post Sys (Result α) Thread W) :
    Procedure.wp contract (ttFail err) post thread w ↔
      post [] .TT_ERR { thread with errno := err } w := Iff.rfl

@[simp]
theorem wp_ttFailIo (err : Errno) (post : Procedure.Post Sys (Result α) Thread W) :
    Procedure.wp contract (ttFailIo err) post thread w ↔
      post [] .TT_ERR { thread with errno := normalise err } w := Iff.rfl

@[simp]
theorem wp_elapsedMs (start : Timespec) (post : Procedure.Post Sys ℕ Thread W) :
    Procedure.wp contract (elapsedMs start) post thread w ↔
      contract.permits .clockGettime w ∧ ∀ now v, contract.answers .clockGettime w now v →
        post [⟨.clockGettime, now⟩] (timespecDiffMs start now) thread v := Iff.rfl

theorem keeps_sys {inv : W → Prop} (op : Syscall) (hpermits : ∀ w, inv w → contract.permits op w)
    (hstep : ∀ w answer w', inv w → contract.answers op w answer w' → inv w') :
    Procedure.Keeps contract inv (sys op) :=
  fun _ w hinv ↦ ⟨hpermits w hinv, fun answer w' hanswer ↦ hstep w answer w' hinv hanswer⟩

theorem keeps_only {allowed : Syscall → Prop} {op : Syscall} (h : allowed op) :
    Procedure.Keeps (Contract.only allowed : Contract Sys Unit) (fun _ ↦ True) (sys op) :=
  keeps_sys op (fun _ _ ↦ h) fun _ _ _ _ _ ↦ trivial

theorem keeps_ttFail {inv : W → Prop} (err : Errno) :
    Procedure.Keeps contract inv (ttFail err : C (Result α)) :=
  fun _ _ hinv ↦ hinv

theorem keeps_ttFailIo {inv : W → Prop} (err : Errno) :
    Procedure.Keeps contract inv (ttFailIo err : C (Result α)) :=
  fun _ _ hinv ↦ hinv

theorem keeps_setErrno {inv : W → Prop} (err : Errno) :
    Procedure.Keeps contract inv (setErrno err) :=
  fun _ _ hinv ↦ hinv

theorem keeps_getErrno {inv : W → Prop} : Procedure.Keeps contract inv getErrno :=
  fun _ _ hinv ↦ hinv

theorem keeps_elapsedMs {inv : W → Prop} (h : Procedure.Keeps contract inv (sys .clockGettime))
    (start : Timespec) : Procedure.Keeps contract inv (elapsedMs start) :=
  h.bind fun _ ↦ Procedure.keeps_pure _

end Rules

end TtDal.Platform
