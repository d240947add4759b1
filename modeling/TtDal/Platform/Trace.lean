import TtDal.Platform.Thread

/-!
# Reading a trace

What the trace of a run says about the descriptors it opened and the ones it passed to `close(2)`.
-/

namespace TtDal.Platform

open Effect

/-- The descriptor a request closes. -/
def Syscall.closing : Syscall → Option ℤ
  | .close fd => some fd
  | _ => none

/-- The descriptors passed to `close(2)`, in order. -/
def closes (trace : List (Event Sys)) : List ℤ :=
  trace.filterMap fun event ↦ event.op.closing

@[simp]
theorem closes_nil : closes [] = [] := rfl

@[simp]
theorem closes_append (first rest : List (Event Sys)) :
    closes (first ++ rest) = closes first ++ closes rest :=
  List.filterMap_append

@[simp]
theorem closes_close (fd : ℤ) (reply : Reply Unit) : closes [⟨.close fd, reply⟩] = [fd] := rfl

@[simp]
theorem closes_openFile (path : String) (flags : OpenFlags) (reply : Reply ℕ) :
    closes [⟨.openFile path flags, reply⟩] = [] := rfl

/-- The descriptor a request was granted. -/
def opening : Event Sys → Option ℤ
  | ⟨.openFile _ _, .ok fd _⟩ => some fd
  | _ => none

/-- What a request does to the descriptors that are open, if it closes none that is not. -/
def settle (fds : List ℤ) (event : Event Sys) : Option (List ℤ) :=
  match opening event, event.op.closing with
  | some fd, _ => some (fd :: fds)
  | none, some fd => if fd ∈ fds then some (fds.erase fd) else none
  | none, none => some fds

/-- The descriptors that are open after a trace, or nothing once it closes one that is not. -/
def ledger (fds : List ℤ) (trace : List (Event Sys)) : Option (List ℤ) :=
  trace.foldlM settle fds

@[simp]
theorem ledger_nil (fds : List ℤ) : ledger fds [] = some fds := rfl

@[simp]
theorem ledger_cons (fds : List ℤ) (event : Event Sys) (rest : List (Event Sys)) :
    ledger fds (event :: rest) = (settle fds event).bind fun fds' ↦ ledger fds' rest := rfl

theorem ledger_append (fds : List ℤ) (first rest : List (Event Sys)) :
    ledger fds (first ++ rest) = (ledger fds first).bind fun fds' ↦ ledger fds' rest :=
  List.foldlM_append

theorem settle_openFile (fds : List ℤ) (path : String) (flags : OpenFlags) (fd : ℕ)
    (residue : Errno) :
    settle fds ⟨.openFile path flags, .ok fd residue⟩ = some ((fd : ℤ) :: fds) := rfl

theorem settle_close (fds : List ℤ) (fd : ℤ) (reply : Reply Unit) :
    settle (fd :: fds) ⟨.close fd, reply⟩ = some fds := by
  simp [settle, opening, Syscall.closing]

end TtDal.Platform
