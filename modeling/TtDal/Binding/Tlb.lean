import TtDal.Binding.Perform
import TtDal.Dev.Tlb

/-!
# TLB handles of the bindings

A handle keeps the raw window description of the library beside a reference to its session. Rust
consumes the handle when it is freed. A Python handle outlives its window and carries a flag, and
every use of it first borrows the session object, which fails while another thread uses it.
-/

namespace TtDal.Binding

open Effect Platform Dev

/-- TLB window size. -/
inductive Size where
  | Mb1
  | Mb2
  | Mb16
  | Gb4
  deriving DecidableEq, Repr

/-- TLB cache mode. -/
inductive Caching where
  | Uncached
  | WriteCombined
  deriving DecidableEq, Repr

def Size.raw : Size → ℕ
  | .Mb1 => 2 ^ 20
  | .Mb2 => 2 ^ 21
  | .Mb16 => 2 ^ 24
  | .Gb4 => 2 ^ 32

def Caching.raw : Caching → ℕ
  | .Uncached => TT_TLB_UC
  | .WriteCombined => TT_TLB_WC

/-- The call of `tt_tlb_alloc` both bindings make, on a handle they have not initialised. -/
def allocRaw (size : Size) (mode : Caching) (sess : Session) : C (Result Tlb) := do
  match ← tlbAlloc sess size.raw mode.raw { id := 0, ptr := NULL, len := 0, idx := 0 } with
  | (.TT_OK _, raw) => return .TT_OK raw
  | (.TT_ERR, _) => return .TT_ERR

namespace Rust

/-- `Session::alloc` -/
def alloc (persist : Bool) (size : Size) (mode : Caching) (sess : Session) :
    C (Except Errno Tlb × Session) :=
  perform persist (fun sess ↦ check (allocRaw size mode sess)) reopen sess

/-- `Tlb::bind` -/
def bind (sess : Session) (raw : Tlb) (cfg : TlbConfig) : C (Except Errno Unit × Tlb) := do
  match ← tlbBind sess raw cfg with
  | (.TT_OK _, raw) => return (.ok (), raw)
  | (.TT_ERR, raw) => return (.error (← getErrno), raw)

/-- `Tlb::free`, which consumes the handle, and `Tlb::drop`, which ignores the result. -/
def free (sess : Session) (raw : Tlb) : C (Except Errno Unit) := do
  match ← tlbFree sess raw with
  | (.TT_OK _, _) => return .ok ()
  | (.TT_ERR, _) => return .error (← getErrno)

end Rust

namespace Python

/-- `Session.alloc` -/
def alloc (persist : Bool) (size : Size) (mode : Caching) (sess : Session) :
    C (Except PyErr Tlb × Session) :=
  perform persist (fun sess ↦ check (allocRaw size mode sess)) lost reopen sess

/-- `Tlb.bind` -/
def bind (sess : Session) (raw : Tlb) (freed : Bool) (cfg : TlbConfig) :
    C (Except PyErr Unit × Tlb) := do
  if freed then
    return (.error .RuntimeError, raw)
  else
    let borrowed ← sys .tryBorrow
    if borrowed then
      match ← tlbBind sess raw cfg with
      | (.TT_OK _, raw) => return (.ok (), raw)
      | (.TT_ERR, raw) => return (.error (.TTError (← getErrno)), raw)
    else
      return (.error .RuntimeError, raw)

/-- `Tlb.free`, also run by the context exit and the destructor, which ignore the result. The
flag is returned as it is left behind. -/
def free (sess : Session) (raw : Tlb) (freed : Bool) : C (Except PyErr Unit × Tlb × Bool) := do
  if freed then
    return (.ok (), raw, true)
  else
    let borrowed ← sys .tryBorrow
    if borrowed then
      match ← tlbFree sess raw with
      | (.TT_OK _, raw) => return (.ok (), raw, true)
      | (.TT_ERR, raw) => return (.error (.TTError (← getErrno)), raw, true)
    else
      return (.error .RuntimeError, raw, false)

end Python

end TtDal.Binding
