import TtDal.Binding.Perform
import TtDal.Dev.Smc
import Mathlib.Data.UInt

/-!
# Messages in the bindings

`Session.post` returns a `Queued` handle that outlives the call. The handle remembers its session
and whether its message is done with, and nothing about the message itself. In Rust it borrows the
session for itself while it lives. In Python it does not. A message buffer that is local to a
function of the binding is an object of the calling thread.
-/

namespace TtDal.Binding.Python

open Effect Platform Dev

/-- The local `req` of a function. -/
def req : Ref := 0

/-- The local `rsp` of a function. -/
def rsp : Ref := 1

/-- Give a local object its first value. -/
def store (ref : Ref) (message : SmcMsg) : C Unit :=
  modify fun thread ↦ { thread with messages := Function.update thread.messages ref message }

/-- What a `Queued` keeps beside its session. -/
structure Queued where
  done : Bool
  deriving DecidableEq, Repr

/-- `Queued::discard` -/
def discard (sess : Session) (queued : Queued) : C Queued := do
  if queued.done then
    return queued
  else
    if ← sys .tryBorrow then
      let _ ← ttSmcDrop (some sess)
      return { done := true }
    else
      return { done := true }

/-- `Queued::poll`, which gives no message while the reply is pending. -/
def poll (sess : Session) (queued : Queued) : C (Except PyErr (Option SmcMsg) × Queued) := do
  if ← sys .tryBorrow then
    store rsp SmcMsg.zero
    match ← ttSmcPoll (some sess) (some rsp) with
    | .TT_ERR =>
      let errno ← getErrno
      if errno = .EAGAIN then
        return (.ok none, queued)
      else
        return (.error (.TTError errno), { done := true })
    | .TT_OK _ => return (.ok (some ((← get).messages rsp)), { done := true })
  else
    return (.error .RuntimeError, queued)

/-- `Session::post` -/
def post (sess : Session) (request : SmcMsg) : C (Except PyErr Queued) := do
  if ← sys .tryBorrow then
    store req request
    match ← check (ttSmcPost (some sess) (some req)) with
    | .error err => return .error err
    | .ok _ => return .ok { done := false }
  else
    return .error .RuntimeError

/-- `Session::call` on the copy of the session it works on, with the timeout in milliseconds. -/
def call (rounds : ℕ) (sess : Session) (request : SmcMsg) (ms : UInt32) :
    C (Except PyErr SmcMsg) := do
  store req request
  store rsp SmcMsg.zero
  match ← ttSmcCall rounds (some sess) (some req) (some rsp) ms with
  | .TT_ERR => return .error (.TTError (← getErrno))
  | .TT_OK _ => return .ok ((← get).messages rsp)

theorem wp_store {W : Type} {contract : Contract Sys W} {thread : Thread} {w : W} (ref : Ref)
    (message : SmcMsg) (post : Procedure.Post Sys PUnit Thread W) :
    Procedure.wp contract (store ref message) post thread w ↔
      post [] ⟨⟩ { thread with messages := Function.update thread.messages ref message } w := Iff.rfl

end TtDal.Binding.Python

namespace TtDal.Binding.Rust

open Effect Platform Dev

open Python (req rsp store)

/-- `std::time::Duration` -/
structure Duration where
  secs : UInt64
  nanos : UInt32
  subsecond : nanos.toNat < 1000000000

def Duration.asMillis (duration : Duration) : ℕ :=
  duration.secs.toNat * 1000 + duration.nanos.toNat / 1000000

def Duration.asNanos (duration : Duration) : ℕ :=
  duration.secs.toNat * 1000000000 + duration.nanos.toNat

/-- Zero stands for the driver's default. -/
def millis : Option Duration → UInt32
  | none => 0
  | some duration =>
    if duration.asMillis < 2 ^ 32 then UInt32.ofNat duration.asMillis else 2 ^ 32 - 1

/-- `std::io::ErrorKind`, with one kind for all codes that the standard library gives none. -/
inductive ErrorKind where
  | InvalidInput
  | NotConnected
  | WouldBlock
  | ConnectionReset
  | TimedOut
  | Unsupported
  | ResourceBusy
  | NotFound
  | Interrupted
  | Uncategorized
  deriving DecidableEq, Repr

/-- `Error::kind`. The kinds of the codes without a name here are never asked for. -/
def kind : Errno → ErrorKind
  | .EINVAL => .InvalidInput
  | .ENOTCONN => .NotConnected
  | .EAGAIN => .WouldBlock
  | .ECONNRESET => .ConnectionReset
  | .ETIMEDOUT => .TimedOut
  | .ENOTSUP => .Unsupported
  | .EBUSY => .ResourceBusy
  | .ENOENT => .NotFound
  | .EINTR => .Interrupted
  | .ENODEV | Errno.EIO | .ESRCH | .other _ => .Uncategorized

/-- What a `Queued` keeps beside its borrow of the session. -/
structure Queued where
  done : Bool
  deriving DecidableEq, Repr

/-- `Queued::post` -/
def post (sess : Session) (request : SmcMsg) : C (Except Errno Queued) := do
  store req request
  match ← check (ttSmcPost (some sess) (some req)) with
  | .error err => return .error err
  | .ok _ => return .ok { done := false }

/-- `Queued::settle` -/
def settle (queued : Queued) (res : Except Errno Unit) (retry : ErrorKind) : Queued :=
  match res with
  | .ok _ => { queued with done := true }
  | .error err => { queued with done := kind err ≠ retry }

/-- An attempt to read the reply, as `wait` and `try_wait` both make it. -/
def receive (call : C Status) (retry : ErrorKind) (queued : Queued) :
    C (Except Errno SmcMsg × Queued) := do
  store rsp SmcMsg.zero
  let res ← check call
  let queued := settle queued res retry
  match res with
  | .error err => return (.error err, queued)
  | .ok _ => return (.ok ((← get).messages rsp), queued)

/-- `Queued::wait` -/
def wait (rounds : ℕ) (sess : Session) (queued : Queued) (timeout : Option Duration) :
    C (Except Errno SmcMsg × Queued) :=
  receive (ttSmcWait rounds (some sess) (some rsp) (millis timeout)) .TimedOut queued

/-- `Queued::try_wait` -/
def tryWait (sess : Session) (queued : Queued) : C (Except Errno SmcMsg × Queued) :=
  receive (ttSmcPoll (some sess) (some rsp)) .WouldBlock queued

/-- `Session::call` -/
def call (rounds : ℕ) (sess : Session) (request : SmcMsg) (timeout : Option Duration) :
    C (Except Errno SmcMsg) := do
  let timeout := millis timeout
  store req request
  store rsp SmcMsg.zero
  match ← check (ttSmcCall rounds (some sess) (some req) (some rsp) timeout) with
  | .error err => return .error err
  | .ok _ => return .ok ((← get).messages rsp)

/-- `Queued::drop` -/
def drop (sess : Session) (queued : Queued) : C Unit := do
  if queued.done then
    return ()
  else
    let _ ← ttSmcDrop (some sess)
    return ()

end TtDal.Binding.Rust
