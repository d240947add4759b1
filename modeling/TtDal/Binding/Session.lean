import TtDal.Binding.Tlb
import TtDal.Dev.Power
import TtDal.Dev.Reset
import TtDal.Dev.Telemetry
import TtDal.Dev.Version

/-!
# Session objects of the bindings

A session object keeps the raw session of the library and whether it is persistent. Rust consumes
the object when it is closed or reset, and otherwise closes it when it is dropped. A Python object
outlives its session. It remembers whether it is closed by the descriptor, and its destructor
closes it unless it is.
-/

namespace TtDal.Binding

open Effect Platform Dev

/-- `dev::Session` -/
structure Object where
  raw : Session
  persist : Bool
  deriving DecidableEq, Repr

/-- The operations that go through `Session::perform`. -/
inductive Operation where
  | info
  | power (flags : UInt16)
  | alloc (size : Size) (mode : Caching)
  | telemetry (table : Ref)
  | version

abbrev Operation.Answer : Operation → Type
  | .info => DevInfo
  | .power _ => Unit
  | .alloc _ _ => Tlb
  | .telemetry _ => Telemetry
  | .version => Version

/-- The closure that is performed. -/
def Operation.run (sess : Session) : (operation : Operation) → C (Result operation.Answer)
  | .info => devInfo sess
  | .power flags => ttPower (some sess) flags
  | .alloc size mode => allocRaw size mode sess
  | .telemetry table => do
    modify (zeroTable table)
    match ← ttTelemetry (some sess) (some table) with
    | .TT_ERR => return .TT_ERR
    | .TT_OK _ => return .TT_OK ((← get).tables table)
  | .version => fwVersion sess

/-- The flag bits of the options to open a session. -/
def openBits (excl nonblock : Bool) : UInt16 :=
  (if excl then TT_OPEN_EXCL else 0) ||| if nonblock then TT_OPEN_NONBLOCK else 0

/-! ## Rust -/

namespace Rust

structure OpenOptions where
  excl : Bool
  nonblock : Bool
  persist : Bool
  deriving DecidableEq, Repr

namespace OpenOptions

def flags (opts : OpenOptions) : UInt16 := openBits opts.excl opts.nonblock

/-- `OpenOptions::open` -/
def openDevice (opts : OpenOptions) (dev : Device) : C (Except Errno Object) := do
  match ← check (openSession dev opts.flags) with
  | .ok raw => return .ok { raw := raw, persist := opts.persist }
  | .error err => return .error err

end OpenOptions

/-- An operation of a session object, which may reopen it. -/
def operate (operation : Operation) (sess : Object) :
    C (Except Errno operation.Answer × Object) := do
  let (res, raw) ← perform sess.persist (fun raw ↦ check (operation.run raw)) reopen sess.raw
  return (res, { sess with raw := raw })

/-- `Session::close` consumes the object. -/
def close (sess : Object) : C (Except Errno Unit) :=
  check do
    let (status, _) ← closeSession sess.raw
    return status

/-- `Session::drop` -/
def dropSession (sess : Object) : C Unit := do
  let _ ← close sess

/-- `Session::reset` consumes the object. -/
def reset (rounds : ℕ) (sess : Object) : C (Except Errno Device) := do
  match ← resetWith rounds sess.raw with
  | (.TT_OK _, raw) => return .ok raw.dev
  | (.TT_ERR, _) => return .error (← getErrno)

end Rust

/-! ## Python -/

namespace Python

/-- `Device.open` -/
def openDevice (dev : Device) (exclusive nonblocking persistent : Bool) :
    C (Except PyErr Object) := do
  match ← check (openSession dev (openBits exclusive nonblocking)) with
  | .ok raw => return .ok { raw := raw, persist := persistent }
  | .error err => return .error err

/-- An operation of a session object, which may reopen it. -/
def operate (operation : Operation) (sess : Object) :
    C (Except PyErr operation.Answer × Object) := do
  let (res, raw) ← perform sess.persist (fun raw ↦ check (operation.run raw)) lost reopen sess.raw
  return (res, { sess with raw := raw })

/-- `Session.close`, also run by the context exit, which ignores the result. -/
def close (sess : Object) : C (Except PyErr Unit × Object) := do
  if sess.raw.fd < 0 then
    return (.ok (), sess)
  else
    match ← closeSession sess.raw with
    | (.TT_OK _, raw) => return (.ok (), { sess with raw := raw })
    | (.TT_ERR, raw) => return (.error (.TTError (← getErrno)), { sess with raw := raw })

/-- The destructor. -/
def dropSession (sess : Object) : C Unit := do
  let _ ← close sess

/-- `Session.reset` adopts the handle that `tt_reset_with` leaves. -/
def reset (rounds : ℕ) (sess : Object) : C (Except PyErr Device × Object) := do
  match ← resetWith rounds sess.raw with
  | (.TT_OK _, raw) => return (.ok raw.dev, { sess with raw := raw })
  | (.TT_ERR, raw) => return (.error (.TTError (← getErrno)), { sess with raw := raw })

end Python

/-! ## The two languages agree -/

theorem openDevice_agree (dev : Device) (exclusive nonblocking persistent : Bool) :
    Python.openDevice dev exclusive nonblocking persistent =
      raise <$> Rust.OpenOptions.openDevice ⟨exclusive, nonblocking, persistent⟩ dev := by
  simp only [Python.openDevice, Rust.OpenOptions.openDevice, Rust.OpenOptions.flags,
    python_check_eq, bind_map_left, map_bind]
  refine bind_congr fun res ↦ ?_
  cases res <;> simp [raise]

/-- Both languages perform an operation alike. -/
theorem operate_agree (operation : Operation) (sess : Object) :
    Python.operate operation sess = Prod.map raise id <$> Rust.operate operation sess := by
  simp only [Python.operate, Rust.operate, perform_library_agree, bind_map_left, map_bind]
  rfl

end TtDal.Binding
