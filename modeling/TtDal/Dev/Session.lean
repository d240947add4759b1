import TtDal.Platform.Thread

/-!
# Sessions

The functions of `dev/mod.c` on one session: open, close, reopen and the device information query.
A session is plain data that names a descriptor, so every function takes it by value and those
that change it return it. Functions named after their C symbol take pointers as options and check
them, and the others start behind that check.
-/

namespace TtDal.Dev

open Effect Platform

/-- `tt_device_t` -/
structure Device where
  id : UInt32
  deriving DecidableEq, Repr

/-- `tt_session_t` -/
structure Session where
  dev : Device
  fd : ℤ
  flags : UInt16
  deriving DecidableEq, Repr

def sampleDevice : Device := { id := 0 }

def sampleSession : Session := { dev := sampleDevice, fd := 3, flags := 0 }

/-- What a Wormhole device in the first slot tells. -/
def sampleInfo : DevInfo where
  outputSizeBytes := 20
  vendorId := 0x1e52
  deviceId := 0x401e
  subsystemVendorId := 0
  subsystemId := 0
  busDevFn := 0
  maxDmaBufSizeLog2 := 0
  pciDomain := 0

def TT_OPEN_EXCL : UInt16 := 1

def TT_OPEN_NONBLOCK : UInt16 := 2

def PATH_MAX : ℕ := 4096

/-- The device node, printed with `"/dev/tenstorrent/%u"`. -/
def devicePath (dev : Device) : String :=
  "/dev/tenstorrent/" ++ dev.id.toNat.repr

/-- The mapping of session flags onto `open(2)`. -/
def openFlags (flags : UInt16) : OpenFlags where
  rdwr := true
  cloexec := true
  append := true
  excl := flags &&& TT_OPEN_EXCL ≠ 0
  nonblock := flags &&& TT_OPEN_NONBLOCK ≠ 0

def openSession (dev : Device) (flags : UInt16) : C (Result Session) := do
  if flags &&& ~~~(TT_OPEN_EXCL ||| TT_OPEN_NONBLOCK) ≠ 0 then
    ttFail .EINVAL
  else if PATH_MAX ≤ (devicePath dev).length then
    ttFail Errno.EIO
  else
    match ← sys (.openFile (devicePath dev) (openFlags flags)) with
    | .fail err => ttFail (if err = .EAGAIN then .EAGAIN else .ENODEV)
    | .ok fd _ => return .TT_OK { dev := dev, fd := fd, flags := flags }

/-- The descriptor is kept when `close(2)` reports an error. -/
def closeSession (sess : Session) : C (Status × Session) := do
  if sess.fd < 0 then
    return (.TT_OK (), sess)
  else
    match ← sys (.close sess.fd) with
    | .fail _ => return (.TT_ERR, sess)
    | .ok _ _ => return (.TT_OK (), { sess with fd := -1 })

def reopenSession (sess : Session) : C (Status × Session) := do
  let (_, sess) ← closeSession sess
  match ← openSession sess.dev sess.flags with
  | .TT_OK sess => return (.TT_OK (), sess)
  | .TT_ERR => return (.TT_ERR, sess)

def devInfo (sess : Session) : C (Result DevInfo) := do
  if sess.fd < 0 then
    ttFail .ENOTCONN
  else
    match ← sys (.getDeviceInfo sess.fd) with
    | .fail err => ttFailIo err
    | .ok info _ => return .TT_OK info

/-! ## Entry points -/

def ttOpen (dev : Option Device) (sess : Option Session) (flags : UInt16) :
    C (Status × Option Session) := do
  match dev, sess with
  | some dev, some sess =>
    match ← openSession dev flags with
    | .TT_OK sess => return (.TT_OK (), some sess)
    | .TT_ERR => return (.TT_ERR, some sess)
  | _, _ => return (← ttFail .EINVAL, sess)

def ttClose (sess : Option Session) : C (Status × Option Session) := do
  match sess with
  | some sess =>
    let (status, sess) ← closeSession sess
    return (status, some sess)
  | none => return (← ttFail .EINVAL, none)

def ttReopen (sess : Option Session) : C (Status × Option Session) := do
  match sess with
  | some sess =>
    let (status, sess) ← reopenSession sess
    return (status, some sess)
  | none => return (← ttFail .EINVAL, none)

def ttDevInfo (sess : Option Session) (info : Option DevInfo) : C (Status × Option DevInfo) := do
  match sess, info with
  | some sess, some info =>
    match ← devInfo sess with
    | .TT_OK info => return (.TT_OK (), some info)
    | .TT_ERR => return (.TT_ERR, some info)
  | _, _ => return (← ttFail .EINVAL, info)

/-! ## The device path -/

/-- The path of every device fits the buffer it is printed to. -/
theorem devicePath_length_lt (dev : Device) : (devicePath dev).length < PATH_MAX := by
  have hlt := dev.id.toNat_lt
  have hdigits : dev.id.toNat.repr.length ≤ 10 :=
    (Nat.length_repr_le_iff (by omega)).mpr (by omega)
  calc
    (devicePath dev).length = 17 + dev.id.toNat.repr.length :=
      String.length_append _ _
    _ ≤ 17 + 10 := by omega
    _ < PATH_MAX := by decide

/-- The files of sysfs are not the device node. -/
theorem ne_devicePath {path : String} (h : path.toList[1]? = some 's') (dev : Device) :
    path ≠ devicePath dev := by
  intro heq
  have hdevice : (devicePath dev).toList[1]? = some 'd' := by
    unfold devicePath
    rw [String.toList_append]
    rfl
  rw [heq, hdevice] at h
  exact absurd h (by decide)

-- Unification must not print numbers to compare programs that open a device.
attribute [irreducible] devicePath

theorem openSession_eq (dev : Device) (flags : UInt16) :
    openSession dev flags =
      if flags &&& ~~~(TT_OPEN_EXCL ||| TT_OPEN_NONBLOCK) ≠ 0 then ttFail .EINVAL
      else do
        match ← sys (.openFile (devicePath dev) (openFlags flags)) with
        | .fail err => ttFail (if err = .EAGAIN then .EAGAIN else .ENODEV)
        | .ok fd _ => return .TT_OK { dev := dev, fd := fd, flags := flags } := by
  rw [openSession, if_neg (Nat.not_le.mpr (devicePath_length_lt dev))]

/-! ## Successful calls -/

section Successful

variable {W : Type} {contract : Contract Sys W} {thread : Thread} {w w' w'' : W}
  {residue residue' : Errno}

theorem executes_closeSession (sess : Session) (hfd : 0 ≤ sess.fd)
    (hclose : contract.answers (.close sess.fd) w (.ok () residue) w') :
    Procedure.Executes contract (closeSession sess) thread w
      [⟨.close sess.fd, .ok () residue⟩]
      (.TT_OK (), { sess with fd := -1 }) { thread with errno := residue } w' := by
  rw [closeSession, if_neg (Int.not_lt.mpr hfd)]
  exact .call hclose .done

theorem executes_openSession (dev : Device) {flags : UInt16} {fd : ℕ}
    (hflags : flags &&& ~~~(TT_OPEN_EXCL ||| TT_OPEN_NONBLOCK) = 0)
    (hopen : contract.answers (.openFile (devicePath dev) (openFlags flags)) w
      (.ok fd residue) w') :
    Procedure.Executes contract (openSession dev flags) thread w
      [⟨.openFile (devicePath dev) (openFlags flags), .ok fd residue⟩]
      (.TT_OK { dev := dev, fd := fd, flags := flags }) { thread with errno := residue } w' := by
  rw [openSession_eq, if_neg (not_not.mpr hflags)]
  exact .call hopen .done

theorem executes_reopenSession (sess : Session) {fd : ℕ} (hfd : 0 ≤ sess.fd)
    (hflags : sess.flags &&& ~~~(TT_OPEN_EXCL ||| TT_OPEN_NONBLOCK) = 0)
    (hclose : contract.answers (.close sess.fd) w (.ok () residue) w')
    (hopen : contract.answers (.openFile (devicePath sess.dev) (openFlags sess.flags)) w'
      (.ok fd residue') w'') :
    Procedure.Executes contract (reopenSession sess) thread w
      [⟨.close sess.fd, .ok () residue⟩,
        ⟨.openFile (devicePath sess.dev) (openFlags sess.flags), .ok fd residue'⟩]
      (.TT_OK (), { sess with fd := fd }) { thread with errno := residue' } w'' :=
  Procedure.executes_bind.mpr ⟨_, _, _, _, _, rfl, executes_closeSession sess hfd hclose,
    Procedure.executes_bind.mpr ⟨_, [], _, _, _, rfl,
      executes_openSession sess.dev hflags hopen, .done⟩⟩

end Successful

/-! ## Invariants

A call keeps what the requests it makes keep. -/

section Invariants

variable {W : Type} {contract : Contract Sys W} {inv : W → Prop} {sess : Session}

theorem keeps_openSession {dev : Device} {flags : UInt16}
    (h : Procedure.Keeps contract inv (sys (.openFile (devicePath dev) (openFlags flags)))) :
    Procedure.Keeps contract inv (openSession dev flags) := by
  rw [openSession_eq]
  split
  · exact keeps_ttFail _
  · refine h.bind fun reply ↦ ?_
    cases reply with
    | fail err => exact keeps_ttFail _
    | ok fd residue => exact Procedure.keeps_pure _

theorem keeps_closeSession (h : Procedure.Keeps contract inv (sys (.close sess.fd))) :
    Procedure.Keeps contract inv (closeSession sess) := by
  unfold closeSession
  split
  · exact Procedure.keeps_pure _
  · refine h.bind fun reply ↦ ?_
    cases reply with
    | fail err => exact Procedure.keeps_pure _
    | ok value residue => exact Procedure.keeps_pure _

theorem keeps_reopenSession (hclose : Procedure.Keeps contract inv (sys (.close sess.fd)))
    (hopen : ∀ dev flags,
      Procedure.Keeps contract inv (sys (.openFile (devicePath dev) (openFlags flags)))) :
    Procedure.Keeps contract inv (reopenSession sess) := by
  refine (keeps_closeSession hclose).bind fun closed ↦ ?_
  refine (keeps_openSession (hopen _ _)).bind fun opened ↦ ?_
  cases opened with
  | TT_OK sess' => exact Procedure.keeps_pure _
  | TT_ERR => exact Procedure.keeps_pure _

theorem keeps_devInfo (h : Procedure.Keeps contract inv (sys (.getDeviceInfo sess.fd))) :
    Procedure.Keeps contract inv (devInfo sess) := by
  unfold devInfo
  split
  · exact keeps_ttFail _
  · refine h.bind fun reply ↦ ?_
    cases reply with
    | fail err => exact keeps_ttFailIo _
    | ok info residue => exact Procedure.keeps_pure _

end Invariants

end TtDal.Dev
