import TtDal.Dev.Version

/-!
# Device reset

The functions of `dev/reset.c`. A reset opens the device exclusively, issues the two reset
`ioctl`s on that descriptor with a wait for completion between them, and closes it on every path.
-/

namespace TtDal.Dev

open Effect Platform

/-- Budget for the device to signal completion. -/
def RESET_TIMEOUT_MS : ℕ := 5000

/-- Sleep between completion checks. -/
def RESET_POLL_INTERVAL_US : ℕ := 100000

/-- Firmware time to publish telemetry. -/
def POST_RESET_DELAY_MS : ℕ := 500

def resetDeviceIn (flags : ResetFlag) : ResetDeviceIn where
  outputSizeBytes := 8
  flags := flags

/-- The directory of a device in sysfs. -/
def sysfsPath (info : DevInfo) : String :=
  String.ofList (snprintf 64 ("/sys/bus/pci/devices/".toList ++ infoBdf info))

def configPath (sysfs : String) : String :=
  String.ofList (snprintf 80 (sysfs ++ "/config").toList)

/-- Whether the driver's in-place reset marker reads as clear. -/
def markerClear (sysfs : String) : C Bool := do
  match ← sys (.openFile (configPath sysfs) (readOnly true)) with
  | .fail _ => return false
  | .ok cfd _ =>
    let reply ← sys (.pread cfd 1 4)
    let _ ← sys (.close cfd)
    match reply with
    | .ok [cmd] _ => return cmd.toNat / 2 ^ 6 % 2 = 0
    | _ => return false

/-- The completion loop of `tt_reset`, observed for a number of rounds. -/
def awaitReset (sysfs : String) (start : Timespec) : (rounds : ℕ) → (disappeared : Bool) → C Bool
  | 0, _ => Procedure.stop .unfinished
  | rounds + 1, disappeared => do
    let elapsed ← elapsedMs start
    if elapsed < RESET_TIMEOUT_MS then
      match ← sys (.access sysfs) with
      | .ok _ _ =>
        if disappeared then
          return true
        else
          let complete ← markerClear sysfs
          if complete then
            return true
          else
            let _ ← sys (.usleep RESET_POLL_INTERVAL_US)
            awaitReset sysfs start rounds disappeared
      | .fail _ =>
        let _ ← sys (.usleep RESET_POLL_INTERVAL_US)
        awaitReset sysfs start rounds true
    else
      return false

/-- The wait for the firmware, resumed after a handled signal, observed for a number of rounds. -/
def awaitFirmware : (rounds : ℕ) → (delay : Timespec) → C Unit
  | 0, _ => Procedure.stop .unfinished
  | rounds + 1, delay => do
    match ← sys (.nanosleep delay) with
    | (.fail .EINTR, remaining) => awaitFirmware rounds remaining
    | _ => return ()

/-- Close the descriptor, then record a failure. -/
def failClosed (fd : ℤ) (err : Errno) : C Status := do
  let _ ← sys (.close fd)
  ttFail err

/-- The end of a reset: the second `ioctl` and the release of the device. -/
def finishReset (fd : ℤ) : C Status := do
  match ← sys (.resetDevice fd (resetDeviceIn .POST_RESET)) with
  | .fail err => failClosed fd (normalise err)
  | .ok result _ =>
    if result ≠ 0 then
      failClosed fd Errno.EIO
    else
      match ← sys (.close fd) with
      | .fail _ => return .TT_ERR
      | .ok _ _ => return .TT_OK ()

/-- A reset on the descriptor that was acquired exclusively. -/
def resetExclusive (rounds : ℕ) (sess : Session) : C Status := do
  match ← devInfo sess with
  | .TT_ERR =>
    let err ← getErrno
    failClosed sess.fd err
  | .TT_OK info =>
    match ← sys (.resetDevice sess.fd (resetDeviceIn .ASIC_RESET)) with
    | .fail err => failClosed sess.fd (normalise err)
    | .ok result _ =>
      if result ≠ 0 then
        failClosed sess.fd Errno.EIO
      else
        let start ← sys .clockGettime
        let complete ← awaitReset (sysfsPath info) start rounds false
        if complete then
          awaitFirmware rounds { sec := 0, nsec := POST_RESET_DELAY_MS * 1000000 }
          finishReset sess.fd
        else
          failClosed sess.fd .ETIMEDOUT

def resetDevice (rounds : ℕ) (dev : Device) : C Status := do
  match ← openSession dev (TT_OPEN_EXCL ||| TT_OPEN_NONBLOCK) with
  | .TT_ERR => return .TT_ERR
  | .TT_OK sess => resetExclusive rounds sess

def resetWith (rounds : ℕ) (sess : Session) : C (Status × Session) := do
  if sess.fd < 0 then
    return (← ttFail .ENOTCONN, sess)
  else
    match ← closeSession sess with
    | (.TT_ERR, sess) => return (.TT_ERR, { sess with fd := -1 })
    | (.TT_OK _, sess) => return (← resetDevice rounds sess.dev, sess)

/-! ## Entry points -/

def ttReset (rounds : ℕ) (dev : Option Device) : C Status := do
  match dev with
  | some dev => resetDevice rounds dev
  | none => ttFail .EINVAL

def ttResetWith (rounds : ℕ) (sess : Option Session) : C (Status × Option Session) := do
  match sess with
  | some sess =>
    let (status, sess) ← resetWith rounds sess
    return (status, some sess)
  | none => return (← ttFail .EINVAL, none)

/-! ## Waiting -/

/-- The requests of a wait, but for those that read the marker. -/
def Waits : Syscall → Prop
  | .clockGettime | .access _ | .usleep _ | .nanosleep _ => True
  | _ => False

section Waiting

variable {W : Type} {contract : Contract Sys W} {inv : W → Prop}

/-- What the requests of a wait keep is kept until the device is back. -/
theorem keeps_awaitReset {sysfs : String}
    (hwaits : ∀ op, Waits op → Procedure.Keeps contract inv (sys op))
    (hmarker : Procedure.Keeps contract inv (markerClear sysfs))
    (hstops : contract.tolerates .unfinished) (start : Timespec) (rounds : ℕ)
    (disappeared : Bool) :
    Procedure.Keeps contract inv (awaitReset sysfs start rounds disappeared) := by
  have hsleep := hwaits (.usleep RESET_POLL_INTERVAL_US) trivial
  induction rounds generalizing disappeared with
  | zero => exact Procedure.keeps_stop _ hstops
  | succ rounds ih =>
    refine (keeps_elapsedMs (hwaits .clockGettime trivial) start).bind fun elapsed ↦ ?_
    split
    · refine (hwaits (.access sysfs) trivial).bind fun reply ↦ ?_
      cases reply with
      | ok value residue =>
        cases disappeared with
        | true => exact Procedure.keeps_pure _
        | false =>
          refine hmarker.bind fun complete ↦ ?_
          split
          · exact Procedure.keeps_pure _
          · exact hsleep.bind fun _ ↦ ih false
      | fail err => exact hsleep.bind fun _ ↦ ih true
    · exact Procedure.keeps_pure _

theorem keeps_awaitFirmware (hwaits : ∀ op, Waits op → Procedure.Keeps contract inv (sys op))
    (hstops : contract.tolerates .unfinished) (rounds : ℕ) (delay : Timespec) :
    Procedure.Keeps contract inv (awaitFirmware rounds delay) := by
  induction rounds generalizing delay with
  | zero => exact Procedure.keeps_stop _ hstops
  | succ rounds ih =>
    refine (hwaits (.nanosleep delay) trivial).bind fun reply ↦ ?_
    split
    · exact ih _
    · exact Procedure.keeps_pure _

end Waiting

end TtDal.Dev
