import TtDal.Dev.Discovery

/-!
# Versions

The functions of `ver.c`: the driver version, asked of the first device found, and the firmware
version, read from an attribute of the session's device.
-/

namespace TtDal.Dev

open Effect Platform

/-- `tt_version_t` -/
structure Version where
  major : ℕ
  minor : ℕ
  patch : ℕ
  pre : String := ""
  build : String := ""
  deriving DecidableEq, Repr

def kmdVersion (rounds : ℕ) : C (Result Version) := do
  match ← ttDevScan rounds 1 with
  | .TT_ERR => return .TT_ERR
  | .TT_OK (found, devs) =>
    if found = 0 then
      ttFail .ENODEV
    else
      let dev ← scannedDevice devs 0
      match ← openSession dev 0 with
      | .TT_ERR => return .TT_ERR
      | .TT_OK sess =>
        let res ← sys (.getDriverInfo sess.fd)
        let err ← getErrno
        let _ ← closeSession sess
        match res with
        | .fail _ => ttFailIo err
        | .ok out _ =>
          return .TT_OK
            { major := out.driverVersionMajor.toNat
              minor := out.driverVersionMinor.toNat
              patch := out.driverVersionPatch.toNat }

def ttKmdVersion (rounds : ℕ) (version : Option Version) : C (Status × Option Version) := do
  match version with
  | some version =>
    match ← kmdVersion rounds with
    | .TT_OK version => return (.TT_OK (), some version)
    | .TT_ERR => return (.TT_ERR, some version)
  | none => return (← ttFail .EINVAL, none)

/-! ## The firmware version -/

/-- The attribute with the firmware version of a device. -/
def fwVersionPath (dev : Device) : String :=
  String.ofList (snprintf 64 ("/sys/class/tenstorrent/tenstorrent!" ++ dev.id.toNat.repr ++
    "/tt_fw_bundle_ver").toList)

theorem fwVersionPath_ne_devicePath (dev dev' : Device) : fwVersionPath dev ≠ devicePath dev' :=
  ne_devicePath (by simp [fwVersionPath, snprintf]) dev'

/-- `O_RDONLY` -/
def readOnly (cloexec : Bool) : OpenFlags where
  rdwr := false
  cloexec := cloexec
  append := false
  excl := false
  nonblock := false

/-- The version in the text of the attribute, as a C string. -/
def parseFwVersion (buf : List UInt8) : Option Version :=
  match sscanf [.number 10 64, .literal '.', .number 10 64, .literal '.', .number 10 64,
      .literal '.', .number 10 64] ((buf.takeWhile (· ≠ 0)).map Char.ofUInt8) with
  | [major, minor, patch, rc] =>
    some
      { major := major
        minor := minor
        patch := patch
        pre := if 0 < rc then String.ofList (snprintf 32 ("rc." ++ rc.repr).toList) else "" }
  | _ => none

def fwVersion (sess : Session) : C (Result Version) := do
  if sess.fd < 0 then
    ttFail .ENOTCONN
  else
    match ← sys (.openFile (fwVersionPath sess.dev) (readOnly false)) with
    | .fail _ => return .TT_ERR
    | .ok fd _ =>
      match ← sys (.read fd 31) with
      | .fail err =>
        let _ ← sys (.close fd)
        ttFail err
      | .ok buf _ =>
        let _ ← sys (.close fd)
        if buf = [] then
          ttFail Errno.EIO
        else
          match parseFwVersion buf with
          | none => ttFail Errno.EIO
          | some version => return .TT_OK version

def ttFwVersion (sess : Option Session) (version : Option Version) :
    C (Status × Option Version) := do
  match sess, version with
  | some sess, some version =>
    match ← fwVersion sess with
    | .TT_OK version => return (.TT_OK (), some version)
    | .TT_ERR => return (.TT_ERR, some version)
  | _, _ => return (← ttFail .EINVAL, version)

end TtDal.Dev
