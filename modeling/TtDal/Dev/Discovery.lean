import TtDal.Dev.Session
import TtDal.Platform.Text

/-!
# Device discovery

The functions of `dev/mod.c` that find devices: by scanning the driver's directory, by PCIe
address, and by path.
-/

namespace TtDal.Dev

open Effect Platform

/-- The device of a directory entry, or `none` for an entry the scan skips. -/
def scanEntry (entry : Dirent) : Option Device :=
  if entry.isChr then
    let (num, rest, _) := strtoul entry.name.toList
    if rest = [] then some { id := UInt32.ofNat num } else none
  else
    none

/-- The directory loop of `tt_dev_scan`, observed for a number of rounds. The buffer is given by
the entries filled so far. -/
def scanLoop (dir : ℕ) (cap : ℕ) : (rounds count : ℕ) → List Device → C (ℕ × List Device)
  | 0, _, _ => Procedure.stop .unfinished
  | rounds + 1, count, buf => do
    match ← sys (.readdir dir) with
    | none => return (count, buf)
    | some entry =>
      match scanEntry entry with
      | none => scanLoop dir cap rounds count buf
      | some dev => scanLoop dir cap rounds (count + 1) (if count < cap then buf ++ [dev] else buf)

/-- `tt_dev_scan`: the number of devices found, and the buffer entries it filled. -/
def ttDevScan (rounds cap : ℕ) : C (Result (ℕ × List Device)) := do
  match ← sys (.opendir "/dev/tenstorrent") with
  | .fail err => if err = .ENOENT then return .TT_OK (0, []) else return .TT_ERR
  | .ok dir _ =>
    let found ← scanLoop dir cap rounds 0 []
    let _ ← sys (.closedir dir)
    return .TT_OK found

/-! ## Lookup by PCIe address -/

/-- `"%04x:%02x:%02x.%x"` -/
def formatBdf (domain bus slot func : ℕ) : List Char :=
  hex 4 domain ++ ':' :: hex 2 bus ++ ':' :: hex 2 slot ++ '.' :: hex 0 func

/-- The address of a device in the form it is compared and located by. -/
def infoBdf (info : DevInfo) : List Char :=
  let busDevFn := info.busDevFn.toNat
  snprintf 20 (formatBdf info.pciDomain.toNat (busDevFn / 2 ^ 8 % 2 ^ 8) (busDevFn / 2 ^ 3 % 2 ^ 5)
    (busDevFn % 2 ^ 3))

/-- The numbers of an address, parsed in the long form or else in the short one. -/
def parseBdf (addr : List Char) : Option (ℕ × ℕ × ℕ × ℕ) :=
  match sscanf [.number 16 32, .literal ':', .number 16 32, .literal ':', .number 16 32,
      .literal '.', .number 16 32] addr with
  | [domain, bus, slot, func] => some (domain, bus, slot, func)
  | _ =>
    match sscanf [.number 16 32, .literal ':', .number 16 32, .literal '.', .number 16 32] addr with
    | [bus, slot, func] => some (0, bus, slot, func)
    | _ => none

/-- Read an entry of the scan buffer, which holds garbage behind the entries that were filled. -/
def scannedDevice (devs : List Device) (index : ℕ) : C Device := do
  match devs[index]? with
  | some dev => return dev
  | none => return { id := ← sys .indeterminate }

/-- The loop of `tt_dev_from_bdf` over the entries from `index` on. -/
def matchBdf (normalized : List Char) (devs : List Device) : (remaining index : ℕ) →
    C (Result Device)
  | 0, _ => ttFail .ENODEV
  | remaining + 1, index => do
    let dev ← scannedDevice devs index
    match ← openSession dev 0 with
    | .TT_ERR => matchBdf normalized devs remaining (index + 1)
    | .TT_OK sess =>
      let res ← devInfo sess
      let _ ← closeSession sess
      match res with
      | .TT_ERR => matchBdf normalized devs remaining (index + 1)
      | .TT_OK info =>
        if infoBdf info = normalized then
          return .TT_OK dev
        else
          matchBdf normalized devs remaining (index + 1)

/-- The capacity of the scan buffer of `tt_dev_from_bdf`. -/
def BDF_SCAN_CAP : ℕ := 64

def devFromBdf (rounds : ℕ) (addr : List Char) : C (Result Device) := do
  match parseBdf addr with
  | none => ttFail .EINVAL
  | some (domain, bus, slot, func) =>
    let normalized := snprintf 20 (formatBdf domain bus slot func)
    match ← ttDevScan rounds BDF_SCAN_CAP with
    | .TT_ERR => ttFail .ENODEV
    | .TT_OK (count, devs) => matchBdf normalized devs count 0

def ttDevFromBdf (rounds : ℕ) (addr : Option String) (dev : Option Device) :
    C (Status × Option Device) := do
  match addr, dev with
  | some addr, some dev =>
    match ← devFromBdf rounds addr.toList with
    | .TT_OK dev => return (.TT_OK (), some dev)
    | .TT_ERR => return (.TT_ERR, some dev)
  | _, _ => return (← ttFail .EINVAL, dev)

/-! ## Lookup by path -/

/-- The text behind the prefix of a device node. -/
def nodeNumber (resolved : List Char) : Option (List Char) :=
  "/dev/tenstorrent/".toList.isPrefixOf? resolved

def devFromPath (path : String) : C (Result Device) := do
  match ← sys (.realpath path) with
  | .fail _ => ttFail .ENODEV
  | .ok resolved _ =>
    match nodeNumber resolved.toList with
    | none => ttFail .EINVAL
    | some text =>
      let (num, rest, _) := strtoul text
      if rest ≠ [] ∨ 2 ^ 32 ≤ num then
        ttFail .EINVAL
      else
        return .TT_OK { id := UInt32.ofNat num }

def ttDevFromPath (path : Option String) (dev : Option Device) : C (Status × Option Device) := do
  match path, dev with
  | some path, some dev =>
    match ← devFromPath path with
    | .TT_OK dev => return (.TT_OK (), some dev)
    | .TT_ERR => return (.TT_ERR, some dev)
  | _, _ => return (← ttFail .EINVAL, dev)

end TtDal.Dev
