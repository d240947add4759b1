import TtDal.Binding.Perform
import TtDal.Dev.Discovery

/-!
# Scanning for all devices

`tt_dev_scan` reports the full number of devices even when the buffer is too small, and both
bindings then scan again with room for twice as many. The buffer is empty between the scans, so
what it holds in the end was stored by the last of them.
-/

namespace TtDal.Binding

open Effect Platform Dev

/-- `Vec::reserve`: the capacity, which is at least what was asked for. -/
def reserve (capacity len additional : ℕ) : ℕ := max capacity (len + additional)

/-- A vector that `tt_dev_scan` stored in: its capacity, and the entries that were stored. -/
structure ScanBuffer where
  capacity : ℕ
  stored : List Device

/-- The capacity of the first scan. -/
def SCAN_CAP : ℕ := 32

/-- The loop of both bindings, observed for a number of scans. It ends with the length, or with
`none` when a scan failed. -/
def scanAll (rounds : ℕ) : (scans capacity cap : ℕ) → C (Option (ℕ × ScanBuffer))
  | 0, _, _ => Procedure.stop .unfinished
  | scans + 1, capacity, cap => do
    let capacity := reserve capacity 0 cap
    match ← ttDevScan rounds cap with
    | .TT_ERR => return none
    | .TT_OK (len, stored) =>
      if len ≤ cap then
        return some (len, { capacity := capacity, stored := stored })
      else
        scanAll rounds scans capacity (len * 2)

/-- The elements of a vector whose length was set. -/
def elements (len : ℕ) (buf : ScanBuffer) : C (List Device) :=
  (List.range len).mapM fun index ↦ scannedDevice buf.stored index

/-- What both bindings do, with a first vector and the exception for an `errno` of their own. -/
def scanWith {ε : Type} (fails : Errno → ε) (rounds scans capacity : ℕ) :
    C (Except ε (List Device)) := do
  match ← scanAll rounds scans capacity SCAN_CAP with
  | none => return .error (fails (← getErrno))
  | some (len, buf) => return .ok (← elements len buf)

/-- `Device::scan` -/
def Rust.scan (rounds scans : ℕ) : C (Except Errno (List Device)) :=
  scanWith id rounds scans (reserve 0 0 SCAN_CAP)

/-- `scan` -/
def Python.scan (rounds scans : ℕ) : C (Except PyErr (List Device)) :=
  scanWith .TTError rounds scans 0

end TtDal.Binding
