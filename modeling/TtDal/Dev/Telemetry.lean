import TtDal.Dev.Tlb
import TtDal.Dev.Trap
import Mathlib.Data.List.FinRange

/-!
# Telemetry

The functions of `dev/telem.c`. The firmware publishes the addresses of a tag table and of its
data words in two reset unit registers. A window is bound to the registers to read the pointers,
and bound again to shared memory to read the snapshot.
-/

namespace TtDal.Dev

open Effect Platform

def CSM_BASE : UInt32 := 0x10000000

def CSM_SIZE : UInt32 := 0x00080000

def RESET_BASE : UInt32 := 0x80030000

/-- The registers with the published pointers, and the NOC coordinates of the controller. -/
structure ArchConstants where
  telemTags : UInt32
  telemData : UInt32
  nocX : UInt8
  nocY : UInt8
  deriving DecidableEq, Repr

def TT_ARCH_WORMHOLE : UInt16 := 0x401e

def TT_ARCH_BLACKHOLE : UInt16 := 0xb140

def wormhole : ArchConstants where
  telemTags := RESET_BASE + 0x1D0
  telemData := RESET_BASE + 0x1D4
  nocX := 0
  nocY := 2

def blackhole : ArchConstants where
  telemTags := RESET_BASE + 0x434
  telemData := RESET_BASE + 0x430
  nocX := 8
  nocY := 0

def archConstants (deviceId : UInt16) : Option ArchConstants :=
  if deviceId = TT_ARCH_WORMHOLE then some wormhole
  else if deviceId = TT_ARCH_BLACKHOLE then some blackhole
  else none

def TELEM_ENTRY_CAP : ℕ := 128

def TT_TAG_TIMER_HEARTBEAT : Fin TT_TELEMETRY_LEN := ⟨32, by decide⟩

/-- `value & (TT_TLB_2MB - 1)` -/
def windowOffset (value : UInt32) : ℕ := value.toNat % TT_TLB_2MB

/-- `value & ~(uint64_t)(TT_TLB_2MB - 1)` -/
def windowBase (value : UInt32) : UInt64 := UInt64.ofNat (value.toNat - windowOffset value)

def apbConfig (arch : ArchConstants) : TlbConfig where
  addr := windowBase arch.telemTags
  xEnd := arch.nocX
  yEnd := arch.nocY

def csmConfig (arch : ArchConstants) : TlbConfig where
  addr := CSM_BASE.toUInt64
  xEnd := arch.nocX
  yEnd := arch.nocY

/-! ## The snapshot -/

/-- The offset of each tag, `unset` where the table lists none. -/
abbrev TagMap := Fin TT_TELEMETRY_LEN → UInt16

def unset : UInt16 := 0xffff

/-- Record one entry of the tag table; `none` when its tag is already set. -/
def recordEntry (map : TagMap) (entry : UInt32) : Option TagMap :=
  let tag := entry.toNat % 2 ^ 16
  let off := UInt16.ofNat (entry.toNat / 2 ^ 16)
  if h : tag = 0 ∨ TT_TELEMETRY_LEN ≤ tag then
    some map
  else
    let tag : Fin TT_TELEMETRY_LEN := ⟨tag, by omega⟩
    if map tag ≠ unset then none else some (Function.update map tag off)

/-- Read the entries with the given indices into the offset map. -/
def readEntries (tbl : ℕ) : List ℕ → TagMap → Guarded (Option TagMap)
  | [], map => return some map
  | idx :: rest, map => do
    let entry ← deref (tbl + 4 * (2 + idx))
    match recordEntry map entry with
    | none => return none
    | some map => readEntries tbl rest map

/-- The address of a tag's data word. -/
def wordAddr (data : ℕ) (off : UInt16) : ℕ := data + 4 * off.toNat

def storeTag (table : Ref) (tag : Fin TT_TELEMETRY_LEN) (value : UInt32) (thread : Thread) :
    Thread :=
  { thread with
    tables := Function.update thread.tables table
      (Function.update (thread.tables table) tag value) }

/-- `memset(table, 0, sizeof(tt_telemetry_t))` -/
def zeroTable (table : Ref) (thread : Thread) : Thread :=
  { thread with tables := Function.update thread.tables table fun _ ↦ 0 }

/-- Read the words of the given tags into the table. -/
def fillTable (data : ℕ) (map : TagMap) (table : Ref) :
    List (Fin TT_TELEMETRY_LEN) → Guarded Unit
  | [] => return ()
  | tag :: rest => do
    if map tag ≠ unset then
      let value ← deref (wordAddr data (map tag))
      (modify (storeTag table tag value) : C Unit)
      fillTable data map table rest
    else
      fillTable data map table rest

/-- The tags from one to the length of the table. -/
def telemetryTags : List (Fin TT_TELEMETRY_LEN) := (List.finRange TT_TELEMETRY_LEN).tail

/-- The attempts that are left to read a coherent table. -/
def attemptSnapshot (data : ℕ) (map : TagMap) (table : Ref) : (tries : ℕ) → Guarded Status
  | 0 => (ttFail Errno.EIO : C Status)
  | tries + 1 => do
    if map TT_TAG_TIMER_HEARTBEAT ≠ unset then
      let tick ← deref (wordAddr data (map TT_TAG_TIMER_HEARTBEAT))
      fillTable data map table telemetryTags
      let tock ← deref (wordAddr data (map TT_TAG_TIMER_HEARTBEAT))
      if tick = tock then
        return .TT_OK ()
      else
        (modify (zeroTable table) : C Unit)
        attemptSnapshot data map table tries
    else
      fillTable data map table telemetryTags
      return .TT_OK ()

def snapshot (tbl data : ℕ) (table : Ref) : Guarded Status := do
  let count ← deref (tbl + 4)
  match ← readEntries tbl (List.range (min count.toNat TELEM_ENTRY_CAP)) fun _ ↦ unset with
  | none => (ttFail Errno.EIO : C Status)
  | some map => attemptSnapshot data map table 3

/-! ## The window -/

def validPointer (value : UInt32) : Bool :=
  CSM_BASE ≤ value && value < CSM_BASE + CSM_SIZE

/-- Read the two published pointers through the window. -/
def readPointers (window : ℕ) (arch : ArchConstants) : Guarded (UInt32 × UInt32) := do
  let tags ← deref (window + windowOffset arch.telemTags)
  let data ← deref (window + windowOffset arch.telemData)
  return (tags, data)

/-- The second half of `tt_telemetry`, from the binding of the window to shared memory. -/
def readSnapshot (sess : Session) (arch : ArchConstants) (tlb : Tlb) (tags data : UInt32)
    (table : Ref) : C (Status × Tlb) := do
  match ← tlbBind sess tlb (csmConfig arch) with
  | (.TT_ERR, tlb) => return (.TT_ERR, tlb)
  | (.TT_OK _, tlb) =>
    ttTrapArm tlb.ptr TT_TLB_2MB
    match ← (snapshot (tlb.ptr + windowOffset tags) (tlb.ptr + windowOffset data) table).run with
    | .error _ =>
      setErrno .ECONNRESET
      return (.TT_ERR, tlb)
    | .ok status => return (status, tlb)

/-- The use of the allocated window; a failure leads to the `cleanup` label of `tt_telemetry`. -/
def readWindow (sess : Session) (arch : ArchConstants) (tlb : Tlb) (table : Ref) :
    C (Status × Tlb) := do
  match ← tlbBind sess tlb (apbConfig arch) with
  | (.TT_ERR, tlb) => return (.TT_ERR, tlb)
  | (.TT_OK _, tlb) =>
    ttTrapArm tlb.ptr TT_TLB_2MB
    match ← (readPointers tlb.ptr arch).run with
    | .error _ =>
      setErrno .ECONNRESET
      return (.TT_ERR, tlb)
    | .ok (tags, data) =>
      if validPointer tags && validPointer data then
        ttTrapDisarm
        readSnapshot sess arch tlb tags data table
      else
        setErrno Errno.EIO
        return (.TT_ERR, tlb)

/-- `tt_telemetry` with the check of its pointers behind it. The handle is on the stack and
written by the allocation before it is read, so it starts with any value. -/
def telemetry (sess : Session) (table : Ref) : C Status := do
  if sess.fd < 0 then
    ttFail .ENOTCONN
  else
    match ← devInfo sess with
    | .TT_ERR => return .TT_ERR
    | .TT_OK info =>
      match archConstants info.deviceId with
      | none => ttFail .ENOTSUP
      | some arch =>
        modify (zeroTable table)
        match ← tlbAlloc sess TT_TLB_2MB TT_TLB_UC { id := 0, ptr := NULL, len := 0, idx := 0 } with
        | (.TT_ERR, _) => return .TT_ERR
        | (.TT_OK _, tlb) =>
          match ← readWindow sess arch tlb table with
          | (.TT_OK _, tlb) =>
            ttTrapDisarm
            let _ ← tlbFree sess tlb
            return .TT_OK ()
          | (.TT_ERR, tlb) =>
            let err ← getErrno
            ttTrapDisarm
            let _ ← tlbFree sess tlb
            ttFail err

def ttTelemetry (sess : Option Session) (table : Option Ref) : C Status := do
  match sess, table with
  | some sess, some table => telemetry sess table
  | _, _ => ttFail .EINVAL

/-! ## Where the window is put -/

theorem archConstants_cases {deviceId : UInt16} {arch : ArchConstants}
    (h : archConstants deviceId = some arch) : arch = wormhole ∨ arch = blackhole := by
  unfold archConstants at h
  split at h
  · exact .inl (Option.some.inj h).symm
  · split at h
    · exact .inr (Option.some.inj h).symm
    · cases h

theorem validPointer_iff {value : UInt32} : validPointer value = true ↔
    CSM_BASE.toNat ≤ value.toNat ∧ value.toNat < CSM_BASE.toNat + CSM_SIZE.toNat := by
  have hend : (CSM_BASE + CSM_SIZE).toNat = CSM_BASE.toNat + CSM_SIZE.toNat := by decide
  simp only [validPointer, Bool.and_eq_true, decide_eq_true_eq, UInt32.le_iff_toNat_le,
    UInt32.lt_iff_toNat_lt, hend]

/-- Shared memory starts where a window can, and is smaller than one. -/
theorem base_add_windowOffset {value : UInt32} (h : validPointer value = true) :
    CSM_BASE.toNat + windowOffset value = value.toNat := by
  obtain ⟨hlow, hhigh⟩ := validPointer_iff.mp h
  have hbase : CSM_BASE.toNat = 128 * 2 ^ 21 := rfl
  have hsize : CSM_SIZE.toNat = 2 ^ 19 := rfl
  unfold windowOffset TT_TLB_2MB
  omega

/-- A published pointer that is valid leaves room behind it for all that is read. -/
theorem windowOffset_lt {value : UInt32} (h : validPointer value = true) :
    windowOffset value < CSM_SIZE.toNat := by
  obtain ⟨-, hhigh⟩ := validPointer_iff.mp h
  have hvalue := base_add_windowOffset h
  omega

end TtDal.Dev
