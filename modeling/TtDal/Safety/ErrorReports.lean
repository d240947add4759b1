import TtDal.Dev.Power
import TtDal.Dev.Smc
import TtDal.Dev.Version
import TtDal.Safety.GuardedReads

/-!
# What a failing operation reports

When a system call makes an operation on an open session fail, the operation reports the error of
that call, with `ENODEV` rewritten to `ECONNRESET`, whatever the cleanup does to `errno`. The
firmware version alone reports `ENODEV` as it is.
-/

namespace TtDal.Safety.ErrorReports

open Effect Platform Dev GuardedReads

/-- The operations on a session, with what they are given. -/
inductive Operation where
  | devInfo (info : Option DevInfo)
  | tlbAlloc (size mode : ℕ) (tlb : Option Tlb)
  | tlbBind (tlb : Option Tlb) (cfg : Option TlbConfig)
  | tlbFree (tlb : Option Tlb)
  | smcPost (req : Option Ref)
  | smcPoll (rsp : Option Ref)
  | smcWait (rounds : ℕ) (rsp : Option Ref) (timeout : UInt32)
  | smcCall (rounds : ℕ) (req rsp : Option Ref) (timeout : UInt32)
  | smcDrop
  | power (flags : UInt16)
  | telemetry (table : Option Ref)
  | fwVersion (version : Option Version)

namespace Operation

def run (sess : Session) : Operation → C Status
  | .devInfo info => Prod.fst <$> ttDevInfo (some sess) info
  | .tlbAlloc size mode tlb => Prod.fst <$> ttTlbAlloc (some sess) size mode tlb
  | .tlbBind tlb cfg => Prod.fst <$> ttTlbBind (some sess) tlb cfg
  | .tlbFree tlb => Prod.fst <$> ttTlbFree (some sess) tlb
  | .smcPost req => ttSmcPost (some sess) req
  | .smcPoll rsp => ttSmcPoll (some sess) rsp
  | .smcWait rounds rsp timeout => ttSmcWait rounds (some sess) rsp timeout
  | .smcCall rounds req rsp timeout => ttSmcCall rounds (some sess) req rsp timeout
  | .smcDrop => ttSmcDrop (some sess)
  | .power flags => ttPower (some sess) flags
  | .telemetry table => ttTelemetry (some sess) table
  | .fwVersion version => Prod.fst <$> ttFwVersion (some sess) version

/-- Freeing a window is what the operation is for, and not a cleanup. -/
def frees : Operation → Bool
  | .tlbFree _ => true
  | _ => false

/-- Dropping a message is what the operation is for, and not a cleanup. -/
def drops : Operation → Bool
  | .smcDrop => true
  | _ => false

/-- A pending response is polled for again. -/
def waits : Operation → Bool
  | .smcWait _ _ _ | .smcCall _ _ _ _ => true
  | _ => false

/-- How long a pending response is polled for, in milliseconds. -/
def budget : Operation → ℕ
  | .smcWait _ _ timeout | .smcCall _ _ _ timeout => smcBudget timeout
  | _ => 0

def readsVersion : Operation → Bool
  | .fwVersion _ => true
  | _ => false

/-- The error with which a call makes the operation fail. -/
def blame (op : Operation) : Event Sys → Option Errno
  | ⟨.openFile _ _, .fail err⟩ => some err
  | ⟨.read _ _, .fail err⟩ => some err
  | ⟨.mmap _ _ _, .fail err⟩ => some err
  | ⟨.getDeviceInfo _, .fail err⟩ => some err
  | ⟨.allocateTlb _ _, .fail err⟩ => some err
  | ⟨.configureTlb _ _ _, .fail err⟩ => some err
  | ⟨.setPowerState _ _, .fail err⟩ => some err
  | ⟨.freeTlb _ _, .fail err⟩ => if op.frees then some err else none
  | ⟨.smcMsg _ msg, .fail err⟩ =>
    match msg.flags with
    | .POST => some err
    | .POLL => if op.waits ∧ err = .EAGAIN then none else some err
    | .ABANDON => if op.drops then some err else none
  | _ => none

/-- The error of the first call that makes the operation fail. -/
def cause (op : Operation) (trace : List (Event Sys)) : Option Errno :=
  trace.findSome? op.blame

/-- How the operation reports an error. -/
def report (op : Operation) (err : Errno) : Errno :=
  if op.readsVersion then err else normalise err

end Operation

/-- An unmapping failed with `ENODEV`. -/
def UnmapFails (trace : List (Event Sys)) : Prop :=
  ∃ start len, (⟨.munmap start len, .fail .ENODEV⟩ : Event Sys) ∈ trace

/-- A poll found the response. -/
def Found (trace : List (Event Sys)) : Prop :=
  ∃ fd message response residue,
    (⟨.smcMsg fd (smcMsgIoctl .POLL message), .ok response residue⟩ : Event Sys) ∈ trace

/-- Between two looks at the clock the budget of the operation has passed. -/
def Spent (op : Operation) (trace : List (Event Sys)) : Prop :=
  ∃ start now, (⟨.clockGettime, start⟩ : Event Sys) ∈ trace ∧
    (⟨.clockGettime, now⟩ : Event Sys) ∈ trace ∧ op.budget ≤ timespecDiffMs start now

/-- Part of an operation reports the error of the call that made it fail. -/
structure Reports (op : Operation) (trace : List (Event Sys)) (failed : Prop) (errno : Errno) :
    Prop where
  blamed : ∀ err, op.cause trace = some err → failed ∧ errno = op.report err
  hidden : op.cause trace = none → failed → errno = .ENODEV → UnmapFails trace

/-- A wait reports so too. While the response is pending it goes on: it succeeds only when a poll
finds the response, and fails without such a call only when its budget is spent or a pointer is
null. -/
structure Waited (op : Operation) (trace : List (Event Sys)) (failed : Prop) (errno : Errno) :
    Prop extends Reports op trace failed errno where
  found : ¬failed → Found trace
  retried : op.cause trace = none → failed →
    errno = .ETIMEDOUT ∧ Spent op trace ∨ errno = .EINVAL

section Reports

variable {op : Operation} {first rest trace trace' : List (Event Sys)} {failed : Prop}
  {errno err : Errno}

theorem cause_append : op.cause (first ++ rest) = (op.cause first).or (op.cause rest) :=
  List.findSome?_append

theorem cause_append_of_silent (h : op.cause first = none) :
    op.cause (first ++ rest) = op.cause rest := by
  rw [cause_append, h, Option.none_or]

theorem silent_append (h : op.cause first = none) (h' : op.cause rest = none) :
    op.cause (first ++ rest) = none := by
  rw [cause_append_of_silent h, h']

theorem UnmapFails.mono (h : UnmapFails trace) (hsub : trace ⊆ trace') : UnmapFails trace' := by
  obtain ⟨start, len, hmem⟩ := h
  exact ⟨start, len, hsub hmem⟩

theorem Found.mono (h : Found trace) (hsub : trace ⊆ trace') : Found trace' := by
  obtain ⟨fd, message, response, residue, hmem⟩ := h
  exact ⟨fd, message, response, residue, hsub hmem⟩

theorem Spent.mono (h : Spent op trace) (hsub : trace ⊆ trace') : Spent op trace' := by
  obtain ⟨start, now, hstart, hnow, hbudget⟩ := h
  exact ⟨start, now, hsub hstart, hsub hnow, hbudget⟩

/-- No call is to blame. -/
theorem reports_silent (h : op.cause trace = none) (herrno : failed → errno ≠ .ENODEV) :
    Reports op trace failed errno where
  blamed err herr := by
    rw [h] at herr
    cases herr
  hidden _ hfailed henodev := absurd henodev (herrno hfailed)

theorem reports_blamed (h : op.cause trace = some err) (hfailed : failed)
    (herrno : errno = op.report err) : Reports op trace failed errno where
  blamed err' herr' := by
    rw [h] at herr'
    exact ⟨hfailed, Option.some.inj herr' ▸ herrno⟩
  hidden hnone := by
    rw [h] at hnone
    cases hnone

theorem Reports.silent (h : Reports op trace failed errno) (hok : ¬failed) :
    op.cause trace = none := by
  cases hcause : op.cause trace with
  | none => rfl
  | some err => exact absurd (h.blamed err hcause).1 hok

/-- Calls around a part that are not to blame change nothing, when `errno` is put back. -/
theorem Reports.mono (h : Reports op trace failed errno) (hcause : op.cause trace' = op.cause trace)
    (hsub : trace ⊆ trace') : Reports op trace' failed errno where
  blamed err herr := h.blamed err (hcause.symm.trans herr)
  hidden hnone hfailed henodev :=
    (h.hidden (hcause.symm.trans hnone) hfailed henodev).mono hsub

theorem Reports.after (h : Reports op rest failed errno) (hfirst : op.cause first = none) :
    Reports op (first ++ rest) failed errno :=
  h.mono (cause_append_of_silent hfirst) (List.subset_append_right first rest)

theorem cause_append_silent (h : op.cause rest = none) :
    op.cause (first ++ rest) = op.cause first := by
  rw [cause_append, h, Option.or_none]

theorem Reports.cleaned (h : Reports op first failed errno) (hrest : op.cause rest = none) :
    Reports op (first ++ rest) failed errno :=
  h.mono (cause_append_silent hrest) (List.subset_append_left first rest)

theorem Reports.congr {failed' : Prop} (h : Reports op trace failed errno)
    (hiff : failed' ↔ failed) : Reports op trace failed' errno :=
  propext hiff ▸ h

/-- A call made the wait fail. -/
theorem Reports.waited (h : Reports op trace failed errno) (hfailed : failed)
    (hblamed : op.cause trace ≠ none) : Waited op trace failed errno where
  toReports := h
  found hok := absurd hfailed hok
  retried hnone := absurd hnone hblamed

theorem Waited.mono (h : Waited op trace failed errno) (hcause : op.cause trace' = op.cause trace)
    (hsub : trace ⊆ trace') : Waited op trace' failed errno where
  toReports := h.toReports.mono hcause hsub
  found hok := (h.found hok).mono hsub
  retried hnone hfailed :=
    (h.retried (hcause.symm.trans hnone) hfailed).imp_left fun hspent ↦
      ⟨hspent.1, hspent.2.mono hsub⟩

theorem Waited.after (h : Waited op rest failed errno) (hfirst : op.cause first = none) :
    Waited op (first ++ rest) failed errno :=
  h.mono (cause_append_of_silent hfirst) (List.subset_append_right first rest)

theorem Waited.cleaned (h : Waited op first failed errno) (hrest : op.cause rest = none) :
    Waited op (first ++ rest) failed errno :=
  h.mono (cause_append_silent hrest) (List.subset_append_left first rest)

/-- A look at the clock before a wait is seen by what comes in between. -/
theorem Waited.between {start : Timespec}
    (h : Waited op (⟨.clockGettime, start⟩ :: rest) failed errno) (hfirst : op.cause first = none) :
    Waited op (⟨.clockGettime, start⟩ :: (first ++ rest)) failed errno := by
  have hclock : op.cause [⟨.clockGettime, start⟩] = none := rfl
  refine h.mono ?_ (List.cons_subset_cons _ (List.subset_append_right first rest))
  calc
    op.cause ([⟨.clockGettime, start⟩] ++ (first ++ rest)) = op.cause (first ++ rest) :=
      cause_append_of_silent hclock
    _ = op.cause rest := cause_append_of_silent hfirst
    _ = op.cause ([⟨.clockGettime, start⟩] ++ rest) := (cause_append_of_silent hclock).symm

theorem report_eq_normalise (h : op.readsVersion = false) : op.report err = normalise err := by
  simp [Operation.report, h]

end Reports

/-! ## Single calls -/

section Calls

variable {op : Operation} {sess : Session} {thread : Thread}

theorem wp_devInfo (hfd : 0 ≤ sess.fd) (hop : op.readsVersion = false) :
    Procedure.wp .anything (devInfo sess) (fun trace res thread' _ ↦
      Reports op trace (res = .TT_ERR) thread'.errno) thread () := by
  rw [devInfo, if_neg (Int.not_lt.mpr hfd), Procedure.wp_bind, wp_sys]
  refine ⟨trivial, fun reply _ _ ↦ ?_⟩
  cases reply with
  | fail err => exact reports_blamed rfl rfl (report_eq_normalise hop).symm
  | ok info residue => exact reports_silent rfl nofun

theorem wp_ttPower (hfd : 0 ≤ sess.fd) (flags : UInt16) (hop : op.readsVersion = false) :
    Procedure.wp .anything (ttPower (some sess) flags) (fun trace status thread' _ ↦
      Reports op trace (status = .TT_ERR) thread'.errno) thread () := by
  rw [ttPower, if_neg (Int.not_lt.mpr hfd), Procedure.wp_bind, wp_sys]
  refine ⟨trivial, fun reply _ _ ↦ ?_⟩
  cases reply with
  | fail err => exact reports_blamed rfl rfl (report_eq_normalise hop).symm
  | ok value residue => exact reports_silent rfl nofun

/-! ## Windows -/

theorem wp_tlbUnconfigure (op : Operation) (tlb : Tlb) :
    Procedure.wp .anything (tlbUnconfigure tlb) (fun trace out thread' _ ↦
      op.cause trace = none ∧ out.1 = .TT_ERR ∧ thread'.errno = thread.errno) thread () := by
  unfold tlbUnconfigure
  rw [Procedure.wp_bind, wp_getErrno]
  split
  · rw [Procedure.wp_bind, wp_sys]
    refine ⟨trivial, fun reply _ _ ↦ ?_⟩
    cases reply with
    | fail err => exact ⟨rfl, rfl, rfl⟩
    | ok value residue => exact ⟨rfl, rfl, rfl⟩
  · exact ⟨rfl, rfl, rfl⟩

theorem wp_tlbBind (hfd : 0 ≤ sess.fd) (tlb : Tlb) (cfg : TlbConfig)
    (hop : op.readsVersion = false) :
    Procedure.wp .anything (tlbBind sess tlb cfg) (fun trace out thread' _ ↦
      Reports op trace (out.1 = .TT_ERR) thread'.errno) thread () := by
  rw [tlbBind, if_neg (Int.not_lt.mpr hfd), Procedure.wp_bind, wp_sys]
  refine ⟨trivial, fun reply _ _ ↦ ?_⟩
  cases reply with
  | fail err =>
    rw [Procedure.wp_bind, wp_ttFailIo]
    refine Procedure.wp_mono (wp_tlbUnconfigure op tlb) fun rest out thread' _ hclean ↦ ?_
    obtain ⟨hrest, hstatus, herrno⟩ := hclean
    have hblamed : Reports op [⟨.mmap tlb.len sess.fd tlb.idx, .fail err⟩] (out.1 = .TT_ERR)
        thread'.errno :=
      reports_blamed rfl hstatus (herrno.trans (report_eq_normalise hop).symm)
    exact hblamed.cleaned hrest
  | ok start residue =>
    rw [Procedure.wp_bind, wp_sys]
    refine ⟨trivial, fun reply _ _ ↦ ?_⟩
    cases reply with
    | fail err =>
      rw [Procedure.wp_bind, wp_sys]
      refine ⟨trivial, fun unmapped _ _ ↦ ?_⟩
      rw [Procedure.wp_bind, wp_ttFailIo]
      refine Procedure.wp_mono (wp_tlbUnconfigure op tlb) fun rest out thread' _ hclean ↦ ?_
      obtain ⟨hrest, hstatus, herrno⟩ := hclean
      have hblamed : Reports op
          [⟨.mmap tlb.len sess.fd tlb.idx, .ok start residue⟩,
            ⟨.configureTlb sess.fd tlb.id (nocTlbConfig cfg), .fail err⟩,
            ⟨.munmap start tlb.len, unmapped⟩] (out.1 = .TT_ERR) thread'.errno :=
        reports_blamed rfl hstatus (herrno.trans (report_eq_normalise hop).symm)
      exact hblamed.cleaned hrest
    | ok value residue' =>
      dsimp only
      split
      · rw [Procedure.wp_bind, wp_sys]
        refine ⟨trivial, fun unmapped _ _ ↦ ?_⟩
        cases unmapped with
        | fail err => exact reports_silent rfl nofun
        | ok value residue => exact reports_silent rfl nofun
      · exact reports_silent rfl nofun

/-- Freeing a window reports its failure where it is not a cleanup. -/
theorem wp_tlbRelease (hfd : 0 ≤ sess.fd) (tlb : Tlb) (hop : op.readsVersion = false) :
    Procedure.wp .anything (tlbRelease sess tlb) (fun trace out thread' _ ↦
      (op.frees = true → Reports op trace (out.1 = .TT_ERR) thread'.errno) ∧
        (op.frees = false → op.cause trace = none)) thread () := by
  rw [tlbRelease, if_neg (Int.not_lt.mpr hfd), Procedure.wp_bind, wp_sys]
  refine ⟨trivial, fun reply _ _ ↦ ?_⟩
  cases reply with
  | fail err =>
    refine ⟨fun hfrees ↦ ?_, fun hfrees ↦ ?_⟩
    · have hcause : op.cause [⟨.freeTlb sess.fd tlb.id, .fail err⟩] = some err := by
        simp [Operation.cause, Operation.blame, hfrees]
      exact reports_blamed hcause rfl (report_eq_normalise hop).symm
    · simp [Operation.cause, Operation.blame, hfrees]
  | ok value residue => exact ⟨fun _ ↦ reports_silent rfl nofun, fun _ ↦ rfl⟩

theorem wp_tlbFree (hfd : 0 ≤ sess.fd) (tlb : Tlb) (hop : op.readsVersion = false) :
    Procedure.wp .anything (tlbFree sess tlb) (fun trace out thread' _ ↦
      (op.frees = true → Reports op trace (out.1 = .TT_ERR) thread'.errno) ∧
        (op.frees = false → op.cause trace = none)) thread () := by
  unfold tlbFree
  split
  · rw [Procedure.wp_bind, wp_sys]
    refine ⟨trivial, fun reply _ _ ↦ ?_⟩
    cases reply with
    | fail err =>
      refine ⟨fun _ ↦ ⟨?_, fun _ _ henodev ↦ ?_⟩, fun _ ↦ rfl⟩
      · intro err' herr
        cases herr
      · exact ⟨tlb.ptr, tlb.len, List.mem_singleton.mpr (henodev ▸ rfl)⟩
    | ok value residue =>
      refine Procedure.wp_mono (wp_tlbRelease hfd _ hop) fun rest out _ _ hfree ↦ ?_
      exact ⟨fun hfrees ↦ (hfree.1 hfrees).after rfl, fun hfrees ↦ hfree.2 hfrees⟩
  · exact wp_tlbRelease hfd _ hop

theorem wp_tlbAlloc (hfd : 0 ≤ sess.fd) (size mode : ℕ) (tlb : Tlb)
    (hop : op.readsVersion = false) (hfrees : op.frees = false) :
    Procedure.wp .anything (tlbAlloc sess size mode tlb) (fun trace out thread' _ ↦
      Reports op trace (out.1 = .TT_ERR) thread'.errno) thread () := by
  rw [tlbAlloc, if_neg (Int.not_lt.mpr hfd), Procedure.wp_bind, wp_sys]
  refine ⟨trivial, fun reply _ _ ↦ ?_⟩
  cases reply with
  | fail err => exact reports_blamed rfl rfl (report_eq_normalise hop).symm
  | ok granted residue =>
    dsimp only
    split
    · exact reports_silent rfl nofun
    · split
      · exact reports_silent rfl nofun
      · rw [Procedure.wp_bind, wp_setErrno, Procedure.wp_bind, wp_getErrno]
        refine Procedure.wp_call (wp_tlbFree hfd _ hop) fun rest out thread' _ hfree ↦ ?_
        have hsilent : op.cause (⟨.allocateTlb sess.fd size, .ok granted residue⟩ :: rest) = none :=
          hfree.2 hfrees
        have herrno : Errno.EINVAL ≠ .ENODEV := by decide
        rw [Procedure.wp_bind, wp_ttFail]
        simpa using reports_silent hsilent fun _ ↦ herrno

/-! ## Messages -/

/-- A message call fails with the error the driver reports, or succeeds. -/
structure Messaged (sess : Session) (flags : SmcMsgFlag) (trace : List (Event Sys))
    (status : Status) (errno : Errno) : Prop where
  request : ∃ message reply, trace = [⟨.smcMsg sess.fd (smcMsgIoctl flags message), reply⟩] ∧
    match reply with
    | .ok _ _ => status = .TT_OK ()
    | .fail err => status = .TT_ERR ∧ errno = normalise err

/-- Whether a failing message call makes the operation fail. -/
def Operation.fatal (op : Operation) (flags : SmcMsgFlag) (err : Errno) : Bool :=
  match flags with
  | .POST => true
  | .POLL => !(op.waits && err = .EAGAIN)
  | .ABANDON => op.drops

theorem blame_smcMsg (fd : ℤ) (flags : SmcMsgFlag) (message : SmcMsg) (err : Errno) :
    op.blame ⟨.smcMsg fd (smcMsgIoctl flags message), .fail err⟩ =
      if op.fatal flags err then some err else none := by
  cases flags with
  | POST => rfl
  | POLL =>
    have hflags : (smcMsgIoctl .POLL message).flags = .POLL := rfl
    by_cases hpending : op.waits ∧ err = .EAGAIN
    · simp [Operation.blame, Operation.fatal, hflags, hpending]
    · simp [Operation.blame, Operation.fatal, hflags, hpending]
  | ABANDON => rfl

variable {flags : SmcMsgFlag} {trace : List (Event Sys)} {status : Status} {errno : Errno}

theorem Messaged.blamed (h : Messaged sess flags trace status errno)
    (hfatal : ∀ err, errno = normalise err → op.fatal flags err = true) (herr : status = .TT_ERR) :
    op.cause trace ≠ none := by
  obtain ⟨message, reply, rfl, hreply⟩ := h.request
  cases reply with
  | ok value residue => cases herr.symm.trans hreply
  | fail err =>
    obtain ⟨-, rfl⟩ := hreply
    simp [Operation.cause, blame_smcMsg, hfatal err rfl]

theorem Messaged.found {value : Unit} (h : Messaged sess .POLL trace (.TT_OK value) errno) :
    Found trace := by
  obtain ⟨message, reply, rfl, hreply⟩ := h.request
  cases reply with
  | ok response residue => exact ⟨_, message, response, residue, List.mem_singleton.mpr rfl⟩
  | fail err => cases hreply.1

theorem Messaged.silent (h : Messaged sess flags trace status errno)
    (hfatal : ∀ err, status = .TT_ERR → errno = normalise err → op.fatal flags err = false) :
    op.cause trace = none := by
  obtain ⟨message, reply, rfl, hreply⟩ := h.request
  cases reply with
  | ok value residue => rfl
  | fail err =>
    obtain ⟨rfl, rfl⟩ := hreply
    simp [Operation.cause, blame_smcMsg, hfatal err rfl rfl]

/-- Reads of a window are not system calls. -/
theorem loads_silent {good : ℕ → Prop} {guard : Guard} (h : Loads good guard trace) :
    op.cause trace = none := by
  rw [Operation.cause, List.findSome?_eq_none_iff]
  intro event hevent
  obtain ⟨request, answer⟩ := event
  obtain ⟨addr, -, rfl⟩ := h _ hevent
  rfl

theorem wp_ttTrapArm (op : Operation) (ptr len : ℕ) :
    Procedure.wp .anything (ttTrapArm ptr len) (fun trace _ thread' _ ↦
      op.cause trace = none ∧ thread'.errno = thread.errno) thread () := by
  rw [ttTrapArm, Procedure.wp_bind, Procedure.wp_get]
  split
  · exact ⟨rfl, rfl⟩
  · rw [Procedure.wp_bind, wp_sys]
    exact ⟨trivial, fun _ _ _ ↦ ⟨rfl, rfl⟩⟩

/-- The snapshot fails with `EIO` unless a read faults. -/
theorem wp_attemptSnapshot (data : ℕ) (map : TagMap) (table : Ref) (tries : ℕ) :
    Procedure.wp .anything (attemptSnapshot data map table tries).run (fun _ res thread' _ ↦
      res = .ok .TT_ERR → thread'.errno = Errno.EIO) thread () := by
  induction tries generalizing thread with
  | zero => exact fun _ ↦ rfl
  | succ tries ih =>
    unfold attemptSnapshot
    split
    · refine wp_guarded (Procedure.wp_anything _ _) (fun _ tick _ _ _ ↦ ?_) (by simp)
      refine wp_guarded (Procedure.wp_anything _ _) (fun _ _ _ _ _ ↦ ?_) (by simp)
      refine wp_guarded (Procedure.wp_anything _ _) (fun _ tock _ _ _ ↦ ?_) (by simp)
      split
      · simp
      · rw [wp_guarded_modify]
        exact ih
    · exact wp_guarded (Procedure.wp_anything _ _) (fun _ _ _ _ _ ↦ by simp) (by simp)

theorem wp_snapshot (tbl data : ℕ) (table : Ref) :
    Procedure.wp .anything (snapshot tbl data table).run (fun _ res thread' _ ↦
      res = .ok .TT_ERR → thread'.errno = Errno.EIO) thread () := by
  refine wp_guarded (Procedure.wp_anything _ _) (fun _ count _ _ _ ↦ ?_) nofun
  refine wp_guarded (Procedure.wp_anything _ _) (fun _ listed _ _ _ ↦ ?_) nofun
  cases listed with
  | none => exact fun _ ↦ rfl
  | some map => exact wp_attemptSnapshot data map table 3

theorem wp_readSnapshot (hfd : 0 ≤ sess.fd) (arch : ArchConstants) (tlb : Tlb)
    (tags data : UInt32) (table : Ref) (hop : op.readsVersion = false) :
    Procedure.wp .anything (readSnapshot sess arch tlb tags data table) (fun trace out thread' _ ↦
      Reports op trace (out.1 = .TT_ERR) thread'.errno) thread () := by
  unfold readSnapshot
  refine Procedure.wp_call (wp_tlbBind hfd tlb _ hop) fun bound out thread₁ _ hbind ↦ ?_
  obtain ⟨status, tlb'⟩ := out
  cases status with
  | TT_ERR => simpa using hbind
  | TT_OK out =>
    have hbound : op.cause bound = none := hbind.silent nofun
    refine Procedure.wp_call (wp_ttTrapArm op tlb'.ptr TT_TLB_2MB) fun armed _ thread₂ _ harm ↦ ?_
    have hreads : Reads (fun _ ↦ True)
        (snapshot (tlb'.ptr + windowOffset tags) (tlb'.ptr + windowOffset data) table) :=
      snapshot_reads trivial (fun _ _ ↦ trivial) fun _ _ ↦ trivial
    refine Procedure.wp_call (Procedure.wp_and hreads.wp_anything (wp_snapshot _ _ table))
      fun loads res thread₃ _ hran ↦ ?_
    obtain ⟨hran, hfails⟩ := hran
    have hloads : op.cause loads = none := loads_silent hran.loads
    have hreset : Errno.ECONNRESET ≠ .ENODEV := by decide
    have hio : Errno.EIO ≠ .ENODEV := by decide
    cases res with
    | error fault => simpa using ((reports_silent hloads fun _ ↦ hreset).after harm.1).after hbound
    | ok status =>
      have hquiet : Reports op loads (status = .TT_ERR) thread₃.errno := by
        refine reports_silent hloads fun hstatus ↦ ?_
        rw [hfails (congrArg _ hstatus)]
        exact hio
      simpa using (hquiet.after harm.1).after hbound

theorem wp_readWindow (hfd : 0 ≤ sess.fd) (arch : ArchConstants) (tlb : Tlb) (table : Ref)
    (hop : op.readsVersion = false) :
    Procedure.wp .anything (readWindow sess arch tlb table) (fun trace out thread' _ ↦
      Reports op trace (out.1 = .TT_ERR) thread'.errno) thread () := by
  unfold readWindow
  refine Procedure.wp_call (wp_tlbBind hfd tlb _ hop) fun bound out thread₁ _ hbind ↦ ?_
  obtain ⟨status, tlb'⟩ := out
  cases status with
  | TT_ERR => simpa using hbind
  | TT_OK out =>
    have hbound : op.cause bound = none := hbind.silent nofun
    refine Procedure.wp_call (wp_ttTrapArm op tlb'.ptr TT_TLB_2MB) fun armed _ thread₂ _ harm ↦ ?_
    have hreads : Reads (fun _ ↦ True) (readPointers tlb'.ptr arch) :=
      readPointers_reads trivial trivial
    refine Procedure.wp_call hreads.wp_anything fun loads res thread₃ _ hran ↦ ?_
    have hloads : op.cause loads = none := loads_silent hran.loads
    have hreset : Errno.ECONNRESET ≠ .ENODEV := by decide
    have hio : Errno.EIO ≠ .ENODEV := by decide
    cases res with
    | error fault => simpa using ((reports_silent hloads fun _ ↦ hreset).after harm.1).after hbound
    | ok pointers =>
      dsimp only
      split
      · rw [Procedure.wp_bind, ttTrapDisarm, Procedure.wp_modify]
        refine Procedure.wp_mono (wp_readSnapshot hfd arch tlb' _ _ table hop)
          fun rest out thread' _ hrest ↦ ?_
        exact ((hrest.after hloads).after harm.1).after hbound
      · simpa using ((reports_silent hloads fun _ ↦ hio).after harm.1).after hbound

theorem wp_ttTelemetry (hfd : 0 ≤ sess.fd) (table : Option Ref) (hop : op.readsVersion = false)
    (hfrees : op.frees = false) :
    Procedure.wp .anything (ttTelemetry (some sess) table) (fun trace status thread' _ ↦
      Reports op trace (status = .TT_ERR) thread'.errno) thread () := by
  have hinvalid : Errno.EINVAL ≠ .ENODEV := by decide
  have hunsupported : Errno.ENOTSUP ≠ .ENODEV := by decide
  cases table with
  | none => exact reports_silent rfl fun _ ↦ hinvalid
  | some table =>
    rw [ttTelemetry, telemetry, if_neg (Int.not_lt.mpr hfd)]
    refine Procedure.wp_call (wp_devInfo hfd hop) fun asked res thread₁ _ hinfo ↦ ?_
    cases res with
    | TT_ERR => simpa using hinfo
    | TT_OK info =>
      have hasked : op.cause asked = none := hinfo.silent nofun
      dsimp only
      split
      · simpa using reports_silent hasked fun _ ↦ hunsupported
      rename_i arch _
      rw [Procedure.wp_bind, Procedure.wp_modify]
      refine Procedure.wp_call (wp_tlbAlloc hfd _ _ _ hop hfrees)
        fun granted out thread₂ _ halloc ↦ ?_
      obtain ⟨status, tlb⟩ := out
      cases status with
      | TT_ERR => simpa using halloc.after hasked
      | TT_OK out =>
        have hgranted : op.cause granted = none := halloc.silent nofun
        refine Procedure.wp_call (wp_readWindow hfd arch tlb table hop)
          fun read out thread₃ _ hread ↦ ?_
        obtain ⟨status, tlb'⟩ := out
        cases status with
        | TT_OK out =>
          have hread' : op.cause read = none := hread.silent nofun
          rw [Procedure.wp_bind, ttTrapDisarm, Procedure.wp_modify]
          refine Procedure.wp_call (wp_tlbFree hfd tlb' hop) fun freed _ _ _ hfree ↦ ?_
          have hfreed : op.cause freed = none := hfree.2 hfrees
          have hcalls : op.cause (asked ++ (granted ++ (read ++ freed))) = none :=
            silent_append hasked (silent_append hgranted (silent_append hread' hfreed))
          refine reports_silent ?_ nofun
          simpa using hcalls
        | TT_ERR =>
          rw [Procedure.wp_bind, wp_getErrno, Procedure.wp_bind, ttTrapDisarm, Procedure.wp_modify]
          refine Procedure.wp_call (wp_tlbFree hfd tlb' hop) fun freed _ _ _ hfree ↦ ?_
          have hfreed : op.cause freed = none := hfree.2 hfrees
          simpa using ((hread.cleaned hfreed).after hgranted).after hasked

/-! ## The firmware version -/

theorem wp_fwVersion (hfd : 0 ≤ sess.fd) (hop : op.readsVersion = true) :
    Procedure.wp .anything (fwVersion sess) (fun trace res thread' _ ↦
      Reports op trace (res = .TT_ERR) thread'.errno) thread () := by
  have hreport (err : Errno) : err = op.report err := by simp [Operation.report, hop]
  have hio : Errno.EIO ≠ .ENODEV := by decide
  rw [fwVersion, if_neg (Int.not_lt.mpr hfd), Procedure.wp_bind, wp_sys]
  refine ⟨trivial, fun reply _ _ ↦ ?_⟩
  cases reply with
  | fail err => exact reports_blamed rfl rfl (hreport err)
  | ok fd residue =>
    rw [Procedure.wp_bind, wp_sys]
    refine ⟨trivial, fun reply _ _ ↦ ?_⟩
    cases reply with
    | fail err =>
      rw [Procedure.wp_bind, wp_sys]
      exact ⟨trivial, fun closed _ _ ↦ reports_blamed rfl rfl (hreport err)⟩
    | ok buf residue' =>
      rw [Procedure.wp_bind, wp_sys]
      refine ⟨trivial, fun closed _ _ ↦ ?_⟩
      split
      · exact reports_silent rfl fun _ ↦ hio
      · cases parseFwVersion buf with
        | none => exact reports_silent rfl fun _ ↦ hio
        | some version => exact reports_silent rfl nofun

end Calls

/-! ## The operations -/

section Operations

variable {W : Type} {contract : Contract Sys W} {op : Operation} {sess : Session}
  {thread thread' : Thread} {trace : List (Event Sys)} {status : Status} {w w' : W}

/-- What a run of an operation should report when a system call made it fail. -/
def Faithful (op : Operation) (trace : List (Event Sys)) (status : Status) (errno : Errno) : Prop :=
  ∀ err, op.cause trace = some err → status = .TT_ERR ∧ errno = normalise err

end Operations

/-! ## The firmware version of a removed device -/

end TtDal.Safety.ErrorReports
