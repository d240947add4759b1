import TtDal.Dev.Api
import TtDal.Effect.Silence
import TtDal.Safety.TelemetryCleanup

/-!
# The library keeps no state

A thread of the process keeps its `errno`, its `SIGBUS` guard and what the handler replaced. None of
it has an influence on a later call. Two threads that agree on the caller's objects alone make the
same system calls, but for the one-time installation of the handler, return the same results, and
leave the same `errno` behind a failure.
-/

namespace TtDal.Safety.Statelessness

open Effect Platform Dev

/-- The caller's objects. -/
structure Objects where
  messages : Ref → SmcMsg
  tables : Ref → Telemetry

namespace Objects

def store (objects : Objects) (ref : Ref) (message : SmcMsg) : Objects :=
  { objects with messages := Function.update objects.messages ref message }

def fill (objects : Objects) (table : Ref) (f : Telemetry → Telemetry) : Objects :=
  { objects with tables := Function.update objects.tables table (f (objects.tables table)) }

end Objects

def objectsOf (thread : Thread) : Objects :=
  { messages := thread.messages, tables := thread.tables }

/-- Two threads whose objects are related, and with the same `errno` where it is known. -/
structure Twins (relation : Objects → Objects → Prop) (known : Prop) (thread thread' : Thread) :
    Prop where
  objects : relation (objectsOf thread) (objectsOf thread')
  errno : known → thread'.errno = thread.errno

/-- Related objects have the same message there. -/
def Reads (relation : Objects → Objects → Prop) (ref : Ref) : Prop :=
  ∀ objects objects', relation objects objects' → objects'.messages ref = objects.messages ref

/-- Related objects stay related when the same message is stored there. -/
def Stores (relation : Objects → Objects → Prop) (ref : Ref) : Prop :=
  ∀ objects objects' message, relation objects objects' →
    relation (objects.store ref message) (objects'.store ref message)

/-- Related objects stay related when the table there is written to in the same way. -/
def Fills (relation : Objects → Objects → Prop) (table : Ref) : Prop :=
  ∀ objects objects' f, relation objects objects' →
    relation (objects.fill table f) (objects'.fill table f)

/-- The installation of the handler is the one request that depends on the process. -/
abbrev Installs (op : Syscall) : Prop :=
  op = .sigaction

/-- The procedure does the same in both of two twins and leaves twins behind, with the same `errno`
behind the results that fail. -/
def Blind {α : Type} (relation : Objects → Objects → Prop) (known : Prop) (failed : α → Prop)
    (procedure : C α) : Prop :=
  ∀ thread thread', Twins relation known thread thread' →
    Procedure.Similar Installs (fun value thread value' thread' ↦
        value' = value ∧ Twins relation (failed value) thread thread')
      procedure procedure thread thread'

section Rules

variable {α β : Type} {relation : Objects → Objects → Prop} {known : Prop} {failed failed' : α → Prop}
  {thread thread' : Thread}

theorem Twins.imp {known' : Prop} (h : Twins relation known thread thread') (himp : known' → known) :
    Twins relation known' thread thread' :=
  ⟨h.objects, fun hknown ↦ h.errno (himp hknown)⟩

theorem Blind.imp {procedure : C α} (h : Blind relation known failed procedure)
    (himp : ∀ value, failed' value → failed value) : Blind relation known failed' procedure := by
  intro thread thread' htwins
  refine (h thread thread' htwins).mono fun value _ _ _ hvalue ↦ ?_
  exact ⟨hvalue.1, hvalue.2.imp (himp value)⟩

theorem blind_pure {value : α} (h : failed value → known) :
    Blind relation known failed (pure value : C α) :=
  fun _ _ htwins ↦ .done ⟨rfl, htwins.imp h⟩

theorem Blind.bind {procedure : C α} {f : α → C β} {failed' : β → Prop}
    (h : Blind relation known failed procedure)
    (hf : ∀ value, Blind relation (failed value) failed' (f value)) :
    Blind relation known failed' (procedure >>= f) := by
  intro thread thread' htwins
  refine (h thread thread' htwins).bind fun value s value' t hvalue ↦ ?_
  obtain ⟨rfl, hrest⟩ := hvalue
  exact hf value' s t hrest

theorem blind_sys (op : Syscall) : Blind relation known (fun _ ↦ known) (sys op) := by
  intro thread thread' htwins
  refine .call fun answer ↦ .done ⟨rfl, htwins.objects, fun hknown ↦ ?_⟩
  change op.errnoAfter answer thread'.errno = op.errnoAfter answer thread.errno
  rw [htwins.errno hknown]

/-- After most calls `errno` is known. -/
theorem blind_call {op : Syscall}
    (hsets : ∀ answer errno errno', op.errnoAfter answer errno' = op.errnoAfter answer errno) :
    Blind relation known (fun _ ↦ True) (sys op) := by
  intro thread thread' htwins
  exact .call fun answer ↦ .done ⟨rfl, htwins.objects, fun _ ↦ hsets answer _ _⟩

theorem blind_ttFail (err : Errno) : Blind relation known (fun _ ↦ True) (ttFail err : C (Result α)) :=
  fun _ _ htwins ↦ .done ⟨rfl, htwins.objects, fun _ ↦ rfl⟩

theorem blind_ttFailIo (err : Errno) :
    Blind relation known (fun _ ↦ True) (ttFailIo err : C (Result α)) :=
  fun _ _ htwins ↦ .done ⟨rfl, htwins.objects, fun _ ↦ rfl⟩

theorem blind_setErrno (err : Errno) : Blind relation known (fun _ ↦ True) (setErrno err) :=
  fun _ _ htwins ↦ .done ⟨rfl, htwins.objects, fun _ ↦ rfl⟩

theorem blind_getErrno : Blind relation True (fun _ ↦ True) getErrno :=
  fun _ _ htwins ↦ .done ⟨htwins.errno trivial, htwins⟩

/-- What a procedure reads of a message is the same in both. -/
theorem blind_message {f : Thread → C α} {ref : Ref} (href : Reads relation ref)
    (hread : ∀ thread thread', thread'.messages ref = thread.messages ref → f thread' = f thread)
    (hf : ∀ thread, Blind relation known failed (f thread)) :
    Blind relation known failed (get >>= f) := by
  intro thread thread' htwins
  have hsame : Procedure.Similar Installs
      (fun value thread value' thread' ↦ value' = value ∧ Twins relation (failed value) thread thread')
      (f thread) (f thread') thread thread' := by
    rw [hread thread thread' (href _ _ htwins.objects)]
    exact hf thread thread thread' htwins
  exact hsame

theorem blind_store {ref : Ref} (href : Stores relation ref) (message : SmcMsg) :
    Blind relation known (fun _ ↦ known) (modify fun thread ↦
      { thread with messages := Function.update thread.messages ref message } : C Unit) :=
  fun _ _ htwins ↦ .done ⟨rfl, href _ _ message htwins.objects, htwins.errno⟩

theorem blind_disarm : Blind relation known (fun _ ↦ known) ttTrapDisarm :=
  fun _ _ htwins ↦ .done ⟨rfl, htwins.objects, htwins.errno⟩

theorem blind_stop (reason : Stop) : Blind relation known failed (Procedure.stop reason : C α) :=
  fun _ _ _ ↦ .stop

end Rules

/-! ## Functions of a session and of the device directory -/

section Functions

variable {relation : Objects → Objects → Prop} {known : Prop} {sess : Session} {tlb : Tlb}

/-- The status is a failure. -/
abbrev Failed {α : Type} (res : Result α) : Prop :=
  res = .TT_ERR

abbrev FailedFirst {α : Type} (out : Status × α) : Prop :=
  out.1 = .TT_ERR

theorem blind_failed {α : Type} (err : Errno) :
    Blind relation known Failed (ttFail err : C (Result α)) :=
  (blind_ttFail err).imp fun _ _ ↦ trivial

theorem blind_failedIo {α : Type} (err : Errno) :
    Blind relation known Failed (ttFailIo err : C (Result α)) :=
  (blind_ttFailIo err).imp fun _ _ ↦ trivial

theorem blind_ok {α : Type} (value : α) :
    Blind relation known Failed (pure (.TT_OK value) : C (Result α)) :=
  blind_pure nofun

/-- A failure is handed on. -/
theorem blind_err {α : Type} : Blind relation True Failed (pure .TT_ERR : C (Result α)) :=
  blind_pure fun _ ↦ trivial

theorem blind_failedErrno {α : Type} :
    Blind relation (Failed (Result.TT_ERR : Result α)) (fun _ ↦ True) getErrno :=
  fun _ _ htwins ↦ blind_getErrno _ _ (htwins.imp fun _ ↦ rfl)

theorem blind_openSession (dev : Device) (flags : UInt16) :
    Blind relation known Failed (openSession dev flags) := by
  rw [openSession_eq]
  split
  · exact blind_failed _
  · refine (blind_call fun _ _ _ ↦ rfl).bind fun reply ↦ ?_
    cases reply with
    | fail err => exact blind_failed _
    | ok fd residue => exact blind_ok _

theorem blind_closeSession : Blind relation known FailedFirst (closeSession sess) := by
  unfold closeSession
  split
  · exact blind_pure nofun
  · refine (blind_call fun _ _ _ ↦ rfl).bind fun reply ↦ ?_
    cases reply with
    | fail err => exact blind_pure fun _ ↦ trivial
    | ok value residue => exact blind_pure nofun

theorem blind_reopenSession : Blind relation known FailedFirst (reopenSession sess) := by
  refine blind_closeSession.bind fun closed ↦ ?_
  refine (blind_openSession _ _).bind fun opened ↦ ?_
  cases opened with
  | TT_OK sess' => exact blind_pure nofun
  | TT_ERR => exact blind_pure fun _ ↦ rfl

theorem blind_devInfo : Blind relation known Failed (devInfo sess) := by
  unfold devInfo
  split
  · exact blind_failed _
  · refine (blind_call fun _ _ _ ↦ rfl).bind fun reply ↦ ?_
    cases reply with
    | fail err => exact blind_failedIo _
    | ok info residue => exact blind_ok _

theorem blind_scanLoop (dir cap rounds count : ℕ) (buf : List Device) :
    Blind relation known (fun _ ↦ False) (scanLoop dir cap rounds count buf) := by
  induction rounds generalizing count buf with
  | zero => exact blind_stop _
  | succ rounds ih =>
    refine ((blind_sys _).imp fun _ ↦ id).bind fun entry ↦ ?_
    cases entry with
    | none => exact blind_pure nofun
    | some entry =>
      cases hentry : scanEntry entry with
      | none => simpa only [hentry] using ih count buf
      | some dev => simpa only [hentry] using ih (count + 1) _

theorem blind_ttDevScan (rounds cap : ℕ) : Blind relation known Failed (ttDevScan rounds cap) := by
  refine (blind_call fun _ _ _ ↦ rfl).bind fun reply ↦ ?_
  cases reply with
  | fail err =>
    dsimp only
    split
    · exact blind_ok _
    · exact blind_err
  | ok dir residue =>
    refine (blind_scanLoop dir cap rounds 0 []).bind fun found ↦ ?_
    exact (blind_call fun _ _ _ ↦ rfl).bind fun _ ↦ blind_ok _

theorem blind_scannedDevice (devs : List Device) (index : ℕ) :
    Blind relation known (fun _ ↦ known) (scannedDevice devs index) := by
  unfold scannedDevice
  split
  · exact blind_pure id
  · exact (blind_sys _).bind fun _ ↦ blind_pure id

theorem blind_matchBdf (normalized : List Char) (devs : List Device) (remaining index : ℕ) :
    Blind relation known Failed (matchBdf normalized devs remaining index) := by
  induction remaining generalizing known index with
  | zero => exact blind_failed _
  | succ remaining ih =>
    refine (blind_scannedDevice devs index).bind fun dev ↦ ?_
    refine (blind_openSession dev 0).bind fun res ↦ ?_
    cases res with
    | TT_ERR => exact ih (index + 1)
    | TT_OK sess =>
      refine blind_devInfo.bind fun res ↦ blind_closeSession.bind fun _ ↦ ?_
      cases res with
      | TT_ERR => exact ih (index + 1)
      | TT_OK info =>
        dsimp only
        split
        · exact blind_ok _
        · exact ih (index + 1)

theorem blind_devFromBdf (rounds : ℕ) (addr : List Char) :
    Blind relation known Failed (devFromBdf rounds addr) := by
  unfold devFromBdf
  split
  · exact blind_failed _
  · refine (blind_ttDevScan rounds BDF_SCAN_CAP).bind fun res ↦ ?_
    cases res with
    | TT_ERR => exact blind_failed _
    | TT_OK found => exact blind_matchBdf _ found.2 found.1 0

theorem blind_devFromPath (path : String) : Blind relation known Failed (devFromPath path) := by
  refine (blind_call fun _ _ _ ↦ rfl).bind fun reply ↦ ?_
  cases reply with
  | fail err => exact blind_failed _
  | ok resolved residue =>
    dsimp only
    split
    · exact blind_failed _
    · split
      · exact blind_failed _
      · exact blind_ok _

theorem blind_kmdVersion (rounds : ℕ) : Blind relation known Failed (kmdVersion rounds) := by
  refine (blind_ttDevScan rounds 1).bind fun res ↦ ?_
  cases res with
  | TT_ERR => exact blind_pure fun _ ↦ rfl
  | TT_OK found =>
    obtain ⟨count, devs⟩ := found
    dsimp only
    split
    · exact blind_failed _
    · refine (blind_scannedDevice devs 0).bind fun dev ↦ ?_
      refine (blind_openSession dev 0).bind fun res ↦ ?_
      cases res with
      | TT_ERR => exact blind_pure fun _ ↦ rfl
      | TT_OK sess =>
        refine (blind_call fun _ _ _ ↦ rfl).bind fun reply ↦ blind_getErrno.bind fun err ↦ ?_
        refine blind_closeSession.bind fun _ ↦ ?_
        cases reply with
        | fail err => exact blind_failedIo _
        | ok out residue => exact blind_ok _

theorem blind_fwVersion : Blind relation known Failed (fwVersion sess) := by
  unfold fwVersion
  split
  · exact blind_failed _
  · refine (blind_call fun _ _ _ ↦ rfl).bind fun reply ↦ ?_
    cases reply with
    | fail err => exact blind_err
    | ok fd residue =>
      refine (blind_call fun _ _ _ ↦ rfl).bind fun reply ↦ ?_
      cases reply with
      | fail err => exact (blind_call fun _ _ _ ↦ rfl).bind fun _ ↦ blind_failed _
      | ok buf residue =>
        refine (blind_call fun _ _ _ ↦ rfl).bind fun _ ↦ ?_
        split
        · exact blind_failed _
        · cases parseFwVersion buf with
          | none => exact blind_failed _
          | some version => exact blind_ok _

/-! ## Windows -/

theorem blind_failing {α : Type} (err : Errno) (value : α) :
    Blind relation known FailedFirst (do return ((← ttFail err), value) : C (Status × α)) :=
  (blind_ttFail err).bind fun _ ↦ blind_pure fun _ ↦ trivial

theorem blind_failingIo {α : Type} (err : Errno) (value : α) :
    Blind relation known FailedFirst (do return ((← ttFailIo err), value) : C (Status × α)) :=
  (blind_ttFailIo err).bind fun _ ↦ blind_pure fun _ ↦ trivial

theorem blind_tlbRelease : Blind relation known FailedFirst (tlbRelease sess tlb) := by
  unfold tlbRelease
  split
  · exact blind_failing _ _
  · refine (blind_call fun _ _ _ ↦ rfl).bind fun reply ↦ ?_
    cases reply with
    | fail err => exact blind_failingIo _ _
    | ok value residue => exact blind_pure nofun

theorem blind_tlbFree : Blind relation known FailedFirst (tlbFree sess tlb) := by
  unfold tlbFree
  split
  · refine (blind_call fun _ _ _ ↦ rfl).bind fun reply ↦ ?_
    cases reply with
    | fail err => exact blind_pure fun _ ↦ trivial
    | ok value residue => exact blind_tlbRelease
  · exact blind_tlbRelease

theorem blind_tlbAlloc (size mode : ℕ) :
    Blind relation known FailedFirst (tlbAlloc sess size mode tlb) := by
  unfold tlbAlloc
  split
  · exact blind_failing _ _
  · refine (blind_call fun _ _ _ ↦ rfl).bind fun reply ↦ ?_
    cases reply with
    | fail err => exact blind_failingIo _ _
    | ok out residue =>
      dsimp only
      split
      · exact blind_pure nofun
      · split
        · exact blind_pure nofun
        · refine (blind_setErrno _).bind fun _ ↦ blind_getErrno.bind fun err ↦ ?_
          exact blind_tlbFree.bind fun _ ↦ blind_failing _ _

/-- The cleanup reports the failure that led to it. -/
theorem blind_tlbUnconfigure : Blind relation True FailedFirst (tlbUnconfigure tlb) := by
  refine blind_getErrno.bind fun err ↦ ?_
  split
  · exact (blind_call fun _ _ _ ↦ rfl).bind fun _ ↦ blind_failing _ _
  · exact blind_failing _ _

theorem blind_tlbBind (cfg : TlbConfig) : Blind relation known FailedFirst (tlbBind sess tlb cfg) := by
  unfold tlbBind
  split
  · exact blind_failing _ _
  · refine (blind_call fun _ _ _ ↦ rfl).bind fun reply ↦ ?_
    cases reply with
    | fail err => exact (blind_ttFailIo err).bind fun _ ↦ blind_tlbUnconfigure
    | ok start residue =>
      refine (blind_call fun _ _ _ ↦ rfl).bind fun reply ↦ ?_
      cases reply with
      | fail err =>
        refine (blind_call fun _ _ _ ↦ rfl).bind fun _ ↦ ?_
        exact (blind_ttFailIo err).bind fun _ ↦ blind_tlbUnconfigure
      | ok value residue =>
        dsimp only
        split
        · exact (blind_call fun _ _ _ ↦ rfl).bind fun _ ↦ blind_pure nofun
        · exact blind_pure nofun

/-! ## Reset -/

theorem blind_markerClear (sysfs : String) :
    Blind relation known (fun _ ↦ False) (markerClear sysfs) := by
  refine (blind_call fun _ _ _ ↦ rfl).bind fun reply ↦ ?_
  cases reply with
  | fail err => exact blind_pure nofun
  | ok cfd residue =>
    refine (blind_call fun _ _ _ ↦ rfl).bind fun reply ↦ (blind_call fun _ _ _ ↦ rfl).bind fun _ ↦ ?_
    split
    · exact blind_pure nofun
    · exact blind_pure nofun

theorem blind_elapsedMs (start : Timespec) : Blind relation known (fun _ ↦ known) (elapsedMs start) :=
  (blind_sys _).bind fun _ ↦ blind_pure id

theorem blind_awaitReset (sysfs : String) (start : Timespec) (rounds : ℕ) (disappeared : Bool) :
    Blind relation known (fun _ ↦ False) (awaitReset sysfs start rounds disappeared) := by
  induction rounds generalizing known disappeared with
  | zero => exact blind_stop _
  | succ rounds ih =>
    refine (blind_elapsedMs start).bind fun elapsed ↦ ?_
    split
    · refine (blind_call fun _ _ _ ↦ rfl).bind fun reply ↦ ?_
      cases reply with
      | ok value residue =>
        cases disappeared with
        | true => exact blind_pure nofun
        | false =>
          refine (blind_markerClear sysfs).bind fun complete ↦ ?_
          split
          · exact blind_pure nofun
          · exact (blind_sys _).bind fun _ ↦ ih false
      | fail err => exact (blind_sys _).bind fun _ ↦ ih true
    · exact blind_pure nofun

theorem blind_awaitFirmware (rounds : ℕ) (delay : Timespec) :
    Blind relation known (fun _ ↦ False) (awaitFirmware rounds delay) := by
  induction rounds generalizing known delay with
  | zero => exact blind_stop _
  | succ rounds ih =>
    refine (blind_call fun _ _ _ ↦ rfl).bind fun reply ↦ ?_
    split
    · exact ih _
    · exact blind_pure nofun

theorem blind_failClosed (fd : ℤ) (err : Errno) : Blind relation known Failed (failClosed fd err) :=
  (blind_call fun _ _ _ ↦ rfl).bind fun _ ↦ blind_failed err

theorem blind_finishReset (fd : ℤ) : Blind relation known Failed (finishReset fd) := by
  refine (blind_call fun _ _ _ ↦ rfl).bind fun reply ↦ ?_
  cases reply with
  | fail err => exact blind_failClosed _ _
  | ok result residue =>
    dsimp only
    split
    · exact blind_failClosed _ _
    · refine (blind_call fun _ _ _ ↦ rfl).bind fun reply ↦ ?_
      cases reply with
      | fail err => exact blind_err
      | ok value residue => exact blind_ok _

theorem blind_resetDevice (rounds : ℕ) (dev : Device) :
    Blind relation known Failed (resetDevice rounds dev) := by
  refine (blind_openSession dev _).bind fun res ↦ ?_
  cases res with
  | TT_ERR => exact blind_pure fun _ ↦ rfl
  | TT_OK sess =>
    refine blind_devInfo.bind fun res ↦ ?_
    cases res with
    | TT_ERR =>
      exact blind_failedErrno.bind fun err ↦ blind_failClosed _ _
    | TT_OK info =>
      refine (blind_call fun _ _ _ ↦ rfl).bind fun reply ↦ ?_
      cases reply with
      | fail err => exact blind_failClosed _ _
      | ok result residue =>
        dsimp only
        split
        · exact blind_failClosed _ _
        · refine (blind_sys _).bind fun start ↦ ?_
          refine (blind_awaitReset _ start rounds false).bind fun complete ↦ ?_
          split
          · exact (blind_awaitFirmware rounds _).bind fun _ ↦ blind_finishReset _
          · exact blind_failClosed _ _

theorem blind_resetWith (rounds : ℕ) : Blind relation known FailedFirst (resetWith rounds sess) := by
  unfold resetWith
  split
  · exact blind_failing _ _
  · refine blind_closeSession.bind fun closed ↦ ?_
    obtain ⟨status, sess'⟩ := closed
    cases status with
    | TT_ERR => exact blind_pure fun _ ↦ rfl
    | TT_OK done => exact (blind_resetDevice rounds _).bind fun status ↦ blind_pure id

/-! ## Messages and power -/

theorem blind_ttSmcPost (sess : Option Session) {req : Option Ref}
    (hreq : ∀ ref, req = some ref → Reads relation ref) :
    Blind relation known Failed (ttSmcPost sess req) := by
  cases sess with
  | none => exact blind_failed _
  | some sess =>
    cases req with
    | none => exact blind_failed _
    | some req =>
      simp only [ttSmcPost]
      split
      · exact blind_failed _
      · refine blind_message (hreq req rfl) (fun _ _ hmessages ↦ ?_) fun thread ↦ ?_
        · rw [hmessages]
          refine congrArg _ (funext fun reply ↦ ?_)
          cases reply with
          | fail err => rfl
          | ok value residue => rfl
        refine (blind_call fun _ _ _ ↦ rfl).bind fun reply ↦ ?_
        cases reply with
        | fail err => exact blind_failedIo _
        | ok value residue => exact blind_ok _

theorem blind_ttSmcPoll (sess : Option Session) {rsp : Option Ref}
    (hrsp : ∀ ref, rsp = some ref → Stores relation ref) :
    Blind relation known Failed (ttSmcPoll sess rsp) := by
  cases sess with
  | none => exact blind_failed _
  | some sess =>
    cases rsp with
    | none => exact blind_failed _
    | some rsp =>
      simp only [ttSmcPoll]
      split
      · exact blind_failed _
      · refine (blind_call fun _ _ _ ↦ rfl).bind fun reply ↦ ?_
        cases reply with
        | fail err => exact blind_failedIo _
        | ok reply residue =>
          exact (blind_store (hrsp rsp rfl) reply).bind fun _ ↦ blind_ok _

theorem blind_smcWaitLoop (sess : Option Session) {rsp : Option Ref}
    (hrsp : ∀ ref, rsp = some ref → Stores relation ref) (budget : ℕ) (start : Timespec)
    (rounds : ℕ) (spins : UInt32) :
    Blind relation known Failed (smcWaitLoop sess rsp budget start rounds spins) := by
  induction rounds generalizing known spins with
  | zero => exact blind_stop _
  | succ rounds ih =>
    refine (blind_ttSmcPoll sess hrsp).bind fun status ↦ ?_
    cases status with
    | TT_OK done => exact blind_ok _
    | TT_ERR =>
      refine (blind_failedErrno).bind fun err ↦ ?_
      split
      · exact blind_err
      · refine (blind_elapsedMs start).bind fun elapsed ↦ ?_
        split
        · exact blind_failed _
        · split
          · exact (blind_sys _).bind fun _ ↦ ih _
          · exact ih _

theorem blind_ttSmcWait (rounds : ℕ) (sess : Option Session) {rsp : Option Ref}
    (hrsp : ∀ ref, rsp = some ref → Stores relation ref) (timeout : UInt32) :
    Blind relation known Failed (ttSmcWait rounds sess rsp timeout) := by
  cases sess with
  | none => exact blind_failed _
  | some sess =>
    cases rsp with
    | none => exact blind_failed _
    | some rsp =>
      simp only [ttSmcWait]
      split
      · exact blind_failed _
      · exact (blind_sys _).bind fun start ↦ blind_smcWaitLoop _ hrsp _ start rounds _

theorem blind_ttSmcDrop (sess : Option Session) : Blind relation known Failed (ttSmcDrop sess) := by
  cases sess with
  | none => exact blind_failed _
  | some sess =>
    simp only [ttSmcDrop]
    split
    · exact blind_failed _
    · refine (blind_call fun _ _ _ ↦ rfl).bind fun reply ↦ ?_
      cases reply with
      | fail err => exact blind_failedIo _
      | ok value residue => exact blind_ok _

/-- The failure of the wait is reported whatever the drop does to `errno`. -/
theorem blind_ttSmcCall (rounds : ℕ) (sess : Option Session) {req rsp : Option Ref}
    (hreq : ∀ ref, req = some ref → Reads relation ref)
    (hrsp : ∀ ref, rsp = some ref → Stores relation ref) (timeout : UInt32) :
    Blind relation known Failed (ttSmcCall rounds sess req rsp timeout) := by
  unfold ttSmcCall
  split
  · exact blind_failed _
  · refine (blind_ttSmcPost sess hreq).bind fun posted ↦ ?_
    cases posted with
    | TT_ERR => exact blind_pure fun _ ↦ rfl
    | TT_OK done =>
      refine (blind_ttSmcWait rounds sess hrsp timeout).bind fun waited ↦ ?_
      cases waited with
      | TT_OK done => exact blind_ok _
      | TT_ERR =>
        exact blind_failedErrno.bind fun err ↦ (blind_ttSmcDrop sess).bind fun _ ↦ blind_failed err

theorem blind_ttPower (sess : Option Session) (flags : UInt16) :
    Blind relation known Failed (ttPower sess flags) := by
  cases sess with
  | none => exact blind_failed _
  | some sess =>
    simp only [ttPower]
    split
    · exact blind_failed _
    · refine (blind_call fun _ _ _ ↦ rfl).bind fun reply ↦ ?_
      cases reply with
      | fail err => exact blind_failedIo _
      | ok value residue => exact blind_ok _

end Functions

/-! ## Telemetry -/

/-- Twins under the same guard. -/
structure Watched (relation : Objects → Objects → Prop) (known : Prop) (thread thread' : Thread) :
    Prop where
  twins : Twins relation known thread thread'
  armed : thread'.armed = thread.armed

/-- Guarded code does the same in both of two twins under the same guard. -/
def BlindReads {α : Type} (relation : Objects → Objects → Prop) (known : Prop) (failed : α → Prop)
    (code : Guarded α) : Prop :=
  ∀ thread thread', Watched relation known thread thread' →
    Procedure.Similar Installs (fun res thread res' thread' ↦ res' = res ∧ match res with
      | .ok value => Watched relation (failed value) thread thread'
      | .error _ => Twins relation False thread thread') code.run code.run thread thread'

section Reads

variable {α β : Type} {relation : Objects → Objects → Prop} {known : Prop} {failed : α → Prop}
  {data : ℕ} {map : TagMap} {table : Ref}

theorem Watched.imp {known' : Prop} {thread thread' : Thread} (h : Watched relation known thread thread')
    (himp : known' → known) : Watched relation known' thread thread' :=
  ⟨h.twins.imp himp, h.armed⟩

theorem reads_pure {value : α} (h : failed value → known) :
    BlindReads relation known failed (pure value) :=
  fun _ _ hwatched ↦ .done ⟨rfl, hwatched.imp h⟩

theorem BlindReads.bind {failed' : β → Prop} {first : Guarded α} {f : α → Guarded β}
    (h : BlindReads relation known failed first)
    (hf : ∀ value, BlindReads relation (failed value) failed' (f value)) :
    BlindReads relation known failed' (first >>= f) := by
  intro thread thread' hwatched
  rw [ExceptT.run_bind]
  refine (h thread thread' hwatched).bind fun res s res' s' hres ↦ ?_
  obtain ⟨rfl, hrest⟩ := hres
  cases res' with
  | ok value => exact hf value s s' hrest
  | error fault => exact .done ⟨rfl, hrest⟩

/-- Whether a fault is resumed depends on the guard only. -/
theorem handler_recovered (armed : Guard) (prev prev' : Disposition) (info : Siginfo) :
    handler armed prev' info = .recovered ↔ handler armed prev info = .recovered := by
  unfold handler
  split
  · exact Iff.rfl
  · split
    · exact Iff.rfl
    · cases prev <;> cases prev' <;> decide

/-- A fault resumes in both or ends both. -/
theorem reads_deref (addr : ℕ) : BlindReads relation known (fun _ ↦ known) (deref addr) := by
  intro thread thread' hwatched
  obtain ⟨errno, armed, once, prev, messages, tables⟩ := thread
  obtain ⟨errno', armed', once', prev', messages', tables'⟩ := thread'
  obtain ⟨⟨hobjects, herrno⟩, harmed⟩ := hwatched
  dsimp only at herrno harmed
  subst harmed
  refine .call fun answer ↦ ?_
  cases answer with
  | some word => exact .done ⟨rfl, ⟨hobjects, herrno⟩, rfl⟩
  | none =>
    have hresumes := handler_recovered armed' prev prev' { addr := addr, raised := false }
    cases hfirst : handler armed' prev { addr := addr, raised := false } with
    | recovered =>
      rw [hresumes.mpr hfirst]
      exact .done ⟨rfl, hobjects, nofun⟩
    | returned | chained | fatal =>
      cases hsecond : handler armed' prev' { addr := addr, raised := false } with
      | recovered => exact absurd (hfirst.symm.trans (hresumes.mp hsecond)) nofun
      | returned | chained | fatal => exact .stop

theorem reads_modify {f : Thread → Thread}
    (hf : ∀ thread thread', Watched relation known thread thread' →
      Watched relation known (f thread) (f thread')) :
    BlindReads relation known (fun _ ↦ known) ((modify f : C PUnit) : Guarded PUnit) :=
  fun thread thread' hwatched ↦ .done ⟨rfl, hf thread thread' hwatched⟩

theorem reads_failed (err : Errno) :
    BlindReads relation known Failed ((ttFail err : C Status) : Guarded Status) :=
  fun _ _ hwatched ↦
    .done ⟨rfl, ⟨hwatched.twins.objects, fun _ ↦ rfl⟩, hwatched.armed⟩

theorem reads_readEntries (tbl : ℕ) (indices : List ℕ) :
    BlindReads relation known (fun _ ↦ known) (readEntries tbl indices map) := by
  induction indices generalizing map with
  | nil => exact reads_pure id
  | cons idx rest ih =>
    refine (reads_deref _).bind fun entry ↦ ?_
    cases recordEntry map entry with
    | none => exact reads_pure id
    | some map => exact ih

theorem watched_storeTag (htable : Fills relation table) (tag : Fin TT_TELEMETRY_LEN)
    (value : UInt32) (thread thread' : Thread) (h : Watched relation known thread thread') :
    Watched relation known (storeTag table tag value thread) (storeTag table tag value thread') :=
  ⟨⟨htable _ _ (Function.update · tag value) h.twins.objects, h.twins.errno⟩, h.armed⟩

theorem twins_zeroTable (htable : Fills relation table) {thread thread' : Thread}
    (h : Twins relation known thread thread') :
    Twins relation known (zeroTable table thread) (zeroTable table thread') :=
  ⟨htable _ _ (fun _ _ ↦ 0) h.objects, h.errno⟩

theorem reads_fillTable (htable : Fills relation table) (tags : List (Fin TT_TELEMETRY_LEN)) :
    BlindReads relation known (fun _ ↦ known) (fillTable data map table tags) := by
  induction tags with
  | nil => exact reads_pure id
  | cons tag rest ih =>
    unfold fillTable
    split
    · refine (reads_deref _).bind fun value ↦ ?_
      exact (reads_modify (watched_storeTag htable tag value)).bind fun _ ↦ ih
    · exact ih

theorem reads_attemptSnapshot (htable : Fills relation table) (tries : ℕ) :
    BlindReads relation known Failed (attemptSnapshot data map table tries) := by
  induction tries with
  | zero => exact reads_failed _
  | succ tries ih =>
    unfold attemptSnapshot
    split
    · refine (reads_deref _).bind fun tick ↦ (reads_fillTable htable _).bind fun _ ↦ ?_
      refine (reads_deref _).bind fun tock ↦ ?_
      split
      · exact reads_pure (by simp [Failed])
      · have hzero : ∀ thread thread', Watched relation known thread thread' →
            Watched relation known (zeroTable table thread) (zeroTable table thread') :=
          fun _ _ hwatched ↦ ⟨twins_zeroTable htable hwatched.twins, hwatched.armed⟩
        exact (reads_modify hzero).bind fun _ ↦ ih
    · exact (reads_fillTable htable _).bind fun _ ↦ reads_pure (by simp [Failed])

theorem reads_snapshot (htable : Fills relation table) (tbl : ℕ) :
    BlindReads relation known Failed (snapshot tbl data table) := by
  refine (reads_deref _).bind fun count ↦ (reads_readEntries tbl _).bind fun map ↦ ?_
  cases map with
  | none => exact reads_failed _
  | some map => exact reads_attemptSnapshot htable 3

theorem reads_readPointers (window : ℕ) (arch : ArchConstants) :
    BlindReads relation known (fun _ ↦ known) (readPointers window arch) :=
  (reads_deref _).bind fun _ ↦ (reads_deref _).bind fun _ ↦ reads_pure id

end Reads

section Telemetry

variable {relation : Objects → Objects → Prop} {known : Prop} {sess : Session} {tlb : Tlb}
  {arch : ArchConstants} {table : Ref}

/-- The handler may be installed in one of the two already. -/
theorem arms_twins {thread thread' : Thread} (h : Twins relation known thread thread') (ptr len : ℕ) :
    Procedure.Similar Installs (fun _ thread _ thread' ↦ Watched relation known thread thread')
      (ttTrapArm ptr len) (ttTrapArm ptr len) thread thread' := by
  obtain ⟨errno, armed, once, prev, messages, tables⟩ := thread
  obtain ⟨errno', armed', once', prev', messages', tables'⟩ := thread'
  obtain ⟨hobjects, herrno⟩ := h
  have hwatched (once once' : Bool) (prev prev' : Disposition) : Watched relation known
      ⟨errno, ⟨ptr, len⟩, once, prev, messages, tables⟩
      ⟨errno', ⟨ptr, len⟩, once', prev', messages', tables'⟩ :=
    ⟨⟨hobjects, herrno⟩, rfl⟩
  cases once with
  | true =>
    cases once' with
    | true => exact .done (hwatched _ _ _ _)
    | false => exact .second rfl fun answer ↦ .done (hwatched _ _ _ _)
  | false =>
    cases once' with
    | true => exact .first rfl fun answer ↦ .done (hwatched _ _ _ _)
    | false => exact .call fun answer ↦ .done (hwatched _ _ _ _)

/-- The rule for guarded code behind a recovery point. -/
theorem blind_guarded {α β : Type} {failed : α → Prop} {failed' : β → Prop} {code : Guarded α}
    {f : Except Unit α → C β} (ptr len : ℕ) (hcode : BlindReads relation known failed code)
    (hok : ∀ value, Blind relation (failed value) failed' (f (.ok value)))
    (hfault : ∀ fault, Blind relation False failed' (f (.error fault))) :
    Blind relation known failed' (do
      ttTrapArm ptr len
      f (← code.run)) := by
  intro thread thread' htwins
  refine (arms_twins htwins ptr len).bind fun _ s _ s' hwatched ↦ ?_
  refine (hcode s s' hwatched).bind fun res t res' t' hres ↦ ?_
  obtain ⟨rfl, hrest⟩ := hres
  cases res' with
  | ok value => exact hok value t t' hrest.twins
  | error fault => exact hfault fault t t' hrest

theorem blind_readSnapshot (htable : Fills relation table) (tags data : UInt32) :
    Blind relation known FailedFirst (readSnapshot sess arch tlb tags data table) := by
  refine (blind_tlbBind _).bind fun out ↦ ?_
  obtain ⟨status, tlb₁⟩ := out
  cases status with
  | TT_ERR => exact blind_pure fun _ ↦ rfl
  | TT_OK done =>
    refine blind_guarded tlb₁.ptr TT_TLB_2MB (reads_snapshot htable _) (fun status ↦ ?_) fun _ ↦ ?_
    · exact blind_pure id
    · exact (blind_setErrno _).bind fun _ ↦ blind_pure fun _ ↦ trivial

theorem blind_readWindow (htable : Fills relation table) :
    Blind relation known FailedFirst (readWindow sess arch tlb table) := by
  refine (blind_tlbBind _).bind fun out ↦ ?_
  obtain ⟨status, tlb₁⟩ := out
  cases status with
  | TT_ERR => exact blind_pure fun _ ↦ rfl
  | TT_OK done =>
    refine blind_guarded tlb₁.ptr TT_TLB_2MB (reads_readPointers _ _) (fun pointers ↦ ?_)
      fun _ ↦ ?_
    · dsimp only
      split
      · exact blind_disarm.bind fun _ ↦ blind_readSnapshot htable _ _
      · exact (blind_setErrno _).bind fun _ ↦ blind_pure fun _ ↦ trivial
    · exact (blind_setErrno _).bind fun _ ↦ blind_pure fun _ ↦ trivial

theorem blind_zeroTable (htable : Fills relation table) :
    Blind relation known (fun _ ↦ known) (modify (zeroTable table) : C Unit) :=
  fun _ _ htwins ↦ .done ⟨rfl, twins_zeroTable htable htwins⟩

theorem blind_telemetry (htable : Fills relation table) :
    Blind relation known Failed (telemetry sess table) := by
  unfold telemetry
  split
  · exact blind_failed _
  · refine blind_devInfo.bind fun info ↦ ?_
    cases info with
    | TT_ERR => exact blind_pure fun _ ↦ rfl
    | TT_OK info =>
      cases harch : archConstants info.deviceId with
      | none => simpa only [harch] using blind_failed _
      | some arch =>
        simp only [harch]
        refine (blind_zeroTable htable).bind fun _ ↦ (blind_tlbAlloc _ _).bind fun out ↦ ?_
        obtain ⟨status, tlb⟩ := out
        cases status with
        | TT_ERR => exact blind_pure fun _ ↦ rfl
        | TT_OK done =>
          refine (blind_readWindow htable).bind fun out ↦ ?_
          obtain ⟨status, tlb'⟩ := out
          cases status with
          | TT_OK done =>
            exact blind_disarm.bind fun _ ↦ blind_tlbFree.bind fun _ ↦ blind_ok _
          | TT_ERR =>
            refine blind_failedErrno.bind fun err ↦ blind_disarm.bind fun _ ↦ ?_
            exact blind_tlbFree.bind fun _ ↦ blind_failed err

end Telemetry

/-! ## The public functions -/

def failedResult {α : Type} : Result α → Bool
  | .TT_OK _ => false
  | .TT_ERR => true

theorem failed_of_failedResult {α : Type} {res : Result α} (h : failedResult res = true) :
    Failed res := by
  cases res with
  | TT_OK value => cases h
  | TT_ERR => rfl

/-- The status of a call is `TT_ERR`. -/
def failed : (request : Request) → request.Answer → Bool
  | .ttKmdVersion _, answer | .ttFwVersion _ _, answer | .ttDevFromPath _ _, answer
  | .ttDevFromBdf _ _, answer | .ttOpen _ _ _, answer | .ttClose _, answer | .ttReopen _, answer
  | .ttDevInfo _ _, answer | .ttTlbAlloc _ _ _ _, answer | .ttTlbBind _ _ _, answer
  | .ttTlbFree _ _, answer | .ttResetWith _, answer => failedResult answer.1
  | .ttDevScan _, answer => failedResult answer
  | .ttSmcCall _ _ _ _, answer | .ttSmcPost _ _, answer | .ttSmcPoll _ _, answer
  | .ttSmcWait _ _ _, answer | .ttSmcDrop _, answer | .ttTelemetry _ _, answer
  | .ttPower _ _, answer | .ttReset _, answer => failedResult answer

/-- A call as its caller sees it: the answer, and `errno` when the status is `TT_ERR`. -/
abbrev Seen : Signature where
  Op := Request
  Answer request := request.Answer × Option Errno

def see (rounds : ℕ) (request : Request) : C (request.Answer × Option Errno) := do
  let answer ← request.run rounds
  if failed request answer then
    return (answer, some (← getErrno))
  else
    return (answer, none)

section Calls

variable {relation : Objects → Objects → Prop} {known : Prop}

/-- The out-parameter is written behind the call. -/
theorem blind_filled {α β : Type} {procedure : C (Result α)} {fill : Result α → C (Status × β)}
    (h : Blind relation known Failed procedure)
    (hok : ∀ value, ∃ out, fill (.TT_OK value) = pure (.TT_OK (), out))
    (herr : ∃ out, fill .TT_ERR = pure (.TT_ERR, out)) :
    Blind relation known FailedFirst (procedure >>= fill) := by
  refine h.bind fun res ↦ ?_
  cases res with
  | TT_OK value =>
    obtain ⟨out, hout⟩ := hok value
    rw [hout]
    exact blind_pure nofun
  | TT_ERR =>
    obtain ⟨out, hout⟩ := herr
    rw [hout]
    exact blind_pure fun _ ↦ rfl

/-- The handle that was changed is written behind the call. -/
theorem blind_changed {α β : Type} {procedure : C (Status × α)} (fill : α → β)
    (h : Blind relation known FailedFirst procedure) : Blind relation known FailedFirst (do
      let (status, out) ← procedure
      return (status, fill out)) :=
  h.bind fun _ ↦ blind_pure id

theorem blind_ttKmdVersion (rounds : ℕ) (version : Option Version) :
    Blind relation known FailedFirst (ttKmdVersion rounds version) := by
  cases version with
  | none => exact blind_failing _ _
  | some version => exact blind_filled (blind_kmdVersion rounds) (fun _ ↦ ⟨_, rfl⟩) ⟨_, rfl⟩

theorem blind_ttFwVersion (sess : Option Session) (version : Option Version) :
    Blind relation known FailedFirst (ttFwVersion sess version) := by
  cases sess with
  | none => exact blind_failing _ _
  | some sess =>
    cases version with
    | none => exact blind_failing _ _
    | some version => exact blind_filled blind_fwVersion (fun _ ↦ ⟨_, rfl⟩) ⟨_, rfl⟩

theorem blind_ttDevFromPath (path : Option String) (dev : Option Device) :
    Blind relation known FailedFirst (ttDevFromPath path dev) := by
  cases path with
  | none => exact blind_failing _ _
  | some path =>
    cases dev with
    | none => exact blind_failing _ _
    | some dev => exact blind_filled (blind_devFromPath path) (fun _ ↦ ⟨_, rfl⟩) ⟨_, rfl⟩

theorem blind_ttDevFromBdf (rounds : ℕ) (addr : Option String) (dev : Option Device) :
    Blind relation known FailedFirst (ttDevFromBdf rounds addr dev) := by
  cases addr with
  | none => exact blind_failing _ _
  | some addr =>
    cases dev with
    | none => exact blind_failing _ _
    | some dev =>
      exact blind_filled (blind_devFromBdf rounds addr.toList) (fun _ ↦ ⟨_, rfl⟩) ⟨_, rfl⟩

theorem blind_ttOpen (dev : Option Device) (sess : Option Session) (flags : UInt16) :
    Blind relation known FailedFirst (ttOpen dev sess flags) := by
  cases dev with
  | none => exact blind_failing _ _
  | some dev =>
    cases sess with
    | none => exact blind_failing _ _
    | some sess => exact blind_filled (blind_openSession dev flags) (fun _ ↦ ⟨_, rfl⟩) ⟨_, rfl⟩

theorem blind_ttDevInfo (sess : Option Session) (info : Option DevInfo) :
    Blind relation known FailedFirst (ttDevInfo sess info) := by
  cases sess with
  | none => exact blind_failing _ _
  | some sess =>
    cases info with
    | none => exact blind_failing _ _
    | some info => exact blind_filled blind_devInfo (fun _ ↦ ⟨_, rfl⟩) ⟨_, rfl⟩

theorem blind_ttClose (sess : Option Session) : Blind relation known FailedFirst (ttClose sess) := by
  cases sess with
  | none => exact blind_failing _ _
  | some sess => exact blind_changed some blind_closeSession

theorem blind_ttReopen (sess : Option Session) : Blind relation known FailedFirst (ttReopen sess) := by
  cases sess with
  | none => exact blind_failing _ _
  | some sess => exact blind_changed some blind_reopenSession

theorem blind_ttResetWith (rounds : ℕ) (sess : Option Session) :
    Blind relation known FailedFirst (ttResetWith rounds sess) := by
  cases sess with
  | none => exact blind_failing _ _
  | some sess => exact blind_changed some (blind_resetWith rounds)

theorem blind_ttTlbAlloc (sess : Option Session) (size mode : ℕ) (tlb : Option Tlb) :
    Blind relation known FailedFirst (ttTlbAlloc sess size mode tlb) := by
  cases sess with
  | none => exact blind_failing _ _
  | some sess =>
    cases tlb with
    | none => exact blind_failing _ _
    | some tlb => exact blind_changed some (blind_tlbAlloc size mode)

theorem blind_ttTlbBind (sess : Option Session) (tlb : Option Tlb) (cfg : Option TlbConfig) :
    Blind relation known FailedFirst (ttTlbBind sess tlb cfg) := by
  cases sess with
  | none => exact blind_failing _ _
  | some sess =>
    cases tlb with
    | none => exact blind_failing _ _
    | some tlb =>
      cases cfg with
      | none => exact blind_failing _ _
      | some cfg => exact blind_changed some (blind_tlbBind cfg)

theorem blind_ttTlbFree (sess : Option Session) (tlb : Option Tlb) :
    Blind relation known FailedFirst (ttTlbFree sess tlb) := by
  cases sess with
  | none => exact blind_failing _ _
  | some sess =>
    cases tlb with
    | none => exact blind_failing _ _
    | some tlb => exact blind_changed some blind_tlbFree

theorem blind_ttTelemetry (sess : Option Session) {table : Option Ref}
    (htable : ∀ ref, table = some ref → Fills relation ref) :
    Blind relation known Failed (ttTelemetry sess table) := by
  cases sess with
  | none => exact blind_failed _
  | some sess =>
    cases table with
    | none => exact blind_failed _
    | some table => exact blind_telemetry (htable table rfl)

theorem blind_ttReset (rounds : ℕ) (dev : Option Device) :
    Blind relation known Failed (ttReset rounds dev) := by
  cases dev with
  | none => exact blind_failed _
  | some dev => exact blind_resetDevice rounds dev

/-- The relation of the objects is what the call needs to do the same in both. -/
def Treats (relation : Objects → Objects → Prop) : Request → Prop
  | .ttSmcCall _ req rsp _ =>
    (∀ ref, req = some ref → Reads relation ref) ∧ ∀ ref, rsp = some ref → Stores relation ref
  | .ttSmcPost _ req => ∀ ref, req = some ref → Reads relation ref
  | .ttSmcPoll _ rsp | .ttSmcWait _ rsp _ => ∀ ref, rsp = some ref → Stores relation ref
  | .ttTelemetry _ table => ∀ ref, table = some ref → Fills relation ref
  | _ => True

/-- Every public function is blind to what the thread keeps. -/
theorem blind_run (rounds : ℕ) {request : Request} (h : Treats relation request) :
    Blind relation known (fun answer ↦ failed request answer = true) (request.run rounds) := by
  have hfirst {α : Type} {procedure : C (Status × α)} (h : Blind relation known FailedFirst procedure) :
      Blind relation known (fun out ↦ failedResult out.1 = true) procedure :=
    h.imp fun _ ↦ failed_of_failedResult
  have hstatus {α : Type} {procedure : C (Result α)} (h : Blind relation known Failed procedure) :
      Blind relation known (fun res ↦ failedResult res = true) procedure :=
    h.imp fun _ ↦ failed_of_failedResult
  cases request with
  | ttKmdVersion version => exact hfirst (blind_ttKmdVersion rounds version)
  | ttFwVersion sess version => exact hfirst (blind_ttFwVersion sess version)
  | ttDevFromPath path dev => exact hfirst (blind_ttDevFromPath path dev)
  | ttDevFromBdf addr dev => exact hfirst (blind_ttDevFromBdf rounds addr dev)
  | ttDevScan cap => exact hstatus (blind_ttDevScan rounds cap)
  | ttOpen dev sess flags => exact hfirst (blind_ttOpen dev sess flags)
  | ttClose sess => exact hfirst (blind_ttClose sess)
  | ttReopen sess => exact hfirst (blind_ttReopen sess)
  | ttDevInfo sess info => exact hfirst (blind_ttDevInfo sess info)
  | ttTlbAlloc sess size mode tlb => exact hfirst (blind_ttTlbAlloc sess size mode tlb)
  | ttTlbBind sess tlb cfg => exact hfirst (blind_ttTlbBind sess tlb cfg)
  | ttTlbFree sess tlb => exact hfirst (blind_ttTlbFree sess tlb)
  | ttSmcCall sess req rsp timeout => exact hstatus (blind_ttSmcCall rounds sess h.1 h.2 timeout)
  | ttSmcPost sess req => exact hstatus (blind_ttSmcPost sess h)
  | ttSmcPoll sess rsp => exact hstatus (blind_ttSmcPoll sess h)
  | ttSmcWait sess rsp timeout => exact hstatus (blind_ttSmcWait rounds sess h timeout)
  | ttSmcDrop sess => exact hstatus (blind_ttSmcDrop sess)
  | ttTelemetry sess table => exact hstatus (blind_ttTelemetry sess h)
  | ttPower sess flags => exact hstatus (blind_ttPower sess flags)
  | ttReset dev => exact hstatus (blind_ttReset rounds dev)
  | ttResetWith sess => exact hfirst (blind_ttResetWith rounds sess)

theorem blind_see (rounds : ℕ) {request : Request} (h : Treats relation request) :
    Blind relation False (fun _ ↦ False) (see rounds request) := by
  refine (blind_run rounds h).bind fun answer ↦ ?_
  cases hfailed : failed request answer with
  | true =>
    have herrno : Blind relation (true = true) (fun _ ↦ True) getErrno :=
      fun _ _ htwins ↦ blind_getErrno _ _ (htwins.imp fun _ ↦ rfl)
    exact herrno.bind fun err ↦ blind_pure nofun
  | false => exact blind_pure nofun

end Calls

section Clients

variable {α W : Type} {contract : Contract Sys W} {thread thread' : Thread} {w : W}

theorem treats_eq (request : Request) : Treats (· = ·) request := by
  have hreads (ref : Ref) : Reads (· = ·) ref := by
    rintro objects _ rfl
    rfl
  have hstores (ref : Ref) : Stores (· = ·) ref := by
    rintro objects _ message rfl
    rfl
  have hfills (ref : Ref) : Fills (· = ·) ref := by
    rintro objects _ f rfl
    rfl
  cases request with
  | ttSmcCall sess req rsp timeout => exact ⟨fun ref _ ↦ hreads ref, fun ref _ ↦ hstores ref⟩
  | ttSmcPost sess req => exact fun ref _ ↦ hreads ref
  | ttSmcPoll sess rsp => exact fun ref _ ↦ hstores ref
  | ttSmcWait sess rsp timeout => exact fun ref _ ↦ hstores ref
  | ttTelemetry sess table => exact fun ref _ ↦ hfills ref
  | _ => trivial

theorem anything_hushes : (.anything : Contract Sys Unit).Hushes Installs where
  answered := by
    rintro op w rfl
    exact ⟨.SIG_DFL, trivial⟩
  still _ _ _ _ _ _ := rfl

/-- The past of a thread has no influence on what a client gets: another thread with the same
objects makes the same system calls but for the installation of the handler, returns the same
results and the same `errno` behind each failure, and leaves the same objects. -/
theorem past_irrelevant (hhandler : contract.Hushes Installs) (client : Program Seen α)
    (rounds : ℕ) (hmessages : thread'.messages = thread.messages)
    (htables : thread'.tables = thread.tables) :
    (∀ trace value last w', Procedure.Executes contract (client.handle (see rounds)) thread w trace
        value last w' →
      ∃ trace' last', Procedure.Executes contract (client.handle (see rounds)) thread' w trace'
          value last' w' ∧
        visible Installs trace' = visible Installs trace ∧
        last'.messages = last.messages ∧ last'.tables = last.tables) ∧
    ∀ trace reason w', Procedure.Stops contract (client.handle (see rounds)) thread w trace
        reason w' →
      ∃ trace', Procedure.Stops contract (client.handle (see rounds)) thread' w trace' reason w' ∧
        visible Installs trace' = visible Installs trace := by
  have hobjects : objectsOf thread = objectsOf thread' := by
    rw [objectsOf, objectsOf, hmessages, htables]
  have htwins : Twins (· = ·) False thread thread' := ⟨hobjects, nofun⟩
  have hsimilar := Procedure.similar_handle
    (fun request s t _ ↦ blind_see rounds (treats_eq request) s t)
    (Program.wp_anything client) htwins
  refine ⟨fun trace value last w' hrun ↦ ?_, fun trace reason w' hstop ↦ ?_⟩
  · obtain ⟨trace', outcome', hrun', hvisible, hmatches⟩ :=
      Program.Similar.executes hsimilar hhandler hrun
    cases hmatches with
    | @returned _ result hresult =>
      obtain ⟨value', last'⟩ := result
      obtain ⟨rfl, hlast⟩ := hresult
      exact ⟨trace', last', hrun', hvisible, (congrArg Objects.messages hlast.objects).symm,
        (congrArg Objects.tables hlast.objects).symm⟩
  · obtain ⟨trace', outcome', hrun', hvisible, hmatches⟩ :=
      Program.Similar.executes hsimilar hhandler hstop
    cases hmatches with
    | stopped => exact ⟨trace', hrun', hvisible⟩

/-! ### Objects that are not passed -/

/-- Outside the given places the objects are as before. -/
structure Beyond (messages tables : Set Ref) (before objects : Objects) : Prop where
  messages : ∀ ref ∉ messages, objects.messages ref = before.messages ref
  tables : ∀ table ∉ tables, objects.tables table = before.tables table

/-- What a call is given to write to lies in the given places. -/
def Writes (messages tables : Set Ref) : Request → Prop
  | .ttSmcCall _ _ rsp _ | .ttSmcPoll _ rsp | .ttSmcWait _ rsp _ =>
    ∀ ref, rsp = some ref → ref ∈ messages
  | .ttTelemetry _ table => ∀ ref, table = some ref → ref ∈ tables
  | _ => True

theorem treats_beyond {messages tables : Set Ref} (before : Objects) {request : Request}
    (h : Writes messages tables request) :
    Treats (fun objects objects' ↦ objects = objects' ∧ Beyond messages tables before objects)
      request := by
  have hreads (ref : Ref) : Reads (fun objects objects' ↦ objects = objects' ∧
      Beyond messages tables before objects) ref := by
    rintro objects _ ⟨rfl, -⟩
    rfl
  have hstores {ref : Ref} (href : ref ∈ messages) : Stores (fun objects objects' ↦
      objects = objects' ∧ Beyond messages tables before objects) ref := by
    rintro objects _ message ⟨rfl, hbeyond⟩
    refine ⟨rfl, fun other hother ↦ ?_, hbeyond.tables⟩
    have hne : other ≠ ref := fun heq ↦ hother (heq ▸ href)
    exact (Function.update_of_ne hne _ _).trans (hbeyond.messages other hother)
  have hfills {ref : Ref} (href : ref ∈ tables) : Fills (fun objects objects' ↦
      objects = objects' ∧ Beyond messages tables before objects) ref := by
    rintro objects _ f ⟨rfl, hbeyond⟩
    refine ⟨rfl, hbeyond.messages, fun other hother ↦ ?_⟩
    have hne : other ≠ ref := fun heq ↦ hother (heq ▸ href)
    exact (Function.update_of_ne hne _ _).trans (hbeyond.tables other hother)
  cases request with
  | ttSmcCall sess req rsp timeout =>
    exact ⟨fun ref _ ↦ hreads ref, fun ref href ↦ hstores (h ref href)⟩
  | ttSmcPost sess req => exact fun ref _ ↦ hreads ref
  | ttSmcPoll sess rsp => exact fun ref href ↦ hstores (h ref href)
  | ttSmcWait sess rsp timeout => exact fun ref href ↦ hstores (h ref href)
  | ttTelemetry sess table => exact fun ref href ↦ hfills (h ref href)
  | _ => trivial

/-- Whatever the system answers, a client changes no object but those it passes as a response or as
a table. -/
theorem objects_kept {messages tables : Set Ref} {client : Program Seen α}
    (hclient : client.wp (.only (Writes messages tables)) (fun _ _ _ ↦ True) ()) (rounds : ℕ)
    {trace : List (Event Sys)} {value : α} {last : Thread} {w' : W}
    (hrun : Procedure.Executes contract (client.handle (see rounds)) thread w trace value last w') :
    (∀ ref ∉ messages, last.messages ref = thread.messages ref) ∧
      ∀ table ∉ tables, last.tables table = thread.tables table := by
  have hstart : Beyond messages tables (objectsOf thread) (objectsOf thread) :=
    ⟨fun _ _ ↦ rfl, fun _ _ ↦ rfl⟩
  have htwins : Twins (fun objects objects' ↦ objects = objects' ∧
      Beyond messages tables (objectsOf thread) objects) False thread thread :=
    ⟨⟨rfl, hstart⟩, nofun⟩
  have hsimilar := Procedure.similar_handle
    (fun request s t hwrites ↦ blind_see rounds (treats_beyond (objectsOf thread) hwrites) s t)
    hclient htwins
  obtain ⟨-, outcome', -, -, hmatches⟩ :=
    Program.Similar.executes hsimilar anything_hushes (Program.Executes.anyhow hrun)
  cases hmatches with
  | returned hresult => exact ⟨hresult.2.objects.2.messages, hresult.2.objects.2.tables⟩

end Clients

/-! ## Telemetry through a severed mapping, on two threads -/

open TelemetryCleanup (sampleTrace sampleTrace_runs)

def sampleCall : Program Seen (Status × Option Errno) :=
  .call (.ttTelemetry (some sampleSession) (some 7)) .done

/-- A thread with a past. -/
def veteran : Thread where
  errno := .EINTR
  armed := { ptr := NULL, len := TT_TLB_2MB }
  once := true
  prev := .handler
  messages := Thread.initial.messages
  tables := Thread.initial.tables

theorem sampleCall_runs : ∃ last, Procedure.Executes (.anything : Contract Sys Unit)
    (sampleCall.handle (see 1)) Thread.initial () sampleTrace (.TT_ERR, some .ECONNRESET) last () ∧
    last.tables = (zeroTable 7 Thread.initial).tables := by
  have hrun := Program.Executes.anyhow sampleTrace_runs
  have hsee : Procedure.Executes (.anything : Contract Sys Unit)
      (see 1 (.ttTelemetry (some sampleSession) (some 7))) Thread.initial () sampleTrace
      (.TT_ERR, some .ECONNRESET) _ () :=
    Procedure.executes_bind.mpr ⟨_, [], _, _, _, rfl, hrun, .done⟩
  exact ⟨_, Procedure.executes_bind.mpr ⟨_, [], _, _, _, rfl, hsee, .done⟩, rfl⟩

/-- A thread that installed the handler before does the same but for the installation. -/
theorem veteran_runs_alike : ∃ trace last, Procedure.Executes (.anything : Contract Sys Unit)
    (sampleCall.handle (see 1)) veteran () trace (.TT_ERR, some .ECONNRESET) last () ∧
    visible Installs trace = visible Installs sampleTrace ∧
    last.tables = (zeroTable 7 Thread.initial).tables := by
  obtain ⟨first, hrun, hzero⟩ := sampleCall_runs
  have hsame := @past_irrelevant _ _ _ Thread.initial veteran () anything_hushes sampleCall 1 rfl rfl
  obtain ⟨trace, last, hrun', hvisible, -, htables⟩ := hsame.1 _ _ _ _ hrun
  exact ⟨trace, last, hrun', hvisible, htables.trans hzero⟩

/-- Another table is not touched. -/
theorem other_table_kept : ∃ last, Procedure.Executes (.anything : Contract Sys Unit)
    (sampleCall.handle (see 1)) Thread.initial () sampleTrace (.TT_ERR, some .ECONNRESET) last () ∧
    last.tables 8 = Thread.initial.tables 8 := by
  obtain ⟨last, hrun, -⟩ := sampleCall_runs
  have hwrites : sampleCall.wp (.only (Writes ∅ {7})) (fun _ _ _ ↦ True) () := by
    refine ⟨fun ref href ↦ ?_, fun _ _ _ ↦ trivial⟩
    exact (Option.some.inj href).symm
  exact ⟨last, hrun, (objects_kept hwrites 1 hrun).2 8 (by decide)⟩

end TtDal.Safety.Statelessness
