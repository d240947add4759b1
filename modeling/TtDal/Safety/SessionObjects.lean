import TtDal.Binding.Session
import TtDal.Dev.Smc
import TtDal.Safety.DescriptorOwnership
import TtDal.Safety.TelemetryCleanup
import TtDal.Safety.WindowOwnership

/-!
# Session objects and their descriptors

Objects of a language binding are opened, operated on, reopened, closed, reset and dropped. A Rust
object that is closed or reset is gone, so errors of `close(2)` do no harm there. They do where an
object lives on: in a reopen that then cannot open the device, and in a `close` from Python.
Elsewhere open objects own their descriptors, and nothing is left open when they are gone.
-/

namespace TtDal.Safety.SessionObjects

open Effect Platform Dev Driver Binding

open Table (Holds)

open DescriptorOwnership (CloseFails Owned Sits Sound others descriptors)

open GuardedReads (Reads)

open WindowOwnership (Language)

/-- A library call on the raw session of an object, which does not go through `perform`. -/
inductive Call where
  | devInfo (info : DevInfo)
  | power (flags : UInt16)
  | post (req : Ref)
  | poll (rsp : Ref)
  | wait (rounds : ℕ) (rsp : Ref) (timeout : UInt32)
  | drop
  | call (rounds : ℕ) (req rsp : Ref) (timeout : UInt32)

def Call.run (call : Call) (sess : Session) : C Status :=
  match call with
  | .devInfo info => Prod.fst <$> ttDevInfo (some sess) (some info)
  | .power flags => ttPower (some sess) flags
  | .post req => ttSmcPost (some sess) (some req)
  | .poll rsp => ttSmcPoll (some sess) (some rsp)
  | .wait rounds rsp timeout => ttSmcWait rounds (some sess) (some rsp) timeout
  | .drop => ttSmcDrop (some sess)
  | .call rounds req rsp timeout => ttSmcCall rounds (some sess) (some req) (some rsp) timeout

/-! ## What operations do to descriptors -/

section Operations

variable {fds : Set ℤ} {sess : Session}

theorem keeps_reads {α : Type} {good : ℕ → Prop} {code : Guarded α} (h : Reads good code) :
    Procedure.Keeps Table.contract (Holds fds) code.run := by
  intro thread table hholds
  have hload (addr : ℕ) : Procedure.Keeps Table.contract (Holds fds)
      (sys (.load thread.armed addr)) := Table.keeps_quiet trivial
  have hrun : Procedure.wp Table.contract code.run (fun trace res thread' table' ↦
      GuardedReads.Ran good thread trace res thread' ∧ Holds fds table') thread table :=
    h.wp (fun addr w _ hinv ↦ (hload addr thread w hinv).1)
      (fun addr w answer w' _ hinv hanswer ↦ (hload addr thread w hinv).2 answer w' hanswer)
      (fun _ _ ↦ .inr trivial) hholds
  exact Procedure.wp_mono hrun fun _ _ _ _ hran ↦ hran.2

theorem keeps_bindWindow (tlb : Tlb) (cfg : TlbConfig) :
    Procedure.Keeps Table.contract (Holds fds) (tlbBind sess tlb cfg) :=
  keeps_tlbBind cfg (Table.keeps_quiet trivial) (fun _ ↦ Table.keeps_quiet trivial)
    (Table.keeps_quiet trivial)

theorem keeps_freeWindow (tlb : Tlb) :
    Procedure.Keeps Table.contract (Holds fds) (tlbFree sess tlb) :=
  keeps_tlbFree (fun _ ↦ Table.keeps_quiet trivial) (Table.keeps_quiet trivial)

theorem keeps_allocWindow (size mode : ℕ) (tlb : Tlb) :
    Procedure.Keeps Table.contract (Holds fds) (tlbAlloc sess size mode tlb) :=
  keeps_tlbAlloc mode (Table.keeps_quiet trivial) fun _ ↦ Table.keeps_quiet trivial

theorem keeps_armWindow (tlb : Tlb) :
    Procedure.Keeps Table.contract (Holds fds) (ttTrapArm tlb.ptr TT_TLB_2MB) :=
  keeps_ttTrapArm (Table.keeps_quiet trivial) _ _

theorem keeps_readSnapshot (arch : ArchConstants) (tlb : Tlb) {tags data : UInt32}
    (htags : validPointer tags = true) (hdata : validPointer data = true) (table : Ref) :
    Procedure.Keeps Table.contract (Holds fds) (readSnapshot sess arch tlb tags data table) := by
  refine (keeps_bindWindow tlb _).bind fun out ↦ ?_
  obtain ⟨status, tlb'⟩ := out
  cases status with
  | TT_ERR => exact Procedure.keeps_pure _
  | TT_OK done =>
    refine (keeps_armWindow tlb').bind fun _ ↦ ?_
    refine (keeps_reads (TelemetryCleanup.snapshot_within htags hdata tlb'.ptr table)).bind
      fun res ↦ ?_
    cases res with
    | error fault => exact (keeps_setErrno _).bind fun _ ↦ Procedure.keeps_pure _
    | ok status => exact Procedure.keeps_pure _

theorem keeps_readWindow {deviceId : UInt16} {arch : ArchConstants}
    (harch : archConstants deviceId = some arch) (tlb : Tlb) (table : Ref) :
    Procedure.Keeps Table.contract (Holds fds) (readWindow sess arch tlb table) := by
  refine (keeps_bindWindow tlb _).bind fun out ↦ ?_
  obtain ⟨status, tlb'⟩ := out
  cases status with
  | TT_ERR => exact Procedure.keeps_pure _
  | TT_OK done =>
    refine (keeps_armWindow tlb').bind fun _ ↦ ?_
    refine (keeps_reads (TelemetryCleanup.readPointers_within harch tlb'.ptr)).bind fun res ↦ ?_
    cases res with
    | error fault => exact (keeps_setErrno _).bind fun _ ↦ Procedure.keeps_pure _
    | ok pointers =>
      dsimp only
      split
      · rename_i hvalid
        obtain ⟨htags, hdata⟩ := Bool.and_eq_true_iff.mp hvalid
        exact Procedure.Keeps.bind (fun _ _ hinv ↦ hinv) fun _ ↦
          keeps_readSnapshot arch tlb' htags hdata table
      · exact (keeps_setErrno _).bind fun _ ↦ Procedure.keeps_pure _

theorem keeps_telemetry (table : Ref) :
    Procedure.Keeps Table.contract (Holds fds) (telemetry sess table) := by
  unfold telemetry
  split
  · exact keeps_ttFail _
  · refine (keeps_devInfo (Table.keeps_quiet trivial)).bind fun info ↦ ?_
    cases info with
    | TT_ERR => exact Procedure.keeps_pure _
    | TT_OK info =>
      cases harch : archConstants info.deviceId with
      | none => simpa only [harch] using keeps_ttFail _
      | some arch =>
        simp only [harch]
        refine Procedure.Keeps.bind (fun _ _ hinv ↦ hinv) fun _ ↦ ?_
        refine (keeps_allocWindow _ _ _).bind fun out ↦ ?_
        obtain ⟨status, tlb⟩ := out
        cases status with
        | TT_ERR => exact Procedure.keeps_pure _
        | TT_OK done =>
          refine (keeps_readWindow harch tlb table).bind fun out ↦ ?_
          obtain ⟨status, tlb'⟩ := out
          cases status with
          | TT_OK done =>
            exact Procedure.Keeps.bind (fun _ _ hinv ↦ hinv) fun _ ↦
              (keeps_freeWindow tlb').bind fun _ ↦ Procedure.keeps_pure _
          | TT_ERR =>
            exact keeps_getErrno.bind fun err ↦
              Procedure.Keeps.bind (fun _ _ hinv ↦ hinv) fun _ ↦
                (keeps_freeWindow tlb').bind fun _ ↦ keeps_ttFail err

/-- The attribute is opened and closed again. -/
theorem keeps_fwVersion : Procedure.Keeps Table.contract (Holds fds) (fwVersion sess) := by
  intro thread table hholds
  unfold fwVersion
  split
  · exact hholds
  · rw [Procedure.wp_bind]
    apply Table.wp_openFile hholds
    · intro fd residue table' hfree hholds'
      refine Procedure.Keeps.wp_call (Table.keeps_quiet ?_) hholds' fun _ reply _ table'' hread ↦ ?_
      · trivial
      cases reply with
      | fail err =>
        rw [Procedure.wp_bind]
        exact DescriptorOwnership.wp_closeOwn hfree hread fun _ _ hclosed ↦ hclosed
      | ok buf residue =>
        rw [Procedure.wp_bind]
        apply DescriptorOwnership.wp_closeOwn hfree hread
        intro _ _ hclosed
        split
        · exact hclosed
        · split
          · exact hclosed
          · exact hclosed
    · exact fun err table' hholds' ↦ hholds'

theorem keeps_ttPower (flags : UInt16) :
    Procedure.Keeps Table.contract (Holds fds) (ttPower (some sess) flags) := by
  simp only [ttPower]
  split
  · exact keeps_ttFail _
  · refine Procedure.Keeps.bind (Table.keeps_quiet ?_) fun reply ↦ ?_
    · trivial
    cases reply with
    | fail err => exact keeps_ttFailIo err
    | ok value residue => exact Procedure.keeps_pure _

theorem keeps_operation (operation : Operation) :
    Procedure.Keeps Table.contract (Holds fds) (operation.run sess) := by
  cases operation with
  | info => exact keeps_devInfo (Table.keeps_quiet trivial)
  | power flags => exact keeps_ttPower flags
  | alloc size mode =>
    refine (keeps_allocWindow _ _ _).bind fun out ↦ ?_
    obtain ⟨status, raw⟩ := out
    cases status <;> exact Procedure.keeps_pure _
  | telemetry table =>
    refine Procedure.Keeps.bind (fun _ _ hinv ↦ hinv) fun _ ↦ ?_
    refine (keeps_telemetry table).bind fun status ↦ ?_
    cases status with
    | TT_ERR => exact Procedure.keeps_pure _
    | TT_OK done => exact Procedure.Keeps.bind (fun _ _ hinv ↦ hinv) fun _ ↦ Procedure.keeps_pure _
  | version => exact keeps_fwVersion

theorem keeps_call (call : Call) :
    Procedure.Keeps Table.contract (Holds fds) (call.run sess) := by
  have hmsg (msg : SmcMsgIoctl) :
      Procedure.Keeps Table.contract (Holds fds) (sys (.smcMsg sess.fd msg)) :=
    Table.keeps_quiet trivial
  have hclock : Procedure.Keeps Table.contract (Holds fds) (sys .clockGettime) :=
    Table.keeps_quiet trivial
  have hsleep (usec : ℕ) : Procedure.Keeps Table.contract (Holds fds) (sys (.usleep usec)) :=
    Table.keeps_quiet trivial
  cases call with
  | devInfo info =>
    intro thread table hholds
    simp only [Call.run, Procedure.wp_map]
    refine (keeps_devInfo (Table.keeps_quiet trivial)).wp_call hholds fun _ res _ _ hinfo ↦ ?_
    cases res <;> exact hinfo
  | power flags => exact keeps_ttPower flags
  | post req => exact keeps_ttSmcPost hmsg (some req)
  | poll rsp => exact keeps_ttSmcPoll hmsg (some rsp)
  | wait rounds rsp timeout => exact keeps_ttSmcWait hmsg hclock hsleep trivial rounds (some rsp) timeout
  | drop => exact keeps_ttSmcDrop hmsg
  | call rounds req rsp timeout =>
    exact keeps_ttSmcCall hmsg hclock hsleep trivial rounds (some req) (some rsp) timeout

end Operations

/-! ## What becomes of an object -/

/-- `close(2)` reported an error and the `open(2)` behind it failed. -/
def Stale (trace : List (Event Sys)) : Prop :=
  ∃ front back fd err path flags err', trace =
    front ++ ⟨.close fd, .fail err⟩ :: ⟨.openFile path flags, .fail err'⟩ :: back

/-- The flags are known to `tt_open`. -/
abbrev Regular (flags : UInt16) : Prop :=
  flags &&& ~~~(TT_OPEN_EXCL ||| TT_OPEN_NONBLOCK) = 0

theorem regular_openBits (excl nonblock : Bool) : Regular (openBits excl nonblock) := by
  cases excl <;> cases nonblock <;> decide

/-- A session that can be reopened among the descriptors of others. -/
structure Seated (others : Set ℤ) (sess : Session) (table : Table) : Prop where
  sits : Sits others sess table
  regular : Regular sess.flags

section Objects

variable {fds : Set ℤ} {sess : Session} {table : Table} {thread : Thread} {obj : Object}
  {language : Language}

theorem Stale.append {trace : List (Event Sys)} (h : Stale trace) (before after : List (Event Sys)) :
    Stale (before ++ (trace ++ after)) := by
  obtain ⟨front, back, fd, err, path, flags, err', rfl⟩ := h
  exact ⟨before ++ front, back ++ after, fd, err, path, flags, err', by simp⟩

theorem wp_openRaw (hholds : Holds fds table) (dev : Device) {flags : UInt16}
    (hflags : Regular flags) :
    Procedure.wp Table.contract (openSession dev flags) (fun trace res _ table' ↦ match res with
      | .TT_OK sess => Seated fds sess table'
      | .TT_ERR => Holds fds table' ∧
          ∃ path flags err, trace = [⟨.openFile path flags, .fail err⟩]) thread table := by
  rw [openSession_eq, if_neg (not_not.mpr hflags), Procedure.wp_bind]
  apply Table.wp_openFile hholds
  · intro fd residue table' hfree hholds'
    exact ⟨.inr ⟨Int.natCast_nonneg fd, hfree, hholds'⟩, hflags⟩
  · exact fun err table' hholds' ↦ ⟨hholds', _, _, err, rfl⟩

/-- The object keeps the number where an error is reported. -/
theorem wp_closeRaw (h : Sits fds sess table) :
    Procedure.wp Table.contract (closeSession sess) (fun trace out _ table' ↦
      Holds fds table' ∧ out.2.flags = sess.flags ∧
        (out.2.fd < 0 ∨ ∃ fd err, trace = [⟨.close fd, .fail err⟩])) thread table := by
  unfold closeSession
  rcases h with ⟨hfd, hholds⟩ | ⟨hfd, hfree, hholds⟩
  · rw [if_pos hfd]
    exact ⟨hholds, rfl, .inl hfd⟩
  · rw [if_neg (Int.not_lt.mpr hfd), Procedure.wp_bind]
    apply DescriptorOwnership.wp_closeOwn hfree hholds
    intro reply table' hholds'
    cases reply with
    | ok value residue => exact ⟨hholds', rfl, .inl (by decide : (-1 : ℤ) < 0)⟩
    | fail err => exact ⟨hholds', rfl, .inr ⟨_, err, rfl⟩⟩

theorem wp_reopen (h : Seated fds sess table) :
    Procedure.wp Table.contract (Rust.reopen sess) (fun trace res _ table' ↦ match res.1 with
      | .ok _ => Seated fds res.2 table'
      | .error _ => Seated fds res.2 table' ∨ Stale trace) thread table := by
  unfold Rust.reopen reopenSession
  rw [Procedure.wp_bind]
  refine Procedure.wp_call (wp_closeRaw h.sits) fun trace closed _ table₁ hclose ↦ ?_
  obtain ⟨status, stale⟩ := closed
  obtain ⟨hholds, hflags, hclosed⟩ := hclose
  have hregular : Regular stale.flags := by
    rw [Regular, hflags]
    exact h.regular
  refine Procedure.wp_call (wp_openRaw hholds stale.dev hregular) fun trace' res _ table₂ hopen ↦ ?_
  cases res with
  | TT_OK opened => exact hopen
  | TT_ERR =>
    obtain ⟨hholds', path, flags, err, rfl⟩ := hopen
    rcases hclosed with hfd | ⟨fd, err', rfl⟩
    · exact .inl ⟨.inl ⟨hfd, hholds'⟩, hregular⟩
    · exact .inr ⟨[], [], fd, err', path, flags, err, by simp⟩

/-- What leaves every set of descriptors alone leaves a session seated. -/
theorem Seated.kept {α : Type} {procedure : C α}
    (hkeeps : ∀ fds, Procedure.Keeps Table.contract (Holds fds) procedure)
    (h : Seated fds sess table) :
    Procedure.wp Table.contract procedure (fun _ _ _ table' ↦ Seated fds sess table') thread
      table := by
  rcases h.sits with ⟨hfd, hholds⟩ | ⟨hfd, hfree, hholds⟩
  · exact Procedure.wp_mono (hkeeps _ thread table hholds) fun _ _ _ _ hholds' ↦
      ⟨.inl ⟨hfd, hholds'⟩, h.regular⟩
  · exact Procedure.wp_mono (hkeeps _ thread table hholds) fun _ _ _ _ hholds' ↦
      ⟨.inr ⟨hfd, hfree, hholds'⟩, h.regular⟩

/-- An operation leaves the session seated, unless its last reopen went wrong. -/
theorem wp_perform (operation : Operation) (persist : Bool) (h : Seated fds sess table) :
    Procedure.wp Table.contract
      (Rust.perform persist (fun sess ↦ Rust.check (operation.run sess)) Rust.reopen sess)
      (fun trace out _ table' ↦ Seated fds out.2 table' ∨ Stale trace) thread table := by
  let last (trace : List (Event Sys)) (_ : Except Errno operation.Answer) (sess : Session)
      (table : Table) : Prop := Seated fds sess table ∨ Stale trace
  refine @wp_perform_last _ _ _ _ (Seated fds) last _ _ _ persist ?_ ?_ ?_ ?_ h
  · intro sess thread table hseated
    apply wp_check
    refine Procedure.wp_mono (hseated.kept fun _ ↦ keeps_operation operation) ?_
    intro trace res _ table' hkept
    cases res <;> exact ⟨hkept, .inl hkept⟩
  · exact fun sess thread table hseated ↦ wp_reopen hseated
  · intro front trace res sess table hlast
    rcases hlast with hseated | hstale
    · exact .inl hseated
    · exact .inr (by simpa using hstale.append front [])
  · exact fun _ _ _ hlast ↦ hlast

/-! The functions of the two languages, with the object they leave. -/

/-- The object an open returns. -/
def openObject (language : Language) (dev : Device) (excl nonblock persist : Bool) :
    C (Option Object) :=
  match language with
  | .rust => Except.toOption <$> Rust.OpenOptions.openDevice ⟨excl, nonblock, persist⟩ dev
  | .python => Except.toOption <$> Python.openDevice dev excl nonblock persist

def operateObject (language : Language) (operation : Operation) (obj : Object) : C Object :=
  match language with
  | .rust => Prod.snd <$> Rust.operate operation obj
  | .python => Prod.snd <$> Python.operate operation obj

def reopenObject (language : Language) (obj : Object) : C Object :=
  match language with
  | .rust => (fun out ↦ { obj with raw := out.2 }) <$> Rust.reopen obj.raw
  | .python => (fun out ↦ { obj with raw := out.2 }) <$> Python.reopen obj.raw

/-- Rust consumes the object. -/
def closeObject (language : Language) (obj : Object) : C (Option Object) :=
  match language with
  | .rust => (fun _ ↦ none) <$> Rust.close obj
  | .python => (fun out ↦ some out.2) <$> Python.close obj

/-- Rust consumes the object. -/
def resetObject (language : Language) (rounds : ℕ) (obj : Object) : C (Option Object) :=
  match language with
  | .rust => (fun _ ↦ none) <$> Rust.reset rounds obj
  | .python => (fun out ↦ some out.2) <$> Python.reset rounds obj

def dropObject (language : Language) (obj : Object) : C Unit :=
  match language with
  | .rust => Rust.dropSession obj
  | .python => Python.dropSession obj

theorem wp_openObject (hholds : Holds fds table) (dev : Device) (excl nonblock persist : Bool) :
    Procedure.wp Table.contract (openObject language dev excl nonblock persist)
      (fun _ out _ table' ↦ match out with
        | some obj => Seated fds obj.raw table'
        | none => Holds fds table') thread table := by
  have hrust : Procedure.wp Table.contract
      (Rust.OpenOptions.openDevice ⟨excl, nonblock, persist⟩ dev)
      (fun _ res _ table' ↦ match res with
        | .ok obj => Seated fds obj.raw table'
        | .error _ => Holds fds table') thread table := by
    unfold Rust.OpenOptions.openDevice
    rw [Procedure.wp_bind]
    apply wp_check
    refine Procedure.wp_mono (wp_openRaw hholds dev (regular_openBits excl nonblock)) ?_
    intro _ res _ table' hres
    cases res with
    | TT_OK raw => exact hres
    | TT_ERR => exact hres.1
  cases language with
  | rust =>
    simp only [openObject, Procedure.wp_map]
    refine Procedure.wp_mono hrust fun _ res _ table' hres ↦ ?_
    cases res <;> exact hres
  | python =>
    simp only [openObject, openDevice_agree, Procedure.wp_map]
    refine Procedure.wp_mono hrust fun _ res _ table' hres ↦ ?_
    cases res <;> exact hres

theorem wp_operateObject (h : Seated fds obj.raw table) (operation : Operation) :
    Procedure.wp Table.contract (operateObject language operation obj) (fun trace obj' _ table' ↦
      Seated fds obj'.raw table' ∨ Stale trace) thread table := by
  have hrust : Procedure.wp Table.contract (Rust.operate operation obj)
      (fun trace out _ table' ↦ Seated fds out.2.raw table' ∨ Stale trace) thread table := by
    unfold Rust.operate
    refine Procedure.wp_call (wp_perform operation obj.persist h) fun trace out _ _ hout ↦ ?_
    simpa using hout
  cases language with
  | rust =>
    simp only [operateObject, Procedure.wp_map]
    exact hrust
  | python =>
    simp only [operateObject, operate_agree, Procedure.wp_map]
    exact hrust

theorem wp_reopenObject (h : Seated fds obj.raw table) :
    Procedure.wp Table.contract (reopenObject language obj) (fun trace obj' _ table' ↦
      Seated fds obj'.raw table' ∨ Stale trace) thread table := by
  have hrust : Procedure.wp Table.contract (Rust.reopen obj.raw) (fun trace out _ table' ↦
      Seated fds out.2 table' ∨ Stale trace) thread table := by
    refine Procedure.wp_mono (wp_reopen h) fun _ out _ _ hout ↦ ?_
    obtain ⟨res, raw⟩ := out
    cases res with
    | ok value => exact .inl hout
    | error err => exact hout
  cases language with
  | rust =>
    simp only [reopenObject, Procedure.wp_map]
    exact hrust
  | python =>
    simp only [reopenObject, python_reopen_eq, Procedure.wp_map]
    exact hrust

/-- A Rust object is gone, and one of Python is closed unless an error was reported. -/
theorem wp_closeObject (h : Seated fds obj.raw table) :
    Procedure.wp Table.contract (closeObject language obj) (fun trace out _ table' ↦
      Holds fds table' ∧ ∀ obj', out = some obj' → Regular obj'.raw.flags ∧
        (obj'.raw.fd < 0 ∨ language = .python ∧ CloseFails trace)) thread table := by
  cases language with
  | rust =>
    simp only [closeObject, Rust.close, Procedure.wp_map]
    apply wp_check
    refine Procedure.wp_call (wp_closeRaw h.sits) fun _ out _ _ hclose ↦ ?_
    obtain ⟨status, raw⟩ := out
    cases status <;> exact ⟨hclose.1, fun _ hout ↦ by cases hout⟩
  | python =>
    simp only [closeObject, Python.close, Procedure.wp_map]
    split
    · rename_i hfd
      rcases h.sits with ⟨-, hholds⟩ | ⟨hopen, -⟩
      · refine ⟨hholds, ?_⟩
        rintro _ ⟨⟩
        exact ⟨h.regular, .inl hfd⟩
      · omega
    · refine Procedure.wp_call (wp_closeRaw h.sits) fun trace out _ _ hclose ↦ ?_
      obtain ⟨status, raw⟩ := out
      obtain ⟨hholds, hflags, hclosed⟩ := hclose
      have hregular : Regular raw.flags := by
        rw [Regular, hflags]
        exact h.regular
      have hreported : raw.fd < 0 ∨ Language.python = .python ∧ CloseFails trace := by
        rcases hclosed with hfd | ⟨fd, err, rfl⟩
        · exact .inl hfd
        · exact .inr ⟨rfl, fd, err, List.mem_singleton.mpr rfl⟩
      cases status with
      | TT_OK done =>
        refine ⟨hholds, ?_⟩
        rintro _ ⟨⟩
        exact ⟨hregular, by simpa using hreported⟩
      | TT_ERR =>
        refine ⟨hholds, ?_⟩
        rintro _ ⟨⟩
        exact ⟨hregular, by simpa using hreported⟩

/-- The session is closed whatever a reset comes to. -/
theorem wp_resetRaw (h : Seated fds sess table) (rounds : ℕ) :
    Procedure.wp Table.contract (resetWith rounds sess) (fun _ out _ table' ↦
      Holds fds table' ∧ Regular out.2.flags ∧ out.2.fd < 0) thread table := by
  have hsits := h.sits
  unfold resetWith
  split
  · rename_i hfd
    rcases hsits with ⟨-, hholds⟩ | ⟨hopen, -⟩
    · exact ⟨hholds, h.regular, hfd⟩
    · omega
  · refine Procedure.wp_call (Procedure.wp_and (wp_closeRaw hsits)
      (DescriptorOwnership.wp_closeSession hsits)) fun _ out _ _ hclose ↦ ?_
    obtain ⟨status, raw⟩ := out
    obtain ⟨⟨hholds, hflags, -⟩, -, -, hclosed⟩ := hclose
    have hregular : Regular raw.flags := by
      rw [Regular, hflags]
      exact h.regular
    cases status with
    | TT_ERR => exact ⟨hholds, hregular, (by decide : (-1 : ℤ) < 0)⟩
    | TT_OK done =>
      rcases hclosed with hfd | ⟨herr, -⟩
      · refine (DescriptorOwnership.keeps_resetDevice rounds _).wp_call hholds fun _ _ _ _ hreset ↦ ?_
        exact ⟨hreset, hregular, hfd⟩
      · cases herr

theorem wp_resetObject (h : Seated fds obj.raw table) (rounds : ℕ) :
    Procedure.wp Table.contract (resetObject language rounds obj) (fun _ out _ table' ↦
      Holds fds table' ∧ ∀ obj', out = some obj' → Regular obj'.raw.flags ∧ obj'.raw.fd < 0)
      thread table := by
  have hreset := @wp_resetRaw fds obj.raw table thread h rounds
  cases language with
  | rust =>
    simp only [resetObject, Rust.reset, Procedure.wp_map]
    refine Procedure.wp_call hreset fun _ out _ _ hout ↦ ?_
    obtain ⟨status, raw⟩ := out
    cases status <;> exact ⟨hout.1, fun _ h ↦ by cases h⟩
  | python =>
    simp only [resetObject, Python.reset, Procedure.wp_map]
    refine Procedure.wp_call hreset fun _ out _ _ hout ↦ ?_
    obtain ⟨status, raw⟩ := out
    cases status with
    | TT_OK done =>
      refine ⟨hout.1, ?_⟩
      rintro _ ⟨⟩
      exact hout.2
    | TT_ERR =>
      refine ⟨hout.1, ?_⟩
      rintro _ ⟨⟩
      exact hout.2

theorem wp_dropObject (h : Seated fds obj.raw table) :
    Procedure.wp Table.contract (dropObject language obj) (fun _ _ _ table' ↦ Holds fds table')
      thread table := by
  have hclose := @wp_closeObject fds table thread obj language h
  cases language with
  | rust =>
    simp only [closeObject, Procedure.wp_map] at hclose
    exact Procedure.wp_call hclose fun _ _ _ _ hout ↦ hout.1
  | python =>
    simp only [closeObject, Procedure.wp_map] at hclose
    exact Procedure.wp_call hclose fun _ _ _ _ hout ↦ hout.1

end Objects

/-! ## Runs -/

/-- The session objects that live, and the descriptor table. -/
structure State where
  table : Table
  objects : ℕ → Option Object

/-- The raw sessions of the objects. -/
def State.sessions (s : State) (name : ℕ) : Option Session := (s.objects name).map Object.raw

/-- The functions that need no session. -/
inductive Detached where
  | reset (rounds : ℕ) (dev : Device)
  | fromBdf (rounds : ℕ) (addr : String) (dev : Device)
  | kmdVersion (rounds : ℕ) (version : Version)

def Detached.run (detached : Detached) : C Unit := do
  match detached with
  | .reset rounds dev => let _ ← ttReset rounds (some dev)
  | .fromBdf rounds addr dev => let _ ← ttDevFromBdf rounds (some addr) (some dev)
  | .kmdVersion rounds version => let _ ← ttKmdVersion rounds (some version)

inductive Label where
  | foreign
  | opens (name : ℕ)
  | operate (name : ℕ) (trace : List (Event Sys))
  | request (name : ℕ)
  | reopen (name : ℕ) (trace : List (Event Sys))
  | close (name : ℕ) (trace : List (Event Sys))
  | reset (name : ℕ)
  | dropped (name : ℕ)
  | detached

/-- Each function runs to its end, while the rest of the process goes on. -/
inductive Moves (language : Language) : State → Label → State → Prop where
  | foreign {s : State} {table : Table} : Table.Foreign s.table table →
      Moves language s .foreign { s with table := table }
  | opens {s : State} {name : ℕ} {dev : Device} {excl nonblock persist : Bool}
      {out : Option Object} {thread thread' : Thread} {trace : List (Event Sys)} {table : Table} :
      s.objects name = none →
      Procedure.Executes Table.contract (openObject language dev excl nonblock persist) thread
        s.table trace out thread' table →
      Moves language s (.opens name)
        { table := table, objects := Function.update s.objects name out }
  | operate {s : State} {name : ℕ} {obj obj' : Object} {operation : Operation}
      {thread thread' : Thread} {trace : List (Event Sys)} {table : Table} :
      s.objects name = some obj →
      Procedure.Executes Table.contract (operateObject language operation obj) thread s.table
        trace obj' thread' table →
      Moves language s (.operate name trace)
        { table := table, objects := Function.update s.objects name (some obj') }
  | request {s : State} {name : ℕ} {obj : Object} {call : Call} {status : Status}
      {thread thread' : Thread} {trace : List (Event Sys)} {table : Table} :
      s.objects name = some obj →
      Procedure.Executes Table.contract (call.run obj.raw) thread s.table trace status thread'
        table →
      Moves language s (.request name) { s with table := table }
  | reopen {s : State} {name : ℕ} {obj obj' : Object} {thread thread' : Thread}
      {trace : List (Event Sys)} {table : Table} :
      s.objects name = some obj →
      Procedure.Executes Table.contract (reopenObject language obj) thread s.table trace obj'
        thread' table →
      Moves language s (.reopen name trace)
        { table := table, objects := Function.update s.objects name (some obj') }
  | close {s : State} {name : ℕ} {obj : Object} {out : Option Object} {thread thread' : Thread}
      {trace : List (Event Sys)} {table : Table} :
      s.objects name = some obj →
      Procedure.Executes Table.contract (closeObject language obj) thread s.table trace out
        thread' table →
      Moves language s (.close name trace)
        { table := table, objects := Function.update s.objects name out }
  | reset {s : State} {name rounds : ℕ} {obj : Object} {out : Option Object}
      {thread thread' : Thread} {trace : List (Event Sys)} {table : Table} :
      s.objects name = some obj →
      Procedure.Executes Table.contract (resetObject language rounds obj) thread s.table trace
        out thread' table →
      Moves language s (.reset name)
        { table := table, objects := Function.update s.objects name out }
  | dropped {s : State} {name : ℕ} {obj : Object} {thread thread' : Thread}
      {trace : List (Event Sys)} {table : Table} :
      s.objects name = some obj →
      Procedure.Executes Table.contract (dropObject language obj) thread s.table trace ()
        thread' table →
      Moves language s (.dropped name)
        { table := table, objects := Function.update s.objects name none }
  | detached {s : State} {detached : Detached} {thread thread' : Thread}
      {trace : List (Event Sys)} {table : Table} :
      Procedure.Executes Table.contract detached.run thread s.table trace () thread' table →
      Moves language s .detached { s with table := table }

/-- There is no object, and the library has no descriptor open. -/
structure Starts (s : State) : Prop where
  objects : s.objects = fun _ ↦ none
  owner : ∀ fd, s.table.owner fd ≠ some .library
  strays : s.table.strays = []

def system (language : Language) : System State Label where
  starts := Starts
  moves := Moves language

/-- No reopen both fails to close and fails to open, and no `close` from Python reports an
error. -/
def Careful (language : Language) (_ : State) : Label → Prop
  | .operate _ trace | .reopen _ trace => ¬Stale trace
  | .close _ trace => language = .python → ¬CloseFails trace
  | _ => True

structure Consistent (s : State) : Prop where
  sound : Sound s.table s.sessions
  regular : ∀ name obj, s.objects name = some obj → Regular obj.raw.flags

section Runs

variable {s s' : State} {label : Label} {language : Language} {table : Table} {name : ℕ}
  {obj obj' : Object}

theorem sessions_update (entry : Option Object) :
    State.sessions { table := table, objects := Function.update s.objects name entry } =
      Function.update s.sessions name (entry.map Object.raw) := by
  funext other
  by_cases hother : other = name
  · subst hother
    simp [State.sessions]
  · simp [State.sessions, Function.update_of_ne hother]

theorem Consistent.seated (h : Consistent s) (hobj : s.objects name = some obj) :
    Seated (others s.sessions name) obj.raw s.table where
  sits := h.sound.sits (by simp [State.sessions, hobj])
  regular := h.regular name obj hobj

theorem Consistent.vacant (h : Consistent s) (hfree : s.objects name = none) :
    Holds (others s.sessions name) s.table := by
  have hclosed : ∀ sess, s.sessions name = some sess → sess.fd < 0 := by
    intro sess hsess
    simp [State.sessions, hfree] at hsess
  exact DescriptorOwnership.descriptors_eq_others hclosed ▸ h.sound.holds

theorem Consistent.regular_update (h : Consistent s) {entry : Option Object}
    (hentry : ∀ obj, entry = some obj → Regular obj.raw.flags) (other : ℕ) (obj : Object)
    (hobj : Function.update s.objects name entry other = some obj) : Regular obj.raw.flags := by
  by_cases hother : other = name
  · subst hother
    rw [Function.update_self] at hobj
    exact hentry obj hobj
  · rw [Function.update_of_ne hother] at hobj
    exact h.regular other obj hobj

/-- An object that is seated among the others. -/
theorem Consistent.put (h : Consistent s) (hseated : Seated (others s.sessions name) obj.raw table) :
    Consistent { table := table, objects := Function.update s.objects name (some obj) } where
  sound := by
    rw [sessions_update]
    exact hseated.sits.sound h.sound
  regular := h.regular_update fun other hother ↦ by
    obtain rfl := Option.some.inj hother
    exact hseated.regular

/-- An object that is gone leaves the descriptors of the others. -/
theorem Consistent.removed (h : Consistent s) (hholds : Holds (others s.sessions name) table) :
    Consistent { table := table, objects := Function.update s.objects name none } where
  sound := by
    rw [sessions_update]
    have hclosed : ∀ sess, Function.update s.sessions name (none : Option Session) name =
        some sess → sess.fd < 0 := by
      intro sess hsess
      rw [Function.update_self] at hsess
      cases hsess
    refine ⟨?_, fun other sess hsess hfd hmem ↦ ?_⟩
    · change Holds (descriptors (Function.update s.sessions name none)) table
      rw [DescriptorOwnership.descriptors_eq_others hclosed, DescriptorOwnership.others_update]
      exact hholds
    · have hne : other ≠ name := by
        rintro rfl
        rw [Option.map_none, Function.update_self] at hsess
        cases hsess
      rw [Function.update_of_ne hne] at hsess
      obtain ⟨-, third, sess', hthird, hsess', heq⟩ := hmem
      have hne' : third ≠ name := by
        rintro rfl
        rw [Option.map_none, Function.update_self] at hsess'
        cases hsess'
      rw [Function.update_of_ne hne'] at hsess'
      exact h.sound.sole other sess hsess hfd ⟨hfd, third, sess', hthird, hsess', heq⟩
  regular := h.regular_update fun _ hother ↦ by cases hother

/-- An object that is gone, or closed. -/
theorem Consistent.closed (h : Consistent s) {out : Option Object}
    (hholds : Holds (others s.sessions name) table)
    (hout : ∀ obj, out = some obj → Regular obj.raw.flags ∧ obj.raw.fd < 0) :
    Consistent { table := table, objects := Function.update s.objects name out } := by
  cases out with
  | none => exact h.removed hholds
  | some obj =>
    obtain ⟨hregular, hfd⟩ := hout obj rfl
    exact h.put ⟨.inl ⟨hfd, hholds⟩, hregular⟩

theorem keeps_detached (detached : Detached) {fds : Set ℤ} :
    Procedure.Keeps Table.contract (Holds fds) detached.run := by
  cases detached with
  | reset rounds dev =>
    exact (DescriptorOwnership.keeps_ttReset rounds _).bind fun _ ↦ Procedure.keeps_pure _
  | fromBdf rounds addr dev =>
    exact (DescriptorOwnership.keeps_ttDevFromBdf rounds _ _).bind fun _ ↦ Procedure.keeps_pure _
  | kmdVersion rounds version =>
    exact (DescriptorOwnership.keeps_ttKmdVersion rounds _).bind fun _ ↦ Procedure.keeps_pure _

theorem Starts.consistent (h : Starts s) : Consistent s where
  sound :=
    { holds :=
        { owner := fun fd ↦ by
            constructor
            · exact fun hfd ↦ absurd hfd (h.owner fd)
            · rintro ⟨-, name, sess, hsess, -⟩
              simp [State.sessions, h.objects] at hsess
          strays := h.strays }
      sole := fun name sess hsess ↦ by simp [State.sessions, h.objects] at hsess }
  regular name obj hobj := by simp [h.objects] at hobj

theorem moves_consistent (h : Consistent s) (hcareful : Careful language s label)
    (hmove : Moves language s label s') : Consistent s' := by
  cases hmove with
  | foreign hstep => exact ⟨⟨h.sound.holds.foreign hstep, h.sound.sole⟩, h.regular⟩
  | @opens name dev excl nonblock persist out thread thread' trace table hfree hrun =>
    have hout := hrun.ensures (wp_openObject (h.vacant hfree) dev excl nonblock persist)
    cases out with
    | none => exact h.removed hout
    | some obj => exact h.put hout
  | operate hobj hrun =>
    rcases hrun.ensures (wp_operateObject (h.seated hobj) _) with hseated | hstale
    · exact h.put hseated
    · exact absurd hstale hcareful
  | request hobj hrun =>
    exact ⟨⟨hrun.ensures (keeps_call _ _ _ h.sound.holds), h.sound.sole⟩, h.regular⟩
  | reopen hobj hrun =>
    rcases hrun.ensures (wp_reopenObject (h.seated hobj)) with hseated | hstale
    · exact h.put hseated
    · exact absurd hstale hcareful
  | close hobj hrun =>
    obtain ⟨hholds, hout⟩ := hrun.ensures (wp_closeObject (h.seated hobj))
    refine h.closed hholds fun obj' hobj' ↦ ⟨(hout obj' hobj').1, ?_⟩
    rcases (hout obj' hobj').2 with hfd | ⟨hpython, hfails⟩
    · exact hfd
    · exact absurd hfails (hcareful hpython)
  | reset hobj hrun =>
    obtain ⟨hholds, hout⟩ := hrun.ensures (wp_resetObject (h.seated hobj) _)
    exact h.closed hholds hout
  | dropped hobj hrun => exact h.removed (hrun.ensures (wp_dropObject (h.seated hobj)))
  | detached hrun =>
    exact ⟨⟨hrun.ensures (keeps_detached _ _ _ h.sound.holds), h.sound.sole⟩, h.regular⟩

/-- Open objects own their descriptors, one each, nothing is closed that was not open, and once all
objects are gone or closed the library has nothing open. -/
theorem objects_own_descriptors (hrun : (system language).Reaches (Careful language) s) :
    Owned { table := s.table, sessions := s.sessions } ∧
      ((∀ name obj, s.objects name = some obj → obj.raw.fd < 0) →
        ∀ fd, s.table.owner fd ≠ some .library) := by
  have hconsistent : Consistent s := by
    apply System.Reaches.invariant _ _ hrun
    · exact fun _ hstart ↦ Starts.consistent hstart
    · exact fun _ _ _ hinv hcareful hmove ↦ moves_consistent hinv hcareful hmove
  refine ⟨hconsistent.sound.owned, fun hclosed fd hfd ↦ ?_⟩
  obtain ⟨hpos, name, sess, hsess, rfl⟩ := (hconsistent.sound.holds.owner fd).mp hfd
  obtain ⟨obj, hobj, rfl⟩ := Option.map_eq_some_iff.mp hsess
  have hneg := hclosed name obj hobj
  omega

end Runs

/-! ## An object whose session reports an error when it is closed -/

def emptyState : State :=
  { table := DescriptorOwnership.tableWith none, objects := fun _ ↦ none }

/-- The first object of a process, on descriptor three. -/
def openedState : State :=
  { table := DescriptorOwnership.tableWith (some .library)
    objects := Function.update (fun _ ↦ none) 0
      (some { raw := sampleSession, persist := true }) }

theorem emptyState_starts : Starts emptyState where
  objects := rfl
  owner := DescriptorOwnership.emptyState_starts.owner
  strays := rfl

theorem openedState_opens : Moves .rust emptyState (.opens 0) openedState := by
  have hanswer : Table.contract.answers (.openFile (devicePath { id := 0 }) (openFlags 0))
      (DescriptorOwnership.tableWith none) (.ok 3 (.other 0))
      (DescriptorOwnership.tableWith (some .library)) :=
    ⟨_, .refl, by simp [DescriptorOwnership.tableWith],
      by simp [Table.opened, DescriptorOwnership.tableWith]⟩
  have hopen := @executes_openSession _ _ Thread.initial _ _ _ { id := 0 } 0 3 (by decide) hanswer
  have hcheck : Procedure.Executes Table.contract
      (Rust.check (openSession { id := 0 } (openBits false false))) Thread.initial
      (DescriptorOwnership.tableWith none) _ (.ok sampleSession) _
      (DescriptorOwnership.tableWith (some .library)) :=
    Procedure.executes_bind.mpr ⟨_, [], _, _, _, rfl, hopen, .done⟩
  have hrun : Procedure.Executes Table.contract
      (Rust.OpenOptions.openDevice ⟨false, false, true⟩ { id := 0 }) Thread.initial
      (DescriptorOwnership.tableWith none) _
      (.ok { raw := sampleSession, persist := true }) _
      (DescriptorOwnership.tableWith (some .library)) :=
    Procedure.executes_bind.mpr ⟨_, [], _, _, _, rfl, hcheck, .done⟩
  exact .opens rfl (Procedure.executes_map.mpr ⟨_, rfl, hrun⟩)

/-- The destructor is told of an error, and the descriptor is gone. -/
theorem openedState_dropped : Moves .rust openedState (.dropped 0) emptyState := by
  have hclosed : (DescriptorOwnership.tableWith (some .library)).closed 3 =
      DescriptorOwnership.tableWith none := by
    simp [Table.closed, DescriptorOwnership.tableWith]
  have hanswer : Table.contract.answers (.close 3) (DescriptorOwnership.tableWith (some .library))
      (.fail Errno.EIO) (DescriptorOwnership.tableWith none) := ⟨_, .refl, hclosed.symm⟩
  have hrun : Procedure.Executes Table.contract
      (dropObject .rust { raw := sampleSession, persist := true })
      Thread.initial (DescriptorOwnership.tableWith (some .library))
      [⟨.close 3, .fail Errno.EIO⟩] () { Thread.initial with errno := Errno.EIO }
      (DescriptorOwnership.tableWith none) := .call hanswer .done
  have hobject : openedState.objects 0 =
      some { raw := sampleSession, persist := true } := rfl
  have hmove := Moves.dropped hobject hrun
  rw [show Function.update openedState.objects 0 none = emptyState.objects from by
    simp [openedState, emptyState]] at hmove
  exact hmove

/-- An object that was opened owns its descriptor. Although its session reports an error when it is
closed, a Rust object that is dropped leaves nothing behind. -/
theorem openedState_released :
    (Moves .rust emptyState (.opens 0) openedState ∧
      Owned { table := openedState.table, sessions := openedState.sessions }) ∧
    Moves .rust openedState (.dropped 0) emptyState ∧
      ∀ fd, emptyState.table.owner fd ≠ some .library := by
  have hopens : Careful .rust emptyState (.opens 0) := trivial
  have hdrops : Careful .rust openedState (.dropped 0) := trivial
  have hopened : (system .rust).Reaches (Careful .rust) openedState :=
    (System.Reaches.start emptyState_starts).move hopens openedState_opens
  refine ⟨⟨openedState_opens, (objects_own_descriptors hopened).1⟩, openedState_dropped, ?_⟩
  apply (objects_own_descriptors (hopened.move hdrops openedState_dropped)).2
  exact fun _ _ hobj ↦ by cases hobj

end TtDal.Safety.SessionObjects
