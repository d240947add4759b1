import TtDal.Dev.Reset
import TtDal.Driver.Descriptors
import TtDal.Effect.System

/-!
# Sessions and their descriptors

Sessions are opened, closed, reopened and consumed by a reset, and other functions open and close
descriptors of their own. A session whose `fd` is not negative should own an open descriptor that
no other session owns. `tt_close` keeps the number when `close(2)` reports an error, although the
descriptor is gone, so this holds as long as that does not happen.
-/

namespace TtDal.Safety.DescriptorOwnership

open Effect Platform Dev Driver

open Driver.Table (Holds)

/-! ## Functions that open and close descriptors of their own -/

section Keeps

variable {fds : Set ℤ} {table : Table} {thread : Thread} {fd : ℤ}

theorem keeps_scanLoop (dir cap rounds count : ℕ) (buf : List Device) :
    Procedure.Keeps Table.contract (Holds fds) (scanLoop dir cap rounds count buf) := by
  induction rounds generalizing count buf with
  | zero => exact Procedure.keeps_stop _ trivial
  | succ rounds ih =>
    refine (Table.keeps_quiet ?_).bind fun entry ↦ ?_
    · trivial
    cases entry with
    | none => exact Procedure.keeps_pure _
    | some entry =>
      cases hentry : scanEntry entry with
      | none => simpa only [hentry] using ih count buf
      | some dev => simpa only [hentry] using ih (count + 1) _

theorem keeps_ttDevScan (rounds cap : ℕ) :
    Procedure.Keeps Table.contract (Holds fds) (ttDevScan rounds cap) := by
  refine (Table.keeps_quiet ?_).bind fun reply ↦ ?_
  · trivial
  cases reply with
  | fail err =>
    by_cases herr : err = .ENOENT
    · simpa only [if_pos herr] using Procedure.keeps_pure _
    · simpa only [if_neg herr] using Procedure.keeps_pure _
  | ok dir residue =>
    refine (keeps_scanLoop dir cap rounds 0 []).bind fun found ↦ ?_
    refine (Table.keeps_quiet ?_).bind fun _ ↦ Procedure.keeps_pure _
    trivial

theorem keeps_scannedDevice (devs : List Device) (index : ℕ) :
    Procedure.Keeps Table.contract (Holds fds) (scannedDevice devs index) := by
  unfold scannedDevice
  split
  · exact Procedure.keeps_pure _
  · refine (Table.keeps_quiet ?_).bind fun _ ↦ Procedure.keeps_pure _
    trivial

/-- A descriptor that is closed again leaves what was open before. -/
theorem wp_closeOwn {post : Procedure.Post Sys (Reply Unit) Thread Table} (hfree : fd ∉ fds)
    (hholds : Holds (insert fd fds) table) (hpost : ∀ reply table', Holds fds table' →
      post [⟨.close fd, reply⟩] reply { thread with errno := reply.errno } table') :
    Procedure.wp Table.contract (sys (.close fd)) post thread table := by
  apply Table.wp_close hholds (Set.mem_insert _ _)
  intro reply table' hholds'
  rw [Set.insert_sdiff_self_of_notMem hfree] at hholds'
  exact hpost reply table' hholds'

/-- Reading the marker opens and closes a descriptor. -/
theorem keeps_markerClear (sysfs : String) :
    Procedure.Keeps Table.contract (Holds fds) (markerClear sysfs) := by
  intro thread table hholds
  unfold markerClear
  rw [Procedure.wp_bind]
  apply Table.wp_openFile hholds
  · intro cfd residue table' hfree hholds'
    refine Procedure.Keeps.wp_call (Table.keeps_quiet ?_) hholds' fun _ reply _ table'' hread ↦ ?_
    · trivial
    rw [Procedure.wp_bind]
    apply wp_closeOwn hfree hread
    intro _ _ hclose
    split
    · exact hclose
    · exact hclose
  · exact fun err table' hholds' ↦ hholds'

theorem keeps_waits {op : Syscall} (hop : Waits op) :
    Procedure.Keeps Table.contract (Holds fds) (sys op) := by
  apply Table.keeps_quiet
  cases op with
  | openFile | close => exact hop.elim
  | _ => exact trivial

/-- The library opened a descriptor. -/
def Opens (trace : List (Event Sys)) : Prop :=
  ∃ path flags fd residue, (⟨.openFile path flags, .ok fd residue⟩ : Event Sys) ∈ trace

/-- `close(2)` reported an error. -/
def CloseFails (trace : List (Event Sys)) : Prop :=
  ∃ fd err, (⟨.close fd, .fail err⟩ : Event Sys) ∈ trace

/-- A session among the descriptors of others: it is closed, or it owns one more descriptor. -/
def Sits (others : Set ℤ) (sess : Session) (table : Table) : Prop :=
  sess.fd < 0 ∧ Holds others table ∨
    0 ≤ sess.fd ∧ sess.fd ∉ others ∧ Holds (insert sess.fd others) table

theorem wp_openSession (hholds : Holds fds table) (dev : Device) (flags : UInt16) :
    Procedure.wp Table.contract (openSession dev flags) (fun trace res _ table' ↦
      match res with
      | .TT_OK sess => 0 ≤ sess.fd ∧ sess.fd ∉ fds ∧ Holds (insert sess.fd fds) table'
      | .TT_ERR => Holds fds table' ∧ ¬Opens trace) thread table := by
  have hnothing : ¬Opens [] := by
    rintro ⟨_, _, _, _, hmem⟩
    cases hmem
  rw [openSession_eq]
  split
  · exact ⟨hholds, hnothing⟩
  · rw [Procedure.wp_bind]
    apply Table.wp_openFile hholds
    · intro fd residue table' hfree hholds'
      exact ⟨Int.natCast_nonneg fd, hfree, hholds'⟩
    · intro err table' hholds'
      refine ⟨hholds', ?_⟩
      rintro ⟨_, _, _, _, hmem⟩
      simp at hmem

theorem wp_closeSession {sess : Session} (h : Sits fds sess table) :
    Procedure.wp Table.contract (closeSession sess) (fun trace out _ table' ↦
      Holds fds table' ∧ ¬Opens trace ∧ (out.2.fd < 0 ∨ out = (.TT_ERR, sess) ∧ CloseFails trace))
      thread table := by
  unfold closeSession
  rcases h with ⟨hfd, hholds⟩ | ⟨hfd, hfree, hholds⟩
  · rw [if_pos hfd]
    refine ⟨hholds, ?_, .inl hfd⟩
    rintro ⟨_, _, _, _, hmem⟩
    cases hmem
  · rw [if_neg (Int.not_lt.mpr hfd), Procedure.wp_bind]
    apply wp_closeOwn hfree hholds
    intro reply table' hholds'
    have hnothing : ¬Opens [⟨.close sess.fd, reply⟩] := by
      rintro ⟨_, _, _, _, hmem⟩
      simp at hmem
    cases reply with
    | ok value residue => exact ⟨hholds', hnothing, .inl (by decide : (-1 : ℤ) < 0)⟩
    | fail err =>
      exact ⟨hholds', hnothing, .inr ⟨rfl, sess.fd, err, List.mem_singleton.mpr rfl⟩⟩

theorem wp_failClosed (hfree : fd ∉ fds) (hholds : Holds (insert fd fds) table) (err : Errno) :
    Procedure.wp Table.contract (failClosed fd err) (fun _ _ _ table' ↦ Holds fds table')
      thread table := by
  unfold failClosed
  rw [Procedure.wp_bind]
  exact wp_closeOwn hfree hholds fun _ _ hholds' ↦ hholds'

theorem wp_finishReset (hfree : fd ∉ fds) (hholds : Holds (insert fd fds) table) :
    Procedure.wp Table.contract (finishReset fd) (fun _ _ _ table' ↦ Holds fds table')
      thread table := by
  refine Procedure.Keeps.wp_call (Table.keeps_quiet ?_) hholds fun _ reply _ table' hholds' ↦ ?_
  · trivial
  cases reply with
  | fail err => exact wp_failClosed hfree hholds' _
  | ok result residue =>
    by_cases hresult : result ≠ 0
    · simpa only [if_pos hresult] using wp_failClosed hfree hholds' _
    · simp only [if_neg hresult]
      rw [Procedure.wp_bind]
      apply wp_closeOwn hfree hholds'
      intro reply _ hholds''
      cases reply <;> exact hholds''

/-- The device is closed on every path. -/
theorem wp_resetExclusive {sess : Session} (hfree : sess.fd ∉ fds)
    (hholds : Holds (insert sess.fd fds) table) (rounds : ℕ) :
    Procedure.wp Table.contract (resetExclusive rounds sess) (fun _ _ _ table' ↦ Holds fds table')
      thread table := by
  refine (keeps_devInfo (Table.keeps_quiet trivial)).wp_call hholds fun _ res _ table' hholds' ↦ ?_
  cases res with
  | TT_ERR => exact wp_failClosed hfree hholds' _
  | TT_OK info =>
    refine Procedure.Keeps.wp_call (Table.keeps_quiet ?_) hholds' fun _ reply _ table' hreset ↦ ?_
    · trivial
    cases reply with
    | fail err => exact wp_failClosed hfree hreset _
    | ok result residue =>
      by_cases hresult : result ≠ 0
      · simpa only [if_pos hresult] using wp_failClosed hfree hreset _
      · simp only [if_neg hresult]
        refine Procedure.Keeps.wp_call (Table.keeps_quiet ?_) hreset fun _ start _ _ hstart ↦ ?_
        · trivial
        refine (keeps_awaitReset (fun _ ↦ keeps_waits) (keeps_markerClear _) trivial start rounds
          false).wp_call hstart fun _ complete _ _ hwait ↦ ?_
        split
        · refine (keeps_awaitFirmware (fun _ ↦ keeps_waits) trivial rounds _).wp_call hwait
            fun _ _ _ _ hdelay ↦ ?_
          exact wp_finishReset hfree hdelay
        · exact wp_failClosed hfree hwait _

theorem keeps_resetDevice (rounds : ℕ) (dev : Device) :
    Procedure.Keeps Table.contract (Holds fds) (resetDevice rounds dev) := by
  intro thread table hholds
  refine Procedure.wp_call (wp_openSession hholds dev _) fun _ res _ table' hopen ↦ ?_
  cases res with
  | TT_ERR => exact hopen.1
  | TT_OK sess => exact wp_resetExclusive hopen.2.1 hopen.2.2 rounds

theorem keeps_matchBdf (normalized : List Char) (devs : List Device) (remaining index : ℕ) :
    Procedure.Keeps Table.contract (Holds fds) (matchBdf normalized devs remaining index) := by
  induction remaining generalizing index with
  | zero => exact keeps_ttFail _
  | succ remaining ih =>
    refine (keeps_scannedDevice devs index).bind fun dev ↦ ?_
    intro thread table hholds
    refine Procedure.wp_call (wp_openSession hholds dev 0) fun _ res _ table' hopen ↦ ?_
    cases res with
    | TT_ERR => exact ih (index + 1) _ _ hopen.1
    | TT_OK sess =>
      refine (keeps_devInfo (Table.keeps_quiet trivial)).wp_call hopen.2.2 fun _ res _ table'' hinfo ↦ ?_
      refine Procedure.wp_call (wp_closeSession (.inr ⟨hopen.1, hopen.2.1, hinfo⟩))
        fun _ _ _ last hclose ↦ ?_
      cases res with
      | TT_ERR => exact ih (index + 1) _ _ hclose.1
      | TT_OK info =>
        by_cases hbdf : infoBdf info = normalized
        · simp only [if_pos hbdf]
          exact hclose.1
        · simpa only [if_neg hbdf] using ih (index + 1) _ _ hclose.1

theorem keeps_devFromBdf (rounds : ℕ) (addr : List Char) :
    Procedure.Keeps Table.contract (Holds fds) (devFromBdf rounds addr) := by
  unfold devFromBdf
  split
  · exact keeps_ttFail _
  · refine (keeps_ttDevScan rounds BDF_SCAN_CAP).bind fun res ↦ ?_
    cases res with
    | TT_ERR => exact keeps_ttFail _
    | TT_OK found => exact keeps_matchBdf _ found.2 found.1 0

theorem keeps_kmdVersion (rounds : ℕ) :
    Procedure.Keeps Table.contract (Holds fds) (kmdVersion rounds) := by
  refine (keeps_ttDevScan rounds 1).bind fun res ↦ ?_
  cases res with
  | TT_ERR => exact Procedure.keeps_pure _
  | TT_OK found =>
    obtain ⟨count, devs⟩ := found
    by_cases hcount : count = 0
    · simpa only [if_pos hcount] using keeps_ttFail _
    · simp only [if_neg hcount]
      refine (keeps_scannedDevice devs 0).bind fun dev ↦ ?_
      intro thread table hholds
      refine Procedure.wp_call (wp_openSession hholds dev 0) fun _ res _ table' hopen ↦ ?_
      cases res with
      | TT_ERR => exact hopen.1
      | TT_OK sess =>
        refine Procedure.Keeps.wp_call (Table.keeps_quiet ?_) hopen.2.2
          fun _ reply _ table'' hinfo ↦ ?_
        · trivial
        refine keeps_getErrno.wp_call hinfo fun _ err _ table'' hinfo ↦ ?_
        refine Procedure.wp_call (wp_closeSession (.inr ⟨hopen.1, hopen.2.1, hinfo⟩))
          fun _ _ _ last hclose ↦ ?_
        cases reply <;> exact hclose.1

/-! ## Functions of a session -/

theorem not_opens_append {first rest : List (Event Sys)} (h : ¬Opens first) (h' : ¬Opens rest) :
    ¬Opens (first ++ rest) := by
  rintro ⟨path, flags, fd, residue, hmem⟩
  rcases List.mem_append.mp hmem with hmem | hmem
  · exact h ⟨path, flags, fd, residue, hmem⟩
  · exact h' ⟨path, flags, fd, residue, hmem⟩

theorem CloseFails.append_left {first : List (Event Sys)} (h : CloseFails first)
    (rest : List (Event Sys)) : CloseFails (first ++ rest) := by
  obtain ⟨fd, err, hmem⟩ := h
  exact ⟨fd, err, List.mem_append_left _ hmem⟩

/-- A reopen leaves the session right, unless it could neither close nor open. -/
theorem wp_reopenSession {sess : Session} (h : Sits fds sess table) :
    Procedure.wp Table.contract (reopenSession sess) (fun trace out _ table' ↦
      Sits fds out.2 table' ∨ CloseFails trace ∧ ¬Opens trace) thread table := by
  refine Procedure.wp_call (wp_closeSession h) fun _ closed _ table' hclose ↦ ?_
  obtain ⟨hholds, hnothing, hclosed⟩ := hclose
  refine Procedure.wp_call (wp_openSession hholds closed.2.dev closed.2.flags)
    fun trace res _ table'' hopen ↦ ?_
  cases res with
  | TT_OK sess' => exact .inl (.inr hopen)
  | TT_ERR =>
    rcases hclosed with hfd | ⟨-, hfails⟩
    · exact .inl (.inl ⟨hfd, hopen.1⟩)
    · refine .inr ⟨hfails.append_left _, ?_⟩
      simpa using not_opens_append hnothing hopen.2

/-- The session is consumed whatever happens. -/
theorem wp_resetWith {sess : Session} (h : Sits fds sess table) (rounds : ℕ) :
    Procedure.wp Table.contract (resetWith rounds sess) (fun _ out _ table' ↦
      Holds fds table' ∧ out.2.fd < 0) thread table := by
  unfold resetWith
  split
  · rename_i hfd
    rcases h with ⟨-, hholds⟩ | ⟨hfd', -⟩
    · exact ⟨hholds, hfd⟩
    · omega
  · refine Procedure.wp_call (wp_closeSession h) fun _ closed _ table' hclose ↦ ?_
    obtain ⟨status, sess'⟩ := closed
    obtain ⟨hholds, -, hclosed⟩ := hclose
    cases status with
    | TT_ERR => exact ⟨hholds, (by decide : (-1 : ℤ) < 0)⟩
    | TT_OK =>
      rcases hclosed with hfd | ⟨herr, -⟩
      · refine (keeps_resetDevice rounds _).wp_call hholds fun _ _ _ table'' hreset ↦ ?_
        exact ⟨hreset, hfd⟩
      · cases herr

/-! The entry points check their pointers first. -/

theorem wp_ttOpen (hholds : Holds fds table) (dev : Option Device) (old : Session)
    (flags : UInt16) :
    Procedure.wp Table.contract (ttOpen dev (some old) flags) (fun _ out _ table' ↦
      match out.1 with
      | .TT_OK _ => ∃ sess, out.2 = some sess ∧ Sits fds sess table'
      | .TT_ERR => Holds fds table') thread table := by
  cases dev with
  | none => exact hholds
  | some dev =>
    refine Procedure.wp_call (wp_openSession hholds dev flags) fun _ res _ table' hopen ↦ ?_
    cases res with
    | TT_OK sess => exact ⟨sess, rfl, .inr hopen⟩
    | TT_ERR => exact hopen.1

theorem wp_ttClose {sess : Session} (h : Sits fds sess table) :
    Procedure.wp Table.contract (ttClose (some sess)) (fun trace out _ table' ↦
      ∃ sess', out.2 = some sess' ∧ Holds fds table' ∧ (sess'.fd < 0 ∨ CloseFails trace))
      thread table := by
  refine Procedure.wp_call (wp_closeSession h) fun trace out _ table' hclose ↦ ?_
  obtain ⟨hholds, -, hclosed⟩ := hclose
  refine ⟨out.2, rfl, hholds, ?_⟩
  rcases hclosed with hfd | ⟨-, hfails⟩
  · exact .inl hfd
  · exact .inr (hfails.append_left _)

theorem wp_ttReopen {sess : Session} (h : Sits fds sess table) :
    Procedure.wp Table.contract (ttReopen (some sess)) (fun trace out _ table' ↦
      ∃ sess', out.2 = some sess' ∧ (Sits fds sess' table' ∨ CloseFails trace ∧ ¬Opens trace))
      thread table := by
  refine Procedure.wp_call (wp_reopenSession h) fun trace out _ table' hreopen ↦ ?_
  refine ⟨out.2, rfl, ?_⟩
  rw [List.append_nil]
  exact hreopen

theorem wp_ttResetWith {sess : Session} (h : Sits fds sess table) (rounds : ℕ) :
    Procedure.wp Table.contract (ttResetWith rounds (some sess)) (fun _ out _ table' ↦
      ∃ sess', out.2 = some sess' ∧ Holds fds table' ∧ sess'.fd < 0) thread table :=
  Procedure.wp_call (wp_resetWith h rounds) fun _ out _ _ hreset ↦ ⟨out.2, rfl, hreset⟩

theorem keeps_ttReset (rounds : ℕ) (dev : Option Device) :
    Procedure.Keeps Table.contract (Holds fds) (ttReset rounds dev) := by
  cases dev with
  | none => exact keeps_ttFail _
  | some dev => exact keeps_resetDevice rounds dev

theorem keeps_ttDevFromBdf (rounds : ℕ) (addr : Option String) (dev : Option Device) :
    Procedure.Keeps Table.contract (Holds fds) (ttDevFromBdf rounds addr dev) := by
  cases addr with
  | none => exact (keeps_ttFail _).bind fun _ ↦ Procedure.keeps_pure _
  | some addr =>
    cases dev with
    | none => exact (keeps_ttFail _).bind fun _ ↦ Procedure.keeps_pure _
    | some dev =>
      refine (keeps_devFromBdf rounds addr.toList).bind fun res ↦ ?_
      cases res <;> exact Procedure.keeps_pure _

theorem keeps_ttKmdVersion (rounds : ℕ) (version : Option Version) :
    Procedure.Keeps Table.contract (Holds fds) (ttKmdVersion rounds version) := by
  cases version with
  | none => exact (keeps_ttFail _).bind fun _ ↦ Procedure.keeps_pure _
  | some version =>
    refine (keeps_kmdVersion rounds).bind fun res ↦ ?_
    cases res <;> exact Procedure.keeps_pure _

end Keeps

/-! ## Runs -/

/-- The session objects that a successful `tt_open` has filled in, and the descriptor table. -/
structure State where
  table : Table
  sessions : ℕ → Option Session

inductive Label where
  | foreign
  | opens (name : ℕ)
  | close (name : ℕ) (trace : List (Event Sys))
  | reopen (name : ℕ) (trace : List (Event Sys))
  | resetWith (name : ℕ)
  | reset
  | devFromBdf
  | kmdVersion

/-- Each function runs to its end, while the rest of the process goes on. The object `tt_open` is
given holds a session that is not open, or anything when it was never filled in. -/
inductive Moves : State → Label → State → Prop where
  | foreign {s : State} {table : Table} : Table.Foreign s.table table →
      Moves s .foreign { s with table := table }
  | opens {s : State} {name : ℕ} {dev : Option Device} {flags : UInt16} {old : Session}
      {new : Option Session} {status : Status} {thread thread' : Thread}
      {trace : List (Event Sys)} {table : Table} :
      (∀ sess, s.sessions name = some sess → sess = old ∧ sess.fd < 0) →
      Procedure.Executes Table.contract (ttOpen dev (some old) flags) thread s.table trace
        (status, new) thread' table →
      Moves s (.opens name)
        { table := table
          sessions := if status = .TT_OK () then Function.update s.sessions name new
            else s.sessions }
  | close {s : State} {name : ℕ} {sess : Session} {new : Option Session} {status : Status}
      {thread thread' : Thread} {trace : List (Event Sys)} {table : Table} :
      s.sessions name = some sess →
      Procedure.Executes Table.contract (ttClose (some sess)) thread s.table trace
        (status, new) thread' table →
      Moves s (.close name trace)
        { table := table, sessions := Function.update s.sessions name new }
  | reopen {s : State} {name : ℕ} {sess : Session} {new : Option Session} {status : Status}
      {thread thread' : Thread} {trace : List (Event Sys)} {table : Table} :
      s.sessions name = some sess →
      Procedure.Executes Table.contract (ttReopen (some sess)) thread s.table trace
        (status, new) thread' table →
      Moves s (.reopen name trace)
        { table := table, sessions := Function.update s.sessions name new }
  | resetWith {s : State} {name rounds : ℕ} {sess : Session} {new : Option Session}
      {status : Status} {thread thread' : Thread} {trace : List (Event Sys)} {table : Table} :
      s.sessions name = some sess →
      Procedure.Executes Table.contract (ttResetWith rounds (some sess)) thread s.table trace
        (status, new) thread' table →
      Moves s (.resetWith name)
        { table := table, sessions := Function.update s.sessions name new }
  | reset {s : State} {rounds : ℕ} {dev : Option Device} {status : Status}
      {thread thread' : Thread} {trace : List (Event Sys)} {table : Table} :
      Procedure.Executes Table.contract (ttReset rounds dev) thread s.table trace status thread'
        table →
      Moves s .reset { s with table := table }
  | devFromBdf {s : State} {rounds : ℕ} {addr : Option String} {dev : Option Device}
      {out : Status × Option Device} {thread thread' : Thread} {trace : List (Event Sys)}
      {table : Table} :
      Procedure.Executes Table.contract (ttDevFromBdf rounds addr dev) thread s.table trace out
        thread' table →
      Moves s .devFromBdf { s with table := table }
  | kmdVersion {s : State} {rounds : ℕ} {version : Option Version}
      {out : Status × Option Version} {thread thread' : Thread} {trace : List (Event Sys)}
      {table : Table} :
      Procedure.Executes Table.contract (ttKmdVersion rounds version) thread s.table trace out
        thread' table →
      Moves s .kmdVersion { s with table := table }

/-- The library has no descriptor open and no session was filled in. -/
structure Starts (s : State) : Prop where
  sessions : s.sessions = fun _ ↦ none
  owner : ∀ fd, s.table.owner fd ≠ some .library
  strays : s.table.strays = []

def system : System State Label where
  starts := Starts
  moves := Moves

/-- `close(2)` reports no error to `tt_close`, and to `tt_reopen` only if the device is opened
again afterwards. -/
def Careful (_ : State) : Label → Prop
  | .close _ trace => ¬CloseFails trace
  | .reopen _ trace => CloseFails trace → Opens trace
  | _ => True

/-- Open sessions own open descriptors, one each, and every open descriptor has an owner. -/
structure Owned (s : State) : Prop where
  opened : ∀ name sess, s.sessions name = some sess → 0 ≤ sess.fd →
    s.table.owner sess.fd = some .library
  sole : ∀ name name' sess sess', s.sessions name = some sess → s.sessions name' = some sess' →
    0 ≤ sess.fd → sess.fd = sess'.fd → name = name'
  held : ∀ fd, s.table.owner fd = some .library → ∃ name sess, s.sessions name = some sess ∧
    sess.fd = fd
  /-- Nothing was closed that the library had not opened, or had closed already. -/
  strays : s.table.strays = []

/-- The descriptors of all sessions but one. -/
def others (sessions : ℕ → Option Session) (name : ℕ) : Set ℤ :=
  { fd | 0 ≤ fd ∧ ∃ name' sess, name' ≠ name ∧ sessions name' = some sess ∧ sess.fd = fd }

/-- The descriptors of all sessions. -/
def descriptors (sessions : ℕ → Option Session) : Set ℤ :=
  { fd | 0 ≤ fd ∧ ∃ name sess, sessions name = some sess ∧ sess.fd = fd }

structure Sound (table : Table) (sessions : ℕ → Option Session) : Prop where
  holds : Holds (descriptors sessions) table
  sole : ∀ name sess, sessions name = some sess → 0 ≤ sess.fd → sess.fd ∉ others sessions name

section Runs

variable {s s' : State} {label : Label} {table table' : Table} {sessions : ℕ → Option Session}
  {name : ℕ} {sess : Session}

theorem others_update (entry : Option Session) :
    others (Function.update sessions name entry) name = others sessions name := by
  ext fd
  constructor
  · rintro ⟨hfd, name', sess, hname, hentry, heq⟩
    rw [Function.update_of_ne hname] at hentry
    exact ⟨hfd, name', sess, hname, hentry, heq⟩
  · rintro ⟨hfd, name', sess, hname, hentry, heq⟩
    refine ⟨hfd, name', sess, hname, ?_, heq⟩
    rw [Function.update_of_ne hname]
    exact hentry

theorem descriptors_eq_insert (hsess : sessions name = some sess) (hfd : 0 ≤ sess.fd) :
    descriptors sessions = insert sess.fd (others sessions name) := by
  ext fd
  rw [Set.mem_insert_iff]
  constructor
  · rintro ⟨hfd', name', sess', hsess', rfl⟩
    by_cases hname : name' = name
    · subst hname
      obtain rfl := Option.some.inj (hsess.symm.trans hsess')
      exact .inl rfl
    · exact .inr ⟨hfd', name', sess', hname, hsess', rfl⟩
  · rintro (rfl | ⟨hfd', name', sess', -, hsess', rfl⟩)
    · exact ⟨hfd, name, sess, hsess, rfl⟩
    · exact ⟨hfd', name', sess', hsess', rfl⟩

theorem descriptors_eq_others (hclosed : ∀ sess, sessions name = some sess → sess.fd < 0) :
    descriptors sessions = others sessions name := by
  ext fd
  constructor
  · rintro ⟨hfd, name', sess', hsess', rfl⟩
    refine ⟨hfd, name', sess', ?_, hsess', rfl⟩
    rintro rfl
    have hneg := hclosed sess' hsess'
    omega
  · rintro ⟨hfd, name', sess', -, hsess', rfl⟩
    exact ⟨hfd, name', sess', hsess', rfl⟩

/-- A session of a run among the descriptors of the others. -/
theorem Sound.sits (h : Sound table sessions) (hsess : sessions name = some sess) :
    Sits (others sessions name) sess table := by
  by_cases hfd : sess.fd < 0
  · left
    have hclosed : ∀ other, sessions name = some other → other.fd < 0 := by
      intro other hother
      obtain rfl := Option.some.inj (hsess.symm.trans hother)
      exact hfd
    exact ⟨hfd, descriptors_eq_others hclosed ▸ h.holds⟩
  · right
    have hnat : 0 ≤ sess.fd := Int.not_lt.mp hfd
    exact ⟨hnat, h.sole name sess hsess hnat, descriptors_eq_insert hsess hnat ▸ h.holds⟩

/-- A session that sits among the descriptors of the others again. -/
theorem Sits.sound (hsits : Sits (others sessions name) sess table')
    (h : Sound table sessions) : Sound table' (Function.update sessions name (some sess)) where
  holds := by
    have hself : Function.update sessions name (some sess) name = some sess :=
      Function.update_self _ _ _
    rcases hsits with ⟨hfd, hholds⟩ | ⟨hfd, -, hholds⟩
    · have hclosed : ∀ other, Function.update sessions name (some sess) name = some other →
          other.fd < 0 := by
        intro other hother
        obtain rfl := Option.some.inj (hself.symm.trans hother)
        exact hfd
      rw [descriptors_eq_others hclosed, others_update]
      exact hholds
    · rw [descriptors_eq_insert hself hfd, others_update]
      exact hholds
  sole name' sess' hsess' hfd' := by
    by_cases hname : name' = name
    · subst hname
      rw [Function.update_self] at hsess'
      obtain rfl := Option.some.inj hsess'
      rw [others_update]
      rcases hsits with ⟨hfd, -⟩ | ⟨-, hfree, -⟩
      · omega
      · exact hfree
    · rw [Function.update_of_ne hname] at hsess'
      rintro ⟨-, other, sess'', hother, hentry, heq⟩
      by_cases hname' : other = name
      · subst hname'
        rw [Function.update_self] at hentry
        obtain rfl := Option.some.inj hentry
        rcases hsits with ⟨hfd, -⟩ | ⟨-, hfree, -⟩
        · omega
        · exact hfree ⟨heq ▸ hfd', name', sess', hname, hsess', heq.symm⟩
      · rw [Function.update_of_ne hname'] at hentry
        exact h.sole name' sess' hsess' hfd' ⟨hfd', other, sess'', hother, hentry, heq⟩

theorem Sound.owned (h : Sound s.table s.sessions) : Owned s where
  opened name sess hsess hfd := (h.holds.owner _).mpr ⟨hfd, name, sess, hsess, rfl⟩
  sole name name' sess sess' hsess hsess' hfd heq := by
    by_contra hname
    exact h.sole name sess hsess hfd ⟨hfd, name', sess', fun h ↦ hname h.symm, hsess', heq.symm⟩
  held fd hfd := ((h.holds.owner fd).mp hfd).2
  strays := h.holds.strays

theorem Starts.sound (h : Starts s) : Sound s.table s.sessions where
  holds :=
    { owner := fun fd ↦ by
        constructor
        · exact fun hfd ↦ absurd hfd (h.owner fd)
        · rintro ⟨-, name, sess, hsess, -⟩
          rw [h.sessions] at hsess
          cases hsess
      strays := h.strays }
  sole name sess hsess := by
    rw [h.sessions] at hsess
    cases hsess

theorem moves_sound (h : Sound s.table s.sessions) (hcareful : Careful s label)
    (hmove : Moves s label s') : Sound s'.table s'.sessions := by
  cases hmove with
  | foreign hstep => exact ⟨h.holds.foreign hstep, h.sole⟩
  | @opens name dev flags old new status thread thread' trace table hold hrun =>
    have hclosed : ∀ sess, s.sessions name = some sess → sess.fd < 0 :=
      fun sess hsess ↦ (hold sess hsess).2
    have hothers : Holds (others s.sessions name) s.table :=
      descriptors_eq_others hclosed ▸ h.holds
    have hout := hrun.ensures (wp_ttOpen hothers dev old flags)
    cases status with
    | TT_OK =>
      obtain ⟨sess, rfl, hsits⟩ := hout
      exact hsits.sound h
    | TT_ERR => exact ⟨descriptors_eq_others hclosed ▸ hout, h.sole⟩
  | @close name sess new status thread thread' trace table hsess hrun =>
    obtain ⟨sess', rfl, hholds, hfd | hfails⟩ := hrun.ensures (wp_ttClose (h.sits hsess))
    · have hsits : Sits (others s.sessions name) sess' table := .inl ⟨hfd, hholds⟩
      exact hsits.sound h
    · exact absurd hfails hcareful
  | @reopen name sess new status thread thread' trace table hsess hrun =>
    obtain ⟨sess', rfl, hsits | ⟨hfails, hnot⟩⟩ := hrun.ensures (wp_ttReopen (h.sits hsess))
    · exact hsits.sound h
    · exact absurd (hcareful hfails) hnot
  | @resetWith name rounds sess new status thread thread' trace table hsess hrun =>
    obtain ⟨sess', rfl, hholds, hfd⟩ := hrun.ensures (wp_ttResetWith (h.sits hsess) rounds)
    have hsits : Sits (others s.sessions name) sess' table := .inl ⟨hfd, hholds⟩
    exact hsits.sound h
  | reset hrun => exact ⟨hrun.ensures (keeps_ttReset _ _ _ _ h.holds), h.sole⟩
  | devFromBdf hrun => exact ⟨hrun.ensures (keeps_ttDevFromBdf _ _ _ _ _ h.holds), h.sole⟩
  | kmdVersion hrun => exact ⟨hrun.ensures (keeps_ttKmdVersion _ _ _ _ h.holds), h.sole⟩

/-- In every run in which `close(2)` reports no error where the session keeps its number, open
sessions own their descriptors, nothing leaks and nothing is closed twice. -/
theorem careful_run_holds_descriptors (hrun : system.Reaches Careful s) : Owned s := by
  apply Sound.owned
  apply System.Reaches.invariant _ _ hrun
  · exact fun _ hstart ↦ hstart.sound
  · exact fun _ _ _ hinv hcareful hmove ↦ moves_sound hinv hcareful hmove

end Runs

/-! ## A session that is closed twice -/

/-- Nothing but a descriptor of the given owner under number three. -/
def tableWith (owner : Option Owner) : Table :=
  { owner := Function.update (fun _ ↦ none) 3 owner, strays := [] }

/-- The session says it is open. -/
def sampleState (owner : Option Owner) : State :=
  { table := tableWith owner
    sessions := Function.update (fun _ ↦ none) 0 (some sampleSession) }

def emptyState : State := { table := tableWith none, sessions := fun _ ↦ none }

theorem emptyState_starts : Starts emptyState where
  sessions := rfl
  owner fd := by simp [emptyState, tableWith]
  strays := rfl

theorem sampleState_opens : Moves emptyState (.opens 0) (sampleState (some .library)) := by
  have hopened : (tableWith none).opened 3 .library = tableWith (some .library) := by
    simp [Table.opened, tableWith]
  have hanswer : Table.contract.answers (.openFile (devicePath { id := 0 }) (openFlags 0))
      (tableWith none) (.ok 3 (.other 0)) (tableWith (some .library)) :=
    ⟨_, .refl, by simp [tableWith], hopened.symm⟩
  have hrun : Procedure.Executes Table.contract (ttOpen (some { id := 0 }) (some sampleSession) 0)
      Thread.initial (tableWith none) _ (.TT_OK (), some sampleSession) _
      (tableWith (some .library)) :=
    Procedure.executes_bind.mpr ⟨_, [], _, _, _, rfl,
      executes_openSession { id := 0 } (by decide) hanswer, .done⟩
  have hnew : ∀ sess, emptyState.sessions 0 = some sess → sess = sampleSession ∧ sess.fd < 0 := by
    intro sess hsess
    cases hsess
  have hmove := Moves.opens hnew hrun
  exact hmove

/-- `close(2)` releases the descriptor and reports an error. -/
theorem sampleState_closeFails :
    Moves (sampleState (some .library)) (.close 0 [⟨.close 3, .fail Errno.EIO⟩])
      (sampleState none) := by
  have hclosed : (tableWith (some .library)).closed 3 = tableWith none := by
    simp [Table.closed, tableWith]
  have hanswer : Table.contract.answers (.close 3) (tableWith (some .library)) (.fail Errno.EIO)
      (tableWith none) := ⟨_, .refl, hclosed.symm⟩
  have hrun : Procedure.Executes Table.contract (ttClose (some sampleSession)) Thread.initial
      (tableWith (some .library)) [⟨.close 3, .fail Errno.EIO⟩] (.TT_ERR, some sampleSession)
      { Thread.initial with errno := Errno.EIO } (tableWith none) := .call hanswer .done
  have hsession : (sampleState (some .library)).sessions 0 = some sampleSession := rfl
  have hmove := Moves.close hsession hrun
  rw [show Function.update (sampleState (some .library)).sessions 0 (some sampleSession) =
    (sampleState none).sessions from Function.update_idem _ _ _] at hmove
  exact hmove

/-- Another part of the process is given the number. -/
theorem sampleState_foreign :
    Moves (sampleState none) .foreign (sampleState (some .foreign)) := by
  have hopened : (tableWith none).opened 3 .foreign = tableWith (some .foreign) := by
    simp [Table.opened, tableWith]
  have hstep : Table.Foreign (tableWith none) (tableWith (some .foreign)) :=
    hopened ▸ .opens (by decide) (by simp [tableWith])
  exact .foreign hstep

/-- Closing the session again closes the descriptor of the other part of the process. -/
theorem sampleState_closes : ∃ s, Moves (sampleState (some .foreign))
    (.close 0 [⟨.close 3, .ok () (.other 0)⟩]) s ∧ s.table.strays = [3] := by
  have hanswer : Table.contract.answers (.close 3) (tableWith (some .foreign)) (.ok () (.other 0))
      (((tableWith (some .foreign)).closed 3).strayed 3) := ⟨_, .refl, rfl⟩
  have hrun : Procedure.Executes Table.contract (ttClose (some sampleSession)) Thread.initial
      (tableWith (some .foreign)) [⟨.close 3, .ok () (.other 0)⟩]
      (.TT_OK (), some { sampleSession with fd := -1 }) Thread.initial
      (((tableWith (some .foreign)).closed 3).strayed 3) := .call hanswer .done
  have hsession : (sampleState (some .foreign)).sessions 0 = some sampleSession := rfl
  exact ⟨_, .close hsession hrun, rfl⟩

/-- After `close(2)` reported an error, the session says it is open although its descriptor is
gone, and closing it again closes a descriptor the library does not own. -/
theorem closed_session_owned_fails :
    (system.Reachable (sampleState none) ∧ ¬Owned (sampleState none)) ∧
    ∃ s, system.Reachable s ∧ s.table.strays = [3] ∧ ¬Owned s := by
  have hfailed : system.Reachable (sampleState none) :=
    ((System.Reaches.start emptyState_starts).move trivial sampleState_opens).move trivial
      sampleState_closeFails
  refine ⟨⟨hfailed, fun howned ↦ ?_⟩, ?_⟩
  · have howner := howned.opened 0 sampleSession rfl (by decide)
    simp [sampleState, tableWith, sampleSession] at howner
  · obtain ⟨s, hmove, hstrays⟩ := sampleState_closes
    refine ⟨s, (hfailed.move trivial sampleState_foreign).move trivial hmove, hstrays, ?_⟩
    intro howned
    cases hstrays.symm.trans howned.strays

def closedState : State :=
  { table := tableWith none
    sessions := Function.update (fun _ ↦ none) 0 (some { sampleSession with fd := -1 }) }

/-- The device is opened on descriptor three. -/
def reopened : Event Sys := ⟨.openFile (devicePath sampleDevice) (openFlags 0), .ok 3 (.other 0)⟩

theorem reopened_answers : Table.contract.answers reopened.op (tableWith none) reopened.answer
    (tableWith (some .library)) := by
  refine ⟨_, .refl, by simp [tableWith], ?_⟩
  simp [Table.opened, tableWith]

theorem sampleState_closed :
    Moves (sampleState (some .library)) (.close 0 [⟨.close 3, .ok () (.other 0)⟩]) closedState := by
  have hclosed : (tableWith (some .library)).closed 3 = tableWith none := by
    simp [Table.closed, tableWith]
  have hanswer : Table.contract.answers (.close 3) (tableWith (some .library)) (.ok () (.other 0))
      (tableWith none) := ⟨_, .refl, hclosed.symm⟩
  have hrun : Procedure.Executes Table.contract (ttClose (some sampleSession)) Thread.initial
      (tableWith (some .library)) [⟨.close 3, .ok () (.other 0)⟩]
      (.TT_OK (), some { sampleSession with fd := -1 }) Thread.initial (tableWith none) :=
    .call hanswer .done
  have hsession : (sampleState (some .library)).sessions 0 = some sampleSession := rfl
  have hmove := Moves.close hsession hrun
  rw [show Function.update (sampleState (some .library)).sessions 0
    (some { sampleSession with fd := -1 }) = closedState.sessions from
      Function.update_idem _ _ _] at hmove
  exact hmove

/-- A closed session has no descriptor to close. -/
theorem closedState_reopens : Moves closedState (.reopen 0 [reopened]) (sampleState (some .library)) := by
  have hrun : Procedure.Executes Table.contract (ttReopen (some { sampleSession with fd := -1 }))
      Thread.initial (tableWith none) [reopened] (.TT_OK (), some sampleSession)
      { Thread.initial with errno := .other 0 } (tableWith (some .library)) :=
    Procedure.executes_bind.mpr ⟨_, [], _, _, _, rfl,
      Procedure.executes_bind.mpr ⟨[], _, _, _, _, rfl, .done,
        Procedure.executes_bind.mpr ⟨_, [], _, _, _, rfl,
          executes_openSession sampleDevice (by decide) reopened_answers, .done⟩⟩, .done⟩
  have hsession : closedState.sessions 0 = some { sampleSession with fd := -1 } := rfl
  have hmove := Moves.reopen hsession hrun
  rw [show Function.update closedState.sessions 0 (some sampleSession) =
    (sampleState (some .library)).sessions from Function.update_idem _ _ _] at hmove
  exact hmove

/-- A reopen goes on although `close(2)` reports an error. -/
theorem sampleState_reopens : Moves (sampleState (some .library))
    (.reopen 0 [⟨.close 3, .fail Errno.EIO⟩, reopened]) (sampleState (some .library)) := by
  have hclosed : (tableWith (some .library)).closed 3 = tableWith none := by
    simp [Table.closed, tableWith]
  have hanswer : Table.contract.answers (.close 3) (tableWith (some .library)) (.fail Errno.EIO)
      (tableWith none) := ⟨_, .refl, hclosed.symm⟩
  have hclose : Procedure.Executes Table.contract (closeSession sampleSession) Thread.initial
      (tableWith (some .library)) [⟨.close 3, .fail Errno.EIO⟩] (.TT_ERR, sampleSession)
      { Thread.initial with errno := Errno.EIO } (tableWith none) := .call hanswer .done
  have hrun : Procedure.Executes Table.contract (ttReopen (some sampleSession)) Thread.initial
      (tableWith (some .library)) [⟨.close 3, .fail Errno.EIO⟩, reopened]
      (.TT_OK (), some sampleSession) { Thread.initial with errno := .other 0 }
      (tableWith (some .library)) :=
    Procedure.executes_bind.mpr ⟨_, [], _, _, _, rfl,
      Procedure.executes_bind.mpr ⟨_, _, _, _, _, rfl, hclose,
        Procedure.executes_bind.mpr ⟨_, [], _, _, _, rfl,
          executes_openSession sampleDevice (by decide) reopened_answers, .done⟩⟩, .done⟩
  have hsession : (sampleState (some .library)).sessions 0 = some sampleSession := rfl
  have hmove := Moves.reopen hsession hrun
  rw [show Function.update (sampleState (some .library)).sessions 0 (some sampleSession) =
    (sampleState (some .library)).sessions from Function.update_idem _ _ _] at hmove
  exact hmove

/-- A session that was opened, closed, opened again, and opened again although `close(2)` failed,
owns its descriptor. -/
theorem sampleState_owned :
    Moves emptyState (.opens 0) (sampleState (some .library)) ∧
    Moves (sampleState (some .library)) (.close 0 [⟨.close 3, .ok () (.other 0)⟩]) closedState ∧
    Moves closedState (.reopen 0 [reopened]) (sampleState (some .library)) ∧
    Moves (sampleState (some .library)) (.reopen 0 [⟨.close 3, .fail Errno.EIO⟩, reopened])
      (sampleState (some .library)) ∧
    Owned (sampleState (some .library)) := by
  have hopens : Careful emptyState (.opens 0) := trivial
  have hclose : Careful (sampleState (some .library)) (.close 0 [⟨.close 3, .ok () (.other 0)⟩]) := by
    simp [Careful, CloseFails]
  have hreopen : Careful closedState (.reopen 0 [reopened]) := by
    simp [Careful, CloseFails, reopened]
  have hagain : Careful (sampleState (some .library))
      (.reopen 0 [⟨.close 3, .fail Errno.EIO⟩, reopened]) := by
    simp [Careful, Opens, reopened]
  have hreach : system.Reaches Careful (sampleState (some .library)) :=
    (((System.Reaches.start emptyState_starts).move hopens sampleState_opens).move hclose
      sampleState_closed).move hreopen closedState_reopens
  exact ⟨sampleState_opens, sampleState_closed, closedState_reopens, sampleState_reopens,
    careful_run_holds_descriptors (hreach.move hagain sampleState_reopens)⟩

end TtDal.Safety.DescriptorOwnership
