import TtDal.Platform.Trace
import TtDal.Safety.DescriptorOwnership

/-!
# What a reopen leaves behind

A session names its device and its flags from `tt_open` on, through any number of closes, reopens
and resets. A reopen releases the stale descriptor once and ends with a new descriptor or with a
closed session. The one exception is a reopen in which both `close(2)` and `open(2)` fail: it
keeps the number of the descriptor it released.
-/

namespace TtDal.Safety.SessionReopen

open Effect Platform Dev DescriptorOwnership

/-- The sessions `tt_open` filled for a device, whatever was done with them since. -/
inductive Opened {W : Type} (contract : Contract Sys W) (dev : Device) (flags : UInt16) :
    Session → Prop where
  | opened {old : Option Session} {sess : Session} {thread thread' : Thread} {w w' : W}
      {trace : List (Event Sys)} :
      Procedure.Executes contract (ttOpen (some dev) old flags) thread w trace
        (.TT_OK (), some sess) thread' w' →
      Opened contract dev flags sess
  | closed {sess sess' : Session} {thread thread' : Thread} {w w' : W}
      {trace : List (Event Sys)} {status : Status} : Opened contract dev flags sess →
      Procedure.Executes contract (ttClose (some sess)) thread w trace
        (status, some sess') thread' w' →
      Opened contract dev flags sess'
  | reopened {sess sess' : Session} {thread thread' : Thread} {w w' : W}
      {trace : List (Event Sys)} {status : Status} : Opened contract dev flags sess →
      Procedure.Executes contract (ttReopen (some sess)) thread w trace
        (status, some sess') thread' w' →
      Opened contract dev flags sess'
  | reset {rounds : ℕ} {sess sess' : Session} {thread thread' : Thread} {w w' : W}
      {trace : List (Event Sys)} {status : Status} : Opened contract dev flags sess →
      Procedure.Executes contract (ttResetWith rounds (some sess)) thread w trace
        (status, some sess') thread' w' →
      Opened contract dev flags sess'

/-- What a reopen of a session should do. -/
structure Restores (dev : Device) (flags : UInt16) (sess : Session) (trace : List (Event Sys))
    (status : Status) (sess' : Session) : Prop where
  sameDev : sess'.dev = dev
  sameFlags : sess'.flags = flags
  /-- Success ends with the opening of the same device with the same flags. -/
  opened : status = .TT_OK () → ∃ (fd : ℕ) (residue : Errno), sess'.fd = fd ∧
    trace.getLast? = some ⟨.openFile (devicePath dev) (openFlags flags), .ok fd residue⟩
  closed : status = .TT_ERR → sess'.fd = -1
  released : closes trace = if 0 ≤ sess.fd then [sess.fd] else []

/-! ## One session through its life -/

/-- A session of a device: it is open, or its descriptor is the sentinel. -/
structure Names (dev : Device) (flags : UInt16) (sess : Session) : Prop where
  sameDev : sess.dev = dev
  sameFlags : sess.flags = flags
  known : flags &&& ~~~(TT_OPEN_EXCL ||| TT_OPEN_NONBLOCK) = 0
  fd : 0 ≤ sess.fd ∨ sess.fd = -1

section Names

variable {dev : Device} {flags : UInt16} {sess : Session} {thread : Thread}

theorem Names.released (h : Names dev flags sess) : Names dev flags { sess with fd := -1 } where
  sameDev := h.sameDev
  sameFlags := h.sameFlags
  known := h.known
  fd := .inr rfl

theorem wp_ttOpen (old : Option Session) :
    Procedure.wp .anything (ttOpen (some dev) old flags) (fun _ out _ _ ↦
      ∀ sess, out = (.TT_OK (), some sess) → Names dev flags sess) thread () := by
  cases old with
  | none => simp [ttOpen]
  | some old =>
    simp only [ttOpen, openSession_eq, Procedure.wp_bind]
    split
    · simp
    · rename_i hflags
      rw [Procedure.wp_bind, wp_sys]
      refine ⟨trivial, fun reply _ _ ↦ ?_⟩
      cases reply with
      | fail err => simp
      | ok fd residue =>
        intro sess h
        obtain rfl := Option.some.inj (Prod.mk.inj h).2
        exact ⟨rfl, rfl, not_not.mp hflags, .inl (Int.natCast_nonneg fd)⟩

theorem wp_closeSession (h : Names dev flags sess) :
    Procedure.wp .anything (closeSession sess) (fun _ out _ _ ↦ Names dev flags out.2)
      thread () := by
  unfold closeSession
  split
  · exact h
  · rw [Procedure.wp_bind, wp_sys]
    refine ⟨trivial, fun reply _ _ ↦ ?_⟩
    cases reply with
    | ok value residue => exact h.released
    | fail err => exact h

theorem wp_resetWith (h : Names dev flags sess) (rounds : ℕ) :
    Procedure.wp .anything (resetWith rounds sess) (fun _ out _ _ ↦ Names dev flags out.2)
      thread () := by
  unfold resetWith
  split
  · exact h
  · refine Procedure.wp_call (wp_closeSession h) fun _ out _ _ hclosed ↦ ?_
    obtain ⟨status, sess'⟩ := out
    cases status with
    | TT_ERR => exact hclosed.released
    | TT_OK =>
      rw [Procedure.wp_bind]
      exact Procedure.wp_mono (Procedure.wp_anything _ _) fun _ _ _ _ _ ↦ hclosed

/-- The end of a reopen, after the stale descriptor was dealt with. -/
theorem wp_openAgain (h : Names dev flags sess) :
    Procedure.wp .anything (openSession sess.dev sess.flags) (fun trace res _ _ ↦
      ∃ reply, trace = [⟨.openFile (devicePath dev) (openFlags flags), reply⟩] ∧
        match reply with
        | .ok fd _ => res = .TT_OK { dev := dev, fd := fd, flags := flags }
        | .fail _ => res = .TT_ERR) thread () := by
  obtain ⟨rfl, rfl, hknown, -⟩ := h
  rw [openSession_eq, if_neg (not_not.mpr hknown), Procedure.wp_bind, wp_sys]
  refine ⟨trivial, fun reply _ _ ↦ ?_⟩
  cases reply with
  | fail err => exact ⟨_, rfl, rfl⟩
  | ok fd residue => exact ⟨_, rfl, rfl⟩

end Names

/-! ## One reopen -/

section Reopen

variable {dev : Device} {flags : UInt16} {sess sess' : Session} {thread : Thread}
  {trace : List (Event Sys)} {fd : ℕ} {residue err : Errno}

/-- The new descriptor of the device. -/
theorem restores_opened (hreleased : closes trace = if 0 ≤ sess.fd then [sess.fd] else []) :
    Restores dev flags sess
      (trace ++ [⟨.openFile (devicePath dev) (openFlags flags), .ok fd residue⟩])
      (.TT_OK ()) { dev := dev, fd := fd, flags := flags } where
  sameDev := rfl
  sameFlags := rfl
  opened _ := ⟨fd, residue, rfl, List.getLast?_concat⟩
  closed h := nomatch h
  released := by rw [closes_append, closes_openFile, List.append_nil, hreleased]

/-- The session stays closed. -/
theorem restores_closed (h : Names dev flags sess') (hfd : sess'.fd = -1)
    (hreleased : closes trace = if 0 ≤ sess.fd then [sess.fd] else []) :
    Restores dev flags sess
      (trace ++ [⟨.openFile (devicePath dev) (openFlags flags), .fail err⟩]) .TT_ERR sess' where
  sameDev := h.sameDev
  sameFlags := h.sameFlags
  opened hok := nomatch hok
  closed _ := hfd
  released := by rw [closes_append, closes_openFile, List.append_nil, hreleased]

theorem closeFails_append_openFile {path : String} {flags : OpenFlags} {reply : Reply ℕ} :
    CloseFails (trace ++ [⟨.openFile path flags, reply⟩]) ↔ CloseFails trace := by
  simp [CloseFails]

/-- The last step of a reopen, after a close that opened nothing. -/
theorem wp_reopened (h : Names dev flags sess')
    (hreleased : closes trace = if 0 ≤ sess.fd then [sess.fd] else [])
    (hclosed : CloseFails trace ↔ sess'.fd ≠ -1) (hopens : ¬Opens trace) :
    Procedure.wp .anything (do
        match ← openSession sess'.dev sess'.flags with
        | .TT_OK sess => return (.TT_OK (), sess)
        | .TT_ERR => return (.TT_ERR, sess')) (fun rest out _ _ ↦
      Names dev flags out.2 ∧ (Restores dev flags sess (trace ++ rest) out.1 out.2 ↔
        (CloseFails (trace ++ rest) → Opens (trace ++ rest)))) thread () := by
  refine Procedure.wp_call (wp_openAgain h) fun rest res _ _ hopen ↦ ?_
  obtain ⟨reply, rfl, hreply⟩ := hopen
  cases reply with
  | ok fd residue =>
    obtain rfl := hreply
    have hopened : Opens (trace ++ [⟨.openFile (devicePath dev) (openFlags flags), .ok fd residue⟩]) :=
      ⟨_, _, fd, residue, List.mem_append_right _ List.mem_cons_self⟩
    refine ⟨⟨rfl, rfl, h.known, .inl (Int.natCast_nonneg fd)⟩, ?_⟩
    rw [List.append_nil]
    exact iff_of_true (restores_opened hreleased) fun _ ↦ hopened
  | fail err =>
    obtain rfl := hreply
    have hstuck : ¬Opens (trace ++ [⟨.openFile (devicePath dev) (openFlags flags), .fail err⟩]) :=
      not_opens_append hopens (by simp [Opens])
    refine ⟨h, ?_⟩
    rw [List.append_nil, closeFails_append_openFile, hclosed]
    constructor
    · intro hrestores hfd
      exact absurd (hrestores.closed rfl) hfd
    · intro himp
      apply restores_closed h _ hreleased
      by_contra hfd
      exact hstuck (himp hfd)

/-- A reopen keeps to its session, and restores it unless both of its calls failed. -/
theorem wp_reopenSession (h : Names dev flags sess) :
    Procedure.wp .anything (reopenSession sess) (fun trace out _ _ ↦
      Names dev flags out.2 ∧
        (Restores dev flags sess trace out.1 out.2 ↔ (CloseFails trace → Opens trace)))
      thread () := by
  unfold reopenSession closeSession
  rcases h.fd with hfd | hfd
  · rw [if_neg (Int.not_lt.mpr hfd), Procedure.wp_bind, Procedure.wp_bind, wp_sys]
    refine ⟨trivial, fun reply _ _ ↦ ?_⟩
    have hopens : ¬Opens [⟨.close sess.fd, reply⟩] := by simp [Opens]
    have hreleased : closes [⟨.close sess.fd, reply⟩] = if 0 ≤ sess.fd then [sess.fd] else [] := by
      rw [if_pos hfd, closes_close]
    cases reply with
    | ok value residue =>
      have hclosed : CloseFails [⟨.close sess.fd, .ok value residue⟩] ↔ (-1 : ℤ) ≠ -1 := by
        simp [CloseFails]
      exact wp_reopened h.released hreleased hclosed hopens
    | fail err =>
      have hclosed : CloseFails [⟨.close sess.fd, .fail err⟩] ↔ sess.fd ≠ -1 := by
        simp only [CloseFails, List.mem_singleton]
        exact iff_of_true ⟨sess.fd, err, rfl⟩ (by omega)
      exact wp_reopened h hreleased hclosed hopens
  · have hopens : ¬Opens [] := by simp [Opens]
    have hreleased : closes [] = if 0 ≤ sess.fd then [sess.fd] else [] := by
      rw [if_neg (by omega), closes_nil]
    have hclosed : CloseFails [] ↔ sess.fd ≠ -1 := by simp [CloseFails, hfd]
    rw [if_pos (by omega)]
    exact wp_reopened h hreleased hclosed hopens

/-! The entry points check their pointers first. -/

theorem wp_ttClose (h : Names dev flags sess) :
    Procedure.wp .anything (ttClose (some sess)) (fun _ out _ _ ↦
      ∃ sess', out.2 = some sess' ∧ Names dev flags sess') thread () :=
  Procedure.wp_call (wp_closeSession h) fun _ out _ _ hout ↦ ⟨out.2, rfl, hout⟩

theorem wp_ttReopen (h : Names dev flags sess) :
    Procedure.wp .anything (ttReopen (some sess)) (fun trace out _ _ ↦
      ∃ sess', out.2 = some sess' ∧ Names dev flags sess' ∧
        (Restores dev flags sess trace out.1 sess' ↔ (CloseFails trace → Opens trace)))
      thread () := by
  refine Procedure.wp_call (wp_reopenSession h) fun trace out _ _ hout ↦ ⟨out.2, rfl, ?_⟩
  rw [List.append_nil]
  exact hout

theorem wp_ttResetWith (h : Names dev flags sess) (rounds : ℕ) :
    Procedure.wp .anything (ttResetWith rounds (some sess)) (fun _ out _ _ ↦
      ∃ sess', out.2 = some sess' ∧ Names dev flags sess') thread () :=
  Procedure.wp_call (wp_resetWith h rounds) fun _ out _ _ hout ↦ ⟨out.2, rfl, hout⟩

variable {W : Type} {contract : Contract Sys W} {thread' : Thread} {w w' : W} {status : Status}

/-- Whatever was done with a session, it names what `tt_open` was asked for. -/
theorem Opened.names (h : Opened contract dev flags sess) : Names dev flags sess := by
  induction h with
  | opened hrun => exact hrun.always (wp_ttOpen _) _ rfl
  | closed _ hrun ih =>
    obtain ⟨sess', hsess, hnames⟩ := hrun.always (wp_ttClose ih)
    exact Option.some.inj hsess ▸ hnames
  | reopened _ hrun ih =>
    obtain ⟨sess', hsess, hnames, -⟩ := hrun.always (wp_ttReopen ih)
    exact Option.some.inj hsess ▸ hnames
  | reset _ hrun ih =>
    obtain ⟨sess', hsess, hnames⟩ := hrun.always (wp_ttResetWith ih _)
    exact Option.some.inj hsess ▸ hnames

/-- A reopen of any session restores it exactly when not both of its calls failed. -/
theorem reopen_restores_iff (h : Opened contract dev flags sess)
    (hrun : Procedure.Executes contract (ttReopen (some sess)) thread w trace
      (status, some sess') thread' w') :
    Restores dev flags sess trace status sess' ↔ (CloseFails trace → Opens trace) := by
  obtain ⟨sess'', hsess, -, hiff⟩ := hrun.always (wp_ttReopen h.names)
  obtain rfl := Option.some.inj hsess
  exact hiff

end Reopen

/-! ## A reopen in which both calls fail -/

def sampleOpen : Session := { dev := sampleDevice, fd := 3, flags := 0 }

theorem sampleOpen_opened : Opened .anything sampleDevice 0 sampleOpen := by
  have hrun : Procedure.Executes .anything (ttOpen (some sampleDevice) (some sampleOpen) 0)
      Thread.initial () [⟨.openFile (devicePath sampleDevice) (openFlags 0), .ok 3 (.other 0)⟩]
      (.TT_OK (), some sampleOpen) Thread.initial () :=
    Procedure.executes_bind.mpr ⟨_, [], _, _, (), rfl,
      executes_openSession sampleDevice (by decide) trivial, .done⟩
  exact .opened hrun

/-- The descriptor that `close(2)` released is still in the session. -/
theorem reopen_keeps_stale_descriptor :
    ∃ trace thread', Opened .anything sampleDevice 0 sampleOpen ∧
      Procedure.Executes .anything (ttReopen (some sampleOpen)) Thread.initial () trace
        (.TT_ERR, some sampleOpen) thread' () ∧
      ¬Restores sampleDevice 0 sampleOpen trace .TT_ERR sampleOpen := by
  have hrun : Procedure.Executes .anything (ttReopen (some sampleOpen)) Thread.initial ()
      [⟨.close 3, .fail Errno.EIO⟩,
        ⟨.openFile (devicePath sampleDevice) (openFlags 0), .fail .ENOENT⟩]
      (.TT_ERR, some sampleOpen) { Thread.initial with errno := .ENODEV } () := by
    simp only [ttReopen, reopenSession, openSession_eq]
    exact .answered (.answered .done)
  exact ⟨_, _, sampleOpen_opened, hrun, fun h ↦ absurd (h.closed rfl) (by decide)⟩

/-- A severed session that is opened again. -/
theorem sampleOpen_restores :
    ∃ sess' trace, Restores sampleDevice 0 sampleOpen trace (.TT_OK ()) sess' := by
  have hreopen : Procedure.Executes .anything (reopenSession sampleOpen) Thread.initial ()
      [⟨.close 3, .ok () (.other 0)⟩,
        ⟨.openFile (devicePath sampleDevice) (openFlags 0), .ok 3 (.other 0)⟩]
      (.TT_OK (), sampleOpen) Thread.initial () :=
    @executes_reopenSession Unit _ _ () () () _ _ sampleOpen 3 (by decide) (by decide) trivial trivial
  have hrun : Procedure.Executes .anything (ttReopen (some sampleOpen)) Thread.initial ()
      [⟨.close 3, .ok () (.other 0)⟩,
        ⟨.openFile (devicePath sampleDevice) (openFlags 0), .ok 3 (.other 0)⟩]
      (.TT_OK (), some sampleOpen) Thread.initial () :=
    Procedure.executes_bind.mpr ⟨_, [], _, _, (), rfl, hreopen, .done⟩
  refine ⟨_, _, (reopen_restores_iff sampleOpen_opened hrun).mpr fun hfails ↦ ?_⟩
  simp [CloseFails] at hfails

end TtDal.Safety.SessionReopen
