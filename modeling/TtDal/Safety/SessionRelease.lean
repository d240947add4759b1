import TtDal.Dev.Reset
import TtDal.Dev.Tlb
import TtDal.Driver.Hold
import TtDal.Effect.System

/-!
# Whether a session lets go of its device

Closing a session releases its descriptor, and the device is free once no mapping made through the
session is left either. Windows are unmapped through their own handles, which neither a reset nor a
reopen knows. So the two functions report `EAGAIN` while the caller's own window is mapped, and
never when the session is alone with the device and none is.
-/

namespace TtDal.Safety.SessionRelease

open Effect Platform Dev Driver

open Hold (Accounted)

/-- No other client has the device open, and no descriptor but the session's names it. -/
structure Alone (sess : Session) (hold : Hold) : Prop where
  others : hold.others = ∅
  own : ∀ fd description, hold.descriptors fd = some description → 0 ≤ sess.fd ∧ fd = sess.fd

/-- The session has the device for itself, and no mapping is live. -/
structure Lone (sess : Session) (hold : Hold) : Prop extends Alone sess hold where
  unmapped : ∀ start, hold.mappings start = none

section Lone

variable {sess : Session} {hold : Hold}

/-- Nothing is open any more once the session is closed. -/
theorem Lone.not_open (h : Lone sess hold) {hold' : Hold}
    (hclosed : hold' = hold.closed sess.fd ∨ sess.fd < 0 ∧ hold' = hold) (description : ℕ) :
    ¬hold'.Open description := by
  have hmappings : hold'.mappings = hold.mappings := by
    rcases hclosed with rfl | ⟨-, rfl⟩ <;> rfl
  have hothers : hold'.others = hold.others := by
    rcases hclosed with rfl | ⟨-, rfl⟩ <;> rfl
  rintro (⟨fd, hfd⟩ | ⟨start, hstart⟩ | hother)
  · rcases hclosed with rfl | ⟨hnegative, rfl⟩
    · by_cases heq : fd = sess.fd
      · simp [Hold.closed, heq] at hfd
      · simp only [Hold.closed, Function.update_of_ne heq] at hfd
        exact heq (h.own fd description hfd).2
    · exact absurd (h.own fd description hfd).1 (Int.not_le.mpr hnegative)
  · rw [hmappings, h.unmapped] at hstart
    cases hstart
  · rw [hothers, h.others] at hother
    exact hother

end Lone

/-! ## Functions on the session -/

section Sessions

variable {dev : Device} {hold : Hold} {starts : Set ℕ} {thread : Thread} {sess : Session}
  {fd : ℤ} {err : Errno}

/-- The live mappings are accounted for, and a failure does not blame another client. -/
abbrev Blameless (starts : Set ℕ) : Procedure.Post Sys Status Thread Hold :=
  fun _ status thread' hold' ↦
    hold'.Accounted starts ∧ (status = .TT_ERR → thread'.errno ≠ .EAGAIN)

theorem normalise_ne_EAGAIN (h : err ≠ .EAGAIN) : normalise err ≠ .EAGAIN :=
  mt normalise_eq_EAGAIN.mp h

theorem ne_of_reply {α : Type} {reply : Reply α} (h : reply ≠ .fail .EAGAIN)
    (hreply : reply = .fail err) : err ≠ .EAGAIN := by
  intro herr
  rw [herr] at hreply
  exact h hreply

theorem wp_openSession (h : hold.Accounted starts) (flags : UInt16) :
    Procedure.wp (Hold.contract dev) (openSession dev flags)
      (fun _ res thread' hold' ↦ hold'.Accounted starts ∧
        (∀ sess, res = .TT_OK sess → sess.dev = dev) ∧
        (hold.Admits (openFlags flags) → res = .TT_ERR → thread'.errno ≠ .EAGAIN))
      thread hold := by
  rw [openSession_eq]
  split
  · exact ⟨h, nofun, fun _ _ ↦ nofun⟩
  · rw [Procedure.wp_bind]
    refine Hold.wp_quiet h (by trivial) fun reply hold' hanswer h' ↦ ?_
    cases reply with
    | ok fd residue =>
      refine ⟨h', fun sess hsess ↦ ?_, fun _ ↦ nofun⟩
      obtain rfl := (Result.TT_OK.inj hsess).symm
      rfl
    | fail err =>
      obtain ⟨hagain, rfl⟩ := (if_pos rfl).mp hanswer
      refine ⟨h', nofun, fun hadmits _ ↦ ?_⟩
      have herr : err ≠ .EAGAIN := fun heq ↦ hagain heq hadmits
      change (if err = .EAGAIN then Errno.EAGAIN else .ENODEV) ≠ .EAGAIN
      rw [if_neg herr]
      exact nofun

theorem wp_closeSession (h : hold.Accounted starts) :
    Procedure.wp (Hold.contract dev) (closeSession sess)
      (fun _ out thread' hold' ↦ hold'.Accounted starts ∧ out.2.dev = sess.dev ∧
        out.2.flags = sess.flags ∧ (hold' = hold.closed sess.fd ∨ sess.fd < 0 ∧ hold' = hold) ∧
        (out.1 = .TT_ERR → thread'.errno ≠ .EAGAIN)) thread hold := by
  unfold closeSession
  split
  · rename_i hfd
    exact ⟨h, rfl, rfl, .inr ⟨hfd, rfl⟩, nofun⟩
  · rw [Procedure.wp_bind]
    refine Hold.wp_quiet h (by trivial) fun reply hold' hanswer h' ↦ ?_
    obtain ⟨hagain, rfl⟩ := hanswer
    cases reply with
    | ok value residue => exact ⟨h', rfl, rfl, .inl rfl, nofun⟩
    | fail err => exact ⟨h', rfl, rfl, .inl rfl, fun _ ↦ ne_of_reply hagain rfl⟩

theorem wp_reopenSession (h : hold.Accounted starts) (hdev : sess.dev = dev) :
    Procedure.wp (Hold.contract dev) (reopenSession sess)
      (fun _ out thread' hold' ↦ hold'.Accounted starts ∧ out.2.dev = dev ∧
        (Lone sess hold → out.1 = .TT_ERR → thread'.errno ≠ .EAGAIN)) thread hold := by
  refine Procedure.wp_call (wp_closeSession h) fun _ out _ middle hclose ↦ ?_
  obtain ⟨status, closed⟩ := out
  obtain ⟨hmiddle, hsame, -, hclosed, -⟩ := hclose
  have hdevice : closed.dev = dev := hsame.trans hdev
  dsimp only
  rw [hdevice]
  refine Procedure.wp_call (wp_openSession hmiddle closed.flags) fun _ res _ hold' hopen ↦ ?_
  obtain ⟨h', hopened, hunblamed⟩ := hopen
  cases res with
  | TT_OK sess' => exact ⟨h', hopened sess' rfl, fun _ ↦ nofun⟩
  | TT_ERR =>
    refine ⟨h', hdevice, fun hlone _ ↦ hunblamed ?_ rfl⟩
    exact fun description hopen ↦ absurd hopen (hlone.not_open hclosed description)

/-! ### The reset -/

theorem wp_devInfo (h : hold.Accounted starts) :
    Procedure.wp (Hold.contract dev) (devInfo sess)
      (fun _ res thread' hold' ↦ hold'.Accounted starts ∧
        (res = .TT_ERR → thread'.errno ≠ .EAGAIN)) thread hold := by
  unfold devInfo
  split
  · exact ⟨h, fun _ ↦ nofun⟩
  · rw [Procedure.wp_bind]
    refine Hold.wp_quiet h (by trivial) fun reply hold' hanswer h' ↦ ?_
    cases reply with
    | ok info residue => exact ⟨h', nofun⟩
    | fail err => exact ⟨h', fun _ ↦ normalise_ne_EAGAIN (ne_of_reply hanswer.1 rfl)⟩

theorem keeps_markerClear (sysfs : String) :
    Procedure.Keeps (Hold.contract dev) (Accounted starts) (markerClear sysfs) := by
  refine (Hold.keeps_quiet (by trivial)).bind fun reply ↦ ?_
  cases reply with
  | fail err => exact Procedure.keeps_pure _
  | ok cfd residue =>
    refine (Hold.keeps_quiet (by trivial)).bind fun reply ↦ ?_
    refine (Hold.keeps_quiet (by trivial)).bind fun _ ↦ ?_
    split
    · exact Procedure.keeps_pure _
    · exact Procedure.keeps_pure _

theorem keeps_waits {op : Syscall} (hop : Waits op) :
    Procedure.Keeps (Hold.contract dev) (Accounted starts) (sys op) := by
  apply Hold.keeps_quiet
  cases op with
  | mmap | munmap => exact hop.elim
  | _ => exact trivial

theorem wp_failClosed (h : hold.Accounted starts) (herr : err ≠ .EAGAIN) :
    Procedure.wp (Hold.contract dev) (failClosed fd err) (Blameless starts) thread hold := by
  rw [failClosed, Procedure.wp_bind]
  exact Hold.wp_quiet h (by trivial) fun reply hold' _ h' ↦ ⟨h', fun _ ↦ herr⟩

theorem wp_finishReset (h : hold.Accounted starts) :
    Procedure.wp (Hold.contract dev) (finishReset fd) (Blameless starts) thread hold := by
  rw [finishReset, Procedure.wp_bind]
  refine Hold.wp_quiet h (by trivial) fun reply middle hanswer hmiddle ↦ ?_
  cases reply with
  | fail err => exact wp_failClosed hmiddle (normalise_ne_EAGAIN (ne_of_reply hanswer.1 rfl))
  | ok result residue =>
    dsimp only
    split
    · exact wp_failClosed hmiddle nofun
    · rw [Procedure.wp_bind]
      refine Hold.wp_quiet hmiddle (by trivial) fun closed hold' hclose h' ↦ ?_
      cases closed with
      | ok value residue => exact ⟨h', nofun⟩
      | fail err => exact ⟨h', fun _ ↦ ne_of_reply hclose.1 rfl⟩

/-- Once the device is held exclusively, no failure blames another client. -/
theorem wp_resetExclusive (h : hold.Accounted starts) (rounds : ℕ) :
    Procedure.wp (Hold.contract dev) (resetExclusive rounds sess) (Blameless starts)
      thread hold := by
  refine Procedure.wp_call (wp_devInfo h) fun _ res informed middle hinfo ↦ ?_
  obtain ⟨hmiddle, herrno⟩ := hinfo
  cases res with
  | TT_ERR =>
    rw [Procedure.wp_bind, wp_getErrno]
    exact wp_failClosed hmiddle (herrno rfl)
  | TT_OK info =>
    dsimp only
    rw [Procedure.wp_bind]
    refine Hold.wp_quiet hmiddle (by trivial) fun reply reset hanswer hreset ↦ ?_
    cases reply with
    | fail err => exact wp_failClosed hreset (normalise_ne_EAGAIN (ne_of_reply hanswer.1 rfl))
    | ok result residue =>
      dsimp only
      split
      · exact wp_failClosed hreset nofun
      · refine Procedure.Keeps.wp_call (Hold.keeps_quiet (by trivial)) hreset ?_
        intro _ start _ _ hstart
        refine (keeps_awaitReset (fun _ ↦ keeps_waits) (keeps_markerClear _) trivial start rounds
          false).wp_call hstart fun _ complete _ _ hwait ↦ ?_
        split
        · refine (keeps_awaitFirmware (fun _ ↦ keeps_waits) trivial rounds _).wp_call hwait
            fun _ _ _ _ hdelay ↦ ?_
          exact wp_finishReset hdelay
        · exact wp_failClosed hwait nofun

theorem wp_resetDevice (h : hold.Accounted starts) (rounds : ℕ) :
    Procedure.wp (Hold.contract dev) (resetDevice rounds dev)
      (fun _ status thread' hold' ↦ hold'.Accounted starts ∧
        ((∀ description, ¬hold.Open description) → status = .TT_ERR → thread'.errno ≠ .EAGAIN))
      thread hold := by
  refine Procedure.wp_call (wp_openSession h _) fun _ res _ middle hopen ↦ ?_
  obtain ⟨hmiddle, -, hunblamed⟩ := hopen
  cases res with
  | TT_ERR =>
    refine ⟨hmiddle, fun hfree _ ↦ hunblamed ?_ rfl⟩
    exact fun description hopen ↦ absurd hopen (hfree description)
  | TT_OK sess =>
    refine Procedure.wp_mono (wp_resetExclusive hmiddle rounds) fun _ _ _ _ hreset ↦ ?_
    exact ⟨hreset.1, fun _ ↦ hreset.2⟩

theorem wp_resetWith (h : hold.Accounted starts) (hdev : sess.dev = dev) (rounds : ℕ) :
    Procedure.wp (Hold.contract dev) (resetWith rounds sess)
      (fun _ out thread' hold' ↦ hold'.Accounted starts ∧ out.2.dev = dev ∧
        (Lone sess hold → out.1 = .TT_ERR → thread'.errno ≠ .EAGAIN)) thread hold := by
  unfold resetWith
  split
  · exact ⟨h, hdev, fun _ _ ↦ nofun⟩
  · refine Procedure.wp_call (wp_closeSession h) fun _ out _ middle hclose ↦ ?_
    obtain ⟨status, closed⟩ := out
    obtain ⟨hmiddle, hsame, -, hclosed, herrno⟩ := hclose
    have hdevice : closed.dev = dev := hsame.trans hdev
    cases status with
    | TT_ERR => exact ⟨hmiddle, hdevice, fun _ ↦ herrno⟩
    | TT_OK =>
      dsimp only
      rw [hdevice]
      refine Procedure.wp_call (wp_resetDevice hmiddle rounds) fun _ _ _ _ hreset ↦ ?_
      exact ⟨hreset.1, hdevice, fun hlone ↦ hreset.2 (hlone.not_open hclosed)⟩

end Sessions

/-! ## Functions on windows -/

section Windows

variable {dev : Device} {hold : Hold} {starts : Set ℕ} {thread : Thread} {sess : Session} {tlb : Tlb}

/-- What the handle points at is accounted for, whatever was mapped before. -/
abbrev Points (starts : Set ℕ) (tlb : Tlb) (hold : Hold) : Prop :=
  hold.Accounted (insert tlb.ptr starts)

theorem points_of_accounted (h : hold.Accounted starts) : Points starts tlb hold :=
  h.mono (Set.subset_insert tlb.ptr starts)

theorem wp_tlbUnconfigure (h : Points starts tlb hold) :
    Procedure.wp (Hold.contract dev) (tlbUnconfigure tlb)
      (fun _ out _ hold' ↦ Points starts out.2 hold') thread hold := by
  simp only [tlbUnconfigure, Procedure.wp_bind, wp_getErrno]
  split
  · refine Procedure.wp_call (Hold.wp_munmap tlb.len h) fun _ _ _ hold' h' ↦ ?_
    exact points_of_accounted h'
  · exact h

theorem wp_tlbBind (h : Points starts tlb hold) (cfg : TlbConfig) :
    Procedure.wp (Hold.contract dev) (tlbBind sess tlb cfg)
      (fun _ out _ hold' ↦ Points starts out.2 hold') thread hold := by
  unfold tlbBind
  split
  · exact h
  · rw [Procedure.wp_bind, wp_sys]
    refine ⟨trivial, fun reply mapped hanswer ↦ ?_⟩
    cases reply with
    | fail err =>
      obtain rfl := hanswer
      exact wp_tlbUnconfigure h
    | ok start residue =>
      obtain ⟨hstart, -, description, -, rfl⟩ := hanswer
      have hmapped := h.mapped hstart description
      rw [Procedure.wp_bind]
      refine Hold.wp_quiet hmapped (by trivial) fun reply configured _ hconfigured ↦ ?_
      cases reply with
      | fail err =>
        refine Procedure.wp_call (Hold.wp_munmap tlb.len hconfigured) fun _ _ _ hold' h' ↦ ?_
        exact wp_tlbUnconfigure h'
      | ok value residue' =>
        rw [Set.insert_comm] at hconfigured
        dsimp only
        split
        · exact Procedure.wp_call (Hold.wp_munmap tlb.len hconfigured) fun _ _ _ hold' h' ↦ h'
        · rename_i hptr
          rw [not_not.mp hptr] at hconfigured
          exact hconfigured.of_null

theorem wp_tlbFree (h : Points starts tlb hold) :
    Procedure.wp (Hold.contract dev) (tlbFree sess tlb)
      (fun _ out _ hold' ↦ Points starts out.2 hold') thread hold := by
  by_cases hptr : tlb.ptr = NULL
  · rw [Points, hptr] at h
    have hkeeps : Procedure.Keeps (Hold.contract dev) (Accounted starts) (tlbFree sess tlb) :=
      keeps_tlbFree (absurd hptr) (Hold.keeps_quiet trivial)
    refine Procedure.wp_mono (hkeeps thread hold h.of_null) fun _ _ _ _ h' ↦ ?_
    exact points_of_accounted h'
  · rw [tlbFree, if_pos hptr]
    refine Procedure.wp_call (Hold.wp_munmap tlb.len h) fun _ reply unmapped middle hmiddle ↦ ?_
    cases reply with
    | fail err => exact points_of_accounted hmiddle
    | ok value residue =>
      have hkeeps : Procedure.Keeps (Hold.contract dev) (Accounted starts)
          (tlbRelease sess { tlb with ptr := NULL }) := keeps_tlbRelease (Hold.keeps_quiet trivial)
      refine Procedure.wp_mono (hkeeps unmapped middle hmiddle) fun _ _ _ _ h' ↦ ?_
      exact points_of_accounted h'

end Windows

/-! ## Runs -/

structure State where
  hold : Hold
  thread : Thread
  sess : Session
  handles : ℕ → Option Tlb

inductive Label where
  | opens (flags : UInt16)
  | closes
  | reopens
  | resets
  | alloc (name : ℕ)
  | bind (name : ℕ)
  | free (name : ℕ)
  | elsewhere
  deriving DecidableEq

def State.put (s : State) (name : ℕ) (tlb : Tlb) : ℕ → Option Tlb :=
  Function.update s.handles name (some tlb)

/-- One session of the device and any number of window handles, used in any order. Another client
may open and close the device between the calls. A handle is allocated into an object that is new
or points at nothing. -/
inductive Moves (dev : Device) : State → Label → State → Prop where
  | opens {s : State} {flags : UInt16} {trace : List (Event Sys)} {status : Status}
      {sess : Session} {thread : Thread} {hold : Hold} :
      Procedure.Executes (Hold.contract dev) (ttOpen (some dev) (some s.sess) flags) s.thread s.hold
        trace (status, some sess) thread hold →
      Moves dev s (.opens flags) { s with hold := hold, thread := thread, sess := sess }
  | closes {s : State} {trace : List (Event Sys)} {status : Status} {sess : Session}
      {thread : Thread} {hold : Hold} :
      Procedure.Executes (Hold.contract dev) (ttClose (some s.sess)) s.thread s.hold trace
        (status, some sess) thread hold →
      Moves dev s .closes { s with hold := hold, thread := thread, sess := sess }
  | reopens {s : State} {trace : List (Event Sys)} {status : Status} {sess : Session}
      {thread : Thread} {hold : Hold} :
      Procedure.Executes (Hold.contract dev) (ttReopen (some s.sess)) s.thread s.hold trace
        (status, some sess) thread hold →
      Moves dev s .reopens { s with hold := hold, thread := thread, sess := sess }
  | resets {s : State} {rounds : ℕ} {trace : List (Event Sys)} {status : Status}
      {sess : Session} {thread : Thread} {hold : Hold} :
      Procedure.Executes (Hold.contract dev) (ttResetWith rounds (some s.sess)) s.thread s.hold
        trace (status, some sess) thread hold →
      Moves dev s .resets { s with hold := hold, thread := thread, sess := sess }
  | alloc {s : State} {name size mode : ℕ} {old tlb : Tlb} {trace : List (Event Sys)}
      {thread : Thread} {hold : Hold} :
      (∀ tlb, s.handles name = some tlb → tlb.ptr = NULL) →
      Procedure.Executes (Hold.contract dev) (ttTlbAlloc (some s.sess) size mode (some old))
        s.thread s.hold trace (.TT_OK (), some tlb) thread hold →
      Moves dev s (.alloc name)
        { s with hold := hold, thread := thread, handles := s.put name tlb }
  | allocFailed {s : State} {name size mode : ℕ} {old tlb : Tlb} {trace : List (Event Sys)}
      {thread : Thread} {hold : Hold} :
      Procedure.Executes (Hold.contract dev) (ttTlbAlloc (some s.sess) size mode (some old))
        s.thread s.hold trace (.TT_ERR, some tlb) thread hold →
      Moves dev s (.alloc name) { s with hold := hold, thread := thread }
  | bind {s : State} {name : ℕ} {tlb tlb' : Tlb} {cfg : Option TlbConfig}
      {trace : List (Event Sys)} {status : Status} {thread : Thread} {hold : Hold} :
      s.handles name = some tlb →
      Procedure.Executes (Hold.contract dev) (ttTlbBind (some s.sess) (some tlb) cfg) s.thread
        s.hold trace (status, some tlb') thread hold →
      Moves dev s (.bind name)
        { s with hold := hold, thread := thread, handles := s.put name tlb' }
  | free {s : State} {name : ℕ} {tlb tlb' : Tlb} {trace : List (Event Sys)} {status : Status}
      {thread : Thread} {hold : Hold} : s.handles name = some tlb →
      Procedure.Executes (Hold.contract dev) (ttTlbFree (some s.sess) (some tlb)) s.thread s.hold
        trace (status, some tlb') thread hold →
      Moves dev s (.free name)
        { s with hold := hold, thread := thread, handles := s.put name tlb' }
  | elsewhere {s : State} {hold : Hold} : Hold.Elsewhere s.hold hold →
      Moves dev s .elsewhere { s with hold := hold }

/-- The process has neither opened nor mapped the device yet. -/
structure Starts (dev : Device) (s : State) : Prop where
  sess : s.sess.dev = dev
  descriptors : s.hold.descriptors = fun _ ↦ none
  mappings : s.hold.mappings = fun _ ↦ none
  handles : s.handles = fun _ ↦ none

def system (dev : Device) : System State Label where
  starts := Starts dev
  moves := Moves dev

/-- Neither a reset nor a reopen of the session reports that another client holds the device. -/
structure Unblamed (dev : Device) (s : State) : Prop where
  resets : ∀ rounds trace sess thread hold,
    Procedure.Executes (Hold.contract dev) (ttResetWith rounds (some s.sess)) s.thread s.hold trace
      (.TT_ERR, sess) thread hold → thread.errno ≠ .EAGAIN
  reopens : s.sess.flags = TT_OPEN_EXCL ||| TT_OPEN_NONBLOCK → ∀ trace sess thread hold,
    Procedure.Executes (Hold.contract dev) (ttReopen (some s.sess)) s.thread s.hold trace
      (.TT_ERR, sess) thread hold → thread.errno ≠ .EAGAIN

/-- The places the handles point at. -/
def places (handles : ℕ → Option Tlb) : Set ℕ :=
  { start | ∃ name tlb, handles name = some tlb ∧ tlb.ptr = start }

/-- The session names its device, and every live mapping belongs to a handle. -/
structure Sound (dev : Device) (s : State) : Prop where
  dev : s.sess.dev = dev
  mappings : s.hold.Accounted (places s.handles)

section Runs

variable {dev : Device} {s s' : State} {label : Label} {name : ℕ} {tlb tlb' : Tlb}
  {hold : Hold} {thread : Thread} {sess : Session} {starts : Set ℕ}

/-! ### Entry points -/

theorem wp_ttOpen (h : hold.Accounted starts) (hdev : sess.dev = dev) (flags : UInt16) :
    Procedure.wp (Hold.contract dev) (ttOpen (some dev) (some sess) flags)
      (fun _ out _ hold' ↦ hold'.Accounted starts ∧ ∀ sess', out.2 = some sess' → sess'.dev = dev)
      thread hold := by
  refine Procedure.wp_call (wp_openSession h flags) fun _ res _ hold' hopen ↦ ?_
  obtain ⟨h', hopened, -⟩ := hopen
  cases res with
  | TT_OK opened => exact ⟨h', fun sess' hsess ↦ Option.some.inj hsess ▸ hopened opened rfl⟩
  | TT_ERR => exact ⟨h', fun sess' hsess ↦ Option.some.inj hsess ▸ hdev⟩

theorem wp_ttClose (h : hold.Accounted starts) (hdev : sess.dev = dev) :
    Procedure.wp (Hold.contract dev) (ttClose (some sess))
      (fun _ out _ hold' ↦ hold'.Accounted starts ∧ ∀ sess', out.2 = some sess' → sess'.dev = dev)
      thread hold := by
  refine Procedure.wp_call (wp_closeSession h) fun _ out _ hold' hclose ↦ ?_
  exact ⟨hclose.1, fun sess' hsess ↦ Option.some.inj hsess ▸ hclose.2.1.trans hdev⟩

theorem wp_ttReopen (h : hold.Accounted starts) (hdev : sess.dev = dev) :
    Procedure.wp (Hold.contract dev) (ttReopen (some sess))
      (fun _ out thread' hold' ↦ hold'.Accounted starts ∧
        (∀ sess', out.2 = some sess' → sess'.dev = dev) ∧
        (Lone sess hold → out.1 = .TT_ERR → thread'.errno ≠ .EAGAIN)) thread hold := by
  refine Procedure.wp_call (wp_reopenSession h hdev) fun _ out _ hold' hreopen ↦ ?_
  obtain ⟨h', hdevice, hunblamed⟩ := hreopen
  exact ⟨h', fun sess' hsess ↦ Option.some.inj hsess ▸ hdevice, hunblamed⟩

theorem wp_ttResetWith (h : hold.Accounted starts) (hdev : sess.dev = dev) (rounds : ℕ) :
    Procedure.wp (Hold.contract dev) (ttResetWith rounds (some sess))
      (fun _ out thread' hold' ↦ hold'.Accounted starts ∧
        (∀ sess', out.2 = some sess' → sess'.dev = dev) ∧
        (Lone sess hold → out.1 = .TT_ERR → thread'.errno ≠ .EAGAIN)) thread hold := by
  refine Procedure.wp_call (wp_resetWith h hdev rounds) fun _ out _ hold' hreset ↦ ?_
  obtain ⟨h', hdevice, hunblamed⟩ := hreset
  exact ⟨h', fun sess' hsess ↦ Option.some.inj hsess ▸ hdevice, hunblamed⟩

theorem keeps_ttTlbAlloc (size mode : ℕ) : Procedure.Keeps (Hold.contract dev) (Accounted starts)
    (ttTlbAlloc (some sess) size mode (some tlb)) :=
  (keeps_tlbAlloc mode (Hold.keeps_quiet trivial) fun _ ↦ Hold.keeps_quiet trivial).bind
    fun _ ↦ Procedure.keeps_pure _

theorem wp_ttTlbBind (h : Points starts tlb hold) (cfg : Option TlbConfig) :
    Procedure.wp (Hold.contract dev) (ttTlbBind (some sess) (some tlb) cfg)
      (fun _ out _ hold' ↦ ∀ tlb', out.2 = some tlb' → Points starts tlb' hold') thread hold := by
  cases cfg with
  | none => exact fun tlb' htlb ↦ Option.some.inj htlb ▸ h
  | some cfg =>
    refine Procedure.wp_call (wp_tlbBind h cfg) fun _ out _ hold' h' ↦ ?_
    exact fun tlb' htlb ↦ Option.some.inj htlb ▸ h'

theorem wp_ttTlbFree (h : Points starts tlb hold) :
    Procedure.wp (Hold.contract dev) (ttTlbFree (some sess) (some tlb))
      (fun _ out _ hold' ↦ ∀ tlb', out.2 = some tlb' → Points starts tlb' hold') thread hold := by
  refine Procedure.wp_call (wp_tlbFree h) fun _ out _ hold' h' ↦ ?_
  exact fun tlb' htlb ↦ Option.some.inj htlb ▸ h'

/-! ### The invariant -/

/-- The places of the other handles. -/
def placesBut (handles : ℕ → Option Tlb) (name : ℕ) : Set ℕ :=
  places (Function.update handles name none)

theorem places_subset (hhandle : s.handles name = some tlb) :
    places s.handles ⊆ insert tlb.ptr (placesBut s.handles name) := by
  rintro start ⟨other, tlb', hother, rfl⟩
  by_cases heq : other = name
  · subst heq
    obtain rfl := Option.some.inj (hhandle.symm.trans hother)
    exact Set.mem_insert _ _
  · exact Set.mem_insert_of_mem _ ⟨other, tlb', (Function.update_of_ne heq _ _).trans hother, rfl⟩

theorem subset_places (tlb : Tlb) :
    insert tlb.ptr (placesBut s.handles name) ⊆ places (s.put name tlb) := by
  apply Set.insert_subset
  · exact ⟨name, tlb, Function.update_self _ _ _, rfl⟩
  · rintro start ⟨other, tlb', hother, rfl⟩
    by_cases heq : other = name
    · simp [heq] at hother
    · rw [Function.update_of_ne heq] at hother
      exact ⟨other, tlb', (Function.update_of_ne heq _ _).trans hother, rfl⟩

/-- The handle a function worked on. -/
theorem Sound.points (h : Sound dev s) (hhandle : s.handles name = some tlb) :
    Points (placesBut s.handles name) tlb s.hold :=
  h.mappings.mono (places_subset hhandle)

/-- A name without a mapping may be given to a new handle. -/
theorem Sound.unused (h : Sound dev s) (hnull : ∀ tlb, s.handles name = some tlb → tlb.ptr = NULL) :
    s.hold.Accounted (placesBut s.handles name) := by
  apply Accounted.of_null
  apply h.mappings.mono
  rintro start ⟨other, tlb', hother, rfl⟩
  by_cases heq : other = name
  · subst heq
    rw [hnull tlb' hother]
    exact Set.mem_insert _ _
  · exact Set.mem_insert_of_mem _ ⟨other, tlb', (Function.update_of_ne heq _ _).trans hother, rfl⟩

theorem Starts.sound (h : Starts dev s) : Sound dev s where
  dev := h.sess
  mappings start hlive := by
    rw [h.mappings] at hlive
    exact absurd rfl hlive

theorem moves_sound (h : Sound dev s) (hmove : Moves dev s label s') : Sound dev s' := by
  cases hmove with
  | opens hrun =>
    obtain ⟨hkept, hdevice⟩ := hrun.ensures (wp_ttOpen h.mappings h.dev _)
    exact ⟨hdevice _ rfl, hkept⟩
  | closes hrun =>
    obtain ⟨hkept, hdevice⟩ := hrun.ensures (wp_ttClose h.mappings h.dev)
    exact ⟨hdevice _ rfl, hkept⟩
  | reopens hrun =>
    obtain ⟨hkept, hdevice, -⟩ := hrun.ensures (wp_ttReopen h.mappings h.dev)
    exact ⟨hdevice _ rfl, hkept⟩
  | resets hrun =>
    obtain ⟨hkept, hdevice, -⟩ := hrun.ensures (wp_ttResetWith h.mappings h.dev _)
    exact ⟨hdevice _ rfl, hkept⟩
  | @alloc name size mode old tlb trace thread hold hnull hrun =>
    have hkept := hrun.ensures (keeps_ttTlbAlloc size mode _ _ (h.unused hnull))
    exact ⟨h.dev, (points_of_accounted hkept).mono (subset_places tlb)⟩
  | @allocFailed name size mode old tlb trace thread hold hrun =>
    exact ⟨h.dev, hrun.ensures (keeps_ttTlbAlloc size mode _ _ h.mappings)⟩
  | @bind name tlb tlb' cfg trace status thread hold hhandle hrun =>
    have hpoints := hrun.ensures (wp_ttTlbBind (h.points hhandle) cfg) tlb' rfl
    exact ⟨h.dev, hpoints.mono (subset_places tlb')⟩
  | @free name tlb tlb' trace status thread hold hhandle hrun =>
    have hpoints := hrun.ensures (wp_ttTlbFree (h.points hhandle)) tlb' rfl
    exact ⟨h.dev, hpoints.mono (subset_places tlb')⟩
  | elsewhere hstep =>
    cases hstep with
    | opens => exact ⟨h.dev, h.mappings.congr rfl rfl⟩
    | closes => exact ⟨h.dev, h.mappings.congr rfl rfl⟩

/-- In every run, a session that is alone with its device and through which nothing is mapped is
not reported as another client. Nothing is mapped once every handle points at nothing, unless an
unmapping was refused. -/
theorem released_session_unblamed (dev : Device) (hreach : (system dev).Reachable s)
    (halone : Alone s.sess s.hold) :
    ((∀ start, s.hold.mappings start = none) → Unblamed dev s) ∧
      ((∀ name tlb, s.handles name = some tlb → tlb.ptr = NULL) → s.hold.stuck = [] →
        ∀ start, s.hold.mappings start = none) := by
  have hsound : Sound dev s := by
    apply System.Reaches.invariant _ _ hreach
    · exact fun _ hstart ↦ hstart.sound
    · exact fun _ _ _ hinv _ hmove ↦ moves_sound hinv hmove
  constructor
  · intro hunmapped
    have hlone : Lone s.sess s.hold := ⟨halone, hunmapped⟩
    constructor
    · intro rounds trace sess thread hold hrun
      exact (hrun.ensures (wp_ttResetWith hsound.mappings hsound.dev rounds)).2.2 hlone rfl
    · intro _ trace sess thread hold hrun
      exact (hrun.ensures (wp_ttReopen hsound.mappings hsound.dev)).2.2 hlone rfl
  · intro hnull hstuck start
    by_contra hlive
    obtain ⟨hstart, hplace⟩ := hsound.mappings start hlive
    rcases hplace with ⟨name, tlb, hhandle, rfl⟩ | hmem
    · exact hstart (hnull name tlb hhandle)
    · rw [hstuck] at hmem
      cases hmem

end Runs

/-! ## A session that holds its device through a window -/

/-- The flags of an exclusive session that does not wait. -/
def sampleFlags : UInt16 := TT_OPEN_EXCL ||| TT_OPEN_NONBLOCK

def closedState : State where
  hold :=
    { descriptors := fun _ ↦ none
      mappings := fun _ ↦ none
      others := ∅
      exclusive := ∅
      stuck := [] }
  thread := Thread.initial
  sess := { dev := sampleDevice, fd := -1, flags := 0 }
  handles := fun _ ↦ none

/-- The session is open on descriptor three. -/
def openState : State :=
  { closedState with
    hold := closedState.hold.opened 3 0 true
    sess := { dev := sampleDevice, fd := 3, flags := sampleFlags } }

def allocatedState : State :=
  { openState with handles := openState.put 0 sampleTlb }

/-- The window is mapped at an address. -/
def boundState : State :=
  { allocatedState with
    hold := openState.hold.mapped 4096 0
    handles := allocatedState.put 0 { sampleTlb with ptr := 4096 } }

def freedState : State :=
  { boundState with
    hold := boundState.hold.unmapped 4096
    handles := boundState.put 0 { sampleTlb with id := 0 } }

theorem openState_moves : Moves sampleDevice closedState (.opens sampleFlags) openState := by
  have hadmits : closedState.hold.Admits (openFlags sampleFlags) := by
    rintro description (⟨fd, hfd⟩ | ⟨start, hstart⟩ | hother)
    · cases hfd
    · cases hstart
    · exact hother.elim
  have hfresh : ¬closedState.hold.Open 0 := by
    rintro (⟨fd, hfd⟩ | ⟨start, hstart⟩ | hother)
    · cases hfd
    · cases hstart
    · exact hother
  have hopen : (Hold.contract sampleDevice).answers
      (.openFile (devicePath sampleDevice) (openFlags sampleFlags)) closedState.hold
      (.ok 3 (.other 0)) openState.hold :=
    (if_pos rfl).mpr ⟨rfl, hadmits, 0, hfresh, rfl⟩
  have hrun : Procedure.Executes (Hold.contract sampleDevice)
      (ttOpen (some sampleDevice) (some closedState.sess) sampleFlags) Thread.initial
      closedState.hold _ (.TT_OK (), some openState.sess) Thread.initial openState.hold :=
    Procedure.executes_bind.mpr ⟨_, [], _, _, _, rfl,
      executes_openSession sampleDevice (by decide) hopen, .done⟩
  exact .opens hrun

theorem allocatedState_moves : Moves sampleDevice openState (.alloc 0) allocatedState := by
  have hrun : Procedure.Executes (Hold.contract sampleDevice)
      (ttTlbAlloc (some openState.sess) TT_TLB_2MB TT_TLB_UC (some sampleTlb)) Thread.initial
      openState.hold
      [⟨.allocateTlb 3 TT_TLB_2MB, .ok ⟨5, 0, 0⟩ (.other 0)⟩]
      (.TT_OK (), some sampleTlb) Thread.initial openState.hold := .call (v := openState.hold) rfl .done
  exact .alloc nofun hrun

theorem boundState_moves : Moves sampleDevice allocatedState (.bind 0) boundState := by
  have hmmap : (Hold.contract sampleDevice).answers (.mmap TT_TLB_2MB 3 0) openState.hold
      (.ok 4096 (.other 0)) boundState.hold := ⟨by decide, rfl, 0, rfl, rfl⟩
  have hrun : Procedure.Executes (Hold.contract sampleDevice)
      (ttTlbBind (some openState.sess) (some sampleTlb) (some { addr := 0, xEnd := 1, yEnd := 1 }))
      Thread.initial openState.hold
      [⟨.mmap TT_TLB_2MB 3 0, .ok 4096 (.other 0)⟩,
        ⟨.configureTlb 3 5 (nocTlbConfig { addr := 0, xEnd := 1, yEnd := 1 }), .ok () (.other 0)⟩]
      (.TT_OK (), some { sampleTlb with ptr := 4096 }) Thread.initial boundState.hold :=
    .call hmmap (.call (v := boundState.hold) rfl .done)
  exact .bind rfl hrun

theorem freedState_moves : Moves sampleDevice boundState (.free 0) freedState := by
  have hrun : Procedure.Executes (Hold.contract sampleDevice)
      (ttTlbFree (some boundState.sess) (some { sampleTlb with ptr := 4096 })) Thread.initial
      boundState.hold
      [⟨.munmap 4096 TT_TLB_2MB, .ok () (.other 0)⟩, ⟨.freeTlb 3 5, .ok () (.other 0)⟩]
      (.TT_OK (), some { sampleTlb with id := 0 }) Thread.initial freedState.hold :=
    .call (v := freedState.hold) rfl (.call (v := freedState.hold) rfl .done)
  exact .free rfl hrun

theorem boundState_reachable : (system sampleDevice).Reachable boundState := by
  have hstart : (system sampleDevice).Reachable closedState := .start ⟨rfl, rfl, rfl, rfl⟩
  have hopened := hstart.move trivial openState_moves
  have hallocated := hopened.move trivial allocatedState_moves
  exact hallocated.move trivial boundState_moves

/-- The session's descriptor is the only one. -/
theorem openState_own (fd : ℤ) (description : ℕ)
    (h : openState.hold.descriptors fd = some description) : 0 ≤ openState.sess.fd ∧
      fd = openState.sess.fd := by
  refine ⟨by decide, ?_⟩
  by_contra hne
  have hother : openState.hold.descriptors fd = none := Function.update_of_ne hne _ _
  rw [hother] at h
  cases h

theorem boundState_alone : Alone boundState.sess boundState.hold := ⟨rfl, openState_own⟩

theorem freedState_alone : Alone freedState.sess freedState.hold := ⟨rfl, openState_own⟩

/-- The mapping outlives the descriptor, so an exclusive open is refused. -/
theorem closed_refuses : (Hold.contract sampleDevice).answers
    (.openFile (devicePath sampleDevice) (openFlags sampleFlags)) (boundState.hold.closed 3)
    (.fail .EAGAIN) (boundState.hold.closed 3) := by
  refine (if_pos rfl).mpr ⟨fun _ hadmits ↦ ?_, rfl⟩
  have hshared := (hadmits 0 (.inr (.inl ⟨4096, rfl⟩))).1
  exact absurd hshared (by decide)

theorem openSession_refused : Procedure.Executes (Hold.contract sampleDevice)
    (openSession sampleDevice sampleFlags) Thread.initial (boundState.hold.closed 3)
    [⟨.openFile (devicePath sampleDevice) (openFlags sampleFlags), .fail .EAGAIN⟩]
    .TT_ERR { Thread.initial with errno := .EAGAIN } (boundState.hold.closed 3) := by
  rw [openSession_eq, if_neg (by decide)]
  exact .call closed_refuses .done

/-- A session is reported as another client after its window was mapped. -/
theorem bound_session_blamed :
    ∃ s, (system sampleDevice).Reachable s ∧ Alone s.sess s.hold ∧ ¬Unblamed sampleDevice s := by
  refine ⟨boundState, boundState_reachable, boundState_alone, fun hunblamed ↦ ?_⟩
  have hclose : (Hold.contract sampleDevice).answers (.close 3) boundState.hold
      (.ok () (.other 0)) (boundState.hold.closed 3) := ⟨nofun, rfl⟩
  have hclosed : Procedure.Executes (Hold.contract sampleDevice) (closeSession boundState.sess)
      Thread.initial boundState.hold _ (.TT_OK (), { boundState.sess with fd := -1 })
      Thread.initial (boundState.hold.closed 3) :=
    executes_closeSession boundState.sess (by decide) hclose
  have hreset : Procedure.Executes (Hold.contract sampleDevice) (resetDevice 0 sampleDevice)
      Thread.initial (boundState.hold.closed 3) _ .TT_ERR
      { Thread.initial with errno := .EAGAIN } (boundState.hold.closed 3) :=
    Procedure.executes_bind.mpr ⟨_, [], _, _, _, rfl, openSession_refused, .done⟩
  have hwith : Procedure.Executes (Hold.contract sampleDevice) (resetWith 0 boundState.sess)
      Thread.initial boundState.hold _ (.TT_ERR, { boundState.sess with fd := -1 })
      { Thread.initial with errno := .EAGAIN } (boundState.hold.closed 3) :=
    Procedure.executes_bind.mpr ⟨_, _, _, _, _, rfl, hclosed,
      Procedure.executes_bind.mpr ⟨_, [], _, _, _, rfl, hreset, .done⟩⟩
  have hrun : Procedure.Executes (Hold.contract sampleDevice) (ttResetWith 0 (some boundState.sess))
      Thread.initial boundState.hold _ (.TT_ERR, some { boundState.sess with fd := -1 })
      { Thread.initial with errno := .EAGAIN } (boundState.hold.closed 3) :=
    Procedure.executes_bind.mpr ⟨_, [], _, _, _, rfl, hwith, .done⟩
  exact hunblamed.resets 0 _ _ _ _ hrun rfl

/-- It is not once the window was freed. -/
theorem freed_session_unblamed : Unblamed sampleDevice freedState := by
  have hreach := boundState_reachable.move trivial freedState_moves
  obtain ⟨hunblamed, hunmapped⟩ :=
    released_session_unblamed sampleDevice hreach freedState_alone
  have hnull : ∀ name tlb, freedState.handles name = some tlb → tlb.ptr = NULL := by
    intro name tlb hhandle
    by_cases heq : name = 0
    · subst heq
      obtain rfl := Option.some.inj hhandle
      rfl
    · simp [freedState, boundState, allocatedState, openState, closedState, State.put,
        Function.update_of_ne heq] at hhandle
  exact hunblamed (hunmapped hnull rfl)

end TtDal.Safety.SessionRelease
