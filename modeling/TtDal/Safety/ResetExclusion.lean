import TtDal.Dev.Reset
import TtDal.Driver.Arbitration
import TtDal.Effect.Residual
import TtDal.Effect.System

/-!
# Resets exclude everybody else

Any number of clients open, close and reset one device, one system call at a time. A call that
resets the device first takes it exclusively, so from its first reset request to its last one the
device is open nowhere else. What a call may still request is known from `protocol`, and what
comes of a refused acquisition from `refusal`.
-/

namespace TtDal.Safety.ResetExclusion

open Effect Platform Dev Driver

/-! ## How far a call got -/

inductive Phase where
  /-- The device was not opened yet. -/
  | fresh
  /-- The device is open exclusively. -/
  | held (fd : ℤ)
  /-- The first reset request was made, the second was not. -/
  | resetting (fd : ℤ)
  /-- The device was opened shared, could not be opened, or was closed again. -/
  | settled
  deriving DecidableEq, Repr

namespace Phase

/-- The exclusive descriptor of the call. -/
def fd : Phase → Option ℤ
  | .held fd | .resetting fd => some fd
  | .fresh | .settled => none

def opened (flags : OpenFlags) : Reply ℕ → Phase
  | .ok fd _ => if flags.excl then .held fd else .settled
  | .fail _ => .settled

def after (dev : Device) (phase : Phase) : Event Sys → Phase
  | ⟨.openFile path flags, reply⟩ =>
    if path = devicePath dev then opened flags reply else phase
  | ⟨.close fd, _⟩ => if phase.fd = some fd then .settled else phase
  | ⟨.resetDevice fd req, _⟩ =>
    match req.flags with
    | .ASIC_RESET => .resetting fd
    | .POST_RESET => .held fd
  | _ => phase

/-- A number that is given out is not that of the exclusive descriptor. -/
def Numbered (phase : Phase) : Event Sys → Prop
  | ⟨.openFile _ _, .ok fd _⟩ => phase.fd ≠ some (fd : ℤ)
  | _ => True

end Phase

/-- The device is opened at most once in a call, and reset on the exclusive descriptor only. -/
def protocol (dev : Device) : Contract Sys Phase where
  answers op phase answer phase' :=
    phase.Numbered ⟨op, answer⟩ ∧ phase' = phase.after dev ⟨op, answer⟩
  permits op phase :=
    match op with
    | .openFile path _ => path = devicePath dev → phase = .fresh
    | .resetDevice fd req =>
      match req.flags with
      | .ASIC_RESET => phase = .held fd
      | .POST_RESET => phase = .resetting fd
    | _ => True
  tolerates _ := True

section Protocol

variable {dev : Device} {phase : Phase} {thread : Thread}

/-- Requests the protocol does not look at. -/
def Quiet : Syscall → Prop
  | .openFile _ _ | .close _ | .resetDevice _ _ => False
  | _ => True

theorem quiet_follows {op : Syscall} (hquiet : Quiet op) :
    Procedure.Keeps (protocol dev) (· = phase) (sys op) := by
  apply keeps_sys
  · intro before hbefore
    cases op with
    | openFile | close | resetDevice => exact hquiet.elim
    | _ => exact trivial
  · rintro before answer after hbefore ⟨-, rfl⟩
    cases op with
    | openFile | close | resetDevice => exact hquiet.elim
    | _ => exact hbefore

theorem configPath_ne_devicePath (info : DevInfo) :
    configPath (sysfsPath info) ≠ devicePath dev :=
  ne_devicePath (by simp [configPath, sysfsPath, snprintf]) dev

theorem markerClear_follows {sysfs : String} (hpath : configPath sysfs ≠ devicePath dev) :
    Procedure.Keeps (protocol dev) (· = phase) (markerClear sysfs) := by
  rintro thread before rfl
  simp only [markerClear, Procedure.wp_bind, wp_sys]
  refine ⟨fun heq ↦ absurd heq hpath, fun reply after hanswer ↦ ?_⟩
  obtain ⟨hnumber, rfl⟩ := hanswer
  have hsame : before.after dev ⟨.openFile (configPath sysfs) (readOnly true), reply⟩ =
      before := if_neg hpath
  rw [hsame]
  cases reply with
  | fail err => rfl
  | ok cfd residue =>
    refine Procedure.Keeps.wp_call (quiet_follows ?_) rfl fun _ answer _ phase' hphase ↦ ?_
    · trivial
    subst hphase
    simp only [Procedure.wp_bind, wp_sys]
    refine ⟨trivial, fun closed after hclosed ↦ ?_⟩
    obtain ⟨-, rfl⟩ := hclosed
    have hkept : phase'.after dev ⟨.close cfd, closed⟩ = phase' := if_neg hnumber
    rw [hkept]
    split
    · rfl
    · rfl

theorem waits_follows {op : Syscall} (hop : Waits op) :
    Procedure.Keeps (protocol dev) (· = phase) (sys op) := by
  apply quiet_follows
  cases op with
  | openFile | close | resetDevice => exact hop.elim
  | _ => exact trivial

theorem failClosed_follows (fd : ℤ) (err : Errno) :
    Procedure.wp (protocol dev) (failClosed fd err) (fun _ _ _ _ ↦ True) thread phase :=
  ⟨trivial, fun _ _ _ ↦ trivial⟩

theorem finishReset_follows (fd : ℤ) :
    Procedure.wp (protocol dev) (finishReset fd) (fun _ _ _ _ ↦ True) thread (.resetting fd) := by
  simp only [finishReset, Procedure.wp_bind, wp_sys]
  refine ⟨rfl, fun reply after _ ↦ ?_⟩
  cases reply with
  | fail err => exact failClosed_follows fd _
  | ok result residue =>
    by_cases hresult : result ≠ 0
    · simpa only [if_pos hresult] using failClosed_follows fd _
    · simp only [if_neg hresult, Procedure.wp_bind, wp_sys]
      refine ⟨trivial, fun closed after' _ ↦ ?_⟩
      cases closed with
      | ok value residue => exact trivial
      | fail err => exact trivial

theorem resetExclusive_follows (rounds : ℕ) (sess : Session) :
    Procedure.wp (protocol dev) (resetExclusive rounds sess) (fun _ _ _ _ ↦ True) thread
      (.held sess.fd) := by
  refine Procedure.Keeps.wp_call (keeps_devInfo (quiet_follows trivial)) rfl
    fun _ info _ phase hphase ↦ ?_
  subst hphase
  cases info with
  | TT_ERR =>
    simp only [Procedure.wp_bind, wp_getErrno]
    exact failClosed_follows sess.fd _
  | TT_OK info =>
    simp only [Procedure.wp_bind, wp_sys]
    refine ⟨rfl, fun reply phase hanswer ↦ ?_⟩
    obtain ⟨-, rfl⟩ := hanswer
    cases reply with
    | fail err => exact failClosed_follows sess.fd _
    | ok result residue =>
      by_cases hresult : result ≠ 0
      · simpa only [if_pos hresult] using failClosed_follows sess.fd _
      · simp only [if_neg hresult]
        refine Procedure.Keeps.wp_call (quiet_follows ?_) rfl fun _ start _ phase hphase ↦ ?_
        · trivial
        subst hphase
        have hpath : configPath (sysfsPath info) ≠ devicePath dev := configPath_ne_devicePath info
        refine Procedure.Keeps.wp_call (keeps_awaitReset (fun _ ↦ waits_follows)
          (markerClear_follows hpath) trivial start rounds false) rfl
          fun _ complete _ phase hphase ↦ ?_
        subst hphase
        cases complete with
        | false => exact failClosed_follows sess.fd _
        | true =>
          refine Procedure.Keeps.wp_call (keeps_awaitFirmware (fun _ ↦ waits_follows) trivial rounds
            _) rfl fun _ _ _ phase hphase ↦ ?_
          subst hphase
          exact finishReset_follows sess.fd

/-- Opening is the first thing a call does to the device, and an exclusive open that is granted
leaves the call in possession. -/
theorem openSession_follows (flags : UInt16) :
    Procedure.wp (protocol dev) (openSession dev flags)
      (fun _ out _ phase' ↦ ∀ sess, out = .TT_OK sess → flags &&& TT_OPEN_EXCL ≠ 0 →
        phase' = .held sess.fd) thread .fresh := by
  rw [openSession_eq]
  split
  · simp
  · simp only [Procedure.wp_bind, wp_sys]
    refine ⟨fun _ ↦ rfl, fun reply phase hanswer ↦ ?_⟩
    obtain ⟨-, rfl⟩ := hanswer
    cases reply with
    | fail err => simp
    | ok fd residue =>
      rintro sess hsess hflags
      cases hsess
      have hexcl : (openFlags flags).excl = true := decide_eq_true hflags
      calc
        Phase.fresh.after dev ⟨.openFile (devicePath dev) (openFlags flags), .ok fd residue⟩ =
            Phase.opened (openFlags flags) (.ok fd residue) := if_pos rfl
        _ = .held fd := if_pos hexcl

theorem resetDevice_follows (rounds : ℕ) :
    Procedure.wp (protocol dev) (resetDevice rounds dev) (fun _ _ _ _ ↦ True) thread .fresh := by
  unfold resetDevice
  refine Procedure.wp_call (openSession_follows _) fun _ out _ phase hopened ↦ ?_
  cases out with
  | TT_ERR => exact trivial
  | TT_OK sess =>
    have hheld : phase = .held sess.fd := hopened sess rfl (by decide)
    subst hheld
    exact resetExclusive_follows rounds sess

theorem closeSession_follows (sess : Session) :
    Procedure.wp (protocol dev) (closeSession sess)
      (fun _ out _ phase' ↦ phase' = .fresh ∧ out.2.dev = sess.dev) thread .fresh := by
  unfold closeSession
  split
  · exact ⟨rfl, rfl⟩
  · simp only [Procedure.wp_bind, wp_sys]
    refine ⟨trivial, fun reply after hanswer ↦ ?_⟩
    obtain ⟨-, rfl⟩ := hanswer
    cases reply with
    | ok value residue => exact ⟨rfl, rfl⟩
    | fail err => exact ⟨rfl, rfl⟩

theorem resetWith_follows (rounds : ℕ) (sess : Session) :
    Procedure.wp (protocol sess.dev) (resetWith rounds sess) (fun _ _ _ _ ↦ True) thread
      .fresh := by
  unfold resetWith
  split
  · exact trivial
  · refine Procedure.wp_call (closeSession_follows sess) fun _ out _ phase hclosed ↦ ?_
    obtain ⟨rfl, hdev⟩ := hclosed
    obtain ⟨status, sess'⟩ := out
    cases status with
    | TT_ERR => exact trivial
    | TT_OK =>
      simp only at hdev ⊢
      rw [← hdev, Procedure.wp_bind]
      exact Procedure.wp_mono (resetDevice_follows rounds) fun _ _ _ _ _ ↦ trivial

end Protocol

/-! ## The calls of a client -/

/-- A call a client may make, with what it passes. Sessions may hold anything, so also numbers
that were closed before. -/
inductive Request where
  | opens (sess : Option Session) (flags : UInt16)
  | close (sess : Option Session)
  | reset (rounds : ℕ)
  | resetWith (rounds : ℕ) (sess : Option Session)

namespace Request

def IsReset : Request → Prop
  | .reset _ | .resetWith _ _ => True
  | _ => False

/-- A reset through a session is one of the session's device. -/
def Concerns (dev : Device) : Request → Prop
  | .resetWith _ sess => ∀ sess', sess = some sess' → sess'.dev = dev
  | _ => True

def run (dev : Device) : Request → C (Status × Option Session)
  | .opens sess flags => ttOpen (some dev) sess flags
  | .close sess => ttClose sess
  | .reset rounds => do
    let status ← ttReset rounds (some dev)
    return (status, none)
  | .resetWith rounds sess => ttResetWith rounds sess

theorem run_follows {dev : Device} {request : Request} (h : request.Concerns dev)
    (thread : Thread) :
    Procedure.wp (protocol dev) (request.run dev) (fun _ _ _ _ ↦ True) thread .fresh := by
  cases request with
  | opens sess flags =>
    cases sess with
    | none => exact trivial
    | some sess =>
      refine Procedure.wp_call (openSession_follows flags) fun _ out _ _ _ ↦ ?_
      cases out with
      | TT_OK opened => exact trivial
      | TT_ERR => exact trivial
  | close sess =>
    cases sess with
    | none => exact trivial
    | some sess => exact Procedure.wp_call (closeSession_follows sess) fun _ _ _ _ _ ↦ trivial
  | reset rounds =>
    rw [run, ttReset]
    exact Procedure.wp_call (resetDevice_follows rounds) fun _ _ _ _ _ ↦ trivial
  | resetWith rounds sess =>
    cases sess with
    | none => exact trivial
    | some sess =>
      obtain rfl := h sess rfl
      exact Procedure.wp_call (resetWith_follows rounds sess) fun _ _ _ _ _ ↦ trivial

end Request

/-! ## What comes of a refused acquisition -/

def IsResetIoctl : Syscall → Prop
  | .resetDevice _ _ => True
  | _ => False

/-- Every open is an exclusive one of the device, it is refused, and nothing is requested after
it. Until then no reset is requested, and the call always goes on. -/
def refusal (dev : Device) : Contract Sys Bool where
  answers op refused answer refused' :=
    match op, answer with
    | .openFile _ _, reply => reply = .fail .EAGAIN ∧ refused' = true
    | _, _ => refused' = refused
  permits op refused := refused = false ∧ ¬IsResetIoctl op ∧
    ∀ path flags, op = .openFile path flags → path = devicePath dev ∧ flags.excl = true
  tolerates _ := False

/-- The failure a refused call reports. -/
def Refused (result : (Status × Option Session) × Thread) (refused : Bool) : Prop :=
  refused = true → result.1.1 = .TT_ERR ∧ result.2.errno = .EAGAIN

theorem resetDevice_refused (dev : Device) (rounds : ℕ) (thread : Thread) :
    Procedure.wp (refusal dev) (resetDevice rounds dev)
      (fun _ status thread' refused ↦ refused = true ∧ status = .TT_ERR ∧
        thread'.errno = .EAGAIN) thread false := by
  have hflags : ¬(TT_OPEN_EXCL ||| TT_OPEN_NONBLOCK) &&&
      ~~~(TT_OPEN_EXCL ||| TT_OPEN_NONBLOCK) ≠ 0 := by decide
  simp only [resetDevice, openSession_eq, if_neg hflags, Procedure.wp_bind, wp_sys]
  refine ⟨⟨rfl, id, ?_⟩, fun reply refused hanswer ↦ ?_⟩
  · rintro path flags hopen
    cases hopen
    exact ⟨rfl, rfl⟩
  · obtain ⟨rfl, rfl⟩ := hanswer
    exact ⟨rfl, rfl, rfl⟩

theorem resetWith_refused {thread : Thread} (rounds : ℕ) (sess : Session) :
    Procedure.wp (refusal sess.dev) (resetWith rounds sess)
      (fun _ out thread' refused ↦ refused = true → out.1 = .TT_ERR ∧ thread'.errno = .EAGAIN)
      thread false := by
  unfold resetWith closeSession
  by_cases hfd : sess.fd < 0
  · simp only [if_pos hfd]
    simp
  · simp only [if_neg hfd, Procedure.wp_bind, wp_sys]
    refine ⟨⟨rfl, id, fun _ _ hopen ↦ by cases hopen⟩, fun reply refused hanswer ↦ ?_⟩
    obtain rfl : refused = false := hanswer
    cases reply with
    | fail err => simp
    | ok value residue =>
      simp only [Procedure.wp_pure, Procedure.wp_bind]
      exact Procedure.wp_mono (resetDevice_refused sess.dev rounds _) fun _ _ _ _ hout _ ↦ hout.2

theorem Request.run_refused {dev : Device} {request : Request} (h : request.Concerns dev)
    (hreset : request.IsReset) (thread : Thread) :
    Procedure.wp (refusal dev) (request.run dev)
      (fun _ out thread' refused ↦ Refused (out, thread') refused) thread false := by
  cases request with
  | opens | close => exact hreset.elim
  | reset rounds =>
    rw [run, Procedure.wp_bind]
    exact Procedure.wp_mono (resetDevice_refused dev rounds thread) fun _ _ _ _ hout _ ↦ hout.2
  | resetWith rounds sess =>
    cases sess with
    | none => exact nofun
    | some sess =>
      obtain rfl := h sess rfl
      rw [run, ttResetWith, Procedure.wp_bind]
      exact Procedure.wp_mono (resetWith_refused rounds sess) fun _ _ _ _ hout ↦ hout

/-! ## Runs -/

/-- A call under way. -/
structure Call where
  request : Request
  /-- What it requested so far, with the answers. -/
  trace : List (Event Sys)
  left : Program Sys ((Status × Option Session) × Thread)

def Call.phase (dev : Device) (call : Call) : Phase :=
  call.trace.foldl (Phase.after dev) .fresh

def Call.answered (call : Call) (event : Event Sys)
    (left : Program Sys ((Status × Option Session) × Thread)) : Call where
  request := call.request
  trace := call.trace ++ [event]
  left := left

@[simp]
theorem Call.answered_phase (dev : Device) (call : Call) (event : Event Sys)
    (left : Program Sys ((Status × Option Session) × Thread)) :
    (call.answered event left).phase dev = (call.phase dev).after dev event := by
  simp [Call.phase, Call.answered]

structure State (Client : Type) where
  node : Node Client
  calls : Client → Option Call

inductive Label (Client : Type) where
  | calls (client : Client) (request : Request)
  | acts (client : Client) (event : Event Sys)
  | returns (client : Client)
  | exits (client : Client)

section Runs

variable {Client : Type} [DecidableEq Client] {dev : Device} {s s' : State Client}

/-- Each client makes one call at a time, and the system calls of all of them interleave. An open
that waits is not answered. A client may end at any time, which closes what it has open. -/
inductive Moves (dev : Device) : State Client → Label Client → State Client → Prop where
  | calls {s : State Client} {client : Client} {request : Request} {thread : Thread} :
      s.calls client = none → request.Concerns dev →
      Moves dev s (.calls client request) { s with
        calls := Function.update s.calls client
          (some { request := request, trace := [], left := (request.run dev).run thread }) }
  | acts {s : State Client} {client : Client} {call : Call} {event : Event Sys}
      {left : Program Sys ((Status × Option Session) × Thread)} {node : Node Client} :
      s.calls client = some call →
      Program.Steps (Node.contract dev client) call.left s.node event left node →
      Moves dev s (.acts client event)
        { node := node, calls := Function.update s.calls client (some (call.answered event left)) }
  | returns {s : State Client} {client : Client} {call : Call}
      {result : (Status × Option Session) × Thread} :
      s.calls client = some call → call.left = .done result →
      Moves dev s (.returns client) { s with calls := Function.update s.calls client none }
  | exits {s : State Client} {client : Client} :
      Moves dev s (.exits client)
        { node := s.node.exited client, calls := Function.update s.calls client none }

/-- The device is not open, and nobody has made a call. -/
structure Starts (s : State Client) : Prop where
  descriptions : ∀ key, s.node.descriptions key = none
  calls : ∀ client, s.calls client = none

def system (dev : Device) : System (State Client) (Label Client) where
  starts := Starts
  moves := Moves dev

/-- What a call under way has, and what it will do. -/
structure Follows (dev : Device) (node : Node Client) (client : Client) (call : Call) : Prop where
  requests : call.left.wp (protocol dev) (fun _ _ _ ↦ True) (call.phase dev)
  held : ∀ fd, (call.phase dev).fd = some fd → node.Held (client, fd)
  refused : call.request.IsReset → call.phase dev = .fresh →
    call.left.wp (refusal dev) (fun _ ↦ Refused) false ∧
      ∀ event ∈ call.trace, ¬IsResetIoctl event.op

structure Sound (dev : Device) (s : State Client) : Prop where
  orderly : s.node.Orderly
  follows : ∀ client call, s.calls client = some call → Follows dev s.node client call

/-- Everything about one answer to one client: the order is kept, the client keeps its exclusive
descriptor as long as its phase says so, and nobody else loses theirs. -/
structure Answered (dev : Device) (client : Client) (node : Node Client) (phase : Phase)
    (event : Event Sys) (node' : Node Client) : Prop where
  orderly : node'.Orderly
  held : ∀ fd, (phase.after dev event).fd = some fd → node'.Held (client, fd)
  others : ∀ key : Client × ℤ, key.1 ≠ client → node.Held key → node'.Held key
  numbered : phase.Numbered event

variable {client : Client} {node node' : Node Client} {phase : Phase}

omit [DecidableEq Client] in
theorem Answered.same {event : Event Sys} (h : node.Orderly)
    (hheld : ∀ fd, (phase.after dev event).fd = some fd → node.Held (client, fd))
    (hnumbered : phase.Numbered event) : Answered dev client node phase event node where
  orderly := h
  held := hheld
  others _ _ hkey := hkey
  numbered := hnumbered

theorem openFile_answered {path : String} {flags : OpenFlags} {reply : Reply ℕ}
    (h : node.Orderly) (hheld : ∀ fd, phase.fd = some fd → node.Held (client, fd))
    (hfresh : path = devicePath dev → phase = .fresh)
    (hanswer : Node.answers dev client (.openFile path flags) node reply node') :
    Answered dev client node phase ⟨.openFile path flags, reply⟩ node' := by
  by_cases hpath : path = devicePath dev
  · obtain rfl := hfresh hpath
    have hafter : Phase.fresh.after dev ⟨.openFile path flags, reply⟩ = .opened flags reply :=
      if_pos hpath
    replace hanswer : node.answersOpen client flags reply node' := by
      simpa only [Node.answers, if_pos hpath] using hanswer
    cases reply with
    | fail err =>
      obtain ⟨-, rfl⟩ := hanswer
      apply Answered.same h
      · rw [hafter]
        exact nofun
      · exact trivial
    | ok fd residue =>
      obtain ⟨hfree, hadmits, rfl⟩ := hanswer
      refine ⟨h.opened hfree hadmits, fun fd' hfd' ↦ ?_, fun key hkey hother ↦ ?_, nofun⟩
      · rw [hafter] at hfd'
        by_cases hexcl : flags.excl = true
        · simp only [Phase.opened, hexcl, if_true, Phase.fd, Option.some.injEq] at hfd'
          subst hfd'
          exact ⟨_, Function.update_self _ _ _, hexcl⟩
        · simp [Phase.opened, hexcl, Phase.fd] at hfd'
      · have hne : key ≠ (client, (fd : ℤ)) := fun heq ↦ hkey (congrArg Prod.fst heq)
        simpa [Node.Held, Node.opened, Function.update_of_ne hne] using hother
  · have hafter : phase.after dev ⟨.openFile path flags, reply⟩ = phase := if_neg hpath
    replace hanswer : node.answersOther client reply node' := by
      simpa only [Node.answers, if_neg hpath] using hanswer
    cases reply with
    | fail err =>
      obtain rfl : node' = node := hanswer
      apply Answered.same h
      · rwa [hafter]
      · exact trivial
    | ok fd residue =>
      obtain ⟨hfree, rfl⟩ := hanswer
      apply Answered.same h
      · rwa [hafter]
      · intro hfd
        obtain ⟨description, hdescription, -⟩ := hheld fd hfd
        cases hfree.symm.trans hdescription

theorem close_answered {fd : ℤ} {reply : Reply Unit} (h : node.Orderly)
    (hheld : ∀ fd, phase.fd = some fd → node.Held (client, fd)) :
    Answered dev client node phase ⟨.close fd, reply⟩ (node.closed (client, fd)) where
  orderly := h.shrink (Node.closed_shrink (client, fd))
  held fd' hfd' := by
    by_cases hfd : phase.fd = some fd
    · rw [Phase.after, if_pos hfd] at hfd'
      cases hfd'
    · rw [Phase.after, if_neg hfd] at hfd'
      have hne : ((client, fd') : Client × ℤ) ≠ (client, fd) := by
        intro heq
        cases heq
        exact hfd hfd'
      simpa [Node.Held, Node.closed, Function.update_of_ne hne] using hheld fd' hfd'
  others key hkey hother := by
    have hne : key ≠ (client, fd) := fun heq ↦ hkey (congrArg Prod.fst heq)
    simpa [Node.Held, Node.closed, Function.update_of_ne hne] using hother
  numbered := trivial

/-- A reset is issued by the only client there is, so it changes nothing for others. -/
theorem resetDevice_answered {fd : ℤ} {req : ResetDeviceIn} {reply : Reply UInt32}
    (h : node.Orderly) (hheld : ∀ fd, phase.fd = some fd → node.Held (client, fd))
    (hpermits : (protocol dev).permits (.resetDevice fd req) phase)
    (hanswer : Node.answers dev client (.resetDevice fd req) node reply node') :
    phase.fd = some fd ∧ node' = node ∧
      Answered dev client node phase ⟨.resetDevice fd req, reply⟩ node' := by
  have hfd : phase.fd = some fd ∧
      (phase.after dev ⟨.resetDevice fd req, reply⟩).fd = some fd := by
    cases hflags : req.flags with
    | ASIC_RESET =>
      simp only [protocol, hflags] at hpermits
      simp [hpermits, Phase.after, Phase.fd, hflags]
    | POST_RESET =>
      simp only [protocol, hflags] at hpermits
      simp [hpermits, Phase.after, Phase.fd, hflags]
  have hsame : node' = node := by
    rw [show node' = _ from hanswer]
    split
    · exact ((hheld fd hfd.1).sole h).severedBut_eq
    · rfl
  subst hsame
  refine ⟨hfd.1, rfl, .same h ?_ trivial⟩
  intro fd' hfd'
  obtain rfl : fd = fd' := Option.some.inj (hfd.2.symm.trans hfd')
  exact hheld fd hfd.1

theorem answers_answered {op : Syscall} {answer : op.Answer} (h : node.Orderly)
    (hheld : ∀ fd, phase.fd = some fd → node.Held (client, fd))
    (hpermits : (protocol dev).permits op phase)
    (hanswer : Node.answers dev client op node answer node') :
    Answered dev client node phase ⟨op, answer⟩ node' := by
  cases op with
  | openFile path flags => exact openFile_answered h hheld hpermits hanswer
  | close fd =>
    obtain rfl : node' = node.closed (client, fd) := hanswer
    exact close_answered h hheld
  | resetDevice fd req => exact (resetDevice_answered h hheld hpermits hanswer).2.2
  | _ =>
    obtain rfl : node' = node := hanswer
    exact .same h hheld trivial

omit [DecidableEq Client] in
/-- The next request of a call is permitted, and what is left follows the protocol. -/
theorem Follows.steps {call : Call} {event : Event Sys} {contract : Contract Sys (Node Client)}
    {left : Program Sys ((Status × Option Session) × Thread)} (h : Follows dev node client call)
    (hsteps : Program.Steps contract call.left node event left node') :
    (protocol dev).permits event.op (call.phase dev) ∧
      ((call.phase dev).Numbered event →
        left.wp (protocol dev) (fun _ _ _ ↦ True) ((call.answered event left).phase dev)) := by
  have hfollows := hsteps.follows h.requests
  refine ⟨hfollows.1, fun hnumbered ↦ ?_⟩
  rw [Call.answered_phase]
  exact hfollows.2 _ ⟨hnumbered, rfl⟩

/-- A call that leaves the phase `fresh` does not come back to it. -/
theorem Phase.fresh_of_after {event : Event Sys} (h : phase.after dev event = .fresh) :
    phase = .fresh := by
  obtain ⟨op, answer⟩ := event
  cases op with
  | openFile path flags =>
    by_cases hpath : path = devicePath dev
    · rw [Phase.after, if_pos hpath] at h
      cases answer with
      | fail err => cases h
      | ok fd residue =>
        simp only [Phase.opened] at h
        split at h <;> cases h
    · rwa [Phase.after, if_neg hpath] at h
  | close fd =>
    by_cases hfd : phase.fd = some fd
    · rw [Phase.after, if_pos hfd] at h
      cases h
    · rwa [Phase.after, if_neg hfd] at h
  | resetDevice fd req =>
    simp only [Phase.after] at h
    split at h <;> cases h
  | _ => exact h

theorem acts_follows {call : Call} {event : Event Sys}
    {left : Program Sys ((Status × Option Session) × Thread)} (h : Follows dev node client call)
    (horderly : node.Orderly)
    (hsteps : Program.Steps (Node.contract dev client) call.left node event left node') :
    Answered dev client node (call.phase dev) event node' ∧
      Follows dev node' client (call.answered event left) := by
  obtain ⟨hpermits, hleft⟩ := h.steps hsteps
  have hanswered : Answered dev client node (call.phase dev) event node' :=
    answers_answered horderly h.held hpermits hsteps.answered
  refine ⟨hanswered, hleft hanswered.numbered, ?_, ?_⟩
  · rw [Call.answered_phase]
    exact hanswered.held
  · intro hreset hfresh
    rw [Call.answered_phase] at hfresh
    have hbefore : call.phase dev = .fresh := Phase.fresh_of_after hfresh
    obtain ⟨hrefused, htrace⟩ := h.refused hreset hbefore
    obtain ⟨⟨-, hioctl, hopens⟩, hrest⟩ := hsteps.follows hrefused
    constructor
    · apply hrest
      obtain ⟨op, answer⟩ := event
      cases op with
      | openFile path flags =>
        -- The open was answered, so the phase is not `fresh` any more.
        obtain ⟨rfl, hexcl⟩ := hopens path flags rfl
        rw [hbefore, Phase.after, if_pos rfl] at hfresh
        cases answer with
        | fail err => cases hfresh
        | ok fd residue =>
          rw [Phase.opened, if_pos hexcl] at hfresh
          cases hfresh
      | _ => exact rfl
    · intro event' hmem
      rcases List.mem_append.mp hmem with hold | hnew
      · exact htrace event' hold
      · rw [List.mem_singleton.mp hnew]
        exact hioctl

omit [DecidableEq Client] in
theorem Follows.mono {call : Call} (h : Follows dev node client call)
    (hheld : ∀ fd, node.Held (client, fd) → node'.Held (client, fd)) :
    Follows dev node' client call where
  requests := h.requests
  held fd hfd := hheld fd (h.held fd hfd)
  refused := h.refused

omit [DecidableEq Client] in
/-- A call that begins has requested nothing. -/
theorem Follows.begins {request : Request} (h : request.Concerns dev) (thread : Thread) :
    Follows dev node client
      { request := request, trace := [], left := (request.run dev).run thread } where
  requests := by
    have hrun : Program.wp (protocol dev) ((request.run dev).run thread) (fun _ _ _ ↦ True)
        .fresh := Request.run_follows h thread
    exact hrun
  held := nofun
  refused hreset _ := by
    have hrun : Program.wp (refusal dev) ((request.run dev).run thread) (fun _ ↦ Refused)
        false := Request.run_refused h hreset thread
    exact ⟨hrun, fun event hmem ↦ absurd hmem List.not_mem_nil⟩

/-- One client goes on, and the others keep what they hold. -/
theorem Sound.update {entry : Option Call} (h : Sound dev s) (horderly : node'.Orderly)
    (hself : ∀ call, entry = some call → Follows dev node' client call)
    (hothers : ∀ other fd, other ≠ client → s.node.Held (other, fd) → node'.Held (other, fd)) :
    Sound dev { node := node', calls := Function.update s.calls client entry } := by
  refine ⟨horderly, fun other call hcall ↦ ?_⟩
  replace hcall : Function.update s.calls client entry other = some call := hcall
  by_cases hother : other = client
  · subst hother
    rw [Function.update_self] at hcall
    exact hself call hcall
  · rw [Function.update_of_ne hother] at hcall
    exact (h.follows other call hcall).mono fun fd ↦ hothers other fd hother

theorem moves_sound {label : Label Client} (h : Sound dev s) (hmove : Moves dev s label s') :
    Sound dev s' := by
  cases hmove with
  | @calls client request thread hidle hconcerns =>
    apply h.update h.orderly
    · intro call hcall
      obtain rfl := Option.some.inj hcall
      exact Follows.begins hconcerns thread
    · exact fun _ _ _ hheld ↦ hheld
  | @acts client call event left node hcall hsteps =>
    obtain ⟨hanswered, hfollows⟩ := acts_follows (h.follows client call hcall) h.orderly hsteps
    apply h.update hanswered.orderly
    · intro call' hcall'
      exact Option.some.inj hcall' ▸ hfollows
    · exact fun other fd hother ↦ hanswered.others (other, fd) hother
  | returns hcall hdone =>
    apply h.update h.orderly
    · exact nofun
    · exact fun _ _ _ hheld ↦ hheld
  | @exits client =>
    apply h.update (h.orderly.shrink (Node.exited_shrink client))
    · exact nofun
    · intro other fd hother hheld
      simpa [Node.Held, Node.exited, hother] using hheld

omit [DecidableEq Client] in
theorem Starts.sound (h : Starts s) : Sound dev s where
  orderly :=
    { alone := fun key description hkey ↦ by
        rw [h.descriptions key] at hkey
        cases hkey
      spared := fun key description hkey ↦ by
        rw [h.descriptions key] at hkey
        cases hkey }
  follows client call hcall := by
    rw [h.calls client] at hcall
    cases hcall

/-- What exclusive acquisition guarantees. -/
structure Excludes (dev : Device) (s : State Client) : Prop where
  /-- From the first reset request of a call to its second, its descriptor is the only one. -/
  sole : ∀ client call fd, s.calls client = some call → call.phase dev = .resetting fd →
    s.node.Sole (client, fd)
  /-- Both requests are issued on the only descriptor, and the second within the same reset. -/
  issued : ∀ client fd req answer s', Moves dev s (.acts client ⟨.resetDevice fd req, answer⟩) s' →
    s.node.Sole (client, fd) ∧ s'.node.Sole (client, fd) ∧
      (req.flags = .POST_RESET →
        ∃ call, s.calls client = some call ∧ call.phase dev = .resetting fd)
  /-- Nobody's session is severed. -/
  spared : ∀ key description, s.node.descriptions key = some description →
    description.severed = false
  /-- Two resets do not overlap. -/
  apart : ∀ client client' call call' fd fd', s.calls client = some call →
    s.calls client' = some call' → call.phase dev = .resetting fd →
    call'.phase dev = .resetting fd' → client = client'
  /-- A reset that finds the device open fails with `EAGAIN` and requests nothing more. -/
  refused : ∀ client call path flags answer s', s.calls client = some call →
    call.request.IsReset → path = devicePath dev → (∃ key, s.node.Open key) →
    Moves dev s (.acts client ⟨.openFile path flags, answer⟩) s' →
    answer = .fail .EAGAIN ∧ ∃ call' sess thread, s'.calls client = some call' ∧
      call'.left = .done ((.TT_ERR, sess), thread) ∧ thread.errno = .EAGAIN ∧
      ∀ event ∈ call'.trace, ¬IsResetIoctl event.op

omit [DecidableEq Client] in
theorem Sound.sole {call : Call} {fd : ℤ} (h : Sound dev s) (hcall : s.calls client = some call)
    (hphase : (call.phase dev).fd = some fd) : s.node.Sole (client, fd) :=
  ((h.follows client call hcall).held fd hphase).sole h.orderly

theorem Sound.issued {fd : ℤ} {req : ResetDeviceIn} {answer : Reply UInt32} (h : Sound dev s)
    (hmove : Moves dev s (.acts client ⟨.resetDevice fd req, answer⟩) s') :
    s.node.Sole (client, fd) ∧ s'.node.Sole (client, fd) ∧
      (req.flags = .POST_RESET →
        ∃ call, s.calls client = some call ∧ call.phase dev = .resetting fd) := by
  cases hmove with
  | @acts _ call _ left node hcall hsteps =>
    have hfollows := h.follows client call hcall
    have hpermits := (hfollows.steps hsteps).1
    have hanswer : Node.answers dev client (.resetDevice fd req) s.node answer node :=
      hsteps.answered
    obtain ⟨hfd, rfl, -⟩ := resetDevice_answered h.orderly hfollows.held hpermits hanswer
    have hsole := h.sole hcall hfd
    refine ⟨hsole, hsole, fun hflags ↦ ⟨call, hcall, ?_⟩⟩
    simpa only [protocol, hflags] using hpermits

theorem Sound.refused {call : Call} {path : String} {flags : OpenFlags} {answer : Reply ℕ}
    (h : Sound dev s) (hcall : s.calls client = some call) (hreset : call.request.IsReset)
    (hpath : path = devicePath dev) (hopen : ∃ key, s.node.Open key)
    (hmove : Moves dev s (.acts client ⟨.openFile path flags, answer⟩) s') :
    answer = .fail .EAGAIN ∧ ∃ call' sess thread, s'.calls client = some call' ∧
      call'.left = .done ((.TT_ERR, sess), thread) ∧ thread.errno = .EAGAIN ∧
      ∀ event ∈ call'.trace, ¬IsResetIoctl event.op := by
  cases hmove with
  | @acts _ call' _ left node hcall' hsteps =>
    obtain rfl := Option.some.inj (hcall.symm.trans hcall')
    have hfollows := h.follows client call hcall
    have hfresh : call.phase dev = .fresh := (hfollows.steps hsteps).1 hpath
    obtain ⟨hrefused, htrace⟩ := hfollows.refused hreset hfresh
    obtain ⟨⟨-, -, hopens⟩, hrest⟩ := hsteps.follows hrefused
    obtain ⟨key, hkey⟩ := hopen
    have hadmits : ¬s.node.Admits flags := hkey.not_admits (hopens path flags rfl).2
    have hanswer : s.node.answersOpen client flags answer node := by
      simpa only [Node.contract, Node.answers, if_pos hpath] using hsteps.answered
    cases answer with
    | ok fd residue => exact absurd hanswer.2.1 hadmits
    | fail err =>
      obtain rfl := hanswer.1 hadmits
      -- Nothing may be requested after the refusal, so the call has returned.
      have hleft := hrest true ⟨rfl, rfl⟩
      refine ⟨rfl, ?_⟩
      cases left with
      | stop reason => exact hleft.elim
      | call op next => exact absurd hleft.1.1 (by decide)
      | done result =>
        obtain ⟨⟨status, sess⟩, thread⟩ := result
        obtain ⟨rfl, herrno⟩ := hleft rfl
        refine ⟨_, sess, thread, Function.update_self _ _ _, rfl, herrno, fun event hmem ↦ ?_⟩
        rcases List.mem_append.mp hmem with hold | hnew
        · exact htrace event hold
        · rw [List.mem_singleton.mp hnew]
          exact nofun

theorem Sound.excludes (h : Sound dev s) : Excludes dev s where
  sole client call fd hcall hphase := h.sole hcall (congrArg Phase.fd hphase)
  issued _ _ _ _ _ hmove := h.issued hmove
  spared := h.orderly.spared
  apart client client' call call' fd fd' hcall hcall' hphase hphase' := by
    have hsole := h.sole hcall (congrArg Phase.fd hphase)
    have hsole' := h.sole hcall' (congrArg Phase.fd hphase')
    exact congrArg Prod.fst (hsole'.2 _ hsole.1)
  refused _ _ _ _ _ _ hcall hreset hpath hopen hmove := h.refused hcall hreset hpath hopen hmove

/-- In every run of every number of clients, resets exclude everybody else. -/
theorem resets_exclude (hreach : (system dev).Reachable s) : Excludes dev s := by
  apply Sound.excludes
  apply System.Reaches.invariant _ _ hreach
  · exact fun _ hstart ↦ hstart.sound
  · exact fun _ _ _ hinv _ hmove ↦ moves_sound hinv hmove

end Runs

/-! ## A reset under way -/

def exclusiveSession : Session :=
  { dev := sampleDevice, fd := 3, flags := TT_OPEN_EXCL ||| TT_OPEN_NONBLOCK }

def emptyNode : Node ℕ := { descriptions := fun _ ↦ none }

/-- The first client has the device open exclusively. -/
def heldNode : Node ℕ := emptyNode.opened (0, 3) true

def emptyState : State ℕ := { node := emptyNode, calls := fun _ ↦ none }

/-- The first client asks for a reset. -/
def sampleCall : Call where
  request := .reset 1
  trace := []
  left := ((Request.reset 1).run sampleDevice).run Thread.initial

theorem sample_opens : Program.Steps (Node.contract sampleDevice 0)
    (((Request.reset 1).run sampleDevice).run Thread.initial) emptyNode
    ⟨.openFile (devicePath sampleDevice) (openFlags (TT_OPEN_EXCL ||| TT_OPEN_NONBLOCK)),
      .ok 3 (.other 0)⟩
    ((do let status ← resetExclusive 1 exclusiveSession; return (status, none)).run Thread.initial)
    heldNode := by
  have hflags : ¬(TT_OPEN_EXCL ||| TT_OPEN_NONBLOCK) &&&
      ~~~(TT_OPEN_EXCL ||| TT_OPEN_NONBLOCK) ≠ 0 := by decide
  have hanswer : (Node.contract sampleDevice 0).answers
      (.openFile (devicePath sampleDevice) (openFlags (TT_OPEN_EXCL ||| TT_OPEN_NONBLOCK)))
      emptyNode (.ok 3 (.other 0)) heldNode := by
    have hgranted : emptyNode.answersOpen 0 (openFlags (TT_OPEN_EXCL ||| TT_OPEN_NONBLOCK))
        (.ok 3 (.other 0)) heldNode := ⟨rfl, nofun, rfl⟩
    simpa only [Node.contract, Node.answers, if_true] using hgranted
  simp only [Request.run, ttReset, resetDevice, openSession_eq, if_neg hflags]
  exact .call hanswer

/-- A run in which the first client has come to a call and the device to a state. -/
def Comes (node : Node ℕ) (call : Call) : Prop :=
  ∃ s, (system sampleDevice).Reachable s ∧ s.node = node ∧ s.calls 0 = some call

theorem Comes.acts {node node' : Node ℕ} {call : Call} {event : Event Sys}
    {left : Program Sys ((Status × Option Session) × Thread)} (h : Comes node call)
    (hsteps : Program.Steps (Node.contract sampleDevice 0) call.left node event left node') :
    Comes node' (call.answered event left) := by
  obtain ⟨s, hreach, rfl, hcall⟩ := h
  refine ⟨_, hreach.move trivial (.acts hcall hsteps), rfl, ?_⟩
  simp

/-- A reset that was granted the device has made its first reset request. -/
theorem sample_resetting : ∃ (s : State ℕ) (call : Call),
    (system sampleDevice).Reachable s ∧ s.calls 0 = some call ∧
      call.phase sampleDevice = .resetting 3 := by
  have hstarts : (system sampleDevice : System (State ℕ) (Label ℕ)).starts emptyState :=
    ⟨fun _ ↦ rfl, fun _ ↦ rfl⟩
  have hcalls : Moves sampleDevice emptyState (.calls 0 (.reset 1))
      { emptyState with calls := Function.update emptyState.calls 0 (some sampleCall) } :=
    .calls rfl trivial
  have hcalled : Comes emptyNode sampleCall :=
    ⟨_, (System.Reaches.start hstarts).move trivial hcalls, rfl, rfl⟩
  have hinfo : (Node.contract sampleDevice 0).answers (.getDeviceInfo 3) heldNode
      (.ok sampleInfo (.other 0)) heldNode := rfl
  have hreset : (Node.contract sampleDevice 0).answers
      (.resetDevice 3 (resetDeviceIn .ASIC_RESET)) heldNode (.ok 0 (.other 0))
      (heldNode.severedBut (0, 3)) := rfl
  obtain ⟨s, hreach, -, hcall⟩ :=
    ((hcalled.acts sample_opens).acts (.call hinfo)).acts (.call hreset)
  refine ⟨s, _, hreach, hcall, ?_⟩
  rw [Call.answered_phase]
  rfl

/-- The device is open nowhere else while the sample is under way. -/
theorem sample_excludes : ∃ s : State ℕ, Excludes sampleDevice s ∧ s.node.Sole (0, 3) := by
  obtain ⟨s, call, hreach, hcall, hphase⟩ := sample_resetting
  have hexcludes : Excludes sampleDevice s := resets_exclude hreach
  exact ⟨s, hexcludes, hexcludes.sole 0 call 3 hcall hphase⟩

end TtDal.Safety.ResetExclusion
