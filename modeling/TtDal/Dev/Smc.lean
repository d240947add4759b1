import TtDal.Dev.Session

/-!
# SMC messaging

The functions of `dev/smc.c`. Requests and responses are the caller's objects, named by address,
because one object may serve as both.
-/

namespace TtDal.Dev

open Effect Platform

def TT_SMC_TIMEOUT_DEFAULT : ℕ := 1000

/-- Back-to-back polls before sleeping between them. -/
def SPIN_POLLS : UInt32 := 32

/-- Sleep between polls once the spin is spent. -/
def POLL_INTERVAL_US : ℕ := 1000

/-- The argument of the message `ioctl`, with the fields the library leaves out set to zero. -/
def smcMsgIoctl (flags : SmcMsgFlag) (message : SmcMsg) : SmcMsgIoctl where
  argsz := 48
  flags := flags
  queueIndex := 0
  reserved0 := 0
  message := message

def ttSmcPost (sess : Option Session) (req : Option Ref) : C Status := do
  match sess, req with
  | some sess, some req =>
    if sess.fd < 0 then
      ttFail .ENOTCONN
    else
      let thread ← get
      match ← sys (.smcMsg sess.fd (smcMsgIoctl .POST (thread.messages req))) with
      | .fail err => ttFailIo err
      | .ok _ _ => return .TT_OK ()
  | _, _ => ttFail .EINVAL

def ttSmcPoll (sess : Option Session) (rsp : Option Ref) : C Status := do
  match sess, rsp with
  | some sess, some rsp =>
    if sess.fd < 0 then
      ttFail .ENOTCONN
    else
      match ← sys (.smcMsg sess.fd (smcMsgIoctl .POLL SmcMsg.zero)) with
      | .fail err => ttFailIo err
      | .ok reply _ =>
        modify fun thread ↦
          { thread with messages := Function.update thread.messages rsp reply }
        return .TT_OK ()
  | _, _ => ttFail .EINVAL

/-- The poll loop of `tt_smc_wait`, observed for a number of rounds. -/
def smcWaitLoop (sess : Option Session) (rsp : Option Ref) (budget : ℕ) (start : Timespec) :
    (rounds : ℕ) → (spins : UInt32) → C Status
  | 0, _ => Procedure.stop .unfinished
  | rounds + 1, spins => do
    match ← ttSmcPoll sess rsp with
    | .TT_OK _ => return .TT_OK ()
    | .TT_ERR =>
      let err ← getErrno
      if err ≠ .EAGAIN then
        return .TT_ERR
      else
        let elapsed ← elapsedMs start
        if budget ≤ elapsed then
          ttFail .ETIMEDOUT
        else if SPIN_POLLS ≤ spins then
          let _ ← sys (.usleep POLL_INTERVAL_US)
          smcWaitLoop sess rsp budget start rounds (spins + 1)
        else
          smcWaitLoop sess rsp budget start rounds (spins + 1)

/-- The budget in milliseconds for a timeout argument. -/
def smcBudget (timeout : UInt32) : ℕ :=
  if timeout ≠ 0 then timeout.toNat else TT_SMC_TIMEOUT_DEFAULT

def ttSmcWait (rounds : ℕ) (sess : Option Session) (rsp : Option Ref) (timeout : UInt32) :
    C Status := do
  match sess, rsp with
  | some session, some _ =>
    if session.fd < 0 then
      ttFail .ENOTCONN
    else
      let start ← sys .clockGettime
      smcWaitLoop sess rsp (smcBudget timeout) start rounds 0
  | _, _ => ttFail .EINVAL

def ttSmcDrop (sess : Option Session) : C Status := do
  match sess with
  | some sess =>
    if sess.fd < 0 then
      ttFail .ENOTCONN
    else
      match ← sys (.smcMsg sess.fd (smcMsgIoctl .ABANDON SmcMsg.zero)) with
      | .fail err => ttFailIo err
      | .ok _ _ => return .TT_OK ()
  | none => ttFail .EINVAL

def ttSmcCall (rounds : ℕ) (sess : Option Session) (req rsp : Option Ref) (timeout : UInt32) :
    C Status := do
  if rsp = none then
    ttFail .EINVAL
  else
    match ← ttSmcPost sess req with
    | .TT_ERR => return .TT_ERR
    | .TT_OK _ =>
      match ← ttSmcWait rounds sess rsp timeout with
      | .TT_OK _ => return .TT_OK ()
      | .TT_ERR =>
        let err ← getErrno
        let _ ← ttSmcDrop sess
        ttFail err

/-! ## Invariants

A call keeps what message requests on the session, the clock and sleeping keep.
-/

section Invariants

variable {W : Type} {contract : Contract Sys W} {inv : W → Prop} {sess : Session}

theorem keeps_ttSmcPost (hmsg : ∀ msg, Procedure.Keeps contract inv (sys (.smcMsg sess.fd msg)))
    (req : Option Ref) : Procedure.Keeps contract inv (ttSmcPost (some sess) req) := by
  cases req with
  | none => exact keeps_ttFail _
  | some req =>
    simp only [ttSmcPost]
    split
    · exact keeps_ttFail _
    · refine Procedure.Keeps.bind (fun _ _ hinv ↦ hinv) fun thread ↦ (hmsg _).bind fun reply ↦ ?_
      cases reply with
      | fail err => exact keeps_ttFailIo _
      | ok value residue => exact Procedure.keeps_pure _

theorem keeps_ttSmcPoll (hmsg : ∀ msg, Procedure.Keeps contract inv (sys (.smcMsg sess.fd msg)))
    (rsp : Option Ref) : Procedure.Keeps contract inv (ttSmcPoll (some sess) rsp) := by
  cases rsp with
  | none => exact keeps_ttFail _
  | some rsp =>
    simp only [ttSmcPoll]
    split
    · exact keeps_ttFail _
    · refine (hmsg _).bind fun reply ↦ ?_
      cases reply with
      | fail err => exact keeps_ttFailIo _
      | ok value residue =>
        exact Procedure.Keeps.bind (fun _ _ hinv ↦ hinv) fun _ ↦ Procedure.keeps_pure _

theorem keeps_smcWaitLoop (hmsg : ∀ msg, Procedure.Keeps contract inv (sys (.smcMsg sess.fd msg)))
    (hclock : Procedure.Keeps contract inv (sys .clockGettime))
    (hsleep : ∀ usec, Procedure.Keeps contract inv (sys (.usleep usec)))
    (hstops : contract.tolerates .unfinished) (rsp : Option Ref) (budget : ℕ) (start : Timespec)
    (rounds : ℕ) (spins : UInt32) :
    Procedure.Keeps contract inv (smcWaitLoop (some sess) rsp budget start rounds spins) := by
  induction rounds generalizing spins with
  | zero => exact Procedure.keeps_stop _ hstops
  | succ rounds ih =>
    refine (keeps_ttSmcPoll hmsg rsp).bind fun status ↦ ?_
    cases status with
    | TT_OK => exact Procedure.keeps_pure _
    | TT_ERR =>
      refine keeps_getErrno.bind fun err ↦ ?_
      split
      · exact Procedure.keeps_pure _
      · refine (keeps_elapsedMs hclock start).bind fun elapsed ↦ ?_
        split
        · exact keeps_ttFail _
        · split
          · exact (hsleep _).bind fun _ ↦ ih _
          · exact ih _

theorem keeps_ttSmcWait (hmsg : ∀ msg, Procedure.Keeps contract inv (sys (.smcMsg sess.fd msg)))
    (hclock : Procedure.Keeps contract inv (sys .clockGettime))
    (hsleep : ∀ usec, Procedure.Keeps contract inv (sys (.usleep usec)))
    (hstops : contract.tolerates .unfinished) (rounds : ℕ) (rsp : Option Ref) (timeout : UInt32) :
    Procedure.Keeps contract inv (ttSmcWait rounds (some sess) rsp timeout) := by
  cases rsp with
  | none => exact keeps_ttFail _
  | some rsp =>
    simp only [ttSmcWait]
    split
    · exact keeps_ttFail _
    · exact hclock.bind fun start ↦
        keeps_smcWaitLoop hmsg hclock hsleep hstops _ _ start rounds _

theorem keeps_ttSmcDrop (hmsg : ∀ msg, Procedure.Keeps contract inv (sys (.smcMsg sess.fd msg))) :
    Procedure.Keeps contract inv (ttSmcDrop (some sess)) := by
  simp only [ttSmcDrop]
  split
  · exact keeps_ttFail _
  · refine (hmsg _).bind fun reply ↦ ?_
    cases reply with
    | fail err => exact keeps_ttFailIo _
    | ok value residue => exact Procedure.keeps_pure _

theorem keeps_ttSmcCall (hmsg : ∀ msg, Procedure.Keeps contract inv (sys (.smcMsg sess.fd msg)))
    (hclock : Procedure.Keeps contract inv (sys .clockGettime))
    (hsleep : ∀ usec, Procedure.Keeps contract inv (sys (.usleep usec)))
    (hstops : contract.tolerates .unfinished) (rounds : ℕ) (req rsp : Option Ref)
    (timeout : UInt32) :
    Procedure.Keeps contract inv (ttSmcCall rounds (some sess) req rsp timeout) := by
  unfold ttSmcCall
  split
  · exact keeps_ttFail _
  · refine (keeps_ttSmcPost hmsg req).bind fun posted ↦ ?_
    cases posted with
    | TT_ERR => exact Procedure.keeps_pure _
    | TT_OK =>
      refine (keeps_ttSmcWait hmsg hclock hsleep hstops rounds rsp timeout).bind fun waited ↦ ?_
      cases waited with
      | TT_OK => exact Procedure.keeps_pure _
      | TT_ERR =>
        exact keeps_getErrno.bind fun err ↦
          (keeps_ttSmcDrop hmsg).bind fun _ ↦ keeps_ttFail err

end Invariants

end TtDal.Dev
