import TtDal.Effect.Relation
import TtDal.Safety.MessageExchange

/-!
# One object as request and response

`tt_smc_call` copies the request into the argument of the `ioctl` when it posts, and writes the
response only after a poll succeeded. A call that exchanges a message in place therefore makes the
same requests as one with two objects, and a call that fails has written neither.
-/

namespace TtDal.Safety.CallAliasing

open Effect Platform Dev Driver

/-- Two threads that differ in the caller's message objects only. -/
structure Twins (messages messages' : Ref → SmcMsg) (thread thread' : Thread) : Prop where
  first : thread.messages = messages
  second : thread' = { thread with messages := messages' }

/-- The same result, with nothing written to the objects. -/
def Alike {α : Type} (messages messages' : Ref → SmcMsg) : Procedure.Relation α Thread α Thread :=
  fun value thread value' thread' ↦ value = value' ∧ Twins messages messages' thread thread'

/-- The same status, with nothing written after a failure, and the same reply in both responses
after a success. -/
def Replied (rsp rsp' : Option Ref) (messages messages' : Ref → SmcMsg) :
    Procedure.Relation Status Thread Status Thread :=
  fun status thread status' thread' ↦ status = status' ∧
    match status with
    | .TT_OK _ => ∃ ref ref' reply, rsp = some ref ∧ rsp' = some ref' ∧
        Twins (Function.update messages ref reply) (Function.update messages' ref' reply)
          thread thread'
    | .TT_ERR => Twins messages messages' thread thread'

section Relations

variable {α : Type} {messages messages' : Ref → SmcMsg} {thread thread' : Thread}
  {req rsp req' rsp' : Option Ref}

theorem related_sys (op : Syscall) (h : Twins messages messages' thread thread') :
    Procedure.Related (Alike messages messages') (sys op) (sys op) thread thread' := by
  obtain ⟨hfirst, rfl⟩ := h
  exact .call fun answer ↦ .done ⟨rfl, hfirst, rfl⟩

theorem related_fail (err : Errno) (h : Twins messages messages' thread thread') :
    Procedure.Related (Alike messages messages') (ttFail err : C (Result α)) (ttFail err)
      thread thread' := by
  obtain ⟨hfirst, rfl⟩ := h
  exact .done ⟨rfl, hfirst, rfl⟩

theorem related_getErrno (h : Twins messages messages' thread thread') :
    Procedure.Related (Alike messages messages') getErrno getErrno thread thread' := by
  obtain ⟨hfirst, rfl⟩ := h
  exact .done ⟨rfl, hfirst, rfl⟩

theorem related_elapsedMs (start : Timespec) (h : Twins messages messages' thread thread') :
    Procedure.Related (Alike messages messages') (elapsedMs start) (elapsedMs start)
      thread thread' := by
  obtain ⟨hfirst, rfl⟩ := h
  exact .call fun answer ↦ .done ⟨rfl, hfirst, rfl⟩

/-- A failure writes nothing. -/
theorem related_failed (err : Errno) (h : Twins messages messages' thread thread') :
    Procedure.Related (Replied rsp rsp' messages messages') (ttFail err) (ttFail err)
      thread thread' := by
  obtain ⟨hfirst, rfl⟩ := h
  exact .done ⟨rfl, hfirst, rfl⟩

/-- The request is read before the `ioctl`, and nothing is written. -/
theorem related_post (sess : Option Session) (hreq : req.map messages = req'.map messages')
    (h : Twins messages messages' thread thread') :
    Procedure.Related (Alike messages messages') (ttSmcPost sess req) (ttSmcPost sess req')
      thread thread' := by
  cases sess with
  | none => exact related_fail _ h
  | some sess =>
    cases req with
    | none =>
      rw [Option.map_none, eq_comm, Option.map_eq_none_iff] at hreq
      subst hreq
      exact related_fail _ h
    | some req =>
      obtain ⟨req', rfl, hwords⟩ := Option.map_eq_some_iff.mp hreq.symm
      simp only [ttSmcPost]
      split
      · exact related_fail _ h
      · refine Procedure.related_get.bind fun state s' state' t' hget ↦ ?_
        obtain ⟨rfl, rfl, rfl, rfl⟩ := hget
        have hsame : t'.messages req' = s'.messages req := by
          rw [h.second, h.first]
          exact hwords
        rw [hsame]
        refine (related_sys _ h).bind fun reply s' reply' t' hreply ↦ ?_
        obtain ⟨rfl, htwins⟩ := hreply
        cases reply with
        | ok value residue => exact Procedure.related_pure ⟨rfl, htwins⟩
        | fail err => exact related_fail _ htwins

/-- A poll writes the reply of the driver, and only when it has one. -/
theorem related_poll (sess : Option Session) (hrsp : rsp.isSome = rsp'.isSome)
    (h : Twins messages messages' thread thread') :
    Procedure.Related (Replied rsp rsp' messages messages') (ttSmcPoll sess rsp)
      (ttSmcPoll sess rsp') thread thread' := by
  cases sess with
  | none => exact related_failed _ h
  | some sess =>
    cases rsp with
    | none =>
      obtain rfl : rsp' = none := Option.not_isSome_iff_eq_none.mp (by simp [← hrsp])
      exact related_failed _ h
    | some ref =>
      obtain ⟨ref', rfl⟩ := Option.isSome_iff_exists.mp hrsp.symm
      simp only [ttSmcPoll]
      split
      · exact related_failed _ h
      · refine (related_sys _ h).bind fun reply s' reply' t' hreply ↦ ?_
        obtain ⟨rfl, hfirst, rfl⟩ := hreply
        cases reply with
        | ok reply residue =>
          have hmessages : Function.update s'.messages ref reply =
              Function.update messages ref reply := congrArg (Function.update · ref reply) hfirst
          exact .done ⟨rfl, ref, ref', reply, rfl, rfl, hmessages, rfl⟩
        | fail err => exact related_failed _ ⟨hfirst, rfl⟩

theorem related_waitLoop (sess : Option Session) (hrsp : rsp.isSome = rsp'.isSome) (budget : ℕ)
    (start : Timespec) (rounds : ℕ) (spins : UInt32)
    (h : Twins messages messages' thread thread') :
    Procedure.Related (Replied rsp rsp' messages messages')
      (smcWaitLoop sess rsp budget start rounds spins)
      (smcWaitLoop sess rsp' budget start rounds spins) thread thread' := by
  induction rounds generalizing thread thread' spins with
  | zero => exact Procedure.related_stop _
  | succ rounds ih =>
    rw [smcWaitLoop, smcWaitLoop]
    refine (related_poll sess hrsp h).bind fun status s' status' t' hpoll ↦ ?_
    obtain ⟨rfl, hpoll⟩ := hpoll
    cases status with
    | TT_OK => exact Procedure.related_pure ⟨rfl, hpoll⟩
    | TT_ERR =>
      refine (related_getErrno hpoll).bind fun err s' err' t' herr ↦ ?_
      obtain ⟨rfl, htwins⟩ := herr
      split
      · exact Procedure.related_pure ⟨rfl, htwins⟩
      · refine (related_elapsedMs start htwins).bind fun elapsed s' elapsed' t' hread ↦ ?_
        obtain ⟨rfl, htwins⟩ := hread
        split
        · exact related_failed _ htwins
        · split
          · refine (related_sys _ htwins).bind fun slept s' slept' t' hslept ↦ ?_
            exact ih _ hslept.2
          · exact ih _ htwins

theorem related_wait (sess : Option Session) (hrsp : rsp.isSome = rsp'.isSome) (rounds : ℕ)
    (timeout : UInt32) (h : Twins messages messages' thread thread') :
    Procedure.Related (Replied rsp rsp' messages messages') (ttSmcWait rounds sess rsp timeout)
      (ttSmcWait rounds sess rsp' timeout) thread thread' := by
  cases sess with
  | none => exact related_failed _ h
  | some sess =>
    cases rsp with
    | none =>
      obtain rfl : rsp' = none := Option.not_isSome_iff_eq_none.mp (by simp [← hrsp])
      exact related_failed _ h
    | some ref =>
      obtain ⟨ref', rfl⟩ := Option.isSome_iff_exists.mp hrsp.symm
      simp only [ttSmcWait]
      split
      · exact related_failed _ h
      · refine (related_sys _ h).bind fun opened s' opened' t' hclock ↦ ?_
        obtain ⟨rfl, htwins⟩ := hclock
        exact related_waitLoop (some sess) hrsp _ _ rounds 0 htwins

theorem related_drop (sess : Option Session) (h : Twins messages messages' thread thread') :
    Procedure.Related (Alike messages messages') (ttSmcDrop sess) (ttSmcDrop sess)
      thread thread' := by
  cases sess with
  | none => exact related_fail _ h
  | some sess =>
    simp only [ttSmcDrop]
    split
    · exact related_fail _ h
    · refine (related_sys _ h).bind fun reply s' reply' t' hreply ↦ ?_
      obtain ⟨rfl, htwins⟩ := hreply
      cases reply with
      | ok value residue => exact Procedure.related_pure ⟨rfl, htwins⟩
      | fail err => exact related_fail _ htwins

/-- Two calls with the same words to send. -/
theorem related_call (rounds : ℕ) (sess : Option Session) (timeout : UInt32)
    (hreq : req.map messages = req'.map messages') (hrsp : rsp.isSome = rsp'.isSome)
    (h : Twins messages messages' thread thread') :
    Procedure.Related (Replied rsp rsp' messages messages') (ttSmcCall rounds sess req rsp timeout)
      (ttSmcCall rounds sess req' rsp' timeout) thread thread' := by
  have hnone : rsp = none ↔ rsp' = none := by
    rw [← Option.not_isSome_iff_eq_none, ← Option.not_isSome_iff_eq_none, hrsp]
  simp only [ttSmcCall, hnone]
  split
  · exact related_failed _ h
  · refine (related_post sess hreq h).bind fun status s' status' t' hpost ↦ ?_
    obtain ⟨rfl, htwins⟩ := hpost
    cases status with
    | TT_ERR => exact Procedure.related_pure ⟨rfl, htwins⟩
    | TT_OK =>
      refine (related_wait sess hrsp rounds timeout htwins).bind fun status s' status' t' hwait ↦ ?_
      obtain ⟨rfl, hwait⟩ := hwait
      cases status with
      | TT_OK => exact Procedure.related_pure ⟨rfl, hwait⟩
      | TT_ERR =>
        refine (related_getErrno hwait).bind fun err s' err' t' herr ↦ ?_
        obtain ⟨rfl, htwins⟩ := herr
        refine (related_drop sess htwins).bind fun dropped s' dropped' t' hdrop ↦ ?_
        exact related_failed _ hdrop.2

end Relations

/-! ## The calls -/

/-- What a call leaves of the caller's objects. -/
structure Spares (rsp : Option Ref) (thread : Thread) (status : Status) (thread' : Thread) :
    Prop where
  failed : status = .TT_ERR → thread'.messages = thread.messages
  others : ∀ ref, some ref ≠ rsp → thread'.messages ref = thread.messages ref

/-- A call in place and a call with two objects have done the same. -/
structure Matches (ref rsp : Ref) (inPlace apart : Thread) (status : Status)
    (inPlace' apart' : Thread) : Prop where
  errno : inPlace'.errno = apart'.errno
  response : status = .TT_OK () → inPlace'.messages ref = apart'.messages rsp
  inPlace : Spares (some ref) inPlace status inPlace'
  apart : Spares (some rsp) apart status apart'

section Calls

variable {W : Type} {contract : Contract Sys W} {w w' : W} {sess : Option Session} {rounds : ℕ}
  {timeout : UInt32} {thread thread' inPlace apart inPlace' apart' : Thread}
  {trace : List (Event Sys)} {status status' : Status} {ref req rsp : Ref}

theorem spares_update (thread : Thread) (ref : Ref) (reply : SmcMsg)
    (h : thread'.messages = Function.update thread.messages ref reply) :
    Spares (some ref) thread (.TT_OK ()) thread' where
  failed := nofun
  others other hne := by rw [h, Function.update_of_ne (mt (congrArg some) hne)]

theorem Replied.matches (h : Replied (some ref) (some rsp) inPlace.messages apart.messages status
    inPlace' status' apart') : Matches ref rsp inPlace apart status inPlace' apart' := by
  obtain ⟨rfl, hreplied⟩ := h
  cases status with
  | TT_OK =>
    obtain ⟨_, _, reply, href, href', hfirst, rfl⟩ := hreplied
    obtain rfl := Option.some.inj href
    obtain rfl := Option.some.inj href'
    exact
      { errno := rfl
        response := fun _ ↦ by
          have hsecond : Function.update apart.messages rsp reply rsp = reply :=
            Function.update_self ..
          rw [hfirst, Function.update_self]
          exact hsecond.symm
        inPlace := spares_update _ _ reply hfirst
        apart := spares_update _ _ reply rfl }
  | TT_ERR =>
    obtain ⟨hfirst, rfl⟩ := hreplied
    exact
      { errno := rfl
        response := nofun
        inPlace := ⟨fun _ ↦ hfirst, fun other _ ↦ by rw [hfirst]⟩
        apart := ⟨fun _ ↦ rfl, fun _ _ ↦ rfl⟩ }

/-- A call is its own twin. -/
theorem call_spares {req rsp : Option Ref}
    (hrun : Procedure.Executes contract (ttSmcCall rounds sess req rsp timeout) thread w trace
      status thread' w') : Spares rsp thread status thread' := by
  have htwins : Twins thread.messages thread.messages thread thread := ⟨rfl, rfl⟩
  obtain ⟨status', _, -, rfl, hreplied⟩ :=
    (related_call rounds sess timeout rfl rfl htwins).executes hrun
  cases status with
  | TT_OK =>
    obtain ⟨ref, _, reply, rfl, -, hfirst, -⟩ := hreplied
    exact spares_update _ _ reply hfirst
  | TT_ERR => exact ⟨fun _ ↦ hreplied.first, fun _ _ ↦ by rw [hreplied.first]⟩

/-- Exchanging a message in place makes the same requests with the same words, ends with the same
status and `errno` and leaves the same response as with a request and a response apart. No call
that fails writes to an object, and none writes to an object other than its response. -/
theorem call_in_place_matches (contract : Contract Sys W) (w : W) (rounds : ℕ)
    (sess : Option Session) (timeout : UInt32) :
    (∀ ref req rsp inPlace apart, req ≠ rsp →
      Twins inPlace.messages apart.messages inPlace apart →
      inPlace.messages ref = apart.messages req →
        (∀ trace status inPlace' w', Procedure.Executes contract
            (ttSmcCall rounds sess (some ref) (some ref) timeout) inPlace w trace status
            inPlace' w' →
          ∃ apart', Procedure.Executes contract
            (ttSmcCall rounds sess (some req) (some rsp) timeout) apart w trace status apart' w' ∧
            Matches ref rsp inPlace apart status inPlace' apart') ∧
        (∀ trace status apart' w', Procedure.Executes contract
            (ttSmcCall rounds sess (some req) (some rsp) timeout) apart w trace status apart' w' →
          ∃ inPlace', Procedure.Executes contract
            (ttSmcCall rounds sess (some ref) (some ref) timeout) inPlace w trace status
            inPlace' w' ∧ Matches ref rsp inPlace apart status inPlace' apart') ∧
        ∀ trace reason w', Procedure.Stops contract
            (ttSmcCall rounds sess (some ref) (some ref) timeout) inPlace w trace reason w' ↔
          Procedure.Stops contract (ttSmcCall rounds sess (some req) (some rsp) timeout) apart w
            trace reason w') ∧
    ∀ req rsp thread trace status thread' w', Procedure.Executes contract
        (ttSmcCall rounds sess req rsp timeout) thread w trace status thread' w' →
      Spares rsp thread status thread' := by
  constructor
  · intro ref req rsp inPlace apart _ htwins hwords
    have hreq : (some ref).map inPlace.messages = (some req).map apart.messages :=
      congrArg some hwords
    have hrsp : (some ref).isSome = (some rsp).isSome := rfl
    have hrelated := related_call rounds sess timeout hreq hrsp htwins
    refine ⟨fun trace status inPlace' w' hrun ↦ ?_, fun trace status apart' w' hrun ↦ ?_,
      fun trace reason w' ↦ ⟨hrelated.stops, hrelated.flip.stops⟩⟩
    · obtain ⟨status', apart', hrun', hreplied⟩ := hrelated.executes hrun
      obtain rfl := hreplied.1
      exact ⟨apart', hrun', hreplied.matches⟩
    · obtain ⟨status', inPlace', hrun', hreplied⟩ := hrelated.flip.executes hrun
      obtain rfl := hreplied.1
      exact ⟨inPlace', hrun', hreplied.matches⟩
  · exact fun _ _ _ _ _ _ _ hrun ↦ call_spares hrun

end Calls

/-- A message is answered by the first poll. -/
def answeredTrace : List (Event Sys) :=
  [⟨.smcMsg 3 (smcMsgIoctl .POST SmcMsg.zero), .ok SmcMsg.zero (.other 0)⟩,
    ⟨.clockGettime, { sec := 0, nsec := 0 }⟩,
    ⟨.smcMsg 3 (smcMsgIoctl .POLL SmcMsg.zero), .ok SmcMsg.zero (.other 0)⟩]

/-- The same reply is read in place and apart. -/
theorem answered_call_matches : ∃ inPlace' apart',
    Procedure.Executes .anything (ttSmcCall 1 (some sampleSession) (some 1) (some 2) 0)
      Thread.initial () answeredTrace (.TT_OK ()) apart' () ∧
    Matches 1 2 Thread.initial Thread.initial (.TT_OK ()) inPlace' apart' := by
  have hmatches := (call_in_place_matches .anything () 1 (some sampleSession) 0).1 1 1 2
    Thread.initial Thread.initial (by decide) ⟨rfl, rfl⟩ rfl
  obtain ⟨inPlace', hrun⟩ : ∃ inPlace', Procedure.Executes .anything
      (ttSmcCall 1 (some sampleSession) (some 1) (some 1) 0) Thread.initial ()
      answeredTrace (.TT_OK ()) inPlace' () :=
    ⟨_, .answered (.answered (.answered .done))⟩
  obtain ⟨apart', hrun', hsame⟩ := hmatches.1 _ _ _ _ hrun
  exact ⟨inPlace', apart', hrun', hsame⟩

end TtDal.Safety.CallAliasing
