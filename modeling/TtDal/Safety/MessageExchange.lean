import TtDal.Dev.Smc
import TtDal.Driver.Mailbox

/-!
# Message exchange on one session

The five messaging functions run in any order on one open session, against a driver whose slot
changes on its own between any two system calls. A response always answers the latest message and
is returned once, a message is never overwritten or thrown away unread by the functions that read,
and a call cleans up what it posted.
-/

namespace TtDal.Safety.MessageExchange

open Effect Platform Dev Driver

open Mailbox (Progressed Consistent)

/-- A call, with its pointers and the number of poll rounds it is observed for. -/
inductive Operation where
  | post (req : Option Ref)
  | poll (rsp : Option Ref)
  | wait (rounds : ℕ) (rsp : Option Ref) (timeout : UInt32)
  | drop
  | call (rounds : ℕ) (req rsp : Option Ref) (timeout : UInt32)
  deriving DecidableEq

def Operation.run (sess : Session) : Operation → C Status
  | .post req => ttSmcPost (some sess) req
  | .poll rsp => ttSmcPoll (some sess) rsp
  | .wait rounds rsp timeout => ttSmcWait rounds (some sess) rsp timeout
  | .drop => ttSmcDrop (some sess)
  | .call rounds req rsp timeout => ttSmcCall rounds (some sess) req rsp timeout

/-- Where an operation writes a response. -/
def Operation.response : Operation → Option Ref
  | .post _ | .drop => none
  | .poll rsp | .wait _ rsp _ | .call _ _ rsp _ => rsp

structure State where
  mailbox : Mailbox
  thread : Thread

inductive Label where
  | exchange
  | returned (operation : Operation) (status : Status)
  deriving DecidableEq

/-- The controller resolves the outstanding message, or a call runs to its end. -/
inductive Moves (sess : Session) : State → Label → State → Prop where
  | exchange {s : State} {mailbox : Mailbox} : Mailbox.Progress s.mailbox mailbox →
      Moves sess s .exchange { s with mailbox := mailbox }
  | call {s : State} {operation : Operation} {status : Status} {trace : List (Event Sys)}
      {thread : Thread} {mailbox : Mailbox} :
      Procedure.Executes (Mailbox.contract sess.fd) (operation.run sess) s.thread s.mailbox trace
        status thread mailbox →
      Moves sess s (.returned operation status) { mailbox := mailbox, thread := thread }

/-- Nothing was posted yet. -/
def Starts (s : State) : Prop :=
  s.mailbox = { slot := .idle, posted := [], answered := [], taken := [], dropped := [] }

def system (sess : Session) : System State Label where
  starts := Starts
  moves := Moves sess

/-! ## Specifications of the functions -/

/-- What a reading function leaves behind: a success took a reply that was ready, and a failure
left the slot to the controller or reported a failed exchange. -/
def Reads (rsp : Option Ref) (messages : Ref → SmcMsg) (mailbox : Mailbox) :
    Procedure.Post Sys Status Thread Mailbox :=
  fun _ status thread' mailbox' ↦
    match status with
    | .TT_OK _ => ∃ ref middle message reply, rsp = some ref ∧ Progressed mailbox middle ∧
        middle.slot = .ready message reply ∧ mailbox' = middle.take message ∧
        thread'.messages = Function.update messages ref reply
    | .TT_ERR => thread'.messages = messages ∧ (Progressed mailbox mailbox' ∨
        ∃ middle message err, Progressed mailbox middle ∧ middle.slot = .failed message err ∧
          mailbox' = middle.consume)

section Specifications

variable {sess : Session} {thread thread' : Thread} {mailbox middle mailbox' : Mailbox}
  {rsp : Option Ref} {messages : Ref → SmcMsg} {trace trace' : List (Event Sys)} {status : Status}

theorem Reads.after (hprogress : Progressed mailbox middle)
    (h : Reads rsp messages middle trace status thread' mailbox') :
    Reads rsp messages mailbox trace' status thread' mailbox' := by
  cases status with
  | TT_OK =>
    obtain ⟨ref, last, message, reply, hrsp, hlast, hrest⟩ := h
    exact ⟨ref, last, message, reply, hrsp, hprogress.trans hlast, hrest⟩
  | TT_ERR =>
    refine ⟨h.1, ?_⟩
    rcases h.2 with hleft | ⟨last, message, err, hlast, hrest⟩
    · exact .inl (hprogress.trans hleft)
    · exact .inr ⟨last, message, err, hprogress.trans hlast, hrest⟩

theorem wp_post (hfd : 0 ≤ sess.fd) (req : Option Ref) :
    Procedure.wp (Mailbox.contract sess.fd) (ttSmcPost (some sess) req)
      (fun _ status thread' mailbox' ↦ thread'.messages = thread.messages ∧
        match status with
        | .TT_OK _ => ∃ ref, req = some ref ∧ mailbox.slot = .idle ∧
            mailbox' = mailbox.post (thread.messages ref)
        | .TT_ERR => Progressed mailbox mailbox' ∧
            (req ≠ none → mailbox.slot ≠ .idle → thread'.errno = .EBUSY)) thread mailbox := by
  cases req with
  | none => exact ⟨rfl, .refl, fun h ↦ absurd rfl h⟩
  | some ref =>
    simp only [ttSmcPost, if_neg (Int.not_lt.mpr hfd), Procedure.wp_bind, Procedure.wp_get, wp_sys]
    refine ⟨fun _ _ ↦ trivial, fun answer mailbox' hanswer ↦ ?_⟩
    obtain ⟨middle, hprogress, hanswer⟩ := Mailbox.contract_answers.mp hanswer
    cases answer with
    | fail err =>
      obtain ⟨hbusy, rfl⟩ := hanswer
      refine ⟨rfl, hprogress, fun _ hslot ↦ ?_⟩
      have herr : err = .EBUSY := hbusy.mpr (mt hprogress.slot_idle_iff.mp hslot)
      subst herr
      rfl
    | ok value residue =>
      obtain ⟨hidle, rfl⟩ := hanswer
      have hslot := hprogress.slot_idle_iff.mp hidle
      obtain rfl := hprogress.eq_of_idle hslot
      exact ⟨rfl, ref, rfl, hslot, rfl⟩

/-- A poll reads the slot once; `EAGAIN` means that it changed nothing. -/
theorem wp_poll (hfd : 0 ≤ sess.fd) (h : mailbox.Consistent) (rsp : Option Ref) :
    Procedure.wp (Mailbox.contract sess.fd) (ttSmcPoll (some sess) rsp)
      (fun trace status thread' mailbox' ↦
        Reads rsp thread.messages mailbox trace status thread' mailbox' ∧
        (status = .TT_ERR → thread'.errno = .EAGAIN → Progressed mailbox mailbox'))
      thread mailbox := by
  cases rsp with
  | none => exact ⟨⟨rfl, .inl .refl⟩, fun _ h ↦ by cases h⟩
  | some ref =>
    simp only [ttSmcPoll, if_neg (Int.not_lt.mpr hfd), Procedure.wp_bind, wp_sys]
    refine ⟨fun _ _ ↦ trivial, fun answer mailbox' hanswer ↦ ?_⟩
    obtain ⟨middle, hprogress, hanswer⟩ := Mailbox.contract_answers.mp hanswer
    cases answer with
    | ok reply residue =>
      obtain ⟨message, hslot, rfl⟩ := hanswer
      exact ⟨⟨ref, middle, message, reply, rfl, hprogress, hslot, rfl, rfl⟩, fun h ↦ by cases h⟩
    | fail err =>
      cases hslot : middle.slot with
      | idle =>
        simp only [Mailbox.answersMessage, Mailbox.answersPoll, smcMsgIoctl, hslot] at hanswer
        obtain ⟨-, rfl⟩ := hanswer
        exact ⟨⟨rfl, .inl hprogress⟩, fun _ _ ↦ hprogress⟩
      | pending message =>
        simp only [Mailbox.answersMessage, Mailbox.answersPoll, smcMsgIoctl, hslot] at hanswer
        obtain ⟨-, rfl⟩ := hanswer
        exact ⟨⟨rfl, .inl hprogress⟩, fun _ _ ↦ hprogress⟩
      | ready message reply =>
        simp only [Mailbox.answersMessage, Mailbox.answersPoll, smcMsgIoctl, hslot] at hanswer
      | failed message err' =>
        simp only [Mailbox.answersMessage, Mailbox.answersPoll, smcMsgIoctl, hslot] at hanswer
        obtain ⟨rfl, rfl⟩ := hanswer
        have hgenuine := (h.progressed hprogress).genuine message err hslot
        refine ⟨⟨rfl, .inr ⟨middle, message, err, hprogress, hslot, rfl⟩⟩, fun _ herrno ↦ ?_⟩
        exact absurd (normalise_eq_EAGAIN.mp herrno) hgenuine.1

/-- Each round of the loop reads the slot once, and the controller goes on in between. -/
theorem wp_waitLoop (hfd : 0 ≤ sess.fd) (h : mailbox.Consistent) (rsp : Option Ref) (budget : ℕ)
    (start : Timespec) (rounds : ℕ) (spins : UInt32) :
    Procedure.wp (Mailbox.contract sess.fd)
      (smcWaitLoop (some sess) rsp budget start rounds spins)
      (Reads rsp thread.messages mailbox) thread mailbox := by
  induction rounds generalizing mailbox thread spins with
  | zero => exact trivial
  | succ rounds ih =>
    refine Procedure.wp_call (wp_poll hfd h rsp) fun _ status polled middle hpoll ↦ ?_
    obtain ⟨hreads, hagain⟩ := hpoll
    cases status with
    | TT_OK => exact hreads
    | TT_ERR =>
      simp only [Procedure.wp_bind, wp_getErrno]
      split
      · exact hreads
      · rename_i herrno
        have hprogress := hagain rfl (not_not.mp herrno)
        simp only [Procedure.wp_bind, wp_elapsedMs]
        refine ⟨fun _ _ ↦ trivial, fun now later hclock ↦ ?_⟩
        obtain ⟨_, hlater, rfl⟩ := hclock
        have hloop := hprogress.trans hlater
        split
        · exact ⟨hreads.1, .inl hloop⟩
        · split
          · simp only [Procedure.wp_bind, wp_sys]
            refine ⟨fun _ _ ↦ trivial, fun slept rested hsleep ↦ ?_⟩
            obtain ⟨_, hrested, rfl⟩ := hsleep
            refine Procedure.wp_mono (ih (h.progressed (hloop.trans hrested)) (spins + 1)) ?_
            intro _ status' thread' mailbox' hrest
            exact (hreads.1 ▸ hrest : Reads rsp thread.messages _ _ _ _ _).after
              (hloop.trans hrested)
          · refine Procedure.wp_mono (ih (h.progressed hloop) (spins + 1)) ?_
            intro _ status' thread' mailbox' hrest
            exact (hreads.1 ▸ hrest : Reads rsp thread.messages _ _ _ _ _).after hloop

theorem wp_wait (hfd : 0 ≤ sess.fd) (h : mailbox.Consistent) (rounds : ℕ) (rsp : Option Ref)
    (timeout : UInt32) :
    Procedure.wp (Mailbox.contract sess.fd) (ttSmcWait rounds (some sess) rsp timeout)
      (Reads rsp thread.messages mailbox) thread mailbox := by
  cases rsp with
  | none => exact ⟨rfl, .inl .refl⟩
  | some ref =>
    simp only [ttSmcWait, if_neg (Int.not_lt.mpr hfd), Procedure.wp_bind, wp_sys]
    refine ⟨fun _ _ ↦ trivial, fun start later hclock ↦ ?_⟩
    obtain ⟨_, hlater, rfl⟩ := hclock
    refine Procedure.wp_mono (wp_waitLoop hfd (h.progressed hlater) (some ref) _ start rounds 0) ?_
    intro _ status thread' mailbox' hrest
    exact hrest.after hlater

/-- A failed poll that is not to be repeated leaves no message outstanding. -/
theorem poll_settles (hfd : 0 ≤ sess.fd) (ref : Ref) :
    Procedure.wp (Mailbox.contract sess.fd) (ttSmcPoll (some sess) (some ref))
      (fun _ status thread' mailbox' ↦ status = .TT_ERR → thread'.errno ≠ .EAGAIN →
        mailbox'.slot = .idle) thread mailbox := by
  simp only [ttSmcPoll, if_neg (Int.not_lt.mpr hfd), Procedure.wp_bind, wp_sys]
  refine ⟨fun _ _ ↦ trivial, fun answer mailbox' hanswer ↦ ?_⟩
  obtain ⟨middle, -, hanswer⟩ := Mailbox.contract_answers.mp hanswer
  cases answer with
  | ok reply residue => simp
  | fail err =>
    intro _ herrno
    have hagain : err ≠ .EAGAIN := mt normalise_eq_EAGAIN.mpr herrno
    simp only [Mailbox.answersMessage, Mailbox.answersPoll, smcMsgIoctl] at hanswer
    cases hslot : middle.slot with
    | idle =>
      rw [hslot] at hanswer
      exact hanswer.2 ▸ hslot
    | pending message =>
      rw [hslot] at hanswer
      exact absurd hanswer.1 hagain
    | ready message reply =>
      rw [hslot] at hanswer
      exact hanswer.elim
    | failed message err' =>
      rw [hslot] at hanswer
      exact hanswer.2 ▸ rfl

/-- The wait goes on while the reply is pending, so only running out of time leaves a message
outstanding. -/
theorem waitLoop_settles (hfd : 0 ≤ sess.fd) (ref : Ref) (budget : ℕ) (start : Timespec)
    (rounds : ℕ) (spins : UInt32) :
    Procedure.wp (Mailbox.contract sess.fd)
      (smcWaitLoop (some sess) (some ref) budget start rounds spins)
      (fun _ status thread' mailbox' ↦ status = .TT_ERR → thread'.errno ≠ .ETIMEDOUT →
        mailbox'.slot = .idle) thread mailbox := by
  induction rounds generalizing mailbox thread spins with
  | zero => exact trivial
  | succ rounds ih =>
    refine Procedure.wp_call (poll_settles hfd ref) fun _ status polled middle hpoll ↦ ?_
    cases status with
    | TT_OK => exact nofun
    | TT_ERR =>
      simp only [Procedure.wp_bind, wp_getErrno]
      split
      · rename_i herrno
        exact fun _ _ ↦ hpoll rfl herrno
      · simp only [Procedure.wp_bind, wp_elapsedMs]
        refine ⟨fun _ _ ↦ trivial, fun now later _ ↦ ?_⟩
        split
        · exact fun _ htimeout ↦ absurd rfl htimeout
        · split
          · simp only [Procedure.wp_bind, wp_sys]
            exact ⟨fun _ _ ↦ trivial, fun _ _ _ ↦ ih (spins + 1)⟩
          · exact ih (spins + 1)

theorem wait_settles (hfd : 0 ≤ sess.fd) (rounds : ℕ) (ref : Ref) (timeout : UInt32) :
    Procedure.wp (Mailbox.contract sess.fd) (ttSmcWait rounds (some sess) (some ref) timeout)
      (fun _ status thread' mailbox' ↦ status = .TT_ERR → thread'.errno ≠ .ETIMEDOUT →
        mailbox'.slot = .idle) thread mailbox := by
  simp only [ttSmcWait, if_neg (Int.not_lt.mpr hfd), Procedure.wp_bind, wp_sys]
  exact ⟨fun _ _ ↦ trivial, fun start _ _ ↦ waitLoop_settles hfd ref _ start rounds 0⟩

theorem wp_drop (hfd : 0 ≤ sess.fd) :
    Procedure.wp (Mailbox.contract sess.fd) (ttSmcDrop (some sess))
      (fun _ status thread' mailbox' ↦ thread'.messages = thread.messages ∧ status = .TT_OK () ∧
        ∃ middle, Progressed mailbox middle ∧ mailbox' = middle.abandon) thread mailbox := by
  simp only [ttSmcDrop, if_neg (Int.not_lt.mpr hfd), Procedure.wp_bind, wp_sys]
  refine ⟨fun _ _ ↦ trivial, fun answer mailbox' hanswer ↦ ?_⟩
  obtain ⟨middle, hprogress, hanswer⟩ := Mailbox.contract_answers.mp hanswer
  cases answer with
  | fail err => exact hanswer.elim
  | ok value residue =>
    obtain rfl := hanswer
    exact ⟨rfl, rfl, middle, hprogress, rfl⟩

/-- What a call leaves behind: it failed to post, or it posted into an empty slot and then read
the reply or dropped the message. -/
def Calls (req rsp : Option Ref) (messages : Ref → SmcMsg) (mailbox : Mailbox) :
    Procedure.Post Sys Status Thread Mailbox :=
  fun trace status thread' mailbox' ↦
    match status with
    | .TT_OK _ => ∃ ref, req = some ref ∧ mailbox.slot = .idle ∧
        Reads rsp messages (mailbox.post (messages ref)) trace (.TT_OK ()) thread' mailbox'
    | .TT_ERR => thread'.messages = messages ∧
        (Progressed mailbox mailbox' ∧
          (req ≠ none → rsp ≠ none → mailbox.slot ≠ .idle → thread'.errno = .EBUSY) ∨
        ∃ ref middle last, mailbox.slot = .idle ∧
          Reads rsp messages (mailbox.post (messages ref)) trace .TT_ERR thread' middle ∧
          Progressed middle last ∧ mailbox' = last.abandon)

theorem wp_smcCall (hfd : 0 ≤ sess.fd) (h : mailbox.Consistent) (rounds : ℕ)
    (req rsp : Option Ref) (timeout : UInt32) :
    Procedure.wp (Mailbox.contract sess.fd) (ttSmcCall rounds (some sess) req rsp timeout)
      (Calls req rsp thread.messages mailbox) thread mailbox := by
  unfold ttSmcCall
  split
  · rename_i hrsp
    exact ⟨rfl, .inl ⟨.refl, fun _ hne ↦ absurd hrsp hne⟩⟩
  · refine Procedure.wp_call (wp_post hfd req) fun _ status posted middle hpost ↦ ?_
    cases status with
    | TT_ERR => exact ⟨hpost.1, .inl ⟨hpost.2.1, fun hreq _ ↦ hpost.2.2 hreq⟩⟩
    | TT_OK =>
      obtain ⟨hmessages, ref, hreq, hidle, rfl⟩ := hpost
      refine Procedure.wp_call (wp_wait hfd (h.post _) rounds rsp timeout)
        fun _ status waited middle hwait ↦ ?_
      rw [hmessages] at hwait
      cases status with
      | TT_OK => exact ⟨ref, hreq, hidle, hwait⟩
      | TT_ERR =>
        simp only [Procedure.wp_bind, wp_getErrno]
        refine Procedure.wp_mono (wp_drop hfd) fun _ _ dropped last hdrop ↦ ?_
        obtain ⟨hsame, -, after, hafter, rfl⟩ := hdrop
        have hkept : dropped.messages = thread.messages := hsame.trans hwait.1
        exact ⟨hkept, .inr ⟨ref, middle, after, hidle, ⟨hkept, hwait.2⟩, hafter, rfl⟩⟩

end Specifications

/-! ## Runs -/

/-- A call whose pointers are all given and that would post a message. -/
def Operation.Posts : Operation → Prop
  | .post req => req ≠ none
  | .call _ req rsp _ => req ≠ none ∧ rsp ≠ none
  | .poll _ | .wait _ _ _ | .drop => False

/-- A function that only reads. -/
def Operation.OnlyReads : Operation → Prop
  | .poll _ | .wait _ _ _ => True
  | .post _ | .drop | .call _ _ _ _ => False

/-- What a returned call has done to the slot and to the caller's response. -/
structure Exchanged (s : State) (operation : Operation) (status : Status) (s' : State) : Prop where
  /-- A response is the reply to the latest message, and it was not returned before. -/
  response : ∀ rsp, operation.response = some rsp → status = .TT_OK () →
    ∃ message, message + 1 = s'.mailbox.posted.length ∧
      (message, s'.thread.messages rsp) ∈ s'.mailbox.answered ∧
      (∀ reply, (message, reply) ∈ s'.mailbox.answered → reply = s'.thread.messages rsp) ∧
      message ∉ s.mailbox.taken ∧ s'.mailbox.taken = message :: s.mailbox.taken
  /-- No reply is taken otherwise. -/
  untaken : operation.response = none ∨ status = .TT_ERR → s'.mailbox.taken = s.mailbox.taken
  /-- Reading abandons nothing, and a message that is gone had been resolved. -/
  undiscarded : operation.OnlyReads → s'.mailbox.dropped = s.mailbox.dropped ∧
    (s'.mailbox.slot.message = s.mailbox.slot.message ∨
      ∃ middle message, Progressed s.mailbox middle ∧ s.mailbox.slot.message = some message ∧
        ((∃ reply, middle.slot = .ready message reply) ∨ ∃ err, middle.slot = .failed message err))
  /-- Posting over an outstanding message fails, and only the controller changes the slot. -/
  occupied : operation.Posts → s.mailbox.slot ≠ .idle →
    status = .TT_ERR ∧ s'.thread.errno = .EBUSY ∧ Progressed s.mailbox s'.mailbox
  /-- A message is posted into an empty slot, or not at all. -/
  kept : s'.mailbox.posted = s.mailbox.posted ∨
    s.mailbox.slot = .idle ∧ ∃ request, s'.mailbox.posted = s.mailbox.posted ++ [request]
  /-- A call that finds the slot empty leaves it empty. -/
  clean : ∀ rounds req rsp timeout, operation = .call rounds req rsp timeout →
    s.mailbox.slot = .idle → s'.mailbox.slot = .idle
  consistent : s'.mailbox.Consistent

section Runs

variable {sess : Session} {s s' : State} {mailbox mailbox' middle : Mailbox} {messages : Ref → SmcMsg}
  {rsp : Option Ref} {trace : List (Event Sys)} {status : Status}

/-- A success of a reading function, in terms of the history. -/
theorem Reads.response (h : mailbox.Consistent) {ref : Ref} {thread' : Thread}
    (hread : Reads (some ref) messages mailbox trace (.TT_OK ()) thread' mailbox') :
    ∃ message, message + 1 = mailbox'.posted.length ∧
      (message, thread'.messages ref) ∈ mailbox'.answered ∧
      (∀ reply, (message, reply) ∈ mailbox'.answered → reply = thread'.messages ref) ∧
      message ∉ mailbox.taken ∧ mailbox'.taken = message :: mailbox.taken := by
  obtain ⟨ref', middle, message, reply, hrsp, hprogress, hslot, rfl, hmessages⟩ := hread
  obtain rfl := Option.some.inj hrsp
  have hmiddle := h.progressed hprogress
  have hmessage : middle.slot.message = some message := by rw [hslot]; rfl
  have hreply : thread'.messages ref = reply := by rw [hmessages, Function.update_self]
  have hready := hmiddle.ready message reply hslot
  rw [hreply]
  refine ⟨message, hmiddle.latest message hmessage, hready,
    fun reply' hmem ↦ hmiddle.unique message reply' reply hmem hready, ?_, ?_⟩
  · rw [← hprogress.frame.2.2.1]
    exact hmiddle.unread message hmessage
  · rw [Mailbox.take, hprogress.frame.2.2.1]

theorem Reads.consistent (h : mailbox.Consistent) {thread' : Thread}
    (hread : Reads rsp messages mailbox trace status thread' mailbox') : mailbox'.Consistent := by
  cases status with
  | TT_OK =>
    obtain ⟨_, middle, message, reply, _, hprogress, hslot, rfl, _⟩ := hread
    exact (h.progressed hprogress).take hslot
  | TT_ERR =>
    rcases hread.2 with hprogress | ⟨middle, message, err, hprogress, hslot, rfl⟩
    · exact h.progressed hprogress
    · exact (h.progressed hprogress).consume

/-- A reading function only touches the slot and the list of replies it took. -/
theorem Reads.frame {thread' : Thread}
    (hread : Reads rsp messages mailbox trace status thread' mailbox') :
    mailbox'.posted = mailbox.posted ∧ mailbox'.dropped = mailbox.dropped ∧
      (status = .TT_ERR → mailbox'.taken = mailbox.taken) := by
  cases status with
  | TT_OK =>
    obtain ⟨_, middle, message, reply, _, hprogress, _, rfl, _⟩ := hread
    exact ⟨hprogress.frame.2.1, hprogress.frame.2.2.2, fun h ↦ by cases h⟩
  | TT_ERR =>
    rcases hread.2 with hprogress | ⟨middle, message, err, hprogress, _, rfl⟩
    · exact ⟨hprogress.frame.2.1, hprogress.frame.2.2.2, fun _ ↦ hprogress.frame.2.2.1⟩
    · exact ⟨hprogress.frame.2.1, hprogress.frame.2.2.2, fun _ ↦ hprogress.frame.2.2.1⟩

/-- A message that a reading function removed from the slot had been resolved. -/
theorem Reads.resolved {thread' : Thread}
    (hread : Reads rsp messages mailbox trace status thread' mailbox') :
    mailbox'.slot.message = mailbox.slot.message ∨
      ∃ middle message, Progressed mailbox middle ∧ mailbox.slot.message = some message ∧
        ((∃ reply, middle.slot = .ready message reply) ∨
          ∃ err, middle.slot = .failed message err) := by
  cases status with
  | TT_OK =>
    obtain ⟨_, middle, message, reply, _, hprogress, hslot, rfl, _⟩ := hread
    refine .inr ⟨middle, message, hprogress, ?_, .inl ⟨reply, hslot⟩⟩
    rw [← hprogress.frame.1, hslot]
    rfl
  | TT_ERR =>
    rcases hread.2 with hprogress | ⟨middle, message, err, hprogress, hslot, rfl⟩
    · exact .inl hprogress.frame.1
    · refine .inr ⟨middle, message, hprogress, ?_, .inr ⟨err, hslot⟩⟩
      rw [← hprogress.frame.1, hslot]
      rfl

/-- The exchange of a function that only reads. -/
theorem Reads.exchanged (h : s.mailbox.Consistent) {operation : Operation}
    (honly : operation.OnlyReads)
    (hread : Reads operation.response s.thread.messages s.mailbox trace status s'.thread
      s'.mailbox) : Exchanged s operation status s' where
  response rsp hrsp hok := by
    subst hok
    exact (hrsp ▸ hread).response h
  untaken hor := by
    rcases hor with hnone | herr
    · cases status with
      | TT_OK =>
        obtain ⟨ref, _, _, _, hsome, _⟩ := hread
        simp [hnone] at hsome
      | TT_ERR => exact hread.frame.2.2 rfl
    · exact hread.frame.2.2 herr
  undiscarded _ := ⟨hread.frame.2.1, hread.resolved⟩
  occupied hposts := by cases operation <;> simp_all [Operation.OnlyReads, Operation.Posts]
  kept := .inl hread.frame.1
  clean _ _ _ _ hcall := by simp [hcall, Operation.OnlyReads] at honly
  consistent := hread.consistent h

theorem post_exchanged (h : s.mailbox.Consistent) {req : Option Ref}
    (hpost : s'.thread.messages = s.thread.messages ∧
      match status with
      | .TT_OK _ => ∃ ref, req = some ref ∧ s.mailbox.slot = .idle ∧
          s'.mailbox = s.mailbox.post (s.thread.messages ref)
      | .TT_ERR => Progressed s.mailbox s'.mailbox ∧
          (req ≠ none → s.mailbox.slot ≠ .idle → s'.thread.errno = .EBUSY)) :
    Exchanged s (.post req) status s' := by
  obtain ⟨-, hpost⟩ := hpost
  cases status with
  | TT_OK =>
    obtain ⟨ref, -, hidle, hmailbox⟩ := hpost
    exact
      { response := fun _ hrsp ↦ by cases hrsp
        untaken := fun _ ↦ by rw [hmailbox]; rfl
        undiscarded := fun honly ↦ honly.elim
        occupied := fun _ hslot ↦ absurd hidle hslot
        kept := .inr ⟨hidle, _, by rw [hmailbox]; rfl⟩
        clean := fun _ _ _ _ hcall ↦ by cases hcall
        consistent := hmailbox ▸ h.post _ }
  | TT_ERR =>
    obtain ⟨hprogress, hbusy⟩ := hpost
    exact
      { response := fun _ hrsp ↦ by cases hrsp
        untaken := fun _ ↦ hprogress.frame.2.2.1
        undiscarded := fun honly ↦ honly.elim
        occupied := fun hposts hslot ↦ ⟨rfl, hbusy hposts hslot, hprogress⟩
        kept := .inl hprogress.frame.2.1
        clean := fun _ _ _ _ hcall ↦ by cases hcall
        consistent := h.progressed hprogress }

theorem drop_exchanged (h : s.mailbox.Consistent)
    (hdrop : ∃ middle, Progressed s.mailbox middle ∧ s'.mailbox = middle.abandon) :
    Exchanged s .drop status s' := by
  obtain ⟨middle, hprogress, hmailbox⟩ := hdrop
  exact
    { response := fun _ hrsp ↦ by cases hrsp
      untaken := fun _ ↦ by rw [hmailbox]; exact hprogress.frame.2.2.1
      undiscarded := fun honly ↦ honly.elim
      occupied := fun hposts ↦ hposts.elim
      kept := .inl (by rw [hmailbox]; exact hprogress.frame.2.1)
      clean := fun _ _ _ _ hcall ↦ by cases hcall
      consistent := hmailbox ▸ (h.progressed hprogress).abandon }

theorem call_exchanged (h : s.mailbox.Consistent) {rounds : ℕ} {req : Option Ref}
    {timeout : UInt32}
    (hcall : Calls req rsp s.thread.messages s.mailbox trace status s'.thread s'.mailbox) :
    Exchanged s (.call rounds req rsp timeout) status s' := by
  cases status with
  | TT_OK =>
    obtain ⟨ref, -, hidle, hread⟩ := hcall
    have hposted := h.post (s.thread.messages ref)
    exact
      { response := fun rsp hrsp _ ↦ by
          obtain rfl : _ = some rsp := hrsp
          exact hread.response hposted
        untaken := fun hor ↦ by
          rcases hor with hnone | herr
          · obtain ⟨_, _, _, _, hsome, _⟩ := hread
            simp [Operation.response] at hnone
            simp [hnone] at hsome
          · cases herr
        undiscarded := fun honly ↦ honly.elim
        occupied := fun _ hslot ↦ absurd hidle hslot
        kept := .inr ⟨hidle, _, hread.frame.1⟩
        clean := fun _ _ _ _ _ _ ↦ by
          obtain ⟨_, _, _, _, _, _, _, hmailbox, _⟩ := hread
          rw [hmailbox]
          rfl
        consistent := hread.consistent hposted }
  | TT_ERR =>
    rcases hcall.2 with ⟨hprogress, hbusy⟩ | ⟨ref, middle, last, hidle, hread, hlast, hmailbox⟩
    · exact
        { response := fun _ _ herr ↦ by cases herr
          untaken := fun _ ↦ hprogress.frame.2.2.1
          undiscarded := fun honly ↦ honly.elim
          occupied := fun hposts hslot ↦ ⟨rfl, hbusy hposts.1 hposts.2 hslot, hprogress⟩
          kept := .inl hprogress.frame.2.1
          clean := fun _ _ _ _ _ hidle ↦ hprogress.slot_idle_iff.mpr hidle
          consistent := h.progressed hprogress }
    · have hposted := h.post (s.thread.messages ref)
      exact
        { response := fun _ _ herr ↦ by cases herr
          untaken := fun _ ↦ by
            rw [hmailbox]
            exact hlast.frame.2.2.1.trans (hread.frame.2.2 rfl)
          undiscarded := fun honly ↦ honly.elim
          occupied := fun _ hslot ↦ absurd hidle hslot
          kept := .inr ⟨hidle, _, by
            rw [hmailbox]
            exact hlast.frame.2.1.trans hread.frame.1⟩
          clean := fun _ _ _ _ _ _ ↦ by rw [hmailbox]; rfl
          consistent := hmailbox ▸ ((hread.consistent hposted).progressed hlast).abandon }

/-- What one call does, from any consistent state. -/
theorem call_moves_exchanged (hfd : 0 ≤ sess.fd) (h : s.mailbox.Consistent) {operation : Operation}
    (hmove : Moves sess s (.returned operation status) s') : Exchanged s operation status s' := by
  cases hmove with
  | call hrun =>
    cases operation with
    | post req => exact post_exchanged h (hrun.ensures (wp_post hfd req))
    | poll rsp => exact Reads.exchanged h trivial (hrun.ensures (wp_poll hfd h rsp)).1
    | wait rounds rsp timeout =>
      exact Reads.exchanged h trivial (hrun.ensures (wp_wait hfd h rounds rsp timeout))
    | drop => exact drop_exchanged h (hrun.ensures (wp_drop hfd)).2.2
    | call rounds req rsp timeout =>
      exact call_exchanged h (hrun.ensures (wp_smcCall hfd h rounds req rsp timeout))

theorem starts_consistent (h : Starts s) : s.mailbox.Consistent := by
  rw [h]
  constructor <;> intros <;> simp_all [Slot.message]

theorem reachable_consistent (hfd : 0 ≤ sess.fd) (hreach : (system sess).Reachable s) :
    s.mailbox.Consistent := by
  induction hreach with
  | start hstart => exact starts_consistent hstart
  | @move s s' label _ _ hmoves ih =>
    cases label with
    | exchange =>
      cases hmoves with
      | exchange hprogress => exact ih.progress hprogress
    | returned operation status => exact (call_moves_exchanged hfd ih hmoves).consistent

/-- In every run of the messaging functions on an open session, every call exchanges messages
properly, and no reply was taken twice. -/
theorem messages_exchanged (sess : Session) (hfd : 0 ≤ sess.fd) {s : State}
    (hreach : (system sess).Reachable s) :
    s.mailbox.taken.Nodup ∧ ∀ operation status s',
      Moves sess s (.returned operation status) s' → Exchanged s operation status s' :=
  ⟨(reachable_consistent hfd hreach).nodup, fun _ _ _ hmove ↦
    call_moves_exchanged hfd (reachable_consistent hfd hreach) hmove⟩

end Runs

/-! ## A message and its reply -/

/-- An open session. -/
def emptyMailbox : Mailbox :=
  { slot := .idle, posted := [], answered := [], taken := [], dropped := [] }

/-- The slot after the controller answered the first message. -/
def answeredMailbox : Mailbox :=
  { emptyMailbox.post SmcMsg.zero with
    slot := .ready 0 SmcMsg.zero
    answered := [(0, SmcMsg.zero)] }

theorem post_answered :
    (Mailbox.contract 3).answers (.smcMsg 3 (smcMsgIoctl .POST SmcMsg.zero)) emptyMailbox
      (.ok SmcMsg.zero (.other 0)) (emptyMailbox.post SmcMsg.zero) :=
  Mailbox.contract_answers.mpr ⟨_, .refl, rfl, rfl⟩

theorem poll_answered :
    (Mailbox.contract 3).answers (.smcMsg 3 (smcMsgIoctl .POLL SmcMsg.zero)) answeredMailbox
      (.ok SmcMsg.zero (.other 0)) (answeredMailbox.take 0) :=
  Mailbox.contract_answers.mpr ⟨_, .refl, 0, rfl, rfl⟩

theorem post_moves :
    Moves sampleSession { mailbox := emptyMailbox, thread := Thread.initial }
      (.returned (.post (some 1)) (.TT_OK ()))
      { mailbox := emptyMailbox.post SmcMsg.zero, thread := Thread.initial } := by
  have hrun : Procedure.Executes (Mailbox.contract 3) (ttSmcPost (some sampleSession) (some 1))
      Thread.initial emptyMailbox
      [⟨.smcMsg 3 (smcMsgIoctl .POST SmcMsg.zero), .ok SmcMsg.zero (.other 0)⟩]
      (.TT_OK ()) Thread.initial (emptyMailbox.post SmcMsg.zero) := .call post_answered .done
  exact .call hrun

theorem poll_moves :
    ∃ thread, Moves sampleSession { mailbox := answeredMailbox, thread := Thread.initial }
      (.returned (.poll (some 2)) (.TT_OK ()))
      { mailbox := answeredMailbox.take 0, thread := thread } := by
  obtain ⟨thread, hrun⟩ : ∃ thread,
      Procedure.Executes (Mailbox.contract 3) (ttSmcPoll (some sampleSession) (some 2))
        Thread.initial answeredMailbox
        [⟨.smcMsg 3 (smcMsgIoctl .POLL SmcMsg.zero), .ok SmcMsg.zero (.other 0)⟩]
        (.TT_OK ()) thread (answeredMailbox.take 0) := ⟨_, .call poll_answered .done⟩
  exact ⟨thread, .call hrun⟩

/-- A message is posted, the controller answers, and a poll returns the answer. -/
theorem posted_message_exchanged :
    ∃ thread, Exchanged { mailbox := answeredMailbox, thread := Thread.initial } (.poll (some 2))
      (.TT_OK ()) { mailbox := answeredMailbox.take 0, thread := thread } := by
  have hstart : (system sampleSession).Reachable
      { mailbox := emptyMailbox, thread := Thread.initial } := .start rfl
  have hposted := hstart.move trivial post_moves
  have hanswered : (system sampleSession).Reachable
      { mailbox := answeredMailbox, thread := Thread.initial } :=
    hposted.move trivial (Moves.exchange (.answer SmcMsg.zero rfl))
  obtain ⟨thread, hpoll⟩ := poll_moves
  exact ⟨thread, (messages_exchanged sampleSession (by decide) hanswered).2 _ _ _ hpoll⟩

end TtDal.Safety.MessageExchange
