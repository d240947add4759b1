import TtDal.Binding.Queued
import TtDal.Safety.MessageExchange

/-!
# Handles that borrow the session

In Rust a `Queued` handle is the only way to use its session while it lives, and dropping it gives
the session back. Whatever the handle was told while it waited, the session comes back with an
empty slot, and the handle has read and discarded its own message only.
-/

namespace TtDal.Safety.QueuedBorrow

open Effect Platform Dev Driver Binding

open Binding.Rust (Queued Duration)

open Mailbox (Progressed Consistent)

open MessageExchange (Reads poll_settles wait_settles)

/-! ## The system -/

/-- A handle, with the number of the message it was posted for. -/
structure Handle where
  queued : Queued
  message : ℕ

structure State where
  mailbox : Mailbox
  thread : Thread
  /-- The handle that borrows the session. -/
  handle : Option Handle

inductive Label where
  | exchange
  | post (request : SmcMsg) (res : Except Errno Queued)
  | wait (timeout : Option Duration) (res : Except Errno SmcMsg)
  | tryWait (res : Except Errno SmcMsg)
  | drop

/-- The outcome of an attempt to read the reply. -/
def Label.attempt : Label → Option (Except Errno SmcMsg)
  | .wait _ res | .tryWait res => some res
  | .exchange | .post _ _ | .drop => none

/-- The controller goes on, or a function of the binding runs to its end. A message is posted
while nobody borrows the session. -/
inductive Moves (sess : Session) : State → Label → State → Prop where
  | exchange {s : State} {mailbox : Mailbox} : Mailbox.Progress s.mailbox mailbox →
      Moves sess s .exchange { s with mailbox := mailbox }
  | post {s : State} {request : SmcMsg} {trace : List (Event Sys)} {queued : Queued}
      {thread : Thread} {mailbox : Mailbox} : s.handle = none →
      Procedure.Executes (Mailbox.contract sess.fd) (Rust.post sess request) s.thread s.mailbox
        trace (.ok queued) thread mailbox →
      Moves sess s (.post request (.ok queued))
        { mailbox := mailbox
          thread := thread
          handle := some { queued := queued, message := s.mailbox.posted.length } }
  | postFailed {s : State} {request : SmcMsg} {trace : List (Event Sys)} {err : Errno}
      {thread : Thread} {mailbox : Mailbox} : s.handle = none →
      Procedure.Executes (Mailbox.contract sess.fd) (Rust.post sess request) s.thread s.mailbox
        trace (.error err) thread mailbox →
      Moves sess s (.post request (.error err)) { s with mailbox := mailbox, thread := thread }
  | wait {s : State} {handle : Handle} {rounds : ℕ} {timeout : Option Duration}
      {trace : List (Event Sys)} {out : Except Errno SmcMsg × Queued} {thread : Thread}
      {mailbox : Mailbox} : s.handle = some handle →
      Procedure.Executes (Mailbox.contract sess.fd)
        (Rust.wait rounds sess handle.queued timeout) s.thread s.mailbox trace out thread mailbox →
      Moves sess s (.wait timeout out.1)
        { mailbox := mailbox
          thread := thread
          handle := some { handle with queued := out.2 } }
  | tryWait {s : State} {handle : Handle} {trace : List (Event Sys)}
      {out : Except Errno SmcMsg × Queued} {thread : Thread} {mailbox : Mailbox} :
      s.handle = some handle →
      Procedure.Executes (Mailbox.contract sess.fd) (Rust.tryWait sess handle.queued) s.thread
        s.mailbox trace out thread mailbox →
      Moves sess s (.tryWait out.1)
        { mailbox := mailbox
          thread := thread
          handle := some { handle with queued := out.2 } }
  | drop {s : State} {handle : Handle} {trace : List (Event Sys)} {thread : Thread}
      {mailbox : Mailbox} : s.handle = some handle →
      Procedure.Executes (Mailbox.contract sess.fd) (Rust.drop sess handle.queued) s.thread
        s.mailbox trace () thread mailbox →
      Moves sess s .drop { mailbox := mailbox, thread := thread, handle := none }

/-- A session nobody has used yet. -/
structure Starts (s : State) : Prop where
  mailbox : s.mailbox = { slot := .idle, posted := [], answered := [], taken := [], dropped := [] }
  handle : s.handle = none

def system (sess : Session) : System State Label where
  starts := Starts
  moves := Moves sess

/-! ## Specifications of the functions -/

section Specifications

variable {sess : Session} {queued : Queued} {thread : Thread} {mailbox : Mailbox}

/-- What an attempt to read the reply leaves behind. A handle that is done has no message
outstanding. -/
def Attempts (mailbox : Mailbox) (out : Except Errno SmcMsg × Queued) (mailbox' : Mailbox) : Prop :=
  (out.2.done = true → mailbox'.slot = .idle) ∧
    match out.1 with
    | .ok reply => ∃ middle message, Progressed mailbox middle ∧
        middle.slot = .ready message reply ∧ mailbox' = middle.take message
    | .error _ => Progressed mailbox mailbox' ∨ ∃ middle, Progressed mailbox middle ∧
        mailbox' = middle.consume

/-- The handle is done unless the error is the one after which the message is still there. -/
theorem wp_receive {call : C Status} {retry : Rust.ErrorKind} {again : Errno}
    (hagain : Rust.kind again = retry)
    (hreads : ∀ thread, Procedure.wp (Mailbox.contract sess.fd) call
      (Reads (some Python.rsp) thread.messages mailbox) thread mailbox)
    (hsettles : ∀ thread, Procedure.wp (Mailbox.contract sess.fd) call
      (fun _ status thread' mailbox' ↦ status = .TT_ERR → thread'.errno ≠ again →
        mailbox'.slot = .idle) thread mailbox) :
    Procedure.wp (Mailbox.contract sess.fd) (Rust.receive call retry queued)
      (fun _ out _ mailbox' ↦ Attempts mailbox out mailbox') thread mailbox := by
  unfold Rust.receive
  rw [Procedure.wp_bind, Python.wp_store, Procedure.wp_bind]
  refine wp_check (Procedure.wp_mono (Procedure.wp_and (hreads _) (hsettles _)) ?_)
  intro trace status thread' mailbox' hcall
  obtain ⟨hread, hsettled⟩ := hcall
  cases status with
  | TT_OK =>
    obtain ⟨ref, middle, message, reply, href, hprogress, hslot, rfl, hmessages⟩ := hread
    obtain rfl := Option.some.inj href
    have hreply : thread'.messages Python.rsp = reply := by
      rw [hmessages, Function.update_self]
    exact ⟨fun _ ↦ rfl, middle, message, hprogress, hreply ▸ hslot, rfl⟩
  | TT_ERR =>
    refine ⟨fun hdone ↦ hsettled rfl ?_, ?_⟩
    · intro herrno
      have hretry : Rust.kind thread'.errno ≠ retry := of_decide_eq_true hdone
      exact hretry (herrno ▸ hagain)
    · rcases hread.2 with hprogress | ⟨middle, _, _, hprogress, _, hconsumed⟩
      · exact .inl hprogress
      · exact .inr ⟨middle, hprogress, hconsumed⟩

theorem wp_wait (hfd : 0 ≤ sess.fd) (h : mailbox.Consistent) (rounds : ℕ)
    (timeout : Option Duration) :
    Procedure.wp (Mailbox.contract sess.fd) (Rust.wait rounds sess queued timeout)
      (fun _ out _ mailbox' ↦ Attempts mailbox out mailbox') thread mailbox :=
  wp_receive rfl (fun _ ↦ MessageExchange.wp_wait hfd h rounds (some Python.rsp) _)
    fun _ ↦ wait_settles hfd rounds Python.rsp _

theorem wp_tryWait (hfd : 0 ≤ sess.fd) (h : mailbox.Consistent) :
    Procedure.wp (Mailbox.contract sess.fd) (Rust.tryWait sess queued)
      (fun _ out _ mailbox' ↦ Attempts mailbox out mailbox') thread mailbox := by
  have hagain : Rust.kind .EAGAIN = .WouldBlock := rfl
  apply wp_receive hagain
  · intro thread
    exact Procedure.wp_mono (MessageExchange.wp_poll hfd h (some Python.rsp))
      fun _ _ _ _ hpoll ↦ hpoll.1
  · intro thread
    exact poll_settles hfd Python.rsp

/-- A handle is made on an open session with an empty slot, and its message fills the slot. -/
theorem wp_post (request : SmcMsg) :
    Procedure.wp (Mailbox.contract sess.fd) (Rust.post sess request)
      (fun _ out _ mailbox' ↦ match out with
        | .ok queued => queued.done = false ∧ 0 ≤ sess.fd ∧ mailbox.slot = .idle ∧
            mailbox' = mailbox.post request
        | .error err => Progressed mailbox mailbox' ∧ (mailbox.slot = .idle → err ≠ .EBUSY))
      thread mailbox := by
  unfold Rust.post
  rw [Procedure.wp_bind, Python.wp_store, Procedure.wp_bind]
  apply wp_check
  simp only [ttSmcPost]
  split
  · exact ⟨.refl, by simp⟩
  · rename_i hfd
    simp only [Procedure.wp_bind, Procedure.wp_get, wp_sys]
    refine ⟨fun _ _ ↦ trivial, fun answer mailbox' hanswer ↦ ?_⟩
    obtain ⟨middle, hprogress, hanswer⟩ := Mailbox.contract_answers.mp hanswer
    cases answer with
    | ok reply residue =>
      obtain ⟨hidle, rfl⟩ := hanswer
      have hslot := hprogress.slot_idle_iff.mp hidle
      obtain rfl := hprogress.eq_of_idle hslot
      refine ⟨rfl, Int.not_lt.mp hfd, hslot, ?_⟩
      simp [smcMsgIoctl]
    | fail err =>
      obtain ⟨hbusy, rfl⟩ := hanswer
      refine ⟨hprogress, fun hslot herrno ↦ ?_⟩
      have herr : err = .EBUSY := by
        unfold normalise at herrno
        split at herrno
        · cases herrno
        · exact herrno
      exact hbusy.mp herr (hprogress.slot_idle_iff.mpr hslot)

theorem wp_drop (hfd : 0 ≤ sess.fd) (hdone : queued.done = true → mailbox.slot = .idle) :
    Procedure.wp (Mailbox.contract sess.fd) (Rust.drop sess queued)
      (fun _ _ _ mailbox' ↦ mailbox'.slot = .idle ∧
        (mailbox' = mailbox ∨ ∃ middle, Progressed mailbox middle ∧ mailbox' = middle.abandon))
      thread mailbox := by
  unfold Rust.drop
  split
  · rename_i hset
    exact ⟨hdone hset, .inl rfl⟩
  · refine Procedure.wp_call (MessageExchange.wp_drop hfd) fun _ _ _ mailbox' hdrop ↦ ?_
    obtain ⟨-, -, middle, hprogress, rfl⟩ := hdrop
    exact ⟨rfl, .inr ⟨middle, hprogress, rfl⟩⟩

end Specifications

/-! ## Runs -/

/-- What a function of the binding has done to the messages of the session. -/
structure Owned (s : State) (label : Label) (s' : State) : Prop where
  /-- A handle is made for the message that was posted for it. -/
  posts : ∀ request queued, label = .post request (.ok queued) →
    s'.mailbox.posted = s.mailbox.posted ++ [request] ∧
      ∃ handle, s'.handle = some handle ∧ handle.message = s.mailbox.posted.length
  /-- Posting never finds a message outstanding. -/
  unbusy : ∀ request err, label = .post request (.error err) → err ≠ .EBUSY
  /-- A reply that was read is the one reply to the handle's message, and was not read before. -/
  reads : ∀ reply, label.attempt = some (.ok reply) → ∃ handle, s.handle = some handle ∧
    (handle.message, reply) ∈ s'.mailbox.answered ∧
    (∀ reply', (handle.message, reply') ∈ s'.mailbox.answered → reply' = reply) ∧
    handle.message ∉ s.mailbox.taken ∧ s'.mailbox.taken = handle.message :: s.mailbox.taken
  unread : (∀ reply, label.attempt ≠ some (.ok reply)) → s'.mailbox.taken = s.mailbox.taken
  /-- What is discarded is discarded in a drop, and is the handle's message. -/
  discards : s'.mailbox.dropped = s.mailbox.dropped ∨ label = .drop ∧
    ∃ handle, s.handle = some handle ∧
      s'.mailbox.dropped = handle.message :: s.mailbox.dropped
  /-- After a drop the session has no message outstanding. -/
  empties : label = .drop → s'.mailbox.slot = .idle

/-- Only the message of the handle is ever outstanding, and while nobody has a handle or its
handle is done, no message is. -/
structure Tidy (sess : Session) (s : State) : Prop where
  consistent : s.mailbox.Consistent
  returned : s.handle = none → s.mailbox.slot = .idle
  own : ∀ handle, s.handle = some handle → ∀ message, s.mailbox.slot.message = some message →
    message = handle.message
  done : ∀ handle, s.handle = some handle → handle.queued.done = true → s.mailbox.slot = .idle
  opened : ∀ handle, s.handle = some handle → 0 ≤ sess.fd

section Runs

variable {sess : Session} {s s' : State} {handle : Handle} {label : Label}

theorem Starts.tidy (h : Starts s) : Tidy sess s where
  consistent := by
    rw [h.mailbox]
    constructor <;> intros <;> simp_all [Slot.message]
  returned _ := by rw [h.mailbox]
  own handle hhandle := by
    rw [h.handle] at hhandle
    cases hhandle
  done handle hhandle := by
    rw [h.handle] at hhandle
    cases hhandle
  opened handle hhandle := by
    rw [h.handle] at hhandle
    cases hhandle

/-- The message in the slot after the controller went on is still the handle's. -/
theorem Tidy.progressed (h : Tidy sess s) {mailbox : Mailbox} {thread : Thread}
    (hprogress : Progressed s.mailbox mailbox) :
    Tidy sess { s with mailbox := mailbox, thread := thread } where
  consistent := h.consistent.progressed hprogress
  returned hhandle := hprogress.slot_idle_iff.mpr (h.returned hhandle)
  own handle hhandle message hmessage :=
    h.own handle hhandle message (hprogress.frame.1.symm.trans hmessage)
  done handle hhandle hdone := hprogress.slot_idle_iff.mpr (h.done handle hhandle hdone)
  opened := h.opened

/-- An attempt to read the reply posts and discards nothing, and leaves the slot as full as it was
or empty. -/
structure Attempts.Frame (mailbox mailbox' : Mailbox) : Prop where
  consistent : mailbox'.Consistent
  posted : mailbox'.posted = mailbox.posted
  dropped : mailbox'.dropped = mailbox.dropped
  message : ∀ message, mailbox'.slot.message = some message → mailbox.slot.message = some message

theorem Attempts.frame {mailbox mailbox' : Mailbox} {out : Except Errno SmcMsg × Queued}
    (h : Attempts mailbox out mailbox') (hconsistent : mailbox.Consistent) :
    Attempts.Frame mailbox mailbox' := by
  obtain ⟨res, queued⟩ := out
  cases res with
  | ok reply =>
    obtain ⟨-, middle, message, hprogress, hslot, rfl⟩ := h
    exact
      { consistent := (hconsistent.progressed hprogress).take hslot
        posted := hprogress.frame.2.1
        dropped := hprogress.frame.2.2.2
        message := nofun }
  | error err =>
    rcases h.2 with hprogress | ⟨middle, hprogress, rfl⟩
    · exact
        { consistent := hconsistent.progressed hprogress
          posted := hprogress.frame.2.1
          dropped := hprogress.frame.2.2.2
          message := fun message hmessage ↦ hprogress.frame.1.symm.trans hmessage }
    · exact
        { consistent := (hconsistent.progressed hprogress).consume
          posted := hprogress.frame.2.1
          dropped := hprogress.frame.2.2.2
          message := nofun }

theorem Attempts.unread {mailbox mailbox' : Mailbox} {out : Except Errno SmcMsg × Queued}
    (h : Attempts mailbox out mailbox') (hout : ∀ reply, out.1 ≠ .ok reply) :
    mailbox'.taken = mailbox.taken := by
  obtain ⟨res, queued⟩ := out
  cases res with
  | ok reply => exact absurd rfl (hout reply)
  | error err =>
    rcases h.2 with hprogress | ⟨middle, hprogress, rfl⟩
    · exact hprogress.frame.2.2.1
    · exact hprogress.frame.2.2.1

/-- The reply that was read is the one to the message in the slot. -/
theorem Attempts.reads {mailbox mailbox' : Mailbox} {out : Except Errno SmcMsg × Queued}
    {reply : SmcMsg} (h : Attempts mailbox out mailbox') (hconsistent : mailbox.Consistent)
    (hout : out.1 = .ok reply) : ∃ message, mailbox.slot.message = some message ∧
      (message, reply) ∈ mailbox'.answered ∧
      (∀ reply', (message, reply') ∈ mailbox'.answered → reply' = reply) ∧
      message ∉ mailbox.taken ∧ mailbox'.taken = message :: mailbox.taken := by
  obtain ⟨res, queued⟩ := out
  obtain rfl : res = .ok reply := hout
  obtain ⟨-, middle, message, hprogress, hslot, rfl⟩ := h
  have hmiddle := hconsistent.progressed hprogress
  have hready := hmiddle.ready message reply hslot
  have hmessage : mailbox.slot.message = some message := by
    rw [← hprogress.frame.1, hslot]
    rfl
  have htaken : middle.taken = mailbox.taken := hprogress.frame.2.2.1
  refine ⟨message, hmessage, hready, ?_, hconsistent.unread message hmessage, ?_⟩
  · exact fun reply' hmem ↦ hmiddle.unique message reply' reply hmem hready
  · exact congrArg (List.cons message) htaken

/-- An attempt to read the reply keeps the slot to the handle. -/
theorem Tidy.attempted (h : Tidy sess s) (hhandle : s.handle = some handle)
    {out : Except Errno SmcMsg × Queued} {mailbox : Mailbox} {thread : Thread}
    (hattempt : Attempts s.mailbox out mailbox) :
    Tidy sess
      { mailbox := mailbox
        thread := thread
        handle := some { handle with queued := out.2 } } where
  consistent := (hattempt.frame h.consistent).consistent
  returned := nofun
  own handle' hhandle' message hmessage := by
    obtain rfl := Option.some.inj hhandle'
    exact h.own handle hhandle message ((hattempt.frame h.consistent).message message hmessage)
  done handle' hhandle' := by
    obtain rfl := Option.some.inj hhandle'
    exact hattempt.1
  opened _ _ := h.opened handle hhandle

/-- What an attempt to read the reply did to the messages. -/
theorem Tidy.attempt_owned (h : Tidy sess s) (hhandle : s.handle = some handle)
    {out : Except Errno SmcMsg × Queued} (hattempt : Attempts s.mailbox out s'.mailbox)
    (hlabel : label.attempt = some out.1) : Owned s label s' where
  posts request queued hpost := by
    rw [hpost] at hlabel
    cases hlabel
  unbusy request err hpost := by
    rw [hpost] at hlabel
    cases hlabel
  reads reply hreply := by
    have hout : out.1 = .ok reply := Option.some.inj (hlabel.symm.trans hreply)
    obtain ⟨message, hmessage, hread⟩ := hattempt.reads h.consistent hout
    obtain rfl := h.own handle hhandle message hmessage
    exact ⟨handle, hhandle, hread⟩
  unread hnone := hattempt.unread fun reply hout ↦ hnone reply (hout ▸ hlabel)
  discards := .inl (hattempt.frame h.consistent).dropped
  empties hdrop := by
    rw [hdrop] at hlabel
    cases hlabel

/-- A function that reads nothing and discards nothing. -/
theorem Owned.silent (htaken : s'.mailbox.taken = s.mailbox.taken)
    (hdropped : s'.mailbox.dropped = s.mailbox.dropped) (hattempt : label.attempt = none)
    (hposts : ∀ request queued, label = .post request (.ok queued) →
      s'.mailbox.posted = s.mailbox.posted ++ [request] ∧
        ∃ handle, s'.handle = some handle ∧ handle.message = s.mailbox.posted.length)
    (hunbusy : ∀ request err, label = .post request (.error err) → err ≠ .EBUSY)
    (hdrop : label ≠ .drop) : Owned s label s' where
  posts := hposts
  unbusy := hunbusy
  reads reply hreply := by
    rw [hattempt] at hreply
    cases hreply
  unread _ := htaken
  discards := .inl hdropped
  empties h := absurd h hdrop

/-- A handle that is dropped takes its message with it. -/
theorem Tidy.dropped (h : Tidy sess s) (hhandle : s.handle = some handle) {mailbox : Mailbox}
    {thread : Thread} (hidle : mailbox.slot = .idle)
    (hmailbox : mailbox = s.mailbox ∨
      ∃ middle, Progressed s.mailbox middle ∧ mailbox = middle.abandon) :
    Tidy sess { mailbox := mailbox, thread := thread, handle := none } ∧
      Owned s .drop { mailbox := mailbox, thread := thread, handle := none } := by
  have hkept : mailbox.Consistent ∧ mailbox.taken = s.mailbox.taken ∧
      (mailbox.dropped = s.mailbox.dropped ∨
        mailbox.dropped = handle.message :: s.mailbox.dropped) := by
    rcases hmailbox with rfl | ⟨middle, hprogress, rfl⟩
    · exact ⟨h.consistent, rfl, .inl rfl⟩
    · refine ⟨(h.consistent.progressed hprogress).abandon, hprogress.frame.2.2.1, ?_⟩
      have hdropped : middle.dropped = s.mailbox.dropped := hprogress.frame.2.2.2
      cases hmessage : middle.slot.message with
      | none => exact .inl (by simp [Mailbox.abandon, hmessage, hdropped])
      | some message =>
        have hown := h.own handle hhandle message (hprogress.frame.1.symm.trans hmessage)
        exact .inr (by simp [Mailbox.abandon, hmessage, hdropped, hown])
  constructor
  · exact
      { consistent := hkept.1
        returned := fun _ ↦ hidle
        own := nofun
        done := nofun
        opened := nofun }
  · exact
      { posts := nofun
        unbusy := nofun
        reads := nofun
        unread := fun _ ↦ hkept.2.1
        discards := hkept.2.2.imp id fun hown ↦ ⟨rfl, handle, hhandle, hown⟩
        empties := fun _ ↦ hidle }

theorem moves_tidy (h : Tidy sess s) (hmove : Moves sess s label s') :
    Tidy sess s' ∧ Owned s label s' := by
  cases hmove with
  | exchange hprogress =>
    have hprogressed : Progressed s.mailbox _ := .single hprogress
    refine ⟨h.progressed hprogressed, ?_⟩
    exact .silent hprogressed.frame.2.2.1 hprogressed.frame.2.2.2 rfl nofun nofun nofun
  | @post request trace queued thread mailbox hhandle hrun =>
    obtain ⟨hdone, hfd, hidle, rfl⟩ := hrun.ensures (wp_post request)
    constructor
    · exact
        { consistent := h.consistent.post request
          returned := nofun
          own := fun handle hsome message hmessage ↦ by
            obtain rfl := Option.some.inj hsome
            exact (Option.some.inj hmessage).symm
          done := fun handle hsome hset ↦ by
            obtain rfl := Option.some.inj hsome
            rw [hdone] at hset
            cases hset
          opened := fun _ _ ↦ hfd }
    · refine .silent rfl rfl rfl (fun request' queued' hlabel ↦ ?_) nofun nofun
      cases hlabel
      exact ⟨rfl, _, rfl, rfl⟩
  | @postFailed request trace err thread mailbox hhandle hrun =>
    obtain ⟨hprogress, hunbusy⟩ := hrun.ensures (wp_post request)
    constructor
    · exact h.progressed hprogress
    · refine .silent hprogress.frame.2.2.1 hprogress.frame.2.2.2 rfl nofun ?_ nofun
      intro request' err' hlabel
      cases hlabel
      exact hunbusy (h.returned hhandle)
  | @wait handle rounds timeout trace out thread mailbox hhandle hrun =>
    have hattempt := hrun.ensures (wp_wait (h.opened handle hhandle) h.consistent rounds timeout)
    exact ⟨h.attempted hhandle hattempt, h.attempt_owned hhandle hattempt rfl⟩
  | @tryWait handle trace out thread mailbox hhandle hrun =>
    have hattempt := hrun.ensures (wp_tryWait (h.opened handle hhandle) h.consistent)
    exact ⟨h.attempted hhandle hattempt, h.attempt_owned hhandle hattempt rfl⟩
  | @drop handle trace thread mailbox hhandle hrun =>
    obtain ⟨hidle, hmailbox⟩ := hrun.ensures
      (wp_drop (h.opened handle hhandle) (h.done handle hhandle))
    exact h.dropped hhandle hidle hmailbox

/-- In every run, a session that no handle borrows has no message outstanding, no reply is read
twice, and every function reads and discards the message of its own handle only. -/
theorem borrowed_runs_owned (sess : Session) (hreach : (system sess).Reachable s) :
    (s.handle = none → s.mailbox.slot = .idle) ∧ s.mailbox.taken.Nodup ∧
      ∀ label s', Moves sess s label s' → Owned s label s' := by
  have htidy : Tidy sess s := by
    apply System.Reaches.invariant _ _ hreach
    · exact fun _ hstart ↦ hstart.tidy
    · exact fun _ _ _ hinv _ hmove ↦ (moves_tidy hinv hmove).1
  exact ⟨htidy.returned, htidy.consistent.nodup, fun _ _ hmove ↦ (moves_tidy htidy hmove).2⟩

end Runs

/-! ## A message and its reply -/

open MessageExchange (emptyMailbox answeredMailbox post_answered poll_answered)

/-- The handle of the first message. -/
def sampleHandle : Handle := { queued := { done := false }, message := 0 }

theorem post_moves :
    ∃ thread, Moves sampleSession
      { mailbox := emptyMailbox, thread := Thread.initial, handle := none }
      (.post SmcMsg.zero (.ok { done := false }))
      { mailbox := emptyMailbox.post SmcMsg.zero, thread := thread, handle := some sampleHandle } := by
  obtain ⟨thread, hrun⟩ : ∃ thread, Procedure.Executes (Mailbox.contract 3)
      (Rust.post sampleSession SmcMsg.zero) Thread.initial emptyMailbox
      [⟨.smcMsg 3 (smcMsgIoctl .POST SmcMsg.zero), .ok SmcMsg.zero (.other 0)⟩]
      (.ok { done := false }) thread (emptyMailbox.post SmcMsg.zero) :=
    ⟨_, .call post_answered .done⟩
  exact ⟨thread, .post rfl hrun⟩

theorem tryWait_moves (thread : Thread) :
    ∃ thread', Moves sampleSession
      { mailbox := answeredMailbox, thread := thread, handle := some sampleHandle }
      (.tryWait (.ok SmcMsg.zero))
      { mailbox := answeredMailbox.take 0
        thread := thread'
        handle := some { sampleHandle with queued := { done := true } } } := by
  obtain ⟨thread', hrun⟩ : ∃ thread', Procedure.Executes (Mailbox.contract sampleSession.fd)
      (Rust.tryWait sampleSession { done := false }) thread answeredMailbox
      [⟨.smcMsg 3 (smcMsgIoctl .POLL SmcMsg.zero), .ok SmcMsg.zero (.other 0)⟩]
      (.ok SmcMsg.zero, { done := true }) thread' (answeredMailbox.take 0) :=
    ⟨_, .call poll_answered .done⟩
  have hmove := Moves.tryWait
    (s := { mailbox := answeredMailbox, thread := thread, handle := some sampleHandle }) rfl hrun
  exact ⟨thread', hmove⟩

/-- A message is posted, the controller answers, and the handle reads the answer. -/
theorem borrowed_reply_owned :
    ∃ thread thread', Owned
      { mailbox := answeredMailbox, thread := thread, handle := some sampleHandle }
      (.tryWait (.ok SmcMsg.zero))
      { mailbox := answeredMailbox.take 0
        thread := thread'
        handle := some { sampleHandle with queued := { done := true } } } := by
  obtain ⟨thread, hpost⟩ := post_moves
  obtain ⟨thread', hread⟩ := tryWait_moves thread
  have hstart : (system sampleSession).Reachable
      { mailbox := emptyMailbox, thread := Thread.initial, handle := none } := .start ⟨rfl, rfl⟩
  have hanswered : (system sampleSession).Reachable
      { mailbox := answeredMailbox, thread := thread, handle := some sampleHandle } :=
    (hstart.move trivial hpost).move trivial (Moves.exchange (.answer SmcMsg.zero rfl))
  exact ⟨thread, thread', (borrowed_runs_owned sampleSession hanswered).2.2 _ _ hread⟩

end TtDal.Safety.QueuedBorrow
