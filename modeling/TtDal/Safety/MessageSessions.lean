import TtDal.Effect.Clients
import TtDal.Safety.MessageExchange
import Mathlib.Data.List.Forall2

/-!
# Messages of sessions that are used in parallel

Any number of threads exchange messages, each on a session of its own, and their system calls
interleave with each other and with the controller. A thread makes message requests on its own
descriptor only, so what the others do is not seen there. From the calls that returned to a thread
its `dialogue` is known: the request it is waiting on, and for every call that returned a response
the request this is taken to answer. Each response is the reply of the controller to that very
request, and no reply is returned twice.
-/

namespace TtDal.Safety.MessageSessions

open Effect Platform Dev Driver MessageExchange

open Mailbox (Progressed)

/-- What a thread knows of a call that returned. -/
structure Outcome where
  status : Status
  /-- The content of the request before the call. -/
  sent : Option SmcMsg
  /-- The content of the response after it. -/
  received : Option SmcMsg

def request : Operation → Option Ref
  | .post req | .call _ req _ _ => req
  | .poll _ | .wait _ _ _ | .drop => none

def run (sess : Session) (operation : Operation) : C Outcome := do
  let before ← get
  let status ← operation.run sess
  let after ← get
  return {
    status := status
    sent := (request operation).map before.messages
    received := operation.response.map after.messages }

/-- What the calls of one thread tell. -/
structure Dialogue where
  /-- The request that was posted last, and neither answered nor dropped since. -/
  outstanding : Option SmcMsg
  /-- For every call that returned a response, the request that was outstanding and the response,
  the last one first. -/
  answered : List (Option SmcMsg × Option SmcMsg)

namespace Dialogue

def empty : Dialogue := ⟨none, []⟩

/-- A response was returned, also where no request is outstanding. -/
def answer (dialogue : Dialogue) (request response : Option SmcMsg) : Dialogue where
  outstanding := none
  answered := (request, response) :: dialogue.answered

/-- A call that may have returned a response. -/
def settle (dialogue : Dialogue) (status : Status) (request response : Option SmcMsg) : Dialogue :=
  match status with
  | .TT_OK _ => dialogue.answer request response
  | .TT_ERR => dialogue

def after (dialogue : Dialogue) : Operation → Outcome → Dialogue
  | .post _, ⟨.TT_OK _, sent, _⟩ => { dialogue with outstanding := sent }
  | .poll _, outcome | .wait _ _ _, outcome =>
    dialogue.settle outcome.status dialogue.outstanding outcome.received
  | .call _ _ _ _, outcome => dialogue.settle outcome.status outcome.sent outcome.received
  | .drop, ⟨.TT_OK _, _, _⟩ => { dialogue with outstanding := none }
  | _, _ => dialogue

end Dialogue

/-- The dialogue of the calls that returned, the last one first. -/
def dialogue : List (Operation × Outcome) → Dialogue
  | [] => .empty
  | (operation, outcome) :: earlier => (dialogue earlier).after operation outcome

/-- A request was outstanding that the numbered message carried, and a response was given that is
the controller's reply to it. -/
def Answers (mailbox : Mailbox) (message : ℕ) (exchange : Option SmcMsg × Option SmcMsg) : Prop :=
  ∃ request response, exchange = (some request, some response) ∧
    mailbox.posted[message]? = some request ∧ (message, response) ∈ mailbox.answered

/-- The slot has what the dialogue tells. -/
structure Tells (dialogue : Dialogue) (mailbox : Mailbox) : Prop where
  consistent : mailbox.Consistent
  outstanding : ∀ message, mailbox.slot.message = some message →
    ∃ request, dialogue.outstanding = some request ∧ mailbox.posted[message]? = some request
  answered : List.Forall₂ (Answers mailbox) mailbox.taken dialogue.answered

section Calls

variable {dialogue : Dialogue} {mailbox mailbox' middle : Mailbox} {message : ℕ}
  {thread thread' : Thread} {sess : Session} {status : Status} {trace : List (Event Sys)}

theorem Answers.mono {exchange : Option SmcMsg × Option SmcMsg}
    (h : Answers mailbox message exchange) (hposted : mailbox.posted <+: mailbox'.posted)
    (hanswered : mailbox.answered ⊆ mailbox'.answered) : Answers mailbox' message exchange := by
  obtain ⟨request, response, hexchange, hrequest, hresponse⟩ := h
  have hstays : mailbox'.posted[message]? = some request := by
    rw [List.prefix_iff_getElem?] at hposted
    obtain ⟨hlt, hget⟩ := List.getElem?_eq_some_iff.mp hrequest
    rw [hposted message hlt, hget]
  exact ⟨request, response, hexchange, hstays, hanswered hresponse⟩

/-- The slot is emptied or goes on, and what was posted and answered stays. -/
theorem Tells.mono (h : Tells dialogue mailbox) (hconsistent : mailbox'.Consistent)
    (hslot : ∀ message, mailbox'.slot.message = some message →
      mailbox.slot.message = some message)
    (hposted : mailbox'.posted = mailbox.posted) (htaken : mailbox'.taken = mailbox.taken)
    (hanswered : mailbox.answered ⊆ mailbox'.answered) : Tells dialogue mailbox' where
  consistent := hconsistent
  outstanding message hmessage := by
    rw [hposted]
    exact h.outstanding message (hslot message hmessage)
  answered := by
    rw [htaken]
    exact h.answered.imp fun _ _ hanswers ↦
      hanswers.mono (hposted ▸ List.prefix_rfl) hanswered

theorem Tells.progress (h : Tells dialogue mailbox) (hprogress : Mailbox.Progress mailbox mailbox') :
    Tells dialogue mailbox' := by
  have hframe := Progressed.frame (.single hprogress)
  refine h.mono (h.consistent.progress hprogress) ?_ hframe.2.1 hframe.2.2.1 ?_
  · intro message hmessage
    rw [← hframe.1, hmessage]
  · cases hprogress with
    | answer reply hslot => exact List.subset_cons_self _ _
    | fail hslot => exact List.Subset.refl _

theorem Tells.progressed (h : Tells dialogue mailbox) (hprogress : Progressed mailbox mailbox') :
    Tells dialogue mailbox' := by
  induction hprogress with
  | refl => exact h
  | tail _ hlast ih => exact ih.progress hlast

theorem Tells.consume (h : Tells dialogue mailbox) : Tells dialogue mailbox.consume :=
  h.mono h.consistent.consume (fun _ hmessage ↦ by cases hmessage) rfl rfl (List.Subset.refl _)

theorem Tells.abandon (h : Tells dialogue mailbox) : Tells dialogue mailbox.abandon :=
  h.mono h.consistent.abandon (fun _ hmessage ↦ by cases hmessage) rfl rfl (List.Subset.refl _)

/-- While nothing is outstanding, it does not matter what was. -/
theorem Tells.forget {dialogue' : Dialogue} (h : Tells dialogue mailbox)
    (hslot : mailbox.slot.message = none) (hsame : dialogue'.answered = dialogue.answered) :
    Tells dialogue' mailbox where
  consistent := h.consistent
  outstanding message hmessage := by
    rw [hslot] at hmessage
    cases hmessage
  answered := hsame ▸ h.answered

theorem Tells.post (h : Tells dialogue mailbox) (request : SmcMsg) :
    Tells { dialogue with outstanding := some request } (mailbox.post request) where
  consistent := h.consistent.post request
  outstanding message hmessage := by
    obtain rfl := Option.some.inj hmessage
    exact ⟨request, rfl, by simp [Mailbox.post]⟩
  answered := h.answered.imp fun _ _ hanswers ↦
    hanswers.mono (List.prefix_append _ _) (List.Subset.refl _)

/-- A reply that was read answers the outstanding request. -/
theorem Tells.take {reply : SmcMsg} (h : Tells dialogue mailbox)
    (hslot : mailbox.slot = .ready message reply) :
    Tells (dialogue.answer dialogue.outstanding (some reply)) (mailbox.take message) := by
  obtain ⟨request, hrequest, hposted⟩ := h.outstanding message (by rw [hslot]; rfl)
  have hready := h.consistent.ready message reply hslot
  rw [hrequest]
  exact
    { consistent := h.consistent.take hslot
      outstanding := fun _ hmessage ↦ by cases hmessage
      answered := .cons ⟨request, reply, rfl, hposted, hready⟩ h.answered }

/-- The dialogue after a reading function. -/
theorem Tells.reads {rsp : Option Ref} (h : Tells dialogue mailbox)
    (hread : Reads rsp thread.messages mailbox trace status thread' mailbox') :
    Tells (dialogue.settle status dialogue.outstanding (rsp.map thread'.messages)) mailbox' := by
  cases status with
  | TT_OK =>
    obtain ⟨ref, middle, message, reply, rfl, hprogress, hslot, rfl, hmessages⟩ := hread
    have hreceived : (some ref).map thread'.messages = some reply := by simp [hmessages]
    rw [hreceived]
    exact (h.progressed hprogress).take hslot
  | TT_ERR =>
    rcases hread.2 with hprogress | ⟨middle, message, err, hprogress, -, rfl⟩
    · exact h.progressed hprogress
    · exact (h.progressed hprogress).consume

theorem Tells.calls {req rsp : Option Ref} (h : Tells dialogue mailbox)
    (hcall : Calls req rsp thread.messages mailbox trace status thread' mailbox') :
    Tells (dialogue.settle status (req.map thread.messages) (rsp.map thread'.messages))
      mailbox' := by
  cases status with
  | TT_OK =>
    obtain ⟨ref, rfl, -, hread⟩ := hcall
    exact (h.post (thread.messages ref)).reads hread
  | TT_ERR =>
    rcases hcall.2 with ⟨hprogress, -⟩ | ⟨ref, middle, last, -, hread, hlast, rfl⟩
    · exact h.progressed hprogress
    · have hposted := (h.post (thread.messages ref)).reads hread
      exact (hposted.progressed hlast).abandon.forget rfl rfl

/-- Before the first call there is nothing to tell. -/
theorem tells_empty (hempty : mailbox =
      { slot := .idle, posted := [], answered := [], taken := [], dropped := [] }) :
    Tells .empty mailbox := by
  have hstarts : Starts { mailbox := mailbox, thread := Thread.initial } := hempty
  subst hempty
  exact ⟨starts_consistent hstarts, fun _ hmessage ↦ (by cases hmessage), .nil⟩

/-- The step of one call. -/
theorem run_tells (hfd : 0 ≤ sess.fd) (h : Tells dialogue mailbox) (operation : Operation) :
    Procedure.wp (Mailbox.contract sess.fd) (run sess operation) (fun _ outcome _ mailbox' ↦
      Tells (dialogue.after operation outcome) mailbox') thread mailbox := by
  simp only [run, Procedure.wp_bind, Procedure.wp_get, Procedure.wp_pure]
  cases operation with
  | post req =>
    refine Procedure.wp_mono (wp_post hfd req) fun _ status _ mailbox' hpost ↦ ?_
    cases status with
    | TT_OK =>
      obtain ⟨-, ref, rfl, -, rfl⟩ := hpost
      exact h.post (thread.messages ref)
    | TT_ERR => exact h.progressed hpost.2.1
  | poll rsp =>
    exact Procedure.wp_mono (wp_poll hfd h.consistent rsp) fun _ _ _ _ hpoll ↦ h.reads hpoll.1
  | wait rounds rsp timeout =>
    exact Procedure.wp_mono (wp_wait hfd h.consistent rounds rsp timeout)
      fun _ _ _ _ hwait ↦ h.reads hwait
  | drop =>
    refine Procedure.wp_mono (wp_drop hfd) fun _ status _ mailbox' hdrop ↦ ?_
    obtain ⟨-, -, middle, hprogress, rfl⟩ := hdrop
    have habandoned := (h.progressed hprogress).abandon
    cases status with
    | TT_OK => exact habandoned.forget rfl rfl
    | TT_ERR => exact habandoned
  | call rounds req rsp timeout =>
    exact Procedure.wp_mono (wp_smcCall hfd h.consistent rounds req rsp timeout)
      fun _ _ _ _ hcall ↦ h.calls hcall

end Calls

/-! ## The descriptor of a session -/

/-- A message request goes to the descriptor. -/
def OnSlot (fd : ℤ) : Syscall → Prop
  | .smcMsg fd' _ => fd' = fd
  | _ => True

/-- A call makes message requests on the descriptor of its session only. -/
theorem run_stays (sess : Session) (operation : Operation) :
    Procedure.Keeps (Contract.only (OnSlot sess.fd)) (fun _ ↦ True) (run sess operation) := by
  have hmsg : ∀ msg, Procedure.Keeps (Contract.only (OnSlot sess.fd)) (fun _ ↦ True)
      (sys (.smcMsg sess.fd msg)) := fun msg ↦ keeps_only rfl
  have hclock : Procedure.Keeps (Contract.only (OnSlot sess.fd)) (fun _ ↦ True)
      (sys .clockGettime) := keeps_only trivial
  have hsleep : ∀ usec, Procedure.Keeps (Contract.only (OnSlot sess.fd)) (fun _ ↦ True)
      (sys (.usleep usec)) := fun usec ↦ keeps_only trivial
  have hrun : Procedure.Keeps (Contract.only (OnSlot sess.fd)) (fun _ ↦ True)
      (operation.run sess) := by
    cases operation with
    | post req => exact keeps_ttSmcPost hmsg req
    | poll rsp => exact keeps_ttSmcPoll hmsg rsp
    | wait rounds rsp timeout => exact keeps_ttSmcWait hmsg hclock hsleep trivial rounds rsp timeout
    | drop => exact keeps_ttSmcDrop hmsg
    | call rounds req rsp timeout =>
      exact keeps_ttSmcCall hmsg hclock hsleep trivial rounds req rsp timeout
  have hget : Procedure.Keeps (Contract.only (OnSlot sess.fd)) (fun _ ↦ True)
      (get : C Thread) := fun _ _ hinv ↦ hinv
  exact hget.bind fun _ ↦ hrun.bind fun _ ↦ hget.bind fun _ ↦ Procedure.keeps_pure _

/-! ## One session per thread -/

section Runs

variable {Client : Type} (sessions : Client → Session)

def service : Service Sys Client Operation Outcome Thread Mailboxes where
  run client := run (sessions client)
  contract _ := Mailboxes.contract
  drifts := Mailboxes.Progress

/-- The slot of one session, where only that session makes requests. -/
def ownSlot (fd : ℤ) : Contract Sys Mailbox where
  answers := Mailbox.answers fd
  permits op _ := OnSlot fd op
  tolerates _ := True

/-- A thread shares no descriptor with another. -/
def Distinct : Prop :=
  Function.Injective fun client ↦ (sessions client).fd

variable {sessions}

theorem answers_own {fd : ℤ} {op : Syscall} {answer : op.Answer} {boxes boxes' : Mailboxes}
    (hpermit : OnSlot fd op) (hanswer : Mailboxes.answers op boxes answer boxes') :
    Mailbox.answers fd op (boxes fd) answer (boxes' fd) := by
  cases op with
  | smcMsg fd' msg =>
    obtain rfl : fd' = fd := hpermit
    obtain ⟨mailbox, hmessage, rfl⟩ := hanswer
    simpa [Mailbox.answers] using hmessage
  | _ =>
    have hsame : boxes' = boxes := hanswer
    subst hsame
    rfl

theorem answers_other {fd other : ℤ} {op : Syscall} {answer : op.Answer}
    {boxes boxes' : Mailboxes} (hpermit : OnSlot fd op) (hne : other ≠ fd)
    (hanswer : Mailboxes.answers op boxes answer boxes') : boxes' other = boxes other := by
  cases op with
  | smcMsg fd' msg =>
    obtain rfl : fd' = fd := hpermit
    obtain ⟨mailbox, -, rfl⟩ := hanswer
    exact Function.update_of_ne hne _ _
  | _ =>
    have hsame : boxes' = boxes := hanswer
    rw [hsame]

/-- What concerns a thread is the slot of its session. -/
def slots (hdistinct : Distinct sessions) : (service sessions).Footprint Mailbox where
  view client boxes := boxes (sessions client).fd
  own client := ownSlot (sessions client).fd
  rely _ := Mailbox.Progress
  answered _ _ _ _ _ hpermit hanswer := answers_own hpermit hanswer
  spared client other op boxes answer boxes' hne hpermit hanswer := by
    have hfd : (sessions other).fd ≠ (sessions client).fd := fun heq ↦ hne (hdistinct heq)
    rw [answers_other hpermit hfd hanswer]
  drifted client boxes boxes' := by
    rintro ⟨fd, mailbox, hprogress, rfl⟩
    by_cases heq : (sessions client).fd = fd
    · subst heq
      rw [Function.update_self]
      exact .single hprogress
    · rw [Function.update_of_ne heq]

/-- Making requests on its own descriptor only, a call finds what a session alone finds. -/
theorem wp_slot {hdistinct : Distinct sessions} {client : Client} {operation : Operation}
    {post : Procedure.Post Sys Outcome Thread Mailbox} {thread : Thread} {mailbox : Mailbox}
    (h : Procedure.wp (Mailbox.contract (sessions client).fd) (run (sessions client) operation)
      post thread mailbox) :
    Procedure.wp ((slots hdistinct).contract client) (run (sessions client) operation)
      post thread mailbox := by
  have hstep : ∀ op v w answer v', OnSlot (sessions client).fd op → v = w →
      ((slots hdistinct).contract client).answers op v answer v' →
      ∃ w', (Mailbox.contract (sessions client).fd).answers op w answer w' ∧ v' = w' := by
    rintro op v _ answer v' - rfl hanswer
    exact ⟨v', hanswer, rfl⟩
  refine Procedure.wp_mono (Procedure.wp_refines (fun _ _ ↦ trivial) hstep
    (fun op v w hon _ _ _ _ ↦ hon) (fun _ _ _ ↦ trivial)
    (run_stays (sessions client) operation thread () trivial) h rfl) ?_
  rintro trace outcome thread' _ ⟨mailbox', rfl, hpost⟩
  exact hpost

variable [DecidableEq Client]

def Empty (boxes : Mailboxes) : Prop :=
  ∀ fd, boxes fd = { slot := .idle, posted := [], answered := [], taken := [], dropped := [] }

variable (sessions) in
def system : System (Service.State Sys Client Operation Outcome Thread Mailboxes)
    (Service.Label Sys Client Operation Outcome) :=
  (service sessions).system Empty

/-- Every response that was given consumed a message of its own, which carried the request that
was outstanding. -/
structure Matched (mailbox : Mailbox) (dialogue : Dialogue) : Prop where
  once : mailbox.taken.Nodup
  answers : List.Forall₂ (Answers mailbox) mailbox.taken dialogue.answered

/-- Whatever other threads do on their sessions, every poll, wait and call of a thread that
succeeded was given the reply to the request that its dialogue has outstanding there, and no reply
was given twice. -/
theorem sessions_isolated (hopen : ∀ client, 0 ≤ (sessions client).fd)
    (hdistinct : Distinct sessions)
    {s : Service.State Sys Client Operation Outcome Thread Mailboxes}
    (hreach : (system sessions).Reachable s) (client : Client) (hidle : s.Idle client) :
    Matched (s.world (sessions client).fd) (dialogue (s.history client)) := by
  have hsound : (slots hdistinct).Sound
      (fun _ history _ mailbox ↦ Tells (dialogue history) mailbox) s := by
    refine Service.Footprint.sound_of_reaches ?_ ?_ ?_ hreach
    · intro client thread boxes hempty
      exact tells_empty (hempty _)
    · exact fun _ _ _ _ _ htells hprogress ↦ htells.progress hprogress
    · exact fun s client operation _ thread mailbox htells ↦
        wp_slot (run_tells (hopen client) htells operation)
  have htells := hsound.idle client hidle
  exact ⟨htells.consistent.nodup, htells.answered⟩

end Runs

/-! ## Two threads -/

def sampleSessions (client : Bool) : Session :=
  { dev := { id := 0 }, fd := if client then 4 else 3, flags := 0 }

theorem sampleSessions_distinct : Distinct sampleSessions := by
  intro client other hsame
  cases client <;> cases other <;> simp [sampleSessions] at hsame ⊢

def sampleBoxes (mailbox : Mailbox) : Mailboxes :=
  Function.update (fun _ ↦ emptyMailbox) 3 mailbox

/-- A state the first thread has come to with these calls. -/
def Comes (mailbox : Mailbox) (history : List (Operation × Outcome)) : Prop :=
  ∃ s, (system sampleSessions).Reachable s ∧ s.world = sampleBoxes mailbox ∧
    s.thread false = Thread.initial ∧ s.Idle false ∧ s.history false = history

theorem comes_empty : Comes emptyMailbox [] := by
  let s : Service.State Sys Bool Operation Outcome Thread Mailboxes :=
    { world := sampleBoxes emptyMailbox, thread := fun _ ↦ Thread.initial,
      calls := fun _ ↦ none, history := fun _ ↦ [] }
  refine ⟨s, .start ⟨fun fd ↦ ?_, fun _ ↦ rfl, fun _ ↦ rfl⟩, rfl, rfl, rfl, rfl⟩
  simp [s, sampleBoxes, emptyMailbox]

def posted : Operation × Outcome :=
  (.post (some 1), { status := .TT_OK (), sent := some SmcMsg.zero, received := none })

theorem comes_posted : Comes (emptyMailbox.post SmcMsg.zero) [posted] := by
  obtain ⟨s, hreach, hworld, hthread, hidle, hhistory⟩ := comes_empty
  have hpost : Mailboxes.contract.answers (.smcMsg 3 (smcMsgIoctl .POST SmcMsg.zero)) s.world
      (.ok SmcMsg.zero (.other 0)) (sampleBoxes (emptyMailbox.post SmcMsg.zero)) := by
    rw [hworld]
    exact ⟨emptyMailbox.post SmcMsg.zero, ⟨rfl, rfl⟩, by simp [sampleBoxes]⟩
  have hrun : Procedure.Executes ((service sampleSessions).contract false)
      ((service sampleSessions).run false (.post (some 1))) (s.thread false) s.world
      [⟨.smcMsg 3 (smcMsgIoctl .POST SmcMsg.zero), .ok SmcMsg.zero (.other 0)⟩]
      posted.2 Thread.initial (sampleBoxes (emptyMailbox.post SmcMsg.zero)) := by
    rw [hthread]
    exact .call hpost .done
  obtain ⟨s', hreach', hworld', hthread', hidle', hhistory'⟩ :=
    Service.reachable_call hreach hidle hrun
  exact ⟨s', hreach', hworld', hthread', hidle', hhistory'.trans (by rw [hhistory]; rfl)⟩

theorem comes_answered : Comes answeredMailbox [posted] := by
  obtain ⟨s, hreach, hworld, hthread, hidle, hhistory⟩ := comes_posted
  have hdrift : Service.Moves (service sampleSessions) s .drifts
      { s with world := sampleBoxes answeredMailbox } := by
    refine .drifts ⟨3, answeredMailbox, ?_, ?_⟩
    · rw [hworld]
      exact .answer SmcMsg.zero rfl
    · simp [hworld, sampleBoxes]
  exact ⟨_, hreach.move trivial hdrift, rfl, hthread, hidle, hhistory⟩

def polled : Operation × Outcome :=
  (.poll (some 2), { status := .TT_OK (), sent := none, received := some SmcMsg.zero })

/-- The first thread posted a request, and got the reply to it. -/
theorem sample_isolated : ∃ s : Service.State Sys Bool Operation Outcome Thread Mailboxes,
    s.history false = [polled, posted] ∧
      Matched (s.world 3) ⟨none, [(some SmcMsg.zero, some SmcMsg.zero)]⟩ := by
  obtain ⟨s, hreach, hworld, hthread, hidle, hhistory⟩ := comes_answered
  have hpoll : Mailboxes.contract.answers (.smcMsg 3 (smcMsgIoctl .POLL SmcMsg.zero)) s.world
      (.ok SmcMsg.zero (.other 0)) (sampleBoxes (answeredMailbox.take 0)) := by
    rw [hworld]
    exact ⟨answeredMailbox.take 0, ⟨0, rfl, rfl⟩, by simp [sampleBoxes]⟩
  have hrun : Procedure.Executes ((service sampleSessions).contract false)
      ((service sampleSessions).run false (.poll (some 2))) (s.thread false) s.world
      [⟨.smcMsg 3 (smcMsgIoctl .POLL SmcMsg.zero), .ok SmcMsg.zero (.other 0)⟩] polled.2
      { Thread.initial with messages := Function.update Thread.initial.messages 2 SmcMsg.zero }
      (sampleBoxes (answeredMailbox.take 0)) := by
    rw [hthread]
    exact .call hpoll .done
  obtain ⟨s', hreach', -, -, hidle', hhistory'⟩ := Service.reachable_call hreach hidle hrun
  rw [hhistory] at hhistory'
  have hmatched := sessions_isolated (by decide) sampleSessions_distinct hreach' false hidle'
  rw [hhistory'] at hmatched
  exact ⟨s', hhistory', hmatched⟩

end TtDal.Safety.MessageSessions
