import TtDal.Binding.Queued
import TtDal.Driver.Channel
import TtDal.Effect.Residual

/-!
# Who reads and discards a message

Python code holds any number of `Queued` handles on one session, posts and polls and drops them in
any order, lets other threads run `Session.call`, which waits without the interpreter lock, and
reopens the session, which also waits without it while nobody can borrow the session. A handle
acts on whatever message is in the slot.

Each client of the session, a handle or a call under way, has a ticket that records which message
it posted. Tickets record history and restrict nothing. The condition `Careful` asks that nobody
reads or discards on a ticket that is used up or belongs to a closed descriptor. Under it every
handle reads and discards its own message only.
-/

namespace TtDal.Safety.QueuedOwnership

open Effect Platform Dev Driver Binding

open Binding.Python (Queued PyErr)

/-! ## Tickets -/

/-- Who may act on messages: a handle, or a call under way. -/
inductive Client where
  | handle (name : ℕ)
  | call (name : ℕ)
  deriving DecidableEq, Repr

/-- How far a client got with its message. -/
inductive Phase where
  | fresh
  | outstanding
  | spent
  deriving DecidableEq, Repr

structure Ticket where
  /-- The number of the posted message. -/
  message : ℕ
  /-- The generation of the descriptor it was posted on. -/
  generation : ℕ
  phase : Phase
  deriving DecidableEq, Repr

namespace Ticket

/-- Nothing was posted yet. -/
def fresh : Ticket := { message := 0, generation := 0, phase := .fresh }

def spent (ticket : Ticket) : Ticket := { ticket with phase := .spent }

/-- The ticket after one answer to its client. The message is gone once its reply or its failure
was reported, and once it was abandoned. -/
def answered (channel : Channel) (ticket : Ticket) : SmcMsgFlag → Reply SmcMsg → Ticket
  | .POST, .ok _ _ =>
    { message := channel.mailbox.posted.length
      generation := channel.generation
      phase := .outstanding }
  | .POST, .fail _ => ticket
  | .POLL, .ok _ _ => ticket.spent
  | .POLL, .fail err => if err = .EAGAIN then ticket else ticket.spent
  | .ABANDON, _ => ticket.spent

def after (channel : Channel) (ticket : Ticket) : Event Sys → Ticket
  | ⟨.smcMsg _ msg, reply⟩ => ticket.answered channel msg.flags reply
  | _ => ticket

/-- The message is still its client's to read, on the descriptor it was posted on. -/
def Current (ticket : Ticket) (channel : Channel) : Prop :=
  ticket.phase = .outstanding ∧ ticket.generation = channel.generation

/-- When a request cannot touch the message of somebody else. -/
def Entitled (ticket : Ticket) (channel : Channel) : SmcMsgFlag → Prop
  | .POST => True
  | .POLL => ticket.Current channel ∨ ¬channel.mailbox.slot.Resolved
  | .ABANDON => ticket.Current channel ∨ channel.mailbox.slot = .idle

theorem answered_fail (channel : Channel) (ticket : Ticket) (flags : SmcMsgFlag) (err : Errno) :
    ticket.answered channel flags (.fail err) = ticket ∨
      ticket.answered channel flags (.fail err) = ticket.spent := by
  cases flags with
  | POST => exact .inl rfl
  | POLL =>
    by_cases herr : err = .EAGAIN
    · exact .inl (if_pos herr)
    · exact .inr (if_neg herr)
  | ABANDON => exact .inr rfl

theorem answered_message (channel : Channel) (ticket : Ticket) {flags : SmcMsgFlag}
    (reply : Reply SmcMsg) (h : flags ≠ .POST) :
    (ticket.answered channel flags reply).message = ticket.message := by
  cases flags with
  | POST => exact absurd rfl h
  | POLL =>
    cases reply with
    | ok answer residue => rfl
    | fail err =>
      rcases ticket.answered_fail channel .POLL err with hsame | hdropped
      · rw [hsame]
      · rw [hdropped]
        rfl
  | ABANDON => rfl

/-- A ticket that was current as long as it was outstanding stays so. -/
theorem answered_generation {channel : Channel} {ticket : Ticket} {flags : SmcMsgFlag}
    {reply : Reply SmcMsg} (h : ticket.phase = .outstanding → ticket.generation = channel.generation)
    (hphase : (ticket.answered channel flags reply).phase = .outstanding) :
    (ticket.answered channel flags reply).generation = channel.generation := by
  cases reply with
  | ok answer residue =>
    cases flags with
    | POST => rfl
    | POLL | ABANDON => cases hphase
  | fail err =>
    rcases ticket.answered_fail channel flags err with heq | heq
    · rw [heq] at hphase ⊢
      exact h hphase
    · rw [heq] at hphase
      cases hphase

/-- A client that posted has posted for good. -/
theorem answered_ne_fresh {channel : Channel} {ticket : Ticket} {flags : SmcMsgFlag}
    {reply : Reply SmcMsg} (h : ticket.phase ≠ .fresh) :
    (ticket.answered channel flags reply).phase ≠ .fresh := by
  cases reply with
  | ok answer residue => cases flags <;> exact nofun
  | fail err =>
    rcases ticket.answered_fail channel flags err with heq | heq
    · rwa [heq]
    · rw [heq]
      exact nofun

end Ticket

/-- A change of the slot that only concerns one message. -/
structure Spares (message : ℕ) (mailbox mailbox' : Mailbox) : Prop where
  slot : mailbox'.slot = mailbox.slot ∨ mailbox.slot.message = some message
  taken : mailbox'.taken = mailbox.taken ∨ mailbox'.taken = message :: mailbox.taken
  dropped : mailbox'.dropped = mailbox.dropped ∨ mailbox'.dropped = message :: mailbox.dropped

theorem Spares.refl (message : ℕ) (mailbox : Mailbox) : Spares message mailbox mailbox :=
  ⟨.inl rfl, .inl rfl, .inl rfl⟩

/-- At most one client has a current ticket, and then its message is in the slot. -/
structure Held (tickets : Client → Option Ticket) (channel : Channel) : Prop where
  consistent : channel.mailbox.Consistent
  known : ∀ client ticket, tickets client = some ticket → ticket.generation ≤ channel.generation
  holds : ∀ client ticket, tickets client = some ticket → ticket.Current channel →
    channel.mailbox.slot.message = some ticket.message
  sole : ∀ client client' ticket ticket', tickets client = some ticket → tickets client' = some ticket' →
    ticket.Current channel → ticket'.Current channel → client = client'

section Held

variable {tickets : Client → Option Ticket} {channel channel' : Channel} {client : Client}
  {ticket ticket' : Ticket} {mailbox : Mailbox} {fd : ℤ} {msg : SmcMsgIoctl} {reply : Reply SmcMsg}

theorem Held.not_current_of_idle (h : Held tickets channel) (hidle : channel.mailbox.slot = .idle)
    (hticket : tickets client = some ticket) : ¬ticket.Current channel := by
  intro hcurrent
  have hmessage := h.holds client ticket hticket hcurrent
  rw [hidle] at hmessage
  cases hmessage

/-- What holds of the tickets of a map holds after one entry was set. -/
theorem forall_update {P : Client → Ticket → Prop} (hself : P client ticket')
    (hother : ∀ client' other, client' ≠ client → tickets client' = some other → P client' other)
    (client' : Client) (other : Ticket)
    (hentry : Function.update tickets client (some ticket') client' = some other) : P client' other := by
  by_cases hclient : client' = client
  · subst hclient
    rw [Function.update_self] at hentry
    exact Option.some.inj hentry ▸ hself
  · rw [Function.update_of_ne hclient] at hentry
    exact hother client' other hclient hentry

/-- A ticket that is not current, or was there before, adds nothing to what the tickets hold. -/
theorem Held.updated (h : Held tickets channel)
    (hself : ticket'.Current channel → tickets client = some ticket')
    (hknown : ticket'.generation ≤ channel.generation) :
    Held (Function.update tickets client (some ticket')) channel := by
  have hold : ∀ client' other, Function.update tickets client (some ticket') client' = some other →
      other.Current channel → tickets client' = some other :=
    forall_update hself fun client' other _ hother _ ↦ hother
  exact
    { consistent := h.consistent
      known := forall_update hknown fun client' other _ ↦ h.known client' other
      holds := fun client' other hother hcurrent ↦
        h.holds client' other (hold client' other hother hcurrent) hcurrent
      sole := fun first second other other' hfirst hsecond hcurrent hcurrent' ↦
        h.sole first second other other' (hold _ _ hfirst hcurrent) (hold _ _ hsecond hcurrent')
          hcurrent hcurrent' }

/-- A ticket that stays as it is, or is used up, holds no more than before. -/
theorem Held.relaxed (h : Held tickets channel) (hticket : tickets client = some ticket)
    (hticket' : ticket' = ticket ∨ ticket' = ticket.spent) :
    Held (Function.update tickets client (some ticket')) channel := by
  rcases hticket' with rfl | rfl
  · exact h.updated (fun _ ↦ hticket) (h.known client _ hticket)
  · exact h.updated (fun hcurrent ↦ by cases hcurrent.1) (h.known client ticket hticket)

/-- When nobody has a current ticket, only the mailbox and the generations matter. -/
theorem held_of_not_current (hconsistent : channel.mailbox.Consistent)
    (hknown : ∀ client ticket, tickets client = some ticket → ticket.generation ≤ channel.generation)
    (hnone : ∀ client ticket, tickets client = some ticket → ¬ticket.Current channel) :
    Held tickets channel where
  consistent := hconsistent
  known := hknown
  holds client ticket hticket hcurrent := absurd hcurrent (hnone client ticket hticket)
  sole client _ ticket _ hticket _ hcurrent _ := absurd hcurrent (hnone client ticket hticket)

/-- When the owner of the slot empties it and uses up its ticket, nobody holds a message. -/
theorem Held.emptied (h : Held tickets channel) (hticket : tickets client = some ticket)
    (howner : ticket.Current channel ∨ channel.mailbox.slot = .idle)
    (hconsistent : mailbox.Consistent) :
    Held (Function.update tickets client (some ticket.spent)) (channel.withMailbox mailbox) := by
  apply held_of_not_current hconsistent
  · exact forall_update (h.known client ticket hticket) fun client' other _ ↦ h.known client' other
  · refine forall_update (fun hcurrent ↦ by cases hcurrent.1) fun client' other hclient hother ↦ ?_
    intro hcurrent
    rcases howner with howner | hidle
    · exact hclient (h.sole client' client other ticket hother hticket hcurrent howner)
    · exact h.not_current_of_idle hidle hother hcurrent

/-- A message posted into the empty slot is held by its client alone. -/
theorem Held.posted (h : Held tickets channel) (hidle : channel.mailbox.slot = .idle)
    (request : SmcMsg) (hticket' : ticket' =
      { message := channel.mailbox.posted.length
        generation := channel.generation
        phase := .outstanding }) :
    Held (Function.update tickets client (some ticket'))
      (channel.withMailbox (channel.mailbox.post request)) := by
  have howner : ∀ client' other, Function.update tickets client (some ticket') client' = some other →
      other.Current channel → client' = client ∧ other.message = channel.mailbox.posted.length := by
    refine forall_update (fun _ ↦ ⟨rfl, hticket' ▸ rfl⟩) fun client' other _ hother hcurrent ↦ ?_
    exact absurd hcurrent (h.not_current_of_idle hidle hother)
  exact
    { consistent := h.consistent.post request
      known := forall_update (hticket' ▸ Nat.le_refl _) fun client' other _ ↦ h.known client' other
      holds := fun client' other hother hcurrent ↦
        congrArg some (howner client' other hother hcurrent).2.symm
      sole := fun first second other other' hfirst hsecond hcurrent hcurrent' ↦
        (howner first other hfirst hcurrent).1.trans
          (howner second other' hsecond hcurrent').1.symm }

/-- The controller only resolves the outstanding message. -/
theorem Held.exchanged (h : Held tickets channel)
    (hprogress : Mailbox.Progress channel.mailbox mailbox) :
    Held tickets (channel.withMailbox mailbox) where
  consistent := h.consistent.progress hprogress
  known := h.known
  holds client ticket hticket hcurrent := by
    have hprogressed : Mailbox.Progressed channel.mailbox mailbox := .single hprogress
    exact hprogressed.frame.1.trans (h.holds client ticket hticket hcurrent)
  sole := h.sole

/-- Tickets of an earlier descriptor are not current. -/
theorem Held.replaced (h : Held tickets channel) (fd : Option ℤ) :
    Held tickets (channel.replaced fd) := by
  apply held_of_not_current h.consistent.consume
  · intro client ticket hticket
    exact Nat.le_succ_of_le (h.known client ticket hticket)
  · intro client ticket hticket hcurrent
    have hle := h.known client ticket hticket
    have heq : ticket.generation = channel.generation + 1 := hcurrent.2
    omega

/-- A client without a message. -/
theorem Held.joined (h : Held tickets channel) :
    Held (Function.update tickets client (some Ticket.fresh)) channel :=
  h.updated (fun hcurrent ↦ by cases hcurrent.1) (Nat.zero_le _)

/-- A client that may poll a resolved exchange has posted its message. -/
theorem Ticket.Entitled.current (h : ticket.Entitled channel .POLL)
    (hresolved : channel.mailbox.slot.Resolved) : ticket.Current channel :=
  h.resolve_right (not_not.mpr hresolved)

/-- A request an entitled client makes keeps the tickets right. -/
theorem Held.answered (h : Held tickets channel) (hticket : tickets client = some ticket)
    (hentitled : ticket.Entitled channel msg.flags)
    (hanswer : channel.answersMessage fd msg reply channel') :
    Held (Function.update tickets client (some (ticket.answered channel msg.flags reply)))
      channel' := by
  rcases hanswer with ⟨-, mailbox, hanswer, rfl⟩ | ⟨hfail, rfl⟩
  · unfold Mailbox.answersMessage at hanswer
    cases hflags : msg.flags with
    | POST =>
      rw [hflags] at hanswer
      cases reply with
      | ok answer residue =>
        obtain ⟨hidle, rfl⟩ := hanswer
        exact h.posted hidle msg.message rfl
      | fail err =>
        obtain ⟨-, rfl⟩ := hanswer
        exact h.relaxed hticket (.inl rfl)
    | POLL =>
      rw [hflags] at hanswer hentitled
      rcases Mailbox.answersPoll_cases hanswer with ⟨err, rfl, -, rfl⟩ |
        ⟨message, answer, residue, rfl, hslot, rfl⟩ | ⟨message, err, rfl, hslot, rfl⟩
      · exact h.relaxed hticket (ticket.answered_fail _ .POLL err)
      · have hcurrent := hentitled.current (by rw [hslot]; trivial)
        exact h.emptied hticket (.inl hcurrent) (h.consistent.take hslot)
      · have hcurrent := hentitled.current (by rw [hslot]; trivial)
        have hgenuine := (h.consistent.genuine message err hslot).1
        have hspent : ticket.answered channel .POLL (.fail err) = ticket.spent := if_neg hgenuine
        rw [hspent]
        exact h.emptied hticket (.inl hcurrent) h.consistent.consume
    | ABANDON =>
      rw [hflags] at hanswer hentitled
      cases reply with
      | ok answer residue =>
        obtain rfl := hanswer
        exact h.emptied hticket hentitled h.consistent.abandon
      | fail err => exact hanswer.elim
  · cases reply with
    | ok answer residue => cases hfail
    | fail err => exact h.relaxed hticket (ticket.answered_fail _ msg.flags err)

/-- What an entitled client that does not post does to the slot. -/
theorem Held.spares (h : Held tickets channel) (hticket : tickets client = some ticket)
    (hentitled : ticket.Entitled channel msg.flags) (hflags : msg.flags ≠ .POST)
    (hanswer : channel.answersMessage fd msg reply channel') :
    Spares ticket.message channel.mailbox channel'.mailbox := by
  rcases hanswer with ⟨-, mailbox, hanswer, rfl⟩ | ⟨-, rfl⟩
  · unfold Mailbox.answersMessage at hanswer
    cases hflags' : msg.flags with
    | POST => exact absurd hflags' hflags
    | POLL =>
      rw [hflags'] at hanswer hentitled
      rcases Mailbox.answersPoll_cases hanswer with ⟨err, rfl, -, rfl⟩ |
        ⟨message, answer, residue, rfl, hslot, rfl⟩ | ⟨message, err, rfl, hslot, rfl⟩
      · exact .refl _ _
      · have hcurrent := hentitled.current (by rw [hslot]; trivial)
        have hown := h.holds client ticket hticket hcurrent
        have hmessage : message = ticket.message := by
          rw [hslot] at hown
          exact Option.some.inj hown
        exact ⟨.inr hown, .inr (hmessage ▸ rfl), .inl rfl⟩
      · have hcurrent := hentitled.current (by rw [hslot]; trivial)
        exact ⟨.inr (h.holds client ticket hticket hcurrent), .inl rfl, .inl rfl⟩
    | ABANDON =>
      rw [hflags'] at hanswer hentitled
      cases reply with
      | fail err => exact hanswer.elim
      | ok answer residue =>
        obtain rfl := hanswer
        rcases hentitled with hcurrent | hidle
        · have hown := h.holds client ticket hticket hcurrent
          exact ⟨.inr hown, .inl rfl, .inr (by simp [Mailbox.abandon, Channel.withMailbox, hown])⟩
        · refine ⟨.inl hidle.symm, .inl rfl, .inl ?_⟩
          simp [Mailbox.abandon, Channel.withMailbox, hidle, Slot.message]
  · exact .refl _ _

/-- A reply that an entitled client reads is its own. -/
theorem Held.reads (h : Held tickets channel) (hticket : tickets client = some ticket)
    (hentitled : ticket.Entitled channel .POLL) (hflags : msg.flags = .POLL) {answer : SmcMsg}
    {residue : Errno} (hanswer : channel.answersMessage fd msg (.ok answer residue) channel') :
    channel.mailbox.slot = .ready ticket.message answer ∧
      channel'.mailbox.taken = ticket.message :: channel.mailbox.taken := by
  rcases hanswer with ⟨-, mailbox, hanswer, rfl⟩ | ⟨hfail, -⟩
  · unfold Mailbox.answersMessage at hanswer
    rw [hflags] at hanswer
    obtain ⟨message, hslot, rfl⟩ := hanswer
    have hcurrent := hentitled.current (by rw [hslot]; trivial)
    have hown := h.holds client ticket hticket hcurrent
    rw [hslot] at hown
    obtain rfl : message = ticket.message := Option.some.inj hown
    exact ⟨hslot, rfl⟩
  · cases hfail

end Held

/-- The ticket of a client after the system calls of a whole function. -/
def Ticket.afterAll (channel : Channel) (ticket : Ticket) (trace : List (Event Sys)) : Ticket :=
  trace.foldl (Ticket.after channel) ticket

/-! ## Specifications of the functions -/

/-- No message request was made. -/
def Quiet (channel : Channel) (trace : List (Event Sys)) (channel' : Channel) : Prop :=
  channel' = channel ∧ ∀ ticket : Ticket, ticket.afterAll channel trace = ticket

/-- One message request was made. -/
def Asks (flags : SmcMsgFlag) (channel : Channel) (trace : List (Event Sys)) (reply : Reply SmcMsg)
    (channel' : Channel) : Prop :=
  ∃ fd msg, msg.flags = flags ∧ channel.answersMessage fd msg reply channel' ∧
    ∀ ticket : Ticket, ticket.afterAll channel trace = ticket.answered channel flags reply

section Specifications

variable {sess : Session} {queued : Queued} {thread : Thread} {channel channel' : Channel}
  {free granted : Bool} {flags : SmcMsgFlag} {reply : Reply SmcMsg} {trace : List (Event Sys)}

/-- Borrowing the session first makes no difference to the messages. -/
theorem Quiet.borrowed (h : Quiet channel trace channel') :
    Quiet channel (⟨.tryBorrow, granted⟩ :: trace) channel' := h

theorem Asks.borrowed (h : Asks flags channel trace reply channel') :
    Asks flags channel (⟨.tryBorrow, granted⟩ :: trace) reply channel' := h

theorem wp_smcDrop : Procedure.wp (Channel.contract free) (ttSmcDrop (some sess))
    (fun trace _ _ channel' ↦ Quiet channel trace channel' ∨
      ∃ reply, Asks .ABANDON channel trace reply channel') thread channel := by
  simp only [ttSmcDrop]
  split
  · exact .inl ⟨rfl, fun _ ↦ rfl⟩
  · simp only [Procedure.wp_bind, wp_sys]
    refine ⟨trivial, fun reply channel' hanswer ↦ ?_⟩
    cases reply with
    | ok answer residue => exact .inr ⟨_, _, _, rfl, hanswer, fun _ ↦ rfl⟩
    | fail err => exact .inr ⟨_, _, _, rfl, hanswer, fun _ ↦ rfl⟩

/-- A handle that is not done discards once, unless the session cannot be borrowed. -/
theorem wp_discard : Procedure.wp (Channel.contract free) (Python.discard sess queued)
    (fun trace queued' _ channel' ↦ (queued' = queued ∨ queued'.done = true) ∧
      (Quiet channel trace channel' ∨
        free = true ∧ queued.done = false ∧ queued'.done = true ∧
          ∃ reply, Asks .ABANDON channel trace reply channel')) thread channel := by
  unfold Python.discard
  split
  · exact ⟨.inl rfl, .inl ⟨rfl, fun _ ↦ rfl⟩⟩
  · rename_i hdone
    simp only [Procedure.wp_bind, wp_sys]
    refine ⟨trivial, fun granted channel' hgranted ↦ ?_⟩
    obtain ⟨rfl, rfl⟩ := hgranted
    cases granted with
    | false => exact ⟨.inr rfl, .inl ⟨rfl, fun _ ↦ rfl⟩⟩
    | true =>
      refine Procedure.wp_call wp_smcDrop fun trace status thread' channel'' hdrop ↦ ?_
      refine ⟨.inr rfl, ?_⟩
      rcases hdrop with hquiet | ⟨reply, hasks⟩
      · exact .inl (by simpa using hquiet.borrowed)
      · exact .inr ⟨rfl, by simpa using hdone, rfl, reply, by simpa using hasks.borrowed⟩

theorem wp_smcPoll (ref : Ref) :
    Procedure.wp (Channel.contract free) (ttSmcPoll (some sess) (some ref))
      (fun trace status thread' channel' ↦
        (Quiet channel trace channel' ∧ status = .TT_ERR ∧ thread'.errno ≠ .EAGAIN) ∨
        ∃ reply, Asks .POLL channel trace reply channel' ∧
          match reply with
          | .ok answer _ => status = .TT_OK () ∧
              thread'.messages = Function.update thread.messages ref answer
          | .fail err => status = .TT_ERR ∧ (thread'.errno = .EAGAIN ↔ err = .EAGAIN))
      thread channel := by
  simp only [ttSmcPoll]
  split
  · exact .inl ⟨⟨rfl, fun _ ↦ rfl⟩, rfl, fun h ↦ by cases h⟩
  · simp only [Procedure.wp_bind, wp_sys]
    refine ⟨trivial, fun reply channel' hanswer ↦ ?_⟩
    cases reply with
    | ok answer residue => exact .inr ⟨_, ⟨_, _, rfl, hanswer, fun _ ↦ rfl⟩, rfl, rfl⟩
    | fail err =>
      exact .inr ⟨_, ⟨_, _, rfl, hanswer, fun _ ↦ rfl⟩, rfl, normalise_eq_EAGAIN⟩

/-- A poll asks once, unless the session cannot be borrowed or is not open. -/
theorem wp_poll : Procedure.wp (Channel.contract free) (Python.poll sess queued)
    (fun trace out _ channel' ↦
      (Quiet channel trace channel' ∧ (out.2 = queued ∨ out.2.done = true) ∧
        ∀ answer, out.1 ≠ .ok (some answer)) ∨
      free = true ∧ ∃ reply, Asks .POLL channel trace reply channel' ∧
        match reply with
        | .ok answer _ => out = (.ok (some answer), { done := true })
        | .fail err => (∀ answer, out.1 ≠ .ok (some answer)) ∧
            if err = .EAGAIN then out.2 = queued else out.2.done = true) thread channel := by
  unfold Python.poll
  simp only [Procedure.wp_bind, wp_sys]
  refine ⟨trivial, fun granted channel' hgranted ↦ ?_⟩
  obtain ⟨rfl, rfl⟩ := hgranted
  cases granted with
  | false => exact .inl ⟨⟨rfl, fun _ ↦ rfl⟩, .inl rfl, by simp⟩
  | true =>
    rw [if_pos rfl, Procedure.wp_bind, Python.wp_store]
    refine Procedure.wp_call (wp_smcPoll Python.rsp) fun trace status thread' channel'' hpoll ↦ ?_
    rcases hpoll with ⟨hquiet, rfl, herrno⟩ | ⟨reply, hasks, hreply⟩
    · simp only [Procedure.wp_bind, wp_getErrno, if_neg herrno]
      exact .inl ⟨by simpa using hquiet.borrowed, .inr rfl, by simp⟩
    · cases reply with
      | ok answer residue =>
        obtain ⟨rfl, hmessages⟩ := hreply
        refine .inr ⟨rfl, _, by simpa using hasks.borrowed, ?_⟩
        simp [hmessages]
      | fail err =>
        obtain ⟨rfl, herrno⟩ := hreply
        simp only [Procedure.wp_bind, wp_getErrno]
        by_cases herr : err = .EAGAIN
        · rw [if_pos (herrno.mpr herr)]
          refine .inr ⟨trivial, _, by simpa using hasks.borrowed, ?_⟩
          exact ⟨by simp, (if_pos herr).mpr rfl⟩
        · rw [if_neg (mt herrno.mp herr)]
          refine .inr ⟨trivial, _, by simpa using hasks.borrowed, ?_⟩
          exact ⟨by simp, (if_neg herr).mpr rfl⟩

/-- A handle is made when the message was posted, and nothing changes otherwise. -/
theorem wp_post (request : SmcMsg) :
    Procedure.wp (Channel.contract free) (Python.post sess request)
      (fun trace out _ channel' ↦ match out with
        | .ok _ => channel.mailbox.slot = .idle ∧
            channel' = channel.withMailbox (channel.mailbox.post request) ∧
            ∀ ticket : Ticket, ticket.afterAll channel trace =
              { message := channel.mailbox.posted.length
                generation := channel.generation
                phase := .outstanding }
        | .error _ => channel' = channel) thread channel := by
  unfold Python.post
  simp only [Procedure.wp_bind, wp_sys]
  refine ⟨trivial, fun granted channel' hgranted ↦ ?_⟩
  obtain ⟨rfl, rfl⟩ := hgranted
  cases granted with
  | false => exact rfl
  | true =>
    simp only [if_true, Procedure.wp_bind, Python.store, Procedure.wp_modify, Python.check]
    unfold ttSmcPost
    simp only
    split
    · exact rfl
    · simp only [Procedure.wp_bind, Procedure.wp_get, wp_sys]
      refine ⟨trivial, fun reply channel' hanswer ↦ ?_⟩
      cases reply with
      | ok answer residue =>
        rcases hanswer with ⟨-, mailbox, ⟨hidle, rfl⟩, rfl⟩ | ⟨hfail, -⟩
        · refine ⟨hidle, ?_, fun _ ↦ rfl⟩
          simp [smcMsgIoctl]
        · cases hfail
      | fail err =>
        rcases hanswer with ⟨-, mailbox, ⟨-, rfl⟩, rfl⟩ | ⟨-, rfl⟩
        · exact rfl
        · exact rfl

end Specifications

/-! ## The protocol of a call -/

/-- A call posts once, polls while its message is outstanding, and may discard afterwards. -/
def protocol : Contract Sys Ticket where
  answers op ticket answer ticket' := ∃ channel, ticket' = ticket.after channel ⟨op, answer⟩
  permits op ticket :=
    match op with
    | .smcMsg _ msg => (msg.flags = .POST → ticket.phase = .fresh) ∧
        (msg.flags = .POLL → ticket.phase = .outstanding)
    | .clockGettime | .usleep _ => True
    | _ => False
  tolerates _ := True

section Protocol

variable {sess : Session} {thread : Thread} {ticket : Ticket}

theorem post_follows (hphase : ticket.phase = .fresh) (ref : Ref) :
    Procedure.wp protocol (ttSmcPost (some sess) (some ref))
      (fun _ status _ ticket' ↦ status = .TT_OK () → ticket'.phase = .outstanding)
      thread ticket := by
  simp only [ttSmcPost]
  split
  · simp
  · simp only [Procedure.wp_bind, Procedure.wp_get, wp_sys]
    refine ⟨⟨fun _ ↦ hphase, fun h ↦ by cases h⟩, fun reply ticket' hticket ↦ ?_⟩
    obtain ⟨channel, rfl⟩ := hticket
    cases reply with
    | ok answer residue => exact fun _ ↦ rfl
    | fail err => simp

theorem poll_follows (hphase : ticket.phase = .outstanding) (ref : Ref) :
    Procedure.wp protocol (ttSmcPoll (some sess) (some ref))
      (fun _ status thread' ticket' ↦ status = .TT_ERR → thread'.errno = .EAGAIN →
        ticket'.phase = .outstanding) thread ticket := by
  simp only [ttSmcPoll]
  split
  · exact fun _ h ↦ by cases h
  · simp only [Procedure.wp_bind, wp_sys]
    refine ⟨⟨(fun h ↦ by cases h), fun _ ↦ hphase⟩, fun reply ticket' hticket ↦ ?_⟩
    obtain ⟨channel, rfl⟩ := hticket
    cases reply with
    | ok answer residue => simp
    | fail err =>
      intro _ herrno
      have herr : err = .EAGAIN := normalise_eq_EAGAIN.mp herrno
      have hsame : ticket.answered channel .POLL (.fail err) = ticket := if_pos herr
      exact (congrArg Ticket.phase hsame).trans hphase

theorem waitLoop_follows (hphase : ticket.phase = .outstanding) (ref : Ref) (budget : ℕ)
    (start : Timespec) (rounds : ℕ) (spins : UInt32) :
    Procedure.wp protocol (smcWaitLoop (some sess) (some ref) budget start rounds spins)
      (fun _ _ _ _ ↦ True) thread ticket := by
  induction rounds generalizing ticket thread spins with
  | zero => exact trivial
  | succ rounds ih =>
    refine Procedure.wp_call (poll_follows hphase ref) fun _ status polled ticket' hpoll ↦ ?_
    cases status with
    | TT_OK => exact trivial
    | TT_ERR =>
      simp only [Procedure.wp_bind, wp_getErrno]
      split
      · exact trivial
      · rename_i herrno
        have hphase' := hpoll rfl (not_not.mp herrno)
        simp only [Procedure.wp_bind, wp_elapsedMs]
        refine ⟨trivial, fun now later hclock ↦ ?_⟩
        obtain ⟨_, rfl⟩ := hclock
        split
        · exact trivial
        · split
          · simp only [Procedure.wp_bind, wp_sys]
            refine ⟨trivial, fun slept rested hsleep ↦ ?_⟩
            obtain ⟨_, rfl⟩ := hsleep
            exact ih hphase' (spins + 1)
          · exact ih hphase' (spins + 1)

theorem wait_follows (hphase : ticket.phase = .outstanding) (rounds : ℕ) (ref : Ref)
    (timeout : UInt32) :
    Procedure.wp protocol (ttSmcWait rounds (some sess) (some ref) timeout)
      (fun _ _ _ _ ↦ True) thread ticket := by
  simp only [ttSmcWait]
  split
  · exact trivial
  · simp only [Procedure.wp_bind, wp_sys]
    refine ⟨trivial, fun start later hclock ↦ ?_⟩
    obtain ⟨_, rfl⟩ := hclock
    exact waitLoop_follows hphase ref _ start rounds 0

theorem drop_follows :
    Procedure.wp protocol (ttSmcDrop (some sess)) (fun _ _ _ _ ↦ True) thread ticket := by
  simp only [ttSmcDrop]
  split
  · exact trivial
  · simp only [Procedure.wp_bind, wp_sys]
    refine ⟨⟨(fun h ↦ by cases h), fun h ↦ by cases h⟩, fun reply ticket' _ ↦ ?_⟩
    cases reply <;> exact trivial

theorem smcCall_follows (hphase : ticket.phase = .fresh) (rounds : ℕ) (req rsp : Ref)
    (timeout : UInt32) :
    Procedure.wp protocol (ttSmcCall rounds (some sess) (some req) (some rsp) timeout)
      (fun _ _ _ _ ↦ True) thread ticket := by
  unfold ttSmcCall
  rw [if_neg (Option.some_ne_none rsp)]
  refine Procedure.wp_call (post_follows hphase req) fun _ status _ ticket' hpost ↦ ?_
  cases status with
  | TT_ERR => exact trivial
  | TT_OK =>
    refine Procedure.wp_call (wait_follows (hpost rfl) rounds rsp timeout) fun _ status _ _ _ ↦ ?_
    cases status with
    | TT_OK => exact trivial
    | TT_ERR =>
      simp only [Procedure.wp_bind, wp_getErrno]
      exact Procedure.wp_mono drop_follows fun _ _ _ _ _ ↦ trivial

/-- A call follows the protocol from its start. -/
theorem call_follows (hphase : ticket.phase = .fresh) (rounds : ℕ) (request : SmcMsg)
    (ms : UInt32) :
    Procedure.wp protocol (Python.call rounds sess request ms) (fun _ _ _ _ ↦ True)
      thread ticket := by
  unfold Python.call
  rw [Procedure.wp_bind, Python.wp_store, Procedure.wp_bind, Python.wp_store]
  refine Procedure.wp_call (smcCall_follows hphase rounds _ _ ms) fun _ status _ _ _ ↦ ?_
  cases status <;> exact trivial

end Protocol

/-! ## Runs -/

/-- What is left of a `Session.call`. -/
abbrev CallRest := Program Sys (Except PyErr SmcMsg × Thread)

/-- What is left of a `Session.reopen`. -/
abbrev ReopenRest := Program Sys ((Except PyErr Unit × Session) × Thread)

structure State where
  channel : Channel
  sess : Session
  handles : ℕ → Option Queued
  calls : ℕ → Option CallRest
  reopening : Option ReopenRest
  /-- The tickets of all clients there have been. -/
  tickets : Client → Option Ticket

/-- Nobody borrows the session exclusively. -/
def State.borrowable (s : State) : Bool := s.reopening.isNone

inductive Label where
  | exchange
  | post (name : ℕ) (request : SmcMsg)
  | refuse
  | poll (name : ℕ) (result : Except PyErr (Option SmcMsg))
  | discard (name : ℕ)
  | collect (name : ℕ)
  | call (name : ℕ)
  | step (name : ℕ)
  | answer (name : ℕ)
  | reopen
  | stepReopen
  | reopened

/-- The handle a move acts through. -/
def Label.handle : Label → Option ℕ
  | .poll name _ | .discard name | .collect name => some name
  | _ => none

/-- The tickets after a client was answered. -/
def State.stamped (s : State) (client : Client) (trace : List (Event Sys)) :
    Client → Option Ticket :=
  Function.update s.tickets client
    ((s.tickets client).map fun ticket ↦ ticket.afterAll s.channel trace)

/-- The moves of the controller and of Python threads. The functions of a handle make one message
request and hold the interpreter lock. Calls and reopens go on one request at a time. A reopen
borrows the session exclusively, so it starts only when no call is under way, and no call starts
before it ends. A handle may be collected when the interpreter is gone. -/
inductive Moves : State → Label → State → Prop where
  | exchange {s : State} {mailbox : Mailbox} : Mailbox.Progress s.channel.mailbox mailbox →
      Moves s .exchange { s with channel := s.channel.withMailbox mailbox }
  | post {s : State} {name : ℕ} {request : SmcMsg} {queued : Queued} {thread thread' : Thread}
      {trace : List (Event Sys)} {channel : Channel} : s.tickets (.handle name) = none →
      Procedure.Executes (Channel.contract s.borrowable) (Python.post s.sess request) thread
        s.channel trace (.ok queued) thread' channel →
      Moves s (.post name request) { s with
        channel := channel
        handles := Function.update s.handles name (some queued)
        tickets := Function.update s.tickets (.handle name)
          (some (Ticket.fresh.afterAll s.channel trace)) }
  | refuse {s : State} {request : SmcMsg} {err : PyErr} {thread thread' : Thread}
      {trace : List (Event Sys)} {channel : Channel} :
      Procedure.Executes (Channel.contract s.borrowable) (Python.post s.sess request) thread
        s.channel trace (.error err) thread' channel →
      Moves s .refuse { s with channel := channel }
  | poll {s : State} {name : ℕ} {queued queued' : Queued} {thread thread' : Thread}
      {result : Except PyErr (Option SmcMsg)} {trace : List (Event Sys)} {channel : Channel} :
      s.handles name = some queued →
      Procedure.Executes (Channel.contract s.borrowable) (Python.poll s.sess queued) thread
        s.channel trace (result, queued') thread' channel →
      Moves s (.poll name result) { s with
        channel := channel
        handles := Function.update s.handles name (some queued')
        tickets := s.stamped (.handle name) trace }
  | discard {s : State} {name : ℕ} {queued queued' : Queued} {thread thread' : Thread}
      {trace : List (Event Sys)} {channel : Channel} : s.handles name = some queued →
      Procedure.Executes (Channel.contract s.borrowable) (Python.discard s.sess queued) thread
        s.channel trace queued' thread' channel →
      Moves s (.discard name) { s with
        channel := channel
        handles := Function.update s.handles name (some queued')
        tickets := s.stamped (.handle name) trace }
  | collect {s : State} {name : ℕ} {queued queued' : Queued} {thread thread' : Thread}
      {trace : List (Event Sys)} {channel : Channel} : s.handles name = some queued →
      Procedure.Executes (Channel.contract s.borrowable) (Python.discard s.sess queued) thread
        s.channel trace queued' thread' channel →
      Moves s (.collect name) { s with
        channel := channel
        handles := Function.update s.handles name none
        tickets := s.stamped (.handle name) trace }
  | lose {s : State} {name : ℕ} {queued : Queued} : s.handles name = some queued →
      Moves s (.collect name) { s with handles := Function.update s.handles name none }
  | call {s : State} {name : ℕ} {rounds : ℕ} {request : SmcMsg} {ms : UInt32} {thread : Thread} :
      s.borrowable = true → s.tickets (.call name) = none →
      Moves s (.call name) { s with
        calls := Function.update s.calls name
          (some ((Python.call rounds s.sess request ms).run thread))
        tickets := Function.update s.tickets (.call name) (some Ticket.fresh) }
  | step {s : State} {name : ℕ} {rest rest' : CallRest} {event : Event Sys} {channel : Channel} :
      s.calls name = some rest →
      Program.Steps (Channel.contract s.borrowable) rest s.channel event rest' channel →
      Moves s (.step name) { s with
        channel := channel
        calls := Function.update s.calls name (some rest')
        tickets := s.stamped (.call name) [event] }
  | answer {s : State} {name : ℕ} {result : Except PyErr SmcMsg} {thread : Thread} :
      s.calls name = some (.done (result, thread)) →
      Moves s (.answer name) { s with calls := Function.update s.calls name none }
  | reopen {s : State} {thread : Thread} : s.borrowable = true → (∀ name, s.calls name = none) →
      Moves s .reopen { s with reopening := some ((Python.reopen s.sess).run thread) }
  | stepReopen {s : State} {rest rest' : ReopenRest} {event : Event Sys} {channel : Channel} :
      s.reopening = some rest →
      Program.Steps (Channel.contract s.borrowable) rest s.channel event rest' channel →
      Moves s .stepReopen { s with channel := channel, reopening := some rest' }
  | reopened {s : State} {result : Except PyErr Unit} {sess : Session} {thread : Thread} :
      s.reopening = some (.done ((result, sess), thread)) →
      Moves s .reopened { s with sess := sess, reopening := none }

/-- An open session on which nothing was posted yet. -/
structure Starts (s : State) : Prop where
  mailbox : s.channel.mailbox =
    { slot := .idle, posted := [], answered := [], taken := [], dropped := [] }
  fd : s.channel.fd = some s.sess.fd
  handles : s.handles = fun _ ↦ none
  calls : s.calls = fun _ ↦ none
  reopening : s.reopening = none
  tickets : s.tickets = fun _ ↦ none

def system : System State Label where
  starts := Starts
  moves := Moves

/-- The message the client posted was not taken, reported failed or abandoned through it, and the
descriptor it was posted on was not closed since. -/
def State.Holds (s : State) (client : Client) : Prop :=
  ∃ ticket, s.tickets client = some ticket ∧ ticket.Current s.channel

/-- Nobody reads a resolved exchange, or discards, on behalf of a message that is gone. A handle
that cannot borrow the session, or whose `done` flag stops it, does nothing. -/
def Careful (s : State) : Label → Prop
  | .poll name _ => s.borrowable = false ∨ s.Holds (.handle name) ∨ ¬s.channel.mailbox.slot.Resolved
  | .discard name | .collect name => s.borrowable = false ∨ s.handles name = some { done := true } ∨
      s.Holds (.handle name) ∨ s.channel.mailbox.slot = .idle
  | .step name => ∀ fd msg next, s.calls name = some (.call (.smcMsg fd msg) next) →
      msg.flags = .ABANDON → s.Holds (.call name) ∨ s.channel.mailbox.slot = .idle
  | _ => True

/-- What a move does to the messages. -/
structure Owned (s : State) (label : Label) (s' : State) : Prop where
  /-- A new handle stands for the message it posted. -/
  posts : ∀ name request, label = .post name request → ∃ ticket, s'.tickets (.handle name) = some ticket ∧
    ticket.message = s.channel.mailbox.posted.length ∧
    s'.channel.mailbox.posted = s.channel.mailbox.posted ++ [request]
  /-- It stands for that message for good. -/
  stands : ∀ name ticket, s.handles name ≠ none → s.tickets (.handle name) = some ticket →
    ∃ ticket', s'.tickets (.handle name) = some ticket' ∧ ticket'.message = ticket.message
  /-- A reply that is read through a handle is the reply to its message. -/
  reads : ∀ name ticket reply, label = .poll name (.ok (some reply)) →
    s.tickets (.handle name) = some ticket → (ticket.message, reply) ∈ s.channel.mailbox.answered ∧
      s'.channel.mailbox.taken = ticket.message :: s.channel.mailbox.taken
  /-- A handle takes, discards or clears its own message only. -/
  spares : ∀ name ticket, label.handle = some name → s.tickets (.handle name) = some ticket →
    Spares ticket.message s.channel.mailbox s'.channel.mailbox

/-! ## The invariant of careful runs -/

/-- The requests a reopen makes. -/
def Reopens : Syscall → Prop
  | .openFile _ _ | .close _ => True
  | _ => False

structure Sound (s : State) : Prop where
  held : Held s.tickets s.channel
  /-- A handle has posted, and its flag is set once its message is gone. -/
  handled : ∀ name queued, s.handles name = some queued → ∃ ticket,
    s.tickets (.handle name) = some ticket ∧ ticket.phase ≠ .fresh ∧
    (queued.done = false → ticket.phase = .outstanding)
  /-- A call under way follows the protocol on a descriptor that stays. -/
  called : ∀ name rest, s.calls name = some rest → s.reopening = none ∧ ∃ ticket post,
    s.tickets (.call name) = some ticket ∧ Program.wp protocol rest post ticket ∧
    (ticket.phase = .outstanding → ticket.generation = s.channel.generation)
  reopens : ∀ rest, s.reopening = some rest → ∃ post, Program.wp (.only Reopens) rest post ()

section Sound

variable {s s' : State} {name : ℕ} {client : Client} {ticket : Ticket} {queued queued' : Queued}
  {channel : Channel} {trace : List (Event Sys)} {reply : Reply SmcMsg} {flags : SmcMsgFlag}
  {handles : ℕ → Option Queued} {label : Label}

theorem starts_sound (h : Starts s) : Sound s where
  held := by
    apply held_of_not_current
    · rw [h.mailbox]
      exact
        { latest := nofun, unread := nofun, ready := nofun, genuine := nofun, pending := nofun
          unique := nofun, numbered := nofun, known := nofun, nodup := .nil }
    · intro client ticket hticket
      simp [h.tickets] at hticket
    · intro client ticket hticket
      simp [h.tickets] at hticket
  handled name queued hqueued := by simp [h.handles] at hqueued
  called name rest hrest := by simp [h.calls] at hrest
  reopens rest hrest := by simp [h.reopening] at hrest

theorem stamped_eq (hticket : s.tickets client = some ticket) :
    s.stamped client trace =
      Function.update s.tickets client (some (ticket.afterAll s.channel trace)) := by
  simp [State.stamped, hticket]

theorem Quiet.stamped (h : Quiet s.channel trace channel) (hticket : s.tickets client = some ticket) :
    s.stamped client trace = s.tickets := by
  rw [stamped_eq hticket, h.2 ticket, ← hticket, Function.update_eq_self]

/-- Only the ticket of a client that acts changes. -/
theorem stamped_of_ne {client' : Client} (hclient : client' ≠ client) :
    s.stamped client trace client' = s.tickets client' :=
  Function.update_of_ne hclient _ _

theorem generation_eq {fd : ℤ} {msg : SmcMsgIoctl}
    (h : s.channel.answersMessage fd msg reply channel) :
    channel.generation = s.channel.generation := by
  rcases h with ⟨-, mailbox, -, rfl⟩ | ⟨-, rfl⟩ <;> rfl

/-- What a function of a handle that made at most one entitled request has done. -/
structure Acted (s : State) (name : ℕ) (ticket : Ticket) (trace : List (Event Sys))
    (channel : Channel) : Prop where
  held : Held (s.stamped (.handle name) trace) channel
  generation : channel.generation = s.channel.generation
  message : (ticket.afterAll s.channel trace).message = ticket.message
  posted : ticket.phase ≠ .fresh → (ticket.afterAll s.channel trace).phase ≠ .fresh
  spares : Spares ticket.message s.channel.mailbox channel.mailbox

theorem Quiet.acted (h : Quiet s.channel trace channel) (hsound : Sound s)
    (hticket : s.tickets (.handle name) = some ticket) : Acted s name ticket trace channel where
  held := by
    rw [h.stamped hticket, h.1]
    exact hsound.held
  generation := congrArg Channel.generation h.1
  message := congrArg Ticket.message (h.2 ticket)
  posted hphase := by rwa [h.2 ticket]
  spares := h.1 ▸ .refl _ _

theorem Asks.acted (h : Asks flags s.channel trace reply channel) (hsound : Sound s)
    (hticket : s.tickets (.handle name) = some ticket) (hflags : flags ≠ .POST)
    (hentitled : ticket.Entitled s.channel flags) : Acted s name ticket trace channel := by
  obtain ⟨fd, msg, rfl, hanswer, hafter⟩ := h
  exact
    { held := by
        rw [stamped_eq hticket, hafter ticket]
        exact hsound.held.answered hticket hentitled hanswer
      generation := generation_eq hanswer
      message := by
        rw [hafter ticket]
        exact ticket.answered_message _ reply hflags
      posted := by
        rw [hafter ticket]
        exact Ticket.answered_ne_fresh
      spares := hsound.held.spares hticket hentitled hflags hanswer }

/-- The invariant after a function of a handle, given what its flag says now. -/
theorem Acted.sound (h : Acted s name ticket trace channel) (hsound : Sound s)
    (hticket : s.tickets (.handle name) = some ticket) (hphase : ticket.phase ≠ .fresh)
    (hothers : ∀ name', name' ≠ name → handles name' = s.handles name')
    (hflag : ∀ queued', handles name = some queued' → queued'.done = false →
      (ticket.afterAll s.channel trace).phase = .outstanding) :
    Sound { s with
      channel := channel
      handles := handles
      tickets := s.stamped (.handle name) trace } where
  held := h.held
  handled name' queued' hqueued := by
    by_cases hname : name' = name
    · subst hname
      refine ⟨ticket.afterAll s.channel trace, ?_, h.posted hphase, hflag queued' hqueued⟩
      simp [stamped_eq hticket]
    · have hclient : Client.handle name' ≠ .handle name := fun heq ↦ hname (Client.handle.inj heq)
      have hold : s.handles name' = some queued' := (hothers name' hname).symm.trans hqueued
      simp only [stamped_of_ne hclient]
      exact hsound.handled name' queued' hold
  called name' rest hrest := by
    have hclient : Client.call name' ≠ .handle name := nofun
    simp only [stamped_of_ne hclient, h.generation]
    exact hsound.called name' rest hrest
  reopens := hsound.reopens

theorem Acted.owned (h : Acted s name ticket trace channel)
    (hticket : s.tickets (.handle name) = some ticket) (hlabel : label.handle = some name)
    (hreads : ∀ answer, label = .poll name (.ok (some answer)) →
      (ticket.message, answer) ∈ s.channel.mailbox.answered ∧
        channel.mailbox.taken = ticket.message :: s.channel.mailbox.taken) :
    Owned s label { s with
      channel := channel
      handles := handles
      tickets := s.stamped (.handle name) trace } where
  posts name' request hpost := by
    subst hpost
    cases hlabel
  stands name' other _ hother := by
    by_cases hname : name' = name
    · subst hname
      obtain rfl : ticket = other := Option.some.inj (hticket.symm.trans hother)
      refine ⟨ticket.afterAll s.channel trace, ?_, h.message⟩
      simp [stamped_eq hticket]
    · have hclient : Client.handle name' ≠ .handle name := fun heq ↦ hname (Client.handle.inj heq)
      exact ⟨other, (stamped_of_ne hclient).trans hother, rfl⟩
  reads name' other answer hpoll hother := by
    obtain rfl : name = name' := by
      subst hpoll
      exact (Option.some.inj hlabel).symm
    obtain rfl : ticket = other := Option.some.inj (hticket.symm.trans hother)
    exact hreads answer hpoll
  spares name' other hhandle hother := by
    obtain rfl : name = name' := Option.some.inj (hlabel.symm.trans hhandle)
    obtain rfl : ticket = other := Option.some.inj (hticket.symm.trans hother)
    exact h.spares

theorem entitled_of_holds (hticket : s.tickets client = some ticket) (h : s.Holds client) :
    ticket.Current s.channel := by
  obtain ⟨other, hother, hcurrent⟩ := h
  obtain rfl : other = ticket := Option.some.inj (hother.symm.trans hticket)
  exact hcurrent

theorem poll_moves {thread thread' : Thread} {result : Except PyErr (Option SmcMsg)}
    (h : Sound s) (hcareful : Careful s (.poll name result)) (hqueued : s.handles name = some queued)
    (hrun : Procedure.Executes (Channel.contract s.borrowable) (Python.poll s.sess queued) thread
      s.channel trace (result, queued') thread' channel) :
    Sound { s with
      channel := channel
      handles := Function.update s.handles name (some queued')
      tickets := s.stamped (.handle name) trace } ∧
    Owned s (.poll name result) { s with
      channel := channel
      handles := Function.update s.handles name (some queued')
      tickets := s.stamped (.handle name) trace } := by
  obtain ⟨ticket, hticket, hphase, hdone⟩ := h.handled name queued hqueued
  have hothers : ∀ name', name' ≠ name →
      Function.update s.handles name (some queued') name' = s.handles name' :=
    fun name' hname ↦ Function.update_of_ne hname _ _
  rcases hrun.ensures wp_poll with ⟨hquiet, hflag, hnone⟩ | ⟨hfree, reply, hasks, hreply⟩
  · have hacted := hquiet.acted h hticket
    refine ⟨hacted.sound h hticket hphase hothers ?_, hacted.owned hticket rfl ?_⟩
    · intro other hother hother'
      rw [Function.update_self] at hother
      obtain rfl := Option.some.inj hother
      rw [hquiet.2 ticket]
      rcases hflag with rfl | hflag
      · exact hdone hother'
      · exact absurd hother' (by simpa using hflag)
    · intro answer hlabel
      cases hlabel
      exact absurd rfl (hnone answer)
  · have hentitled : ticket.Entitled s.channel .POLL := by
      rcases hcareful with hborrowed | hholds | hpending
      · cases hfree.symm.trans hborrowed
      · exact .inl (entitled_of_holds hticket hholds)
      · exact .inr hpending
    have hacted := hasks.acted h hticket nofun hentitled
    obtain ⟨fd, msg, hflags, hanswer, hafter⟩ := hasks
    refine ⟨hacted.sound h hticket hphase hothers ?_, hacted.owned hticket rfl ?_⟩
    · intro other hother hother'
      rw [Function.update_self] at hother
      obtain rfl := Option.some.inj hother
      rw [hafter ticket]
      cases reply with
      | ok answer residue =>
        cases (Prod.mk.inj hreply).2
        cases hother'
      | fail err =>
        by_cases herr : err = .EAGAIN
        · have hsame : queued' = queued := by simpa [herr] using hreply.2
          have hkept : ticket.answered s.channel .POLL (.fail err) = ticket := if_pos herr
          rw [hkept]
          exact hdone (hsame ▸ hother')
        · have hflag : queued'.done = true := by simpa [herr] using hreply.2
          exact absurd hother' (by simpa using hflag)
    · intro answer hlabel
      cases hlabel
      cases reply with
      | ok answer' residue =>
        obtain rfl : answer = answer' := by
          have hresult := (Prod.mk.inj hreply).1
          injection hresult with hsome
          exact Option.some.inj hsome
        have hread := h.held.reads hticket hentitled hflags hanswer
        exact ⟨h.held.consistent.ready _ _ hread.1, hread.2⟩
      | fail err => exact absurd rfl (hreply.1 answer)

theorem discard_moves {thread thread' : Thread} (h : Sound s)
    (hcareful : Careful s (.discard name)) (hqueued : s.handles name = some queued)
    (hrun : Procedure.Executes (Channel.contract s.borrowable) (Python.discard s.sess queued) thread
      s.channel trace queued' thread' channel)
    (hlabel : label = .discard name ∨ label = .collect name)
    (hhandles : handles = Function.update s.handles name (some queued') ∨
      handles = Function.update s.handles name none) :
    Sound { s with
      channel := channel
      handles := handles
      tickets := s.stamped (.handle name) trace } ∧
    Owned s label { s with
      channel := channel
      handles := handles
      tickets := s.stamped (.handle name) trace } := by
  obtain ⟨ticket, hticket, hphase, hdone⟩ := h.handled name queued hqueued
  have hothers : ∀ name', name' ≠ name → handles name' = s.handles name' := by
    intro name' hname
    rcases hhandles with rfl | rfl <;> exact Function.update_of_ne hname _ _
  have hself : ∀ other, handles name = some other → other = queued' := by
    intro other hother
    rcases hhandles with rfl | rfl
    · rw [Function.update_self] at hother
      exact (Option.some.inj hother).symm
    · rw [Function.update_self] at hother
      cases hother
  have hhandle : label.handle = some name := by rcases hlabel with rfl | rfl <;> rfl
  have hpoll : ∀ answer, label ≠ .poll name (.ok (some answer)) := by
    rcases hlabel with rfl | rfl <;> exact nofun
  obtain ⟨hflag, hquiet | ⟨hfree, hnot, hflag', reply, hasks⟩⟩ := hrun.ensures wp_discard
  · have hacted := hquiet.acted h hticket
    refine ⟨hacted.sound h hticket hphase hothers fun other hother hother' ↦ ?_,
      hacted.owned hticket hhandle fun answer hanswer ↦ absurd hanswer (hpoll answer)⟩
    rw [hself other hother] at hother'
    rw [hquiet.2 ticket]
    rcases hflag with rfl | hflag
    · exact hdone hother'
    · exact absurd hother' (by simpa using hflag)
  · have hentitled : ticket.Entitled s.channel .ABANDON := by
      rcases hcareful with hborrowed | hset | hholds | hidle
      · cases hfree.symm.trans hborrowed
      · obtain rfl : queued = { done := true } := Option.some.inj (hqueued.symm.trans hset)
        cases hnot
      · exact .inl (entitled_of_holds hticket hholds)
      · exact .inr hidle
    have hacted := hasks.acted h hticket nofun hentitled
    refine ⟨hacted.sound h hticket hphase hothers fun other hother hother' ↦ ?_,
      hacted.owned hticket hhandle fun answer hanswer ↦ absurd hanswer (hpoll answer)⟩
    rw [hself other hother] at hother'
    exact absurd hother' (by simpa using hflag')

/-- A move of nobody's handle that leaves the tickets of all handles alone. -/
theorem owned_of_other (hpost : ∀ name request, label ≠ .post name request)
    (hhandle : label.handle = none)
    (htickets : ∀ name, s'.tickets (.handle name) = s.tickets (.handle name)) :
    Owned s label s' where
  posts name request h := absurd h (hpost name request)
  stands name ticket _ hticket := ⟨ticket, (htickets name).trans hticket, rfl⟩
  reads name ticket answer h := by
    subst h
    cases hhandle
  spares name ticket h := by
    rw [hhandle] at h
    cases h

theorem post_moves {request : SmcMsg} {thread thread' : Thread} (h : Sound s)
    (hrun : Procedure.Executes (Channel.contract s.borrowable) (Python.post s.sess request) thread
      s.channel trace (.ok queued) thread' channel) (hfresh : s.tickets (.handle name) = none) :
    Sound { s with
      channel := channel
      handles := Function.update s.handles name (some queued)
      tickets := Function.update s.tickets (.handle name)
        (some (Ticket.fresh.afterAll s.channel trace)) } ∧
    Owned s (.post name request) { s with
      channel := channel
      handles := Function.update s.handles name (some queued)
      tickets := Function.update s.tickets (.handle name)
        (some (Ticket.fresh.afterAll s.channel trace)) } := by
  obtain ⟨hidle, rfl, hafter⟩ := hrun.ensures (wp_post request)
  have hother : ∀ name', name' ≠ name → Client.handle name' ≠ .handle name :=
    fun name' hname heq ↦ hname (Client.handle.inj heq)
  refine ⟨{ held := ?_, handled := ?_, called := ?_, reopens := h.reopens },
    { posts := ?_, stands := ?_, reads := nofun, spares := nofun }⟩
  · exact h.held.posted hidle request (hafter Ticket.fresh)
  · intro name' queued' hqueued
    by_cases hname : name' = name
    · subst hname
      refine ⟨Ticket.fresh.afterAll s.channel trace, by simp, ?_, fun _ ↦ ?_⟩
      · rw [hafter]
        exact nofun
      · rw [hafter]
    · simp only [Function.update_of_ne hname] at hqueued
      simp only [Function.update_of_ne (hother name' hname)]
      exact h.handled name' queued' hqueued
  · intro name' rest hrest
    have hclient : Client.call name' ≠ .handle name := nofun
    simp only [Function.update_of_ne hclient]
    exact h.called name' rest hrest
  · intro name' request' hlabel
    cases hlabel
    refine ⟨Ticket.fresh.afterAll s.channel trace, by simp, ?_, rfl⟩
    rw [hafter]
  · intro name' ticket hqueued hticket
    have hname : name' ≠ name := by
      rintro rfl
      cases hfresh.symm.trans hticket
    refine ⟨ticket, ?_, rfl⟩
    simp only [Function.update_of_ne (hother name' hname)]
    exact hticket

/-- A call that goes on makes one request of the protocol. -/
theorem step_moves {rest rest' : CallRest} {event : Event Sys} (h : Sound s)
    (hcareful : Careful s (.step name)) (hrest : s.calls name = some rest)
    (hstep : Program.Steps (Channel.contract s.borrowable) rest s.channel event rest' channel) :
    Sound { s with
      channel := channel
      calls := Function.update s.calls name (some rest')
      tickets := s.stamped (.call name) [event] } := by
  obtain ⟨hfree, ticket, post, hticket, hwp, hcurrent⟩ := h.called name rest hrest
  obtain ⟨hpermits, hnext⟩ := hstep.follows hwp
  have hfollows := hnext (ticket.after s.channel event) ⟨s.channel, rfl⟩
  have hstamped : s.stamped (.call name) [event] =
      Function.update s.tickets (.call name) (some (ticket.after s.channel event)) :=
    stamped_eq hticket
  have hkept : channel.generation = s.channel.generation ∧
      Held (s.stamped (.call name) [event]) channel ∧
      ((ticket.after s.channel event).phase = .outstanding →
        (ticket.after s.channel event).generation = s.channel.generation) := by
    rw [hstamped]
    cases hstep with
    | @call op next answer _ _ hanswer =>
      cases op with
      | smcMsg fd msg =>
        have hentitled : ticket.Entitled s.channel msg.flags := by
          cases hflags : msg.flags with
          | POST => exact trivial
          | POLL =>
            have hphase := hpermits.2 hflags
            exact .inl ⟨hphase, hcurrent hphase⟩
          | ABANDON =>
            rcases hcareful fd msg next hrest hflags with hholds | hidle
            · exact .inl (entitled_of_holds hticket hholds)
            · exact .inr hidle
        exact ⟨generation_eq hanswer, h.held.answered hticket hentitled hanswer,
          Ticket.answered_generation hcurrent⟩
      | clockGettime =>
        obtain rfl := hanswer
        exact ⟨rfl, h.held.relaxed hticket (.inl rfl), hcurrent⟩
      | usleep usec =>
        obtain rfl := hanswer
        exact ⟨rfl, h.held.relaxed hticket (.inl rfl), hcurrent⟩
      | _ => exact hpermits.elim
  exact
    { held := hkept.2.1
      handled := fun name' queued hqueued ↦ by
        have hclient : Client.handle name' ≠ .call name := nofun
        simp only [stamped_of_ne hclient]
        exact h.handled name' queued hqueued
      called := fun name' rest'' hrest'' ↦ by
        by_cases hname : name' = name
        · subst hname
          simp only [Function.update_self] at hrest''
          obtain rfl := Option.some.inj hrest''
          refine ⟨hfree, ticket.after s.channel event, _, by simp [hstamped], hfollows, ?_⟩
          simp only [hkept.1]
          exact hkept.2.2
        · have hclient : Client.call name' ≠ .call name := fun heq ↦ hname (Client.call.inj heq)
          simp only [Function.update_of_ne hname] at hrest''
          simp only [stamped_of_ne hclient, hkept.1]
          exact h.called name' rest'' hrest''
      reopens := h.reopens }

theorem reopen_only (sess : Session) (thread : Thread) :
    Procedure.wp (.only Reopens) (Python.reopen sess) (fun _ _ _ _ ↦ True) thread () := by
  refine (keeps_reopenSession (keeps_only trivial) fun _ _ ↦ keeps_only trivial).wp_call trivial ?_
  intro _ out _ _ _
  obtain ⟨status, sess'⟩ := out
  cases status with
  | TT_OK => exact trivial
  | TT_ERR => exact trivial

/-- A reopen that goes on replaces the descriptor, or changes nothing. -/
theorem stepReopen_moves {rest rest' : ReopenRest} {event : Event Sys} (h : Sound s)
    (hrest : s.reopening = some rest)
    (hstep : Program.Steps (Channel.contract s.borrowable) rest s.channel event rest' channel) :
    Sound { s with channel := channel, reopening := some rest' } := by
  obtain ⟨post, hwp⟩ := h.reopens rest hrest
  obtain ⟨hpermits, hnext⟩ := hstep.follows hwp
  have hheld : Held s.tickets channel := by
    cases hstep with
    | @call op next answer _ _ hanswer =>
      cases op with
      | openFile path flags =>
        cases answer with
        | ok fd residue =>
          obtain rfl := hanswer
          exact h.held.replaced (some fd)
        | fail err =>
          obtain rfl := hanswer
          exact h.held
      | close fd =>
        obtain rfl := hanswer
        split
        · exact h.held.replaced none
        · exact h.held
      | _ => exact hpermits.elim
  exact
    { held := hheld
      handled := h.handled
      called := fun name call hcall ↦ by
        have hnone := (h.called name call hcall).1
        cases hrest.symm.trans hnone
      reopens := fun rest'' hrest'' ↦ by
        obtain rfl := Option.some.inj hrest''
        exact ⟨_, hnext () trivial⟩ }

theorem moves_sound (h : Sound s) (hcareful : Careful s label) (hmove : Moves s label s') :
    Sound s' ∧ Owned s label s' := by
  have hquiet {label : Label} {t : State} (hpost : ∀ name request, label ≠ .post name request)
      (hhandle : label.handle = none) (ht : t.tickets = s.tickets) : Owned s label t :=
    owned_of_other hpost hhandle fun name ↦ congrFun ht _
  cases hmove with
  | exchange hprogress =>
    exact
      ⟨{ held := h.held.exchanged hprogress
         handled := h.handled
         called := h.called
         reopens := h.reopens }, hquiet nofun rfl rfl⟩
  | post hfresh hrun => exact post_moves h hrun hfresh
  | refuse hrun =>
    obtain rfl := hrun.ensures (wp_post _)
    exact ⟨h, hquiet nofun rfl rfl⟩
  | poll hqueued hrun => exact poll_moves h hcareful hqueued hrun
  | discard hqueued hrun =>
    exact discard_moves h hcareful hqueued hrun (.inl rfl) (.inl rfl)
  | collect hqueued hrun =>
    exact discard_moves h hcareful hqueued hrun (.inr rfl) (.inr rfl)
  | @lose name queued hqueued =>
    refine ⟨{ h with handled := ?_ }, { posts := nofun, stands := ?_, reads := nofun, spares := ?_ }⟩
    · intro name' queued' hqueued'
      by_cases hname : name' = name
      · subst hname
        simp at hqueued'
      · simp only [Function.update_of_ne hname] at hqueued'
        exact h.handled name' queued' hqueued'
    · exact fun name' ticket _ hticket ↦ ⟨ticket, hticket, rfl⟩
    · exact fun name' ticket _ _ ↦ .refl _ _
  | @call name rounds request ms thread hfree hfresh =>
    have hwp : Procedure.wp protocol (Python.call rounds s.sess request ms) (fun _ _ _ _ ↦ True)
        thread Ticket.fresh := call_follows rfl rounds request ms
    refine ⟨{ held := h.held.joined, handled := ?_, called := ?_, reopens := h.reopens }, ?_⟩
    · intro name' queued hqueued
      have hclient : Client.handle name' ≠ .call name := nofun
      simp only [Function.update_of_ne hclient]
      exact h.handled name' queued hqueued
    · intro name' rest hrest
      by_cases hname : name' = name
      · subst hname
        simp only [Function.update_self] at hrest
        obtain rfl := Option.some.inj hrest
        refine ⟨by simpa [State.borrowable] using hfree, Ticket.fresh, _, by simp, hwp, nofun⟩
      · have hclient : Client.call name' ≠ .call name := fun heq ↦ hname (Client.call.inj heq)
        simp only [Function.update_of_ne hname] at hrest
        simp only [Function.update_of_ne hclient]
        exact h.called name' rest hrest
    · refine owned_of_other nofun rfl fun name' ↦ ?_
      have hclient : Client.handle name' ≠ .call name := nofun
      simp only [Function.update_of_ne hclient]
  | @step name rest rest' event channel hrest hstep =>
    refine ⟨step_moves h hcareful hrest hstep, owned_of_other nofun rfl fun name' ↦ ?_⟩
    have hclient : Client.handle name' ≠ .call name := nofun
    have hsame : s.stamped (.call name) [event] (.handle name') = s.tickets (.handle name') :=
      stamped_of_ne hclient
    exact hsame
  | @answer name result thread hrest =>
    refine ⟨{ h with called := ?_ }, hquiet nofun rfl rfl⟩
    intro name' rest hrest'
    by_cases hname : name' = name
    · subst hname
      simp at hrest'
    · simp only [Function.update_of_ne hname] at hrest'
      exact h.called name' rest hrest'
  | @reopen thread hfree hcalls =>
    refine ⟨{ h with called := ?_, reopens := ?_ }, hquiet nofun rfl rfl⟩
    · intro name rest hrest
      cases (hcalls name).symm.trans hrest
    · intro rest hrest
      obtain rfl := Option.some.inj hrest
      exact ⟨_, reopen_only s.sess thread⟩
  | stepReopen hrest hstep => exact ⟨stepReopen_moves h hrest hstep, hquiet nofun rfl rfl⟩
  | reopened hrest =>
    refine ⟨{ h with called := ?_, reopens := nofun }, hquiet nofun rfl rfl⟩
    intro name rest hcall
    have hnone := (h.called name rest hcall).1
    cases hrest.symm.trans hnone

/-- In every run in which nobody reads or discards for a message that is gone, a handle reads and
discards the message it posted and no other. -/
theorem careful_run_owned (hrun : system.Reaches Careful s) (hcareful : Careful s label)
    (hmove : Moves s label s') : Owned s label s' := by
  have hsound : Sound s := hrun.invariant (fun _ ↦ starts_sound)
    fun _ _ _ hinv hcareful hmove ↦ (moves_sound hinv hcareful hmove).1
  exact (moves_sound hsound hcareful hmove).2

end Sound

/-! ## Two runs in which a handle acts on the message of another -/

/-- A session on descriptor three that was just opened. -/
def justOpened : State where
  channel :=
    { fd := some 3
      generation := 1
      mailbox := { slot := .idle, posted := [], answered := [], taken := [], dropped := [] } }
  sess := { dev := { id := 0 }, fd := 3, flags := 0 }
  handles _ := none
  calls _ := none
  reopening := none
  tickets _ := none

theorem justOpened_starts : Starts justOpened := ⟨rfl, rfl, rfl, rfl, rfl, rfl⟩

/-- The state after the controller gave the reply to the latest message. -/
def State.replied (s : State) (message : ℕ) (reply : SmcMsg) : State :=
  { s with channel := s.channel.withMailbox { s.channel.mailbox with
      slot := .ready message reply
      answered := (message, reply) :: s.channel.mailbox.answered } }

/-- The state after a handle posted an empty message. -/
def State.posted (s : State) (name : ℕ) : State :=
  { s with
    channel := s.channel.withMailbox (s.channel.mailbox.post SmcMsg.zero)
    handles := Function.update s.handles name (some { done := false })
    tickets := Function.update s.tickets (.handle name)
      (some { message := s.channel.mailbox.posted.length
              generation := s.channel.generation
              phase := .outstanding }) }

/-- The state after a handle read the reply to a message. -/
def State.polled (s : State) (name message : ℕ) (reply : SmcMsg) : State :=
  { s with
    channel := s.channel.withMailbox (s.channel.mailbox.take message)
    handles := Function.update s.handles name (some { done := true })
    tickets := s.stamped (.handle name)
      [⟨.tryBorrow, true⟩, ⟨.smcMsg 3 (smcMsgIoctl .POLL SmcMsg.zero), .ok reply (.other 0)⟩] }

/-- The state after a handle discarded the outstanding message. -/
def State.discarded (s : State) (name : ℕ) : State :=
  { s with
    channel := s.channel.withMailbox s.channel.mailbox.abandon
    handles := Function.update s.handles name (some { done := true })
    tickets := s.stamped (.handle name)
      [⟨.tryBorrow, true⟩,
        ⟨.smcMsg 3 (smcMsgIoctl .ABANDON SmcMsg.zero), .ok SmcMsg.zero (.other 0)⟩] }

section Runs

variable {s : State} {name : ℕ}

theorem granted (hfree : s.reopening = none) :
    (Channel.contract s.borrowable).answers .tryBorrow s.channel true s.channel := by
  have hborrowable : s.borrowable = true := by simp [State.borrowable, hfree]
  rw [hborrowable]
  exact ⟨rfl, rfl⟩

theorem posted_moves (hsess : s.sess = justOpened.sess) (hfree : s.reopening = none)
    (hfd : s.channel.fd = some 3) (hidle : s.channel.mailbox.slot = .idle)
    (hfresh : s.tickets (.handle name) = none) :
    Moves s (.post name SmcMsg.zero) (s.posted name) := by
  have hanswer : (Channel.contract s.borrowable).answers
      (.smcMsg 3 (smcMsgIoctl .POST SmcMsg.zero)) s.channel (.ok SmcMsg.zero (.other 0))
      (s.channel.withMailbox (s.channel.mailbox.post SmcMsg.zero)) :=
    .inl ⟨hfd, _, ⟨hidle, rfl⟩, rfl⟩
  have hrun : Procedure.Executes (Channel.contract s.borrowable)
      (Python.post justOpened.sess SmcMsg.zero) Thread.initial s.channel _ (.ok { done := false }) _
      (s.channel.withMailbox (s.channel.mailbox.post SmcMsg.zero)) :=
    .call (granted hfree) (.call hanswer .done)
  rw [← hsess] at hrun
  exact .post hfresh hrun

theorem replied_moves (message : ℕ) (reply : SmcMsg)
    (hslot : s.channel.mailbox.slot = .pending message) :
    Moves s .exchange (s.replied message reply) :=
  .exchange (.answer reply hslot)

theorem polled_moves {queued : Queued} {message : ℕ} {reply : SmcMsg}
    (hsess : s.sess = justOpened.sess) (hfree : s.reopening = none) (hfd : s.channel.fd = some 3)
    (hqueued : s.handles name = some queued) (hslot : s.channel.mailbox.slot = .ready message reply) :
    Moves s (.poll name (.ok (some reply))) (s.polled name message reply) := by
  have hanswer : (Channel.contract s.borrowable).answers
      (.smcMsg 3 (smcMsgIoctl .POLL SmcMsg.zero)) s.channel (.ok reply (.other 0))
      (s.channel.withMailbox (s.channel.mailbox.take message)) :=
    .inl ⟨hfd, _, ⟨message, hslot, rfl⟩, rfl⟩
  have hrun : ∃ thread', Procedure.Executes (Channel.contract s.borrowable)
      (Python.poll s.sess queued) Thread.initial s.channel
      [⟨.tryBorrow, true⟩, ⟨.smcMsg 3 (smcMsgIoctl .POLL SmcMsg.zero), .ok reply (.other 0)⟩]
      (.ok (some reply), { done := true }) thread'
      (s.channel.withMailbox (s.channel.mailbox.take message)) := by
    rw [hsess]
    exact ⟨_, .call (granted hfree) (.call hanswer .done)⟩
  obtain ⟨thread', hrun⟩ := hrun
  exact .poll hqueued hrun

theorem discarded_moves (hsess : s.sess = justOpened.sess) (hfree : s.reopening = none)
    (hfd : s.channel.fd = some 3) (hqueued : s.handles name = some { done := false }) :
    Moves s (.discard name) (s.discarded name) := by
  have hanswer : (Channel.contract s.borrowable).answers
      (.smcMsg 3 (smcMsgIoctl .ABANDON SmcMsg.zero)) s.channel (.ok SmcMsg.zero (.other 0))
      (s.channel.withMailbox s.channel.mailbox.abandon) :=
    .inl ⟨hfd, _, rfl, rfl⟩
  have hrun : ∃ thread', Procedure.Executes (Channel.contract s.borrowable)
      (Python.discard s.sess { done := false }) Thread.initial s.channel
      [⟨.tryBorrow, true⟩,
        ⟨.smcMsg 3 (smcMsgIoctl .ABANDON SmcMsg.zero), .ok SmcMsg.zero (.other 0)⟩]
      { done := true } thread' (s.channel.withMailbox s.channel.mailbox.abandon) := by
    rw [hsess]
    exact ⟨_, .call (granted hfree) (.call hanswer .done)⟩
  obtain ⟨thread', hrun⟩ := hrun
  exact .discard hqueued hrun

/-- A reopen that is under way may go on to its end. -/
theorem reopening_reaches {rest : ReopenRest} {channel channel' : Channel}
    {trace : List (Event Sys)} {outcome : Outcome ((Except PyErr Unit × Session) × Thread)}
    {out : (Except PyErr Unit × Session) × Thread}
    (hrun : Program.Executes (Channel.contract false) rest channel trace outcome channel')
    (hout : outcome = .returned out)
    (h : system.Reachable { s with channel := channel, reopening := some rest }) :
    system.Reachable { s with channel := channel', reopening := some (.done out) } := by
  induction hrun with
  | done =>
    cases hout
    exact h
  | stop => cases hout
  | call hanswer _ ih =>
    apply ih hout
    exact h.move trivial (.stepReopen rfl (.call hanswer))

theorem reopened_reaches (h : system.Reachable s) (hsess : s.sess = justOpened.sess)
    (hfree : s.reopening = none) (hcalls : s.calls = fun _ ↦ none) (hfd : s.channel.fd = some 3) :
    system.Reachable { s with channel := (s.channel.replaced none).replaced (some 3) } := by
  have hclose : (Channel.contract false).answers (.close 3) s.channel (.ok () (.other 0))
      (s.channel.replaced none) := (if_pos hfd).symm
  have hopen : (Channel.contract false).answers
      (.openFile (devicePath justOpened.sess.dev) (openFlags justOpened.sess.flags))
      (s.channel.replaced none) (.ok 3 (.other 0))
      ((s.channel.replaced none).replaced (some 3)) := rfl
  have hreopen : Procedure.Executes (Channel.contract false) (Python.reopen justOpened.sess)
      Thread.initial s.channel _ (.ok (), justOpened.sess) _
      ((s.channel.replaced none).replaced (some 3)) :=
    Procedure.executes_bind.mpr ⟨_, [], _, _, _, rfl,
      executes_reopenSession justOpened.sess (by decide) (by decide) hclose hopen, .done⟩
  rw [← hsess] at hreopen
  have hstart : Moves s .reopen
      { s with reopening := some ((Python.reopen s.sess).run Thread.initial) } :=
    .reopen (by simp [State.borrowable, hfree]) fun name ↦ congrFun hcalls name
  have hlast := reopening_reaches hreopen rfl (h.move trivial hstart)
  have hended := hlast.move trivial (.reopened rfl)
  rw [← hfree] at hended
  exact hended

end Runs

/-- A handle whose reply was taken polls again, and reads the reply to the next message. -/
def firstPolledTwice : State :=
  ((((justOpened.posted 0).replied 0 SmcMsg.zero).polled 0 0 SmcMsg.zero).posted 1).replied 1
    SmcMsg.zero

theorem firstPolledTwice_reachable : system.Reachable firstPolledTwice := by
  have hposted : system.Reachable (justOpened.posted 0) :=
    (System.Reaches.start justOpened_starts).move trivial (posted_moves rfl rfl rfl rfl rfl)
  have hpolled : system.Reachable
      (((justOpened.posted 0).replied 0 SmcMsg.zero).polled 0 0 SmcMsg.zero) :=
    (hposted.move trivial (replied_moves 0 SmcMsg.zero rfl)).move trivial
      (polled_moves rfl rfl rfl rfl rfl)
  exact (hpolled.move trivial (posted_moves rfl rfl rfl rfl rfl)).move trivial
    (replied_moves 1 SmcMsg.zero rfl)

/-- A handle outlives the reopen of its session, after which another message was posted. -/
def firstReopened : State :=
  { justOpened.posted 0 with
    channel := ((justOpened.posted 0).channel.replaced none).replaced (some 3) }

theorem firstReopened_reachable : system.Reachable (firstReopened.posted 1) := by
  have hposted : system.Reachable (justOpened.posted 0) :=
    (System.Reaches.start justOpened_starts).move trivial (posted_moves rfl rfl rfl rfl rfl)
  have hreopened : system.Reachable firstReopened := reopened_reaches hposted rfl rfl rfl rfl
  exact hreopened.move trivial (posted_moves rfl rfl rfl rfl rfl)

/-- A handle reads the reply to the message of another handle, and a handle from before a reopen
discards a message that was posted afterwards. -/
theorem owned_fails :
    (∃ s s', system.Reachable s ∧ Moves s (.poll 0 (.ok (some SmcMsg.zero))) s' ∧
      ¬Owned s (.poll 0 (.ok (some SmcMsg.zero))) s') ∧
    ∃ s s', system.Reachable s ∧ Moves s (.discard 0) s' ∧ ¬Owned s (.discard 0) s' := by
  constructor
  · refine ⟨_, _, firstPolledTwice_reachable, polled_moves rfl rfl rfl rfl rfl, fun howned ↦ ?_⟩
    have hread := (howned.reads 0 _ SmcMsg.zero rfl rfl).2
    have hhead : (1 : ℕ) = 0 := (List.cons.inj hread).1
    cases hhead
  · refine ⟨_, _, firstReopened_reachable, discarded_moves rfl rfl rfl rfl, fun howned ↦ ?_⟩
    rcases (howned.spares 0 _ rfl rfl).dropped with hnone | hfirst
    · cases hnone
    · have hhead : (1 : ℕ) = 0 := (List.cons.inj hfirst).1
      cases hhead

/-- A handle that posts, waits for the reply and polls reads the reply to its message. -/
theorem posted_handle_owned :
    Owned ((justOpened.posted 0).replied 0 SmcMsg.zero) (.poll 0 (.ok (some SmcMsg.zero)))
      (((justOpened.posted 0).replied 0 SmcMsg.zero).polled 0 0 SmcMsg.zero) := by
  have hpost : Careful justOpened (.post 0 SmcMsg.zero) := trivial
  have hexchange : Careful (justOpened.posted 0) .exchange := trivial
  have hposted : system.Reaches Careful (justOpened.posted 0) :=
    (System.Reaches.start justOpened_starts).move hpost (posted_moves rfl rfl rfl rfl rfl)
  have hreplied : system.Reaches Careful ((justOpened.posted 0).replied 0 SmcMsg.zero) :=
    hposted.move hexchange (replied_moves 0 SmcMsg.zero rfl)
  exact careful_run_owned hreplied (.inr (.inl ⟨_, rfl, rfl, rfl⟩)) (polled_moves rfl rfl rfl rfl rfl)

end TtDal.Safety.QueuedOwnership
