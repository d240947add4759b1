import TtDal.Effect.System
import TtDal.Platform.Thread

/-!
# The driver's message slot

Each descriptor has one slot for an SMC message. A posted message is outstanding until its reply
is read, its failure is reported, or it is abandoned. The exchange itself happens between the
driver and the controller, so a pending message may be answered or fail at any time.

Messages are numbered in the order they were posted. The lists record history and restrict
nothing.
-/

namespace TtDal.Driver

open Effect Platform

inductive Slot where
  | idle
  | pending (message : ℕ)
  | ready (message : ℕ) (reply : SmcMsg)
  | failed (message : ℕ) (err : Errno)
  deriving DecidableEq

/-- The message that is outstanding. -/
def Slot.message : Slot → Option ℕ
  | .idle => none
  | .pending message | .ready message _ | .failed message _ => some message

/-- The controller is done with the outstanding message. -/
def Slot.Resolved : Slot → Prop
  | .idle | .pending _ => False
  | .ready _ _ | .failed _ _ => True

structure Mailbox where
  slot : Slot
  /-- The requests posted so far. -/
  posted : List SmcMsg
  /-- The replies the controller gave, with the numbers of their messages. -/
  answered : List (ℕ × SmcMsg)
  /-- The messages whose reply was read. -/
  taken : List ℕ
  /-- The messages that were abandoned. -/
  dropped : List ℕ

namespace Mailbox

/-- What the controller may do to the outstanding message. The errors of a failed exchange are
neither of those that `POLL` reports otherwise. -/
inductive Progress : Mailbox → Mailbox → Prop where
  | answer {mailbox : Mailbox} {message : ℕ} (reply : SmcMsg) :
      mailbox.slot = .pending message →
      Progress mailbox { mailbox with
        slot := .ready message reply
        answered := (message, reply) :: mailbox.answered }
  | fail {mailbox : Mailbox} {message : ℕ} {err : Errno} : mailbox.slot = .pending message →
      err ≠ .EAGAIN → err ≠ .ESRCH →
      Progress mailbox { mailbox with slot := .failed message err }

abbrev Progressed : Mailbox → Mailbox → Prop := Relation.ReflTransGen Progress

def post (mailbox : Mailbox) (request : SmcMsg) : Mailbox :=
  { mailbox with
    slot := .pending mailbox.posted.length
    posted := mailbox.posted ++ [request] }

def take (mailbox : Mailbox) (message : ℕ) : Mailbox :=
  { mailbox with slot := .idle, taken := message :: mailbox.taken }

def consume (mailbox : Mailbox) : Mailbox := { mailbox with slot := .idle }

def abandon (mailbox : Mailbox) : Mailbox :=
  { mailbox with
    slot := .idle
    dropped := mailbox.slot.message.toList ++ mailbox.dropped }

/-- `POST` needs an empty slot, and may fail for other reasons. -/
def answersPost (mailbox : Mailbox) (request : SmcMsg) : Reply SmcMsg → Mailbox → Prop
  | .ok _ _, mailbox' => mailbox.slot = .idle ∧ mailbox' = mailbox.post request
  | .fail err, mailbox' => (err = .EBUSY ↔ mailbox.slot ≠ .idle) ∧ mailbox' = mailbox

/-- `POLL` reads a resolved exchange and frees the slot. -/
def answersPoll (mailbox : Mailbox) : Reply SmcMsg → Mailbox → Prop
  | .ok reply _, mailbox' =>
    ∃ message, mailbox.slot = .ready message reply ∧ mailbox' = mailbox.take message
  | .fail err, mailbox' =>
    match mailbox.slot with
    | .idle => (err = .ESRCH ∨ err = .ENOTSUP) ∧ mailbox' = mailbox
    | .pending _ => err = .EAGAIN ∧ mailbox' = mailbox
    | .ready _ _ => False
    | .failed _ err' => err = err' ∧ mailbox' = mailbox.consume

/-- `ABANDON` always succeeds. -/
def answersAbandon (mailbox : Mailbox) : Reply SmcMsg → Mailbox → Prop
  | .ok _ _, mailbox' => mailbox' = mailbox.abandon
  | .fail _, _ => False

def answersMessage (mailbox : Mailbox) (msg : SmcMsgIoctl) (reply : Reply SmcMsg)
    (mailbox' : Mailbox) : Prop :=
  match msg.flags with
  | .POST => mailbox.answersPost msg.message reply mailbox'
  | .POLL => mailbox.answersPoll reply mailbox'
  | .ABANDON => mailbox.answersAbandon reply mailbox'

/-- The slot of one descriptor. -/
def answers (fd : ℤ) : (op : Syscall) → Mailbox → op.Answer → Mailbox → Prop
  | .smcMsg fd' msg, mailbox, reply, mailbox' =>
    if fd' = fd then mailbox.answersMessage msg reply mailbox' else mailbox' = mailbox
  | _, mailbox, _, mailbox' => mailbox' = mailbox

/-- The driver, with the exchange going on between any two system calls. -/
def contract (fd : ℤ) : Contract Sys Mailbox :=
  Contract.interleaved
    { answers := answers fd
      permits := fun _ _ ↦ True
      tolerates := fun _ ↦ True }
    Progress

theorem contract_answers {fd : ℤ} {msg : SmcMsgIoctl} {mailbox mailbox' : Mailbox}
    {reply : Reply SmcMsg} :
    (contract fd).answers (.smcMsg fd msg) mailbox reply mailbox' ↔
      ∃ middle, Progressed mailbox middle ∧ middle.answersMessage msg reply mailbox' := by
  simp [contract, Contract.interleaved, answers]

/-- A poll finds nothing, reads the reply, or learns of the failure. -/
theorem answersPoll_cases {mailbox mailbox' : Mailbox} {reply : Reply SmcMsg}
    (h : mailbox.answersPoll reply mailbox') :
    (∃ err, reply = .fail err ∧ ¬mailbox.slot.Resolved ∧ mailbox' = mailbox) ∨
    (∃ message answer residue, reply = .ok answer residue ∧
      mailbox.slot = .ready message answer ∧ mailbox' = mailbox.take message) ∨
    ∃ message err, reply = .fail err ∧ mailbox.slot = .failed message err ∧
      mailbox' = mailbox.consume := by
  cases reply with
  | ok answer residue =>
    obtain ⟨message, hslot, hrest⟩ := h
    exact .inr (.inl ⟨message, answer, residue, rfl, hslot, hrest⟩)
  | fail err =>
    unfold answersPoll at h
    cases hslot : mailbox.slot with
    | idle =>
      rw [hslot] at h
      exact .inl ⟨err, rfl, id, h.2⟩
    | pending message =>
      rw [hslot] at h
      exact .inl ⟨err, rfl, id, h.2⟩
    | ready message answer =>
      rw [hslot] at h
      exact h.elim
    | failed message err' =>
      rw [hslot] at h
      obtain ⟨rfl, hrest⟩ := h
      exact .inr (.inr ⟨message, err, rfl, rfl, hrest⟩)

/-! ## Consistency -/

/-- The outstanding message is the latest, and no reply was read twice. -/
structure Consistent (mailbox : Mailbox) : Prop where
  latest : ∀ message, mailbox.slot.message = some message →
    message + 1 = mailbox.posted.length
  unread : ∀ message, mailbox.slot.message = some message → message ∉ mailbox.taken
  ready : ∀ message reply, mailbox.slot = .ready message reply →
    (message, reply) ∈ mailbox.answered
  genuine : ∀ message err, mailbox.slot = .failed message err → err ≠ .EAGAIN ∧ err ≠ .ESRCH
  pending : ∀ message reply, mailbox.slot = .pending message →
    (message, reply) ∉ mailbox.answered
  unique : ∀ message reply reply', (message, reply) ∈ mailbox.answered →
    (message, reply') ∈ mailbox.answered → reply = reply'
  numbered : ∀ message ∈ mailbox.taken, message < mailbox.posted.length
  known : ∀ message reply, (message, reply) ∈ mailbox.answered → message < mailbox.posted.length
  nodup : mailbox.taken.Nodup

section Consistent

variable {mailbox mailbox' : Mailbox} {message : ℕ}

theorem Consistent.progress (h : mailbox.Consistent) (hprogress : Progress mailbox mailbox') :
    mailbox'.Consistent := by
  cases hprogress with
  | @answer message reply hslot =>
    have hmessage : mailbox.slot.message = some message := by rw [hslot]; rfl
    exact
      { latest := fun other hother ↦ h.latest other (hmessage.trans hother)
        unread := fun other hother ↦ h.unread other (hmessage.trans hother)
        ready := fun other reply' hready ↦ by cases hready; exact List.mem_cons_self
        genuine := fun other err hfailed ↦ by cases hfailed
        pending := fun other reply' hpending ↦ by cases hpending
        unique := fun other reply' reply'' hfirst hsecond ↦ by
          rcases List.mem_cons.mp hfirst with heq | hold <;>
            rcases List.mem_cons.mp hsecond with heq' | hold'
          · exact (Prod.mk.inj heq).2.trans (Prod.mk.inj heq').2.symm
          · exact absurd hold' (h.pending other _ ((Prod.mk.inj heq).1 ▸ hslot))
          · exact absurd hold (h.pending other _ ((Prod.mk.inj heq').1 ▸ hslot))
          · exact h.unique other _ _ hold hold'
        numbered := h.numbered
        known := fun other reply' hmem ↦ by
          rcases List.mem_cons.mp hmem with heq | hold
          · have hlatest := h.latest message hmessage
            have hother := (Prod.mk.inj heq).1
            simp only
            omega
          · exact h.known other reply' hold
        nodup := h.nodup }
  | @fail message err hslot hagain hsrch =>
    have hmessage : mailbox.slot.message = some message := by rw [hslot]; rfl
    exact
      { latest := fun other hother ↦ h.latest other (hmessage.trans hother)
        unread := fun other hother ↦ h.unread other (hmessage.trans hother)
        ready := fun other reply hready ↦ by cases hready
        genuine := fun other err hfailed ↦ by cases hfailed; exact ⟨hagain, hsrch⟩
        pending := fun other reply hpending ↦ by cases hpending
        unique := h.unique
        numbered := h.numbered
        known := h.known
        nodup := h.nodup }

theorem Consistent.progressed (h : mailbox.Consistent) (hprogress : Progressed mailbox mailbox') :
    mailbox'.Consistent := by
  induction hprogress with
  | refl => exact h
  | tail _ hlast ih => exact ih.progress hlast

theorem Consistent.post (h : mailbox.Consistent) (request : SmcMsg) :
    (mailbox.post request).Consistent where
  latest message hmessage := by
    obtain rfl := Option.some.inj hmessage
    simp [Mailbox.post]
  unread message hmessage hmem := by
    obtain rfl := Option.some.inj hmessage
    exact absurd (h.numbered _ hmem) (Nat.lt_irrefl _)
  ready message reply hready := by cases hready
  genuine message err hfailed := by cases hfailed
  pending message reply hpending hmem := by
    cases hpending
    exact absurd (h.known _ _ hmem) (Nat.lt_irrefl _)
  unique := h.unique
  numbered message hmem := by
    have hlt := h.numbered message hmem
    simp only [Mailbox.post, List.length_append, List.length_singleton]
    omega
  known message reply hmem := by
    have hlt := h.known message reply hmem
    simp only [Mailbox.post, List.length_append, List.length_singleton]
    omega
  nodup := h.nodup

/-- Emptying the slot needs nothing. -/
theorem Consistent.consume (h : mailbox.Consistent) : mailbox.consume.Consistent where
  latest message hmessage := by cases hmessage
  unread message hmessage := by cases hmessage
  ready message reply hready := by cases hready
  genuine message err hfailed := by cases hfailed
  pending message reply hpending := by cases hpending
  unique := h.unique
  numbered := h.numbered
  known := h.known
  nodup := h.nodup

theorem Consistent.abandon (h : mailbox.Consistent) : mailbox.abandon.Consistent :=
  { h.consume with }

theorem Consistent.take (h : mailbox.Consistent) {reply : SmcMsg}
    (hslot : mailbox.slot = .ready message reply) : (mailbox.take message).Consistent := by
  have hmessage : mailbox.slot.message = some message := by rw [hslot]; rfl
  exact
    { h.consume with
      unread := fun other hother ↦ by cases hother
      numbered := fun other hmem ↦ by
        rcases List.mem_cons.mp hmem with rfl | hold
        · have hlatest := h.latest other hmessage
          simp only [Mailbox.take]
          omega
        · exact h.numbered other hold
      nodup := List.nodup_cons.mpr ⟨h.unread message hmessage, h.nodup⟩ }

/-- The controller only resolves the outstanding message. -/
theorem Progressed.frame (h : Progressed mailbox mailbox') :
    mailbox'.slot.message = mailbox.slot.message ∧ mailbox'.posted = mailbox.posted ∧
      mailbox'.taken = mailbox.taken ∧ mailbox'.dropped = mailbox.dropped := by
  induction h with
  | refl => exact ⟨rfl, rfl, rfl, rfl⟩
  | tail _ hlast ih =>
    cases hlast with
    | answer reply hslot => exact ⟨by rw [← ih.1, hslot]; rfl, ih.2⟩
    | fail hslot => exact ⟨by rw [← ih.1, hslot]; rfl, ih.2⟩

theorem Progressed.slot_idle_iff (h : Progressed mailbox mailbox') :
    mailbox'.slot = .idle ↔ mailbox.slot = .idle := by
  have hmessage := h.frame.1
  constructor
  · intro hidle
    rw [hidle] at hmessage
    cases hslot : mailbox.slot <;> simp [Slot.message, hslot] at hmessage
    rfl
  · intro hidle
    rw [hidle] at hmessage
    cases hslot : mailbox'.slot <;> simp [Slot.message, hslot] at hmessage
    rfl

/-- Nothing happens to an empty slot. -/
theorem Progressed.eq_of_idle (h : Progressed mailbox mailbox') (hidle : mailbox.slot = .idle) :
    mailbox' = mailbox := by
  induction h with
  | refl => rfl
  | tail _ hlast ih =>
    subst ih
    cases hlast with
    | answer reply hslot => simp [hidle] at hslot
    | fail hslot => simp [hidle] at hslot

end Consistent

end Mailbox

/-! ## The slots of all descriptors -/

/-- The slot of each descriptor of a process. -/
abbrev Mailboxes := ℤ → Mailbox

namespace Mailboxes

def answers : (op : Syscall) → Mailboxes → op.Answer → Mailboxes → Prop
  | .smcMsg fd msg, boxes, reply, boxes' => ∃ mailbox,
      (boxes fd).answersMessage msg reply mailbox ∧ boxes' = Function.update boxes fd mailbox
  | _, boxes, _, boxes' => boxes' = boxes

def contract : Contract Sys Mailboxes where
  answers := answers
  permits _ _ := True
  tolerates _ := True

/-- The controller goes on with one of the exchanges. -/
def Progress (boxes boxes' : Mailboxes) : Prop :=
  ∃ fd mailbox, Mailbox.Progress (boxes fd) mailbox ∧ boxes' = Function.update boxes fd mailbox

end Mailboxes

end TtDal.Driver
