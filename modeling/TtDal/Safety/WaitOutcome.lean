import TtDal.Driver.Clock
import TtDal.Safety.MessageExchange

/-!
# What a wait reports

A caller of `tt_smc_wait` reads from the `errno` alone whether its message is still outstanding.
`ETIMEDOUT` stands for a budget that was spent while the reply was pending, but it is also among
the errors with which the driver reports a failed exchange, and there the message is gone.
-/

namespace TtDal.Safety.WaitOutcome

open Effect Platform Dev Driver

open Mailbox (Progressed Consistent)

open MessageExchange (Reads)

/-- The answer to a message request that failed. -/
def refusal : Event Sys → Option Errno
  | ⟨.smcMsg _ _, .fail err⟩ => some err
  | _ => none

/-- The driver reported that the firmware never responded. -/
def TimesOut (trace : List (Event Sys)) : Prop := ∃ event ∈ trace, refusal event = some .ETIMEDOUT

def reading : Event Sys → Option Timespec
  | ⟨.clockGettime, now⟩ => some now
  | _ => none

/-- The readings of the clock. -/
def readings (trace : List (Event Sys)) : List Timespec := trace.filterMap reading

/-- What a wait for an outstanding message has done when it returns. -/
structure Settled (message : ℕ) (rsp : Ref) (timeout : UInt32) (messages : Ref → SmcMsg)
    (s : Clocked Mailbox) (status : Status) (thread' : Thread) (s' : Clocked Mailbox) : Prop where
  /-- Success is to have read the reply into the response. -/
  success : status = .TT_OK () ↔ ∃ reply, (message, reply) ∈ s'.world.answered ∧
    s'.world.taken = message :: s.world.taken ∧ s'.world.slot = .idle ∧
    thread'.messages = Function.update messages rsp reply
  /-- A timeout is to have spent the budget while the message is outstanding. -/
  timedOut : status = .TT_ERR ∧ thread'.errno = .ETIMEDOUT ↔
    s.now + smcBudget timeout * 1000000 ≤ s'.now ∧ s'.world.slot.message = some message
  /-- After any other error the message is not outstanding. -/
  consumed : status = .TT_ERR → thread'.errno ≠ .ETIMEDOUT → s'.world.slot = .idle
  untouched : status = .TT_ERR → thread'.messages = messages

section Times

variable {sess : Session} {thread thread' : Thread} {s s' : Clocked Mailbox}
  {trace : List (Event Sys)} {status : Status} {message opened : ℕ} {rsp : Ref}

theorem timesOut_append {first rest : List (Event Sys)} :
    TimesOut (first ++ rest) ↔ TimesOut first ∨ TimesOut rest := by
  simp only [TimesOut, List.mem_append, or_and_right, exists_or]

/-- A poll fails with `ETIMEDOUT` only when the driver does. -/
theorem poll_refused (hfd : 0 ≤ sess.fd) (rsp : Ref) :
    Procedure.wp (.confined fun _ ↦ True) (ttSmcPoll (some sess) (some rsp))
      (fun trace status thread' _ ↦ TimesOut trace ↔
        status = .TT_ERR ∧ thread'.errno = .ETIMEDOUT) thread () := by
  simp only [ttSmcPoll, if_neg (Int.not_lt.mpr hfd), Procedure.wp_bind, wp_sys]
  refine ⟨trivial, fun answer _ _ ↦ ?_⟩
  cases answer with
  | ok reply residue => simp [TimesOut, refusal]
  | fail err =>
    have hsame : normalise err = .ETIMEDOUT ↔ err = .ETIMEDOUT := by
      unfold normalise
      split
      · rename_i hnodev
        simp [hnodev]
      · exact Iff.rfl
    simp [TimesOut, refusal, hsame]

/-- A poll beside the clock. -/
theorem wp_poll (hfd : 0 ≤ sess.fd) (h : s.world.Consistent) (rsp : Ref) :
    Procedure.wp (Clocked.contract (Mailbox.contract sess.fd)) (ttSmcPoll (some sess) (some rsp))
      (fun trace status thread' s' ↦ s.now ≤ s'.now ∧
        (TimesOut trace ↔ status = .TT_ERR ∧ thread'.errno = .ETIMEDOUT) ∧
        (status = .TT_ERR → thread'.errno ≠ .EAGAIN → s'.world.slot = .idle) ∧
        (status = .TT_ERR → thread'.errno = .EAGAIN → Progressed s.world s'.world))
      thread s := by
  refine Procedure.wp_mono (Clocked.wp_world (Procedure.wp_and
    (Procedure.wp_confined (poll_refused hfd rsp) fun _ _ _ _ _ ↦ trivial)
    (Procedure.wp_and (MessageExchange.wp_poll hfd h (some rsp))
      (MessageExchange.poll_settles hfd rsp)))) ?_
  intro trace status thread' s' hpost
  obtain ⟨⟨htimes, ⟨-, hagain⟩, hsettles⟩, hnow⟩ := hpost
  exact ⟨hnow, htimes, hsettles, hagain⟩

/-- What the end of a wait says about the time, for a budget that began at an instant. -/
def Times (opened budget message : ℕ) : Procedure.Post Sys Status Thread (Clocked Mailbox) :=
  fun trace status thread' s' ↦
    (TimesOut trace → status = .TT_ERR ∧ thread'.errno = .ETIMEDOUT ∧ s'.world.slot = .idle) ∧
    (status = .TT_ERR → thread'.errno = .ETIMEDOUT → TimesOut trace ∨
      opened + budget * 1000000 ≤ s'.now ∧ s'.world.slot.message = some message)

theorem Times.after {budget : ℕ} {first rest : List (Event Sys)} (hfirst : ¬TimesOut first)
    (h : Times opened budget message rest status thread' s') :
    Times opened budget message (first ++ rest) status thread' s' := by
  simp only [Times, timesOut_append, hfirst, false_or]
  exact h

/-- The loop goes on while the reply is pending and the budget is not spent. -/
theorem wp_waitLoop (hfd : 0 ≤ sess.fd) (rsp : Ref) (budget rounds : ℕ) (spins : UInt32)
    (h : s.world.Consistent) (hmessage : s.world.slot.message = some message)
    (hopened : opened ≤ s.now) :
    Procedure.wp (Clocked.contract (Mailbox.contract sess.fd))
      (smcWaitLoop (some sess) (some rsp) budget (Watch.reading opened) rounds spins)
      (Times opened budget message) thread s := by
  induction rounds generalizing thread s spins with
  | zero => exact trivial
  | succ rounds ih =>
    rw [smcWaitLoop]
    refine Procedure.wp_call (wp_poll hfd h rsp) fun first status polled s₁ hpoll ↦ ?_
    obtain ⟨hnow, htimes, hsettles, hagain⟩ := hpoll
    cases status with
    | TT_OK =>
      refine ⟨fun htimesOut ↦ ?_, by simp⟩
      rw [List.append_nil] at htimesOut
      exact absurd (htimes.mp htimesOut).1 (by simp)
    | TT_ERR =>
      simp only [Procedure.wp_bind, wp_getErrno]
      split
      · rename_i herrno
        have hidle := hsettles rfl herrno
        simp only [Times, Procedure.wp_pure, List.append_nil]
        exact ⟨fun htimesOut ↦ ⟨trivial, (htimes.mp htimesOut).2, hidle⟩,
          fun _ htimeout ↦ .inl (htimes.mpr ⟨rfl, htimeout⟩)⟩
      · rename_i hpending
        have herrno : polled.errno = .EAGAIN := not_not.mp hpending
        have hfirst : ¬TimesOut first := by
          intro htimesOut
          have htimeout := (htimes.mp htimesOut).2
          rw [herrno] at htimeout
          cases htimeout
        simp only [Procedure.wp_bind, wp_elapsedMs]
        refine ⟨fun _ _ ↦ trivial, fun now s₂ hclock ↦ ?_⟩
        obtain ⟨⟨_, hprogress, hworld⟩, hlater, rfl⟩ := hclock
        have hprogress : Progressed s.world s₂.world := hworld ▸ (hagain rfl herrno).trans hprogress
        have hmessage₂ := hprogress.frame.1.trans hmessage
        have hopened₁ : opened ≤ s₁.now := Nat.le_trans hopened hnow
        have hopened₂ : opened ≤ s₂.now := Nat.le_trans hopened₁ hlater
        have hsilent : ¬TimesOut [⟨.clockGettime, Watch.reading s₂.now⟩] := by
          simp [TimesOut, refusal]
        split
        · rename_i hspent
          have helapsed := Clocked.timespecDiffMs_reading_le hopened₂
          have hdone : opened + budget * 1000000 ≤ s₂.now := by omega
          have hend : Times opened budget message [] .TT_ERR
              { polled with errno := .ETIMEDOUT } s₂ := by
            refine ⟨fun htimesOut ↦ ?_, fun _ _ ↦ .inr ⟨hdone, hmessage₂⟩⟩
            simp [TimesOut] at htimesOut
          exact (hend.after hsilent).after hfirst
        · split
          · simp only [Procedure.wp_bind, wp_sys]
            refine ⟨fun _ _ ↦ trivial, fun slept s₃ hsleep ↦ ?_⟩
            obtain ⟨⟨_, hrested, hworld⟩, hlater', -⟩ := hsleep
            have hprogress : Progressed s.world s₃.world := hworld ▸ hprogress.trans hrested
            have hslept : ¬TimesOut [⟨.usleep POLL_INTERVAL_US, slept⟩] := by
              simp [TimesOut, refusal]
            refine Procedure.wp_mono (ih _ (h.progressed hprogress)
              (hprogress.frame.1.trans hmessage) (Nat.le_trans hopened₂ hlater')) ?_
            exact fun rest _ _ _ hrest ↦ ((hrest.after hslept).after hsilent).after hfirst
          · refine Procedure.wp_mono (ih _ (h.progressed hprogress) hmessage₂ hopened₂) ?_
            exact fun rest _ _ _ hrest ↦ (hrest.after hsilent).after hfirst

theorem wp_wait (hfd : 0 ≤ sess.fd) (rounds : ℕ) (rsp : Ref) (timeout : UInt32)
    (h : s.world.Consistent) (hmessage : s.world.slot.message = some message) :
    Procedure.wp (Clocked.contract (Mailbox.contract sess.fd))
      (ttSmcWait rounds (some sess) (some rsp) timeout)
      (Times s.now (smcBudget timeout) message) thread s := by
  simp only [ttSmcWait, if_neg (Int.not_lt.mpr hfd), Procedure.wp_bind, wp_sys]
  refine ⟨fun _ _ ↦ trivial, fun opened s₁ hclock ↦ ?_⟩
  obtain ⟨⟨_, hprogress, hworld⟩, hlater, rfl⟩ := hclock
  have hprogress : Progressed s.world s₁.world := hworld ▸ hprogress
  refine Procedure.wp_mono (wp_waitLoop hfd rsp _ rounds 0 (h.progressed hprogress)
    (hprogress.frame.1.trans hmessage) (Nat.le_refl _)) ?_
  intro rest status thread' s' hrest
  have hsilent : ¬TimesOut [⟨.clockGettime, Watch.reading s₁.now⟩] := by
    simp [TimesOut, refusal]
  have hspent : Times s.now (smcBudget timeout) message rest status thread' s' :=
    ⟨hrest.1, fun herr htimeout ↦ (hrest.2 herr htimeout).imp id fun hdone ↦ ⟨by omega, hdone.2⟩⟩
  exact hspent.after hsilent

end Times

/-! ## A wait that goes on -/

section Waiting

variable {W : Type} {contract : Contract Sys W} {sess : Session} {thread : Thread} {w w' : W}
  {trace : List (Event Sys)} {reason : Stop}

theorem readings_append (first rest : List (Event Sys)) :
    readings (first ++ rest) = readings first ++ readings rest :=
  List.filterMap_append

theorem poll_readings (hfd : 0 ≤ sess.fd) (rsp : Ref) :
    Procedure.wp (.confined fun _ ↦ True) (ttSmcPoll (some sess) (some rsp))
      (fun trace _ _ _ ↦ readings trace = []) thread () := by
  simp only [ttSmcPoll, if_neg (Int.not_lt.mpr hfd), Procedure.wp_bind, wp_sys]
  refine ⟨trivial, fun answer _ _ ↦ ?_⟩
  cases answer <;> rfl

theorem getErrno_readings :
    Procedure.wp .anything getErrno (fun trace _ _ _ ↦ readings trace = []) thread () := rfl

theorem usleep_readings (usec : ℕ) :
    Procedure.wp .anything (sys (.usleep usec)) (fun trace _ _ _ ↦ readings trace = []) thread () :=
  ⟨trivial, fun _ _ _ ↦ rfl⟩

theorem elapsedMs_readings (start : Timespec) :
    Procedure.wp .anything (elapsedMs start) (fun trace elapsed _ _ ↦ ∃ now,
      readings trace = [now] ∧ elapsed = timespecDiffMs start now) thread () :=
  ⟨trivial, fun now _ _ ↦ ⟨now, rfl, rfl⟩⟩

/-- A loop that was observed for some rounds read the clock in each, and found the budget not
spent. -/
theorem stopped_waitLoop (hfd : 0 ≤ sess.fd) {rsp : Ref} {budget rounds : ℕ} {start : Timespec}
    {spins : UInt32}
    (h : Procedure.Stops contract (smcWaitLoop (some sess) (some rsp) budget start rounds spins)
      thread w trace reason w') :
    (readings trace).length = rounds ∧
      ∀ now ∈ readings trace, timespecDiffMs start now < budget := by
  induction rounds generalizing thread w trace spins with
  | zero =>
    cases h
    exact ⟨rfl, fun _ hmem ↦ absurd hmem List.not_mem_nil⟩
  | succ rounds ih =>
    rw [smcWaitLoop] at h
    have hpoll := @poll_readings sess thread hfd rsp
    obtain ⟨first, rest, status, polled, v, rfl, hfirst, h⟩ :=
      h.after (Procedure.wp_mono hpoll fun _ _ _ _ _ ↦ trivial)
    have hnone : readings first = [] :=
      hfirst.always (Procedure.wp_confined hpoll fun _ _ _ ↦ trivial)
    rw [readings_append, hnone, List.nil_append]
    cases status with
    | TT_OK => cases h
    | TT_ERR =>
      obtain ⟨_, rest, err, _, _, rfl, herrno, h⟩ := h.after trivial
      rw [readings_append, herrno.always getErrno_readings, List.nil_append]
      split at h
      · cases h
      · obtain ⟨clock, rest, elapsed, _, _, rfl, hclock, h⟩ :=
          h.after ⟨trivial, fun _ _ _ ↦ trivial⟩
        obtain ⟨now, hread, rfl⟩ := hclock.always (elapsedMs_readings start)
        have hround (hrest : (readings rest).length = rounds ∧
            ∀ now ∈ readings rest, timespecDiffMs start now < budget)
            (hless : timespecDiffMs start now < budget) :
            (readings (clock ++ rest)).length = rounds + 1 ∧
              ∀ now ∈ readings (clock ++ rest), timespecDiffMs start now < budget := by
          rw [readings_append, hread]
          exact ⟨congrArg (· + 1) hrest.1, List.forall_mem_cons.mpr ⟨hless, hrest.2⟩⟩
        split at h
        · cases h
        · rename_i hless
          apply hround _ (Nat.not_le.mp hless)
          split at h
          · obtain ⟨slept, rest, _, _, _, rfl, hslept, h⟩ :=
              h.after ⟨trivial, fun _ _ _ ↦ trivial⟩
            rw [readings_append, hslept.always (usleep_readings _), List.nil_append]
            exact ih h
          · exact ih h

/-- What a wait has done when it was observed for some rounds and goes on. -/
def Waiting (rounds : ℕ) (timeout : UInt32) (trace : List (Event Sys)) : Prop :=
  ∃ opened rest, trace = ⟨.clockGettime, opened⟩ :: rest ∧ (readings rest).length = rounds ∧
    ∀ now ∈ readings rest, timespecDiffMs opened now < smcBudget timeout

theorem stopped_wait (hfd : 0 ≤ sess.fd) {rsp : Ref} {rounds : ℕ} {timeout : UInt32}
    (h : Procedure.Stops contract (ttSmcWait rounds (some sess) (some rsp) timeout) thread w trace
      reason w') : Waiting rounds timeout trace := by
  simp only [ttSmcWait, if_neg (Int.not_lt.mpr hfd)] at h
  cases h with
  | call _ hrest => exact ⟨_, _, rfl, stopped_waitLoop hfd hrest⟩

end Waiting

/-! ## The outcome -/

section Outcome

variable {sess : Session} {thread thread' : Thread} {s s' : Clocked Mailbox}
  {trace : List (Event Sys)} {status : Status} {message rounds : ℕ} {rsp : Ref} {timeout : UInt32}

/-- A wait for an outstanding message whose exchange the driver did not time out. -/
theorem wait_settled (hfd : 0 ≤ sess.fd) (h : s.world.Consistent)
    (hmessage : s.world.slot.message = some message)
    (hrun : Procedure.Executes (Clocked.contract (Mailbox.contract sess.fd))
      (ttSmcWait rounds (some sess) (some rsp) timeout) thread s trace status thread' s')
    (htimesOut : ¬TimesOut trace) :
    Settled message rsp timeout thread.messages s status thread' s' := by
  have hworld := Clocked.executes_world hrun
  have hread := hworld.ensures (MessageExchange.wp_wait hfd h rounds (some rsp) timeout)
  have hsettles := hworld.ensures (MessageExchange.wait_settles hfd rounds rsp timeout)
  obtain ⟨-, htimes⟩ := hrun.ensures (wp_wait hfd rounds rsp timeout h hmessage)
  cases status with
  | TT_OK =>
    obtain ⟨ref, middle, message', reply, href, hprogress, hslot, htaken, hmessages⟩ := hread
    obtain rfl := Option.some.inj href
    have hsame : message' = message := by
      have hkept := hprogress.frame.1.trans hmessage
      rw [hslot] at hkept
      exact Option.some.inj hkept
    subst hsame
    have hidle : s'.world.slot = .idle := htaken ▸ rfl
    have hanswered := (h.progressed hprogress).ready message' reply hslot
    exact
      { success := iff_of_true rfl ⟨reply, htaken ▸ hanswered,
          htaken ▸ congrArg _ hprogress.frame.2.2.1, hidle, hmessages⟩
        timedOut := by
          refine iff_of_false (fun h ↦ by cases h.1) fun h ↦ ?_
          rw [hidle] at h
          cases h.2
        consumed := nofun
        untouched := nofun }
  | TT_ERR =>
    have htaken : s'.world.taken = s.world.taken := hread.frame.2.2 rfl
    exact
      { success := by
          refine iff_of_false nofun fun ⟨_, _, hmore, _⟩ ↦ ?_
          rw [htaken] at hmore
          exact List.cons_ne_self message s.world.taken hmore.symm
        timedOut := by
          constructor
          · exact fun herr ↦ (htimes rfl herr.2).resolve_left htimesOut
          · intro hspent
            refine ⟨rfl, by_contra fun herrno ↦ ?_⟩
            have hidle := hsettles rfl herrno
            rw [hidle] at hspent
            cases hspent.2
        consumed := hsettles
        untouched := fun _ ↦ hread.1 }

/-- A wait for an outstanding message reports what became of it, unless the driver answers a poll
with the `ETIMEDOUT` of a failed exchange. A wait that goes on has never found its budget spent. -/
theorem wait_settled_iff (sess : Session) (hfd : 0 ≤ sess.fd) (rounds : ℕ) (rsp : Ref)
    (timeout : UInt32)
    (hreach : (MessageExchange.system sess).Reachable { mailbox := s.world, thread := thread })
    (hmessage : s.world.slot.message = some message) :
    (∀ trace status thread' s', Procedure.Executes (Clocked.contract (Mailbox.contract sess.fd))
        (ttSmcWait rounds (some sess) (some rsp) timeout) thread s trace status thread' s' →
      (Settled message rsp timeout thread.messages s status thread' s' ↔ ¬TimesOut trace)) ∧
    ∀ trace reason s', Procedure.Stops (Clocked.contract (Mailbox.contract sess.fd))
        (ttSmcWait rounds (some sess) (some rsp) timeout) thread s trace reason s' →
      Waiting rounds timeout trace := by
  have hconsistent : s.world.Consistent := MessageExchange.reachable_consistent hfd hreach
  refine ⟨fun trace status thread' s' hrun ↦ ?_, fun _ _ _ hstop ↦ stopped_wait hfd hstop⟩
  constructor
  · intro hsettled htimesOut
    obtain ⟨hgone, -⟩ := hrun.ensures (wp_wait hfd rounds rsp timeout hconsistent hmessage)
    obtain ⟨herr, htimeout, hidle⟩ := hgone htimesOut
    have houtstanding := (hsettled.timedOut.mp ⟨herr, htimeout⟩).2
    rw [hidle] at houtstanding
    cases houtstanding
  · exact wait_settled hfd hconsistent hmessage hrun

end Outcome

/-! ## A message whose exchange times out -/

open MessageExchange (emptyMailbox answeredMailbox)

theorem posted_reachable : (MessageExchange.system sampleSession).Reachable
    { mailbox := emptyMailbox.post SmcMsg.zero, thread := Thread.initial } := by
  have hstart : (MessageExchange.system sampleSession).Reachable
      { mailbox := emptyMailbox, thread := Thread.initial } := .start rfl
  exact hstart.move trivial MessageExchange.post_moves

theorem clock_answers (mailbox : Mailbox) :
    (Clocked.contract (Mailbox.contract 3)).answers .clockGettime { world := mailbox, now := 0 }
      (Watch.reading 0) { world := mailbox, now := 0 } :=
  ⟨⟨mailbox, .refl, rfl⟩, Nat.le_refl 0, rfl⟩

/-- The driver gives up on the firmware right away, and the wait reports a timeout for a message
that is gone. -/
theorem wait_misreports : ∃ trace thread' s',
    (MessageExchange.system sampleSession).Reachable
      { mailbox := emptyMailbox.post SmcMsg.zero, thread := Thread.initial } ∧
    Procedure.Executes (Clocked.contract (Mailbox.contract 3))
      (ttSmcWait 1 (some sampleSession) (some 2) 60000) Thread.initial
      { world := emptyMailbox.post SmcMsg.zero, now := 0 } trace .TT_ERR thread' s' ∧
    thread'.errno = .ETIMEDOUT ∧ s'.now = 0 ∧ s'.world.slot.message = none ∧
    ¬Settled 0 2 60000 (fun _ ↦ SmcMsg.zero) { world := emptyMailbox.post SmcMsg.zero, now := 0 }
      .TT_ERR thread' s' := by
  let failedMailbox : Mailbox := { emptyMailbox.post SmcMsg.zero with slot := .failed 0 .ETIMEDOUT }
  have hfails : Progressed (emptyMailbox.post SmcMsg.zero) failedMailbox :=
    .single (.fail rfl (by decide) (by decide))
  have hpoll : (Clocked.contract (Mailbox.contract 3)).answers
      (.smcMsg 3 (smcMsgIoctl .POLL SmcMsg.zero))
      { world := emptyMailbox.post SmcMsg.zero, now := 0 } (.fail .ETIMEDOUT)
      { world := failedMailbox.consume, now := 0 } :=
    ⟨Mailbox.contract_answers.mpr ⟨failedMailbox, hfails, rfl, rfl⟩, Nat.le_refl 0, trivial⟩
  refine ⟨_, _, _, posted_reachable, .call (clock_answers _) (.call hpoll .done), rfl, rfl, rfl, ?_⟩
  intro hsettled
  have houtstanding := (hsettled.timedOut.mp ⟨rfl, rfl⟩).2
  cases houtstanding

/-- A reply that is there is read by the first poll. -/
theorem answered_wait_settled : ∃ thread',
    Settled 0 2 0 (fun _ ↦ SmcMsg.zero) { world := answeredMailbox, now := 0 } (.TT_OK ()) thread'
      { world := answeredMailbox.take 0, now := 0 } := by
  have hreach : (MessageExchange.system sampleSession).Reachable
      { mailbox := answeredMailbox, thread := Thread.initial } :=
    posted_reachable.move trivial (.exchange (.answer SmcMsg.zero rfl))
  have hpoll : (Clocked.contract (Mailbox.contract 3)).answers
      (.smcMsg 3 (smcMsgIoctl .POLL SmcMsg.zero)) { world := answeredMailbox, now := 0 }
      (.ok SmcMsg.zero (.other 0)) { world := answeredMailbox.take 0, now := 0 } :=
    ⟨Mailbox.contract_answers.mpr ⟨_, .refl, 0, rfl, rfl⟩, Nat.le_refl 0, trivial⟩
  have hsettled := @wait_settled_iff Thread.initial { world := answeredMailbox, now := 0 } 0
    sampleSession (by decide) 1 2 0 hreach rfl
  exact ⟨_, (hsettled.1 _ _ _ _ (.call (clock_answers _) (.call hpoll .done))).mpr
    (by simp [TimesOut, refusal])⟩

end TtDal.Safety.WaitOutcome
