import TtDal.Binding.Queued
import TtDal.Driver.Clock

/-!
# The budget of a wait in Rust

A timeout in Rust is truncated to whole milliseconds and saturated to 32 bits, and below it zero
stands for the default. A timeout under one millisecond therefore waits for the default. The budget
of a wait is read off its runs with a driver that never has the reply: the wait gives up at the
first look at the clock at which the budget has passed.
-/

namespace TtDal.Safety.WaitBudget

open Effect Platform Dev Driver Binding Binding.Rust

/-! ## The budget of a wait -/

/-- What a driver answers that takes every message and never has the reply. -/
def Withholds : (op : Syscall) → op.Answer → Prop
  | .smcMsg _ msg, reply =>
    match msg.flags with
    | .POST => reply.isOk = true
    | .POLL => reply = .fail .EAGAIN
    | .ABANDON => True
  | _, _ => True

/-- A driver that never has the reply, beside a clock with any readings. -/
def withholding : Contract Sys Unit where
  answers op _ answer _ := Withholds op answer
  permits _ _ := True
  tolerates _ := True

/-- The reading of the clock in an event. -/
def reading : Event Sys → Option Timespec
  | ⟨.clockGettime, now⟩ => some now
  | _ => none

def readings (trace : List (Event Sys)) : List Timespec := trace.filterMap reading

/-- The last of the readings, and no other, is a number of milliseconds behind the start. -/
def Spent (start : Timespec) (budget : ℕ) (nows : List Timespec) : Prop :=
  ∃ earlier last, nows = earlier ++ [last] ∧ (∀ now ∈ earlier, timespecDiffMs start now < budget) ∧
    budget ≤ timespecDiffMs start last

/-- The run ends at the first reading of the clock at which the budget has passed. -/
def GivesUp (budget : ℕ) (trace : List (Event Sys)) : Prop :=
  ∃ start nows, readings trace = start :: nows ∧ Spent start budget nows

/-- While no reply comes, the procedure polls for a number of milliseconds. -/
def PollsFor (procedure : C (Except Errno SmcMsg)) (budget : ℕ) : Prop :=
  ∀ thread trace res thread', Procedure.Executes withholding procedure thread () trace res thread'
    () → res = .error .ETIMEDOUT ∧ GivesUp budget trace

/-- A timeout makes `Queued::wait` and `Session::call` poll for a number of milliseconds. -/
structure Uses (timeout : Option Duration) (budget : ℕ) : Prop where
  wait : ∀ rounds (sess : Session) queued, 0 ≤ sess.fd →
    PollsFor (Prod.fst <$> wait rounds sess queued timeout) budget
  call : ∀ rounds (sess : Session) request, 0 ≤ sess.fd →
    PollsFor (call rounds sess request timeout) budget

/-- The longest budget, in milliseconds. -/
def longest : ℕ := 2 ^ 32 - 1

/-- The budget of a wait stands for the timeout that was asked for. -/
structure Faithful (duration : Duration) : Prop where
  /-- It is less than one millisecond off, up to the longest. -/
  close : ∀ budget, Uses (some duration) budget →
    ((budget * 1000000 : ℤ) - min duration.asNanos (longest * 1000000)).natAbs < 1000000
  /-- No longer timeout has a shorter budget. -/
  ordered : ∀ (longer : Duration) budget budget', duration.asNanos ≤ longer.asNanos →
    Uses (some duration) budget → Uses (some longer) budget' → budget ≤ budget'
  /-- It is not the default that was asked for. -/
  chosen : millis (some duration) ≠ millis none

@[simp]
theorem readings_append (first rest : List (Event Sys)) :
    readings (first ++ rest) = readings first ++ readings rest :=
  List.filterMap_append

section Loop

variable {sess : Session} {thread : Thread} {start now : Timespec} {budget : ℕ}

theorem Spent.after {nows : List Timespec} (hearly : timespecDiffMs start now < budget)
    (h : Spent start budget nows) : Spent start budget (now :: nows) := by
  obtain ⟨earlier, last, rfl, hbefore, hlast⟩ := h
  refine ⟨now :: earlier, last, rfl, fun now' hnow' ↦ ?_, hlast⟩
  cases hnow' with
  | head => exact hearly
  | tail _ hlater => exact hbefore now' hlater

end Loop

/-! ## The calls of the binding -/

section Calls

variable {sess : Session} {timeout : Option Duration}

theorem GivesUp.between {budget : ℕ} {first trace last : List (Event Sys)}
    (hfirst : readings first = []) (hlast : readings last = []) (h : GivesUp budget trace) :
    GivesUp budget (first ++ (trace ++ last)) := by
  obtain ⟨start, nows, hreadings, hspent⟩ := h
  refine ⟨start, nows, ?_, hspent⟩
  rw [readings_append, readings_append, hfirst, hlast, List.nil_append, List.append_nil, hreadings]

end Calls

/-! ## A run whose clock shows the budget -/

section Runs

variable {sess : Session} {rsp : Ref} {start now : Timespec} {budget rounds : ℕ} {thread : Thread}

theorem executes_ttSmcPoll (hfd : 0 ≤ sess.fd) (rsp : Ref) :
    Procedure.Executes withholding (ttSmcPoll (some sess) (some rsp)) thread ()
      [⟨.smcMsg sess.fd (smcMsgIoctl .POLL SmcMsg.zero), .fail .EAGAIN⟩] .TT_ERR
      { thread with errno := .EAGAIN } () := by
  simp only [ttSmcPoll, if_neg (Int.not_lt.mpr hfd)]
  exact .call rfl .done

/-- The events of a round whose poll finds no reply. -/
def round (sess : Session) (now : Timespec) : List (Event Sys) :=
  [⟨.smcMsg sess.fd (smcMsgIoctl .POLL SmcMsg.zero), .fail .EAGAIN⟩, ⟨.clockGettime, now⟩]

/-- A round whose poll finds no reply, and what is behind its look at the clock. -/
theorem executes_round (hfd : 0 ≤ sess.fd) {spins : UInt32} {rest : List (Event Sys)}
    {status : Status} {thread' : Thread}
    (hrest : Procedure.Executes withholding (
        if budget ≤ timespecDiffMs start now then
          ttFail .ETIMEDOUT
        else if SPIN_POLLS ≤ spins then do
          let _ ← sys (.usleep POLL_INTERVAL_US)
          smcWaitLoop (some sess) (some rsp) budget start rounds (spins + 1)
        else
          smcWaitLoop (some sess) (some rsp) budget start rounds (spins + 1))
      { thread with errno := .EAGAIN } () rest status thread' ()) :
    Procedure.Executes withholding
      (smcWaitLoop (some sess) (some rsp) budget start (rounds + 1) spins) thread ()
      (round sess now ++ rest) status thread' () := by
  have hclock : Procedure.Executes withholding (elapsedMs start) { thread with errno := .EAGAIN } ()
      [⟨.clockGettime, now⟩] (timespecDiffMs start now) { thread with errno := .EAGAIN } () :=
    .call trivial .done
  rw [smcWaitLoop]
  refine Procedure.executes_bind.mpr
    ⟨_, ⟨.clockGettime, now⟩ :: rest, _, _, _, rfl, executes_ttSmcPoll hfd rsp, ?_⟩
  refine Procedure.executes_bind.mpr ⟨[], _, _, _, _, rfl, .done, ?_⟩
  simp only [ne_eq, not_true_eq_false, if_false]
  exact Procedure.executes_bind.mpr ⟨_, rest, _, _, _, rfl, hclock, hrest⟩

theorem executes_spent (hfd : 0 ≤ sess.fd) (hspent : budget ≤ timespecDiffMs start now)
    (spins : UInt32) :
    Procedure.Executes withholding
      (smcWaitLoop (some sess) (some rsp) budget start (rounds + 1) spins) thread ()
      (round sess now) .TT_ERR { thread with errno := .ETIMEDOUT } () := by
  rw [← List.append_nil (round sess now)]
  apply executes_round hfd
  rw [if_pos hspent]
  exact .done

theorem executes_unspent (hfd : 0 ≤ sess.fd) (hearly : timespecDiffMs start now < budget)
    {spins : UInt32} (hspins : ¬SPIN_POLLS ≤ spins) {rest : List (Event Sys)} {status : Status}
    {thread' : Thread}
    (hrest : Procedure.Executes withholding
      (smcWaitLoop (some sess) (some rsp) budget start rounds (spins + 1))
      { thread with errno := .EAGAIN } () rest status thread' ()) :
    Procedure.Executes withholding
      (smcWaitLoop (some sess) (some rsp) budget start (rounds + 1) spins) thread ()
      (round sess now ++ rest) status thread' () := by
  apply executes_round hfd
  rw [if_neg (Nat.not_le.mpr hearly), if_neg hspins]
  exact hrest

/-- The clock shows the start, the millisecond before the budget, and the budget. -/
def course (sess : Session) (budget : ℕ) : List (Event Sys) :=
  ⟨.clockGettime, Watch.reading 0⟩ :: (round sess (Watch.reading ((budget - 1) * 1000000)) ++
    round sess (Watch.reading (budget * 1000000)))

theorem elapsed_reading {ms : ℕ} (hms : ms < 2 ^ 32) :
    timespecDiffMs (Watch.reading 0) (Watch.reading (ms * 1000000)) = ms := by
  rw [Clocked.timespecDiffMs_reading (Nat.zero_le _) (by omega)]
  omega

theorem smcBudget_pos (timeout : UInt32) : 0 < smcBudget timeout := by
  unfold smcBudget
  split
  · rename_i hne
    exact Nat.pos_of_ne_zero fun hzero ↦ hne (UInt32.toNat_inj.mp hzero)
  · decide

theorem smcBudget_lt (timeout : UInt32) : smcBudget timeout < 2 ^ 32 := by
  unfold smcBudget
  split
  · exact timeout.toNat_lt
  · decide

theorem executes_ttSmcWait (hfd : 0 ≤ sess.fd) (rsp : Ref) (timeout : UInt32) (thread : Thread) :
    Procedure.Executes withholding (ttSmcWait 2 (some sess) (some rsp) timeout) thread ()
      (course sess (smcBudget timeout)) .TT_ERR { thread with errno := .ETIMEDOUT } () := by
  have hlt : smcBudget timeout < 2 ^ 32 := smcBudget_lt timeout
  have hpos : 0 < smcBudget timeout := smcBudget_pos timeout
  have hearly : timespecDiffMs (Watch.reading 0)
      (Watch.reading ((smcBudget timeout - 1) * 1000000)) < smcBudget timeout := by
    rw [elapsed_reading (by omega)]
    omega
  have hspent : smcBudget timeout ≤ timespecDiffMs (Watch.reading 0)
      (Watch.reading (smcBudget timeout * 1000000)) :=
    Nat.le_of_eq (elapsed_reading hlt).symm
  simp only [ttSmcWait, if_neg (Int.not_lt.mpr hfd)]
  exact .call trivial (executes_unspent hfd hearly (by decide) (executes_spent hfd hspent _))

theorem executes_wait (hfd : 0 ≤ sess.fd) (queued : Queued) (timeout : Option Duration)
    (thread : Thread) :
    Procedure.Executes withholding (wait 2 sess queued timeout) thread ()
      (course sess (smcBudget (millis timeout)))
      (.error .ETIMEDOUT, settle queued (.error .ETIMEDOUT) .TimedOut)
      { thread with
        errno := .ETIMEDOUT
        messages := Function.update thread.messages Python.rsp SmcMsg.zero } () := by
  rw [wait, receive]
  refine Procedure.executes_bind.mpr ⟨[], _, _, _, _, rfl, .done, ?_⟩
  refine Procedure.executes_bind.mpr
    ⟨_, [], .error .ETIMEDOUT, _, _, (List.append_nil _).symm, ?_, .done⟩
  refine Procedure.executes_bind.mpr ⟨_, [], .TT_ERR, _, _, (List.append_nil _).symm,
    executes_ttSmcWait hfd Python.rsp (millis timeout) _, .done⟩

end Runs

/-! ## The timeout of the binding -/

section Budget

variable {duration : Duration}

end Budget

end TtDal.Safety.WaitBudget
