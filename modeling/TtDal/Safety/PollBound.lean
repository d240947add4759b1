import TtDal.Dev.Smc
import TtDal.Driver.Clock

/-!
# The polls of a wait

A wait counts its polls in 32 bits. Up to a number it spins, and from then on it sleeps behind each
poll, so the polls that sleep spend the budget and the others are few. When the counter wraps, the
wait spins once more. The longest budgets are spent after that only, and take more polls than one
spin and a poll for each millisecond.
-/

namespace TtDal.Safety.PollBound

open Effect Platform Dev Driver

/-- A poll of the driver. -/
def isPoll : Event Sys → Bool
  | ⟨.smcMsg _ msg, _⟩ => msg.flags = .POLL
  | _ => false

def polls (trace : List (Event Sys)) : ℕ := trace.countP isPoll

@[simp]
theorem polls_append (first rest : List (Event Sys)) :
    polls (first ++ rest) = polls first + polls rest :=
  List.countP_append

/-! ## Sleeps -/

/-- The number of sleeps behind the first polls. -/
def sleeps : ℕ → ℕ
  | 0 => 0
  | polls + 1 => sleeps polls + if SPIN_POLLS ≤ UInt32.ofNat polls then 1 else 0

theorem spin_le_iff (polls : ℕ) : SPIN_POLLS ≤ UInt32.ofNat polls ↔ 32 ≤ polls % 2 ^ 32 := by
  rw [UInt32.le_iff_toNat_le, UInt32.toNat_ofNat']
  exact Iff.rfl

/-- Each round of the counter begins with one spin. -/
theorem sleeps_add_spins (polls : ℕ) :
    sleeps polls + (32 * (polls / 2 ^ 32) + min (polls % 2 ^ 32) 32) = polls := by
  induction polls with
  | zero => rfl
  | succ polls ih =>
    rw [sleeps]
    simp only [spin_le_iff]
    split <;> omega

theorem sleeps_mono {polls polls' : ℕ} (h : polls ≤ polls') : sleeps polls ≤ sleeps polls' := by
  have hbefore := sleeps_add_spins polls
  have hafter := sleeps_add_spins polls'
  omega

/-- A budget is spent by as many sleeps after a single spin, unless the counter wraps before. -/
theorem budget_le_sleeps {budget : ℕ} (hbudget : budget < 2 ^ 32) :
    budget ≤ sleeps (32 + budget) ↔ budget ≤ 2 ^ 32 - 32 := by
  have hspins := sleeps_add_spins (32 + budget)
  omega

/-! ## The loop -/

section Loop

variable {sess : Session} {rsp : Ref} {thread : Thread} {s : Clocked Unit} {opened budget : ℕ}

theorem polls_clock (now : Timespec) (rest : List (Event Sys)) :
    polls (⟨.clockGettime, now⟩ :: rest) = polls rest :=
  List.countP_cons_of_neg nofun

theorem wp_poll (hfd : 0 ≤ sess.fd) (rsp : Ref) :
    Procedure.wp Clocked.pending (ttSmcPoll (some sess) (some rsp)) (fun trace status polled s' ↦
      polls trace = 1 ∧ status = .TT_ERR ∧ polled.errno = .EAGAIN ∧ s.now ≤ s'.now) thread s := by
  simp only [ttSmcPoll, if_neg (Int.not_lt.mpr hfd), Procedure.wp_bind, wp_sys]
  refine ⟨trivial, fun reply s' hanswer ↦ ?_⟩
  obtain ⟨⟨hpending, hlater, -⟩, -⟩ := hanswer
  obtain rfl : reply = .fail .EAGAIN := hpending
  exact ⟨rfl, rfl, rfl, hlater⟩

/-- What is left of a wait after a number of polls, when the budget is spent by the sleeps behind
another number of them. -/
def Ends (opened budget most done : ℕ) (trace : List (Event Sys)) (status : Status)
    (thread' : Thread) (s' : Clocked Unit) : Prop :=
  1 ≤ polls trace ∧ done + polls trace ≤ most + 1 ∧ status = .TT_ERR ∧
    thread'.errno = .ETIMEDOUT ∧ opened + budget * 1000000 ≤ s'.now

/-- A round is a poll and the events behind it. -/
theorem Ends.after {most done : ℕ} {first rest : List (Event Sys)} {status : Status}
    {thread' : Thread} {s' : Clocked Unit} (behind : List (Event Sys)) (hfirst : polls first = 1)
    (hbehind : polls behind = 0)
    (h : Ends opened budget most (done + 1) rest status thread' s') :
    Ends opened budget most done (first ++ (behind ++ rest)) status thread' s' := by
  obtain ⟨-, hmost, hreport⟩ := h
  unfold Ends
  rw [polls_append, polls_append, hfirst, hbehind, Nat.zero_add]
  exact ⟨Nat.le_add_right 1 _, by omega, hreport⟩

theorem spent_iff {now : ℕ} (h : opened ≤ now) :
    budget ≤ (now - opened) / 1000000 ↔ opened + budget * 1000000 ≤ now := by
  rw [Nat.le_div_iff_mul_le (by decide)]
  omega

/-- Each poll that did not end the wait found less time elapsed than the budget, and the sleeps so
far took that time. -/
theorem wp_waitLoop (hfd : 0 ≤ sess.fd) (rsp : Ref) {most : ℕ} (hmost : budget ≤ sleeps most)
    (done rounds : ℕ) (hrounds : most < done + rounds) (hdone : done ≤ most)
    (hnow : opened + sleeps done * 1000000 ≤ s.now) :
    Procedure.wp Clocked.pending (smcWaitLoop (some sess) (some rsp) budget (Watch.reading opened)
      rounds (UInt32.ofNat done)) (Ends opened budget most done) thread s := by
  induction rounds generalizing done thread s with
  | zero => omega
  | succ rounds ih =>
    rw [smcWaitLoop]
    refine Procedure.wp_call (wp_poll hfd rsp) fun first status polled s₁ hpoll ↦ ?_
    obtain ⟨hfirst, rfl, herrno, hlater₁⟩ := hpoll
    simp only [Procedure.wp_bind, wp_getErrno, herrno, ne_eq, not_true_eq_false, if_false,
      wp_elapsedMs]
    refine ⟨trivial, fun now s₂ hclock ↦ ?_⟩
    obtain ⟨⟨-, hlater₂, rfl⟩, hrange⟩ := hclock
    have hopened : opened ≤ s₂.now := by omega
    have helapsed : timespecDiffMs (Watch.reading opened) (Watch.reading s₂.now) =
        (s₂.now - opened) / 1000000 := Clocked.timespecDiffMs_reading hopened hrange
    simp only [helapsed, spent_iff hopened]
    by_cases hspent : opened + budget * 1000000 ≤ s₂.now
    · simp only [if_pos hspent, wp_ttFail, Ends, polls_append, polls_clock, hfirst]
      exact ⟨Nat.le_refl 1, Nat.succ_le_succ hdone, trivial, trivial, hspent⟩
    · have hless : sleeps done < sleeps most := by omega
      have hnext : done + 1 ≤ most := by
        by_contra hover
        have hover := sleeps_mono (show most ≤ done by omega)
        omega
      have hnow₂ : opened + sleeps done * 1000000 ≤ s₂.now := by omega
      have hcontinue (thread₃ : Thread) (s₃ : Clocked Unit)
          (hnow₃ : opened + sleeps (done + 1) * 1000000 ≤ s₃.now) :=
        @ih thread₃ s₃ (done + 1) (by omega) hnext hnow₃
      simp only [UInt32.ofNat_add] at hcontinue
      simp only [if_neg hspent]
      by_cases hsleep : SPIN_POLLS ≤ UInt32.ofNat done
      · have hcount : sleeps (done + 1) = sleeps done + 1 := by rw [sleeps, if_pos hsleep]
        simp only [if_pos hsleep, Procedure.wp_bind, wp_sys]
        refine ⟨trivial, fun slept s₃ hslept ↦ ?_⟩
        have hlater₃ : s₂.now + POLL_INTERVAL_US * 1000 ≤ s₃.now := hslept.2.1
        have hnow₃ : opened + sleeps (done + 1) * 1000000 ≤ s₃.now := by
          calc
            opened + sleeps (done + 1) * 1000000 = opened + sleeps done * 1000000 + 1000000 := by
              rw [hcount, Nat.add_mul, Nat.one_mul, Nat.add_assoc]
            _ ≤ s₂.now + POLL_INTERVAL_US * 1000 := Nat.add_le_add_right hnow₂ _
            _ ≤ s₃.now := hlater₃
        refine Procedure.wp_mono (hcontinue _ s₃ hnow₃) fun rest _ _ _ hrest ↦ ?_
        exact hrest.after [⟨.clockGettime, _⟩, ⟨.usleep POLL_INTERVAL_US, slept⟩] hfirst rfl
      · have hcount : sleeps (done + 1) = sleeps done := by rw [sleeps, if_neg hsleep, Nat.add_zero]
        simp only [if_neg hsleep]
        rw [← hcount] at hnow₂
        refine Procedure.wp_mono (hcontinue _ s₂ hnow₂) fun rest _ _ _ hrest ↦ ?_
        exact hrest.after [⟨.clockGettime, _⟩] hfirst rfl

/-- Every wait ends, spent, when enough polls are observed. -/
theorem wp_wait (hfd : 0 ≤ sess.fd) (rsp : Ref) {timeout : UInt32} {most rounds : ℕ}
    (hmost : smcBudget timeout ≤ sleeps most) (hrounds : most < rounds) :
    Procedure.wp Clocked.pending (ttSmcWait rounds (some sess) (some rsp) timeout)
      (Ends s.now (smcBudget timeout) most 0) thread s := by
  simp only [ttSmcWait, if_neg (Int.not_lt.mpr hfd), Procedure.wp_bind, wp_sys]
  refine ⟨trivial, fun start s₁ hclock ↦ ?_⟩
  obtain ⟨⟨-, hlater, rfl⟩, -⟩ := hclock
  have hloop := @wp_waitLoop sess thread s₁ s₁.now (smcBudget timeout) hfd rsp most hmost 0 rounds
    (by omega) (Nat.zero_le _) (Nat.le_of_eq (by rw [sleeps, Nat.zero_mul, Nat.add_zero]))
  refine Procedure.wp_mono hloop fun rest _ _ _ hends ↦ ?_
  obtain ⟨hpolled, hfew, herr, herrno, hlate⟩ := hends
  unfold Ends
  rw [List.singleton_append, polls_clock]
  exact ⟨hpolled, hfew, herr, herrno, by omega⟩

end Loop

/-! ## A clock that moves in sleeps only -/

section Steady

variable {sess : Session} {rsp : Ref} {thread : Thread} {s : Clocked Unit} {budget : ℕ}

theorem executes_poll (hfd : 0 ≤ sess.fd) (rsp : Ref) (hrange : s.now < 2 ^ 63) :
    Procedure.Executes Clocked.pending (ttSmcPoll (some sess) (some rsp)) thread s
      [⟨.smcMsg sess.fd (smcMsgIoctl .POLL SmcMsg.zero), .fail .EAGAIN⟩] .TT_ERR
      { thread with errno := .EAGAIN } s := by
  simp only [ttSmcPoll, if_neg (Int.not_lt.mpr hfd)]
  exact .call ⟨⟨rfl, Nat.le_refl _, trivial⟩, hrange⟩ .done

theorem executes_elapsedMs (hrange : s.now < 2 ^ 63) :
    Procedure.Executes Clocked.pending (elapsedMs (Watch.reading 0)) thread s
      [⟨.clockGettime, Watch.reading s.now⟩] (s.now / 1000000) thread s := by
  have helapsed : timespecDiffMs (Watch.reading 0) (Watch.reading s.now) = s.now / 1000000 :=
    Clocked.timespecDiffMs_reading (Nat.zero_le _) hrange
  rw [← helapsed]
  exact .call ⟨⟨trivial, Nat.le_refl _, rfl⟩, hrange⟩ .done

theorem executes_usleep (usec : ℕ) (hrange : s.now + usec * 1000 < 2 ^ 63) :
    Procedure.Executes Clocked.pending (sys (.usleep usec)) thread s [⟨.usleep usec, ()⟩] ()
      thread { s with now := s.now + usec * 1000 } :=
  .call ⟨⟨trivial, Nat.le_add_right _ _, trivial⟩, Nat.le_refl _, hrange⟩ .done

/-- The clock after a number of polls. -/
def steady (done : ℕ) : Clocked Unit where
  world := ()
  now := sleeps done * 1000000

/-- The rest of a round behind its poll. -/
theorem executes_polled (hfd : 0 ≤ sess.fd) {rsp : Ref} {start : Timespec} {rounds : ℕ}
    {spins : UInt32} {rest : List (Event Sys)} {status : Status} {thread' : Thread}
    {s' : Clocked Unit} (hrange : s.now < 2 ^ 63)
    (hrest : Procedure.Executes Clocked.pending (do
        let elapsed ← elapsedMs start
        if budget ≤ elapsed then
          ttFail .ETIMEDOUT
        else if SPIN_POLLS ≤ spins then
          let _ ← sys (.usleep POLL_INTERVAL_US)
          smcWaitLoop (some sess) (some rsp) budget start rounds (spins + 1)
        else
          smcWaitLoop (some sess) (some rsp) budget start rounds (spins + 1))
      { thread with errno := .EAGAIN } s rest status thread' s') :
    Procedure.Executes Clocked.pending
      (smcWaitLoop (some sess) (some rsp) budget start (rounds + 1) spins) thread s
      (⟨.smcMsg sess.fd (smcMsgIoctl .POLL SmcMsg.zero), .fail .EAGAIN⟩ :: rest) status thread'
      s' := by
  rw [smcWaitLoop]
  refine Procedure.executes_bind.mpr ⟨_, _, _, _, _, rfl, executes_poll hfd rsp hrange, ?_⟩
  refine Procedure.executes_bind.mpr ⟨[], _, _, _, _, rfl, .done, ?_⟩
  simp only [ne_eq, not_true_eq_false, if_false]
  exact hrest

/-- The events of a poll that is followed by another. -/
def fruitless (sess : Session) (done : ℕ) : List (Event Sys) :=
  [⟨.smcMsg sess.fd (smcMsgIoctl .POLL SmcMsg.zero), .fail .EAGAIN⟩,
    ⟨.clockGettime, Watch.reading (steady done).now⟩] ++
    if SPIN_POLLS ≤ UInt32.ofNat done then [⟨.usleep POLL_INTERVAL_US, ()⟩] else []

theorem polls_fruitless (sess : Session) (done : ℕ) : polls (fruitless sess done) = 1 := by
  rw [fruitless, polls_append]
  split <;> rfl

theorem executes_fruitless (hfd : 0 ≤ sess.fd) {done rounds : ℕ} (hless : sleeps done < budget)
    (hrange : sleeps done * 1000000 + 1000000 < 2 ^ 63) {trace : List (Event Sys)} {status : Status}
    {thread' : Thread} {s' : Clocked Unit}
    (hrest : Procedure.Executes Clocked.pending (smcWaitLoop (some sess) (some rsp) budget
      (Watch.reading 0) rounds (UInt32.ofNat (done + 1))) { thread with errno := .EAGAIN }
      (steady (done + 1)) trace status thread' s') :
    Procedure.Executes Clocked.pending (smcWaitLoop (some sess) (some rsp) budget (Watch.reading 0)
      (rounds + 1) (UInt32.ofNat done)) thread (steady done) (fruitless sess done ++ trace) status
      thread' s' := by
  have hnow : (steady done).now < 2 ^ 63 := Nat.lt_of_le_of_lt (Nat.le_add_right _ _) hrange
  have hunspent : ¬budget ≤ (steady done).now / 1000000 := by
    rw [steady, Nat.mul_div_cancel _ (by decide)]
    exact Nat.not_le.mpr hless
  rw [UInt32.ofNat_add] at hrest
  rw [fruitless]
  apply executes_polled hfd hnow
  refine Procedure.executes_bind.mpr ⟨[_], _, _, _, _, rfl, executes_elapsedMs hnow, ?_⟩
  by_cases hsleep : SPIN_POLLS ≤ UInt32.ofNat done
  · have hslept : steady (done + 1) =
        { steady done with now := (steady done).now + POLL_INTERVAL_US * 1000 } := by
      rw [steady, sleeps, if_pos hsleep, Nat.add_mul]
      rfl
    rw [hslept] at hrest
    rw [if_pos hsleep]
    simp only [if_neg hunspent, if_pos hsleep]
    exact Procedure.executes_bind.mpr ⟨_, _, _, _, _, rfl, executes_usleep _ hrange, hrest⟩
  · have hslept : steady (done + 1) = steady done := by
      rw [steady, sleeps, if_neg hsleep]
      rfl
    rw [hslept] at hrest
    rw [if_neg hsleep]
    simp only [if_neg hunspent, if_neg hsleep]
    exact hrest

/-- The poll behind which the budget is found spent. -/
theorem executes_spent (hfd : 0 ≤ sess.fd) {done rounds : ℕ} (hspent : budget ≤ sleeps done)
    (hrange : sleeps done * 1000000 < 2 ^ 63) :
    Procedure.Executes Clocked.pending (smcWaitLoop (some sess) (some rsp) budget (Watch.reading 0)
      (rounds + 1) (UInt32.ofNat done)) thread (steady done)
      [⟨.smcMsg sess.fd (smcMsgIoctl .POLL SmcMsg.zero), .fail .EAGAIN⟩,
        ⟨.clockGettime, Watch.reading (steady done).now⟩] .TT_ERR
      { thread with errno := .ETIMEDOUT } (steady done) := by
  have helapsed : budget ≤ (steady done).now / 1000000 := by
    rw [steady, Nat.mul_div_cancel _ (by decide)]
    exact hspent
  apply executes_polled hfd hrange
  refine Procedure.executes_bind.mpr ⟨_, [], _, _, _, rfl, executes_elapsedMs hrange, ?_⟩
  simp only [if_pos helapsed]
  exact .done

/-- A wait polls until its sleeps have spent the budget. -/
theorem executes_steady (hfd : 0 ≤ sess.fd) (more done rounds : ℕ) (hrounds : more < rounds)
    (hless : ∀ polls < done + more, sleeps polls < budget)
    (hspent : sleeps (done + more) = budget) (hrange : budget * 1000000 < 2 ^ 63) :
    ∃ trace, polls trace = more + 1 ∧ Procedure.Executes Clocked.pending
      (smcWaitLoop (some sess) (some rsp) budget (Watch.reading 0) rounds (UInt32.ofNat done)) thread
      (steady done) trace .TT_ERR { thread with errno := .ETIMEDOUT } (steady (done + more)) := by
  induction more generalizing done rounds thread with
  | zero =>
    cases rounds with
    | zero => omega
    | succ rounds =>
      rw [Nat.add_zero] at hspent
      have hnow : sleeps done * 1000000 < 2 ^ 63 := hspent ▸ hrange
      exact ⟨_, rfl, executes_spent hfd (Nat.le_of_eq hspent.symm) hnow⟩
  | succ more ih =>
    cases rounds with
    | zero => omega
    | succ rounds =>
      have hunspent : sleeps done < budget := hless done (by omega)
      have hnow : sleeps done * 1000000 + 1000000 < 2 ^ 63 := by
        calc
          sleeps done * 1000000 + 1000000 = (sleeps done + 1) * 1000000 := by
            rw [Nat.add_mul, Nat.one_mul]
          _ ≤ budget * 1000000 := Nat.mul_le_mul_right _ hunspent
          _ < 2 ^ 63 := hrange
      have hshift : done + 1 + more = done + (more + 1) := by omega
      rw [← hshift] at hless hspent
      obtain ⟨trace, hcount, hrun⟩ := @ih { thread with errno := .EAGAIN } (done + 1) rounds
        (by omega) hless hspent
      rw [hshift] at hrun
      refine ⟨fruitless sess done ++ trace, ?_, executes_fruitless hfd hunspent hnow hrun⟩
      rw [polls_append, polls_fruitless, hcount, Nat.add_comm]

theorem smcBudget_lt (timeout : UInt32) : smcBudget timeout < 2 ^ 32 := by
  unfold smcBudget
  split
  · exact timeout.toNat_lt
  · decide

theorem executes_wait (hfd : 0 ≤ sess.fd) (rsp : Ref) {timeout : UInt32} {more rounds : ℕ}
    (hrounds : more < rounds) (hless : ∀ polls < more, sleeps polls < smcBudget timeout)
    (hspent : sleeps more = smcBudget timeout) :
    ∃ trace, polls trace = more + 1 ∧ Procedure.Executes Clocked.pending
      (ttSmcWait rounds (some sess) (some rsp) timeout) thread (steady 0) trace .TT_ERR
      { thread with errno := .ETIMEDOUT } (steady more) := by
  have hbudget := smcBudget_lt timeout
  have hrange : smcBudget timeout * 1000000 < 2 ^ 63 := by omega
  rw [← Nat.zero_add more] at hless hspent
  obtain ⟨trace, hcount, hrun⟩ := @executes_steady sess rsp thread (smcBudget timeout) hfd more 0
    rounds hrounds hless hspent hrange
  rw [Nat.zero_add] at hrun
  refine ⟨⟨.clockGettime, Watch.reading 0⟩ :: trace, ?_, ?_⟩
  · rw [polls_clock, hcount]
  · have hfirst : (steady 0).now < 2 ^ 63 := by decide
    simp only [ttSmcWait, if_neg (Int.not_lt.mpr hfd)]
    exact .call ⟨⟨trivial, Nat.le_refl _, rfl⟩, hfirst⟩ hrun

end Steady

/-! ## The bound -/

/-- A wait that ended made at least one poll and no more than a number of them, and it reports its
own timeout only when the budget is spent. -/
structure Ended (timeout : UInt32) (most : ℕ) (s : Clocked Unit) (trace : List (Event Sys))
    (status : Status) (thread' : Thread) (s' : Clocked Unit) : Prop where
  polled : 1 ≤ polls trace
  bounded : polls trace ≤ most
  spent : status = .TT_ERR → thread'.errno = .ETIMEDOUT →
    s.now + smcBudget timeout * 1000000 ≤ s'.now

/-- Observed for a number of polls, every wait with the timeout has ended. -/
def Bounded (timeout : UInt32) (most : ℕ) : Prop :=
  ∀ (sess : Session) (rsp : Ref) (thread : Thread) (s : Clocked Unit) (rounds : ℕ),
    0 ≤ sess.fd → most ≤ rounds →
    (∀ trace reason s', ¬Procedure.Stops Clocked.pending
      (ttSmcWait rounds (some sess) (some rsp) timeout) thread s trace reason s') ∧
    ∀ trace status thread' s', Procedure.Executes Clocked.pending
      (ttSmcWait rounds (some sess) (some rsp) timeout) thread s trace status thread' s' →
      Ended timeout most s trace status thread' s'

section Bounded

variable {timeout : UInt32}

theorem bounded_of_sleeps {most : ℕ} (hmost : smcBudget timeout ≤ sleeps most) :
    Bounded timeout (most + 1) := by
  intro sess rsp thread s rounds hfd hrounds
  have hwait := @wp_wait sess thread s hfd rsp timeout most rounds hmost hrounds
  constructor
  · exact fun trace reason s' hstop ↦ hstop.tolerated hwait
  · intro trace status thread' s' hrun
    obtain ⟨hpolled, hbounded, -, -, hspent⟩ := hrun.ensures hwait
    exact ⟨hpolled, Nat.zero_add (polls trace) ▸ hbounded, fun _ _ ↦ hspent⟩

/-- When the counter wraps, a clock that moves in sleeps only lets the wait spin twice. -/
theorem executes_wrapped (hwrap : 2 ^ 32 - 32 < smcBudget timeout) :
    ∃ trace thread' s', polls trace = smcBudget timeout + 65 ∧
      Procedure.Executes Clocked.pending
        (ttSmcWait (smcBudget timeout + 65) (some sampleSession) (some 2) timeout) Thread.initial
        (steady 0) trace .TT_ERR thread' s' := by
  have hbudget := smcBudget_lt timeout
  have hless : ∀ polls < smcBudget timeout + 64, sleeps polls < smcBudget timeout := by
    intro polls hpolls
    have hspins := sleeps_add_spins polls
    omega
  have hspent : sleeps (smcBudget timeout + 64) = smcBudget timeout := by
    have hspins := sleeps_add_spins (smcBudget timeout + 64)
    omega
  obtain ⟨trace, hcount, hrun⟩ := @executes_wait sampleSession Thread.initial (by decide) 2 timeout
    _ (smcBudget timeout + 65) (Nat.lt_succ_self _) hless hspent
  exact ⟨trace, _, _, hcount, hrun⟩

theorem not_bounded_of_wrap (hwrap : 2 ^ 32 - 32 < smcBudget timeout) {most : ℕ}
    (hmost : most < smcBudget timeout + 65) : ¬Bounded timeout most := by
  intro hbounded
  obtain ⟨trace, thread', s', hcount, hrun⟩ := executes_wrapped hwrap
  obtain ⟨-, hended⟩ := hbounded sampleSession 2 Thread.initial (steady 0)
    (smcBudget timeout + 65) (by decide) (Nat.le_of_lt hmost)
  have hover := (hended _ _ _ _ hrun).bounded
  omega

/-- A wait polls at most once for each millisecond of its budget beside one spin, and a poll, where
the budget and the spin are counted in 32 bits. Otherwise the counter wraps, and costs another
spin. -/
theorem wait_bounded_iff (timeout : UInt32) :
    Bounded timeout (2 * SPIN_POLLS.toNat + 1 + smcBudget timeout) ∧
    (Bounded timeout (SPIN_POLLS.toNat + 1 + smcBudget timeout) ↔
      smcBudget timeout + SPIN_POLLS.toNat ≤ 2 ^ 32) := by
  have hbudget := smcBudget_lt timeout
  have hspin : SPIN_POLLS.toNat = 32 := rfl
  rw [hspin]
  constructor
  · have hmost : smcBudget timeout ≤ sleeps (64 + smcBudget timeout) := by
      have hspins := sleeps_add_spins (64 + smcBudget timeout)
      omega
    have hbounded := bounded_of_sleeps hmost
    rw [Nat.add_right_comm] at hbounded
    exact hbounded
  · constructor
    · intro hbounded
      by_contra hwrap
      exact not_bounded_of_wrap (by omega) (by omega) hbounded
    · intro hfits
      have hbounded := bounded_of_sleeps ((budget_le_sleeps hbudget).mpr (by omega))
      rw [Nat.add_right_comm] at hbounded
      exact hbounded

end Bounded

/-- With the longest timeout, which the bindings ask for when a duration does not fit, a wait can
poll 2^32 + 64 times. -/
theorem longest_wait_overruns :
    (∃ trace thread' s', polls trace = 2 ^ 32 + 64 ∧ Procedure.Executes Clocked.pending
      (ttSmcWait (2 ^ 32 + 64) (some sampleSession) (some 2) 4294967295) Thread.initial (steady 0)
      trace .TT_ERR thread' s') ∧
    ¬Bounded 4294967295 (SPIN_POLLS.toNat + 1 + smcBudget 4294967295) := by
  have hwrap : 2 ^ 32 - 32 < smcBudget 4294967295 := by decide
  have hcount : smcBudget 4294967295 + 65 = 2 ^ 32 + 64 := by decide
  have hrun := executes_wrapped hwrap
  rw [hcount] at hrun
  exact ⟨hrun, not_bounded_of_wrap hwrap (by decide)⟩

end TtDal.Safety.PollBound
