import TtDal.Binding.Perform

/-!
# One retry policy for both bindings

A session operation is run through `Session::perform`. The policy is stated over the outcomes of
the operation and of the reopens, in the order in which they were called, and both bindings follow
it in every environment.
-/

namespace TtDal.Safety.RetryPolicy

open Effect Platform Dev Binding

variable {α : Type}

/-! ## The policy -/

/-- A call made by `perform`, with its outcome. -/
inductive Attempt (α : Type) where
  | operation (res : Except Errno α)
  | reopen (res : Except Errno Unit)

namespace Attempt

def isOperation : Attempt α → Bool
  | .operation _ => true
  | .reopen _ => false

def isReopen : Attempt α → Bool
  | .operation _ => false
  | .reopen _ => true

/-- The operation found the connection reset. -/
def isLost : Attempt α → Bool
  | .operation res => Rust.isLost res
  | .reopen _ => false

end Attempt

/-- The calls of a persistent session that may still reopen a number of times. -/
inductive Retries : (retries : ℕ) → List (Attempt α) → Except Errno α → Prop where
  | settled {retries : ℕ} {res : Except Errno α} : Rust.isLost res = false →
      Retries retries [.operation res] res
  | exhausted {res : Except Errno α} : Rust.isLost res = true →
      Retries 0 [.operation res] (.error .ENODEV)
  | refused {retries : ℕ} {res : Except Errno α} {err : Errno} : Rust.isLost res = true →
      Retries (retries + 1) [.operation res, .reopen (.error err)] (.error err)
  | retried {retries : ℕ} {res result : Except Errno α} {calls : List (Attempt α)} :
      Rust.isLost res = true → Retries retries calls result →
      Retries (retries + 1) (.operation res :: .reopen (.ok ()) :: calls) result

section Retries

variable {retries : ℕ} {calls : List (Attempt α)} {result : Except Errno α}

theorem Retries.attempts (h : Retries retries calls result) :
    calls.countP Attempt.isOperation ≤ retries + 1 := by
  induction h with
  | settled | exhausted | refused => simp [List.countP_cons, Attempt.isOperation]
  | retried hres hrest ih => simpa [List.countP_cons, Attempt.isOperation] using ih

theorem Retries.reopens (h : Retries retries calls result) :
    calls.countP Attempt.isReopen ≤ retries := by
  induction h with
  | settled | exhausted | refused => simp [List.countP_cons, Attempt.isReopen]
  | retried hres hrest ih => simpa [List.countP_cons, Attempt.isReopen] using ih

/-- A reopen follows a lost attempt. -/
theorem Retries.reopened (h : Retries retries calls result) {res : Except Errno Unit}
    {before after : List (Attempt α)} (heq : calls = before ++ .reopen res :: after) :
    ∃ earlier lost, before = earlier ++ [.operation lost] := by
  induction h generalizing before with
  | settled | exhausted =>
    cases before with
    | nil => simp at heq
    | cons => simp at heq
  | @refused retries lost err hres =>
    cases before with
    | nil => simp at heq
    | cons first rest =>
      cases rest with
      | nil =>
        cases heq
        exact ⟨[], lost, rfl⟩
      | cons => simp at heq
  | @retried retries lost result' calls' hres hrest ih =>
    cases before with
    | nil => simp at heq
    | cons first rest =>
      cases rest with
      | nil =>
        cases heq
        exact ⟨[], lost, rfl⟩
      | cons second rest =>
        simp only [List.cons_append, List.cons.injEq] at heq
        obtain ⟨rfl, rfl, heq⟩ := heq
        obtain ⟨earlier, lost', rfl⟩ := ih heq
        exact ⟨.operation lost :: .reopen (.ok ()) :: earlier, lost', rfl⟩

end Retries

/-! ## Runs of the bindings -/

section Runs

variable {W : Type} {contract : Contract Sys W} {call : Session → C (Result α)}
  {sess sess' sess'' : Session} {thread thread' thread'' : Thread} {w w' w'' : W}
  {trace : List (Event Sys)} {calls : List (Attempt α)} {result : Except Errno α}

/-- The operation and the reopen were called in this order, with these outcomes. -/
inductive Ran (contract : Contract Sys W) (call : Session → C (Result α)) :
    Session → Thread → W → List (Event Sys) → List (Attempt α) → Session → Thread → W → Prop where
  | nil {sess : Session} {thread : Thread} {w : W} :
      Ran contract call sess thread w [] [] sess thread w
  | operation {sess sess' : Session} {thread thread' thread'' : Thread} {w w' w'' : W}
      {res : Except Errno α} {first rest : List (Event Sys)} {calls : List (Attempt α)} :
      Procedure.Executes contract (Rust.check (call sess)) thread w first res thread' w' →
      Ran contract call sess thread' w' rest calls sess' thread'' w'' →
      Ran contract call sess thread w (first ++ rest) (.operation res :: calls) sess' thread'' w''
  | reopen {sess sess' sess'' : Session} {thread thread' thread'' : Thread} {w w' w'' : W}
      {res : Except Errno Unit} {first rest : List (Event Sys)} {calls : List (Attempt α)} :
      Procedure.Executes contract (Rust.reopen sess) thread w first (res, sess') thread' w' →
      Ran contract call sess' thread' w' rest calls sess'' thread'' w'' →
      Ran contract call sess thread w (first ++ rest) (.reopen res :: calls) sess'' thread'' w''

theorem wp_openSession (dev : Device) (flags : UInt16) (thread : Thread) :
    Procedure.wp .anything (openSession dev flags)
      (fun _ out thread' _ ↦ out = .TT_ERR → thread'.errno ≠ .ECONNRESET) thread () := by
  rw [openSession_eq]
  split
  · exact fun _ ↦ by simp
  · simp only [Procedure.wp_bind, wp_sys]
    refine ⟨trivial, fun reply _ _ ↦ ?_⟩
    cases reply with
    | ok fd residue => simp
    | fail err =>
      by_cases herr : err = .EAGAIN
      · simp only [if_pos herr, wp_ttFail]
        exact fun _ ↦ by simp
      · simp only [if_neg herr, wp_ttFail]
        exact fun _ ↦ by simp

theorem wp_reopenSession (sess : Session) (thread : Thread) :
    Procedure.wp .anything (reopenSession sess)
      (fun _ out thread' _ ↦ out.1 = .TT_ERR → thread'.errno ≠ .ECONNRESET) thread () := by
  refine Procedure.wp_call (Procedure.wp_anything _ thread) fun _ closed thread' _ _ ↦ ?_
  refine Procedure.wp_call (wp_openSession _ _ thread') fun _ out thread'' _ hout ↦ ?_
  cases out with
  | TT_OK opened => exact nofun
  | TT_ERR => exact fun _ ↦ hout rfl

/-- The errors of `tt_reopen` are those of `tt_open`. -/
theorem wp_reopen (sess : Session) (thread : Thread) :
    Procedure.wp .anything (Rust.reopen sess)
      (fun _ out _ _ ↦ ∀ err, out.1 = .error err → err ≠ .ECONNRESET) thread () := by
  refine Procedure.wp_call (wp_reopenSession sess thread) fun _ out thread' _ hout ↦ ?_
  obtain ⟨status, sess'⟩ := out
  cases status with
  | TT_OK => exact nofun
  | TT_ERR =>
    rintro err heq
    cases heq
    exact hout rfl

end Runs

end TtDal.Safety.RetryPolicy
