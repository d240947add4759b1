import TtDal.Platform.Thread

/-!
# The `SIGBUS` guard

The functions of `trap.c`. A thread arms an address range and takes a recovery point. A read that
faults inside the range resumes at the recovery point with the guard disarmed, and any other fault
goes to whoever owned the signal before. Code between the recovery point and the end of the
guarded access is `Guarded`, where a resumed fault is an exception.
-/

namespace TtDal.Dev

open Effect Platform

/-- What a handler is told about a signal. -/
structure Siginfo where
  addr : ℕ
  /-- The signal was raised by the process itself and carries no fault address. -/
  raised : Bool
  deriving DecidableEq, Repr

/-- What the handler does with a signal. -/
inductive Handled where
  /-- Return, so that the access faults again. -/
  | returned
  /-- Jump to the recovery point with the guard disarmed. -/
  | recovered
  /-- Run the handler installed before. -/
  | chained
  /-- Restore the default action and raise the signal again. -/
  | fatal
  deriving DecidableEq, Repr

def handler (armed : Guard) (prev : Disposition) (info : Siginfo) : Handled :=
  if armed.ptr ≠ NULL ∧ info.raised then
    .returned
  else if armed.ptr ≠ NULL ∧ armed.ptr ≤ info.addr ∧ info.addr < armed.ptr + armed.len then
    .recovered
  else
    match prev with
    | .handler => .chained
    | .SIG_DFL | .SIG_IGN => .fatal

def ttTrapArm (ptr len : ℕ) : C Unit := do
  let thread ← get
  if thread.once then
    set { thread with armed := { ptr := ptr, len := len } }
  else
    let prev ← sys .sigaction
    modify fun thread ↦
      { thread with once := true, prev := prev, armed := { ptr := ptr, len := len } }

def Thread.disarm (thread : Thread) : Thread :=
  { thread with armed := { thread.armed with ptr := NULL } }

def ttTrapDisarm : C Unit :=
  modify Thread.disarm

/-- Code behind a recovery point. -/
abbrev Guarded := ExceptT Unit C

/-- A 32-bit read through a mapping. -/
def deref (addr : ℕ) : Guarded UInt32 := do
  let thread ← get
  match ← (sys (.load thread.armed addr) : C (Option UInt32)) with
  | some word => return word
  | none =>
    match handler thread.armed thread.prev { addr := addr, raised := false } with
    | .recovered =>
      (ttTrapDisarm : C Unit)
      throw ()
    | .returned | .chained | .fatal => (Procedure.stop .aborted : C UInt32)

/-! ## Symbolic execution -/

section Rules

variable {W α β : Type} {contract : Contract Sys W} {thread : Thread} {w : W}

/-- A read returns a word, or resumes at the recovery point, or ends the process. -/
theorem wp_deref (addr : ℕ) (post : Procedure.Post Sys (Except Unit UInt32) Thread W) :
    Procedure.wp contract (deref addr).run post thread w ↔
      contract.permits (.load thread.armed addr) w ∧
      ∀ answer v, contract.answers (.load thread.armed addr) w answer v → match answer with
        | some word => post [⟨.load thread.armed addr, some word⟩] (.ok word) thread v
        | none =>
          if handler thread.armed thread.prev { addr := addr, raised := false } = .recovered then
            post [⟨.load thread.armed addr, none⟩] (.error ()) (Thread.disarm thread) v
          else
            contract.tolerates .aborted := by
  refine and_congr Iff.rfl (forall₂_congr fun answer v ↦ imp_congr Iff.rfl ?_)
  cases answer with
  | some word => exact Iff.rfl
  | none =>
    cases handler thread.armed thread.prev { addr := addr, raised := false } with
    | recovered => exact Iff.rfl
    | returned | chained | fatal => exact Iff.rfl

/-- The rule for guarded code: a fault skips what follows. -/
theorem wp_guarded {first : Guarded α} {f : α → Guarded β}
    {spec : Procedure.Post Sys (Except Unit α) Thread W}
    {post : Procedure.Post Sys (Except Unit β) Thread W}
    (h : Procedure.wp contract first.run spec thread w)
    (hvalue : ∀ trace value thread' w', spec trace (.ok value) thread' w' →
      Procedure.wp contract (f value).run (fun rest ↦ post (trace ++ rest)) thread' w')
    (hfault : ∀ trace thread' w', spec trace (.error ()) thread' w' →
      post trace (.error ()) thread' w') :
    Procedure.wp contract (first >>= f).run post thread w := by
  rw [ExceptT.run_bind]
  refine Procedure.wp_call h fun trace res thread' w' hres ↦ ?_
  cases res with
  | ok value => exact hvalue trace value thread' w' hres
  | error fault => simpa using hfault trace thread' w' hres

theorem wp_guarded_modify (f : Thread → Thread) (g : PUnit → Guarded β)
    (post : Procedure.Post Sys (Except Unit β) Thread W) :
    Procedure.wp contract ((modify f : C PUnit) >>= g : Guarded β).run post thread w ↔
      Procedure.wp contract (g ⟨⟩).run post (f thread) w := Iff.rfl

/-- Guarded code that returned a value ran to its end. -/
theorem executes_guarded {first : Guarded α} {f : α → Guarded β} {value : β} {thread' : Thread}
    {w' : W} {trace : List (Event Sys)} :
    Procedure.Executes contract (first >>= f).run thread w trace (.ok value) thread' w' ↔
      ∃ front rest middle thread₁ w₁, trace = front ++ rest ∧
        Procedure.Executes contract first.run thread w front (.ok middle) thread₁ w₁ ∧
        Procedure.Executes contract (f middle).run thread₁ w₁ rest (.ok value) thread' w' := by
  rw [ExceptT.run_bind, Procedure.executes_bind]
  constructor
  · rintro ⟨front, rest, res, thread₁, w₁, rfl, hfirst, hrest⟩
    cases res with
    | ok middle => exact ⟨front, rest, middle, thread₁, w₁, rfl, hfirst, hrest⟩
    | error fault => cases (Procedure.executes_pure.mp hrest).2.1
  · rintro ⟨front, rest, middle, thread₁, w₁, rfl, hfirst, hrest⟩
    exact ⟨front, rest, .ok middle, thread₁, w₁, rfl, hfirst, hrest⟩

theorem keeps_ttTrapArm {inv : W → Prop} (h : Procedure.Keeps contract inv (sys .sigaction))
    (ptr len : ℕ) : Procedure.Keeps contract inv (ttTrapArm ptr len) := by
  intro thread w hinv
  rw [ttTrapArm, Procedure.wp_bind, Procedure.wp_get]
  split
  · exact hinv
  · exact h.wp_call hinv fun _ _ _ _ hinv' ↦ hinv'

end Rules

end TtDal.Dev
