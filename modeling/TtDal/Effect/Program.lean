import Mathlib.Logic.Relation

/-!
# Programs over requests to an environment

A program is a tree of requests. Each request names an operation, and the environment chooses
the answer that selects the continuation, so one tree describes every run of the code against
every environment. Unbounded loops are cut after a number of rounds and end in
`Stop.unfinished`, so the trees of all bounds together hold every finite prefix of a run.

Procedures add a private state to a program. They are the state transformer over `Program` and
are written in `do` notation.
-/

namespace TtDal.Effect

/-- The operations a program may request, and the answers that may come back to each. -/
structure Signature where
  Op : Type
  Answer : Op → Type

/-- A request together with the answer it was given. -/
structure Event (S : Signature) where
  op : S.Op
  answer : S.Answer op

/-- Ways to end other than by returning. -/
inductive Stop where
  /-- The run was observed no further. -/
  | unfinished
  /-- Control left the program for good. -/
  | aborted
  deriving DecidableEq, Repr

inductive Outcome (α : Type) where
  | returned (value : α)
  | stopped (reason : Stop)

inductive Program (S : Signature) (α : Type) where
  | done (value : α)
  | stop (reason : Stop)
  | call (op : S.Op) (next : S.Answer op → Program S α)

namespace Program

variable {S : Signature} {α β γ : Type}

def bind : Program S α → (α → Program S β) → Program S β
  | .done value, f => f value
  | .stop reason, _ => .stop reason
  | .call op next, f => .call op fun answer ↦ (next answer).bind f

instance : Monad (Program S) where
  pure := .done
  bind := bind

@[simp]
theorem pure_eq_done (value : α) : (pure value : Program S α) = .done value := rfl

@[simp]
theorem done_bind (value : α) (f : α → Program S β) : (Program.done value >>= f) = f value := rfl

@[simp]
theorem stop_bind (reason : Stop) (f : α → Program S β) :
    ((Program.stop reason : Program S α) >>= f) = .stop reason := rfl

@[simp]
theorem call_bind (op : S.Op) (next : S.Answer op → Program S α) (f : α → Program S β) :
    (Program.call op next >>= f) = .call op fun answer ↦ next answer >>= f := rfl

theorem bind_done (program : Program S α) : program >>= Program.done = program := by
  induction program with
  | done value => rfl
  | stop reason => rfl
  | call op next ih =>
    rw [call_bind]
    exact congrArg (Program.call op) (funext ih)

theorem bind_bind (program : Program S α) (f : α → Program S β) (g : β → Program S γ) :
    (program >>= f) >>= g = program >>= fun value ↦ f value >>= g := by
  induction program with
  | done value => rfl
  | stop reason => rfl
  | call op next ih =>
    simp only [call_bind]
    exact congrArg (Program.call op) (funext ih)

instance : LawfulMonad (Program S) :=
  LawfulMonad.mk' _ (fun program ↦ bind_done program) (fun _ _ ↦ rfl)
    (fun program f g ↦ bind_bind program f g)

/-- Request an operation and return its answer. -/
def request (op : S.Op) : Program S (S.Answer op) :=
  .call op .done

end Program

/-- A program with a private state. -/
abbrev Procedure (S : Signature) (σ : Type) := StateT σ (Program S)

namespace Procedure

variable {S : Signature} {σ α : Type}

/-- Request an operation from a procedure; the private state is untouched. -/
def request (op : S.Op) : Procedure S σ (S.Answer op) :=
  fun state ↦ .call op fun answer ↦ .done (answer, state)

/-- End the procedure without returning. -/
def stop (reason : Stop) : Procedure S σ α :=
  fun _ ↦ .stop reason

end Procedure

end TtDal.Effect
