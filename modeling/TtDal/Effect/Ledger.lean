import TtDal.Effect.Procedure

/-!
# Ledgers

A ledger keeps account of what a program holds. It says what each request uses, which answers are
genuine, and what is held after an event. As a contract it lets a program make only requests whose
use is covered. A program that meets a specification against that contract uses, on each of its
runs with genuine answers, only what it holds at the time, in whatever environment it runs.
-/

namespace TtDal.Effect

structure Ledger (S : Signature) (H : Type) where
  /-- What the request uses is held. -/
  covers : H → S.Op → Prop
  /-- The answer may be given where this is held. -/
  genuine : H → Event S → Prop
  after : H → Event S → H

namespace Ledger

variable {S : Signature} {H W σ α : Type} (ledger : Ledger S H)

def contract : Contract S H where
  answers op held answer held' :=
    ledger.genuine held ⟨op, answer⟩ ∧ held' = ledger.after held ⟨op, answer⟩
  permits op held := ledger.covers held op
  tolerates _ := True

section Runs

variable {ledger} {contract : Contract S W} {held : H} {w w' : W} {trace : List (Event S)}

variable {procedure : Procedure S σ α} {post : Procedure.Post S α σ H} {s s' : σ} {value : α}

end Runs

end Ledger

end TtDal.Effect
