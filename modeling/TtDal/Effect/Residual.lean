import TtDal.Effect.Contract

/-!
# Programs under way

Programs of several clients may run over one environment, one request of one client at a time.
`Steps` is the answer to the next request of a program that is under way. What a client may still
request is known from a protocol, a contract over a state of the client's own that is followed
along the program's steps.
-/

namespace TtDal.Effect.Program

variable {S : Signature} {W V α : Type}

/-- The next request is answered. -/
inductive Steps (contract : Contract S W) :
    Program S α → W → Event S → Program S α → W → Prop where
  | call {op : S.Op} {next : S.Answer op → Program S α} {answer : S.Answer op} {w w' : W} :
      contract.answers op w answer w' →
      Steps contract (.call op next) w ⟨op, answer⟩ (next answer) w'

variable {contract : Contract S W} {protocol : Contract S V} {program program' : Program S α}
  {post : List (Event S) → α → V → Prop} {event : Event S} {w w' : W} {v v' : V}

theorem Steps.answered (h : Steps contract program w event program' w') :
    contract.answers event.op w event.answer w' := by
  cases h with
  | call hanswer => exact hanswer

/-- A program that follows a protocol makes a permitted request, and what is left of it follows
the protocol from the next state. -/
theorem Steps.follows (h : Steps contract program w event program' w')
    (hwp : program.wp protocol post v) :
    protocol.permits event.op v ∧ ∀ v', protocol.answers event.op v event.answer v' →
      program'.wp protocol (fun trace ↦ post (event :: trace)) v' := by
  cases h with
  | call hanswer => exact ⟨hwp.1, fun v' ↦ hwp.2 _ v'⟩

end TtDal.Effect.Program
