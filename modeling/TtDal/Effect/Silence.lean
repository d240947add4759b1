import TtDal.Effect.Handler

/-!
# Programs that differ in silent requests

Some requests of a program are silent: the environment always answers them and is not affected.
Two programs are similar when they make the same requests in the same order but for silent ones,
whatever the environment answers, and end in related ways. Then each run of one is matched by a
run of the other with the same visible trace.
-/

namespace TtDal.Effect

variable {S : Signature} {W α α' β β' : Type}

/-- Silent requests are answered in every state, and the state stays. -/
structure Contract.Hushes (contract : Contract S W) (silent : S.Op → Prop) : Prop where
  answered : ∀ op w, silent op → ∃ answer, contract.answers op w answer w
  still : ∀ op w answer w', silent op → contract.answers op w answer w' → w' = w

/-- The events that are not silent. -/
def visible (silent : S.Op → Prop) [DecidablePred silent] (trace : List (Event S)) :
    List (Event S) :=
  trace.filter fun event ↦ ¬silent event.op

inductive Outcome.Matches (relation : α → α' → Prop) : Outcome α → Outcome α' → Prop where
  | returned {value : α} {value' : α'} : relation value value' →
      Matches relation (.returned value) (.returned value')
  | stopped {reason : Stop} : Matches relation (.stopped reason) (.stopped reason)

namespace Program

inductive Similar (silent : S.Op → Prop) (relation : α → α' → Prop) :
    Program S α → Program S α' → Prop where
  | done {value : α} {value' : α'} : relation value value' →
      Similar silent relation (.done value) (.done value')
  | stop {reason : Stop} : Similar silent relation (.stop reason) (.stop reason)
  | call {op : S.Op} {next : S.Answer op → Program S α} {next' : S.Answer op → Program S α'} :
      (∀ answer, Similar silent relation (next answer) (next' answer)) →
      Similar silent relation (.call op next) (.call op next')
  | first {op : S.Op} {next : S.Answer op → Program S α} {program' : Program S α'} :
      silent op → (∀ answer, Similar silent relation (next answer) program') →
      Similar silent relation (.call op next) program'
  | second {op : S.Op} {program : Program S α} {next' : S.Answer op → Program S α'} :
      silent op → (∀ answer, Similar silent relation program (next' answer)) →
      Similar silent relation program (.call op next')

variable {silent : S.Op → Prop} {relation : α → α' → Prop} {program : Program S α}
  {program' : Program S α'}

theorem Similar.mono {relation' : α → α' → Prop} (h : Similar silent relation program program')
    (himp : ∀ value value', relation value value' → relation' value value') :
    Similar silent relation' program program' := by
  induction h with
  | done hvalue => exact .done (himp _ _ hvalue)
  | stop => exact .stop
  | call _ ih => exact .call ih
  | first hsilent _ ih => exact .first hsilent ih
  | second hsilent _ ih => exact .second hsilent ih

theorem Similar.bind {rest : β → β' → Prop} {f : α → Program S β} {f' : α' → Program S β'}
    (h : Similar silent relation program program')
    (hrest : ∀ value value', relation value value' →
      Similar silent rest (f value) (f' value')) :
    Similar silent rest (program >>= f) (program' >>= f') := by
  induction h with
  | done hvalue => exact hrest _ _ hvalue
  | stop => exact .stop
  | call _ ih => exact .call ih
  | first hsilent _ ih => exact .first hsilent ih
  | second hsilent _ ih => exact .second hsilent ih

/-- A run of one program is matched by a run of the other. -/
theorem Similar.executes [DecidablePred silent] {contract : Contract S W} {w w' : W}
    {trace : List (Event S)} {outcome : Outcome α} (h : Similar silent relation program program')
    (hsilent : contract.Hushes silent)
    (hrun : Executes contract program w trace outcome w') :
    ∃ trace' outcome', Executes contract program' w trace' outcome' w' ∧
      visible silent trace' = visible silent trace ∧ outcome.Matches relation outcome' := by
  induction h generalizing w trace with
  | done hvalue =>
    cases hrun
    exact ⟨[], _, .done, rfl, .returned hvalue⟩
  | stop =>
    cases hrun
    exact ⟨[], _, .stop, rfl, .stopped⟩
  | @call op _ _ _ ih =>
    cases hrun with
    | @call _ _ answer _ v _ _ _ hanswer hrest =>
      obtain ⟨trace', outcome', hrun', hvisible, hmatches⟩ := ih answer hrest
      refine ⟨⟨op, answer⟩ :: trace', outcome', .call hanswer hrun', ?_, hmatches⟩
      unfold visible at hvisible ⊢
      rw [List.filter_cons, List.filter_cons, hvisible]
  | first hop _ ih =>
    cases hrun with
    | call hanswer hrest =>
      obtain rfl := hsilent.still _ _ _ _ hop hanswer
      obtain ⟨trace', outcome', hrun', hvisible, hmatches⟩ := ih _ hrest
      refine ⟨trace', outcome', hrun', hvisible.trans ?_, hmatches⟩
      simp [visible, hop]
  | @second op _ _ hop _ ih =>
    obtain ⟨answer, hanswer⟩ := hsilent.answered op w hop
    obtain ⟨trace', outcome', hrun', hvisible, hmatches⟩ := ih answer hrun
    refine ⟨⟨op, answer⟩ :: trace', outcome', .call hanswer hrun', ?_, hmatches⟩
    rw [← hvisible]
    simp [visible, hop]

end Program

namespace Procedure

variable {σ τ : Type}

/-- The two procedures, started in the two private states, are similar. -/
def Similar (silent : S.Op → Prop) (relation : α → σ → α' → τ → Prop)
    (procedure : Procedure S σ α) (procedure' : Procedure S τ α') (s : σ) (t : τ) : Prop :=
  Program.Similar silent (fun result result' ↦ relation result.1 result.2 result'.1 result'.2)
    (procedure.run s) (procedure'.run t)

variable {silent : S.Op → Prop} {relation : α → σ → α' → τ → Prop} {procedure : Procedure S σ α}
  {procedure' : Procedure S τ α'} {s : σ} {t : τ}

theorem Similar.mono {relation' : α → σ → α' → τ → Prop}
    (h : Similar silent relation procedure procedure' s t)
    (himp : ∀ value s' value' t', relation value s' value' t' → relation' value s' value' t') :
    Similar silent relation' procedure procedure' s t :=
  Program.Similar.mono h fun result result' ↦ himp result.1 result.2 result'.1 result'.2

theorem Similar.bind {rest : β → σ → β' → τ → Prop} {f : α → Procedure S σ β}
    {f' : α' → Procedure S τ β'} (h : Similar silent relation procedure procedure' s t)
    (hrest : ∀ value s' value' t', relation value s' value' t' →
      Similar silent rest (f value) (f' value') s' t') :
    Similar silent rest (procedure >>= f) (procedure' >>= f') s t :=
  Program.Similar.bind h fun result result' ↦ hrest result.1 result.2 result'.1 result'.2

/-- A client cannot tell private states apart that no operation it uses tells apart. -/
theorem similar_handle {T : Signature} {alike : σ → σ → Prop} {allowed : T.Op → Prop}
    {serve : (op : T.Op) → Procedure S σ (T.Answer op)}
    (hserve : ∀ op s t, allowed op → alike s t → Similar silent (fun answer s' answer' t' ↦
      answer' = answer ∧ alike s' t') (serve op) (serve op) s t)
    {client : Program T α} (hclient : client.wp (.only allowed) (fun _ _ _ ↦ True) ()) {s t : σ}
    (h : alike s t) :
    Similar silent (fun value s' value' t' ↦ value' = value ∧ alike s' t')
      (client.handle serve) (client.handle serve) s t := by
  induction client generalizing s t with
  | done value => exact .done ⟨rfl, h⟩
  | stop reason => exact .stop
  | call op next ih =>
    refine (hserve op s t hclient.1 h).bind fun answer s' answer' t' hserved ↦ ?_
    obtain ⟨rfl, halike⟩ := hserved
    exact ih answer' (hclient.2 answer' () trivial) halike

end Procedure

end TtDal.Effect
