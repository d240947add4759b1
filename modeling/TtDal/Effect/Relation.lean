import TtDal.Effect.Procedure

/-!
# Two programs that make the same requests

Two programs are related when they make the same requests in the same order, whatever the
environment answers, and return related values. Then each run of one is a run of the other.
-/

namespace TtDal.Effect

variable {S : Signature} {W α α' β β' : Type}

namespace Program

inductive Related (relation : α → α' → Prop) : Program S α → Program S α' → Prop where
  | done {value : α} {value' : α'} : relation value value' →
      Related relation (.done value) (.done value')
  | stop {reason : Stop} : Related relation (.stop reason) (.stop reason)
  | call {op : S.Op} {next : S.Answer op → Program S α} {next' : S.Answer op → Program S α'} :
      (∀ answer, Related relation (next answer) (next' answer)) →
      Related relation (.call op next) (.call op next')

variable {relation : α → α' → Prop} {program : Program S α} {program' : Program S α'}
  {contract : Contract S W} {w w' : W} {trace : List (Event S)}

theorem Related.flip (h : Related relation program program') :
    Related (fun value' value ↦ relation value value') program' program := by
  induction h with
  | done hvalue => exact .done hvalue
  | stop => exact .stop
  | call _ ih => exact .call ih

theorem Related.bind {rest : β → β' → Prop} {f : α → Program S β} {f' : α' → Program S β'}
    (h : Related relation program program')
    (hrest : ∀ value value', relation value value' → Related rest (f value) (f' value')) :
    Related rest (program >>= f) (program' >>= f') := by
  induction h with
  | done hvalue => exact hrest _ _ hvalue
  | stop => exact .stop
  | call _ ih => exact .call ih

/-- A returning run of one program is one of the other. -/
theorem Related.executes {value : α} (h : Related relation program program')
    (hrun : Executes contract program w trace (.returned value) w') :
    ∃ value', Executes contract program' w trace (.returned value') w' ∧ relation value value' := by
  induction h generalizing w trace with
  | done hvalue =>
    cases hrun
    exact ⟨_, .done, hvalue⟩
  | stop => cases hrun
  | call _ ih =>
    cases hrun with
    | call hanswer hrest =>
      obtain ⟨value', hrun', hvalue⟩ := ih _ hrest
      exact ⟨value', .call hanswer hrun', hvalue⟩

theorem Related.stops {reason : Stop} (h : Related relation program program')
    (hrun : Executes contract program w trace (.stopped reason) w') :
    Executes contract program' w trace (.stopped reason) w' := by
  induction h generalizing w trace with
  | done hvalue => cases hrun
  | stop =>
    cases hrun
    exact .stop
  | call _ ih =>
    cases hrun with
    | call hanswer hrest => exact .call hanswer (ih _ hrest)

end Program

namespace Procedure

variable {σ τ : Type}

/-- The results and the private states in which two procedures end. -/
abbrev Relation (α σ α' τ : Type) := α → σ → α' → τ → Prop

def Related (relation : Relation α σ α' τ) (procedure : Procedure S σ α)
    (procedure' : Procedure S τ α') (s : σ) (t : τ) : Prop :=
  Program.Related (fun result result' ↦ relation result.1 result.2 result'.1 result'.2)
    (procedure.run s) (procedure'.run t)

section Rules

variable {relation : Relation α σ α' τ} {procedure : Procedure S σ α}
  {procedure' : Procedure S τ α'} {s s' : σ} {t : τ} {contract : Contract S W} {w w' : W}
  {trace : List (Event S)}

theorem related_pure {value : α} {value' : α'} (h : relation value s value' t) :
    Related relation (pure value : Procedure S σ α) (pure value') s t :=
  .done h

theorem Related.bind {rest : Relation β σ β' τ} {f : α → Procedure S σ β}
    {f' : α' → Procedure S τ β'} (h : Related relation procedure procedure' s t)
    (hrest : ∀ value s' value' t', relation value s' value' t' →
      Related rest (f value) (f' value') s' t') :
    Related rest (procedure >>= f) (procedure' >>= f') s t :=
  Program.Related.bind h fun result result' ↦ hrest result.1 result.2 result'.1 result'.2

theorem related_get :
    Related (fun state s' state' t' ↦ state = s ∧ s' = s ∧ state' = t ∧ t' = t)
      (get : Procedure S σ σ) (get : Procedure S τ τ) s t :=
  .done ⟨rfl, rfl, rfl, rfl⟩

theorem related_stop (reason : Stop) :
    Related relation (stop reason) (stop reason : Procedure S τ α') s t :=
  .stop

theorem Related.flip (h : Related relation procedure procedure' s t) :
    Related (fun value' t' value s' ↦ relation value s' value' t') procedure' procedure t s :=
  Program.Related.flip h

theorem Related.executes {value : α} (h : Related relation procedure procedure' s t)
    (hrun : Executes contract procedure s w trace value s' w') :
    ∃ value' t', Executes contract procedure' t w trace value' t' w' ∧
      relation value s' value' t' := by
  obtain ⟨result', hrun', hrelation⟩ := Program.Related.executes h hrun
  exact ⟨result'.1, result'.2, hrun', hrelation⟩

theorem Related.stops {reason : Stop} (h : Related relation procedure procedure' s t)
    (hrun : Stops contract procedure s w trace reason w') :
    Stops contract procedure' t w trace reason w' :=
  Program.Related.stops h hrun

end Rules

end Procedure

end TtDal.Effect
