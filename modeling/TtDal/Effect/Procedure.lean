import TtDal.Effect.Contract

/-!
# The calculus for procedures with a private state

The rules below turn the weakest precondition of a `do` block into those of its steps. They form
the simp set with which a procedure is executed symbolically: after `simp only`, what is left
ranges over the answers of the environment.
-/

namespace TtDal.Effect.Procedure

variable {S : Signature} {W σ ε α β : Type} {contract : Contract S W}

/-- Returning executions of a procedure. -/
def Executes (contract : Contract S W) (procedure : Procedure S σ α) (s : σ) (w : W)
    (trace : List (Event S)) (value : α) (s' : σ) (w' : W) : Prop :=
  Program.Executes contract (procedure.run s) w trace (.returned (value, s')) w'

/-- The procedure started in state `s` may end without returning. -/
def Stops (contract : Contract S W) (procedure : Procedure S σ α) (s : σ) (w : W)
    (trace : List (Event S)) (reason : Stop) (w' : W) : Prop :=
  Program.Executes contract (procedure.run s) w trace (.stopped reason) w'

/-- A postcondition reads the trace, the result, the private state and the environment. -/
abbrev Post (S : Signature) (α σ W : Type) := List (Event S) → α → σ → W → Prop

def wp (contract : Contract S W) (procedure : Procedure S σ α) (post : Post S α σ W)
    (s : σ) (w : W) : Prop :=
  (procedure.run s).wp contract (fun trace result v ↦ post trace result.1 result.2 v) w

section Rules

variable {post post' : Post S α σ W} {s : σ} {w : W}

@[simp]
theorem wp_pure (value : α) :
    wp contract (pure value) post s w ↔ post [] value s w := Iff.rfl

@[simp]
theorem wp_bind (procedure : Procedure S σ α) (f : α → Procedure S σ β) (post : Post S β σ W) :
    wp contract (procedure >>= f) post s w ↔
      wp contract procedure (fun trace value s' w' ↦
        wp contract (f value) (fun rest ↦ post (trace ++ rest)) s' w') s w :=
  Program.wp_bind _ _ _ _

@[simp]
theorem wp_map (f : α → β) (procedure : Procedure S σ α) (post : Post S β σ W) :
    wp contract (f <$> procedure) post s w ↔
      wp contract procedure (fun trace value ↦ post trace (f value)) s w := by
  rw [map_eq_pure_bind, wp_bind]
  simp

@[simp]
theorem wp_request (op : S.Op) (post : Post S (S.Answer op) σ W) :
    @wp S W σ (no_index S.Answer op) contract (request op) post s w ↔
      contract.permits op w ∧ ∀ answer v, contract.answers op w answer v →
        post [⟨op, answer⟩] answer s v := Iff.rfl

@[simp]
theorem wp_stop (reason : Stop) :
    wp contract (stop reason) post s w ↔ contract.tolerates reason := Iff.rfl

@[simp]
theorem wp_get (post : Post S σ σ W) :
    wp contract (get : Procedure S σ σ) post s w ↔ post [] s s w := Iff.rfl

@[simp]
theorem wp_set (s' : σ) (post : Post S PUnit σ W) :
    wp contract (set s' : Procedure S σ PUnit) post s w ↔ post [] ⟨⟩ s' w := Iff.rfl

@[simp]
theorem wp_modify (f : σ → σ) (post : Post S PUnit σ W) :
    wp contract (modify f : Procedure S σ PUnit) post s w ↔ post [] ⟨⟩ (f s) w := Iff.rfl

theorem wp_mono {procedure : Procedure S σ α} (h : wp contract procedure post s w)
    (himp : ∀ trace value s' w', post trace value s' w' → post' trace value s' w') :
    wp contract procedure post' s w :=
  Program.wp_mono h fun trace result ↦ himp trace result.1 result.2

theorem wp_and {procedure : Procedure S σ α} (h : wp contract procedure post s w)
    (h' : wp contract procedure post' s w) :
    wp contract procedure (fun trace value s' w' ↦
      post trace value s' w' ∧ post' trace value s' w') s w :=
  Program.wp_and h h'

theorem wp_permitted {procedure : Procedure S σ α} (h : wp contract procedure post s w) :
    wp contract procedure (fun trace value s' w' ↦ post trace value s' w' ∧
      ∀ event ∈ trace, ∃ v, contract.permits event.op v) s w :=
  Program.wp_permitted h

theorem wp_anything (procedure : Procedure S σ α) (s : σ) :
    wp .anything procedure (fun _ _ _ _ ↦ True) s () :=
  Program.wp_anything (procedure.run s)

/-- The rule for calling a procedure through its specification. -/
theorem wp_call {procedure : Procedure S σ α} {f : α → Procedure S σ β}
    {spec : Post S α σ W} {post : Post S β σ W} (h : wp contract procedure spec s w)
    (hrest : ∀ trace value s' w', spec trace value s' w' →
      wp contract (f value) (fun rest ↦ post (trace ++ rest)) s' w') :
    wp contract (procedure >>= f) post s w :=
  (wp_bind procedure f post).mpr (wp_mono h hrest)

/-- The rule for a procedure whose allowed requests all keep an invariant of the environment. -/
theorem wp_invariant {procedure : Procedure S σ α} {allowed : S.Op → Prop} {inv : W → Prop}
    {returns : α → σ → Prop}
    (hcalls : wp (.only allowed) procedure (fun _ value s' _ ↦ returns value s') s ())
    (hpermits : ∀ op v, allowed op → inv v → contract.permits op v)
    (htolerates : ∀ reason, contract.tolerates reason)
    (hstep : ∀ op v answer v', allowed op → inv v → contract.answers op v answer v' → inv v')
    (hinv : inv w) :
    wp contract procedure (fun _ value s' w' ↦ returns value s' ∧ inv w') s w := by
  let returnsPair : α × σ → Prop := fun result ↦ returns result.1 result.2
  have hpair : Program.wp (.only allowed) (procedure.run s)
      (fun _ result _ ↦ returnsPair result) () := hcalls
  exact Program.wp_invariant hpair hpermits htolerates hstep hinv

/-- A specification carries over to every environment that simulates its contract. -/
theorem wp_refines {V : Type} {calls : Contract S Unit} {concrete : Contract S V}
    {procedure : Procedure S σ α} {relation : V → W → Prop} {v : V}
    (hanswers : ∀ op answer, calls.answers op () answer ())
    (hstep : ∀ op v w answer v', calls.permits op () → relation v w →
      concrete.answers op v answer v' → ∃ w', contract.answers op w answer w' ∧ relation v' w')
    (hpermits : ∀ op v w, calls.permits op () → relation v w → contract.permits op w →
      concrete.permits op v)
    (htolerates : ∀ reason, calls.tolerates reason → contract.tolerates reason →
      concrete.tolerates reason)
    (hcalls : wp calls procedure (fun _ _ _ _ ↦ True) s ())
    (h : wp contract procedure post s w) (hrelation : relation v w) :
    wp concrete procedure
      (fun trace value s' v' ↦ ∃ w', relation v' w' ∧ post trace value s' w') s v :=
  Program.wp_refines hanswers hstep hpermits htolerates hcalls h hrelation

/-- A specification carries over to a contract that answers alike and permits more. -/
theorem wp_relaxed {relaxed : Contract S W} {procedure : Procedure S σ α}
    (hanswers : ∀ op w answer w', relaxed.answers op w answer w' →
      contract.answers op w answer w')
    (hpermits : ∀ op w, contract.permits op w → relaxed.permits op w)
    (htolerates : ∀ reason, contract.tolerates reason → relaxed.tolerates reason)
    (h : wp contract procedure post s w) : wp relaxed procedure post s w := by
  have hstep : ∀ op v w answer v', (Contract.anything (S := S)).permits op () → v = w →
      relaxed.answers op v answer v' → ∃ w', contract.answers op w answer w' ∧ v' = w' := by
    rintro op v _ answer v' - rfl hanswer
    exact ⟨v', hanswers op v answer v' hanswer, rfl⟩
  have hpermitted : ∀ op v w, (Contract.anything (S := S)).permits op () → v = w →
      contract.permits op w → relaxed.permits op v := by
    rintro op v _ - rfl hpermit
    exact hpermits op v hpermit
  refine wp_mono (wp_refines (fun _ _ ↦ trivial) hstep hpermitted
    (fun reason _ ↦ htolerates reason) (wp_anything procedure s) h rfl) ?_
  rintro trace value s' v' ⟨_, rfl, hpost⟩
  exact hpost

theorem wp_restricted {procedure : Procedure S σ α}
    {meets : (op : S.Op) → W → S.Answer op → W → Prop} (h : wp contract procedure post s w) :
    wp (contract.restricted meets) procedure post s w :=
  wp_relaxed (fun _ _ _ _ hanswer ↦ hanswer.1) (fun _ _ hpermit ↦ hpermit)
    (fun _ htolerate ↦ htolerate) h

/-- What is found without looking at the environment holds in every environment that permits the
requests. -/
theorem wp_confined {procedure : Procedure S σ α} {allowed : S.Op → Prop}
    {post : List (Event S) → α → σ → Prop}
    (h : wp (.confined allowed) procedure (fun trace value s' _ ↦ post trace value s') s ())
    (hpermits : ∀ op v, allowed op → contract.permits op v) :
    wp contract procedure (fun trace value s' _ ↦ post trace value s') s w := by
  let postPair : List (Event S) → α × σ → Prop := fun trace result ↦ post trace result.1 result.2
  have hpair : Program.wp (.confined allowed) (procedure.run s)
      (fun trace result _ ↦ postPair trace result) () := h
  exact Program.wp_confined hpair hpermits

end Rules

/-! ## Invariants of the environment -/

/-- Whatever private state it starts in, the procedure keeps an invariant of the environment. -/
def Keeps (contract : Contract S W) (inv : W → Prop) (procedure : Procedure S σ α) : Prop :=
  ∀ s w, inv w → wp contract procedure (fun _ _ _ w' ↦ inv w') s w

section Keeps

variable {inv : W → Prop}

theorem keeps_pure (value : α) : Keeps contract inv (pure value : Procedure S σ α) :=
  fun _ _ hinv ↦ hinv

theorem Keeps.bind {procedure : Procedure S σ α} {f : α → Procedure S σ β}
    (h : Keeps contract inv procedure) (hf : ∀ value, Keeps contract inv (f value)) :
    Keeps contract inv (procedure >>= f) :=
  fun s w hinv ↦ wp_call (h s w hinv) fun _ value s' w' hinv' ↦ hf value s' w' hinv'

theorem keeps_stop (reason : Stop) (h : contract.tolerates reason) :
    Keeps contract inv (stop reason : Procedure S σ α) :=
  fun _ _ _ ↦ h

/-- The rule for a call whose result only matters to what follows. -/
theorem Keeps.wp_call {procedure : Procedure S σ α} {f : α → Procedure S σ β}
    {post : Post S β σ W} {s : σ} {w : W} (h : Keeps contract inv procedure) (hinv : inv w)
    (hrest : ∀ trace value s' w', inv w' →
      wp contract (f value) (fun rest ↦ post (trace ++ rest)) s' w') :
    wp contract (procedure >>= f) post s w :=
  Procedure.wp_call (h s w hinv) hrest

end Keeps

section Soundness

variable {procedure : Procedure S σ α} {post : Post S α σ W} {s s' : σ} {w w' : W}
  {trace : List (Event S)} {value : α}

theorem Executes.ensures (hrun : Executes contract procedure s w trace value s' w')
    (hwp : wp contract procedure post s w) : post trace value s' w' :=
  Program.Executes.ensures hrun hwp (value, s') rfl

/-- What holds in every environment holds in each. -/
theorem Executes.always {returns : List (Event S) → α → σ → Prop}
    (hrun : Executes contract procedure s w trace value s' w')
    (hwp : wp .anything procedure (fun trace value s' _ ↦ returns trace value s') s ()) :
    returns trace value s' :=
  Program.Executes.ensures (Program.Executes.anyhow hrun) hwp (value, s') rfl

theorem Stops.tolerated {reason : Stop} (hstop : Stops contract procedure s w trace reason w')
    (hwp : wp contract procedure post s w) : contract.tolerates reason :=
  Program.Executes.tolerated hstop hwp reason rfl

/-- Where everything is answered, a procedure returns. -/
theorem wp_returns
    (hanswered : ∀ op v, contract.permits op v → ∃ answer v', contract.answers op v answer v')
    (hstops : ∀ reason, ¬contract.tolerates reason) (h : wp contract procedure post s w) :
    ∃ trace value s' w', Executes contract procedure s w trace value s' w' ∧
      post trace value s' w' := by
  obtain ⟨trace, result, w', hrun, hpost⟩ := Program.wp_returns hanswered hstops h
  exact ⟨trace, result.1, result.2, w', hrun, hpost⟩

/-- Some run returns, none stops, and every run that returns meets the postcondition. -/
structure Completes (contract : Contract S W) (procedure : Procedure S σ α) (s : σ) (w : W)
    (post : Post S α σ W) : Prop where
  returns : ∃ trace value s' w', Executes contract procedure s w trace value s' w'
  unstopped : ∀ trace reason w', ¬Stops contract procedure s w trace reason w'
  ensures : ∀ trace value s' w', Executes contract procedure s w trace value s' w' →
    post trace value s' w'

theorem wp_completes
    (hanswered : ∀ op v, contract.permits op v → ∃ answer v', contract.answers op v answer v')
    (hstops : ∀ reason, ¬contract.tolerates reason) (h : wp contract procedure post s w) :
    Completes contract procedure s w post where
  returns := by
    obtain ⟨trace, value, s', w', hrun, -⟩ := wp_returns hanswered hstops h
    exact ⟨trace, value, s', w', hrun⟩
  unstopped _ reason _ hstop := hstops reason (hstop.tolerated h)
  ensures _ _ _ _ hrun := hrun.ensures h

theorem Completes.mono {post' : Post S α σ W} (h : Completes contract procedure s w post)
    (himp : ∀ trace value s' w', post trace value s' w' → post' trace value s' w') :
    Completes contract procedure s w post' where
  returns := h.returns
  unstopped := h.unstopped
  ensures trace value s' w' hrun := himp trace value s' w' (h.ensures trace value s' w' hrun)

/-- Two descriptions of the runs have a result in common. -/
theorem Completes.common {post' : Post S α σ W} (h : Completes contract procedure s w post)
    (h' : Completes contract procedure s w post') :
    ∃ trace value s' w', post trace value s' w' ∧ post' trace value s' w' := by
  obtain ⟨trace, value, s', w', hrun⟩ := h.returns
  exact ⟨trace, value, s', w', h.ensures _ _ _ _ hrun, h'.ensures _ _ _ _ hrun⟩

theorem executes_pure {value' : α} :
    Executes contract (pure value : Procedure S σ α) s w trace value' s' w' ↔
      trace = [] ∧ value' = value ∧ s' = s ∧ w' = w := by
  constructor
  · intro h
    cases h
    exact ⟨rfl, rfl, rfl, rfl⟩
  · rintro ⟨rfl, rfl, rfl, rfl⟩
    exact .done

theorem executes_bind {f : α → Procedure S σ β} {result : β} :
    Executes contract (procedure >>= f) s w trace result s' w' ↔
      ∃ first rest middle t v, trace = first ++ rest ∧
        Executes contract procedure s w first middle t v ∧
        Executes contract (f middle) t v rest result s' w' := by
  constructor
  · intro h
    obtain ⟨first, rest, middle, v, htrace, hfirst, hsecond⟩ := Program.executes_bind.mp h
    exact ⟨first, rest, middle.1, middle.2, v, htrace, hfirst, hsecond⟩
  · rintro ⟨first, rest, middle, t, v, htrace, hfirst, hsecond⟩
    exact Program.executes_bind.mpr ⟨first, rest, (middle, t), v, htrace, hfirst, hsecond⟩

theorem Stops.bind {f : α → Procedure S σ β} {reason : Stop}
    (h : Stops contract (procedure >>= f) s w trace reason w') :
    Stops contract procedure s w trace reason w' ∨
      ∃ first rest middle t v, trace = first ++ rest ∧
        Executes contract procedure s w first middle t v ∧
        Stops contract (f middle) t v rest reason w' := by
  rcases Program.Executes.bind_stopped h with
    hfirst | ⟨first, rest, middle, v, htrace, hfirst, hsecond⟩
  · exact .inl hfirst
  · exact .inr ⟨first, rest, middle.1, middle.2, v, htrace, hfirst, hsecond⟩

/-- The rule for a sequence whose first part always returns. -/
theorem Stops.after {f : α → Procedure S σ β} {reason : Stop}
    (h : Stops contract (procedure >>= f) s w trace reason w')
    (hreturns : wp (.confined fun _ ↦ True) procedure (fun _ _ _ _ ↦ True) s ()) :
    ∃ first rest middle t v, trace = first ++ rest ∧
      Executes contract procedure s w first middle t v ∧
      Stops contract (f middle) t v rest reason w' := by
  rcases h.bind with hfirst | hrest
  · exact absurd hreturns (Program.Executes.not_stopped hfirst)
  · exact hrest

theorem executes_map {f : α → β} {result : β} :
    Executes contract (f <$> procedure) s w trace result s' w' ↔
      ∃ value, result = f value ∧ Executes contract procedure s w trace value s' w' := by
  rw [map_eq_pure_bind, executes_bind]
  constructor
  · rintro ⟨first, rest, middle, t, v, rfl, hfirst, hrest⟩
    obtain ⟨rfl, rfl, rfl, rfl⟩ := executes_pure.mp hrest
    rw [List.append_nil]
    exact ⟨middle, rfl, hfirst⟩
  · rintro ⟨middle, rfl, hrun⟩
    exact ⟨trace, [], middle, s', w', (List.append_nil _).symm, hrun,
      executes_pure.mpr ⟨rfl, rfl, rfl, rfl⟩⟩

end Soundness

end TtDal.Effect.Procedure
