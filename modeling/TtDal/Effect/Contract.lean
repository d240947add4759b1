import TtDal.Effect.Program

/-!
# Contracts, executions and weakest preconditions

A contract says how an environment with state `W` may answer each request and how its state then
changes, which requests it permits, and which ways of stopping it tolerates. `Executes` is the
operational meaning of a program against a contract, with the trace of its events. `wp` computes
what has to hold before a program so that every execution makes only permitted requests, stops
only in tolerated ways, and returns only in the postcondition.

A postcondition reads the trace of the program it is about, so the same calculus proves facts
about results, about final states, and about the requests made on the way.
-/

namespace TtDal.Effect

variable {S : Signature} {W α β : Type}

structure Contract (S : Signature) (W : Type) where
  /-- The answers the environment may give in a state, with the state after each. -/
  answers : (op : S.Op) → W → S.Answer op → W → Prop
  /-- The requests a program is allowed to make. -/
  permits : S.Op → W → Prop
  /-- The ways to end without returning that are acceptable. -/
  tolerates : Stop → Prop

namespace Contract

/-- The environment may also take steps of its own before it answers. -/
def interleaved (contract : Contract S W) (step : W → W → Prop) : Contract S W where
  answers op w answer w' :=
    ∃ v, Relation.ReflTransGen step w v ∧ contract.answers op v answer w'
  permits op w := ∀ v, Relation.ReflTransGen step w v → contract.permits op v
  tolerates := contract.tolerates

/-- Only the answers that also meet a condition. -/
def restricted (contract : Contract S W) (meets : (op : S.Op) → W → S.Answer op → W → Prop) :
    Contract S W where
  answers op w answer w' := contract.answers op w answer w' ∧ meets op w answer w'
  permits := contract.permits
  tolerates := contract.tolerates

/-- Every answer is possible, and only the listed requests are permitted. -/
def only (allowed : S.Op → Prop) : Contract S Unit where
  answers _ _ _ _ := True
  permits op _ := allowed op
  tolerates _ := True

/-- Every answer is possible, and a program makes listed requests and returns. -/
def confined (allowed : S.Op → Prop) : Contract S Unit where
  answers _ _ _ _ := True
  permits op _ := allowed op
  tolerates _ := False

/-- Every answer to every request is possible. -/
abbrev anything : Contract S Unit := only fun _ ↦ True

end Contract

namespace Program

/-- Executions of a program: the trace, how the run ended and the final environment state. -/
inductive Executes (contract : Contract S W) :
    Program S α → W → List (Event S) → Outcome α → W → Prop where
  | done {value : α} {w : W} : Executes contract (.done value) w [] (.returned value) w
  | stop {reason : Stop} {w : W} : Executes contract (.stop reason) w [] (.stopped reason) w
  | call {op : S.Op} {next : S.Answer op → Program S α} {answer : S.Answer op} {w v w' : W}
      {trace : List (Event S)} {outcome : Outcome α} :
      contract.answers op w answer v → Executes contract (next answer) v trace outcome w' →
      Executes contract (.call op next) w (⟨op, answer⟩ :: trace) outcome w'

/-- Weakest precondition, by recursion over the tree of requests. -/
def wp (contract : Contract S W) :
    Program S α → (List (Event S) → α → W → Prop) → W → Prop
  | .done value, post, w => post [] value w
  | .stop reason, _, _ => contract.tolerates reason
  | .call op next, post, w => contract.permits op w ∧ ∀ answer v,
      contract.answers op w answer v →
        (next answer).wp contract (fun trace ↦ post (⟨op, answer⟩ :: trace)) v

variable {contract : Contract S W}

theorem wp_mono {program : Program S α} {post post' : List (Event S) → α → W → Prop} {w : W}
    (h : program.wp contract post w) (himp : ∀ trace value v, post trace value v →
      post' trace value v) : program.wp contract post' w := by
  induction program generalizing post post' w with
  | done value => exact himp _ _ _ h
  | stop reason => exact h
  | call op next ih =>
    exact ⟨h.1, fun answer v hanswer ↦
      ih answer (h.2 answer v hanswer) fun trace ↦ himp (⟨op, answer⟩ :: trace)⟩

theorem wp_bind (program : Program S α) (f : α → Program S β)
    (post : List (Event S) → β → W → Prop) (w : W) :
    (program >>= f).wp contract post w ↔
      program.wp contract (fun trace value v ↦
        (f value).wp contract (fun rest ↦ post (trace ++ rest)) v) w := by
  induction program generalizing post w with
  | done value => exact Iff.rfl
  | stop reason => exact Iff.rfl
  | call op next ih =>
    exact and_congr Iff.rfl (forall₂_congr fun answer v ↦
      imp_congr Iff.rfl (ih answer (fun trace ↦ post (⟨op, answer⟩ :: trace)) v))

theorem wp_and {program : Program S α} {post post' : List (Event S) → α → W → Prop} {w : W}
    (h : program.wp contract post w) (h' : program.wp contract post' w) :
    program.wp contract (fun trace value v ↦ post trace value v ∧ post' trace value v) w := by
  induction program generalizing post post' w with
  | done value => exact ⟨h, h'⟩
  | stop reason => exact h
  | call op next ih =>
    exact ⟨h.1, fun answer v hanswer ↦ ih answer (h.2 answer v hanswer) (h'.2 answer v hanswer)⟩

/-- Soundness: a returning execution ends in the postcondition. -/
theorem Executes.ensures {program : Program S α} {post : List (Event S) → α → W → Prop}
    {w w' : W} {trace : List (Event S)} {outcome : Outcome α}
    (hrun : Executes contract program w trace outcome w') (hwp : program.wp contract post w)
    (value : α) (hvalue : outcome = .returned value) : post trace value w' := by
  induction hrun generalizing post with
  | done =>
    cases hvalue
    exact hwp
  | stop => cases hvalue
  | call hanswer hrest ih => exact ih (hwp.2 _ _ hanswer) hvalue

/-- Soundness: an execution that stops does so in a tolerated way. -/
theorem Executes.tolerated {program : Program S α} {post : List (Event S) → α → W → Prop}
    {w w' : W} {trace : List (Event S)} {outcome : Outcome α}
    (hrun : Executes contract program w trace outcome w') (hwp : program.wp contract post w)
    (reason : Stop) (hreason : outcome = .stopped reason) : contract.tolerates reason := by
  induction hrun generalizing post with
  | done => cases hreason
  | stop =>
    cases hreason
    exact hwp
  | call hanswer hrest ih => exact ih (hwp.2 _ _ hanswer) hreason

/-- Soundness: every request of an execution was permitted when it was made. -/
theorem Executes.permitted {program : Program S α} {post : List (Event S) → α → W → Prop}
    {w w' : W} {trace : List (Event S)} {outcome : Outcome α}
    (hrun : Executes contract program w trace outcome w') (hwp : program.wp contract post w)
    (event : Event S) (hevent : event ∈ trace) : ∃ v, contract.permits event.op v := by
  induction hrun generalizing post with
  | done => cases hevent
  | stop => cases hevent
  | @call op next answer w v w' trace outcome hanswer hrest ih =>
    rcases List.mem_cons.mp hevent with rfl | htail
    · exact ⟨w, hwp.1⟩
    · exact ih (hwp.2 _ _ hanswer) htail

/-- The requests on the way to a postcondition were permitted. -/
theorem wp_permitted {program : Program S α} {post : List (Event S) → α → W → Prop} {w : W}
    (h : program.wp contract post w) : program.wp contract (fun trace value v ↦
      post trace value v ∧ ∀ event ∈ trace, ∃ v, contract.permits event.op v) w := by
  induction program generalizing post w with
  | done value => exact ⟨h, fun _ hevent ↦ absurd hevent List.not_mem_nil⟩
  | stop reason => exact h
  | call op next ih =>
    refine ⟨h.1, fun answer v hanswer ↦ wp_mono (ih answer (h.2 answer v hanswer)) ?_⟩
    exact fun trace value v' hpost ↦ ⟨hpost.1, List.forall_mem_cons.mpr ⟨⟨w, h.1⟩, hpost.2⟩⟩

/-- Nothing goes wrong where everything is allowed. -/
theorem wp_anything (program : Program S α) :
    program.wp .anything (fun _ _ _ ↦ True) () := by
  induction program with
  | done value => exact trivial
  | stop reason => exact trivial
  | call op next ih => exact ⟨trivial, fun answer _ _ ↦ ih answer⟩

/-- An execution is one of an environment that may answer anything. -/
theorem Executes.anyhow {program : Program S α} {w w' : W} {trace : List (Event S)}
    {outcome : Outcome α} (hrun : Executes contract program w trace outcome w') :
    Executes .anything program () trace outcome () := by
  induction hrun with
  | done => exact .done
  | stop => exact .stop
  | call hanswer hrest ih => exact .call trivial ih

/-- Where every answer is possible, a request may be answered as one likes. -/
theorem Executes.answered {op : S.Op} {next : S.Answer op → Program S α} {answer : S.Answer op}
    {trace : List (Event S)} {outcome : Outcome α}
    (hrest : Executes .anything (next answer) () trace outcome ()) :
    Executes .anything (.call op next) () (⟨op, answer⟩ :: trace) outcome () :=
  .call trivial hrest

/-- Where every permitted request is answered and no way to stop is tolerated, a program
returns. -/
theorem wp_returns {program : Program S α} {post : List (Event S) → α → W → Prop} {w : W}
    (hanswered : ∀ op v, contract.permits op v → ∃ answer v', contract.answers op v answer v')
    (hstops : ∀ reason, ¬contract.tolerates reason) (h : program.wp contract post w) :
    ∃ trace value w', Executes contract program w trace (.returned value) w' ∧
      post trace value w' := by
  induction program generalizing post w with
  | done value => exact ⟨[], value, w, .done, h⟩
  | stop reason => exact absurd h (hstops reason)
  | call op next ih =>
    obtain ⟨answer, v, hanswer⟩ := hanswered op w h.1
    obtain ⟨trace, value, w', hrun, hpost⟩ := ih answer (h.2 answer v hanswer)
    exact ⟨⟨op, answer⟩ :: trace, value, w', .call hanswer hrun, hpost⟩

/-- An execution is also one of every environment that simulates its own. -/
theorem Executes.simulated {V : Type} {wider : Contract S V} {relation : W → V → Prop}
    (hstep : ∀ op w v answer w', relation w v → contract.answers op w answer w' →
      ∃ v', wider.answers op v answer v' ∧ relation w' v')
    {program : Program S α} {w w' : W} {v : V} {trace : List (Event S)} {outcome : Outcome α}
    (hrun : Executes contract program w trace outcome w') (hrelation : relation w v) :
    ∃ v', Executes wider program v trace outcome v' ∧ relation w' v' := by
  induction hrun generalizing v with
  | done => exact ⟨v, .done, hrelation⟩
  | stop => exact ⟨v, .stop, hrelation⟩
  | call hanswer hrest ih =>
    obtain ⟨v₁, hanswer₁, hrelation₁⟩ := hstep _ _ v _ _ hrelation hanswer
    obtain ⟨v', hrun', hrelation'⟩ := ih hrelation₁
    exact ⟨v', .call hanswer₁ hrun', hrelation'⟩

/-- An execution of a sequence is an execution of its first part, followed by one of its second
part when the first part returned. -/
theorem executes_bind {program : Program S α} {f : α → Program S β} {w w' : W}
    {trace : List (Event S)} {value : β} :
    Executes contract (program >>= f) w trace (.returned value) w' ↔
      ∃ first rest middle v, trace = first ++ rest ∧
        Executes contract program w first (.returned middle) v ∧
        Executes contract (f middle) v rest (.returned value) w' := by
  constructor
  · intro h
    induction program generalizing w trace with
    | done middle => exact ⟨[], trace, middle, w, rfl, .done, h⟩
    | stop reason => cases h
    | call op next ih =>
      cases h with
      | call hanswer hrest =>
        obtain ⟨first, rest, middle, v, rfl, hfirst, hsecond⟩ := ih _ hrest
        exact ⟨_ :: first, rest, middle, v, rfl, .call hanswer hfirst, hsecond⟩
  · rintro ⟨first, rest, middle, v, rfl, hfirst, hsecond⟩
    induction program generalizing w first with
    | done middle' =>
      cases hfirst
      exact hsecond
    | stop reason => cases hfirst
    | call op next ih =>
      cases hfirst with
      | call hanswer hrest => exact .call hanswer (ih _ _ hrest)

/-- A sequence that stops does so in its first part, or in its second after the first returned. -/
theorem Executes.bind_stopped {program : Program S α} {f : α → Program S β} {w w' : W}
    {trace : List (Event S)} {reason : Stop}
    (h : Executes contract (program >>= f) w trace (.stopped reason) w') :
    Executes contract program w trace (.stopped reason) w' ∨
      ∃ first rest middle v, trace = first ++ rest ∧
        Executes contract program w first (.returned middle) v ∧
        Executes contract (f middle) v rest (.stopped reason) w' := by
  induction program generalizing w trace with
  | done middle => exact .inr ⟨[], trace, middle, w, rfl, .done, h⟩
  | stop reason' =>
    cases h
    exact .inl .stop
  | call op next ih =>
    cases h with
    | call hanswer hrest =>
      rcases ih _ hrest with hfirst | ⟨first, rest, middle, v, rfl, hfirst, hsecond⟩
      · exact .inl (.call hanswer hfirst)
      · exact .inr ⟨_ :: first, rest, middle, v, rfl, .call hanswer hfirst, hsecond⟩

/-- A program that stops nowhere returns. -/
theorem Executes.not_stopped {program : Program S α} {w w' : W} {trace : List (Event S)}
    {reason : Stop} (h : Executes contract program w trace (.stopped reason) w') :
    ¬program.wp (.confined fun _ ↦ True) (fun _ _ _ ↦ True) () := by
  intro hwp
  have hstep : ∀ op (w : W) (v : Unit) answer w', True → contract.answers op w answer w' →
      ∃ v', (Contract.confined (S := S) fun _ ↦ True).answers op v answer v' ∧ True :=
    fun _ _ _ _ _ _ _ ↦ ⟨(), trivial, trivial⟩
  obtain ⟨_, hrun, -⟩ := h.simulated hstep trivial
  exact hrun.tolerated hwp reason rfl

/-- An invariant that no answer to an allowed request breaks is kept by a program that makes only
allowed requests. What the program returns is found without looking at the environment. -/
theorem wp_invariant {program : Program S α} {allowed : S.Op → Prop} {inv : W → Prop}
    {post : α → Prop} {w : W}
    (hcalls : program.wp (.only allowed) (fun _ value _ ↦ post value) ())
    (hpermits : ∀ op v, allowed op → inv v → contract.permits op v)
    (htolerates : ∀ reason, contract.tolerates reason)
    (hstep : ∀ op v answer v', allowed op → inv v → contract.answers op v answer v' → inv v')
    (hinv : inv w) : program.wp contract (fun _ value w' ↦ post value ∧ inv w') w := by
  induction program generalizing w with
  | done value => exact ⟨hcalls, hinv⟩
  | stop reason => exact htolerates reason
  | call op next ih =>
    refine ⟨hpermits op w hcalls.1 hinv, fun answer v hanswer ↦ ?_⟩
    exact ih answer (hcalls.2 answer () trivial) (hstep op w answer v hcalls.1 hinv hanswer)

variable {V : Type} {abstract : Contract S W} {concrete : Contract S V}

/-- What is proved against a contract holds against every environment that simulates it. The
relation ties the states of the two. The simulation is only needed for what the program may
request and for the ways in which it may stop, whatever it is answered. -/
theorem wp_refines {calls : Contract S Unit} {program : Program S α} {relation : V → W → Prop}
    {post : List (Event S) → α → W → Prop} {v : V} {w : W}
    (hanswers : ∀ op answer, calls.answers op () answer ())
    (hstep : ∀ op v w answer v', calls.permits op () → relation v w →
      concrete.answers op v answer v' → ∃ w', abstract.answers op w answer w' ∧ relation v' w')
    (hpermits : ∀ op v w, calls.permits op () → relation v w → abstract.permits op w →
      concrete.permits op v)
    (htolerates : ∀ reason, calls.tolerates reason → abstract.tolerates reason →
      concrete.tolerates reason)
    (hcalls : program.wp calls (fun _ _ _ ↦ True) ())
    (h : program.wp abstract post w) (hrelation : relation v w) :
    program.wp concrete (fun trace value v' ↦ ∃ w', relation v' w' ∧ post trace value w') v := by
  induction program generalizing post v w with
  | done value => exact ⟨w, hrelation, h⟩
  | stop reason => exact htolerates reason hcalls h
  | call op next ih =>
    refine ⟨hpermits op v w hcalls.1 hrelation h.1, fun answer v' hanswer ↦ ?_⟩
    obtain ⟨w', hanswer', hrelation'⟩ := hstep op v w answer v' hcalls.1 hrelation hanswer
    exact ih answer (hcalls.2 answer () (hanswers op answer)) (h.2 answer w' hanswer') hrelation'

/-- In every environment that permits the listed requests. -/
theorem wp_confined {program : Program S α} {allowed : S.Op → Prop}
    {post : List (Event S) → α → Prop} {v : V}
    (h : program.wp (.confined allowed) (fun trace value _ ↦ post trace value) ())
    (hpermits : ∀ op v, allowed op → concrete.permits op v) :
    program.wp concrete (fun trace value _ ↦ post trace value) v := by
  have hcalls : program.wp (.confined allowed) (fun _ _ _ ↦ True) () :=
    wp_mono h fun _ _ _ _ ↦ trivial
  have htolerates (reason : Stop) (hreason : (Contract.confined allowed).tolerates reason) :
      (Contract.confined allowed).tolerates reason → concrete.tolerates reason :=
    fun _ ↦ False.elim hreason
  have hrefines : program.wp concrete (fun trace value _ ↦ ∃ _ : Unit, True ∧ post trace value) v :=
    wp_refines (fun _ _ ↦ trivial) (fun _ _ _ _ _ _ _ _ ↦ ⟨(), trivial, trivial⟩)
      (fun op v _ hop _ _ ↦ hpermits op v hop) htolerates hcalls h trivial
  refine wp_mono hrefines fun _ _ _ hpost ↦ ?_
  obtain ⟨-, -, hpost⟩ := hpost
  exact hpost

end Program

/-- An invariant of the environment's own steps and of its answers is one of both interleaved. -/
theorem Contract.interleaved_invariant {contract : Contract S W} {step : W → W → Prop}
    {allowed : S.Op → Prop} {inv : W → Prop} (hdrift : ∀ v v', inv v → step v v' → inv v')
    (hstep : ∀ op v answer v', allowed op → inv v → contract.answers op v answer v' → inv v')
    (op : S.Op) (v : W) (answer : S.Answer op) (v' : W) (hallowed : allowed op) (hinv : inv v)
    (hanswer : (contract.interleaved step).answers op v answer v') : inv v' := by
  obtain ⟨u, hsteps, hanswer⟩ := hanswer
  have hu : inv u := by
    clear hanswer
    induction hsteps with
    | refl => exact hinv
    | tail _ hlast ih => exact hdrift _ _ ih hlast
  exact hstep op u answer v' hallowed hu hanswer

end TtDal.Effect
