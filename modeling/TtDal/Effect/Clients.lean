import TtDal.Effect.Procedure
import TtDal.Effect.Residual
import TtDal.Effect.System
import Mathlib.Logic.Function.Basic

/-!
# Clients that call concurrently

Any number of clients call procedures over one environment. Each makes one call at a time, and the
requests of all calls interleave. The environment may also take steps of its own.

A footprint says which part of the environment concerns each client, what the client's own requests
do to that part, and what the requests of others may do to it. A specification of the calls of one
client alone, in which others may interfere before each answer, then holds of every client in every
run. It speaks about the calls that returned, so it is a specification of the calls as if each was
made at once.
-/

namespace TtDal.Effect

/-- What clients may call, and what the environment is to each of them. -/
structure Service (S : Signature) (Client Request Result σ W : Type) where
  run : Client → Request → Procedure S σ Result
  contract : Client → Contract S W
  /-- The steps of the environment's own. -/
  drifts : W → W → Prop

namespace Service

variable {S : Signature} {Client Request Result σ W V : Type}

structure State (S : Signature) (Client Request Result σ W : Type) where
  world : W
  /-- The private state of each client between its calls. -/
  thread : Client → σ
  /-- The call each client has under way, and what is left of it. -/
  calls : Client → Option (Request × Program S (Result × σ))
  /-- The calls that returned, the last one first. -/
  history : Client → List (Request × Result)

/-- The client has no call under way. -/
def State.Idle (s : State S Client Request Result σ W) (client : Client) : Prop :=
  s.calls client = none

inductive Label (S : Signature) (Client Request Result : Type) where
  | begins (client : Client) (request : Request)
  | acts (client : Client) (event : Event S)
  | returns (client : Client) (request : Request) (result : Result)
  | drifts

section Runs

variable [DecidableEq Client]

inductive Moves (service : Service S Client Request Result σ W) :
    State S Client Request Result σ W → Label S Client Request Result →
      State S Client Request Result σ W → Prop where
  | begins {s : State S Client Request Result σ W} {client : Client} {request : Request} :
      s.Idle client → Moves service s (.begins client request) { s with
        calls := Function.update s.calls client
          (some (request, (service.run client request).run (s.thread client))) }
  | acts {s : State S Client Request Result σ W} {client : Client} {request : Request}
      {program left : Program S (Result × σ)} {event : Event S} {world : W} :
      s.calls client = some (request, program) →
      Program.Steps (service.contract client) program s.world event left world →
      Moves service s (.acts client event) { s with
        world := world
        calls := Function.update s.calls client (some (request, left)) }
  | returns {s : State S Client Request Result σ W} {client : Client} {request : Request}
      {result : Result} {thread : σ} :
      s.calls client = some (request, .done (result, thread)) →
      Moves service s (.returns client request result) { s with
        thread := Function.update s.thread client thread
        calls := Function.update s.calls client none
        history := Function.update s.history client
          ((request, result) :: s.history client) }
  | drifts {s : State S Client Request Result σ W} {world : W} : service.drifts s.world world →
      Moves service s .drifts { s with world := world }

/-- Nobody has made a call. -/
structure Starts (starts : W → Prop) (s : State S Client Request Result σ W) : Prop where
  world : starts s.world
  calls : ∀ client, s.Idle client
  history : ∀ client, s.history client = []

def system (service : Service S Client Request Result σ W) (starts : W → Prop) :
    System (State S Client Request Result σ W) (Label S Client Request Result) where
  starts := Starts starts
  moves := Moves service

/-- A client runs on its own while a call of it is under way. -/
theorem reachable_executes {service : Service S Client Request Result σ W} {starts : W → Prop}
    {s : State S Client Request Result σ W} {client : Client} {request : Request}
    {program : Program S (Result × σ)} {world : W} {trace : List (Event S)}
    {out : Result × σ} (hreach : (service.system starts).Reachable s)
    (hcall : s.calls client = some (request, program))
    (hrun : Program.Executes (service.contract client) program s.world trace (.returned out)
      world) :
    (service.system starts).Reachable { s with
      world := world
      thread := Function.update s.thread client out.2
      calls := Function.update s.calls client none
      history := Function.update s.history client ((request, out.1) :: s.history client) } := by
  generalize hworld : s.world = w at hrun
  generalize houtcome : Outcome.returned out = outcome at hrun
  induction hrun generalizing s with
  | done =>
    cases houtcome
    subst hworld
    exact hreach.move trivial (.returns hcall)
  | stop => cases houtcome
  | @call op next answer w v w' trace outcome hanswer hrest ih =>
    subst hworld
    have hact : Moves service s (.acts client ⟨op, answer⟩) { s with
        world := v
        calls := Function.update s.calls client (some (request, next answer)) } :=
      .acts hcall (.call hanswer)
    simpa using ih (hreach.move trivial hact) (by simp) rfl houtcome

/-- A client makes a call while nobody else does anything. -/
theorem reachable_call {service : Service S Client Request Result σ W} {starts : W → Prop}
    {s : State S Client Request Result σ W} {client : Client} {request : Request}
    {world : W} {trace : List (Event S)} {result : Result} {thread : σ}
    (hreach : (service.system starts).Reachable s) (hidle : s.Idle client)
    (hrun : Procedure.Executes (service.contract client) (service.run client request)
      (s.thread client) s.world trace result thread world) :
    ∃ s', (service.system starts).Reachable s' ∧ s'.world = world ∧ s'.thread client = thread ∧
      s'.Idle client ∧ s'.history client = (request, result) :: s.history client := by
  have hbegin : Moves service s (.begins client request) { s with
      calls := Function.update s.calls client
        (some (request, (service.run client request).run (s.thread client))) } := .begins hidle
  have hreturned := reachable_executes (hreach.move trivial hbegin)
    (Function.update_self client _ s.calls) hrun
  exact ⟨_, hreturned, rfl, by simp, by simp [State.Idle], by simp⟩

end Runs

/-! ## The part of one client -/

/-- What concerns each client of the environment. -/
structure Footprint (service : Service S Client Request Result σ W) (V : Type) where
  view : Client → W → V
  /-- The environment as the client's own requests find it. -/
  own : Client → Contract S V
  /-- What others may do to the client's part. -/
  rely : Client → V → V → Prop
  answered : ∀ client op w answer w', (own client).permits op (view client w) →
    (service.contract client).answers op w answer w' →
    (own client).answers op (view client w) answer (view client w')
  spared : ∀ client other op w answer w', other ≠ client →
    (own client).permits op (view client w) →
    (service.contract client).answers op w answer w' →
    Relation.ReflTransGen (rely other) (view other w) (view other w')
  drifted : ∀ client w w', service.drifts w w' →
    Relation.ReflTransGen (rely client) (view client w) (view client w')

namespace Footprint

variable {service : Service S Client Request Result σ W} (footprint : service.Footprint V)

/-- What the calls of a client find, while others interfere. -/
def contract (client : Client) : Contract S V :=
  (footprint.own client).interleaved (footprint.rely client)

/-- A call under way goes on as its specification says, whatever others did in the meantime. -/
def Follows (inv : Client → List (Request × Result) → σ → V → Prop)
    (s : State S Client Request Result σ W) (client : Client) (request : Request)
    (left : Program S (Result × σ)) : Prop :=
  ∃ v, Relation.ReflTransGen (footprint.rely client) v (footprint.view client s.world) ∧
    left.wp (footprint.contract client) (fun _ out v' ↦
      inv client ((request, out.1) :: s.history client) out.2 v') v

structure Sound (inv : Client → List (Request × Result) → σ → V → Prop)
    (s : State S Client Request Result σ W) : Prop where
  idle : ∀ client, s.Idle client →
    inv client (s.history client) (s.thread client) (footprint.view client s.world)
  busy : ∀ client request left, s.calls client = some (request, left) →
    footprint.Follows inv s client request left

variable {footprint} {inv : Client → List (Request × Result) → σ → V → Prop}
  {s s' : State S Client Request Result σ W} {client : Client} {request : Request}

theorem stable_reaches (hstable : ∀ client history thread v v', inv client history thread v →
      footprint.rely client v v' → inv client history thread v')
    {history : List (Request × Result)} {thread : σ} {v v' : V} (h : inv client history thread v)
    (hsteps : Relation.ReflTransGen (footprint.rely client) v v') :
    inv client history thread v' := by
  induction hsteps with
  | refl => exact h
  | tail _ hlast ih => exact hstable client history thread _ _ ih hlast

/-- What others do does not disturb a client. -/
theorem Sound.interfere {world : W} (hstable : ∀ client history thread v v',
      inv client history thread v → footprint.rely client v v' → inv client history thread v')
    (h : footprint.Sound inv s)
    (hsteps : ∀ client, Relation.ReflTransGen (footprint.rely client)
      (footprint.view client s.world) (footprint.view client world)) :
    footprint.Sound inv { s with world := world } where
  idle client hidle := stable_reaches hstable (h.idle client hidle) (hsteps client)
  busy client request left hcall := by
    obtain ⟨v, hrely, hwp⟩ := h.busy client request left hcall
    exact ⟨v, hrely.trans (hsteps client), hwp⟩

/-- The next request of a call is permitted, and what is left goes on from what it finds. -/
theorem Follows.steps {program left : Program S (Result × σ)} {event : Event S} {world : W}
    (h : footprint.Follows inv s client request program)
    (hsteps : Program.Steps (service.contract client) program s.world event left world) :
    (footprint.own client).permits event.op (footprint.view client s.world) ∧
      footprint.Follows inv { s with world := world } client request left := by
  obtain ⟨v, hrely, hwp⟩ := h
  obtain ⟨hpermits, hrest⟩ := hsteps.follows hwp
  have hpermit : (footprint.own client).permits event.op (footprint.view client s.world) :=
    hpermits _ hrely
  have hanswer : (footprint.contract client).answers event.op v event.answer
      (footprint.view client world) :=
    ⟨_, hrely, footprint.answered client _ _ _ _ hpermit hsteps.answered⟩
  exact ⟨hpermit, _, .refl, hrest _ hanswer⟩

/-- Where nobody interferes, it is enough to specify the calls as made alone. -/
theorem wp_undisturbed {procedure : Procedure S σ Result} {post : Procedure.Post S Result σ V}
    {thread : σ} {v : V} (hrely : ∀ v v', ¬footprint.rely client v v')
    (h : Procedure.wp (footprint.own client) procedure post thread v) :
    Procedure.wp (footprint.contract client) procedure post thread v := by
  have hsame : ∀ v v', Relation.ReflTransGen (footprint.rely client) v v' → v = v' := by
    intro v v' hsteps
    induction hsteps with
    | refl => rfl
    | tail _ hlast _ => exact absurd hlast (hrely _ _)
  refine Procedure.wp_relaxed ?_ ?_ ?_ h
  · rintro op v answer v' ⟨u, hsteps, hanswer⟩
    rw [hsame v u hsteps]
    exact hanswer
  · intro op v hpermit u hsteps
    rw [← hsame v u hsteps]
    exact hpermit
  · exact fun _ htolerate ↦ htolerate

variable [DecidableEq Client]
  {condition : State S Client Request Result σ W → Label S Client Request Result → Prop}

/-- The specification of one client's calls, each made alone. -/
def Specified (footprint : service.Footprint V)
    (inv : Client → List (Request × Result) → σ → V → Prop)
    (condition : State S Client Request Result σ W → Label S Client Request Result → Prop) :
    Prop :=
  ∀ s client request, condition s (.begins client request) → ∀ thread v,
    inv client (s.history client) thread v →
    Procedure.wp (footprint.contract client) (service.run client request)
      (fun _ result thread' v' ↦ inv client ((request, result) :: s.history client) thread' v')
      thread v

theorem Sound.moves {label : Label S Client Request Result}
    (hstable : ∀ client history thread v v', inv client history thread v →
      footprint.rely client v v' → inv client history thread v')
    (hspec : footprint.Specified inv condition) (h : footprint.Sound inv s)
    (hcondition : condition s label) (hmove : Moves service s label s') :
    footprint.Sound inv s' := by
  cases hmove with
  | @begins client request hidle =>
    refine ⟨fun other hother ↦ ?_, fun other request' left hcall ↦ ?_⟩
    · by_cases heq : other = client
      · subst heq
        simp [State.Idle] at hother
      · exact h.idle other (by simpa [State.Idle, Function.update_of_ne heq] using hother)
    · by_cases heq : other = client
      · subst heq
        simp only [Function.update_self, Option.some.injEq, Prod.mk.injEq] at hcall
        obtain ⟨rfl, rfl⟩ := hcall
        exact ⟨_, .refl, hspec s other request hcondition _ _ (h.idle other hidle)⟩
      · simp only [Function.update_of_ne heq] at hcall
        exact h.busy other request' left hcall
  | @acts client request program left event world hcall hsteps =>
    obtain ⟨hpermit, hfollows⟩ := (h.busy client request program hcall).steps hsteps
    have hothers : ∀ other, other ≠ client → Relation.ReflTransGen (footprint.rely other)
        (footprint.view other s.world) (footprint.view other world) :=
      fun other hne ↦ footprint.spared client other _ _ _ _ hne hpermit hsteps.answered
    refine ⟨fun other hother ↦ ?_, fun other request' left' hcall' ↦ ?_⟩
    · by_cases heq : other = client
      · subst heq
        simp [State.Idle] at hother
      · have hidle : s.Idle other := by
          simpa [State.Idle, Function.update_of_ne heq] using hother
        exact stable_reaches hstable (h.idle other hidle) (hothers other heq)
    · by_cases heq : other = client
      · subst heq
        simp only [Function.update_self, Option.some.injEq, Prod.mk.injEq] at hcall'
        obtain ⟨rfl, rfl⟩ := hcall'
        exact hfollows
      · simp only [Function.update_of_ne heq] at hcall'
        obtain ⟨v, hrely, hwp⟩ := h.busy other request' left' hcall'
        exact ⟨v, hrely.trans (hothers other heq), hwp⟩
  | @returns client request result thread hcall =>
    obtain ⟨v, hrely, hinv⟩ := h.busy client request _ hcall
    refine ⟨fun other hother ↦ ?_, fun other request' left hcall' ↦ ?_⟩
    · by_cases heq : other = client
      · subst heq
        simpa using stable_reaches hstable hinv hrely
      · have hidle : s.Idle other := by
          simpa [State.Idle, Function.update_of_ne heq] using hother
        simpa [Function.update_of_ne heq] using h.idle other hidle
    · by_cases heq : other = client
      · subst heq
        simp at hcall'
      · simp only [Function.update_of_ne heq] at hcall'
        simpa [Follows, Function.update_of_ne heq] using h.busy other request' left hcall'
  | drifts hdrift => exact h.interfere hstable fun client ↦ footprint.drifted client _ _ hdrift

/-- In every run, the specification holds of the calls that returned to each client. -/
theorem sound_of_reaches {starts : W → Prop}
    (hstarts : ∀ client thread w, starts w → inv client [] thread (footprint.view client w))
    (hstable : ∀ client history thread v v', inv client history thread v →
      footprint.rely client v v' → inv client history thread v')
    (hspec : footprint.Specified inv condition)
    (hreach : (service.system starts).Reaches condition s) : footprint.Sound inv s := by
  refine hreach.invariant ?_ fun s label s' h hcondition hmove ↦
    h.moves hstable hspec hcondition hmove
  intro s hs
  refine ⟨fun client hidle ↦ ?_, fun client request left hcall ↦ ?_⟩
  · rw [hs.history client]
    exact hstarts client (s.thread client) s.world hs.world
  · rw [hs.calls client] at hcall
    cases hcall

end Footprint

/-! ## Clients with a part of their own

The environment has one part for each client, and its own steps are steps of one part.
-/

section Separate

variable [DecidableEq Client]

/-- The environment of one client, as a part of that of all. -/
def part (contract : Contract S V) (client : Client) : Contract S (Client → V) where
  answers op w answer w' :=
    ∃ v, contract.answers op (w client) answer v ∧ w' = Function.update w client v
  permits op w := contract.permits op (w client)
  tolerates := contract.tolerates

def separate (run : Client → Request → Procedure S σ Result) (contract : Contract S V)
    (drifts : V → V → Prop) : Service S Client Request Result σ (Client → V) where
  run := run
  contract := part contract
  drifts w w' := ∃ client v, drifts (w client) v ∧ w' = Function.update w client v

variable {run : Client → Request → Procedure S σ Result} {contract : Contract S V}
  {drifts : V → V → Prop}

/-- Clients with a part of their own do not interfere. -/
def ownPart (run : Client → Request → Procedure S σ Result) (contract : Contract S V)
    (drifts : V → V → Prop) : (separate run contract drifts).Footprint V where
  view client w := w client
  own _ := contract
  rely _ := drifts
  answered client op w answer w' _ := by
    rintro ⟨v, hanswer, rfl⟩
    simpa using hanswer
  spared client other op w answer w' hne _ := by
    rintro ⟨v, -, rfl⟩
    rw [Function.update_of_ne hne]
  drifted client w w' := by
    rintro ⟨other, v, hdrift, rfl⟩
    by_cases heq : client = other
    · subst heq
      rw [Function.update_self]
      exact .single hdrift
    · rw [Function.update_of_ne heq]

end Separate

end Service

end TtDal.Effect
