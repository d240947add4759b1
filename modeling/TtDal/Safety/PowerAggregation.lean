import TtDal.Driver.Power
import TtDal.Safety.DeviceNames
import Mathlib.Data.Option.Basic

/-!
# Power features follow the calls that returned

Any number of clients open, close and reopen sessions and request power features, one system call
at a time. What the calls that returned to a client tell about its descriptors is `standing`: the
device of each, the features it requests for certain and those it may request. The driver agrees
with it whenever the client has no call under way, so a feature is on while a standing request asks
for it, and when nobody has a call under way, for no other reason.
-/

namespace TtDal.Safety.PowerAggregation

open Effect Platform Dev Driver

inductive Request where
  | open (dev : Option Device) (sess : Option Session) (flags : UInt16)
  | close (sess : Option Session)
  | reopen (sess : Option Session)
  | power (sess : Option Session) (flags : UInt16)

/-- The status of a call, and the session object afterwards. -/
abbrev Outcome := Status × Option Session

def Request.run : Request → C Outcome
  | .open dev sess flags => ttOpen dev sess flags
  | .close sess => ttClose sess
  | .reopen sess => ttReopen sess
  | .power sess flags => do
    let status ← ttPower sess flags
    return (status, sess)

/-! ## What the calls tell -/

/-- What is known of the features an open descriptor requests. -/
structure Standing where
  dev : Device
  certain : Set PowerFlag
  possible : Set PowerFlag

namespace Standing

/-- A session starts without features. -/
def initial (dev : Device) : Standing where
  dev := dev
  certain := ∅
  possible := ∅

/-- A request states the complete set. -/
def requested (standing : Standing) (flags : UInt16) : Standing where
  dev := standing.dev
  certain := {flag | flag.In flags}
  possible := {flag | flag.In flags}

/-- A request that failed may have reached the driver. -/
def doubted (standing : Standing) (flags : UInt16) : Standing where
  dev := standing.dev
  certain := standing.certain ∩ {flag | flag.In flags}
  possible := standing.possible ∪ {flag | flag.In flags}

structure Admits (standing : Standing) (contribution : Contribution) : Prop where
  dev : contribution.dev = standing.dev
  certain : standing.certain ⊆ contribution.wanted
  possible : contribution.wanted ⊆ standing.possible

end Standing

abbrev Standings := ℤ → Option Standing

namespace Standings

def released (standings : Standings) (sess : Session) : Standings :=
  if sess.fd < 0 then standings else Function.update standings sess.fd none

def opened (standings : Standings) (sess : Session) : Standings :=
  Function.update standings sess.fd (some (.initial sess.dev))

def changed (standings : Standings) (sess : Session) (change : Standing → Standing) : Standings :=
  Function.update standings sess.fd ((standings sess.fd).map change)

/-- What is known after another call returned. -/
def after (standings : Standings) : Request → Outcome → Standings
  | .open _ _ _, (.TT_OK _, some sess) => standings.opened sess
  | .close (some sess), _ => standings.released sess
  | .reopen (some sess), (.TT_OK _, some sess') => (standings.released sess).opened sess'
  | .reopen (some sess), _ => standings.released sess
  | .power (some sess) flags, (.TT_OK _, _) => standings.changed sess (·.requested flags)
  | .power (some sess) flags, (.TT_ERR, _) => standings.changed sess (·.doubted flags)
  | _, _ => standings

/-- The driver has what the calls tell. -/
def Agrees (standings : Standings) (table : Contributions) : Prop :=
  ∀ fd, Option.Rel Standing.Admits (standings fd) (table fd)

end Standings

/-- What the calls that returned to a client tell, the last one first. -/
def standing : List (Request × Outcome) → Standings
  | [] => fun _ ↦ none
  | (request, outcome) :: earlier => (standing earlier).after request outcome

section Calls

variable {standings : Standings} {table : Contributions} {sess : Session} {thread : Thread}

/-- A descriptor the calls tell of is open, and asks for what they tell. -/
theorem Standings.Agrees.contributes {fd : ℤ}
    {known : Standing} (h : standings.Agrees table) (hknown : standings fd = some known) :
    ∃ contribution, table fd = some contribution ∧ known.Admits contribution := by
  have hrel := h fd
  rw [hknown] at hrel
  generalize table fd = entry at hrel ⊢
  cases hrel with
  | some hadmits => exact ⟨_, rfl, hadmits⟩

theorem Standings.Agrees.known {fd : ℤ}
    {contribution : Contribution} (h : standings.Agrees table)
    (hfd : table fd = some contribution) :
    ∃ known, standings fd = some known ∧ known.Admits contribution := by
  have hrel := h fd
  rw [hfd] at hrel
  generalize standings fd = entry at hrel ⊢
  cases hrel with
  | some hadmits => exact ⟨_, rfl, hadmits⟩

theorem Standings.Agrees.update {fd : ℤ} {known : Option Standing}
    {contribution : Option Contribution} (h : standings.Agrees table)
    (hfd : Option.Rel Standing.Admits known contribution) :
    Standings.Agrees (Function.update standings fd known)
      (Function.update table fd contribution) := by
  intro other
  by_cases heq : other = fd
  · subst heq
    simpa using hfd
  · simpa [Function.update_of_ne heq] using h other

theorem Standings.Agrees.opened (h : standings.Agrees table) :
    (standings.opened sess).Agrees
      (Function.update table sess.fd (some { dev := sess.dev, wanted := ∅ })) :=
  h.update (.some ⟨rfl, subset_rfl, subset_rfl⟩)

/-- The library opens the device with `O_APPEND`, so a session starts without features. -/
theorem wp_openSession (dev : Device) (flags : UInt16) :
    Procedure.wp Contributions.contract (openSession dev flags) (fun _ res _ table' ↦
      match res with
      | .TT_OK sess => sess.dev = dev ∧ 0 ≤ sess.fd ∧ table sess.fd = none ∧
        table' = Function.update table sess.fd (some { dev := sess.dev, wanted := ∅ })
      | .TT_ERR => table' = table) thread table := by
  rw [openSession_eq]
  split
  · simp
  · rw [Procedure.wp_bind, wp_sys]
    refine ⟨trivial, fun reply table' hanswer ↦ ?_⟩
    cases reply with
    | fail err => exact hanswer
    | ok fd residue =>
      obtain ⟨hfree, ⟨dev', hpath, rfl⟩ | ⟨hother, -⟩⟩ := hanswer
      · cases DeviceNames.devicePath_injective hpath
        exact ⟨rfl, Int.natCast_nonneg fd, hfree, rfl⟩
      · exact absurd rfl (hother dev)

theorem wp_closeSession :
    Procedure.wp Contributions.contract (closeSession sess) (fun _ out _ table' ↦
      out.2.dev = sess.dev ∧ (out.2.fd = sess.fd ∨ out.2.fd < 0) ∧ table' = table.without sess)
      thread table := by
  unfold closeSession Contributions.without
  split
  · exact ⟨rfl, .inl rfl, rfl⟩
  · rw [Procedure.wp_bind, wp_sys]
    refine ⟨trivial, fun reply table' hanswer ↦ ?_⟩
    cases reply with
    | ok value residue => exact ⟨rfl, .inr (Int.negSucc_lt_zero 0), hanswer⟩
    | fail err => exact ⟨rfl, .inl rfl, hanswer⟩

theorem Standings.Agrees.released (h : standings.Agrees table) :
    (standings.released sess).Agrees (table.without sess) := by
  unfold Standings.released Contributions.without
  split
  · exact h
  · exact h.update .none

/-- All four features count in a request of the library. -/
theorem index_lt_validFlags (flag : PowerFlag) (flags : UInt16) :
    flag.index < Contribution.validFlags (powerState flags) := by
  have hvalid : Contribution.validFlags (powerState flags) = 4 := rfl
  rw [hvalid]
  cases flag <;> decide

theorem Standing.Admits.recorded {known : Standing} {contribution contribution' : Contribution}
    {flags : UInt16} (h : known.Admits contribution)
    (hrecords : Contribution.Records (powerState flags) contribution contribution') :
    (known.requested flags).Admits contribution' := by
  have hwanted : contribution'.wanted = {flag | flag.In flags} :=
    Set.ext fun flag ↦ hrecords.2 flag (index_lt_validFlags flag flags)
  refine ⟨hrecords.1.trans h.dev, ?_, ?_⟩
  · exact hwanted.superset
  · exact hwanted.subset

theorem Standing.Admits.doubted {known : Standing} {contribution contribution' : Contribution}
    {flags : UInt16} (h : known.Admits contribution)
    (hrecords : contribution' = contribution ∨
      Contribution.Records (powerState flags) contribution contribution') :
    (known.doubted flags).Admits contribution' := by
  rcases hrecords with rfl | hrecords
  · exact ⟨h.dev, fun _ hflag ↦ h.certain hflag.1, fun _ hflag ↦ .inl (h.possible hflag)⟩
  · have hrecorded := h.recorded hrecords
    exact ⟨hrecorded.dev, fun _ hflag ↦ hrecorded.certain hflag.2,
      fun _ hflag ↦ .inr (hrecorded.possible hflag)⟩

theorem rel_map {known : Option Standing} {contribution : Option Contribution}
    {change : Standing → Standing} (h : Option.Rel Standing.Admits known contribution)
    (hchange : ∀ known contribution, Standing.Admits known contribution →
      (change known).Admits contribution) :
    Option.Rel Standing.Admits (known.map change) contribution := by
  cases h with
  | none => exact .none
  | some hadmits => exact .some (hchange _ _ hadmits)

/-- A request that failed leaves its features in doubt. -/
theorem Standings.Agrees.doubted (h : standings.Agrees table) (flags : UInt16) :
    (standings.changed sess (·.doubted flags)).Agrees table := by
  have hsame : Function.update table sess.fd (table sess.fd) = table :=
    Function.update_eq_self _ _
  rw [← hsame]
  exact h.update (rel_map (h sess.fd) fun _ _ hadmits ↦ hadmits.doubted (.inl rfl))

theorem Standings.Agrees.power {flags : UInt16} {reply : Reply Unit} {table' : Contributions}
    (h : standings.Agrees table)
    (hanswer : table.answersPower sess.fd (powerState flags) reply table') :
    (standings.changed sess (·.doubted flags)).Agrees table' ∧
      (reply.isOk = true → (standings.changed sess (·.requested flags)).Agrees table') := by
  rcases hanswer with ⟨hfail, rfl⟩ | ⟨contribution, contribution', hfd, -, hrecords, rfl⟩
  · refine ⟨h.doubted flags, fun hok ↦ ?_⟩
    rw [hfail] at hok
    cases hok
  · obtain ⟨known, hknown, hadmits⟩ := h.known hfd
    refine ⟨h.update ?_, fun _ ↦ h.update ?_⟩
    · rw [hknown]
      exact .some (hadmits.doubted (.inr hrecords))
    · rw [hknown]
      exact .some (hadmits.recorded hrecords)

theorem wp_ttPower (h : standings.Agrees table) (flags : UInt16) :
    Procedure.wp Contributions.contract (ttPower (some sess) flags) (fun _ status _ table' ↦
      match status with
      | .TT_OK _ => (standings.changed sess (·.requested flags)).Agrees table'
      | .TT_ERR => (standings.changed sess (·.doubted flags)).Agrees table') thread table := by
  by_cases hfd : sess.fd < 0
  · simpa [ttPower, hfd] using h.doubted flags
  · simp only [ttPower, hfd, if_false]
    rw [Procedure.wp_bind, wp_sys]
    refine ⟨trivial, fun reply table' hanswer ↦ ?_⟩
    obtain ⟨hdoubted, hrequested⟩ := h.power hanswer
    cases reply with
    | fail err => exact hdoubted
    | ok value residue => exact hrequested rfl

theorem wp_ttReopen (h : standings.Agrees table) :
    Procedure.wp Contributions.contract (reopenSession sess) (fun _ out _ table' ↦
      match out.1 with
      | .TT_OK _ => ((standings.released sess).opened out.2).Agrees table'
      | .TT_ERR => (standings.released sess).Agrees table') thread table := by
  refine Procedure.wp_call wp_closeSession fun _ out _ closed ⟨_, _, hclosed⟩ ↦ ?_
  obtain ⟨status, stale⟩ := out
  have hreleased : (standings.released sess).Agrees closed := hclosed ▸ h.released
  refine Procedure.wp_call (wp_openSession stale.dev stale.flags) fun _ res _ table' hres ↦ ?_
  cases res with
  | TT_OK sess' =>
    obtain ⟨-, -, -, rfl⟩ := hres
    exact hreleased.opened
  | TT_ERR =>
    subst hres
    exact hreleased

/-- The step of one call. -/
theorem run_agrees (h : standings.Agrees table) (request : Request) :
    Procedure.wp Contributions.contract request.run (fun _ outcome _ table' ↦
      (standings.after request outcome).Agrees table') thread table := by
  cases request with
  | «open» dev sess flags =>
    cases dev with
    | none => exact h
    | some dev =>
      cases sess with
      | none => exact h
      | some sess =>
        refine Procedure.wp_call (wp_openSession dev flags) fun _ res _ table' hres ↦ ?_
        cases res with
        | TT_OK sess' =>
          obtain ⟨-, -, -, rfl⟩ := hres
          exact h.opened
        | TT_ERR =>
          subst hres
          exact h
  | close sess =>
    cases sess with
    | none => exact h
    | some sess =>
      refine Procedure.wp_call wp_closeSession fun _ out _ table' ⟨_, _, hclosed⟩ ↦ ?_
      subst hclosed
      exact h.released
  | reopen sess =>
    cases sess with
    | none => exact h
    | some sess =>
      refine Procedure.wp_call (wp_ttReopen h) fun _ out _ table' hout ↦ ?_
      obtain ⟨status, sess'⟩ := out
      cases status with
      | TT_OK => exact hout
      | TT_ERR => exact hout
  | power sess flags =>
    cases sess with
    | none => exact h
    | some sess =>
      refine Procedure.wp_call (wp_ttPower h flags) fun _ status _ table' hstatus ↦ ?_
      cases status with
      | TT_OK => exact hstatus
      | TT_ERR => exact hstatus

end Calls

/-! ## Any number of clients -/

section Runs

variable {Client : Type} [DecidableEq Client]

def service (Client : Type) [DecidableEq Client] :
    Service Sys Client Request Outcome Thread (Client → Contributions) :=
  Service.separate (fun _ request ↦ request.run) Contributions.contract fun _ _ ↦ False

abbrev State (Client : Type) :=
  Service.State Sys Client Request Outcome Thread (Client → Contributions)

/-- Nobody has a device open. -/
def Closed (tables : Client → Contributions) : Prop :=
  ∀ client fd, tables client fd = none

def system (Client : Type) [DecidableEq Client] :
    System (State Client) (Service.Label Sys Client Request Outcome) :=
  (service Client).system Closed

/-- No power request of the client failed. -/
def Unfailing (history : List (Request × Outcome)) : Prop :=
  ∀ sess flags outcome, (.power sess flags, outcome) ∈ history → outcome.1 ≠ .TT_ERR

/-- The features of a device that standing requests may ask for. -/
def possible (s : State Client) (dev : Device) : Set PowerFlag :=
  {flag | ∃ client fd known, standing (s.history client) fd = some known ∧ known.dev = dev ∧
    flag ∈ known.possible}

structure Aggregates (s : State Client) : Prop where
  /-- What a client asks for is on. -/
  honoured : ∀ client, s.Idle client → ∀ fd known, standing (s.history client) fd = some known →
    known.certain ⊆ features s.world known.dev
  /-- What is on was asked for. -/
  justified : (∀ client, s.Idle client) → ∀ dev, features s.world dev ⊆ possible s dev
  tight : (∀ client, s.Idle client) → (∀ client, Unfailing (s.history client)) →
    ∀ dev, features s.world dev = possible s dev

variable {s : State Client}

/-- In every run, the driver agrees with the calls that returned. -/
theorem idle_agrees (hreach : (system Client).Reachable s) (client : Client)
    (hidle : s.Idle client) : (standing (s.history client)).Agrees (s.world client) := by
  let footprint := Service.ownPart (fun (_ : Client) request ↦ Request.run request)
    Contributions.contract fun _ _ ↦ False
  have hsound : footprint.Sound (fun _ history _ table ↦ (standing history).Agrees table) s := by
    refine Service.Footprint.sound_of_reaches ?_ ?_ ?_ hreach
    · intro client thread tables hclosed fd
      have hnone : footprint.view client tables fd = none := hclosed client fd
      rw [hnone]
      exact .none
    · exact fun _ _ _ _ _ _ hdrift ↦ hdrift.elim
    · intro s client request _ thread table hagrees
      exact Service.Footprint.wp_undisturbed (fun _ _ hdrift ↦ hdrift)
        (run_agrees hagrees request)
  exact hsound.idle client hidle

/-- Nothing is in doubt. -/
def Standings.Exact (standings : Standings) : Prop :=
  ∀ fd known, standings fd = some known → known.certain = known.possible

theorem Standings.Exact.update {standings : Standings} (h : standings.Exact) {fd : ℤ}
    {entry : Option Standing}
    (hentry : ∀ known, entry = some known → known.certain = known.possible) :
    Standings.Exact (Function.update standings fd entry) := by
  intro other known hknown
  by_cases heq : other = fd
  · subst heq
    exact hentry known (by simpa using hknown)
  · exact h other known (by simpa [Function.update_of_ne heq] using hknown)

theorem Standings.Exact.opened {standings : Standings} (h : standings.Exact) (sess : Session) :
    (standings.opened sess).Exact :=
  h.update fun known hknown ↦ by
    cases hknown
    rfl

theorem Standings.Exact.released {standings : Standings} (h : standings.Exact) (sess : Session) :
    (standings.released sess).Exact := by
  unfold Standings.released
  split
  · exact h
  · exact h.update fun known hknown ↦ by cases hknown

theorem Standings.Exact.requested {standings : Standings} (h : standings.Exact) (sess : Session)
    (flags : UInt16) : (standings.changed sess (·.requested flags)).Exact :=
  h.update fun known hknown ↦ by
    obtain ⟨earlier, -, rfl⟩ := Option.map_eq_some_iff.mp hknown
    rfl

theorem Standings.Exact.after {standings : Standings} {request : Request} {outcome : Outcome}
    (h : standings.Exact)
    (hpower : ∀ sess flags, request = .power sess flags → outcome.1 ≠ .TT_ERR) :
    (standings.after request outcome).Exact := by
  obtain ⟨status, sess'⟩ := outcome
  cases request with
  | «open» dev sess flags =>
    cases status with
    | TT_ERR => exact h
    | TT_OK =>
      cases sess' with
      | none => exact h
      | some sess' => exact h.opened sess'
  | close sess =>
    cases sess with
    | none => exact h
    | some sess => exact h.released sess
  | reopen sess =>
    cases sess with
    | none => exact h
    | some sess =>
      cases status with
      | TT_ERR => exact h.released sess
      | TT_OK =>
        cases sess' with
        | none => exact h.released sess
        | some sess' => exact (h.released sess).opened sess'
  | power sess flags =>
    cases status with
    | TT_ERR => exact absurd rfl (hpower sess flags rfl)
    | TT_OK =>
      cases sess with
      | none => exact h
      | some sess => exact h.requested sess flags

/-- Nothing is in doubt after requests that all succeeded. -/
theorem standing_exact {history : List (Request × Outcome)} (h : Unfailing history) :
    (standing history).Exact := by
  induction history with
  | nil => exact fun _ _ hknown ↦ by cases hknown
  | cons call earlier ih =>
    obtain ⟨request, outcome⟩ := call
    refine Standings.Exact.after (ih fun sess flags outcome' hcall ↦ ?_) fun sess flags heq ↦ ?_
    · exact h sess flags outcome' (List.mem_cons_of_mem _ hcall)
    · exact h sess flags outcome (heq ▸ List.mem_cons_self)

omit [DecidableEq Client] in
theorem honoured_of_agrees {client : Client} {fd : ℤ} {known : Standing}
    (h : (standing (s.history client)).Agrees (s.world client))
    (hknown : standing (s.history client) fd = some known) :
    known.certain ⊆ features s.world known.dev := by
  intro flag hflag
  obtain ⟨contribution, hfd, hadmits⟩ := h.contributes hknown
  exact ⟨client, fd, contribution, hfd, hadmits.dev, hadmits.certain hflag⟩

/-- A feature of a device is on when a standing request asks for it, and otherwise off. -/
theorem power_aggregates (hreach : (system Client).Reachable s) : Aggregates s := by
  have hjustified : (∀ client, s.Idle client) →
      ∀ dev, features s.world dev ⊆ possible s dev := by
    rintro hidle dev flag ⟨client, fd, contribution, hfd, rfl, hwanted⟩
    obtain ⟨known, hknown, hadmits⟩ := (idle_agrees hreach client (hidle client)).known hfd
    exact ⟨client, fd, known, hknown, hadmits.dev.symm, hadmits.possible hwanted⟩
  refine ⟨fun client hidle fd known hknown ↦ ?_, hjustified, fun hidle hunfailing dev ↦ ?_⟩
  · exact honoured_of_agrees (idle_agrees hreach client hidle) hknown
  · refine (hjustified hidle dev).antisymm ?_
    rintro flag ⟨client, fd, known, hknown, rfl, hpossible⟩
    have hcertain : flag ∈ known.certain :=
      standing_exact (hunfailing client) fd known hknown ▸ hpossible
    exact honoured_of_agrees (idle_agrees hreach client (hidle client)) hknown hcertain

end Runs

/-! ## One client alone -/

def closedState : State ℕ where
  world _ _ := none
  thread _ := Thread.initial
  calls _ := none
  history _ := []

theorem closedState_reachable : (system ℕ).Reachable closedState :=
  .start ⟨fun _ _ ↦ rfl, fun _ ↦ rfl, fun _ ↦ rfl⟩

def sampleTable (wanted : Set PowerFlag) : Contributions :=
  Function.update (fun _ ↦ none) 3 (some { dev := sampleDevice, wanted := wanted })

def sampleTables (wanted : Set PowerFlag) : ℕ → Contributions :=
  Function.update (fun _ _ ↦ none) 0 (sampleTable wanted)

theorem sample_opens : Procedure.Executes ((service ℕ).contract 0)
    ((service ℕ).run 0 (.open (some sampleDevice) (some sampleSession) 0)) Thread.initial
    closedState.world [⟨.openFile (devicePath sampleDevice) (openFlags 0), .ok 3 (.other 0)⟩]
    (.TT_OK (), some sampleSession) Thread.initial (sampleTables ∅) := by
  have hopen : (Service.part Contributions.contract 0).answers
      (.openFile (devicePath sampleDevice) (openFlags 0)) closedState.world (.ok 3 (.other 0))
      (sampleTables ∅) :=
    ⟨sampleTable ∅, ⟨rfl, .inl ⟨sampleDevice, rfl, rfl⟩⟩, rfl⟩
  exact Procedure.executes_bind.mpr ⟨_, [], _, _, _, rfl,
    executes_openSession sampleDevice rfl hopen, .done⟩

theorem sample_requests : Procedure.Executes ((service ℕ).contract 0)
    ((service ℕ).run 0 (.power (some sampleSession) 1)) Thread.initial (sampleTables ∅)
    [⟨.setPowerState 3 (powerState 1), .ok () (.other 0)⟩]
    (.TT_OK (), some sampleSession) Thread.initial (sampleTables {.MAX_AI_CLK}) := by
  have hrecords : Contribution.Records (powerState 1) { dev := sampleDevice, wanted := ∅ }
      { dev := sampleDevice, wanted := {.MAX_AI_CLK} } := by
    refine ⟨rfl, fun flag _ ↦ ?_⟩
    cases flag <;> simp <;> decide
  have hpower : (Service.part Contributions.contract 0).answers (.setPowerState 3 (powerState 1))
      (sampleTables ∅) (.ok () (.other 0)) (sampleTables {.MAX_AI_CLK}) := by
    refine ⟨sampleTable {.MAX_AI_CLK}, ?_, by simp [sampleTables]⟩
    exact .inr ⟨_, _, by simp [sampleTables, sampleTable], ⟨rfl, rfl, rfl⟩, hrecords,
      by simp [sampleTables, sampleTable]⟩
  exact .call hpower .done

/-- The feature the client asked for is on, and it is the only one. -/
theorem sample_aggregates : ∃ s : State ℕ, Aggregates s ∧
    features s.world sampleDevice = {.MAX_AI_CLK} := by
  obtain ⟨s, hopened, hworld, hthread, hidle, -⟩ :=
    Service.reachable_call closedState_reachable rfl sample_opens
  obtain ⟨s', hreach, hworld', -⟩ :=
    Service.reachable_call hopened hidle (hworld ▸ hthread ▸ sample_requests)
  refine ⟨s', power_aggregates hreach, ?_⟩
  rw [hworld']
  ext flag
  constructor
  · rintro ⟨client, fd, contribution, hfd, -, hwanted⟩
    have htables : client = 0 ∧ fd = 3 ∧ contribution.wanted = {.MAX_AI_CLK} := by
      by_cases hclient : client = 0
      · by_cases hnumber : fd = 3
        · subst hclient hnumber
          cases hfd
          exact ⟨rfl, rfl, rfl⟩
        · simp [sampleTables, sampleTable, hclient, hnumber] at hfd
      · simp [sampleTables, hclient] at hfd
    exact htables.2.2 ▸ hwanted
  · rintro rfl
    exact ⟨0, 3, _, rfl, rfl, rfl⟩

end TtDal.Safety.PowerAggregation
