import TtDal.Driver.Signals
import Mathlib.Tactic.Linarith

/-!
# A fault under a chain of handlers

Whatever handlers were installed over the guard's, a fault inside the armed range of its thread
resumes at the recovery point, and any other fault comes to the handler that was there before the
guard's. A signal that was raised again has lost its address, and on an armed thread the access is
retried until the fault is delivered with it.
-/

namespace TtDal.Safety.SignalChain

open Effect Platform Dev Driver Process

/-- The thread is armed and the address is in its range. -/
def Inside (guard : Guard) (addr : ℕ) : Prop :=
  guard.ptr ≠ NULL ∧ guard.ptr ≤ addr ∧ addr < guard.ptr + guard.len

/-- Where a fault comes to that is not the library's. -/
def passed (prev : Disposition) : Point :=
  if prev = .handler then .chained else .dead

/-- The thread is neither resumed, nor in the handler before, nor dead. -/
def Underway : Point → Prop
  | .access | .running _ _ | .returning => True
  | .resumed _ | .chained | .dead => False

/-! ## The guard's handler -/

section Handler

variable {guard : Guard} {prev : Disposition} {info : Siginfo}

theorem handler_raised (harmed : guard.ptr ≠ NULL) (hraised : info.raised = true) :
    handler guard prev info = .returned :=
  if_pos ⟨harmed, hraised⟩

theorem handler_inside (hraised : info.raised = false) (hinside : Inside guard info.addr) :
    handler guard prev info = .recovered := by
  have hfresh : ¬(guard.ptr ≠ NULL ∧ info.raised = true) := by
    rw [hraised]
    exact fun h ↦ Bool.false_ne_true h.2
  unfold handler
  rw [if_neg hfresh]
  exact if_pos hinside

theorem handler_outside (hfresh : ¬(guard.ptr ≠ NULL ∧ info.raised = true))
    (houtside : ¬Inside guard info.addr) :
    handler guard prev info = if prev = .handler then .chained else .fatal := by
  have houtside : ¬(guard.ptr ≠ NULL ∧ guard.ptr ≤ info.addr ∧
      info.addr < guard.ptr + guard.len) := houtside
  unfold handler
  rw [if_neg hfresh, if_neg houtside]
  cases prev with
  | handler => rfl
  | SIG_DFL | SIG_IGN => rfl

theorem raised_of_returned (h : handler guard prev info = .returned) : info.raised = true := by
  by_contra hraised
  have hfresh : ¬(guard.ptr ≠ NULL ∧ info.raised = true) := fun hboth ↦ hraised hboth.2
  by_cases hinside : Inside guard info.addr
  · rw [handler_inside (Bool.eq_false_iff.mpr hraised) hinside] at h
    cases h
  · rw [handler_outside hfresh hinside] at h
    split at h <;> cases h

end Handler

/-! ## Every run comes to an end -/

section Runs

variable {prev : Disposition} {thread addr : ℕ} {guards : ℕ → Guard} {s s' : Process}

/-- While a handler runs, no signal is pending, the handlers below it were installed with it, and
a signal that was not raised carries the address of the fault. -/
def Sane (addr : ℕ) (s : Process) : Prop :=
  ∀ handlers info, s.point = .running handlers info → s.pending = false ∧
    (∃ covers, s.installed = some covers ∧ handlers.length ≤ covers.length) ∧
    (info.raised = false → info.addr = addr)

theorem sane_of_point (h : ∀ handlers info, s.point ≠ .running handlers info) : Sane addr s :=
  fun handlers info hpoint ↦ absurd hpoint (h handlers info)

theorem sane_deliver {info : Siginfo} (haddr : info.raised = false → info.addr = addr) :
    Sane addr (s.deliver info) := by
  unfold deliver
  split
  · rename_i covers hcovers
    intro handlers info' hpoint
    obtain ⟨rfl, rfl⟩ := Point.running.inj hpoint
    exact ⟨rfl, ⟨covers, hcovers, Nat.le_refl _⟩, haddr⟩
  · exact sane_of_point fun _ _ hpoint ↦ nomatch hpoint

theorem sane_handle {info : Siginfo} : Sane addr (s.handle prev thread info) := by
  apply sane_of_point
  intro handlers info' hpoint
  unfold handle at hpoint
  split at hpoint <;> cases hpoint

theorem sane_step (h : Sane addr s) (hstep : Step prev thread addr s s') : Sane addr s' := by
  cases hstep with
  | fault hpoint => exact sane_deliver fun _ ↦ rfl
  | forwards hpoint =>
    intro handlers info hrunning
    obtain ⟨rfl, rfl⟩ := Point.running.inj hrunning
    obtain ⟨hpending, ⟨covers, hcovers, hlength⟩, haddr⟩ := h _ _ hpoint
    exact ⟨hpending, ⟨covers, hcovers, Nat.le_of_succ_le hlength⟩, haddr⟩
  | reraises hpoint => exact sane_of_point fun _ _ hrunning ↦ nomatch hrunning
  | guarded hpoint => exact sane_handle
  | raised other hpoint hpending => exact sane_deliver fun hraised ↦ nomatch hraised
  | retried hpoint hpending => exact sane_of_point fun _ _ hrunning ↦ nomatch hrunning

def height (s : Process) : ℕ :=
  match s.installed with
  | some covers => covers.length + 1
  | none => 0

/-- What is left until a handler is restored or the thread is out of the handlers. -/
def phase (s : Process) : ℕ :=
  match s.point with
  | .access => height s + 1
  | .running handlers info => handlers.length + 1 + if info.raised then height s + 2 else 0
  | .returning => if s.pending then 2 * height s + 3 else height s + 2
  | .resumed _ | .chained | .dead => 0

/-- Every handler that is restored lowers the height by more than what it adds to the phase. -/
def weight (s : Process) : ℕ := height s * height s + 8 * height s + phase s

theorem weight_deliver {info : Siginfo}
    (h : (if info.raised then 2 * height s + 3 else height s + 1) ≤ phase s) :
    weight (s.deliver info) < weight s := by
  cases hinstalled : s.installed with
  | none =>
    have hheight : height s = 0 := by simp [height, hinstalled]
    have hdelivered : s.deliver info = { s with pending := false, point := .dead } := by
      simp [deliver, hinstalled]
    have hweight : weight (s.deliver info) = 0 := by
      simp [hdelivered, weight, height, phase, hinstalled]
    have hpositive : 0 < phase s := by
      split at h <;> omega
    rw [hweight]
    exact Nat.add_pos_right _ hpositive
  | some covers =>
    have hheight : height s = covers.length + 1 := by simp [height, hinstalled]
    have hdelivered : s.deliver info = { s with pending := false, point := .running covers info } :=
      by simp [deliver, hinstalled]
    have hsame : height (s.deliver info) = height s := by simp [hdelivered, height]
    have hphase : phase (s.deliver info) < phase s := by
      have hrunning : phase (s.deliver info) =
          covers.length + 1 + if info.raised then height s + 2 else 0 := by
        simp [hdelivered, phase, height]
      rw [hrunning]
      cases hraised : info.raised with
      | true =>
        rw [hraised, if_pos rfl] at h
        rw [if_pos rfl]
        omega
      | false =>
        rw [hraised, if_neg Bool.false_ne_true] at h
        rw [if_neg Bool.false_ne_true]
        omega
    unfold weight
    rw [hsame]
    exact Nat.add_lt_add_left hphase _

theorem weight_of_point (point : Point) (pending : Bool)
    (h : phase { s with pending := pending, point := point } < phase s) :
    weight { s with pending := pending, point := point } < weight s :=
  Nat.add_lt_add_left h _

theorem weight_handle {info : Siginfo} (h : Sane addr s) (hpoint : s.point = .running [] info) :
    weight (s.handle prev thread info) < weight s := by
  obtain ⟨hpending, ⟨covers, hcovers, -⟩, -⟩ := h _ _ hpoint
  have hheight : height s = covers.length + 1 := by simp [height, hcovers]
  unfold handle
  split
  · rename_i hreturned
    apply weight_of_point .returning s.pending
    simp [phase, hpoint, hpending, height, raised_of_returned hreturned]
  · rename_i hrecovered
    simp only [weight, phase, height, hpoint, hcovers]
    omega
  · rename_i hchained
    simp only [weight, phase, height, hpoint, hcovers]
    omega
  · rename_i hfatal
    simp only [weight, phase, height, hpoint, hcovers, if_true]
    omega

theorem weight_step (h : Sane addr s) (hstep : Step prev thread addr s s') :
    weight s' < weight s := by
  cases hstep with
  | fault hpoint =>
    apply weight_deliver
    simp [phase, hpoint]
  | @forwards below info hpoint =>
    apply weight_of_point (.running below info) s.pending
    simp [phase, hpoint, height]
  | reraises hpoint =>
    obtain ⟨-, ⟨covers, hcovers, hlength⟩, -⟩ := h _ _ hpoint
    have hheight : height s = covers.length + 1 := by simp [height, hcovers]
    rw [List.length_cons] at hlength
    simp only [weight, phase, height, hcovers, if_true]
    nlinarith
  | guarded hpoint => exact weight_handle h hpoint
  | raised other hpoint hpending =>
    apply weight_deliver
    simp [phase, hpoint, hpending]
  | retried hpoint hpending =>
    apply weight_of_point .access s.pending
    simp [phase, hpoint, hpending, height]

theorem progress (h : Underway s.point) : ∃ s', Step prev thread addr s s' := by
  cases hpoint : s.point with
  | access => exact ⟨_, .fault hpoint⟩
  | running handlers info =>
    cases handlers with
    | nil => exact ⟨_, .guarded hpoint⟩
    | cons cover below =>
      cases cover with
      | forwards => exact ⟨_, .forwards hpoint⟩
      | reraises => exact ⟨_, .reraises hpoint⟩
  | returning =>
    cases hpending : s.pending with
    | true => exact ⟨_, .raised 0 hpoint hpending⟩
    | false => exact ⟨_, .retried hpoint hpending⟩
  | resumed other =>
    rw [hpoint] at h
    exact h.elim
  | chained =>
    rw [hpoint] at h
    exact h.elim
  | dead =>
    rw [hpoint] at h
    exact h.elim

/-! ## What the end is -/

/-- The thread is resumed with its guard disarmed, or on its way there. -/
def Recovering (guards : ℕ → Guard) (thread : ℕ) (s : Process) : Prop :=
  (Underway s.point ∧ s.installed.isSome ∧ s.guards = guards) ∨
    (s.point = .resumed thread ∧
      s.guards = Function.update guards thread { guards thread with ptr := NULL })

/-- The fault is passed to whoever owned the signal before, or on its way there. -/
def Passing (prev : Disposition) (guards : ℕ → Guard) (s : Process) : Prop :=
  ((Underway s.point ∧ (s.installed.isSome ∨ prev ≠ .handler)) ∨ s.point = passed prev) ∧
    s.guards = guards

theorem underway_of_step (hstep : Step prev thread addr s s') : Underway s.point := by
  cases hstep with
  | fault hpoint => exact hpoint ▸ trivial
  | forwards hpoint => exact hpoint ▸ trivial
  | reraises hpoint => exact hpoint ▸ trivial
  | guarded hpoint => exact hpoint ▸ trivial
  | raised other hpoint hpending => exact hpoint ▸ trivial
  | retried hpoint hpending => exact hpoint ▸ trivial

theorem recovering_deliver (info : Siginfo) (hinstalled : s.installed.isSome)
    (hguards : s.guards = guards) : Recovering guards thread (s.deliver info) := by
  obtain ⟨covers, hcovers⟩ := Option.isSome_iff_exists.mp hinstalled
  unfold deliver
  rw [hcovers]
  exact .inl ⟨trivial, rfl, hguards⟩

/-- On an armed thread, a raised signal is returned from, and the fault itself is recovered. -/
theorem recovering_handle {info : Siginfo} (hinside : Inside (guards thread) addr)
    (haddr : info.raised = false → info.addr = addr) (hinstalled : s.installed.isSome)
    (hguards : s.guards = guards) : Recovering guards thread (s.handle prev thread info) := by
  unfold handle
  rw [hguards]
  cases hraised : info.raised with
  | true =>
    rw [handler_raised hinside.1 hraised]
    exact .inl ⟨trivial, hinstalled, rfl⟩
  | false =>
    rw [handler_inside hraised (haddr hraised ▸ hinside)]
    exact .inr ⟨rfl, rfl⟩

theorem recovering_step (hinside : Inside (guards thread) addr) (hsane : Sane addr s)
    (h : Recovering guards thread s) (hstep : Step prev thread addr s s') :
    Recovering guards thread s' := by
  have hunder := underway_of_step hstep
  obtain ⟨-, hinstalled, hguards⟩ := h.resolve_right fun hresumed ↦ by
    rw [hresumed.1] at hunder
    exact hunder
  cases hstep with
  | fault hpoint => exact recovering_deliver _ hinstalled hguards
  | forwards hpoint => exact .inl ⟨trivial, hinstalled, hguards⟩
  | reraises hpoint => exact .inl ⟨trivial, rfl, hguards⟩
  | guarded hpoint => exact recovering_handle hinside (hsane _ _ hpoint).2.2 hinstalled hguards
  | raised other hpoint hpending => exact recovering_deliver _ hinstalled hguards
  | retried hpoint hpending => exact .inl ⟨trivial, hinstalled, hguards⟩

theorem Recovering.not_passed (h : Recovering guards thread s) :
    s.point ≠ .chained ∧ s.point ≠ .dead := by
  rcases h with ⟨hunder, -, -⟩ | ⟨hresumed, -⟩
  · constructor
    · intro hpoint
      rw [hpoint] at hunder
      exact hunder
    · intro hpoint
      rw [hpoint] at hunder
      exact hunder
  · rw [hresumed]
    exact ⟨nofun, nofun⟩

theorem passing_deliver (info : Siginfo) (hinstalled : s.installed.isSome ∨ prev ≠ .handler)
    (hguards : s.guards = guards) : Passing prev guards (s.deliver info) := by
  unfold deliver
  split
  · exact ⟨.inl ⟨trivial, hinstalled⟩, hguards⟩
  · rename_i hdefault
    have hprev : prev ≠ .handler := hinstalled.resolve_left fun hsome ↦ by
      rw [hdefault] at hsome
      cases hsome
    exact ⟨.inr (if_neg hprev).symm, hguards⟩

/-- Elsewhere the fault is passed on, and so is a raised signal on a thread that is not armed. -/
theorem passing_handle {info : Siginfo} (houtside : ¬Inside (guards thread) addr)
    (haddr : info.raised = false → info.addr = addr)
    (hinstalled : s.installed.isSome ∨ prev ≠ .handler) (hguards : s.guards = guards) :
    Passing prev guards (s.handle prev thread info) := by
  unfold handle
  rw [hguards]
  by_cases hreturns : (guards thread).ptr ≠ NULL ∧ info.raised = true
  · rw [handler_raised hreturns.1 hreturns.2]
    exact ⟨.inl ⟨trivial, hinstalled⟩, rfl⟩
  · have hnot : ¬Inside (guards thread) info.addr := by
      cases hraised : info.raised with
      | true => exact fun hinside ↦ hreturns ⟨hinside.1, hraised⟩
      | false => exact haddr hraised ▸ houtside
    rw [handler_outside hreturns hnot]
    by_cases hprev : prev = .handler
    · rw [if_pos hprev]
      exact ⟨.inr (if_pos hprev).symm, rfl⟩
    · rw [if_neg hprev]
      exact ⟨.inl ⟨trivial, .inr hprev⟩, rfl⟩

theorem passing_step (houtside : ¬Inside (guards thread) addr) (hsane : Sane addr s)
    (h : Passing prev guards s) (hstep : Step prev thread addr s s') :
    Passing prev guards s' := by
  have hunder := underway_of_step hstep
  obtain ⟨hwhere, hguards⟩ := h
  obtain ⟨-, hinstalled⟩ := hwhere.resolve_right fun hpassed ↦ by
    rw [hpassed, passed] at hunder
    split at hunder <;> exact hunder
  cases hstep with
  | fault hpoint => exact passing_deliver _ hinstalled hguards
  | forwards hpoint => exact ⟨.inl ⟨trivial, hinstalled⟩, hguards⟩
  | reraises hpoint => exact ⟨.inl ⟨trivial, .inl rfl⟩, hguards⟩
  | guarded hpoint => exact passing_handle houtside (hsane _ _ hpoint).2.2 hinstalled hguards
  | raised other hpoint hpending => exact passing_deliver _ hinstalled hguards
  | retried hpoint hpending => exact ⟨.inl ⟨trivial, hinstalled⟩, hguards⟩

theorem Passing.not_resumed (h : Passing prev guards s) (other : ℕ) : s.point ≠ .resumed other := by
  rcases h.1 with ⟨hunder, -⟩ | hpassed
  · intro hpoint
    rw [hpoint] at hunder
    exact hunder
  · rw [hpassed, passed]
    split <;> exact nofun

end Runs

section Faults

variable (prev : Disposition) (guards : ℕ → Guard) (covers : List Cover) (thread addr : ℕ)

theorem sane_faulting : Sane addr (faulting guards covers) :=
  sane_of_point fun _ _ hpoint ↦ nomatch hpoint

/-- The thread is at its recovery point with its guard disarmed. -/
def Recovered (s : Process) : Prop :=
  s.point = .resumed thread ∧
    s.guards = Function.update guards thread { guards thread with ptr := NULL }

/-- Every step takes a fault nearer to its end. So what the steps keep and the end completes comes
about, and holds all the way. -/
theorem settles (inv goal : Process → Prop) (hstart : inv (faulting guards covers))
    (hstep : ∀ s s', Sane addr s → inv s → Step prev thread addr s s' → inv s')
    (hgoal : ∀ s, inv s → ¬goal s → Underway s.point) :
    (signals prev guards covers thread addr).Inevitable goal (faulting guards covers) ∧
    ∀ s, (signals prev guards covers thread addr).Reachable s → inv s := by
  have hmove (s : Process) (_ : Unit) (s' : Process) (h : Sane addr s ∧ inv s)
      (hmoved : Step prev thread addr s s') : Sane addr s' ∧ inv s' :=
    ⟨sane_step h.1 hmoved, hstep s s' h.1 h.2 hmoved⟩
  have hbegins : Sane addr (faulting guards covers) ∧ inv (faulting guards covers) :=
    ⟨sane_faulting guards covers addr, hstart⟩
  constructor
  · apply System.inevitable_of_measure weight hmove _ _ hbegins
    · exact fun s _ s' h hmoved ↦ weight_step h.1 hmoved
    · exact fun s h hunfinished ↦ ⟨(), progress (hgoal s h.2 hunfinished)⟩
  · intro s hreach
    have hend := System.Reaches.invariant (fun s hs ↦ hs ▸ hbegins)
      (fun s label s' h _ hmoved ↦ hmove s label s' h hmoved) hreach
    exact hend.2

theorem inside_recovers (hinside : Inside (guards thread) addr) :
    (signals prev guards covers thread addr).Inevitable (Recovered guards thread)
      (faulting guards covers) ∧
    ∀ s, (signals prev guards covers thread addr).Reachable s →
      s.point ≠ .chained ∧ s.point ≠ .dead := by
  have hsettles := settles prev guards covers thread addr (Recovering guards thread)
    (Recovered guards thread) (.inl ⟨trivial, rfl, rfl⟩)
    (fun _ _ hsane h hstep ↦ recovering_step hinside hsane h hstep)
    fun _ h hunfinished ↦ (h.resolve_right hunfinished).1
  exact ⟨hsettles.1, fun s hreach ↦ (hsettles.2 s hreach).not_passed⟩

theorem outside_passes (houtside : ¬Inside (guards thread) addr) :
    (signals prev guards covers thread addr).Inevitable (fun s ↦ s.point = passed prev)
      (faulting guards covers) ∧
    ∀ s, (signals prev guards covers thread addr).Reachable s →
      s.guards = guards ∧ ∀ other, s.point ≠ .resumed other := by
  have hsettles := settles prev guards covers thread addr (Passing prev guards)
    (fun s ↦ s.point = passed prev) ⟨.inl ⟨trivial, .inl rfl⟩, rfl⟩
    (fun _ _ hsane h hstep ↦ passing_step houtside hsane h hstep)
    fun _ h hunfinished ↦ (h.1.resolve_right hunfinished).1
  exact ⟨hsettles.1, fun s hreach ↦ ⟨(hsettles.2 s hreach).2, (hsettles.2 s hreach).not_resumed⟩⟩

/-- A fault inside the armed range of its thread comes to its recovery point with the guard
disarmed, and the handler from before never runs. Any other fault comes to that handler, or ends
the process where there was none, and resumes nowhere and disarms nothing. -/
theorem fault_settles :
    (Inside (guards thread) addr →
      (signals prev guards covers thread addr).Inevitable (Recovered guards thread)
        (faulting guards covers) ∧
      ∀ s, (signals prev guards covers thread addr).Reachable s →
        s.point ≠ .chained ∧ s.point ≠ .dead) ∧
    (¬Inside (guards thread) addr →
      (signals prev guards covers thread addr).Inevitable (fun s ↦ s.point = passed prev)
        (faulting guards covers) ∧
      ∀ s, (signals prev guards covers thread addr).Reachable s →
        s.guards = guards ∧ ∀ other, s.point ≠ .resumed other) :=
  ⟨inside_recovers prev guards covers thread addr, outside_passes prev guards covers thread addr⟩

end Faults

/-- Thread 0 is armed for a page, and no other thread is armed. -/
def armedPage : ℕ → Guard
  | 0 => { ptr := 4096, len := 4096 }
  | _ => { ptr := NULL, len := 0 }

/-- Two handlers that raise the signal again do not keep a fault in the page from its recovery
point, nor a fault of another thread from the handler before. -/
theorem armed_page_settles :
    (signals .handler armedPage [.reraises, .forwards, .reraises] 0 4100).Inevitable
      (Recovered armedPage 0) (faulting armedPage [.reraises, .forwards, .reraises]) ∧
    (signals .handler armedPage [.reraises, .forwards, .reraises] 1 4100).Inevitable
      (fun s ↦ s.point = passed .handler) (faulting armedPage [.reraises, .forwards, .reraises]) := by
  have hinside : Inside (armedPage 0) 4100 := ⟨by decide, by decide, by decide⟩
  have houtside : ¬Inside (armedPage 1) 4100 := fun h ↦ h.1 rfl
  exact ⟨((fault_settles .handler armedPage _ 0 4100).1 hinside).1,
    ((fault_settles .handler armedPage _ 1 4100).2 houtside).1⟩

end TtDal.Safety.SignalChain
