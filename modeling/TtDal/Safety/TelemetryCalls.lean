import TtDal.Driver.Severance
import TtDal.Safety.GuardedReads

/-!
# The calls around the telemetry reads

What the functions that `tt_telemetry` calls do in every environment: the windows they are granted
and free, and what of the calling thread they touch. None of them reads through a window.
-/

namespace TtDal.Safety.TelemetryCalls

open Effect Platform Dev Driver GuardedReads

/-! ## Windows along a trace -/

/-- The windows that were granted. -/
def allocated (trace : List (Event Sys)) : List (ℤ × ℕ) :=
  trace.filterMap fun
    | ⟨.allocateTlb fd _, .ok out _⟩ => some (fd, out.id)
    | _ => none

/-- The windows that were to be freed. -/
def freed (trace : List (Event Sys)) : List (ℤ × ℕ) :=
  trace.filterMap fun event ↦ match event.op with
    | .freeTlb fd id => some (fd, id)
    | _ => none

structure Records (windows frees : List (ℤ × ℕ)) (trace : List (Event Sys)) : Prop where
  allocated : allocated trace = windows
  freed : freed trace = frees

section Trace

variable {windows windows' frees frees' : List (ℤ × ℕ)} {trace trace' : List (Event Sys)}
  {good : ℕ → Prop} {guard : Guard}

theorem Records.append (h : Records windows frees trace) (h' : Records windows' frees' trace') :
    Records (windows ++ windows') (frees ++ frees') (trace ++ trace') where
  allocated := List.filterMap_append.trans (congrArg₂ _ h.allocated h'.allocated)
  freed := List.filterMap_append.trans (congrArg₂ _ h.freed h'.freed)

theorem faults_append : Faults (trace ++ trace') ↔ Faults trace ∨ Faults trace' := by
  simp only [Faults, List.mem_append, exists_or]

/-- Reads record nothing. -/
theorem records_loads (h : Loads good guard trace) : Records [] [] trace where
  allocated := List.filterMap_eq_nil_iff.mpr fun event hevent ↦ by
    obtain ⟨addr, -, hop⟩ := h event hevent
    obtain ⟨op, answer⟩ := event
    obtain rfl : op = .load guard addr := hop
    rfl
  freed := List.filterMap_eq_nil_iff.mpr fun event hevent ↦ by
    obtain ⟨addr, -, hop⟩ := h event hevent
    simp [hop]

end Trace

/-! ## The calls -/

/-- Nothing of the thread changed but `errno`. -/
def OnlyErrno (thread thread' : Thread) : Prop :=
  ∃ errno, thread' = { thread with errno := errno }

section Calls

variable {sess : Session} {tlb : Tlb} {thread thread' : Thread}

theorem OnlyErrno.armed (h : OnlyErrno thread thread') : thread'.armed = thread.armed := by
  obtain ⟨errno, rfl⟩ := h
  rfl

theorem OnlyErrno.tables (h : OnlyErrno thread thread') : thread'.tables = thread.tables := by
  obtain ⟨errno, rfl⟩ := h
  rfl

/-- Code that makes no read does not fault. -/
theorem not_faults_of_confined {trace : List (Event Sys)}
    (h : ∀ event ∈ trace, ∃ v, (Contract.confined NoLoad : Contract Sys Unit).permits event.op v) :
    ¬Faults trace := by
  rintro ⟨guard, addr, hmem⟩
  obtain ⟨_, hop⟩ := h _ hmem
  exact hop guard addr rfl

theorem OnlyErrno.trans {thread'' : Thread} (h : OnlyErrno thread thread')
    (h' : OnlyErrno thread' thread'') : OnlyErrno thread thread'' := by
  obtain ⟨errno, rfl⟩ := h
  obtain ⟨errno', rfl⟩ := h'
  exact ⟨errno', rfl⟩

theorem devInfo_records : Procedure.wp (.confined NoLoad) (devInfo sess)
    (fun trace _ thread' _ ↦ Records [] [] trace ∧ OnlyErrno thread thread') thread () := by
  unfold devInfo
  split
  · exact ⟨⟨rfl, rfl⟩, _, rfl⟩
  · rw [Procedure.wp_bind, wp_sys]
    refine ⟨(fun _ _ hload ↦ by cases hload), fun reply _ _ ↦ ?_⟩
    cases reply with
    | fail err => exact ⟨⟨rfl, rfl⟩, _, rfl⟩
    | ok info residue => exact ⟨⟨rfl, rfl⟩, _, rfl⟩

theorem ttTrapArm_records (ptr len : ℕ) : Procedure.wp (.confined NoLoad) (ttTrapArm ptr len)
    (fun trace _ thread' _ ↦ Records [] [] trace ∧ thread'.armed = ⟨ptr, len⟩ ∧
      thread'.tables = thread.tables ∧ thread'.errno = thread.errno) thread () := by
  rw [ttTrapArm, Procedure.wp_bind, Procedure.wp_get]
  split
  · exact ⟨⟨rfl, rfl⟩, rfl, rfl, rfl⟩
  · rw [Procedure.wp_bind, wp_sys]
    exact ⟨(fun _ _ hload ↦ by cases hload), fun _ _ _ ↦ ⟨⟨rfl, rfl⟩, rfl, rfl, rfl⟩⟩

/-- An uncached window of a session that is open is recorded when it was granted. -/
theorem tlbAlloc_records (size : ℕ) :
    Procedure.wp (.confined NoLoad) (tlbAlloc sess size TT_TLB_UC tlb) (fun trace out thread' _ ↦
      Records (if out.1 = .TT_OK () then [(sess.fd, out.2.id)] else []) [] trace ∧
        (out.1 = .TT_OK () → out.2.len = size) ∧ OnlyErrno thread thread') thread () := by
  unfold tlbAlloc
  split
  · exact ⟨⟨rfl, rfl⟩, by simp, _, rfl⟩
  · simp only [Procedure.wp_bind, wp_sys]
    refine ⟨(fun _ _ hload ↦ by cases hload), fun reply _ _ ↦ ?_⟩
    cases reply with
    | fail err => exact ⟨⟨rfl, rfl⟩, by simp, _, rfl⟩
    | ok out residue => exact ⟨⟨rfl, rfl⟩, fun _ ↦ rfl, _, rfl⟩

theorem tlbUnconfigure_records : Procedure.wp (.confined NoLoad) (tlbUnconfigure tlb)
    (fun trace _ thread' _ ↦ Records [] [] trace ∧ OnlyErrno thread thread') thread () := by
  rw [tlbUnconfigure, Procedure.wp_bind, wp_getErrno]
  split
  · rw [Procedure.wp_bind, wp_sys]
    exact ⟨(fun _ _ hload ↦ by cases hload), fun _ _ _ ↦ ⟨⟨rfl, rfl⟩, _, rfl⟩⟩
  · exact ⟨⟨rfl, rfl⟩, _, rfl⟩

theorem tlbBind_records (cfg : TlbConfig) : Procedure.wp (.confined NoLoad) (tlbBind sess tlb cfg)
    (fun trace _ thread' _ ↦ Records [] [] trace ∧ OnlyErrno thread thread') thread () := by
  unfold tlbBind
  split
  · exact ⟨⟨rfl, rfl⟩, _, rfl⟩
  · simp only [Procedure.wp_bind, wp_sys]
    refine ⟨(fun _ _ hload ↦ by cases hload), fun reply _ _ ↦ ?_⟩
    cases reply with
    | fail err =>
      simp only [Procedure.wp_bind, wp_ttFailIo]
      refine Procedure.wp_mono tlbUnconfigure_records fun _ _ thread' _ hclear ↦ ?_
      obtain ⟨⟨hallocated, hfreed⟩, herrno⟩ := hclear
      exact ⟨⟨hallocated, hfreed⟩, .trans ⟨_, rfl⟩ herrno⟩
    | ok start residue =>
      simp only [Procedure.wp_bind, wp_sys]
      refine ⟨(fun _ _ hload ↦ by cases hload), fun reply _ _ ↦ ?_⟩
      cases reply with
      | fail err =>
        simp only [Procedure.wp_bind, wp_sys, wp_ttFailIo]
        refine ⟨(fun _ _ hload ↦ by cases hload), fun _ _ _ ↦ ?_⟩
        refine Procedure.wp_mono tlbUnconfigure_records fun _ _ thread' _ hclear ↦ ?_
        obtain ⟨⟨hallocated, hfreed⟩, herrno⟩ := hclear
        exact ⟨⟨hallocated, hfreed⟩, .trans ⟨_, rfl⟩ herrno⟩
      | ok value residue =>
        dsimp only
        split
        · rw [Procedure.wp_bind, wp_sys]
          exact ⟨(fun _ _ hload ↦ by cases hload), fun _ _ _ ↦ ⟨⟨rfl, rfl⟩, _, rfl⟩⟩
        · exact ⟨⟨rfl, rfl⟩, _, rfl⟩

/-- Once its mapping is gone, a window of a session that is open is to be freed. -/
theorem tlbRelease_records :
    Procedure.wp (.confined NoLoad) (tlbRelease sess tlb) (fun trace _ thread' _ ↦
      (¬sess.fd < 0 → Records [] [(sess.fd, tlb.id)] trace) ∧ OnlyErrno thread thread')
      thread () := by
  unfold tlbRelease
  split
  · rename_i hfd
    exact ⟨fun hopen ↦ absurd hfd hopen, _, rfl⟩
  · simp only [Procedure.wp_bind, wp_sys]
    refine ⟨(fun _ _ hload ↦ by cases hload), fun reply _ _ ↦ ?_⟩
    cases reply with
    | fail err => exact ⟨fun _ ↦ ⟨rfl, rfl⟩, _, rfl⟩
    | ok value residue => exact ⟨fun _ ↦ ⟨rfl, rfl⟩, _, rfl⟩

theorem tlbFree_onlyErrno : Procedure.wp (.confined NoLoad) (tlbFree sess tlb)
    (fun _ _ thread' _ ↦ OnlyErrno thread thread') thread () := by
  unfold tlbFree
  split
  · simp only [Procedure.wp_bind, wp_sys]
    refine ⟨(fun _ _ hload ↦ by cases hload), fun reply _ _ ↦ ?_⟩
    cases reply with
    | fail err => exact ⟨_, rfl⟩
    | ok value residue =>
      exact Procedure.wp_mono tlbRelease_records fun _ _ _ _ hreleased ↦ .trans ⟨_, rfl⟩ hreleased.2
  · exact Procedure.wp_mono tlbRelease_records fun _ _ _ _ hreleased ↦ hreleased.2

end Calls

end TtDal.Safety.TelemetryCalls
