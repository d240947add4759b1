import TtDal.Safety.TelemetryCalls
import TtDal.Safety.WindowMapping

/-!
# What telemetry leaves behind

Telemetry allocates a window, maps it twice and reads through it under a guard. Control leaves
from any of its reads once the mapping is severed. Whatever the firmware holds and wherever control
leaves, the guard is disarmed, the mappings are gone, and the window was freed once.
-/

namespace TtDal.Safety.TelemetryCleanup

open Effect Platform Dev Driver GuardedReads WindowMapping TelemetryCalls

section Calls

variable {sess : Session} {tlb : Tlb} {thread : Thread}

/-- Where unmapping succeeds, a window is always to be freed. -/
theorem tlbFree_records {name : ℕ} {bound : Option TlbConfig} {space : Space}
    (hfd : ¬sess.fd < 0) (h : Serves name sess tlb bound space) :
    Procedure.wp (Space.contract name) (tlbFree sess tlb) (fun trace _ _ _ ↦
      Records [] [(sess.fd, tlb.id)] trace) thread space := by
  unfold tlbFree
  split
  · rename_i hptr
    rw [Procedure.wp_bind]
    refine wp_munmap (h.maps.live hptr) fun residue ↦ ?_
    refine Procedure.wp_mono (Procedure.wp_confined tlbRelease_records fun _ _ _ ↦ trivial)
      fun trace _ _ _ hreleased ↦ ?_
    obtain ⟨hallocated, hfreed⟩ := hreleased.1 hfd
    exact ⟨hallocated, hfreed⟩
  · exact Procedure.wp_mono (Procedure.wp_confined tlbRelease_records fun _ _ _ ↦ trivial)
      fun _ _ _ _ hreleased ↦ hreleased.1 hfd

end Calls

/-! ## The use of a window -/

section Window

variable {name : ℕ} {memory : ℕ → Memory} {cut : Option ℕ} {sess : Session} {tlb tlb' : Tlb}
  {thread thread' : Thread} {s s' : Severance}

/-- What is known of code without reads, from its work on the space and from its trace. -/
theorem wp_served {α : Type} {procedure : C α} {post : Procedure.Post Sys α Thread Space}
    {records : List (Event Sys) → α → Thread → Prop}
    (hrecords : Procedure.wp (.confined NoLoad) procedure
      (fun trace value thread' _ ↦ records trace value thread') thread ())
    (h : Procedure.wp (Space.contract name) procedure post thread s.space) :
    Procedure.wp (Severance.contract name memory cut) procedure (fun trace value thread' s' ↦
      post trace value thread' s'.space ∧ records trace value thread' ∧ ¬Faults trace)
      thread s := by
  have hserved : Procedure.wp (Severance.contract name memory cut) procedure
      (fun trace value thread' s' ↦ ∃ space, s'.space = space ∧ post trace value thread' space)
      thread s := by
    refine Procedure.wp_refines (fun _ _ ↦ trivial) ?_ ?_ ?_
      (Procedure.wp_mono hrecords fun _ _ _ _ _ ↦ trivial) h rfl
    · rintro op v w answer v' hop rfl hanswer
      exact ⟨v'.space, Severance.answers_of_noLoad hop hanswer, rfl⟩
    · exact fun op v _ hop _ _ ↦ Severance.permits_of_noLoad hop
    · exact fun _ hreason _ ↦ False.elim hreason
  have htrace : Procedure.wp (Severance.contract name memory cut) procedure
      (fun trace value thread' _ ↦ records trace value thread' ∧ ¬Faults trace) thread s := by
    have hquiet := Procedure.wp_mono (Procedure.wp_permitted hrecords) fun _ _ _ _ hpost ↦
      And.intro hpost.1 (not_faults_of_confined hpost.2)
    exact Procedure.wp_confined hquiet fun op v hop ↦ Severance.permits_of_noLoad hop
  refine Procedure.wp_mono (Procedure.wp_and hserved htrace) fun _ _ _ _ hpost ↦ ?_
  obtain ⟨⟨_, rfl, hspace⟩, htrace⟩ := hpost
  exact ⟨hspace, htrace⟩

/-- The reads of a window stay inside its mapping. -/
def Within (start addr : ℕ) : Prop :=
  start ≤ addr ∧ addr + 4 ≤ start + TT_TLB_2MB

/-- Reads under the guard of a mapping resume where they fault and leave the space alone. -/
theorem wp_reads {α : Type} {start : ℕ} {code : Guarded α} (h : Reads (Within start) code)
    (hstart : start ≠ NULL) (harmed : thread.armed = ⟨start, TT_TLB_2MB⟩)
    (hwhole : s.space.Whole name start TT_TLB_2MB) :
    Procedure.wp (Severance.contract name memory cut) code.run (fun trace res thread' s' ↦
      Ran (Within start) thread trace res thread' ∧ s'.space = s.space) thread s := by
  have hpermits (addr : ℕ) (s' : Severance) (hwithin : Within start addr)
      (hspace : s'.space = s.space) :
      (Severance.contract name memory cut).permits (.load thread.armed addr) s' := by
    change Severance.Readable name s'.space thread.armed addr
    rw [harmed, hspace]
    exact ⟨hstart, hwhole, hwithin.1, hwithin.2⟩
  have hstep (addr : ℕ) (s₁ : Severance) (answer : Option UInt32) (s₂ : Severance)
      (hspace : s₁.space = s.space) (hanswer : (Severance.contract name memory cut).answers
        (.load thread.armed addr) s₁ answer s₂) : s₂.space = s.space := by
    rw [hanswer.1]
    exact hspace
  have hresumes (addr : ℕ) (hwithin : Within start addr) :
      handler thread.armed thread.prev { addr := addr, raised := false } = .recovered := by
    have hlt : addr < start + TT_TLB_2MB := by
      have hle := hwithin.2
      omega
    rw [harmed]
    simp [handler, hstart, hwithin.1, hlt]
  exact h.wp hpermits (fun addr s₁ answer s₂ _ ↦ hstep addr s₁ answer s₂)
    (fun addr hwithin ↦ .inl (hresumes addr hwithin)) rfl

/-- What a use of a window leaves behind, before the window is given back. -/
structure Used (name : ℕ) (sess : Session) (tlb : Tlb) (s : Severance) (trace : List (Event Sys))
    (status : Status) (tlb' : Tlb) (errno : Errno) (s' : Severance) : Prop where
  records : Records [] [] trace
  id : tlb'.id = tlb.id
  frame : Frame name (sess.fd, tlb.id) s.space s'.space
  serves : ∃ bound, Serves name sess tlb' bound s'.space
  faults : Faults trace → status = .TT_ERR ∧ errno = .ECONNRESET

/-- A passage at whose end the window is bound: nothing but the handle was worked on, and no read
faulted. -/
structure Passes (name : ℕ) (sess : Session) (tlb : Tlb) (s : Severance) (trace : List (Event Sys))
    (tlb' : Tlb) (s' : Severance) : Prop where
  records : Records [] [] trace
  quiet : ¬Faults trace
  id : tlb'.id = tlb.id
  len : tlb'.len = tlb.len
  frame : Frame name (sess.fd, tlb.id) s.space s'.space
  serves : ∃ bound, Serves name sess tlb' bound s'.space
  mapped : tlb'.ptr ≠ NULL

theorem Passes.whole {trace : List (Event Sys)} (h : Passes name sess tlb s trace tlb' s')
    (hlen : tlb.len = TT_TLB_2MB) : s'.space.Whole name tlb'.ptr TT_TLB_2MB := by
  obtain ⟨bound, hserves⟩ := h.serves
  exact h.len.trans hlen ▸ hserves.maps.live h.mapped

/-- Code that leaves the space alone keeps the window bound. -/
theorem Passes.still {s₁ : Severance} {first trace : List (Event Sys)}
    (h : Passes name sess tlb s first tlb' s₁) (hrecords : Records [] [] trace)
    (hquiet : ¬Faults trace) (hspace : s'.space = s₁.space) :
    Passes name sess tlb' s₁ trace tlb' s' where
  records := hrecords
  quiet := hquiet
  id := rfl
  len := rfl
  frame := by
    rw [hspace]
    exact .refl _ _ _
  serves := by
    rw [hspace]
    exact h.serves
  mapped := h.mapped

theorem Passes.used {tlb₁ : Tlb} {s₁ : Severance} {first rest : List (Event Sys)} {status : Status}
    {errno : Errno} (h : Passes name sess tlb s first tlb₁ s₁)
    (hrest : Used name sess tlb₁ s₁ rest status tlb' errno s') :
    Used name sess tlb s (first ++ rest) status tlb' errno s' where
  records := h.records.append hrest.records
  id := hrest.id.trans h.id
  frame := h.frame.trans (h.id ▸ hrest.frame)
  serves := hrest.serves
  faults hfault := hrest.faults ((faults_append.mp hfault).resolve_left h.quiet)

/-- Reads, and what the code does about a fault. -/
theorem Passes.reads {α : Type} {good : ℕ → Prop} {s₁ : Severance} {first loads : List (Event Sys)}
    {res : Except Unit α} {status : Status} {errno : Errno}
    (h : Passes name sess tlb s first tlb' s₁) (hran : Ran good thread loads res thread')
    (hspace : s'.space = s₁.space)
    (hres : res = .error () → status = .TT_ERR ∧ errno = .ECONNRESET) :
    Used name sess tlb' s₁ loads status tlb' errno s' where
  records := records_loads hran.loads
  id := rfl
  frame := by
    rw [hspace]
    exact .refl _ _ _
  serves := by
    rw [hspace]
    exact h.serves
  faults hfault := hres (hran.faults.mp hfault)

/-- Binding the window fails, or leaves it bound. -/
theorem wp_bindWindow {bound : Option TlbConfig} (h : Serves name sess tlb bound s.space)
    (cfg : TlbConfig) :
    Procedure.wp (Severance.contract name memory cut) (tlbBind sess tlb cfg)
      (fun trace out thread' s' ↦
        (out.1 = .TT_ERR → Used name sess tlb s trace .TT_ERR out.2 thread'.errno s') ∧
        (out.1 = .TT_OK () → Passes name sess tlb s trace out.2 s')) thread s := by
  refine Procedure.wp_mono (wp_served (tlbBind_records cfg) (wp_tlbBind h cfg))
    fun trace out thread' s' hbind ↦ ?_
  obtain ⟨hbinds, ⟨hrecords, -⟩, hquiet⟩ := hbind
  obtain ⟨ptr, hhandle⟩ := hbinds.handle
  have hid : out.2.id = tlb.id := by rw [hhandle]
  have hlen : out.2.len = tlb.len := by rw [hhandle]
  constructor
  · intro _
    exact
      { records := hrecords
        id := hid
        frame := hbinds.frame
        serves := ⟨_, hbinds.serves⟩
        faults := fun hfault ↦ absurd hfault hquiet }
  · intro hstatus
    exact
      { records := hrecords
        quiet := hquiet
        id := hid
        len := hlen
        frame := hbinds.frame
        serves := ⟨_, hbinds.serves⟩
        mapped := (hbinds.moved hstatus).1 }

/-- The guard is armed for the whole window. -/
theorem wp_armWindow {first : List (Event Sys)} {s₁ : Severance}
    (h : Passes name sess tlb s first tlb' s₁) :
    Procedure.wp (Severance.contract name memory cut) (ttTrapArm tlb'.ptr TT_TLB_2MB)
      (fun trace _ thread' s' ↦ Passes name sess tlb' s₁ trace tlb' s' ∧
        thread'.armed = ⟨tlb'.ptr, TT_TLB_2MB⟩) thread s₁ := by
  have hsame : Procedure.Keeps (Space.contract name) (· = s₁.space) (sys .sigaction) :=
    keeps_sys _ (fun _ _ ↦ trivial) fun _ _ _ hspace hanswer ↦ hanswer.trans hspace
  have hspace := keeps_ttTrapArm hsame tlb'.ptr TT_TLB_2MB thread s₁.space rfl
  refine Procedure.wp_mono (wp_served (ttTrapArm_records _ _) hspace) fun _ _ _ _ harm ↦ ?_
  obtain ⟨hspace, ⟨hrecords, harmed, -⟩, hquiet⟩ := harm
  exact ⟨h.still hrecords hquiet hspace, harmed⟩

theorem within_offset (start : ℕ) {off : ℕ} (h : off + 4 ≤ TT_TLB_2MB) :
    Within start (start + off) :=
  ⟨Nat.le_add_right _ _, by omega⟩

theorem readPointers_within {deviceId : UInt16} {arch : ArchConstants}
    (harch : archConstants deviceId = some arch) (start : ℕ) :
    Reads (Within start) (readPointers start arch) := by
  have hoffsets : windowOffset arch.telemTags + 4 ≤ TT_TLB_2MB ∧
      windowOffset arch.telemData + 4 ≤ TT_TLB_2MB := by
    rcases archConstants_cases harch with rfl | rfl
    · decide
    · decide
  exact readPointers_reads (within_offset start hoffsets.1) (within_offset start hoffsets.2)

theorem snapshot_within {tags data : UInt32} (htags : validPointer tags = true)
    (hdata : validPointer data = true) (start : ℕ) (table : Ref) :
    Reads (Within start)
      (snapshot (start + windowOffset tags) (start + windowOffset data) table) := by
  have hsize : CSM_SIZE.toNat = 2 ^ 19 := rfl
  have hroom : TT_TLB_2MB = 2 ^ 21 := rfl
  have hcap : TELEM_ENTRY_CAP = 128 := rfl
  have htagsOff := windowOffset_lt htags
  have hdataOff := windowOffset_lt hdata
  refine snapshot_reads ?_ ?_ ?_
  · rw [Nat.add_assoc]
    exact within_offset start (by omega)
  · intro idx hidx
    rw [Nat.add_assoc]
    exact within_offset start (by omega)
  · intro off hoff
    have hlt := off.toNat_lt
    rw [wordAddr, Nat.add_assoc]
    exact within_offset start (by omega)

theorem wp_readSnapshot {bound : Option TlbConfig} {arch : ArchConstants} {tags data : UInt32}
    (h : Serves name sess tlb bound s.space) (hlen : tlb.len = TT_TLB_2MB)
    (htags : validPointer tags = true) (hdata : validPointer data = true) (table : Ref) :
    Procedure.wp (Severance.contract name memory cut) (readSnapshot sess arch tlb tags data table)
      (fun trace out thread' s' ↦ Used name sess tlb s trace out.1 out.2 thread'.errno s')
      thread s := by
  refine Procedure.wp_call (wp_bindWindow h _) fun binding out thread₁ s₁ hbind ↦ ?_
  obtain ⟨status, tlb₁⟩ := out
  cases status with
  | TT_ERR => simpa using hbind.1 rfl
  | TT_OK done =>
    have hbound := hbind.2 rfl
    refine Procedure.wp_call (wp_armWindow hbound) fun arming _ thread₂ s₂ harm ↦ ?_
    obtain ⟨harming, harmed⟩ := harm
    have hwhole := harming.whole (hbound.len.trans hlen)
    refine Procedure.wp_call (wp_reads (snapshot_within htags hdata tlb₁.ptr table) harming.mapped
      harmed hwhole) fun loads res thread₃ s₃ hran ↦ ?_
    obtain ⟨hran, hspace⟩ := hran
    have hused (status : Status) (errno : Errno)
        (hres : res = .error () → status = .TT_ERR ∧ errno = .ECONNRESET) :
        Used name sess tlb s (binding ++ (arming ++ (loads ++ []))) status tlb₁ errno s₃ := by
      rw [List.append_nil]
      exact hbound.used (harming.used (harming.reads hran hspace hres))
    cases res with
    | error fault => exact hused _ _ fun _ ↦ ⟨rfl, rfl⟩
    | ok status => exact hused _ _ nofun

theorem wp_readWindow {bound : Option TlbConfig} {deviceId : UInt16} {arch : ArchConstants}
    (h : Serves name sess tlb bound s.space) (hlen : tlb.len = TT_TLB_2MB)
    (harch : archConstants deviceId = some arch) (table : Ref) :
    Procedure.wp (Severance.contract name memory cut) (readWindow sess arch tlb table)
      (fun trace out thread' s' ↦ Used name sess tlb s trace out.1 out.2 thread'.errno s')
      thread s := by
  refine Procedure.wp_call (wp_bindWindow h _) fun binding out thread₁ s₁ hbind ↦ ?_
  obtain ⟨status, tlb₁⟩ := out
  cases status with
  | TT_ERR => simpa using hbind.1 rfl
  | TT_OK done =>
    have hbound := hbind.2 rfl
    have hlen₁ : tlb₁.len = TT_TLB_2MB := hbound.len.trans hlen
    refine Procedure.wp_call (wp_armWindow hbound) fun arming _ thread₂ s₂ harm ↦ ?_
    obtain ⟨harming, harmed⟩ := harm
    refine Procedure.wp_call (wp_reads (readPointers_within harch tlb₁.ptr) harming.mapped harmed
      (harming.whole hlen₁)) fun loads res thread₃ s₃ hran ↦ ?_
    obtain ⟨hran, hspace⟩ := hran
    have hused (status : Status) (errno : Errno)
        (hres : res = .error () → status = .TT_ERR ∧ errno = .ECONNRESET) :
        Used name sess tlb s (binding ++ (arming ++ (loads ++ []))) status tlb₁ errno s₃ := by
      rw [List.append_nil]
      exact hbound.used (harming.used (harming.reads hran hspace hres))
    cases res with
    | error fault => exact hused _ _ fun _ ↦ ⟨rfl, rfl⟩
    | ok pointers =>
      dsimp only
      split
      · rename_i hvalid
        obtain ⟨htags, hdata⟩ := Bool.and_eq_true_iff.mp hvalid
        have hpointers : ¬Faults loads := fun hfault ↦ nomatch hran.faults.mp hfault
        have hloads := harming.still (records_loads hran.loads) hpointers hspace
        obtain ⟨bound₁, hserves⟩ := hloads.serves
        rw [ttTrapDisarm, Procedure.wp_bind, Procedure.wp_modify]
        refine Procedure.wp_mono (wp_readSnapshot hserves hlen₁ htags hdata table)
          fun rest out thread₄ s₄ hrest ↦ ?_
        exact hbound.used (harming.used (hloads.used hrest))
      · exact hused _ _ nofun

end Window

/-! ## Telemetry -/

/-- What telemetry leaves behind. -/
structure Cleaned (s : Severance) (trace : List (Event Sys)) (status : Status) (thread' : Thread)
    (s' : Severance) : Prop where
  guard : thread'.armed.ptr = NULL
  mappings : s'.space.mappings = s.space.mappings
  /-- At most one window was granted, and those that were are freed once. -/
  windows : ∃ windows, windows.length ≤ 1 ∧ Records windows windows trace
  faults : Faults trace → status = .TT_ERR ∧ thread'.errno = .ECONNRESET

section Telemetry

variable {name : ℕ} {memory : ℕ → Memory} {cut : Option ℕ} {sess : Session} {tlb tlb' : Tlb}
  {thread thread' : Thread} {s s' : Severance}

theorem wp_tlbFree_cleans {bound : Option TlbConfig} (hfd : ¬sess.fd < 0)
    (h : Serves name sess tlb bound s.space) :
    Procedure.wp (Severance.contract name memory cut) (tlbFree sess tlb)
      (fun trace _ thread' s' ↦ Frame name (sess.fd, tlb.id) s.space s'.space ∧
        (∀ start mapping, s'.space.mappings start = some mapping → mapping.maker ≠ name) ∧
        Records [] [(sess.fd, tlb.id)] trace ∧ thread'.armed = thread.armed ∧ ¬Faults trace)
      thread s := by
  refine Procedure.wp_mono (wp_served tlbFree_onlyErrno
    (Procedure.wp_and (wp_tlbFree h) (tlbFree_records hfd h))) fun trace out thread' s' hfree ↦ ?_
  obtain ⟨⟨hfrees, hrecords⟩, herrno, hfaults⟩ := hfree
  exact ⟨hfrees.frame, fun start mapping ↦ hfrees.unmapped start mapping, hrecords, herrno.armed,
    hfaults⟩

/-- An end before a window was granted. -/
theorem cleaned_early {trace : List (Event Sys)} {status : Status} (hguard : thread.armed.ptr = NULL)
    (harmed : thread'.armed = thread.armed) (hmappings : s'.space.mappings = s.space.mappings)
    (hrecords : Records [] [] trace) (hfaults : ¬Faults trace) :
    Cleaned s trace status thread' s' where
  guard := harmed ▸ hguard
  mappings := hmappings
  windows := ⟨[], by decide, hrecords⟩
  faults hfault := absurd hfault hfaults

theorem Cleaned.after {first rest : List (Event Sys)} {status : Status} {s₁ : Severance}
    (h : Cleaned s₁ rest status thread' s') (hmappings : s₁.space.mappings = s.space.mappings)
    (hrecords : Records [] [] first) (hfaults : ¬Faults first) :
    Cleaned s (first ++ rest) status thread' s' where
  guard := h.guard
  mappings := h.mappings.trans hmappings
  windows := by
    obtain ⟨windows, hlength, hrest⟩ := h.windows
    exact ⟨windows, hlength, hrecords.append hrest⟩
  faults hfault := h.faults ((faults_append.mp hfault).resolve_left hfaults)

/-- A window that was granted, used and given back. -/
theorem cleaned_window {granted used freeing : List (Event Sys)} {status : Status}
    {s₀ s₁ s₂ : Severance} {key : ℤ × ℕ} {errno : Errno}
    (hfresh : ∀ start mapping, s.space.mappings start = some mapping → mapping.maker ≠ name)
    (hmappings : s₀.space.mappings = s.space.mappings)
    (hgranted : Records [key] [] granted) (hquiet : ¬Faults granted)
    (hkey : key = (sess.fd, tlb.id))
    (hused : Used name sess tlb s₀ used status tlb' errno s₁)
    (hframe : Frame name (sess.fd, tlb'.id) s₁.space s₂.space)
    (hgone : ∀ start mapping, s₂.space.mappings start = some mapping → mapping.maker ≠ name)
    (hfreed : Records [] [(sess.fd, tlb'.id)] freeing) (hfree : ¬Faults freeing)
    (hguard : thread'.armed.ptr = NULL) (herrno : status = .TT_ERR → thread'.errno = errno) :
    Cleaned s (granted ++ (used ++ freeing)) status thread' s₂ where
  guard := hguard
  mappings := by
    have hwhole : Frame name (sess.fd, tlb.id) s₀.space s₂.space :=
      hused.frame.trans (hused.id ▸ hframe)
    rw [← hmappings] at hfresh ⊢
    exact hwhole.mappings_eq hfresh hgone
  windows := by
    rw [hused.id, ← hkey] at hfreed
    exact ⟨[key], Nat.le_refl _, hgranted.append (hused.records.append hfreed)⟩
  faults hfault := by
    have hreads : Faults used := by
      have hsplit := (faults_append.mp hfault).resolve_left hquiet
      exact (faults_append.mp hsplit).resolve_right hfree
    obtain ⟨hstatus, hreset⟩ := hused.faults hreads
    exact ⟨hstatus, (herrno hstatus).trans hreset⟩

theorem wp_devInfo :
    Procedure.wp (Severance.contract name memory cut) (devInfo sess) (fun trace _ thread' s' ↦
      s'.space = s.space ∧ (Records [] [] trace ∧ OnlyErrno thread thread') ∧ ¬Faults trace)
      thread s := by
  have hsame : Procedure.Keeps (Space.contract name) (· = s.space) (sys (.getDeviceInfo sess.fd)) :=
    keeps_sys _ (fun _ _ ↦ trivial) fun _ _ _ hspace hanswer ↦ hanswer.trans hspace
  have hspace := keeps_devInfo hsame thread s.space rfl
  exact wp_served devInfo_records hspace

theorem wp_telemetry
    (hfresh : ∀ start mapping, s.space.mappings start = some mapping → mapping.maker ≠ name)
    (hguard : thread.armed.ptr = NULL) (table : Ref) :
    Procedure.wp (Severance.contract name memory cut) (telemetry sess table)
      (fun trace status thread' s' ↦ Cleaned s trace status thread' s') thread s := by
  unfold telemetry
  split
  · exact cleaned_early hguard rfl rfl ⟨rfl, rfl⟩ not_faults_nil
  · rename_i hfd
    refine Procedure.wp_call wp_devInfo fun asked info thread₁ s₁ hasked ↦ ?_
    obtain ⟨hspace, ⟨hrecords, herrno⟩, hfaults⟩ := hasked
    have harmed := herrno.armed
    have hmappings : s₁.space.mappings = s.space.mappings := by rw [hspace]
    rw [← harmed] at hguard
    have hfresh₁ : ∀ start mapping, s₁.space.mappings start = some mapping →
        mapping.maker ≠ name := by rwa [hspace]
    cases info with
    | TT_ERR =>
      exact (cleaned_early hguard rfl rfl ⟨rfl, rfl⟩ not_faults_nil).after hmappings hrecords hfaults
    | TT_OK info =>
      cases harch : archConstants info.deviceId with
      | none =>
        simp only [harch]
        have hearly : Cleaned s₁ [] .TT_ERR { thread₁ with errno := .ENOTSUP } s₁ :=
          cleaned_early hguard rfl rfl ⟨rfl, rfl⟩ not_faults_nil
        exact hearly.after hmappings hrecords hfaults
      | some arch =>
        simp only [harch]
        rw [Procedure.wp_bind, Procedure.wp_modify]
        refine Procedure.wp_call (wp_served (tlbAlloc_records TT_TLB_2MB)
          (wp_tlbAlloc hfresh₁ TT_TLB_2MB TT_TLB_UC)) fun granted out thread₂ s₂ halloc ↦ ?_
        obtain ⟨status, tlb⟩ := out
        obtain ⟨hallocates, ⟨hgranted, hlen, herrno₂⟩, hquiet⟩ := halloc
        have harmed₂ := herrno₂.armed
        have hguard₂ : thread₂.armed.ptr = NULL := by rw [harmed₂, zeroTable, hguard]
        cases status with
        | TT_ERR =>
          have hearly : Cleaned s₁ granted .TT_ERR thread₂ s₂ :=
            cleaned_early hguard harmed₂ hallocates.mappings hgranted hquiet
          have hafter := hearly.after hmappings hrecords hfaults
          simpa using hafter
        | TT_OK done =>
          obtain ⟨-, -, hserves⟩ := hallocates.serves rfl
          refine Procedure.wp_call (wp_readWindow hserves (hlen rfl) harch table)
            fun used out thread₃ s₃ hused ↦ ?_
          obtain ⟨status, tlb'⟩ := out
          obtain ⟨bound, hserves'⟩ := hused.serves
          cases status with
          | TT_OK done =>
            rw [ttTrapDisarm, Procedure.wp_bind, Procedure.wp_modify]
            refine Procedure.wp_call (wp_tlbFree_cleans hfd hserves') fun freeing _ thread₄ s₄ hfree ↦ ?_
            obtain ⟨hframe, hgone, hfreed, harmed₄, hquiet₄⟩ := hfree
            have hclean : Cleaned s₁ (granted ++ (used ++ freeing)) (.TT_OK ()) thread₄ s₄ :=
              cleaned_window hfresh₁ hallocates.mappings hgranted hquiet rfl hused hframe hgone hfreed
                hquiet₄ (by rw [harmed₄]; rfl) nofun
            simpa using hclean.after hmappings hrecords hfaults
          | TT_ERR =>
            simp only [Procedure.wp_bind, wp_getErrno, ttTrapDisarm, Procedure.wp_modify]
            refine Procedure.wp_mono (wp_tlbFree_cleans hfd hserves')
              fun freeing _ thread₄ s₄ hfree ↦ ?_
            obtain ⟨hframe, hgone, hfreed, harmed₄, hquiet₄⟩ := hfree
            have hclean : Cleaned s₁ (granted ++ (used ++ freeing)) .TT_ERR
                { thread₄ with errno := thread₃.errno } s₄ :=
              cleaned_window hfresh₁ hallocates.mappings hgranted hquiet rfl hused hframe hgone hfreed
                hquiet₄ (by rw [harmed₄]; rfl) fun _ ↦ rfl
            simpa using hclean.after hmappings hrecords hfaults

theorem wp_ttTelemetry
    (hfresh : ∀ start mapping, s.space.mappings start = some mapping → mapping.maker ≠ name)
    (hguard : thread.armed.ptr = NULL) (sess : Option Session) (table : Option Ref) :
    Procedure.wp (Severance.contract name memory cut) (ttTelemetry sess table)
      (fun trace status thread' s' ↦ Cleaned s trace status thread' s') thread s := by
  have hinvalid : Cleaned s [] .TT_ERR { thread with errno := Errno.EINVAL } s :=
    cleaned_early hguard rfl rfl ⟨rfl, rfl⟩ not_faults_nil
  cases sess with
  | none => exact hinvalid
  | some sess =>
    cases table with
    | none => exact hinvalid
    | some table => exact wp_telemetry hfresh hguard table

/-- A run without a fault is one of a device whose mapping is not severed. -/
theorem executes_uncut {α : Type} {program : Program Sys α} {trace : List (Event Sys)}
    {outcome : Outcome α}
    (hrun : Program.Executes (Severance.contract name memory cut) program s trace outcome s')
    (hfaults : ¬Faults trace) :
    Program.Executes (Severance.contract name memory none) program s trace outcome s' := by
  induction hrun with
  | done => exact .done
  | stop => exact .stop
  | @call op next answer w v w' trace outcome hanswer hrest ih =>
    have hhead (guard : Guard) (addr : ℕ) :
        (⟨op, answer⟩ : Event Sys) ≠ ⟨.load guard addr, none⟩ := by
      intro heq
      exact hfaults ⟨guard, addr, heq ▸ List.mem_cons_self⟩
    have htail : ¬Faults trace := by
      rintro ⟨guard, addr, hmem⟩
      exact hfaults ⟨guard, addr, List.mem_cons_of_mem _ hmem⟩
    exact .call (Severance.answers_uncut hanswer hhead) (ih htail)

/-- Whatever the firmware holds and wherever the mapping is severed, telemetry returns. It reports
a fault with `ECONNRESET` and is not affected by a severing that its reads do not see. It disarms
its guard, unmaps what it mapped, frees the window it was granted once, and reads inside the armed
range only. -/
theorem telemetry_cleans_up
    (hfresh : ∀ start mapping, s.space.mappings start = some mapping → mapping.maker ≠ name)
    (hguard : thread.armed.ptr = NULL) (sess : Option Session) (table : Option Ref) :
    (∀ trace reason s', ¬Procedure.Stops (Severance.contract name memory cut)
      (ttTelemetry sess table) thread s trace reason s') ∧
    ∀ trace status thread' s', Procedure.Executes (Severance.contract name memory cut)
        (ttTelemetry sess table) thread s trace status thread' s' →
      (Faults trace → status = .TT_ERR ∧ thread'.errno = .ECONNRESET) ∧
      (¬Faults trace → Procedure.Executes (Severance.contract name memory none)
        (ttTelemetry sess table) thread s trace status thread' s') ∧
      thread'.armed.ptr = NULL ∧
      s'.space.mappings = s.space.mappings ∧
      ((allocated trace).length ≤ 1 ∧ freed trace = allocated trace) ∧
      ∀ guard addr word, ⟨.load guard addr, word⟩ ∈ trace →
        guard.ptr ≠ NULL ∧ guard.ptr ≤ addr ∧ addr + 4 ≤ guard.ptr + guard.len := by
  have hwp : Procedure.wp (Severance.contract name memory cut) (ttTelemetry sess table)
      (fun trace status thread' s' ↦ Cleaned s trace status thread' s') thread s :=
    wp_ttTelemetry hfresh hguard sess table
  refine ⟨fun trace reason s' hstop ↦ hstop.tolerated hwp, fun trace status thread' s' hrun ↦ ?_⟩
  have hclean := hrun.ensures hwp
  obtain ⟨windows, hlength, hallocated, hfreed⟩ := hclean.windows
  refine ⟨hclean.faults, executes_uncut hrun, hclean.guard, hclean.mappings, ?_, ?_⟩
  · rw [hallocated, hfreed]
    exact ⟨hlength, rfl⟩
  · intro guard addr word hmem
    obtain ⟨v, hptr, -, hfirst, hlast⟩ := Program.Executes.permitted hrun hwp _ hmem
    exact ⟨hptr, hfirst, hlast⟩

end Telemetry

/-! ## A mapping that is severed before the first read -/

def sampleSeverance (space : Space) (reads : ℕ) : Severance := { space := space, reads := reads }

def sampleWindow : Space :=
  ((emptySpace.granted 3 5).mapped 4096 sampleMapping).programmed 3 5
    (some (nocTlbConfig (apbConfig wormhole)))

def sampleTrace : List (Event Sys) :=
  [⟨.getDeviceInfo 3, .ok sampleInfo (.other 0)⟩,
    ⟨.allocateTlb 3 TT_TLB_2MB, .ok { id := 5, mmapOffsetUc := 0, mmapOffsetWc := 0 } (.other 0)⟩,
    ⟨.mmap TT_TLB_2MB 3 0, .ok 4096 (.other 0)⟩,
    ⟨.configureTlb 3 5 (nocTlbConfig (apbConfig wormhole)), .ok () (.other 0)⟩,
    ⟨.sigaction, .SIG_DFL⟩,
    ⟨.load { ptr := 4096, len := TT_TLB_2MB } (4096 + windowOffset wormhole.telemTags), none⟩,
    ⟨.munmap 4096 TT_TLB_2MB, .ok () (.other 0)⟩,
    ⟨.freeTlb 3 5, .ok () (.other 0)⟩]

theorem sampleTrace_runs : Procedure.Executes
    (Severance.contract 0 (fun _ _ ↦ 0) (some 0)) (ttTelemetry (some sampleSession) (some 7))
    Thread.initial (sampleSeverance emptySpace 0) sampleTrace .TT_ERR
    { Thread.initial with
      errno := .ECONNRESET
      armed := { ptr := NULL, len := TT_TLB_2MB }
      once := true
      tables := (zeroTable 7 Thread.initial).tables }
    (sampleSeverance ((sampleWindow.unmapped 4096).released 3 5) 1) := by
  have hmapping : sampleWindow.Whole 0 4096 TT_TLB_2MB := ⟨sampleMapping, rfl, rfl, rfl⟩
  have hfirst : (emptySpace.granted 3 5).windows (3, 5) ≠ none := by simp
  have hgranted : sampleWindow.windows (3, 5) ≠ none := by simp [sampleWindow]
  have hmmap : (Space.contract 0).answers (.mmap TT_TLB_2MB 3 0) (emptySpace.granted 3 5)
      (.ok 4096 (.other 0)) ((emptySpace.granted 3 5).mapped 4096 sampleMapping) :=
    ⟨by decide, nofun, sampleMapping, rfl, rfl, rfl⟩
  exact .call (v := sampleSeverance emptySpace 0) ⟨rfl, rfl⟩
    (.call (v := sampleSeverance (emptySpace.granted 3 5) 0) ⟨⟨rfl, rfl⟩, rfl⟩
    (.call (v := sampleSeverance ((emptySpace.granted 3 5).mapped 4096 sampleMapping) 0) ⟨hmmap, rfl⟩
    (.call (v := sampleSeverance sampleWindow 0)
      ⟨⟨hfirst, rfl⟩, rfl⟩
    (.call (v := sampleSeverance sampleWindow 0) ⟨rfl, rfl⟩
    (.call (v := sampleSeverance sampleWindow 1) ⟨rfl, rfl⟩
    (.call (v := sampleSeverance (sampleWindow.unmapped 4096) 1) ⟨.inl ⟨hmapping, rfl, rfl⟩, rfl⟩
    (.call (v := sampleSeverance ((sampleWindow.unmapped 4096).released 3 5) 1)
      ⟨⟨hgranted, rfl⟩, rfl⟩ .done)))))))

/-- The fault is reported and nothing is left behind. -/
theorem severed_telemetry_cleans_up : ∃ thread' s', Procedure.Executes
    (Severance.contract 0 (fun _ _ ↦ 0) (some 0)) (ttTelemetry (some sampleSession) (some 7))
    Thread.initial (sampleSeverance emptySpace 0) sampleTrace .TT_ERR thread' s' ∧
    thread'.errno = .ECONNRESET ∧ thread'.armed.ptr = NULL ∧
    s'.space.mappings = (fun _ ↦ none) ∧ freed sampleTrace = [(3, 5)] := by
  have hfresh : ∀ start mapping, (sampleSeverance emptySpace 0).space.mappings start = some mapping →
      mapping.maker ≠ 0 := by simp [sampleSeverance, emptySpace]
  have hguard : Thread.initial.armed.ptr = NULL := rfl
  obtain ⟨hreported, -, hdisarmed, hmappings, ⟨-, hfreed⟩, -⟩ :=
    (telemetry_cleans_up hfresh hguard (some sampleSession) (some 7)).2 _ _ _ _ sampleTrace_runs
  have hfault : Faults sampleTrace :=
    ⟨{ ptr := 4096, len := TT_TLB_2MB }, 4096 + windowOffset wormhole.telemTags, by
      simp [sampleTrace]⟩
  exact ⟨_, _, sampleTrace_runs, (hreported hfault).2, hdisarmed, hmappings, hfreed⟩

end TtDal.Safety.TelemetryCleanup
