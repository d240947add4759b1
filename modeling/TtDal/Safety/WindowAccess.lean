import TtDal.Binding.Window
import TtDal.Driver.Routes
import TtDal.Effect.System

/-!
# Accesses through the windows of the Python binding

`Tlb` objects are allocated, bound and freed in any order, every system call may fail, and the
session may be reopened by an allocation. Every `Window` that was ever returned may be accessed at
any time. An access goes to the pointer its `Tlb` has at that time, so it is right only while that
pointer leads where the `Window` was made to lead.
-/

namespace TtDal.Safety.WindowAccess

open Effect Platform Dev Driver Binding Routes

/-- A `Tlb` object. -/
structure Handle where
  raw : Tlb
  freed : Bool
  /-- The open file description it was allocated or last bound through. -/
  home : ℕ
  /-- What the last successful bind asked for. -/
  bound : Option TlbConfig

/-- The handle is not freed, or its mapping is still there. -/
def Handle.InUse (handle : Handle) : Prop := handle.freed = false ∨ handle.raw.ptr ≠ NULL

/-- The mapping of a handle through a description. -/
def Handle.route (handle : Handle) (name description : ℕ) : Route where
  len := handle.raw.len
  maker := name
  owner := description
  id := handle.raw.id

/-- What a handle in use owns, and where its pointer leads. -/
structure Sits (decode : ℕ → ℕ) (r : Routes) (name : ℕ) (handle : Handle) : Prop where
  known : handle.home < r.opens
  sized : handle.raw.len < 2 ^ 64
  decoded : handle.InUse → decode handle.raw.idx = handle.raw.id
  held : handle.InUse → r.Open handle.home → r.Owns handle.home handle.raw.id
  mapped : handle.raw.ptr ≠ NULL →
    r.mappings handle.raw.ptr = some (handle.route name handle.home)
  programmed : handle.raw.ptr ≠ NULL → ∃ cfg, handle.bound = some cfg ∧
    r.targets handle.raw.id = some { owner := handle.home, config := some (nocTlbConfig cfg) }

section Sits

variable {decode : ℕ → ℕ} {name name' id : ℕ} {reach : Option ℕ} {r r' : Routes} {handle : Handle}

theorem Sits.whole (h : Sits decode r name handle) (hptr : handle.raw.ptr ≠ NULL) :
    r.Whole name handle.raw.ptr handle.raw.len :=
  ⟨_, h.mapped hptr, rfl, rfl⟩

/-- What one handle did leaves the others as they were, unless it reached one of their windows. -/
theorem Sits.frame (h : Sits decode r name handle) (hname : name ≠ name')
    (hframe : Frame name' reach id r r')
    (halone : handle.InUse → reach = some handle.home → handle.raw.id ≠ id) :
    Sits decode r' name handle where
  known := h.known.trans_le hframe.opens
  sized := h.sized
  decoded := h.decoded
  held huse hopen := by
    obtain ⟨target, htarget, howner⟩ := h.held huse (hframe.shrinks _ h.known hopen)
    refine ⟨target, hframe.targets _ _ htarget (howner ▸ h.known) (howner ▸ hopen) ?_, howner⟩
    exact or_iff_not_imp_right.mpr fun hreach ↦ halone huse (howner ▸ not_not.mp hreach)
  mapped hptr := (hframe.mappings _ _ hname).mpr (h.mapped hptr)
  programmed hptr := by
    obtain ⟨cfg, hbound, htarget⟩ := h.programmed hptr
    have hroute := (hframe.mappings _ _ hname).mpr (h.mapped hptr)
    have hopen : r'.Open handle.home := .inr ⟨_, _, hroute, rfl⟩
    refine ⟨cfg, hbound, hframe.targets _ _ htarget h.known hopen ?_⟩
    exact or_iff_not_imp_right.mpr fun hreach ↦ halone (.inr hptr) (not_not.mp hreach)

/-- A handle that is neither mapped nor in use any more. -/
theorem Sits.spent (hknown : handle.home < r.opens) (hsized : handle.raw.len < 2 ^ 64)
    (hfreed : handle.freed = true) (hnull : handle.raw.ptr = NULL) : Sits decode r name handle := by
  have hspent : ¬handle.InUse := by
    rintro (hfresh | hptr)
    · cases hfreed.symm.trans hfresh
    · exact hptr hnull
  exact
    { known := hknown
      sized := hsized
      decoded := fun huse ↦ absurd huse hspent
      held := fun huse ↦ absurd huse hspent
      mapped := fun hptr ↦ absurd hnull hptr
      programmed := fun hptr ↦ absurd hnull hptr }

/-- A handle whose mapping went still owns its window. -/
theorem Sits.unmapped (h : Sits decode r name handle) (huse : handle.InUse)
    (hopens : r.opens ≤ r'.opens) (hsteady : r.Steady r') {handle' : Handle}
    (hhandle : handle' = { handle with raw := { handle.raw with ptr := NULL } }) :
    Sits decode r' name handle' := by
  subst hhandle
  exact
    { known := h.known.trans_le hopens
      sized := h.sized
      decoded := fun _ ↦ h.decoded huse
      held := fun _ hopen ↦ hsteady.owns _ _ hopen (h.held huse (hsteady.shrinks _ hopen))
      mapped := fun hptr ↦ absurd rfl hptr
      programmed := fun hptr ↦ absurd rfl hptr }

/-- A handle that is freed and keeps its mapping is still in use. -/
theorem Sits.freed (h : Sits decode r name handle) (huse : handle.InUse) :
    Sits decode r name { handle with freed := true } where
  known := h.known
  sized := h.sized
  decoded _ := h.decoded huse
  held _ := h.held huse
  mapped := h.mapped
  programmed := h.programmed

/-- A handle whose window was programmed through the description it was mapped through. -/
theorem Sits.bound (h : Sits decode r name handle) (huse : handle.InUse) (cfg : TlbConfig)
    (r' : Routes) {start : ℕ} {target : Target} (hknown : target.owner < r'.opens)
    (hroute : r'.mappings start = some (handle.route name target.owner)) :
    Sits decode (r'.programmed handle.raw.id target (some (nocTlbConfig cfg))) name
      { handle with
        raw := { handle.raw with ptr := start }
        home := target.owner
        bound := some cfg } where
  known := hknown
  sized := h.sized
  decoded _ := h.decoded huse
  held _ _ := ⟨_, Function.update_self _ _ _, rfl⟩
  mapped _ := hroute
  programmed _ := ⟨cfg, rfl, Function.update_self _ _ _⟩

/-- Unmapping something else leaves a mapped handle as it was. -/
theorem Sits.moved {start : ℕ} (h : Sits decode r name handle) (hunmaps : Unmaps name start r r')
    (hroute : r'.mappings handle.raw.ptr = r.mappings handle.raw.ptr) (hptr : handle.raw.ptr ≠ NULL) :
    Sits decode r' name handle := by
  have hmapped := hroute.trans (h.mapped hptr)
  have hopen : r'.Open handle.home := .inr ⟨_, _, hmapped, rfl⟩
  obtain ⟨cfg, hbound, htarget⟩ := h.programmed hptr
  have hkept := (hunmaps.frame none 0).targets _ _ htarget h.known hopen (.inr nofun)
  exact
    { known := h.known.trans_le (hunmaps.frame none 0).opens
      sized := h.sized
      decoded := h.decoded
      held := fun _ _ ↦ ⟨_, hkept, rfl⟩
      mapped := fun _ ↦ hmapped
      programmed := fun _ ↦ ⟨cfg, hbound, hkept⟩ }

end Sits

/-! ## What the functions of a handle do -/

section Functions

variable {decode : ℕ → ℕ} {name : ℕ} {sess : Session} {thread : Thread} {r r' : Routes}
  {handle : Handle} {reach : Option ℕ} {id : ℕ}

/-- What a bind does: its handle is mapped as it was asked to, or keeps its window. -/
structure Binds (decode : ℕ → ℕ) (name : ℕ) (sess : Session) (cfg : TlbConfig) (handle : Handle)
    (r : Routes) (status : Status) (raw : Tlb) (r' : Routes) : Prop where
  frame : Frame name (r.descriptors sess.fd) handle.raw.id r r'
  id : raw.id = handle.raw.id
  ok : status = .TT_OK () → ∃ description, r.descriptors sess.fd = some description ∧
    Sits decode r' name { handle with raw := raw, home := description, bound := some cfg }
  err : status = .TT_ERR → Sits decode r' name { handle with raw := raw }

theorem Binds.refused {cfg : TlbConfig} {out : Status × Tlb}
    (hframe : Frame name (r.descriptors sess.fd) handle.raw.id r r') (herr : out.1 = .TT_ERR)
    (hid : out.2.id = handle.raw.id) (h : Sits decode r' name { handle with raw := out.2 }) :
    Binds decode name sess cfg handle r out.1 out.2 r' where
  frame := hframe
  id := hid
  ok hok := by cases herr.symm.trans hok
  err _ := h

/-- Wherever the mapping of a handle is left, unconfiguring removes it. -/
theorem wp_tlbUnconfigure {before : Routes} (h : Sits decode before name handle)
    (huse : handle.InUse) (hopens : before.opens ≤ r.opens) (hsteady : before.Steady r)
    (hmapping : handle.raw.ptr ≠ NULL →
      r.mappings handle.raw.ptr = before.mappings handle.raw.ptr) :
    Procedure.wp (Routes.contract decode name) (tlbUnconfigure handle.raw)
      (fun _ out _ r' ↦ (∀ reach id, Frame name reach id r r') ∧ out.1 = .TT_ERR ∧
        out.2.id = handle.raw.id ∧ Sits decode r' name { handle with raw := out.2 }) thread r := by
  simp only [tlbUnconfigure, Procedure.wp_bind, wp_getErrno]
  split
  · rename_i hptr
    have hwhole : r.Whole name handle.raw.ptr handle.raw.len :=
      ⟨_, (hmapping hptr).trans (h.mapped hptr), rfl, rfl⟩
    simp only [Procedure.wp_bind, wp_sys]
    refine ⟨trivial, fun reply r' hanswer ↦ ?_⟩
    have hunmaps := hwhole.unmaps hanswer
    refine ⟨hunmaps.frame, rfl, rfl, ?_⟩
    exact h.unmapped huse (hopens.trans (hunmaps.frame none 0).opens)
      (hsteady.trans hunmaps.steady) rfl
  · rename_i hptr
    have hnull : handle.raw.ptr = NULL := not_not.mp hptr
    refine ⟨fun _ _ ↦ .refl _ _ _ _, rfl, rfl, h.unmapped huse hopens hsteady ?_⟩
    rw [← hnull]

/-- A request to configure a window that fails may still have programmed it. -/
theorem configure_refused {cfg : NocTlbConfig} {err : Errno}
    (h : (Routes.contract decode name).answers (.configureTlb sess.fd id cfg) r (.fail err) r') :
    Frame name (r.descriptors sess.fd) id r r' ∧ r.Steady r' ∧ r'.mappings = r.mappings := by
  rcases h with rfl | ⟨target, config, htarget, hfd, rfl⟩
  · exact ⟨.refl _ _ _ _, .refl _, rfl⟩
  · exact ⟨.programmed htarget hfd, .programmed htarget, rfl⟩

theorem wp_tlbBind (hwf : r.WellFormed) (h : Sits decode r name handle) (huse : handle.InUse)
    (cfg : TlbConfig) :
    Procedure.wp (Routes.contract decode name) (tlbBind sess handle.raw cfg)
      (fun _ out _ r' ↦ Binds decode name sess cfg handle r out.1 out.2 r') thread r := by
  unfold tlbBind
  split
  · exact ⟨.refl _ _ _ _, rfl, by simp, fun _ ↦ h⟩
  · simp only [Procedure.wp_bind, wp_sys]
    refine ⟨trivial, fun reply r₁ hanswer ↦ ?_⟩
    cases reply with
    | fail err =>
      obtain rfl : r₁ = r := hanswer
      simp only [Procedure.wp_bind, wp_ttFailIo]
      apply Procedure.wp_mono (wp_tlbUnconfigure h huse (Nat.le_refl _) (.refl _) fun _ ↦ rfl)
      intro _ out _ r' hout
      exact .refused (hout.1 _ _) hout.2.1 hout.2.2.1 hout.2.2.2
    | ok start residue =>
      obtain ⟨hstart, hvacant, description, hfd, -, hanswer⟩ := hanswer
      have hanswer : r₁ = r.mapped start (handle.route name description) := by
        rw [hanswer, h.decoded huse]
        rfl
      subst hanswer
      have hne : handle.raw.ptr ≠ NULL → handle.raw.ptr ≠ start := by
        intro hptr heq
        cases hvacant.1.symm.trans (heq ▸ h.mapped hptr)
      have hframe : Frame name (r.descriptors sess.fd) handle.raw.id r
          (r.mapped start (handle.route name description)) :=
        .mapped hvacant.1 hstart rfl ⟨_, hfd⟩
      have hsteady : r.Steady (r.mapped start (handle.route name description)) := .mapped ⟨_, hfd⟩
      have hroute : (r.mapped start (handle.route name description)).mappings start =
          some (handle.route name description) := Function.update_self _ _ _
      have hothers : ∀ start', start' ≠ start →
          (r.mapped start (handle.route name description)).mappings start' = r.mappings start' :=
        fun _ hother ↦ Function.update_of_ne hother _ _
      simp only [Procedure.wp_bind, wp_sys]
      refine ⟨trivial, fun reply r₂ hanswer ↦ ?_⟩
      cases reply with
      | fail err =>
        obtain ⟨hframe', hsteady', hmappings⟩ := configure_refused hanswer
        have hwhole : r₂.Whole name start handle.raw.len :=
          ⟨_, (congrFun hmappings start).trans hroute, rfl, rfl⟩
        simp only [Procedure.wp_bind, wp_sys]
        refine ⟨trivial, fun reply r₃ hanswer ↦ ?_⟩
        have hunmaps := hwhole.unmaps hanswer
        have hframe'' := (hframe.trans hframe').trans (hunmaps.frame _ _)
        simp only [wp_ttFailIo]
        have hkept : handle.raw.ptr ≠ NULL →
            r₃.mappings handle.raw.ptr = r.mappings handle.raw.ptr := by
          intro hptr
          rw [hunmaps.others _ (hne hptr), hmappings]
          exact hothers _ (hne hptr)
        apply Procedure.wp_mono (wp_tlbUnconfigure h huse hframe''.opens
          ((hsteady.trans hsteady').trans hunmaps.steady) hkept)
        intro _ out _ r' hout
        exact .refused (hframe''.trans (hout.1 _ _)) hout.2.1 hout.2.2.1 hout.2.2.2
      | ok value residue =>
        obtain ⟨target, htarget, howner, rfl⟩ := hanswer
        obtain rfl : description = target.owner := Option.some.inj (hfd.symm.trans howner)
        have hprogrammed : Frame name (r.descriptors sess.fd) handle.raw.id r
            ((r.mapped start (handle.route name target.owner)).programmed handle.raw.id target
              (some (nocTlbConfig cfg))) := hframe.trans (.programmed htarget howner)
        have hbound := h.bound huse cfg (r.mapped start (handle.route name target.owner))
          (hwf.descriptors _ _ hfd) hroute
        by_cases hptr : handle.raw.ptr ≠ NULL
        · have hwhole : ((r.mapped start (handle.route name target.owner)).programmed handle.raw.id
              target (some (nocTlbConfig cfg))).Whole name handle.raw.ptr handle.raw.len :=
            ⟨_, (hothers _ (hne hptr)).trans (h.mapped hptr), rfl, rfl⟩
          simp only [if_pos hptr, Procedure.wp_bind, wp_sys]
          refine ⟨trivial, fun reply r₃ hanswer ↦ ?_⟩
          have hunmaps := hwhole.unmaps hanswer
          have hmapping := hunmaps.others start (hne hptr).symm
          exact
            { frame := hprogrammed.trans (hunmaps.frame _ _)
              id := rfl
              ok := fun _ ↦ ⟨_, hfd, hbound.moved hunmaps hmapping hstart⟩
              err := by simp }
        · simp only [if_neg hptr]
          exact
            { frame := hprogrammed
              id := rfl
              ok := fun _ ↦ ⟨_, hfd, hbound⟩
              err := by simp }

/-- What freeing does: its handle is no longer in use, unless the mapping could not be removed. -/
structure Frees (decode : ℕ → ℕ) (name : ℕ) (sess : Session) (handle : Handle) (r : Routes)
    (raw : Tlb) (r' : Routes) : Prop where
  frame : Frame name (r.descriptors sess.fd) handle.raw.id r r'
  sits : Sits decode r' name { handle with raw := raw, freed := true }
  kept : raw.ptr ≠ NULL → raw = handle.raw

theorem wp_tlbRelease (hknown : handle.home < r.opens) (hsized : handle.raw.len < 2 ^ 64) :
    Procedure.wp (Routes.contract decode name)
      (tlbRelease sess { handle.raw with ptr := NULL })
      (fun _ out _ r' ↦ Frees decode name sess handle r out.2 r') thread r := by
  unfold tlbRelease
  split
  · exact ⟨.refl _ _ _ _, .spent hknown hsized rfl rfl, fun hptr ↦ absurd rfl hptr⟩
  · simp only [Procedure.wp_bind, wp_sys]
    refine ⟨trivial, fun reply r' hanswer ↦ ?_⟩
    cases reply with
    | fail err =>
      obtain rfl : r' = r := hanswer
      exact ⟨.refl _ _ _ _, .spent hknown hsized rfl rfl, fun hptr ↦ absurd rfl hptr⟩
    | ok value residue =>
      obtain ⟨target, htarget, hfd, rfl⟩ := hanswer
      exact ⟨.released htarget hfd, .spent hknown hsized rfl rfl, fun hptr ↦ absurd rfl hptr⟩

theorem wp_tlbFree (h : Sits decode r name handle) (huse : handle.InUse) :
    Procedure.wp (Routes.contract decode name) (tlbFree sess handle.raw)
      (fun _ out _ r' ↦ Frees decode name sess handle r out.2 r') thread r := by
  unfold tlbFree
  split
  · rename_i hptr
    simp only [Procedure.wp_bind, wp_sys]
    refine ⟨trivial, fun reply r₁ hanswer ↦ ?_⟩
    have hunmaps := (h.whole hptr).unmaps hanswer
    cases reply with
    | ok value residue =>
      have hknown := h.known.trans_le (hunmaps.frame none 0).opens
      apply Procedure.wp_mono (wp_tlbRelease hknown h.sized)
      intro _ out _ r' hout
      have hframe : Frame name (r.descriptors sess.fd) handle.raw.id r₁ r' :=
        hunmaps.descriptors ▸ hout.frame
      exact ⟨(hunmaps.frame _ _).trans hframe, hout.sits, hout.kept⟩
    | fail err =>
      obtain rfl : r₁ = r := hanswer (h.whole hptr)
      exact ⟨.refl _ _ _ _, h.freed huse, fun _ ↦ rfl⟩
  · exact wp_tlbRelease h.known h.sized

end Functions

/-! ## All handles -/

abbrev Handles := ℕ → Option Handle

/-- Every handle sits where it should, and no two that are in use own the same window. -/
structure Sound (decode : ℕ → ℕ) (handles : Handles) (r : Routes) : Prop where
  wellFormed : r.WellFormed
  sits : ∀ name handle, handles name = some handle → Sits decode r name handle
  apart : ∀ name name' handle handle', handles name = some handle → handles name' = some handle' →
    handle.InUse → handle'.InUse → handle'.home = handle.home → handle'.raw.id = handle.raw.id →
    name' = name

/-- No other handle in use owns the window of the description. -/
def Alone (handles : Handles) (name description id : ℕ) : Prop :=
  ∀ other handle, other ≠ name → handles other = some handle → handle.InUse →
    handle.home = description → handle.raw.id ≠ id

section Sound

variable {decode : ℕ → ℕ} {handles : Handles} {name id : ℕ} {handle handle' : Handle}
  {r r' : Routes} {reach : Option ℕ}

/-- A handle in use is the only one that owns its window. -/
theorem Sound.alone (h : Sound decode handles r) (hhandle : handles name = some handle)
    (huse : handle.InUse) : Alone handles name handle.home handle.raw.id :=
  fun other handle' hne hother huse' hhome hid ↦
    hne (h.apart name other handle handle' hhandle hother huse huse' hhome hid)

/-- What is done for one name keeps the others, unless it reached one of their windows. -/
theorem Sound.sits_of_ne (h : Sound decode handles r) (hframe : Frame name reach id r r')
    (halone : ∀ description, reach = some description → Alone handles name description id)
    {other : ℕ} (hne : other ≠ name) (hother : handles other = some handle) :
    Sits decode r' other handle :=
  (h.sits other handle hother).frame hne hframe
    fun huse hreach ↦ halone handle.home hreach other handle hne hother huse rfl

/-- What is done for a name no handle has. -/
theorem Sound.frame (h : Sound decode handles r) (hframe : Frame name none id r r')
    (hname : handles name = none) : Sound decode handles r' where
  wellFormed := hframe.wellFormed h.wellFormed
  sits other handle hother := by
    have hne : other ≠ name := by
      rintro rfl
      cases hname.symm.trans hother
    exact h.sits_of_ne hframe nofun hne hother
  apart := h.apart

/-- A handle may be replaced by one that sits where it should and shares its window with no
other. -/
theorem Sound.put (h : Sound decode handles r) (hframe : Frame name reach id r r')
    (halone : ∀ description, reach = some description → Alone handles name description id)
    (hsits : Sits decode r' name handle)
    (hapart : handle.InUse → Alone handles name handle.home handle.raw.id) :
    Sound decode (Function.update handles name (some handle)) r' where
  wellFormed := hframe.wellFormed h.wellFormed
  sits other handle' hother := by
    rcases eq_or_eq_some_of_update_some hother with ⟨rfl, rfl⟩ | ⟨hne, hother⟩
    · exact hsits
    · exact h.sits_of_ne hframe halone hne hother
  apart first second one two hone htwo huse huse' hhome hid := by
    rcases eq_or_eq_some_of_update_some hone with ⟨rfl, rfl⟩ | ⟨hne, hone'⟩
    · rcases eq_or_eq_some_of_update_some htwo with ⟨rfl, rfl⟩ | ⟨hne', htwo'⟩
      · rfl
      · exact absurd hid (hapart huse second two hne' htwo' huse' hhome)
    · rcases eq_or_eq_some_of_update_some htwo with ⟨rfl, rfl⟩ | ⟨-, htwo'⟩
      · exact absurd hid.symm (hapart huse' first one hne hone' huse hhome.symm)
      · exact h.apart first second one two hone' htwo' huse huse' hhome hid

/-! Allocations -/

/-- A window that was just granted to the description of a session. -/
structure Granted (decode : ℕ → ℕ) (handles : Handles) (name : ℕ) (sess : Session) (raw : Tlb)
    (r : Routes) : Prop where
  owned : ∃ description, r.descriptors sess.fd = some description ∧ r.Owns description raw.id ∧
    Alone handles name description raw.id
  null : raw.ptr = NULL
  sized : raw.len < 2 ^ 64
  decoded : decode raw.idx = raw.id

theorem Sound.granted (h : Sound decode handles r) {description : ℕ} {fd : ℤ}
    (hname : handles name = none) (hfree : r.targets id = none)
    (hfd : r.descriptors fd = some description) :
    Sound decode handles (r.granted id description) ∧ Alone handles name description id := by
  have hframe : Frame name none id r (r.granted id description) := .granted hfree hfd
  refine ⟨h.frame hframe hname, ?_⟩
  intro other handle _ hother huse hhome hid
  have hopen : r.Open handle.home := hhome ▸ .inl ⟨fd, hfd⟩
  obtain ⟨target, htarget, -⟩ := (h.sits other handle hother).held huse hopen
  cases hfree.symm.trans (hid ▸ htarget)

theorem Size.raw_lt (size : Size) : size.raw < 2 ^ 64 := by
  cases size <;> decide

variable {sess : Session} {thread : Thread}

theorem wp_allocRaw (h : Sound decode handles r) (hname : handles name = none) (size : Size)
    (mode : Caching) :
    Procedure.wp (Routes.contract decode name) (allocRaw size mode sess)
      (fun _ res _ r' ↦ Sound decode handles r' ∧
        ∀ raw, res = .TT_OK raw → Granted decode handles name sess raw r') thread r := by
  unfold allocRaw tlbAlloc
  split
  · simp [h]
  · simp only [Procedure.wp_bind, wp_sys]
    refine ⟨trivial, fun reply r' hanswer ↦ ?_⟩
    cases reply with
    | fail err =>
      obtain rfl : r' = r := hanswer
      simpa using h
    | ok out residue =>
      obtain ⟨hfree, huc, hwc, description, hfd, rfl⟩ := hanswer
      obtain ⟨hsound, halone⟩ := h.granted hname hfree hfd
      have hgranted : ∀ idx, decode idx = out.id → Granted decode handles name sess
          { id := out.id, ptr := NULL, len := size.raw, idx := idx }
          (r.granted out.id description) := fun idx hidx ↦
        { owned := ⟨description, hfd, ⟨_, Function.update_self _ _ _, rfl⟩, halone⟩
          null := rfl
          sized := Size.raw_lt size
          decoded := hidx }
      cases mode with
      | Uncached => simpa [Caching.raw] using ⟨hsound, hgranted _ huc⟩
      | WriteCombined =>
        simpa [Caching.raw, TT_TLB_UC, TT_TLB_WC] using ⟨hsound, hgranted _ hwc⟩

theorem keeps_reopen (hname : handles name = none) :
    Procedure.Keeps (Routes.contract decode name) (Sound decode handles) (Rust.reopen sess) := by
  have hclose : Procedure.Keeps (Routes.contract decode name) (Sound decode handles)
      (sys (.close sess.fd)) := by
    apply keeps_sys _ fun _ _ ↦ trivial
    intro r reply r' h hanswer
    have hframe : Frame name none 0 r r' := .trans .closed (.of_returns hanswer)
    exact h.frame hframe hname
  have hopen (dev : Device) (flags : UInt16) : Procedure.Keeps (Routes.contract decode name)
      (Sound decode handles) (sys (.openFile (devicePath dev) (openFlags flags))) := by
    apply keeps_sys _ fun _ _ ↦ trivial
    intro r reply r' h hanswer
    cases reply with
    | fail err => exact hanswer ▸ h
    | ok fd residue =>
      have hframe : Frame name none 0 r r' := hanswer.2 ▸ .opened
      exact h.frame hframe hname
  refine .bind (keeps_reopenSession hclose hopen) fun reopened ↦ ?_
  obtain ⟨status, sess'⟩ := reopened
  cases status with
  | TT_OK => exact Procedure.keeps_pure _
  | TT_ERR => exact .bind keeps_getErrno fun err ↦ Procedure.keeps_pure _

theorem wp_alloc (h : Sound decode handles r) (hname : handles name = none) (persist : Bool)
    (size : Size) (mode : Caching) :
    Procedure.wp (Routes.contract decode name) (Python.alloc persist size mode sess)
      (fun _ out _ r' ↦ Sound decode handles r' ∧
        ∀ raw, out.1 = .ok raw → Granted decode handles name out.2 raw r') thread r := by
  have hop : ∀ sess thread r, Sound decode handles r →
      Procedure.wp (Routes.contract decode name) (Rust.check (allocRaw size mode sess))
        (fun _ res _ r' ↦ Sound decode handles r' ∧
          ∀ raw, res = .ok raw → Granted decode handles name sess raw r') thread r := by
    intro sess thread r h
    apply wp_check
    apply Procedure.wp_mono (wp_allocRaw h hname size mode)
    intro _ res _ _ hres
    cases res with
    | TT_OK raw => exact ⟨hres.1, fun raw' heq ↦ hres.2 raw' (by cases heq; rfl)⟩
    | TT_ERR => exact ⟨hres.1, nofun⟩
  have hreopen : ∀ (sess : Session) thread r, Sound decode handles r →
      Procedure.wp (Routes.contract decode name) (Rust.reopen sess)
        (fun _ _ _ r' ↦ Sound decode handles r') thread r :=
    fun _ thread r h ↦ keeps_reopen hname thread r h
  rw [Python.alloc, perform_library_agree, Procedure.wp_map]
  apply Procedure.wp_mono (wp_perform persist hop hreopen h)
  intro _ out _ _ hout
  obtain ⟨res, sess'⟩ := out
  cases res with
  | ok raw => exact ⟨hout.1, fun raw' heq ↦ hout.2 raw' (by cases heq; rfl)⟩
  | error err => exact ⟨hout.1, nofun⟩

/-! Binds and frees -/

theorem wp_bind (hwf : r.WellFormed) (h : Sits decode r name handle) (cfg : TlbConfig) :
    Procedure.wp (Routes.contract decode name) (Python.bind sess handle.raw handle.freed cfg)
      (fun _ out _ r' ↦ handle.freed = false ∧
          Binds decode name sess cfg handle r
            (match out.1 with | .ok _ => .TT_OK () | .error _ => .TT_ERR) out.2 r' ∨
        (∃ err, out.1 = .error err) ∧ out.2 = handle.raw ∧ r' = r) thread r := by
  unfold Python.bind
  split
  · exact .inr ⟨⟨_, rfl⟩, rfl, rfl⟩
  · rename_i hfreed
    have hfresh : handle.freed = false := Bool.not_eq_true _ ▸ hfreed
    simp only [Procedure.wp_bind, wp_sys]
    refine ⟨trivial, fun borrowed r' hanswer ↦ ?_⟩
    obtain rfl : r' = r := hanswer
    split
    · rw [Procedure.wp_bind]
      apply Procedure.wp_mono (wp_tlbBind hwf h (.inl hfresh) cfg)
      intro _ out _ r'' hout
      obtain ⟨status, raw⟩ := out
      cases status with
      | TT_OK done => exact .inl ⟨hfresh, hout⟩
      | TT_ERR => exact .inl ⟨hfresh, hout⟩
    · exact .inr ⟨⟨_, rfl⟩, rfl, rfl⟩

theorem wp_free (h : Sits decode r name handle) :
    Procedure.wp (Routes.contract decode name) (Python.free sess handle.raw handle.freed)
      (fun _ out _ r' ↦
        handle.freed = false ∧ out.2.2 = true ∧ Frees decode name sess handle r out.2.1 r' ∨
        out.2 = (handle.raw, handle.freed) ∧ r' = r) thread r := by
  unfold Python.free
  split
  · rename_i hfreed
    exact .inr ⟨by rw [hfreed], rfl⟩
  · rename_i hfreed
    have hfresh : handle.freed = false := Bool.not_eq_true _ ▸ hfreed
    simp only [Procedure.wp_bind, wp_sys]
    refine ⟨trivial, fun borrowed r' hanswer ↦ ?_⟩
    obtain rfl : r' = r := hanswer
    split
    · rw [Procedure.wp_bind]
      apply Procedure.wp_mono (wp_tlbFree h (.inl hfresh))
      intro _ out _ r'' hout
      obtain ⟨status, raw⟩ := out
      cases status with
      | TT_OK done => exact .inl ⟨hfresh, rfl, hout⟩
      | TT_ERR => exact .inl ⟨hfresh, rfl, hout⟩
    · exact .inr ⟨by rw [hfresh], rfl⟩

end Sound

/-! ## Runs -/

/-- A `Window` object: its `Tlb`, and the configuration it was created with. -/
structure View where
  tlb : ℕ
  cfg : TlbConfig

structure State where
  routes : Routes
  thread : Thread
  sess : Session
  handles : Handles
  views : ℕ → Option View

inductive Label where
  | alloc (name : ℕ) (size : Size) (mode : Caching)
  | bind (name : ℕ) (cfg : TlbConfig)
  /-- Also the exit of a `with` block. -/
  | free (name : ℕ)
  | access (view : ℕ) (accessor : Python.Accessor) (offset : UInt64)
    (res : Except Python.AccessErr Python.Access)

/-- The handle a move works on. -/
def Label.target : Label → Option ℕ
  | .bind name _ | .free name => some name
  | .alloc _ _ _ | .access _ _ _ _ => none

/-- Each method runs to its end. `Tlb` and `Window` objects stay usable after everything that
happens to them. -/
inductive Moves (decode : ℕ → ℕ) (persist : Bool) : State → Label → State → Prop where
  | alloc {s : State} {name : ℕ} {size : Size} {mode : Caching} {trace : List (Event Sys)}
      {raw : Tlb} {sess : Session} {thread : Thread} {routes : Routes} : s.handles name = none →
      Procedure.Executes (Routes.contract decode name) (Python.alloc persist size mode s.sess)
        s.thread s.routes trace (.ok raw, sess) thread routes →
      Moves decode persist s (.alloc name size mode)
        { s with
          routes := routes
          thread := thread
          sess := sess
          handles := Function.update s.handles name (some
            { raw := raw
              freed := false
              home := (routes.descriptors sess.fd).getD 0
              bound := none }) }
  | allocFailed {s : State} {name : ℕ} {size : Size} {mode : Caching} {trace : List (Event Sys)}
      {err : Python.PyErr} {sess : Session} {thread : Thread} {routes : Routes} :
      s.handles name = none →
      Procedure.Executes (Routes.contract decode name) (Python.alloc persist size mode s.sess)
        s.thread s.routes trace (.error err, sess) thread routes →
      Moves decode persist s (.alloc name size mode)
        { s with routes := routes, thread := thread, sess := sess }
  | bind {s : State} {name view : ℕ} {cfg : TlbConfig} {handle : Handle}
      {trace : List (Event Sys)} {raw : Tlb} {thread : Thread} {routes : Routes} :
      s.handles name = some handle → s.views view = none →
      Procedure.Executes (Routes.contract decode name)
        (Python.bind s.sess handle.raw handle.freed cfg) s.thread s.routes trace (.ok (), raw)
        thread routes →
      Moves decode persist s (.bind name cfg)
        { s with
          routes := routes
          thread := thread
          handles := Function.update s.handles name (some { handle with
            raw := raw
            home := (s.routes.descriptors s.sess.fd).getD handle.home
            bound := some cfg })
          views := Function.update s.views view (some { tlb := name, cfg := cfg }) }
  | bindFailed {s : State} {name : ℕ} {cfg : TlbConfig} {handle : Handle}
      {trace : List (Event Sys)} {err : Python.PyErr} {raw : Tlb} {thread : Thread}
      {routes : Routes} : s.handles name = some handle →
      Procedure.Executes (Routes.contract decode name)
        (Python.bind s.sess handle.raw handle.freed cfg) s.thread s.routes trace (.error err, raw)
        thread routes →
      Moves decode persist s (.bind name cfg)
        { s with
          routes := routes
          thread := thread
          handles := Function.update s.handles name (some { handle with raw := raw }) }
  | free {s : State} {name : ℕ} {handle : Handle} {trace : List (Event Sys)}
      {res : Except Python.PyErr Unit} {raw : Tlb} {freed : Bool} {thread : Thread}
      {routes : Routes} : s.handles name = some handle →
      Procedure.Executes (Routes.contract decode name)
        (Python.free s.sess handle.raw handle.freed) s.thread s.routes trace (res, raw, freed)
        thread routes →
      Moves decode persist s (.free name)
        { s with
          routes := routes
          thread := thread
          handles := Function.update s.handles name
            (some { handle with raw := raw, freed := freed }) }
  | access {s : State} {view : ℕ} {window : View} {handle : Handle} {accessor : Python.Accessor}
      {offset : UInt64} : s.views view = some window → s.handles window.tlb = some handle →
      Moves decode persist s (.access view accessor offset (accessor.run handle.raw offset)) s

/-- A process that has allocated nothing yet. -/
structure Starts (s : State) : Prop where
  wellFormed : s.routes.WellFormed
  handles : s.handles = fun _ ↦ none
  views : s.views = fun _ ↦ none

def system (decode : ℕ → ℕ) (persist : Bool) : System State Label where
  starts := Starts
  moves := Moves decode persist

/-- An access raises, or touches the bytes it was asked for, inside the live mapping of its `Tlb`,
while that window is programmed as the `Window` was created. -/
def Proper (s : State) (view : ℕ) (accessor : Python.Accessor) (offset : UInt64)
    (res : Except Python.AccessErr Python.Access) : Prop :=
  ∀ window handle access, s.views view = some window → s.handles window.tlb = some handle →
    res = .ok access → ∃ route target, s.routes.mappings handle.raw.ptr = some route ∧
      route.maker = window.tlb ∧ offset.toNat + accessor.width ≤ route.len ∧
      access =
        { addr := handle.raw.ptr + offset.toNat
          width := accessor.width
          written := accessor.written } ∧
      s.routes.targets route.id = some target ∧ target.owner = route.owner ∧
      target.config = some (nocTlbConfig window.cfg)

/-- A handle that is bound or freed belongs to the description of the session, was freed before,
or has an id that no other handle in use of that description has. -/
def Careful (s : State) (label : Label) : Prop :=
  ∀ name handle description, label.target = some name → s.handles name = some handle →
    handle.freed = false → s.routes.descriptors s.sess.fd = some description →
    handle.home = description ∨ Alone s.handles name description handle.raw.id

/-- The access is out of place, or the handle points at something and was last bound as the
`Window` was created. -/
def Fresh (s : State) (view : ℕ) (accessor : Python.Accessor) (offset : UInt64) : Prop :=
  ∀ window handle, s.views view = some window → s.handles window.tlb = some handle →
    accessor.Within handle.raw offset → handle.raw.ptr ≠ NULL ∧ handle.bound = some window.cfg

section Runs

variable {decode : ℕ → ℕ} {persist : Bool} {s s' : State} {label : Label} {name : ℕ}
  {handle : Handle}

theorem Starts.sound (h : Starts s) : Sound decode s.handles s.routes where
  wellFormed := h.wellFormed
  sits name handle hhandle := by cases (congrFun h.handles name).symm.trans hhandle
  apart name name' handle handle' hhandle := by cases (congrFun h.handles name).symm.trans hhandle

/-- A careful move reaches the window of no other handle. -/
theorem Careful.alone (h : Careful s label) (hsound : Sound decode s.handles s.routes)
    (htarget : label.target = some name) (hhandle : s.handles name = some handle)
    (hfreed : handle.freed = false) (description : ℕ)
    (hreach : s.routes.descriptors s.sess.fd = some description) :
    Alone s.handles name description handle.raw.id := by
  rcases h name handle description htarget hhandle hfreed hreach with rfl | halone
  · exact hsound.alone hhandle (.inl hfreed)
  · exact halone

theorem moves_sound (h : Sound decode s.handles s.routes) (hcareful : Careful s label)
    (hmove : Moves decode persist s label s') : Sound decode s'.handles s'.routes := by
  cases hmove with
  | @alloc name size mode trace raw sess thread routes hname hrun =>
    obtain ⟨hsound, hgranted⟩ := hrun.ensures (wp_alloc h hname persist size mode)
    obtain ⟨⟨description, hfd, howns, halone⟩, hnull, hsized, hdecoded⟩ := hgranted raw rfl
    apply hsound.put (.refl name none 0 routes) nofun
    · have hhome : (routes.descriptors sess.fd).getD 0 = description := by rw [hfd]; rfl
      rw [hhome]
      exact
        { known := hsound.wellFormed.descriptors _ _ hfd
          sized := hsized
          decoded := fun _ ↦ hdecoded
          held := fun _ _ ↦ howns
          mapped := fun hptr ↦ absurd hnull hptr
          programmed := fun hptr ↦ absurd hnull hptr }
    · intro _
      rw [hfd]
      exact halone
  | @allocFailed name size mode trace err sess thread routes hname hrun =>
    exact (hrun.ensures (wp_alloc h hname persist size mode)).1
  | @bind name view cfg handle trace raw thread routes hhandle hview hrun =>
    rcases hrun.ensures (wp_bind h.wellFormed (h.sits name handle hhandle) cfg) with
      ⟨hfreed, hbinds⟩ | ⟨⟨err, herr⟩, -⟩
    · have halone := hcareful.alone h rfl hhandle hfreed
      obtain ⟨description, hfd, hsits⟩ := hbinds.ok rfl
      have hhome : (s.routes.descriptors s.sess.fd).getD handle.home = description := by
        rw [hfd]
        rfl
      apply h.put hbinds.frame halone
      · rw [hhome]
        exact hsits
      · intro _
        rw [hhome, hbinds.id]
        exact halone description hfd
    · cases herr
  | @bindFailed name cfg handle trace err raw thread routes hhandle hrun =>
    rcases hrun.ensures (wp_bind h.wellFormed (h.sits name handle hhandle) cfg) with
      ⟨hfreed, hbinds⟩ | ⟨-, hraw, hroutes⟩
    · apply h.put hbinds.frame (hcareful.alone h rfl hhandle hfreed) (hbinds.err rfl)
      intro _
      rw [hbinds.id]
      exact h.alone hhandle (.inl hfreed)
    · obtain rfl : raw = handle.raw := hraw
      obtain rfl : routes = s.routes := hroutes
      exact h.put (.refl name none 0 s.routes) nofun (h.sits name handle hhandle)
        (h.alone hhandle)
  | @free name handle trace res raw freed thread routes hhandle hrun =>
    rcases hrun.ensures (wp_free (h.sits name handle hhandle)) with
      ⟨hfreed, htrue, hfrees⟩ | ⟨hsame, hroutes⟩
    · obtain rfl : freed = true := htrue
      apply h.put hfrees.frame (hcareful.alone h rfl hhandle hfreed) hfrees.sits
      have halone := h.alone hhandle (.inl hfreed)
      rintro (hfresh | hptr)
      · cases hfresh
      · rw [hfrees.kept hptr]
        exact halone
    · obtain ⟨rfl, rfl⟩ : raw = handle.raw ∧ freed = handle.freed := Prod.mk.inj hsame
      obtain rfl : routes = s.routes := hroutes
      exact h.put (.refl name none 0 s.routes) nofun (h.sits name handle hhandle)
        (h.alone hhandle)
  | access => exact h

theorem reaches_sound (h : (system decode persist).Reaches Careful s) :
    Sound decode s.handles s.routes := by
  apply System.Reaches.invariant _ _ h
  · exact fun _ hstart ↦ hstart.sound
  · exact fun _ _ _ hsound hcareful hmove ↦ moves_sound hsound hcareful hmove

/-- Different configurations program different windows. -/
theorem nocTlbConfig_injective : Function.Injective nocTlbConfig := by
  intro cfg cfg' h
  obtain ⟨addr, xEnd, yEnd, xStart, yStart, noc, mcast, linked, staticVc⟩ := cfg
  obtain ⟨addr', xEnd', yEnd', xStart', yStart', noc', mcast', linked', staticVc'⟩ := cfg'
  have hflag : ∀ flag flag' : Bool, flag.toUInt8 = flag'.toUInt8 → flag = flag' := by decide
  simp only [nocTlbConfig, NocTlbConfig.mk.injEq, UInt8.toUInt16_inj] at h
  obtain ⟨rfl, rfl, rfl, rfl, rfl, rfl, hmcast, -, hlinked, rfl⟩ := h
  obtain rfl := hflag _ _ hmcast
  obtain rfl := hflag _ _ hlinked
  rfl

/-- In a careful run, an access is proper exactly if it is out of place, or its handle points at
something and was last bound as the `Window` was created. -/
theorem access_proper_iff_fresh {view : ℕ} {accessor : Python.Accessor} {offset : UInt64}
    {res : Except Python.AccessErr Python.Access} (h : (system decode persist).Reaches Careful s)
    (hmove : Moves decode persist s (.access view accessor offset res) s') :
    Proper s view accessor offset res ↔ Fresh s view accessor offset := by
  have hsound := reaches_sound h
  cases hmove with
  | @access _ window handle _ _ hview hhandle =>
    have hsits := hsound.sits window.tlb handle hhandle
    constructor
    · intro hproper window' handle' hview' hhandle' hwithin
      obtain rfl := Option.some.inj (hview.symm.trans hview')
      obtain rfl := Option.some.inj (hhandle.symm.trans hhandle')
      have hok := (Python.Accessor.run_eq_ok hsits.sized).mpr ⟨hwithin, rfl⟩
      obtain ⟨route, target, hroute, -, -, -, htarget, -, hconfig⟩ :=
        hproper window handle _ hview hhandle hok
      have hptr : handle.raw.ptr ≠ NULL := (hsound.wellFormed.mappings _ _ hroute).1
      obtain ⟨cfg, hbound, htarget'⟩ := hsits.programmed hptr
      obtain rfl := Option.some.inj (hroute.symm.trans (hsits.mapped hptr))
      obtain rfl := Option.some.inj (htarget.symm.trans htarget')
      have hcfg : cfg = window.cfg := nocTlbConfig_injective (Option.some.inj hconfig)
      exact ⟨hptr, hcfg ▸ hbound⟩
    · intro hfresh window' handle' access hview' hhandle' hok
      obtain rfl := Option.some.inj (hview.symm.trans hview')
      obtain rfl := Option.some.inj (hhandle.symm.trans hhandle')
      obtain ⟨hwithin, rfl⟩ := (Python.Accessor.run_eq_ok hsits.sized).mp hok
      obtain ⟨hptr, hbound⟩ := hfresh window handle hview hhandle hwithin
      obtain ⟨cfg, hbound', htarget⟩ := hsits.programmed hptr
      obtain rfl := Option.some.inj (hbound.symm.trans hbound')
      exact ⟨_, _, hsits.mapped hptr, rfl, hwithin.2, rfl, htarget, rfl, rfl⟩

end Runs

/-! ## A handle that is bound, bound again, or freed -/

/-- A process with one session, on descriptor three. -/
def openState : State where
  routes :=
    { descriptors := fun fd ↦ if fd = 3 then some 0 else none
      opens := 1
      targets := fun _ ↦ none
      mappings := fun _ ↦ none }
  thread := Thread.initial
  sess := { dev := { id := 0 }, fd := 3, flags := 0 }
  handles := fun _ ↦ none
  views := fun _ ↦ none

theorem openState_starts : Starts openState where
  wellFormed :=
    { descriptors := fun fd description hfd ↦ by
        simp only [openState, Option.ite_none_right_eq_some, Option.some.injEq] at hfd
        rw [← hfd.2]
        exact Nat.zero_lt_one
      mappings := nofun
      targets := nofun }
  handles := rfl
  views := rfl

/-- The handle of the window of id five, wherever it is mapped. -/
def sampleHandle (ptr : ℕ) (bound : Option TlbConfig) : Handle where
  raw := { id := 5, ptr := ptr, len := 2 ^ 20, idx := 5 }
  freed := false
  home := 0
  bound := bound

def firstConfig : TlbConfig := { addr := 0, xEnd := 1, yEnd := 1 }

def secondConfig : TlbConfig := { addr := 4096, xEnd := 1, yEnd := 1 }

def allocatedState : State :=
  { openState with
    routes := openState.routes.granted 5 0
    handles := Function.update openState.handles 0 (some (sampleHandle NULL none)) }

def boundState : State :=
  { allocatedState with
    routes := (allocatedState.routes.mapped 4096 ((sampleHandle NULL none).route 0 0)).programmed 5
      { owner := 0, config := none } (some (nocTlbConfig firstConfig))
    handles := Function.update allocatedState.handles 0
      (some (sampleHandle 4096 (some firstConfig)))
    views := Function.update allocatedState.views 0 (some { tlb := 0, cfg := firstConfig }) }

def reboundState : State :=
  { boundState with
    routes := ((boundState.routes.mapped (2 ^ 30) ((sampleHandle NULL none).route 0 0)).programmed 5
      { owner := 0, config := some (nocTlbConfig firstConfig) }
      (some (nocTlbConfig secondConfig))).unmapped 4096
    handles := Function.update boundState.handles 0
      (some (sampleHandle (2 ^ 30) (some secondConfig)))
    views := Function.update boundState.views 1 (some { tlb := 0, cfg := secondConfig }) }

def freedState : State :=
  { boundState with
    routes := (boundState.routes.unmapped 4096).released 5
    handles := Function.update boundState.handles 0 (some
      { raw := { id := 0, ptr := NULL, len := 2 ^ 20, idx := 5 }
        freed := true
        home := 0
        bound := some firstConfig }) }

theorem allocatedState_moves : Moves id false openState (.alloc 0 .Mb1 .Uncached) allocatedState := by
  have hallocate : (Routes.contract id 0).answers (.allocateTlb 3 (2 ^ 20)) openState.routes
      (.ok ⟨5, 5, 5⟩ (.other 0)) allocatedState.routes := ⟨rfl, rfl, rfl, 0, rfl, rfl⟩
  have hrun : Procedure.Executes (Routes.contract id 0)
      (Python.alloc false .Mb1 .Uncached openState.sess) Thread.initial openState.routes
      [⟨.allocateTlb 3 (2 ^ 20), .ok ⟨5, 5, 5⟩ (.other 0)⟩]
      (.ok (sampleHandle NULL none).raw, openState.sess) Thread.initial allocatedState.routes :=
    .call hallocate .done
  exact Moves.alloc rfl hrun

theorem boundState_moves : Moves id false allocatedState (.bind 0 firstConfig) boundState := by
  have hborrow : (Routes.contract id 0).answers .tryBorrow allocatedState.routes true
      allocatedState.routes := rfl
  have hmmap : (Routes.contract id 0).answers (.mmap (2 ^ 20) 3 5) allocatedState.routes
      (.ok 4096 (.other 0))
      (allocatedState.routes.mapped 4096 ((sampleHandle NULL none).route 0 0)) :=
    ⟨by decide, ⟨rfl, nofun⟩, 0, rfl, ⟨_, rfl, rfl⟩, rfl⟩
  have hconfigure : (Routes.contract id 0).answers (.configureTlb 3 5 (nocTlbConfig firstConfig))
      (allocatedState.routes.mapped 4096 ((sampleHandle NULL none).route 0 0))
      (.ok () (.other 0)) boundState.routes := ⟨_, rfl, rfl, rfl⟩
  have hrun : Procedure.Executes (Routes.contract id 0)
      (Python.bind allocatedState.sess (sampleHandle NULL none).raw false firstConfig)
      Thread.initial allocatedState.routes _ (.ok (), (sampleHandle 4096 none).raw) Thread.initial
      boundState.routes := .call hborrow (.call hmmap (.call hconfigure .done))
  exact Moves.bind rfl rfl hrun

/-- Nothing has to go back to the pool. -/
theorem returns_refl (r : Routes) : r.Returns r :=
  ⟨rfl, rfl, rfl, fun _ ↦ .inl rfl⟩

theorem reboundState_moves : Moves id false boundState (.bind 0 secondConfig) reboundState := by
  have hborrow : (Routes.contract id 0).answers .tryBorrow boundState.routes true
      boundState.routes := rfl
  have hvacant : boundState.routes.Vacant (2 ^ 30) (2 ^ 20) := by
    refine ⟨rfl, fun start route hroute ↦ .inr ?_⟩
    rcases eq_or_eq_some_of_update_some hroute with ⟨rfl, rfl⟩ | ⟨-, hnone⟩
    · decide
    · cases hnone
  have hmmap : (Routes.contract id 0).answers (.mmap (2 ^ 20) 3 5) boundState.routes
      (.ok (2 ^ 30) (.other 0))
      (boundState.routes.mapped (2 ^ 30) ((sampleHandle NULL none).route 0 0)) :=
    ⟨by decide, hvacant, 0, rfl, ⟨_, rfl, rfl⟩, rfl⟩
  have hconfigure : (Routes.contract id 0).answers (.configureTlb 3 5 (nocTlbConfig secondConfig))
      (boundState.routes.mapped (2 ^ 30) ((sampleHandle NULL none).route 0 0))
      (.ok () (.other 0)) _ := ⟨_, rfl, rfl, rfl⟩
  have hmunmap : (Routes.contract id 0).answers (.munmap 4096 (2 ^ 20))
      ((boundState.routes.mapped (2 ^ 30) ((sampleHandle NULL none).route 0 0)).programmed 5
        { owner := 0, config := some (nocTlbConfig firstConfig) }
        (some (nocTlbConfig secondConfig)))
      (.ok () (.other 0)) reboundState.routes := fun _ ↦ returns_refl _
  have hrun : Procedure.Executes (Routes.contract id 0)
      (Python.bind boundState.sess (sampleHandle 4096 (some firstConfig)).raw false secondConfig)
      Thread.initial boundState.routes _ (.ok (), (sampleHandle (2 ^ 30) none).raw) Thread.initial
      reboundState.routes :=
    .call hborrow (.call hmmap (.call hconfigure (.call hmunmap .done)))
  exact Moves.bind rfl rfl hrun

theorem freedState_moves : Moves id false boundState (.free 0) freedState := by
  have hborrow : (Routes.contract id 0).answers .tryBorrow boundState.routes true
      boundState.routes := rfl
  have hmunmap : (Routes.contract id 0).answers (.munmap 4096 (2 ^ 20)) boundState.routes
      (.ok () (.other 0)) (boundState.routes.unmapped 4096) := fun _ ↦ returns_refl _
  have hfree : (Routes.contract id 0).answers (.freeTlb 3 5) (boundState.routes.unmapped 4096)
      (.ok () (.other 0)) freedState.routes := ⟨_, rfl, rfl, rfl⟩
  have hrun : Procedure.Executes (Routes.contract id 0)
      (Python.free boundState.sess (sampleHandle 4096 (some firstConfig)).raw false) Thread.initial
      boundState.routes _ (.ok (), { id := 0, ptr := NULL, len := 2 ^ 20, idx := 5 }, true)
      Thread.initial freedState.routes := .call hborrow (.call hmunmap (.call hfree .done))
  exact Moves.free rfl hrun

theorem boundState_reaches : (system id false).Reaches Careful boundState := by
  have hstart : (system id false).Reaches Careful openState := .start openState_starts
  have hallocated := hstart.move (by simp [Careful, Label.target]) allocatedState_moves
  refine hallocated.move ?_ boundState_moves
  intro name handle description htarget hhandle _ hfd
  obtain rfl : 0 = name := Option.some.inj htarget
  obtain rfl : sampleHandle NULL none = handle := Option.some.inj hhandle
  exact .inl (Option.some.inj hfd)

/-- A read through the null pointer of a freed handle, and a read through the `Window` of a first
bind that shows what the second bind asked for. -/
theorem window_access_improper :
    (∃ s view, (system id false).Reachable s ∧ Moves id false s
      (.access view .readU8 0 (.ok { addr := NULL, width := 1, written := none })) s ∧
      ¬Proper s view .readU8 0 (.ok { addr := NULL, width := 1, written := none })) ∧
    ∃ s view, (system id false).Reachable s ∧ Moves id false s
      (.access view .readU8 0 (.ok { addr := 2 ^ 30, width := 1, written := none })) s ∧
      s.views view = some { tlb := 0, cfg := firstConfig } ∧
      s.routes.targets 5 = some { owner := 0, config := some (nocTlbConfig secondConfig) } ∧
      ¬Proper s view .readU8 0 (.ok { addr := 2 ^ 30, width := 1, written := none }) := by
  have hbound : (system id false).Reachable boundState :=
    boundState_reaches.mono fun _ _ _ ↦ trivial
  constructor
  · refine ⟨freedState, 0, hbound.move trivial freedState_moves,
      @Moves.access id false freedState 0 _ _ .readU8 0 rfl rfl, ?_⟩
    intro hproper
    obtain ⟨route, -, hroute, -⟩ := hproper _ _ _ rfl rfl rfl
    cases hroute
  · refine ⟨reboundState, 0, hbound.move trivial reboundState_moves,
      @Moves.access id false reboundState 0 _ _ .readU8 0 rfl rfl, rfl, rfl, ?_⟩
    intro hproper
    obtain ⟨route, target, hroute, -, -, -, htarget, -, hconfig⟩ := hproper _ _ _ rfl rfl rfl
    obtain rfl := Option.some.inj hroute
    obtain rfl := Option.some.inj htarget
    exact absurd hconfig (by decide)

/-- The `Window` of the last bind may be read. -/
theorem bound_access_proper :
    Proper boundState 0 .readU32 8 (.ok { addr := 4104, width := 4, written := none }) := by
  have hmove : Moves id false boundState
      (.access 0 .readU32 8 (.ok { addr := 4104, width := 4, written := none })) boundState :=
    @Moves.access id false boundState 0 _ _ .readU32 8 rfl rfl
  refine (access_proper_iff_fresh boundState_reaches hmove).mpr ?_
  intro window handle hview hhandle _
  obtain rfl := Option.some.inj hview
  obtain rfl := Option.some.inj hhandle
  exact ⟨by decide, rfl⟩

end TtDal.Safety.WindowAccess
