import TtDal.Dev.Tlb
import TtDal.Driver.Space
import TtDal.Effect.System

/-!
# Handles and their mappings

Handles are allocated, bound and freed in any order, and any system call but an unmapping may
fail. At every time a handle points at the one mapping that was made for it, or at none, and while
it points at one its window is programmed as the last successful bind asked for.
-/

namespace TtDal.Safety.WindowMapping

open Effect Platform Dev Driver

/-! ## What a function does to the space -/

/-- The mappings made for a handle: the one it points at, or none. -/
structure Maps (name : ℕ) (tlb : Tlb) (space : Space) : Prop where
  only : ∀ start mapping, space.mappings start = some mapping → mapping.maker = name →
    tlb.ptr ≠ NULL ∧ start = tlb.ptr
  live : tlb.ptr ≠ NULL → space.Whole name tlb.ptr tlb.len

/-- Everything but the mappings of one handle and one window is unchanged. -/
structure Frame (name : ℕ) (key : ℤ × ℕ) (space space' : Space) : Prop where
  mappings : ∀ start mapping, mapping.maker ≠ name →
    (space'.mappings start = some mapping ↔ space.mappings start = some mapping)
  windows : ∀ key', key' ≠ key → space'.windows key' = space.windows key'
  strays : space'.strays = space.strays

section Space

variable {name : ℕ} {key : ℤ × ℕ} {space space' space'' : Space} {tlb : Tlb} {start : ℕ}
  {mapping : Mapping} {fd : ℤ} {id : ℕ} {config : Option NocTlbConfig}

theorem Frame.refl (name : ℕ) (key : ℤ × ℕ) (space : Space) : Frame name key space space where
  mappings _ _ _ := Iff.rfl
  windows _ _ := rfl
  strays := rfl

theorem Frame.trans (h : Frame name key space space') (h' : Frame name key space' space'') :
    Frame name key space space'' where
  mappings start mapping hmaker :=
    (h'.mappings start mapping hmaker).trans (h.mappings start mapping hmaker)
  windows key' hkey := (h'.windows key' hkey).trans (h.windows key' hkey)
  strays := h'.strays.trans h.strays

theorem Frame.mapped (hvacant : space.mappings start = none) (hmaker : mapping.maker = name) :
    Frame name key space (space.mapped start mapping) where
  mappings start' mapping' hmaker' := by
    by_cases hstart : start' = start
    · subst hstart
      rw [Space.mapped_mappings_self, hvacant]
      constructor
      · intro h
        obtain rfl := Option.some.inj h
        exact absurd hmaker hmaker'
      · intro h
        cases h
    · rw [Space.mapped_mappings_of_ne hstart]
  windows _ _ := rfl
  strays := rfl

theorem Frame.unmapped (hlive : space.mappings start = some mapping) (hmaker : mapping.maker = name) :
    Frame name key space (space.unmapped start) where
  mappings start' mapping' hmaker' := by
    by_cases hstart : start' = start
    · subst hstart
      rw [Space.unmapped_mappings_self, hlive]
      constructor
      · intro h
        cases h
      · intro h
        obtain rfl := Option.some.inj h
        exact absurd hmaker hmaker'
    · rw [Space.unmapped_mappings_of_ne hstart]
  windows _ _ := rfl
  strays := rfl

theorem Frame.programmed : Frame name (fd, id) space (space.programmed fd id config) where
  mappings _ _ _ := Iff.rfl
  windows _ hkey := Function.update_of_ne hkey _ _
  strays := rfl

theorem Frame.released : Frame name (fd, id) space (space.released fd id) where
  mappings _ _ _ := Iff.rfl
  windows _ hkey := Function.update_of_ne hkey _ _
  strays := rfl

theorem Frame.granted : Frame name (fd, id) space (space.granted fd id) where
  mappings _ _ _ := Iff.rfl
  windows _ hkey := Function.update_of_ne hkey _ _
  strays := rfl

/-- Code that keeps to itself changes no mapping that was there before. -/
theorem Frame.mappings_eq (h : Frame name key space space')
    (hfresh : ∀ start mapping, space.mappings start = some mapping → mapping.maker ≠ name)
    (hgone : ∀ start mapping, space'.mappings start = some mapping → mapping.maker ≠ name) :
    space'.mappings = space.mappings := by
  funext start
  ext mapping
  by_cases hmaker : mapping.maker = name
  · exact iff_of_false (fun hstart ↦ hgone start mapping hstart hmaker)
      fun hstart ↦ hfresh start mapping hstart hmaker
  · exact h.mappings start mapping hmaker

/-- Only the mappings matter. -/
theorem Maps.congr (h : Maps name tlb space) (hmappings : space'.mappings = space.mappings) :
    Maps name tlb space' where
  only start mapping hstart := h.only start mapping (hmappings ▸ hstart)
  live hptr := by
    unfold Space.Whole
    rw [hmappings]
    exact h.live hptr

/-- Unmapping what a handle points at leaves nothing that was made for it. -/
theorem Maps.unmapped (h : Maps name tlb space) {tlb' : Tlb}
    (hnull : tlb'.ptr = NULL) : Maps name tlb' (space.unmapped tlb.ptr) where
  only start mapping hstart hmaker := by
    by_cases heq : start = tlb.ptr
    · subst heq
      rw [Space.unmapped_mappings_self] at hstart
      cases hstart
    · rw [Space.unmapped_mappings_of_ne heq] at hstart
      exact absurd (h.only start mapping hstart hmaker).2 heq
  live hptr' := absurd hnull hptr'

/-- Nothing was made for the handle yet. -/
theorem Maps.fresh (h : ∀ start mapping, space.mappings start = some mapping →
    mapping.maker ≠ name) (hnull : tlb.ptr = NULL) : Maps name tlb space where
  only start mapping hstart hmaker := absurd hmaker (h start mapping hstart)
  live hptr := absurd hnull hptr

/-- A mapping made at a vacant place is not where the handle points. -/
theorem Maps.ne_of_vacant (h : Maps name tlb space) (hvacant : space.mappings start = none)
    (hstart : start ≠ NULL) : start ≠ tlb.ptr := by
  rintro rfl
  obtain ⟨mapping, hmapping, -⟩ := h.live hstart
  cases hvacant.symm.trans hmapping

/-- The first mapping of a handle. -/
theorem Maps.mapped (h : Maps name tlb space) (hptr : tlb.ptr = NULL) (hstart : start ≠ NULL)
    (hmaker : mapping.maker = name) (hlen : mapping.len = tlb.len) :
    Maps name { tlb with ptr := start } (space.mapped start mapping) where
  only start' mapping' hstart' hmaker' := by
    by_cases heq : start' = start
    · exact ⟨hstart, heq⟩
    · rw [Space.mapped_mappings_of_ne heq] at hstart'
      exact absurd hptr (h.only start' mapping' hstart' hmaker').1
  live _ := ⟨mapping, Space.mapped_mappings_self, hmaker, hlen⟩

/-- The new mapping of a handle, after the old one went. -/
theorem Maps.remapped (h : Maps name tlb space) (hvacant : space.mappings start = none)
    (hstart : start ≠ NULL) (hmaker : mapping.maker = name) (hlen : mapping.len = tlb.len) :
    Maps name { tlb with ptr := start } ((space.mapped start mapping).unmapped tlb.ptr) where
  only start' mapping' hstart' hmaker' := by
    by_cases hold : start' = tlb.ptr
    · subst hold
      rw [Space.unmapped_mappings_self] at hstart'
      cases hstart'
    · rw [Space.unmapped_mappings_of_ne hold] at hstart'
      by_cases heq : start' = start
      · exact ⟨hstart, heq⟩
      · rw [Space.mapped_mappings_of_ne heq] at hstart'
        exact absurd (h.only start' mapping' hstart' hmaker').2 hold
  live _ := by
    refine ⟨mapping, ?_, hmaker, hlen⟩
    rw [Space.unmapped_mappings_of_ne (h.ne_of_vacant hvacant hstart)]
    exact Space.mapped_mappings_self

end Space

/-! ## Specifications of the functions -/

section Specifications

variable {name : ℕ} {key : ℤ × ℕ} {sess : Session} {tlb : Tlb} {space : Space} {thread : Thread}

/-- Unmapping a whole mapping succeeds. -/
theorem wp_munmap {start len : ℕ} {post : Procedure.Post Sys (Reply Unit) Thread Space}
    (hwhole : space.Whole name start len)
    (hpost : ∀ residue, post [⟨.munmap start len, .ok () residue⟩] (.ok () residue)
      { thread with errno := residue } (space.unmapped start)) :
    Procedure.wp (Space.contract name) (sys (.munmap start len)) post thread space := by
  refine (wp_sys (.munmap start len) post).mpr ⟨trivial, fun reply space' hanswer ↦ ?_⟩
  obtain ⟨hok, rfl⟩ := (hanswer.resolve_right fun hstray ↦ hstray.1 hwhole).2
  cases reply with
  | ok value residue => exact hpost residue
  | fail err => cases hok

/-- What is left of a space once a handle is unconfigured. -/
structure Unconfigured (name : ℕ) (key : ℤ × ℕ) (space : Space) (tlb tlb' : Tlb)
    (space' : Space) : Prop where
  handle : tlb' = { tlb with ptr := NULL }
  maps : Maps name tlb' space'
  frame : Frame name key space space'
  windows : space'.windows = space.windows

theorem wp_tlbUnconfigure (key : ℤ × ℕ) (h : Maps name tlb space) :
    Procedure.wp (Space.contract name) (tlbUnconfigure tlb) (fun _ out thread' space' ↦
      out.1 = .TT_ERR ∧ thread'.errno = thread.errno ∧
        Unconfigured name key space tlb out.2 space') thread space := by
  simp only [tlbUnconfigure, Procedure.wp_bind, wp_getErrno]
  split
  · rename_i hptr
    obtain ⟨mapping, hlive, hmaker, hlen⟩ := h.live hptr
    rw [Procedure.wp_bind]
    refine wp_munmap ⟨mapping, hlive, hmaker, hlen⟩ fun residue ↦ ⟨rfl, rfl, ?_⟩
    exact ⟨rfl, h.unmapped rfl, .unmapped hlive hmaker, rfl⟩
  · rename_i hptr
    have hnull : tlb.ptr = NULL := not_not.mp hptr
    have hsame : tlb = { tlb with ptr := NULL } := by rw [← hnull]
    exact ⟨rfl, rfl, hsame, h, .refl _ _ _, rfl⟩

/-- A handle that was allocated on a session and not freed. -/
structure Serves (name : ℕ) (sess : Session) (tlb : Tlb) (bound : Option TlbConfig)
    (space : Space) : Prop where
  maps : Maps name tlb space
  granted : space.windows (sess.fd, tlb.id) ≠ none
  programmed : tlb.ptr ≠ NULL → ∃ cfg, bound = some cfg ∧
    space.windows (sess.fd, tlb.id) = some (some (nocTlbConfig cfg))

/-- A handle that points at nothing only needs its window. -/
theorem Unconfigured.serves {space space' : Space} {tlb' : Tlb} {bound : Option TlbConfig}
    (h : Unconfigured name key space tlb tlb' space')
    (hgranted : space.windows (sess.fd, tlb.id) ≠ none) : Serves name sess tlb' bound space' where
  maps := h.maps
  granted := by
    rw [h.windows, h.handle]
    exact hgranted
  programmed hptr := by
    rw [h.handle] at hptr
    exact absurd rfl hptr

theorem Serves.bound {cfg : TlbConfig} (hmaps : Maps name tlb space)
    (hwindow : space.windows (sess.fd, tlb.id) = some (some (nocTlbConfig cfg))) :
    Serves name sess tlb (some cfg) space where
  maps := hmaps
  granted := hwindow ▸ Option.some_ne_none _
  programmed _ := ⟨cfg, rfl, hwindow⟩

/-- What a bind does: it points the handle at a new mapping, or unconfigures it. -/
structure Binds (name : ℕ) (sess : Session) (cfg bound : Option TlbConfig) (tlb : Tlb)
    (space : Space) (status : Status) (tlb' : Tlb) (space' : Space) : Prop where
  frame : Frame name (sess.fd, tlb.id) space space'
  handle : ∃ ptr, tlb' = { tlb with ptr := ptr }
  serves : Serves name sess tlb' (if status = .TT_OK () then cfg else bound) space'
  /-- A new address, at which nothing was mapped, and nothing is left at the old one. -/
  moved : status = .TT_OK () → tlb'.ptr ≠ NULL ∧ space.mappings tlb'.ptr = none ∧
    tlb'.ptr ≠ tlb.ptr ∧ (tlb.ptr ≠ NULL → space'.mappings tlb.ptr = none)

theorem wp_tlbBind {bound : Option TlbConfig} (h : Serves name sess tlb bound space)
    (cfg : TlbConfig) :
    Procedure.wp (Space.contract name) (tlbBind sess tlb cfg)
      (fun _ out _ space' ↦ Binds name sess (some cfg) bound tlb space out.1 out.2 space')
      thread space := by
  unfold tlbBind
  split
  · exact ⟨.refl _ _ _, ⟨tlb.ptr, rfl⟩, h, by simp⟩
  · simp only [Procedure.wp_bind, wp_sys]
    refine ⟨trivial, fun reply space' hanswer ↦ ?_⟩
    cases reply with
    | fail err =>
      obtain rfl := hanswer
      simp only [Procedure.wp_bind, wp_ttFailIo]
      refine Procedure.wp_mono (wp_tlbUnconfigure (sess.fd, tlb.id) h.maps) fun _ out _ space'' hout ↦ ?_
      obtain ⟨status, tlb'⟩ := out
      obtain ⟨rfl, -, hclear⟩ := hout
      exact ⟨hclear.frame, ⟨NULL, hclear.handle⟩, hclear.serves h.granted, by simp⟩
    | ok start residue =>
      obtain ⟨hstart, hvacant, mapping, hlen, hmaker, rfl⟩ := hanswer
      have hnone := hvacant.mappings_eq_none (hlen ▸ mapping.positive)
      have hmapped : Frame name (sess.fd, tlb.id) space (space.mapped start mapping) :=
        .mapped hnone hmaker
      simp only [Procedure.wp_bind, wp_sys]
      refine ⟨trivial, fun reply space'' hanswer ↦ ?_⟩
      cases reply with
      | fail err =>
        have hkept : space''.mappings = (space.mapped start mapping).mappings ∧
            Frame name (sess.fd, tlb.id) (space.mapped start mapping) space'' ∧
            space''.windows (sess.fd, tlb.id) ≠ none := by
          rcases hanswer with rfl | ⟨-, config, rfl⟩
          · exact ⟨rfl, .refl _ _ _, h.granted⟩
          · refine ⟨rfl, .programmed, ?_⟩
            rw [Space.programmed_windows_self]
            exact Option.some_ne_none _
        obtain ⟨hmappings, hframe, hgranted⟩ := hkept
        have hlive : space''.mappings start = some mapping := by
          rw [hmappings]
          exact Space.mapped_mappings_self
        have hback : (space''.unmapped start).mappings = space.mappings := by
          simp only [Space.unmapped, hmappings, Space.mapped, Function.update_idem]
          rw [← hnone, Function.update_eq_self]
        simp only [Procedure.wp_bind]
        refine wp_munmap ⟨mapping, hlive, hmaker, hlen⟩ fun residue' ↦ ?_
        simp only [wp_ttFailIo]
        refine Procedure.wp_mono (wp_tlbUnconfigure (sess.fd, tlb.id) (h.maps.congr hback))
          fun _ out _ last hout ↦ ?_
        obtain ⟨status, tlb'⟩ := out
        obtain ⟨rfl, -, hclear⟩ := hout
        have hfirst : Frame name (sess.fd, tlb.id) space (space''.unmapped start) :=
          hmapped.trans (hframe.trans (.unmapped hlive hmaker))
        exact ⟨hfirst.trans hclear.frame, ⟨NULL, hclear.handle⟩, hclear.serves hgranted, by simp⟩
      | ok value residue' =>
        obtain ⟨-, rfl⟩ := hanswer
        have hne := h.maps.ne_of_vacant hnone hstart
        have hprogrammed : Frame name (sess.fd, tlb.id) space ((space.mapped start mapping).programmed
            sess.fd tlb.id (some (nocTlbConfig cfg))) :=
          hmapped.trans .programmed
        by_cases hptr : tlb.ptr ≠ NULL
        · simp only [if_pos hptr, Procedure.wp_bind]
          obtain ⟨old, hold, hmaker', hlen'⟩ := h.maps.live hptr
          have hlive : ((space.mapped start mapping).programmed sess.fd tlb.id
              (some (nocTlbConfig cfg))).mappings tlb.ptr = some old :=
            (Space.mapped_mappings_of_ne hne.symm).trans hold
          refine wp_munmap ⟨old, hlive, hmaker', hlen'⟩ fun residue'' ↦ ?_
          exact
            { frame := hprogrammed.trans (.unmapped hlive hmaker')
              handle := ⟨start, rfl⟩
              serves := .bound ((h.maps.remapped hnone hstart hmaker hlen).congr rfl)
                Space.programmed_windows_self
              moved := fun _ ↦ ⟨hstart, hnone, hne, fun _ ↦ Space.unmapped_mappings_self⟩ }
        · simp only [if_neg hptr]
          have hnull : tlb.ptr = NULL := not_not.mp hptr
          exact
            { frame := hprogrammed
              handle := ⟨start, rfl⟩
              serves := .bound ((h.maps.mapped hnull hstart hmaker hlen).congr rfl)
                Space.programmed_windows_self
              moved := fun _ ↦ ⟨hstart, hnone, hne, fun h ↦ absurd h hptr⟩ }

/-- What freeing does: it unmaps, and then gives the window back or fails. -/
structure Frees (name : ℕ) (sess : Session) (bound : Option TlbConfig) (tlb : Tlb) (space : Space)
    (status : Status) (tlb' : Tlb) (space' : Space) : Prop where
  frame : Frame name (sess.fd, tlb.id) space space'
  kept : status = .TT_ERR → tlb' = { tlb with ptr := NULL } ∧ Serves name sess tlb' bound space'
  gone : status = .TT_OK () → ∀ start mapping, space'.mappings start = some mapping →
    mapping.maker ≠ name

theorem wp_tlbRelease {bound : Option TlbConfig} (hnull : tlb.ptr = NULL)
    (h : Serves name sess tlb bound space) :
    Procedure.wp (Space.contract name) (tlbRelease sess tlb)
      (fun _ out _ space' ↦ Frees name sess bound tlb space out.1 out.2 space') thread space := by
  have hsame : tlb = { tlb with ptr := NULL } := by rw [← hnull]
  unfold tlbRelease
  split
  · exact ⟨.refl _ _ _, fun _ ↦ ⟨hsame, h⟩, by simp⟩
  · simp only [Procedure.wp_bind, wp_sys]
    refine ⟨trivial, fun reply space' hanswer ↦ ?_⟩
    cases reply with
    | fail err =>
      obtain rfl := hanswer
      exact ⟨.refl _ _ _, fun _ ↦ ⟨hsame, h⟩, by simp⟩
    | ok value residue =>
      obtain ⟨-, rfl⟩ := hanswer
      refine ⟨.released, by simp, fun _ start mapping hstart hmaker ↦ ?_⟩
      exact (h.maps.only start mapping hstart hmaker).1 hnull

theorem wp_tlbFree {bound : Option TlbConfig} (h : Serves name sess tlb bound space) :
    Procedure.wp (Space.contract name) (tlbFree sess tlb)
      (fun _ out _ space' ↦ Frees name sess bound tlb space out.1 out.2 space') thread space := by
  unfold tlbFree
  by_cases hptr : tlb.ptr ≠ NULL
  · obtain ⟨mapping, hlive, hmaker, hlen⟩ := h.maps.live hptr
    rw [if_pos hptr, Procedure.wp_bind]
    refine wp_munmap ⟨mapping, hlive, hmaker, hlen⟩ fun residue ↦ ?_
    have hserves : Serves name sess { tlb with ptr := NULL } bound (space.unmapped tlb.ptr) :=
      ⟨h.maps.unmapped rfl, h.granted, fun hnull ↦ absurd rfl hnull⟩
    refine Procedure.wp_mono (wp_tlbRelease rfl hserves) fun _ out _ space' hout ↦ ?_
    exact ⟨.trans (.unmapped hlive hmaker) hout.frame, hout.kept, hout.gone⟩
  · have hnull : tlb.ptr = NULL := not_not.mp hptr
    have hsame : { tlb with ptr := NULL } = tlb := by rw [← hnull]
    rw [if_neg hptr, hsame]
    exact wp_tlbRelease hnull h

/-- A freed handle has no mapping left, whether or not its window was given back. -/
theorem Frees.unmapped {bound : Option TlbConfig} {space' : Space} {status : Status}
    {tlb' : Tlb} (h : Frees name sess bound tlb space status tlb' space') (start : ℕ) (mapping : Mapping)
    (hstart : space'.mappings start = some mapping) : mapping.maker ≠ name := by
  cases status with
  | TT_OK done => exact h.gone rfl start mapping hstart
  | TT_ERR =>
    obtain ⟨rfl, hserves⟩ := h.kept rfl
    intro hmaker
    exact (hserves.maps.only start mapping hstart hmaker).1 rfl

/-- What allocating does: it makes a handle without a mapping, or leaves all windows that were
granted before alone. -/
structure Allocates (name : ℕ) (sess : Session) (size mode : ℕ) (space : Space)
    (trace : List (Event Sys)) (status : Status) (tlb : Tlb) (space' : Space) : Prop where
  mappings : space'.mappings = space.mappings
  strays : space'.strays = space.strays
  windows : ∀ key, space.windows key ≠ none → space'.windows key = space.windows key
  serves : status = .TT_OK () → tlb.ptr = NULL ∧ space.windows (sess.fd, tlb.id) = none ∧
    Serves name sess tlb none space'
  /-- A window granted for an invalid cache mode is to be freed again. -/
  returned : ∀ out residue, ⟨.allocateTlb sess.fd size, .ok out residue⟩ ∈ trace →
    mode ≠ TT_TLB_UC → mode ≠ TT_TLB_WC →
    status = .TT_ERR ∧ ∃ reply, ⟨.freeTlb sess.fd out.id, reply⟩ ∈ trace

theorem wp_tlbAlloc (h : ∀ start mapping, space.mappings start = some mapping →
    mapping.maker ≠ name) (size mode : ℕ) :
    Procedure.wp (Space.contract name) (tlbAlloc sess size mode tlb)
      (fun trace out _ space' ↦ Allocates name sess size mode space trace out.1 out.2 space')
      thread space := by
  unfold tlbAlloc
  split
  · exact ⟨rfl, rfl, fun _ _ ↦ rfl, by simp, by simp⟩
  · simp only [Procedure.wp_bind, wp_sys]
    refine ⟨trivial, fun reply space' hanswer ↦ ?_⟩
    cases reply with
    | fail err =>
      obtain rfl := hanswer
      refine ⟨rfl, rfl, fun _ _ ↦ rfl, by simp, fun out residue hmem ↦ ?_⟩
      simp at hmem
    | ok out residue =>
      obtain ⟨hfree, rfl⟩ := hanswer
      have hwindows : ∀ key, space.windows key ≠ none → key ≠ (sess.fd, out.id) := by
        rintro key hkey rfl
        exact hkey hfree
      have hserves (tlb : Tlb) (hid : tlb.id = out.id) (hnull : tlb.ptr = NULL) :
          tlb.ptr = NULL ∧ space.windows (sess.fd, tlb.id) = none ∧
            Serves name sess tlb none (space.granted sess.fd out.id) := by
        refine ⟨hnull, hid ▸ hfree, .fresh h hnull, ?_, fun hptr ↦ absurd hnull hptr⟩
        rw [hid, Space.granted_windows_self]
        exact Option.some_ne_none _
      simp only
      split
      · rename_i hmode
        exact ⟨rfl, rfl, fun key hkey ↦ Function.update_of_ne (hwindows key hkey) _ _,
          fun _ ↦ hserves _ rfl rfl, fun _ _ _ hne _ ↦ absurd hmode hne⟩
      · split
        · rename_i hmode
          exact ⟨rfl, rfl, fun key hkey ↦ Function.update_of_ne (hwindows key hkey) _ _,
            fun _ ↦ hserves _ rfl rfl, fun _ _ _ _ hne ↦ absurd hmode hne⟩
        · rename_i hfd _ _
          simp only [Procedure.wp_bind, wp_setErrno, wp_getErrno, tlbFree, tlbRelease,
            ne_eq, not_true_eq_false, if_false, if_neg hfd, wp_sys]
          refine ⟨trivial, fun reply space' hanswer ↦ ?_⟩
          have hspace : space'.mappings = space.mappings ∧ space'.strays = space.strays ∧
              ∀ key, key ≠ (sess.fd, out.id) → space'.windows key = space.windows key := by
            cases reply with
            | ok value residue' =>
              obtain ⟨-, rfl⟩ := hanswer
              have hframe : Frame name (sess.fd, out.id) space
                  ((space.granted sess.fd out.id).released sess.fd out.id) :=
                Frame.granted.trans .released
              exact ⟨rfl, rfl, hframe.windows⟩
            | fail err =>
              obtain rfl := hanswer
              exact ⟨rfl, rfl, fun key hkey ↦ Function.update_of_ne hkey _ _⟩
          have hreturned : ∀ out' residue', (⟨.allocateTlb sess.fd size, .ok out' residue'⟩ :
              Event Sys) ∈ [⟨.allocateTlb sess.fd size, .ok out residue⟩,
                (⟨.freeTlb sess.fd out.id, reply⟩ : Event Sys)] → ∃ reply',
              (⟨.freeTlb sess.fd out'.id, reply'⟩ : Event Sys) ∈
                [⟨.allocateTlb sess.fd size, .ok out residue⟩,
                  (⟨.freeTlb sess.fd out.id, reply⟩ : Event Sys)] := by
            intro out' residue' hmem
            have hout : out' = out := by
              simp at hmem
              exact hmem.1
            subst hout
            exact ⟨reply, by simp⟩
          cases reply <;> exact
            { mappings := hspace.1
              strays := hspace.2.1
              windows := fun key hkey ↦ hspace.2.2 key (hwindows key hkey)
              serves := by simp
              returned := fun out' residue' hmem _ _ ↦ ⟨rfl, hreturned out' residue' hmem⟩ }

/-! The entry points check their pointers first. -/

theorem wp_ttTlbBind {bound : Option TlbConfig} (h : Serves name sess tlb bound space)
    (cfg : Option TlbConfig) :
    Procedure.wp (Space.contract name) (ttTlbBind (some sess) (some tlb) cfg)
      (fun _ out _ space' ↦ ∃ tlb', out.2 = some tlb' ∧
        Binds name sess cfg bound tlb space out.1 tlb' space') thread space := by
  cases cfg with
  | none => exact ⟨tlb, rfl, .refl _ _ _, ⟨tlb.ptr, rfl⟩, h, nofun⟩
  | some cfg =>
    exact Procedure.wp_call (wp_tlbBind h cfg) fun _ out _ _ hout ↦ ⟨out.2, rfl, hout⟩

theorem wp_ttTlbFree {bound : Option TlbConfig} (h : Serves name sess tlb bound space) :
    Procedure.wp (Space.contract name) (ttTlbFree (some sess) (some tlb))
      (fun _ out _ space' ↦ ∃ tlb', out.2 = some tlb' ∧
        Frees name sess bound tlb space out.1 tlb' space') thread space :=
  Procedure.wp_call (wp_tlbFree h) fun _ out _ _ hout ↦ ⟨out.2, rfl, hout⟩

theorem wp_ttTlbAlloc (h : ∀ start mapping, space.mappings start = some mapping →
    mapping.maker ≠ name) (size mode : ℕ) :
    Procedure.wp (Space.contract name) (ttTlbAlloc (some sess) size mode (some tlb))
      (fun trace out _ space' ↦ ∃ tlb', out.2 = some tlb' ∧
        Allocates name sess size mode space trace out.1 tlb' space') thread space := by
  refine Procedure.wp_call (wp_tlbAlloc h size mode) fun trace out _ _ hout ↦ ?_
  refine ⟨out.2, rfl, ?_⟩
  rw [List.append_nil]
  exact hout

end Specifications

/-! ## Runs -/

/-- A handle with the session it was allocated on. -/
structure Handle where
  sess : Session
  tlb : Tlb
  /-- What the last successful bind asked for. -/
  bound : Option TlbConfig

structure State where
  space : Space
  handles : ℕ → Option Handle

inductive Label where
  | alloc (name : ℕ) (sess : Option Session) (size mode : ℕ) (trace : List (Event Sys))
    (status : Status)
  | bind (name : ℕ) (cfg : Option TlbConfig) (status : Status)
  | free (name : ℕ) (status : Status)

/-- Each function runs to its end. A handle is used after it was allocated and until it was freed,
with the session it was allocated on. Its memory may hold anything before. -/
inductive Moves : State → Label → State → Prop where
  | alloc {s : State} {name size mode : ℕ} {sess : Option Session} {tlb : Tlb} {tlb' : Option Tlb}
      {thread thread' : Thread} {trace : List (Event Sys)} {status : Status} {space : Space} :
      s.handles name = none →
      Procedure.Executes (Space.contract name) (ttTlbAlloc sess size mode (some tlb)) thread s.space
        trace (status, tlb') thread' space →
      Moves s (.alloc name sess size mode trace status)
        { space := space
          handles := match status, sess, tlb' with
            | .TT_OK _, some sess, some tlb =>
              Function.update s.handles name (some { sess := sess, tlb := tlb, bound := none })
            | _, _, _ => s.handles }
  | bind {s : State} {name : ℕ} {handle : Handle} {cfg : Option TlbConfig} {tlb' : Tlb}
      {thread thread' : Thread} {trace : List (Event Sys)} {status : Status} {space : Space} :
      s.handles name = some handle →
      Procedure.Executes (Space.contract name) (ttTlbBind (some handle.sess) (some handle.tlb) cfg)
        thread s.space trace (status, some tlb') thread' space →
      Moves s (.bind name cfg status)
        { space := space
          handles := Function.update s.handles name (some { handle with
            tlb := tlb'
            bound := if status = .TT_OK () then cfg else handle.bound }) }
  | free {s : State} {name : ℕ} {handle : Handle} {tlb' : Tlb} {thread thread' : Thread}
      {trace : List (Event Sys)} {status : Status} {space : Space} :
      s.handles name = some handle →
      Procedure.Executes (Space.contract name) (ttTlbFree (some handle.sess) (some handle.tlb))
        thread s.space trace (status, some tlb') thread' space →
      Moves s (.free name status)
        { space := space
          handles := Function.update s.handles name
            (if status = .TT_OK () then none else some { handle with tlb := tlb' }) }

/-- The library has no window and no mapping. -/
def Starts (s : State) : Prop :=
  s.space = { windows := fun _ ↦ none, mappings := fun _ ↦ none, strays := [] } ∧
    s.handles = fun _ ↦ none

def system : System State Label where
  starts := Starts
  moves := Moves

/-- What holds after every call. -/
structure Mapped (s : State) : Prop where
  /-- A handle points at something exactly when that is a mapping of its length made for it. -/
  points : ∀ name handle, s.handles name = some handle →
    (handle.tlb.ptr ≠ NULL ↔ s.space.Whole name handle.tlb.ptr handle.tlb.len)
  /-- There is one mapping for each handle at most. -/
  single : ∀ start start' mapping mapping', s.space.mappings start = some mapping →
    s.space.mappings start' = some mapping' → mapping.maker = mapping'.maker → start = start'
  /-- Every mapping is what some handle points at. -/
  reached : ∀ start mapping, s.space.mappings start = some mapping → ∃ handle,
    s.handles mapping.maker = some handle ∧ handle.tlb.ptr = start
  /-- Nothing but whole mappings of the handle was ever unmapped. -/
  strays : s.space.strays = []
  /-- While a handle points at a mapping, its window is programmed as it was bound. -/
  programmed : ∀ name handle, s.handles name = some handle → handle.tlb.ptr ≠ NULL →
    ∃ cfg, handle.bound = some cfg ∧
      s.space.windows (handle.sess.fd, handle.tlb.id) = some (some (nocTlbConfig cfg))

/-- What a call does beside. -/
structure Moved (s : State) (label : Label) (s' : State) : Prop where
  /-- Binding again moves the mapping to another address. -/
  rebinds : ∀ name cfg handle, label = .bind name cfg (.TT_OK ()) →
    s.handles name = some handle → handle.tlb.ptr ≠ NULL → ∃ handle',
      s'.handles name = some handle' ∧ handle'.tlb.ptr ≠ NULL ∧
      handle'.tlb.ptr ≠ handle.tlb.ptr ∧ s'.space.mappings handle.tlb.ptr = none
  /-- A window granted for an invalid cache mode is to be freed again. -/
  returned : ∀ name sess size mode trace status out residue,
    label = .alloc name (some sess) size mode trace status →
    ⟨.allocateTlb sess.fd size, .ok out residue⟩ ∈ trace →
    mode ≠ TT_TLB_UC → mode ≠ TT_TLB_WC →
    status = .TT_ERR ∧ ∃ reply, ⟨.freeTlb sess.fd out.id, reply⟩ ∈ trace

structure Sound (space : Space) (handles : ℕ → Option Handle) : Prop where
  serves : ∀ name handle, handles name = some handle →
    Serves name handle.sess handle.tlb handle.bound space
  made : ∀ start mapping, space.mappings start = some mapping → handles mapping.maker ≠ none
  strays : space.strays = []
  distinct : ∀ name name' handle handle', handles name = some handle →
    handles name' = some handle' →
    (handle.sess.fd, handle.tlb.id) = (handle'.sess.fd, handle'.tlb.id) → name = name'

section Runs

variable {s s' : State} {label : Label} {name : ℕ} {handle handle' : Handle}
  {handles : ℕ → Option Handle} {space space' : Space}

theorem Starts.sound (h : Starts s) : Sound s.space s.handles := by
  rw [h.1, h.2]
  exact ⟨(fun _ _ hnone ↦ nomatch hnone), (fun _ _ hnone ↦ nomatch hnone), rfl,
    (fun _ _ _ _ hnone ↦ nomatch hnone)⟩

/-- A handle is not made twice while it is in use. -/
theorem Sound.maker_ne (h : Sound space handles) (hname : handles name = none) (start : ℕ)
    (mapping : Mapping) (hstart : space.mappings start = some mapping) : mapping.maker ≠ name := by
  rintro rfl
  exact h.made start mapping hstart hname

/-- What one handle did leaves the others as they were. -/
theorem Serves.frame {name' : ℕ} {key : ℤ × ℕ} {bound : Option TlbConfig} {sess : Session}
    {tlb : Tlb} (h : Serves name sess tlb bound space) (hname : name ≠ name')
    (hkey : (sess.fd, tlb.id) ≠ key) (hframe : Frame name' key space space') :
    Serves name sess tlb bound space' where
  maps :=
    { only := fun start mapping hstart hmaker ↦
        h.maps.only start mapping
          ((hframe.mappings start mapping (hmaker ▸ hname)).mp hstart) hmaker
      live := fun hptr ↦ by
        obtain ⟨mapping, hmapping, hmaker, hlen⟩ := h.maps.live hptr
        exact ⟨mapping, (hframe.mappings _ mapping (hmaker ▸ hname)).mpr hmapping, hmaker, hlen⟩ }
  granted := by
    rw [hframe.windows _ hkey]
    exact h.granted
  programmed hptr := by
    rw [hframe.windows _ hkey]
    exact h.programmed hptr

/-- The handles that one handle's entry does not concern. -/
theorem Sound.others (h : Sound space handles) (hhandle : handles name = some handle)
    (hframe : Frame name (handle.sess.fd, handle.tlb.id) space space') {name' : ℕ}
    {other : Handle} (hname : name' ≠ name) (hother : handles name' = some other) :
    Serves name' other.sess other.tlb other.bound space' := by
  have hkey : (other.sess.fd, other.tlb.id) ≠ (handle.sess.fd, handle.tlb.id) :=
    fun heq ↦ hname (h.distinct name' name other handle hother hhandle heq)
  exact (h.serves name' other hother).frame hname hkey hframe

/-- A handle that acted and is still in use. -/
theorem Sound.acted (h : Sound space handles) (hhandle : handles name = some handle)
    (hframe : Frame name (handle.sess.fd, handle.tlb.id) space space')
    (hserves : Serves name handle'.sess handle'.tlb handle'.bound space')
    (hsess : handle'.sess = handle.sess) (hid : handle'.tlb.id = handle.tlb.id) :
    Sound space' (Function.update handles name (some handle')) where
  serves name' other hother := by
    by_cases hname : name' = name
    · subst hname
      rw [Function.update_self] at hother
      obtain rfl := Option.some.inj hother
      exact hserves
    · rw [Function.update_of_ne hname] at hother
      exact h.others hhandle hframe hname hother
  made start mapping hstart := by
    by_cases hmaker : mapping.maker = name
    · rw [hmaker, Function.update_self]
      exact Option.some_ne_none _
    · rw [Function.update_of_ne hmaker]
      exact h.made start mapping ((hframe.mappings start mapping hmaker).mp hstart)
  strays := hframe.strays.trans h.strays
  distinct first second one other hfirst hsecond hkey := by
    have hold : ∀ name' other', Function.update handles name (some handle') name' = some other' →
        ∃ old, handles name' = some old ∧ old.sess.fd = other'.sess.fd ∧
          old.tlb.id = other'.tlb.id := by
      intro name' other' hother
      by_cases hname : name' = name
      · subst hname
        rw [Function.update_self] at hother
        obtain rfl := Option.some.inj hother
        exact ⟨handle, hhandle, by rw [hsess], hid.symm⟩
      · rw [Function.update_of_ne hname] at hother
        exact ⟨other', hother, rfl, rfl⟩
    obtain ⟨one', hone, hfd, hid'⟩ := hold first one hfirst
    obtain ⟨other', hother, hfd', hid''⟩ := hold second other hsecond
    apply h.distinct first second one' other' hone hother
    rw [hfd, hid', hfd', hid'']
    exact hkey

/-- A handle that was freed is no longer in use. -/
theorem Sound.freed (h : Sound space handles) (hhandle : handles name = some handle)
    (hframe : Frame name (handle.sess.fd, handle.tlb.id) space space')
    (hgone : ∀ start mapping, space'.mappings start = some mapping → mapping.maker ≠ name) :
    Sound space' (Function.update handles name none) := by
  have hold : ∀ name' other, Function.update handles name none name' = some other →
      name' ≠ name ∧ handles name' = some other := by
    intro name' other hother
    by_cases hname : name' = name
    · subst hname
      rw [Function.update_self] at hother
      cases hother
    · rw [Function.update_of_ne hname] at hother
      exact ⟨hname, hother⟩
  exact
    { serves := fun name' other hother ↦
        h.others hhandle hframe (hold name' other hother).1 (hold name' other hother).2
      made := fun start mapping hstart ↦ by
        have hmaker := hgone start mapping hstart
        rw [Function.update_of_ne hmaker]
        exact h.made start mapping ((hframe.mappings start mapping hmaker).mp hstart)
      strays := hframe.strays.trans h.strays
      distinct := fun first second one other hfirst hsecond ↦
        h.distinct first second one other (hold _ _ hfirst).2 (hold _ _ hsecond).2 }

/-- Windows that were granted before an allocation are as they were. -/
theorem Sound.spared (h : Sound space handles) (hmappings : space'.mappings = space.mappings)
    (hstrays : space'.strays = space.strays)
    (hwindows : ∀ key, space.windows key ≠ none → space'.windows key = space.windows key) :
    Sound space' handles where
  serves name handle hhandle := by
    have hserves := h.serves name handle hhandle
    have hwindow := hwindows _ hserves.granted
    exact ⟨hserves.maps.congr hmappings, hwindow ▸ hserves.granted, hwindow ▸ hserves.programmed⟩
  made start mapping hstart := h.made start mapping (hmappings ▸ hstart)
  strays := hstrays.trans h.strays
  distinct := h.distinct

/-- A handle that was just allocated, on a window that was free. -/
theorem Sound.allocated (h : Sound space handles) (hmappings : space'.mappings = space.mappings)
    (hstrays : space'.strays = space.strays)
    (hwindows : ∀ key, space.windows key ≠ none → space'.windows key = space.windows key)
    (hfree : space.windows (handle.sess.fd, handle.tlb.id) = none)
    (hserves : Serves name handle.sess handle.tlb handle.bound space') :
    Sound space' (Function.update handles name (some handle)) := by
  have hspared := h.spared hmappings hstrays hwindows
  have hother : ∀ name' other, handles name' = some other →
      (other.sess.fd, other.tlb.id) ≠ (handle.sess.fd, handle.tlb.id) := by
    intro name' other hother hkey
    apply (h.serves name' other hother).granted
    rw [hkey]
    exact hfree
  exact
    { serves := fun name' other hentry ↦ by
        by_cases hname : name' = name
        · subst hname
          rw [Function.update_self] at hentry
          obtain rfl := Option.some.inj hentry
          exact hserves
        · rw [Function.update_of_ne hname] at hentry
          exact hspared.serves name' other hentry
      made := fun start mapping hstart ↦ by
        by_cases hmaker : mapping.maker = name
        · rw [hmaker, Function.update_self]
          exact Option.some_ne_none _
        · rw [Function.update_of_ne hmaker]
          exact hspared.made start mapping hstart
      strays := hspared.strays
      distinct := fun first second one other hfirst hsecond hkey ↦ by
        by_cases hone : first = name
        · by_cases htwo : second = name
          · exact hone.trans htwo.symm
          · subst hone
            rw [Function.update_self] at hfirst
            rw [Function.update_of_ne htwo] at hsecond
            obtain rfl := Option.some.inj hfirst
            exact absurd hkey.symm (hother second other hsecond)
        · rw [Function.update_of_ne hone] at hfirst
          by_cases htwo : second = name
          · subst htwo
            rw [Function.update_self] at hsecond
            obtain rfl := Option.some.inj hsecond
            exact absurd hkey (hother first one hfirst)
          · rw [Function.update_of_ne htwo] at hsecond
            exact h.distinct first second one other hfirst hsecond hkey }

theorem moves_sound (h : Sound s.space s.handles) (hmove : Moves s label s') :
    Sound s'.space s'.handles ∧ Moved s label s' := by
  cases hmove with
  | @alloc name size mode sess tlb tlb' thread thread' trace status space hname hrun =>
    cases sess with
    | none =>
      have hnone : status = .TT_ERR ∧ space = s.space ∧ trace = [] := by
        cases hrun
        exact ⟨rfl, rfl, rfl⟩
      obtain ⟨rfl, rfl, rfl⟩ := hnone
      exact ⟨h, (fun _ _ _ hlabel ↦ nomatch hlabel), (fun _ _ _ _ _ _ _ _ hlabel ↦ nomatch hlabel)⟩
    | some sess =>
      obtain ⟨tlb', rfl, hout⟩ := hrun.ensures (wp_ttTlbAlloc (h.maker_ne hname) size mode)
      constructor
      · cases status with
        | TT_OK =>
          obtain ⟨-, hfree, hserves⟩ := hout.serves rfl
          exact h.allocated hout.mappings hout.strays hout.windows hfree hserves
        | TT_ERR => exact h.spared hout.mappings hout.strays hout.windows
      · refine ⟨(fun _ _ _ hlabel ↦ nomatch hlabel), ?_⟩
        intro name' sess' size' mode' trace' status' out residue hlabel hmem huc hwc
        cases hlabel
        exact hout.returned out residue hmem huc hwc
  | @bind name handle cfg tlb' thread thread' trace status space hhandle hrun =>
    obtain ⟨other, hother, hout⟩ := hrun.ensures (wp_ttTlbBind (h.serves name handle hhandle) cfg)
    obtain rfl := Option.some.inj hother
    constructor
    · have hid : tlb'.id = handle.tlb.id := by
        obtain ⟨ptr, hptr⟩ := hout.handle
        rw [hptr]
      exact h.acted hhandle hout.frame hout.serves rfl hid
    · refine ⟨?_, fun _ _ _ _ _ _ _ _ hlabel ↦ nomatch hlabel⟩
      intro name' cfg' handle' hlabel hhandle' hptr
      cases hlabel
      obtain rfl := Option.some.inj (hhandle.symm.trans hhandle')
      obtain ⟨hnull, -, hne, hold⟩ := hout.moved rfl
      exact ⟨_, Function.update_self _ _ _, hnull, hne, hold hptr⟩
  | @free name handle tlb' thread thread' trace status space hhandle hrun =>
    obtain ⟨other, hother, hout⟩ := hrun.ensures (wp_ttTlbFree (h.serves name handle hhandle))
    obtain rfl := Option.some.inj hother
    refine ⟨?_, (fun _ _ _ hlabel ↦ nomatch hlabel),
      (fun _ _ _ _ _ _ _ _ hlabel ↦ nomatch hlabel)⟩
    cases status with
    | TT_OK => exact h.freed hhandle hout.frame (hout.gone rfl)
    | TT_ERR =>
      obtain ⟨hhandle', hserves⟩ := hout.kept rfl
      exact h.acted hhandle hout.frame hserves rfl (hhandle' ▸ rfl)

theorem Sound.mapped (h : Sound s.space s.handles) : Mapped s where
  points name handle hhandle := by
    constructor
    · exact (h.serves name handle hhandle).maps.live
    · rintro ⟨mapping, hmapping, hmaker, -⟩
      exact ((h.serves name handle hhandle).maps.only _ mapping hmapping hmaker).1
  single start start' mapping mapping' hstart hstart' hmaker := by
    obtain ⟨handle, hhandle⟩ := Option.ne_none_iff_exists'.mp (h.made start mapping hstart)
    have hmaps := (h.serves mapping.maker handle hhandle).maps
    have hfirst := (hmaps.only start mapping hstart rfl).2
    have hsecond := (hmaps.only start' mapping' hstart' hmaker.symm).2
    exact hfirst.trans hsecond.symm
  reached start mapping hstart := by
    obtain ⟨handle, hhandle⟩ := Option.ne_none_iff_exists'.mp (h.made start mapping hstart)
    have hmaps := (h.serves mapping.maker handle hhandle).maps
    exact ⟨handle, hhandle, (hmaps.only start mapping hstart rfl).2.symm⟩
  strays := h.strays
  programmed name handle hhandle := (h.serves name handle hhandle).programmed

/-- After every call each handle points at its one mapping or at none, nothing else is mapped, and
bound windows are programmed as asked. -/
theorem handles_mapped (hreach : system.Reachable s) :
    Mapped s ∧ ∀ label s', Moves s label s' → Moved s label s' := by
  have hsound : Sound s.space s.handles := by
    apply System.Reaches.invariant _ _ hreach
    · exact fun _ hstart ↦ hstart.sound
    · exact fun _ _ _ hinv _ hmove ↦ (moves_sound hinv hmove).1
  exact ⟨hsound.mapped, fun _ _ hmove ↦ (moves_sound hsound hmove).2⟩

end Runs

/-! ## A handle that is allocated and bound -/

def sampleConfig : TlbConfig := { addr := 0, xEnd := 1, yEnd := 2 }

def emptySpace : Space := { windows := fun _ ↦ none, mappings := fun _ ↦ none, strays := [] }

def sampleMapping : Mapping := { len := TT_TLB_2MB, maker := 0, positive := by decide }

def sampleAllocated : State where
  space := emptySpace.granted 3 5
  handles := Function.update (fun _ ↦ none) 0
    (some { sess := sampleSession, tlb := sampleTlb, bound := none })

def sampleBound : State where
  space := ((emptySpace.granted 3 5).mapped 4096 sampleMapping).programmed 3 5
    (some (nocTlbConfig sampleConfig))
  handles := Function.update sampleAllocated.handles 0
    (some { sess := sampleSession, tlb := { sampleTlb with ptr := 4096 }, bound := some sampleConfig })

theorem sampleAllocated_moves :
    Moves { space := emptySpace, handles := fun _ ↦ none }
      (.alloc 0 (some sampleSession) TT_TLB_2MB TT_TLB_UC
        [⟨.allocateTlb 3 TT_TLB_2MB, .ok { id := 5, mmapOffsetUc := 0, mmapOffsetWc := 0 } (.other 0)⟩]
        (.TT_OK ())) sampleAllocated := by
  have hanswer : (Space.contract 0).answers (.allocateTlb 3 TT_TLB_2MB) emptySpace
      (.ok { id := 5, mmapOffsetUc := 0, mmapOffsetWc := 0 } (.other 0))
      (emptySpace.granted 3 5) := ⟨rfl, rfl⟩
  have hrun : Procedure.Executes (Space.contract 0)
      (ttTlbAlloc (some sampleSession) TT_TLB_2MB TT_TLB_UC (some sampleTlb)) Thread.initial emptySpace
      _ (.TT_OK (), some sampleTlb) Thread.initial (emptySpace.granted 3 5) := .call hanswer .done
  have hmove := Moves.alloc (s := { space := emptySpace, handles := fun _ ↦ none }) rfl hrun
  exact hmove

theorem sampleBound_moves :
    Moves sampleAllocated (.bind 0 (some sampleConfig) (.TT_OK ())) sampleBound := by
  have hmmap : (Space.contract 0).answers (.mmap TT_TLB_2MB 3 0) (emptySpace.granted 3 5)
      (.ok 4096 (.other 0)) ((emptySpace.granted 3 5).mapped 4096 sampleMapping) :=
    ⟨by decide, nofun, sampleMapping, rfl, rfl, rfl⟩
  have hconfigure : (Space.contract 0).answers (.configureTlb 3 5 (nocTlbConfig sampleConfig))
      ((emptySpace.granted 3 5).mapped 4096 sampleMapping) (.ok () (.other 0)) sampleBound.space :=
    ⟨by simp [emptySpace, Space.granted, Space.mapped], rfl⟩
  have hrun : Procedure.Executes (Space.contract 0)
      (ttTlbBind (some sampleSession) (some sampleTlb) (some sampleConfig)) Thread.initial
      sampleAllocated.space _ (.TT_OK (), some { sampleTlb with ptr := 4096 }) Thread.initial
      sampleBound.space := .call hmmap (.call hconfigure .done)
  have hhandle : sampleAllocated.handles 0 =
      some { sess := sampleSession, tlb := sampleTlb, bound := none } := rfl
  have hmove := Moves.bind hhandle hrun
  exact hmove

/-- The bound handle points at its mapping. -/
theorem sampleBound_mapped : Mapped sampleBound := by
  have hstart : system.Reachable { space := emptySpace, handles := fun _ ↦ none } :=
    .start ⟨rfl, rfl⟩
  have hbound : system.Reachable sampleBound :=
    (hstart.move trivial sampleAllocated_moves).move trivial sampleBound_moves
  exact (handles_mapped hbound).1

end TtDal.Safety.WindowMapping
