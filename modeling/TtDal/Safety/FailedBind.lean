import TtDal.Dev.Tlb
import TtDal.Driver.Space

/-!
# What a failed bind leaves behind

A bind that fails should leave the handle unconfigured, with neither the old mapping nor a new one
in place. It does whenever it got as far as asking for a mapping and no unmapping was refused.
The checks in front of that return early, and leave a bound handle bound.
-/

namespace TtDal.Safety.FailedBind

open Effect Platform Dev Driver

/-- Nothing is left of a handle's mappings. -/
structure Unbinds (tlb : Tlb) (space : Space) (tlb' : Tlb) (space' : Space) : Prop where
  handle : tlb'.ptr = NULL
  previous : tlb.ptr ≠ NULL → space'.mappings tlb.ptr = none
  fresh : ∀ start mapping, space'.mappings start = some mapping →
    space.mappings start = some mapping

/-- An unmapping was refused. -/
def Refuses (trace : List (Event Sys)) : Prop :=
  ∃ start len err, (⟨.munmap start len, .fail err⟩ : Event Sys) ∈ trace

/-- A handle that points at a mapping points at the one that was made for it. -/
def Live (maker : ℕ) (tlb : Tlb) (space : Space) : Prop :=
  tlb.ptr ≠ NULL → space.Whole maker tlb.ptr tlb.len

section Refuses

variable {trace : List (Event Sys)} {start len : ℕ}

@[simp]
theorem not_refuses_nil : ¬Refuses [] := by
  simp [Refuses]

theorem refuses_fail {err : Errno} : Refuses (⟨.munmap start len, .fail err⟩ :: trace) :=
  ⟨start, len, err, List.mem_cons_self⟩

@[simp]
theorem refuses_ok {residue : Errno} :
    Refuses (⟨.munmap start len, .ok () residue⟩ :: trace) ↔ Refuses trace := by
  simp [Refuses]

end Refuses

section Specifications

variable {maker : ℕ} {sess : Session} {tlb : Tlb} {space space' : Space} {thread : Thread}
  {start len : ℕ}

/-- A whole mapping is unmapped, or the unmapping is refused. -/
theorem wp_munmap {post : Procedure.Post Sys (Reply Unit) Thread Space}
    (hwhole : space.Whole maker start len)
    (hok : ∀ residue, post [⟨.munmap start len, .ok () residue⟩] (.ok () residue)
      { thread with errno := residue } (space.unmapped start))
    (hfail : ∀ err, post [⟨.munmap start len, .fail err⟩] (.fail err)
      { thread with errno := err } space) :
    Procedure.wp (Space.refusing maker) (sys (.munmap start len)) post thread space := by
  rw [wp_sys]
  refine ⟨trivial, fun reply space' hanswer ↦ ?_⟩
  cases reply with
  | ok value residue =>
    have hunmapped : Space.answers maker (.munmap start len) space (.ok value residue) space' :=
      hanswer
    obtain ⟨-, rfl⟩ := (hunmapped.resolve_right fun hstray ↦ hstray.1 hwhole).2
    exact hok residue
  | fail err =>
    have hsame : space' = space := hanswer
    subst hsame
    exact hfail err

/-- What the cleanup of a bind does to the old mapping. -/
structure Cleans (tlb : Tlb) (space : Space) (trace : List (Event Sys)) (out : Status × Tlb)
    (space' : Space) : Prop where
  status : out.1 = .TT_ERR
  handle : out.2.ptr = NULL
  previous : tlb.ptr ≠ NULL → (space'.mappings tlb.ptr = none ↔ ¬Refuses trace)
  others : ∀ start, tlb.ptr = NULL ∨ start ≠ tlb.ptr → space'.mappings start = space.mappings start
  silent : tlb.ptr = NULL → ¬Refuses trace

theorem wp_tlbUnconfigure (h : Live maker tlb space) :
    Procedure.wp (Space.refusing maker) (tlbUnconfigure tlb)
      (fun trace out _ space' ↦ Cleans tlb space trace out space') thread space := by
  unfold tlbUnconfigure
  rw [Procedure.wp_bind, wp_getErrno]
  split
  · rename_i hptr
    rw [Procedure.wp_bind]
    apply wp_munmap (h hptr)
    · intro residue
      exact {
        status := rfl
        handle := rfl
        previous := fun _ ↦ iff_of_true Space.unmapped_mappings_self (by simp)
        others := fun start hstart ↦ Space.unmapped_mappings_of_ne (hstart.resolve_left hptr)
        silent := fun hnull ↦ absurd hnull hptr }
    · intro err
      obtain ⟨mapping, hmapping, -⟩ := h hptr
      exact {
        status := rfl
        handle := rfl
        previous := fun _ ↦ by simp [hmapping, refuses_fail]
        others := fun _ _ ↦ rfl
        silent := fun hnull ↦ absurd hnull hptr }
  · rename_i hptr
    have hnull : tlb.ptr = NULL := not_not.mp hptr
    exact {
      status := rfl
      handle := hnull
      previous := fun hbound ↦ absurd hnull hbound
      others := fun _ _ ↦ rfl
      silent := fun _ ↦ not_refuses_nil }

/-- The cleanup decides the outcome when no new mapping is in its way. -/
theorem Cleans.unbinds {first rest : Space} {trace : List (Event Sys)} {out : Status × Tlb}
    (h : Cleans tlb first trace out rest) (hsame : first.mappings = space.mappings) :
    Unbinds tlb space out.2 rest ↔ ¬Refuses trace := by
  constructor
  · intro hunbinds hrefuses
    have hbound : tlb.ptr ≠ NULL := fun hnull ↦ h.silent hnull hrefuses
    exact (h.previous hbound).mp (hunbinds.previous hbound) hrefuses
  · intro hrefuses
    have hprevious : tlb.ptr ≠ NULL → rest.mappings tlb.ptr = none :=
      fun hbound ↦ (h.previous hbound).mpr hrefuses
    refine ⟨h.handle, hprevious, fun start mapping hstart ↦ ?_⟩
    by_cases hold : tlb.ptr = NULL ∨ start ≠ tlb.ptr
    · rw [h.others start hold, hsame] at hstart
      exact hstart
    · obtain ⟨hbound, rfl⟩ := not_or.mp hold |>.imp id not_not.mp
      rw [hprevious hbound] at hstart
      cases hstart

/-- A new mapping that stays is noticed. -/
theorem Cleans.not_unbinds {first rest : Space} {trace : List (Event Sys)} {out : Status × Tlb}
    {mapping : Mapping} (h : Cleans tlb first trace out rest) (hlive : Live maker tlb space)
    (hvacant : space.mappings start = none) (hmapped : first.mappings start = some mapping) :
    ¬Unbinds tlb space out.2 rest := by
  intro hunbinds
  have hother : tlb.ptr = NULL ∨ start ≠ tlb.ptr := by
    by_contra hsame
    obtain ⟨hbound, rfl⟩ := not_or.mp hsame |>.imp id not_not.mp
    obtain ⟨old, hold, -⟩ := hlive hbound
    cases hvacant.symm.trans hold
  have hfresh := hunbinds.fresh start mapping ((h.others start hother).trans hmapped)
  cases hvacant.symm.trans hfresh

/-- The rest of a failed bind, once a new mapping was made. -/
theorem wp_tlbUnmap {mapping : Mapping} (h : Live maker tlb space)
    (hvacant : space.mappings start = none) (hlen : mapping.len = tlb.len)
    (hmaker : mapping.maker = maker)
    (hmapped : space'.mappings = (space.mapped start mapping).mappings) (err : Errno) :
    Procedure.wp (Space.refusing maker) (do
        let _ ← sys (.munmap start tlb.len)
        let _ : Status ← ttFailIo err
        tlbUnconfigure tlb) (fun trace out _ space'' ↦
      Unbinds tlb space out.2 space'' ↔ ¬Refuses trace) thread space' := by
  have hnew : space'.mappings start = some mapping := by
    rw [hmapped, Space.mapped_mappings_self]
  have hne : tlb.ptr ≠ NULL → tlb.ptr ≠ start := by
    rintro hbound rfl
    obtain ⟨old, hold, -⟩ := h hbound
    cases hvacant.symm.trans hold
  rw [Procedure.wp_bind]
  apply wp_munmap ⟨mapping, hnew, hmaker, hlen⟩
  · intro residue
    have hsame : (space'.unmapped start).mappings = space.mappings := by
      funext other
      by_cases hother : other = start
      · rw [hother, Space.unmapped_mappings_self, hvacant]
      · rw [Space.unmapped_mappings_of_ne hother, hmapped, Space.mapped_mappings_of_ne hother]
    have hlive : Live maker tlb (space'.unmapped start) := by
      intro hbound
      unfold Space.Whole
      rw [hsame]
      exact h hbound
    rw [Procedure.wp_bind, wp_ttFailIo]
    refine Procedure.wp_mono (wp_tlbUnconfigure hlive) fun trace out _ rest hclean ↦ ?_
    rw [hclean.unbinds hsame]
    simp
  · intro refused
    have hlive : Live maker tlb space' := by
      intro hbound
      unfold Space.Whole
      rw [hmapped, Space.mapped_mappings_of_ne (hne hbound)]
      exact h hbound
    rw [Procedure.wp_bind, wp_ttFailIo]
    refine Procedure.wp_mono (wp_tlbUnconfigure hlive) fun trace out _ rest hclean ↦ ?_
    have hstays : ¬Unbinds tlb space out.2 rest := hclean.not_unbinds h hvacant hnew
    exact iff_of_false hstays (not_not.mpr refuses_fail)

theorem wp_tlbBind (h : Live maker tlb space) (cfg : TlbConfig) :
    Procedure.wp (Space.refusing maker) (tlbBind sess tlb cfg) (fun trace out _ space' ↦
      out.1 = .TT_ERR →
        (Unbinds tlb space out.2 space' ↔ (tlb.ptr = NULL ∨ 0 ≤ sess.fd) ∧ ¬Refuses trace))
      thread space := by
  unfold tlbBind
  split
  · rename_i hfd
    intro _
    have hopen : ¬0 ≤ sess.fd := Int.not_le.mpr hfd
    constructor
    · exact fun hunbinds ↦ ⟨.inl hunbinds.handle, not_refuses_nil⟩
    · intro hnull
      exact ⟨hnull.1.resolve_right hopen, fun hbound ↦ absurd (hnull.1.resolve_right hopen) hbound,
        fun _ _ hstart ↦ hstart⟩
  · rename_i hfd
    have hopen : tlb.ptr = NULL ∨ 0 ≤ sess.fd := .inr (Int.not_lt.mp hfd)
    rw [Procedure.wp_bind, wp_sys]
    refine ⟨trivial, fun reply space' hanswer ↦ ?_⟩
    cases reply with
    | fail err =>
      have hsame : space' = space := hanswer
      subst hsame
      rw [Procedure.wp_bind, wp_ttFailIo]
      refine Procedure.wp_mono (wp_tlbUnconfigure h) fun trace out _ space'' hclean _ ↦ ?_
      rw [hclean.unbinds rfl, and_iff_right hopen]
      simp [Refuses]
    | ok start residue =>
      obtain ⟨-, hvacant, mapping, hlen, hmaker, rfl⟩ :
        start ≠ NULL ∧ space.Vacant start tlb.len ∧ ∃ mapping : Mapping, mapping.len = tlb.len ∧
          mapping.maker = maker ∧ space' = space.mapped start mapping := hanswer
      have hfree := hvacant.mappings_eq_none (hlen ▸ mapping.positive)
      rw [Procedure.wp_bind, wp_sys]
      refine ⟨trivial, fun reply space' hanswer ↦ ?_⟩
      cases reply with
      | ok value residue =>
        -- the old mapping goes, whatever becomes of it, and the bind succeeds
        dsimp only
        split
        · rw [Procedure.wp_bind, wp_sys]
          exact ⟨trivial, fun _ _ _ herr ↦ nomatch herr⟩
        · exact fun herr ↦ nomatch herr
      | fail err =>
        have hmapped : space'.mappings = (space.mapped start mapping).mappings := by
          rcases hanswer with rfl | ⟨-, config, rfl⟩
          · rfl
          · rfl
        refine Procedure.wp_mono (wp_tlbUnmap h hfree hlen hmaker hmapped err)
          fun trace out _ rest hiff _ ↦ ?_
        rw [hiff, and_iff_right hopen]
        simp [Refuses]

end Specifications

section Bind

variable {maker : ℕ} {sess : Session} {tlb tlb' : Tlb} {cfg : Option TlbConfig}
  {space space' : Space} {thread thread' : Thread} {trace : List (Event Sys)}

/-- A bind that fails unconfigures the handle exactly when the handle was not bound, or the
session was open and a configuration was given, and no unmapping was refused. -/
theorem failed_bind_unbinds_iff (h : Live maker tlb space)
    (hrun : Procedure.Executes (Space.refusing maker) (ttTlbBind (some sess) (some tlb) cfg)
      thread space trace (.TT_ERR, some tlb') thread' space') :
    Unbinds tlb space tlb' space' ↔
      (tlb.ptr = NULL ∨ 0 ≤ sess.fd ∧ cfg ≠ none) ∧ ¬Refuses trace := by
  have hspec : Procedure.wp (Space.refusing maker) (ttTlbBind (some sess) (some tlb) cfg)
      (fun trace out _ space' ↦ ∀ tlb', out = (.TT_ERR, some tlb') →
        (Unbinds tlb space tlb' space' ↔
          (tlb.ptr = NULL ∨ 0 ≤ sess.fd ∧ cfg ≠ none) ∧ ¬Refuses trace)) thread space := by
    cases cfg with
    | none =>
      intro tlb' hout
      obtain rfl := Option.some.inj (Prod.mk.inj hout).2
      constructor
      · exact fun hunbinds ↦ ⟨.inl hunbinds.handle, not_refuses_nil⟩
      · intro hnull
        have hnull : tlb.ptr = NULL := hnull.1.resolve_right fun hcfg ↦ hcfg.2 rfl
        exact ⟨hnull, fun hbound ↦ absurd hnull hbound, fun _ _ hstart ↦ hstart⟩
    | some cfg =>
      refine Procedure.wp_call (wp_tlbBind h cfg) fun trace out _ rest hbind tlb' hout ↦ ?_
      obtain ⟨hstatus, hhandle⟩ := Prod.mk.inj hout
      obtain rfl := Option.some.inj hhandle
      have hgiven : some cfg ≠ none := Option.some_ne_none cfg
      rw [List.append_nil, and_iff_left hgiven]
      exact hbind hstatus
  exact hrun.ensures hspec tlb' rfl

end Bind

/-! ## A bound handle on a closed session -/

def sampleMapping : Mapping := { len := 4096, maker := 0, positive := by decide }

/-- One window, mapped. -/
def sampleSpace : Space where
  windows _ := none
  mappings start := if start = 4096 then some sampleMapping else none
  strays := []

def sampleBound : Tlb := { id := 0, ptr := 4096, len := 4096, idx := 0 }

def sampleClosed : Session := { dev := { id := 0 }, fd := -1, flags := 0 }

theorem sampleBound_live : Live 0 sampleBound sampleSpace :=
  fun _ ↦ ⟨sampleMapping, rfl, rfl, rfl⟩

/-- The bind fails, and the old mapping stays where the handle points. -/
theorem closed_bind_keeps_mapping :
    Live 0 sampleBound sampleSpace ∧
      Procedure.Executes (Space.refusing 0)
        (ttTlbBind (some sampleClosed) (some sampleBound) (some { addr := 0, xEnd := 1, yEnd := 1 }))
        Thread.initial sampleSpace [] (.TT_ERR, some sampleBound)
        { Thread.initial with errno := .ENOTCONN } sampleSpace ∧
      ¬Unbinds sampleBound sampleSpace sampleBound sampleSpace := by
  refine ⟨sampleBound_live, .done, fun h ↦ ?_⟩
  have hnull := h.handle
  cases hnull

/-- The same bind on an open session whose window is gone. -/
theorem severed_bind_unbinds :
    Unbinds sampleBound sampleSpace { sampleBound with ptr := NULL } (sampleSpace.unmapped 4096) := by
  have hrun : Procedure.Executes (Space.refusing 0)
      (ttTlbBind (some { sampleClosed with fd := 3 }) (some sampleBound)
        (some { addr := 0, xEnd := 1, yEnd := 1 }))
      Thread.initial sampleSpace
      [⟨.mmap 4096 3 0, .fail .ENODEV⟩, ⟨.munmap 4096 4096, .ok () (.other 0)⟩]
      (.TT_ERR, some { sampleBound with ptr := NULL })
      { Thread.initial with errno := .ECONNRESET } (sampleSpace.unmapped 4096) :=
    .call rfl (.call (.inl ⟨⟨sampleMapping, rfl, rfl, rfl⟩, rfl, rfl⟩) .done)
  have hcalled : sampleBound.ptr = NULL ∨ 0 ≤ (3 : ℤ) ∧
      (some { addr := 0, xEnd := 1, yEnd := 1 } : Option TlbConfig) ≠ none := .inr (by simp)
  exact (failed_bind_unbinds_iff sampleBound_live hrun).mpr ⟨hcalled, by simp [Refuses]⟩

end TtDal.Safety.FailedBind
