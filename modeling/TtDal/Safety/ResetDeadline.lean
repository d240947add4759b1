import TtDal.Dev.Reset
import TtDal.Driver.Watch

/-!
# The deadline of a reset

A reset gives up when the clock has passed its budget and no check found the device complete. The
clock is looked at before the device, and a sleep comes in between, so a device that completes in
time is missed when the last check falls before its completion and the sleep behind it outlasts the
budget.
-/

namespace TtDal.Safety.ResetDeadline

open Effect Platform Dev Driver

open Driver.Watch (Seen Passes)

section Wait

variable {completion : ℕ} {sysfs : String} {s s' : Watch} {thread : Thread}

/-- A loop is going on that has not seen the completion. -/
structure Waits (completion : ℕ) (disappeared : Bool) (s : Watch) : Prop where
  started : s.started ≠ none
  unseen : ¬Seen completion s
  absent : s.absent = disappeared

theorem Waits.passes {disappeared : Bool} (h : Waits completion disappeared s)
    (hpasses : Passes s s') : Waits completion disappeared s' where
  started := hpasses.started_eq ▸ h.started
  unseen := hpasses.seen.not.mpr h.unseen
  absent := hpasses.absent_eq ▸ h.absent

theorem wp_markerClear {disappeared : Bool} (h : Waits completion disappeared s) :
    Procedure.wp (Watch.contract completion) (markerClear sysfs) (fun _ complete _ s' ↦
      s'.started ≠ none ∧ if complete then Seen completion s' else Waits completion disappeared s')
      thread s := by
  rw [markerClear, Procedure.wp_bind, wp_sys]
  refine ⟨trivial, fun reply s₁ hanswer ↦ ?_⟩
  obtain ⟨hok, hopened⟩ : ((readOnly true).excl = false → reply.isOk = true) ∧ Passes s s₁ := hanswer
  have hwaits := h.passes hopened
  cases reply with
  | fail err => cases hok rfl
  | ok cfd residue =>
    rw [Procedure.wp_bind, wp_sys]
    refine ⟨trivial, fun reply s₂ hanswer ↦ ?_⟩
    obtain ⟨t, cmd, residue', -, rfl, hmarker, rfl⟩ : ∃ t cmd residue, s₁.now ≤ t ∧
      reply = .ok [cmd] residue ∧ (cmd.toNat / 2 ^ 6 % 2 = 0 ↔ completion ≤ t) ∧
      s₂ = { s₁ with now := t, checks := t :: s₁.checks } := hanswer
    rw [Procedure.wp_bind, wp_sys]
    refine ⟨trivial, fun closed s₃ hclosed ↦ ?_⟩
    obtain ⟨-, hpasses⟩ : closed ≠ .fail .ETIMEDOUT ∧
      Passes { s₁ with now := t, checks := t :: s₁.checks } s₃ := hclosed
    have hstarted : s₃.started ≠ none := hpasses.started_eq ▸ hwaits.started
    refine ⟨hstarted, ?_⟩
    dsimp only
    split
    · rename_i hclear
      have hlate : completion ≤ t := hmarker.mp (of_decide_eq_true hclear)
      exact hpasses.seen.mpr (.inl ⟨t, List.mem_cons_self, hlate⟩)
    · rename_i hset
      have hearly : ¬completion ≤ t := fun hlate ↦ hset (decide_eq_true (hmarker.mpr hlate))
      refine ⟨hstarted, hpasses.seen.not.mpr ?_, hpasses.absent_eq ▸ hwaits.absent⟩
      rw [Watch.seen_checked]
      exact not_or.mpr ⟨hearly, hwaits.unseen⟩

/-- The wait ends in completion exactly when it was seen. -/
theorem wp_awaitReset (start : Timespec) (rounds : ℕ) {disappeared : Bool}
    (h : Waits completion disappeared s) :
    Procedure.wp (Watch.contract completion) (awaitReset sysfs start rounds disappeared)
      (fun _ complete _ s' ↦ s'.started ≠ none ∧ (complete = true ↔ Seen completion s'))
      thread s := by
  induction rounds generalizing disappeared thread s with
  | zero => exact trivial
  | succ rounds ih =>
    rw [awaitReset, Procedure.wp_bind, wp_elapsedMs]
    refine ⟨trivial, fun now s₁ hanswer ↦ ?_⟩
    have hread : Waits completion disappeared s₁ := by
      obtain ⟨t, -, -, rfl⟩ := hanswer
      exact ⟨by simp, h.unseen, h.absent⟩
    split
    · rw [Procedure.wp_bind, wp_sys]
      refine ⟨trivial, fun reply s₂ hanswer ↦ ?_⟩
      cases reply with
      | ok value residue =>
        obtain ⟨t, -, rfl⟩ : ∃ t, s₁.now ≤ t ∧
          s₂ = { s₁ with now := t, back := s₁.back || s₁.absent } := hanswer
        dsimp only
        split
        · rename_i hgone
          have hback : (s₁.back || s₁.absent) = true := by simp [hread.absent, hgone]
          exact ⟨hread.started, iff_of_true rfl (.inr hback)⟩
        · rename_i hpresent
          have hsame : (s₁.back || s₁.absent) = s₁.back := by simp [hread.absent, hpresent]
          have hwaits : Waits completion disappeared
              { s₁ with now := t, back := s₁.back || s₁.absent } := by
            rw [hsame]
            exact ⟨hread.started, hread.unseen, hread.absent⟩
          refine Procedure.wp_call (wp_markerClear hwaits) fun _ complete thread₃ s₃ hmarker ↦ ?_
          obtain ⟨hstarted, hmarker⟩ := hmarker
          split
          · rename_i hcomplete
            rw [if_pos hcomplete] at hmarker
            exact ⟨hstarted, iff_of_true rfl hmarker⟩
          · rename_i hcomplete
            rw [if_neg hcomplete] at hmarker
            rw [Procedure.wp_bind, wp_sys]
            refine ⟨trivial, fun _ s₄ hslept ↦ ?_⟩
            obtain ⟨t', hlater, rfl⟩ : ∃ t, s₃.now + RESET_POLL_INTERVAL_US * 1000 ≤ t ∧
              s₄ = { s₃ with now := t } := hslept
            exact ih (hmarker.passes ⟨t', Nat.le_trans (Nat.le_add_right _ _) hlater, rfl⟩)
      | fail err =>
        obtain ⟨t, -, hearly, rfl⟩ : ∃ t, s₁.now ≤ t ∧ t < completion ∧
          s₂ = { s₁ with now := t, checks := t :: s₁.checks, absent := true } := hanswer
        have hwaits : Waits completion true
            { s₁ with now := t, checks := t :: s₁.checks, absent := true } := by
          refine ⟨hread.started, ?_, rfl⟩
          rw [Watch.seen_checked]
          exact not_or.mpr ⟨Nat.not_le.mpr hearly, hread.unseen⟩
        rw [Procedure.wp_bind, wp_sys]
        refine ⟨trivial, fun _ s₃ hslept ↦ ?_⟩
        obtain ⟨t', hlater, rfl⟩ : ∃ t', t + RESET_POLL_INTERVAL_US * 1000 ≤ t' ∧
          s₃ = { s₁ with now := t', checks := t :: s₁.checks, absent := true } := hslept
        exact ih (hwaits.passes ⟨t', Nat.le_trans (Nat.le_add_right _ _) hlater, rfl⟩)
    · exact ⟨hread.started, iff_of_false Bool.false_ne_true hread.unseen⟩

theorem wp_awaitFirmware (rounds : ℕ) (delay : Timespec) :
    Procedure.wp (Watch.contract completion) (awaitFirmware rounds delay)
      (fun _ _ _ s' ↦ Passes s s') thread s := by
  induction rounds generalizing delay thread s with
  | zero => exact trivial
  | succ rounds ih =>
    rw [awaitFirmware, Procedure.wp_bind, wp_sys]
    refine ⟨trivial, fun answer s₁ hslept ↦ ?_⟩
    have hpasses : Passes s s₁ := hslept
    split
    · exact Procedure.wp_mono (ih _) fun _ _ _ _ hrest ↦ hpasses.trans hrest
    · exact hpasses

/-! ## The report -/

/-- The reset reports a timeout exactly when a wait began and the completion was not seen. -/
def Fits (completion : ℕ) (status : Status) (errno : Errno) (s : Watch) : Prop :=
  status = .TT_ERR ∧ errno = .ETIMEDOUT ↔ s.started ≠ none ∧ ¬Seen completion s

variable {status : Status} {errno err : Errno} {fd : ℤ}

theorem fits_seen (hseen : Seen completion s) (herrno : status = .TT_ERR → errno ≠ .ETIMEDOUT) :
    Fits completion status errno s :=
  iff_of_false (fun htimeout ↦ herrno htimeout.1 htimeout.2) fun hunseen ↦ hunseen.2 hseen

theorem fits_unstarted (hstarted : s.started = none)
    (herrno : status = .TT_ERR → errno ≠ .ETIMEDOUT) : Fits completion status errno s :=
  iff_of_false (fun htimeout ↦ herrno htimeout.1 htimeout.2) fun hwaited ↦ hwaited.1 hstarted

theorem normalise_ne_ETIMEDOUT (h : err ≠ .ETIMEDOUT) : normalise err ≠ .ETIMEDOUT := by
  unfold normalise
  split
  · decide
  · exact h

/-- A failure leaves what was seen as it is. -/
theorem wp_failClosed :
    Procedure.wp (Watch.contract completion) (failClosed fd err) (fun _ status thread' s' ↦
      Passes s s' ∧ status = .TT_ERR ∧ thread'.errno = err) thread s := by
  rw [failClosed, Procedure.wp_bind, wp_sys]
  refine ⟨trivial, fun closed s₁ hclosed ↦ ?_⟩
  obtain ⟨-, hpasses⟩ : closed ≠ .fail .ETIMEDOUT ∧ Passes s s₁ := hclosed
  exact ⟨hpasses, rfl, rfl⟩

theorem wp_failSeen (hseen : Seen completion s) (herr : err ≠ .ETIMEDOUT) :
    Procedure.wp (Watch.contract completion) (failClosed fd err) (fun _ status thread' s' ↦
      Fits completion status thread'.errno s') thread s := by
  refine Procedure.wp_mono wp_failClosed fun _ status thread' s' hfail ↦ ?_
  obtain ⟨hpasses, -, herrno⟩ := hfail
  exact fits_seen (hpasses.seen.mpr hseen) fun _ ↦ herrno ▸ herr

theorem wp_failUnstarted (hstarted : s.started = none) (herr : err ≠ .ETIMEDOUT) :
    Procedure.wp (Watch.contract completion) (failClosed fd err) (fun _ status thread' s' ↦
      Fits completion status thread'.errno s') thread s := by
  refine Procedure.wp_mono wp_failClosed fun _ status thread' s' hfail ↦ ?_
  obtain ⟨hpasses, -, herrno⟩ := hfail
  exact fits_unstarted (hpasses.started_eq.trans hstarted) fun _ ↦ herrno ▸ herr

theorem wp_finishReset (hseen : Seen completion s) :
    Procedure.wp (Watch.contract completion) (finishReset fd) (fun _ status thread' s' ↦
      Fits completion status thread'.errno s') thread s := by
  rw [finishReset, Procedure.wp_bind, wp_sys]
  refine ⟨trivial, fun reply s₁ hanswer ↦ ?_⟩
  obtain ⟨hreply, hpasses⟩ : reply ≠ .fail .ETIMEDOUT ∧ Passes s s₁ := hanswer
  have hseen₁ := hpasses.seen.mpr hseen
  cases reply with
  | fail err => exact wp_failSeen hseen₁ (normalise_ne_ETIMEDOUT fun heq ↦ hreply (heq ▸ rfl))
  | ok result residue =>
    dsimp only
    split
    · exact wp_failSeen hseen₁ (by decide)
    · rw [Procedure.wp_bind, wp_sys]
      refine ⟨trivial, fun closed s₂ hclosed ↦ ?_⟩
      obtain ⟨hclosed, hpasses⟩ : closed ≠ .fail .ETIMEDOUT ∧ Passes s₁ s₂ := hclosed
      have hseen₂ := hpasses.seen.mpr hseen₁
      cases closed with
      | fail err => exact fits_seen hseen₂ fun _ heq ↦ hclosed (congrArg _ heq)
      | ok value residue => exact fits_seen hseen₂ nofun

theorem wp_resetExclusive (h : s.Begins) (rounds : ℕ) {sess : Session} (hfd : 0 ≤ sess.fd) :
    Procedure.wp (Watch.contract completion) (resetExclusive rounds sess)
      (fun _ status thread' s' ↦ Fits completion status thread'.errno s') thread s := by
  simp only [resetExclusive, devInfo, if_neg (Int.not_lt.mpr hfd)]
  rw [Procedure.wp_bind, Procedure.wp_bind, wp_sys]
  refine ⟨trivial, fun reply s₁ hanswer ↦ ?_⟩
  obtain ⟨hreply, hpasses⟩ : reply ≠ .fail .ETIMEDOUT ∧ Passes s s₁ := hanswer
  have hbegins₁ := h.passes hpasses
  cases reply with
  | fail err =>
    rw [wp_ttFailIo, Procedure.wp_bind, wp_getErrno]
    exact wp_failUnstarted hbegins₁.started (normalise_ne_ETIMEDOUT fun heq ↦ hreply (heq ▸ rfl))
  | ok info residue =>
    rw [Procedure.wp_pure, Procedure.wp_bind, wp_sys]
    refine ⟨trivial, fun reply s₂ hanswer ↦ ?_⟩
    obtain ⟨hreply, hpasses⟩ : reply ≠ .fail .ETIMEDOUT ∧ Passes s₁ s₂ := hanswer
    have hbegins₂ := hbegins₁.passes hpasses
    cases reply with
    | fail err =>
      exact wp_failUnstarted hbegins₂.started
        (normalise_ne_ETIMEDOUT fun heq ↦ hreply (heq ▸ rfl))
    | ok result residue =>
      dsimp only
      split
      · exact wp_failUnstarted hbegins₂.started (by decide)
      · rw [Procedure.wp_bind, wp_sys]
        refine ⟨trivial, fun start s₃ hanswer ↦ ?_⟩
        have hwaits : Waits completion false s₃ := by
          obtain ⟨t, -, -, rfl⟩ := hanswer
          exact ⟨by simp, hbegins₂.unseen, hbegins₂.absent⟩
        refine Procedure.wp_call (wp_awaitReset start rounds hwaits)
          fun _ complete thread₄ s₄ hwait ↦ ?_
        obtain ⟨hstarted₄, hseen₄⟩ := hwait
        split
        · rename_i hcomplete
          refine Procedure.wp_call (wp_awaitFirmware rounds _) fun _ _ thread₅ s₅ hslept ↦ ?_
          exact wp_finishReset (hslept.seen.mpr (hseen₄.mp hcomplete))
        · rename_i hcomplete
          refine Procedure.wp_mono wp_failClosed fun _ status thread' s' hfail ↦ ?_
          obtain ⟨hpasses, hstatus, herrno⟩ := hfail
          refine iff_of_true ⟨hstatus, herrno⟩ ⟨hpasses.started_eq ▸ hstarted₄, ?_⟩
          exact hpasses.seen.not.mpr (hseen₄.not.mp hcomplete)

theorem wp_resetDevice (h : s.Begins) (rounds : ℕ) (dev : Device) :
    Procedure.wp (Watch.contract completion) (resetDevice rounds dev)
      (fun _ status thread' s' ↦ Fits completion status thread'.errno s') thread s := by
  have hknown : ¬(TT_OPEN_EXCL ||| TT_OPEN_NONBLOCK) &&&
      ~~~(TT_OPEN_EXCL ||| TT_OPEN_NONBLOCK) ≠ 0 := by decide
  rw [resetDevice, openSession_eq, if_neg hknown, Procedure.wp_bind, Procedure.wp_bind, wp_sys]
  refine ⟨trivial, fun reply s₁ hanswer ↦ ?_⟩
  have hbegins := h.passes hanswer.2
  cases reply with
  | fail err =>
    refine fits_unstarted hbegins.started fun _ ↦ ?_
    dsimp only
    split
    · decide
    · decide
  | ok fd residue => exact wp_resetExclusive hbegins rounds (Int.natCast_nonneg fd)

end Wait

/-! ## Completion in time -/

/-- The device completes its reset before the budget of the wait is spent. -/
def InTime (completion : ℕ) (s : Watch) : Prop :=
  ∃ start, s.started = some start ∧ completion < start + RESET_TIMEOUT_MS * 1000000

section Deadline

variable {completion rounds : ℕ} {dev : Device} {s s' : Watch} {thread thread' : Thread}
  {trace : List (Event Sys)} {status : Status}

/-- A reset of a device that completes in time reports no timeout exactly when a check falls at or
after the completion, or the device was seen to leave and to come back. -/
theorem reset_in_time_iff (h : s.Begins)
    (hrun : Procedure.Executes (Watch.contract completion) (ttReset rounds (some dev)) thread s
      trace status thread' s') :
    (InTime completion s' → ¬(status = .TT_ERR ∧ thread'.errno = .ETIMEDOUT)) ↔
      (InTime completion s' → Seen completion s') := by
  have hfits : Fits completion status thread'.errno s' := hrun.ensures (wp_resetDevice h rounds dev)
  unfold Fits at hfits
  refine imp_congr_right fun hintime ↦ ?_
  obtain ⟨start, hstarted, -⟩ := hintime
  have hwaited : s'.started ≠ none := hstarted ▸ Option.some_ne_none start
  rw [hfits, and_iff_right hwaited, not_not]

end Deadline

/-! ## A device that is missed -/

def sampleWatch : Watch where
  now := 0
  started := none
  checks := []
  absent := false
  back := false

theorem sampleWatch_begins : sampleWatch.Begins := ⟨rfl, rfl, rfl, rfl⟩

/-- A reset that reads its marker once, 4.95 seconds into the wait. -/
def sampleTrace (marker : UInt8) (rest : List (Event Sys)) : List (Event Sys) :=
  ⟨.openFile (devicePath { id := 0 }) (openFlags (TT_OPEN_EXCL ||| TT_OPEN_NONBLOCK)),
      .ok 3 (.other 0)⟩ ::
    ⟨.getDeviceInfo 3, .ok sampleInfo (.other 0)⟩ ::
    ⟨.resetDevice 3 (resetDeviceIn .ASIC_RESET), .ok 0 (.other 0)⟩ ::
    ⟨.clockGettime, Watch.reading 0⟩ :: ⟨.clockGettime, Watch.reading 4950000000⟩ ::
    ⟨.access (sysfsPath sampleInfo), .ok () (.other 0)⟩ ::
    ⟨.openFile (configPath (sysfsPath sampleInfo)) (readOnly true), .ok 4 (.other 0)⟩ ::
    ⟨.pread 4 1 4, .ok [marker] (.other 0)⟩ :: ⟨.close 4, .ok () (.other 0)⟩ :: rest

def checkedWatch (now : ℕ) : Watch where
  now := now
  started := some 0
  checks := [4950000000]
  absent := false
  back := false

/-- The device completes 40 milliseconds after the check, and the sleep outlasts the budget. -/
theorem missed_reset_times_out :
    sampleWatch.Begins ∧ InTime 4990000000 (checkedWatch 5050000000) ∧
      ∃ trace thread', Procedure.Executes (Watch.contract 4990000000)
        (ttReset 2 (some { id := 0 })) Thread.initial sampleWatch trace .TT_ERR thread'
        (checkedWatch 5050000000) ∧ thread'.errno = .ETIMEDOUT := by
  have hrun : Procedure.Executes (Watch.contract 4990000000) (ttReset 2 (some { id := 0 }))
      Thread.initial sampleWatch
      (sampleTrace 64 [⟨.usleep RESET_POLL_INTERVAL_US, ()⟩,
        ⟨.clockGettime, Watch.reading 5050000000⟩, ⟨.close 3, .ok () (.other 0)⟩]) .TT_ERR
      { Thread.initial with errno := .ETIMEDOUT } (checkedWatch 5050000000) := by
    simp only [ttReset, resetDevice, openSession_eq]
    exact .call ⟨nofun, Passes.refl _⟩ (.call ⟨nofun, Passes.refl _⟩
      (.call ⟨nofun, Passes.refl _⟩ (.call ⟨0, Nat.le_refl _, rfl, rfl⟩
      (.call ⟨4950000000, by decide, rfl, rfl⟩ (.call ⟨4950000000, Nat.le_refl _, rfl⟩
      (.call ⟨fun _ ↦ rfl, Passes.refl _⟩
      (.call ⟨4950000000, 64, .other 0, Nat.le_refl _, rfl, by decide, rfl⟩
      (.call ⟨nofun, Passes.refl _⟩ (.call ⟨5050000000, by decide, rfl⟩
      (.call ⟨5050000000, Nat.le_refl _, rfl, rfl⟩ (.call ⟨nofun, Passes.refl _⟩ .done)))))))))))
  exact ⟨sampleWatch_begins, ⟨0, rfl, by decide⟩, _, _, hrun, rfl⟩

/-- The device completes 10 milliseconds before the check. -/
theorem noticed_reset_in_time :
    InTime 4940000000 (checkedWatch 4950000000) ∧
      ¬((.TT_OK () : Status) = .TT_ERR ∧ Thread.initial.errno = .ETIMEDOUT) := by
  have hrun : Procedure.Executes (Watch.contract 4940000000) (ttReset 1 (some { id := 0 }))
      Thread.initial sampleWatch
      (sampleTrace 0 [⟨.nanosleep ⟨0, POST_RESET_DELAY_MS * 1000000⟩, (.ok () (.other 0), ⟨0, 0⟩)⟩,
        ⟨.resetDevice 3 (resetDeviceIn .POST_RESET), .ok 0 (.other 0)⟩,
        ⟨.close 3, .ok () (.other 0)⟩]) (.TT_OK ()) Thread.initial (checkedWatch 4950000000) := by
    simp only [ttReset, resetDevice, openSession_eq]
    exact .call ⟨nofun, Passes.refl _⟩ (.call ⟨nofun, Passes.refl _⟩
      (.call ⟨nofun, Passes.refl _⟩ (.call ⟨0, Nat.le_refl _, rfl, rfl⟩
      (.call ⟨4950000000, by decide, rfl, rfl⟩ (.call ⟨4950000000, Nat.le_refl _, rfl⟩
      (.call ⟨fun _ ↦ rfl, Passes.refl _⟩
      (.call ⟨4950000000, 0, .other 0, Nat.le_refl _, rfl, by decide, rfl⟩
      (.call ⟨nofun, Passes.refl _⟩ (.call (Passes.refl _)
      (.call ⟨nofun, Passes.refl _⟩ (.call ⟨nofun, Passes.refl _⟩ .done)))))))))))
  have hintime : InTime 4940000000 (checkedWatch 4950000000) := ⟨0, rfl, by decide⟩
  have hseen : Seen 4940000000 (checkedWatch 4950000000) :=
    .inl ⟨4950000000, List.mem_cons_self, by decide⟩
  exact ⟨hintime, (reset_in_time_iff sampleWatch_begins hrun).mpr (fun _ ↦ hseen) hintime⟩

end TtDal.Safety.ResetDeadline
