import TtDal.Driver.Watch
import TtDal.Platform.Instant

/-!
# Time beside another environment

The environment of a contract is put next to a monotonic clock, in nanoseconds. Any time may pass
with every system call, and a reading tells the instant at which the call is answered.
-/

namespace TtDal.Driver

open Effect Platform

structure Clocked (W : Type) where
  world : W
  now : ℕ

namespace Clocked

/-- What an answer says about the time. -/
def Tells : (op : Syscall) → op.Answer → ℕ → Prop
  | .clockGettime, answer, now => answer = Watch.reading now
  | _, _, _ => True

variable {W α : Type} {inner : Contract Sys W} {procedure : C α} {thread thread' : Thread}
  {s s' : Clocked W} {trace : List (Event Sys)} {value : α}

def contract (inner : Contract Sys W) : Contract Sys (Clocked W) where
  answers op s answer s' :=
    inner.answers op s.world answer s'.world ∧ s.now ≤ s'.now ∧ Tells op answer s'.now
  permits op s := inner.permits op s.world
  tolerates := inner.tolerates

/-- A run beside the clock is one without it. -/
theorem executes_world (h : Procedure.Executes (contract inner) procedure thread s trace value
    thread' s') : Procedure.Executes inner procedure thread s.world trace value thread' s'.world := by
  have hstep : ∀ op (s : Clocked W) w answer s', s.world = w →
      (contract inner).answers op s answer s' →
      ∃ w', inner.answers op w answer w' ∧ s'.world = w' :=
    fun _ _ _ _ s' hworld hanswer ↦ ⟨s'.world, hworld ▸ hanswer.1, rfl⟩
  obtain ⟨w', hrun, rfl⟩ := Program.Executes.simulated hstep h rfl
  exact hrun

/-- What holds without the clock holds beside it, and time only passes. -/
theorem wp_world {post : Procedure.Post Sys α Thread W}
    (h : Procedure.wp inner procedure post thread s.world) :
    Procedure.wp (contract inner) procedure (fun trace value thread' s' ↦
      post trace value thread' s'.world ∧ s.now ≤ s'.now) thread s := by
  have hprogram (program : Program Sys (α × Thread)) : ∀ (s : Clocked W)
      (post : List (Event Sys) → α × Thread → W → Prop), program.wp inner post s.world →
      program.wp (contract inner) (fun trace result s' ↦
        post trace result s'.world ∧ s.now ≤ s'.now) s := by
    induction program with
    | done result => exact fun s post h ↦ ⟨h, Nat.le_refl _⟩
    | stop reason => exact fun s post h ↦ h
    | call op next ih =>
      intro s post h
      refine ⟨h.1, fun answer v hanswer ↦ ?_⟩
      have hrest := ih answer v _ (h.2 answer v.world hanswer.1)
      exact Program.wp_mono hrest fun _ _ _ hpost ↦ ⟨hpost.1, Nat.le_trans hanswer.2.1 hpost.2⟩
  exact hprogram _ s _ h

theorem timespecDiffNs_reading (t t' : ℕ) :
    timespecDiffNs (Watch.reading t) (Watch.reading t') = t' - t := by
  simp only [timespecDiffNs, Watch.reading]
  omega

/-- The elapsed time that is computed does not exceed the one that elapsed. -/
theorem timespecDiffMs_reading_le {t t' : ℕ} (h : t ≤ t') :
    timespecDiffMs (Watch.reading t) (Watch.reading t') * 1000000 ≤ t' - t := by
  rw [timespecDiffMs, timespecDiffNs_reading, Int.tdiv_eq_ediv_of_nonneg (by omega)]
  omega

/-- The difference of two readings does not overflow, since both count in 63 bits. -/
theorem checkedDiffMs_reading {t t' : ℕ} (h : t ≤ t') (hlt : t' < 2 ^ 63) :
    checkedDiffMs (Watch.reading t) (Watch.reading t') = some ((t' - t) / 1000000) := by
  have hordered : Instant.ofNanos t ≤ Instant.ofNanos t' := by
    rw [Instant.le_iff_nanos_le, Instant.nanos_ofNanos, Instant.nanos_ofNanos]
    exact Int.ofNat_le.mpr h
  have hsecs : ((Instant.ofNanos t').sec - (Instant.ofNanos t).sec) * 1000000000 < 2 ^ 63 := by
    simp only [Instant.ofNanos]
    omega
  have hnanos : (Instant.ofNanos t').nanos - (Instant.ofNanos t).nanos < 2 ^ 63 := by
    rw [Instant.nanos_ofNanos, Instant.nanos_ofNanos]
    omega
  calc
    _ = some (((Instant.ofNanos t').nanos - (Instant.ofNanos t).nanos) / 1000000).toNat :=
      checkedDiffMs_eq hordered hsecs hnanos
    _ = _ := by
      rw [Instant.nanos_ofNanos, Instant.nanos_ofNanos]
      congr 1
      omega

theorem timespecDiffMs_reading {t t' : ℕ} (h : t ≤ t') (hlt : t' < 2 ^ 63) :
    timespecDiffMs (Watch.reading t) (Watch.reading t') = (t' - t) / 1000000 :=
  timespecDiffMs_of_checked (checkedDiffMs_reading h hlt)

/-! ## A driver that never answers -/

/-- The driver keeps reporting that the response is pending. -/
def Pends : (op : Syscall) → op.Answer → Prop
  | .smcMsg _ _, reply => reply = .fail .EAGAIN
  | _, _ => True

/-- A sleep lasts at least as long as it was asked to, and the clock of the kernel counts its
nanoseconds in 63 bits. -/
def Lasts : (op : Syscall) → Clocked W → op.Answer → Clocked W → Prop
  | .usleep usec, s, _, s' => s.now + usec * 1000 ≤ s'.now ∧ s'.now < 2 ^ 63
  | _, _, _, s' => s'.now < 2 ^ 63

/-- A driver that keeps a message pending, beside a clock. It does not tolerate a wait without
end. -/
def pending : Contract Sys (Clocked Unit) :=
  (contract
    { answers := fun op _ reply _ ↦ Pends op reply
      permits := fun _ _ ↦ True
      tolerates := fun _ ↦ False }).restricted Lasts

end Clocked

end TtDal.Driver
