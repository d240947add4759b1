import TtDal.Dev.Session

/-!
# A device that is reset or removed from outside

At any time somebody may reset the device or pull it out. A descriptor that was open before is
severed then, and every request on it is answered by `ENODEV`, which no other request is. A window
that was mapped before is torn down, and every read through it faults, which no other read does.
`ECONNRESET` is an error of the library, and not of the driver or of sysfs, and sysfs reports
`ENODEV` only for a device that was removed. The device can be opened again after a reset, but not
after it was removed.
-/

namespace TtDal.Driver

open Effect Platform Dev

structure Presence where
  /-- The device was not removed. -/
  present : Bool
  /-- How often the device was reset. -/
  resets : ℕ
  /-- The open descriptors of the process, with the resets there were before each was opened. -/
  descriptors : ℤ → Option ℕ
  /-- The mapped windows by their first address, with the resets there were before each was mapped. -/
  windows : ℕ → Option ℕ

namespace Presence

inductive Upset : Presence → Presence → Prop where
  | reset {presence : Presence} :
      Upset presence { presence with resets := presence.resets + 1 }
  | removal {presence : Presence} : Upset presence { presence with present := false }

abbrev Upsets : Presence → Presence → Prop := Relation.ReflTransGen Upset

/-- The device was removed, or reset since there were a number of resets. -/
def Cut (presence : Presence) (before : ℕ) : Prop :=
  presence.present = false ∨ before ≠ presence.resets

/-- The device was reset or removed since the descriptor was opened. -/
def Severed (presence : Presence) (fd : ℤ) : Prop :=
  ∃ before, presence.descriptors fd = some before ∧ presence.Cut before

/-- The device was reset or removed since the window was mapped. -/
def Torn (presence : Presence) (start : ℕ) : Prop :=
  ∃ before, presence.windows start = some before ∧ presence.Cut before

def opened (presence : Presence) (fd : ℤ) : Presence :=
  { presence with
    descriptors := Function.update presence.descriptors fd (some presence.resets) }

def closed (presence : Presence) (fd : ℤ) : Presence :=
  { presence with descriptors := Function.update presence.descriptors fd none }

def mapped (presence : Presence) (start : ℕ) : Presence :=
  { presence with windows := Function.update presence.windows start (some presence.resets) }

def unmapped (presence : Presence) (start : ℕ) : Presence :=
  { presence with windows := Function.update presence.windows start none }

/-- An open that fails for another reason than an exclusive client does not report `EAGAIN`. -/
def answersOpen (presence : Presence) : Reply ℕ → Presence → Prop
  | .ok fd _, presence' => presence.present = true ∧ presence.descriptors fd = none ∧
      presence' = presence.opened fd
  | .fail err, presence' => (presence.present = false → err ≠ .EAGAIN) ∧ presence' = presence

/-- What is asked of sysfs. -/
def AnswersFile {β : Type} (presence : Presence) (reply : Reply β) : Prop :=
  (reply = .fail .ENODEV → presence.present = false) ∧ reply ≠ .fail .ECONNRESET

/-- Another file. The number it is given is not one of the open numbers. -/
def answersOther (presence : Presence) (reply : Reply ℕ) (presence' : Presence) : Prop :=
  presence.AnswersFile reply ∧ (∀ fd residue, reply = .ok fd residue → presence.descriptors fd = none) ∧
    presence' = presence

/-- A request on a descriptor, which has to be open to be granted. -/
structure AnswersRequest {β : Type} (presence : Presence) (fd : ℤ) (reply : Reply β) : Prop where
  severed : reply = .fail .ENODEV ↔ presence.Severed fd
  library : reply ≠ .fail .ECONNRESET
  granted : reply.isOk = true → ∃ before, presence.descriptors fd = some before

def answersRequest {β : Type} (presence : Presence) (fd : ℤ) (reply : Reply β)
    (presence' : Presence) : Prop :=
  presence.AnswersRequest fd reply ∧ presence' = presence

/-- A new mapping does not start where another one does. -/
def answersMap (presence : Presence) (fd : ℤ) (reply : Reply ℕ) (presence' : Presence) : Prop :=
  presence.AnswersRequest fd reply ∧
    match reply with
    | .ok start _ => presence.windows start = none ∧ presence' = presence.mapped start
    | .fail _ => presence' = presence

def answers (dev : Device) : (op : Syscall) → Presence → op.Answer → Presence → Prop
  | .openFile path _, presence, reply, presence' =>
    if path = devicePath dev then presence.answersOpen reply presence'
    else presence.answersOther reply presence'
  | .close fd, presence, _, presence' => presence' = presence.closed fd
  | .getDeviceInfo fd, presence, reply, presence' => presence.answersRequest fd reply presence'
  | .getDriverInfo fd, presence, reply, presence' => presence.answersRequest fd reply presence'
  | .allocateTlb fd _, presence, reply, presence' => presence.answersRequest fd reply presence'
  | .freeTlb fd _, presence, reply, presence' => presence.answersRequest fd reply presence'
  | .configureTlb fd _ _, presence, reply, presence' => presence.answersRequest fd reply presence'
  | .setPowerState fd _, presence, reply, presence' => presence.answersRequest fd reply presence'
  | .smcMsg fd _, presence, reply, presence' => presence.answersRequest fd reply presence'
  | .resetDevice fd _, presence, reply, presence' => presence.answersRequest fd reply presence'
  | .mmap _ fd _, presence, reply, presence' => presence.answersMap fd reply presence'
  | .munmap start _, presence, .ok _ _, presence' => presence' = presence.unmapped start
  | .load guard _, presence, word, presence' =>
    (word = none ↔ presence.Torn guard.ptr) ∧ presence' = presence
  | .read _ _, presence, reply, presence' => presence.AnswersFile reply ∧ presence' = presence
  | _, presence, _, presence' => presence' = presence

/-- The device may be reset or removed between any two system calls. -/
def contract (dev : Device) : Contract Sys Presence :=
  Contract.interleaved
    { answers := answers dev
      permits := fun _ _ ↦ True
      tolerates := fun _ ↦ True }
    Upset

/-- Descriptors are no negative numbers, and there were no more resets before than now. -/
structure Sound (presence : Presence) : Prop where
  numbered : ∀ fd before, presence.descriptors fd = some before → 0 ≤ fd
  past : ∀ fd before, presence.descriptors fd = some before → before ≤ presence.resets
  mapped : ∀ start before, presence.windows start = some before → before ≤ presence.resets

/-- The descriptors are those that were open before. -/
structure Later (presence presence' : Presence) : Prop where
  descriptors : presence'.descriptors = presence.descriptors
  resets : presence.resets ≤ presence'.resets
  removed : presence.present = false → presence'.present = false

/-- The window was mapped after the descriptor was opened. -/
def Backed (presence : Presence) (fd : ℤ) (start : ℕ) : Prop :=
  ∀ before, presence.windows start = some before →
    ∃ earlier, presence.descriptors fd = some earlier ∧ earlier ≤ before

section Lemmas

variable {presence presence' presence'' : Presence} {fd : ℤ} {start before : ℕ}

theorem Later.refl (presence : Presence) : Later presence presence := ⟨rfl, Nat.le_refl _, id⟩

theorem Later.trans (h : Later presence presence') (h' : Later presence' presence'') :
    Later presence presence'' where
  descriptors := h'.descriptors.trans h.descriptors
  resets := Nat.le_trans h.resets h'.resets
  removed hgone := h'.removed (h.removed hgone)

/-- Resets and removals leave the descriptors and the windows. -/
theorem Upsets.frame (h : Upsets presence presence') :
    Later presence presence' ∧ presence'.windows = presence.windows := by
  induction h with
  | refl => exact ⟨.refl _, rfl⟩
  | tail _ hlast ih =>
    cases hlast with
    | reset => exact ⟨ih.1.trans ⟨rfl, Nat.le_succ _, id⟩, ih.2⟩
    | removal => exact ⟨ih.1.trans ⟨rfl, Nat.le_refl _, fun _ ↦ rfl⟩, ih.2⟩

theorem Upsets.later (h : Upsets presence presence') : Later presence presence' :=
  h.frame.1

theorem Sound.upsets (h : presence.Sound) (hupsets : Upsets presence presence') :
    presence'.Sound := by
  obtain ⟨hlater, hwindows⟩ := hupsets.frame
  refine ⟨fun fd before hfd ↦ ?_, fun fd before hfd ↦ ?_, fun start before hstart ↦ ?_⟩
  · rw [hlater.descriptors] at hfd
    exact h.numbered fd before hfd
  · rw [hlater.descriptors] at hfd
    exact Nat.le_trans (h.past fd before hfd) hlater.resets
  · rw [hwindows] at hstart
    exact Nat.le_trans (h.mapped start before hstart) hlater.resets

theorem Cut.later (h : presence.Cut before) (hpast : before ≤ presence.resets)
    (hlater : Later presence presence') : presence'.Cut before := by
  rcases h with hgone | hreset
  · exact .inl (hlater.removed hgone)
  · have hresets := hlater.resets
    exact .inr (by omega)

/-- What is severed stays severed. -/
theorem Severed.later (h : presence.Severed fd) (hsound : presence.Sound)
    (hlater : Later presence presence') : presence'.Severed fd := by
  obtain ⟨before, hfd, hcut⟩ := h
  exact ⟨before, hlater.descriptors ▸ hfd, hcut.later (hsound.past fd before hfd) hlater⟩

/-- With the window, the descriptor is severed on which it was mapped. -/
theorem Torn.severed (h : presence.Torn start) (hsound : presence.Sound)
    (hbacked : presence.Backed fd start) : presence.Severed fd := by
  obtain ⟨before, hstart, hcut⟩ := h
  obtain ⟨earlier, hfd, hle⟩ := hbacked before hstart
  refine ⟨earlier, hfd, hcut.imp id fun hreset ↦ ?_⟩
  have hpast := hsound.mapped start before hstart
  omega

theorem Backed.upsets (h : presence.Backed fd start) (hupsets : Upsets presence presence') :
    presence'.Backed fd start := by
  obtain ⟨hlater, hwindows⟩ := hupsets.frame
  intro before hstart
  rw [hwindows] at hstart
  rw [hlater.descriptors]
  exact h before hstart

theorem Sound.opened (h : presence.Sound) (hfd : 0 ≤ fd) : (presence.opened fd).Sound := by
  refine ⟨fun other before hother ↦ ?_, fun other before hother ↦ ?_, h.mapped⟩
  · by_cases heq : other = fd
    · exact heq ▸ hfd
    · exact h.numbered other before (by simpa [Presence.opened, heq] using hother)
  · by_cases heq : other = fd
    · subst heq
      simp only [Presence.opened, Function.update_self, Option.some.injEq] at hother
      exact Nat.le_of_eq hother.symm
    · exact h.past other before (by simpa [Presence.opened, heq] using hother)

/-- Removing an entry leaves the others. -/
theorem update_none {κ : Type} [DecidableEq κ] {table : κ → Option ℕ} {key other : κ}
    (h : Function.update table key none other = some before) : table other = some before := by
  by_cases heq : other = key
  · rw [heq, Function.update_self] at h
    cases h
  · rwa [Function.update_of_ne heq] at h

theorem Sound.closed (h : presence.Sound) (fd : ℤ) : (presence.closed fd).Sound where
  numbered other before hother := h.numbered other before (update_none hother)
  past other before hother := h.past other before (update_none hother)
  mapped := h.mapped

/-- Closing a number that is not open. -/
theorem closed_of_none (h : presence.descriptors fd = none) : presence.closed fd = presence := by
  rw [closed, ← h, Function.update_eq_self]

theorem Sound.mapping (h : presence.Sound) (start : ℕ) : (presence.mapped start).Sound where
  numbered := h.numbered
  past := h.past
  mapped other before hother := by
    by_cases heq : other = start
    · subst heq
      simp only [Presence.mapped, Function.update_self, Option.some.injEq] at hother
      exact Nat.le_of_eq hother.symm
    · exact h.mapped other before (by simpa [Presence.mapped, heq] using hother)

theorem Sound.unmapping (h : presence.Sound) (start : ℕ) : (presence.unmapped start).Sound where
  numbered := h.numbered
  past := h.past
  mapped other before hother := h.mapped other before (update_none hother)

theorem later_mapped (presence : Presence) (start : ℕ) : Later presence (presence.mapped start) :=
  ⟨rfl, Nat.le_refl _, id⟩

theorem later_unmapped (presence : Presence) (start : ℕ) :
    Later presence (presence.unmapped start) :=
  ⟨rfl, Nat.le_refl _, id⟩

theorem backed_mapped (h : presence.Sound) (hfd : presence.descriptors fd = some before) :
    (presence.mapped start).Backed fd start := by
  intro before' hstart
  simp only [Presence.mapped, Function.update_self, Option.some.injEq] at hstart
  exact ⟨before, hfd, hstart ▸ h.past fd before hfd⟩

theorem Backed.unmapped (h : presence.Backed fd start) (other : ℕ) :
    (presence.unmapped other).Backed fd start :=
  fun before hstart ↦ h before (update_none hstart)

end Lemmas

end Presence

end TtDal.Driver
