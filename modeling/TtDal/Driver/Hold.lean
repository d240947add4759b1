import TtDal.Dev.Session
import Mathlib.Data.Set.Insert

/-!
# What keeps a device open

The driver counts open file descriptions. A description stays open while a descriptor or a mapping
of the process refers to it, and the descriptions of other clients are open on their own. An
exclusive open is granted while no description is open, and a plain one while no exclusive
description is.

The list of refused unmappings records history and restricts nothing.
-/

namespace TtDal.Driver

open Effect Platform Dev

structure Hold where
  /-- The descriptions the descriptors of the process refer to. -/
  descriptors : ℤ → Option ℕ
  /-- The descriptions its mappings of device memory refer to, by their starts. -/
  mappings : ℕ → Option ℕ
  /-- The descriptions of other clients. -/
  others : Set ℕ
  /-- The descriptions that were opened exclusively. -/
  exclusive : Set ℕ
  /-- The starts of mappings that were refused to be unmapped. -/
  stuck : List ℕ

namespace Hold

def Open (hold : Hold) (description : ℕ) : Prop :=
  (∃ fd, hold.descriptors fd = some description) ∨
    (∃ start, hold.mappings start = some description) ∨ description ∈ hold.others

/-- The lock can be taken at once. -/
def Admits (hold : Hold) (flags : OpenFlags) : Prop :=
  ∀ description, hold.Open description →
    flags.excl = false ∧ description ∉ hold.exclusive

/-- The exclusive descriptions once another one is open. -/
def claim (hold : Hold) (description : ℕ) (excl : Bool) : Set ℕ :=
  { other | if other = description then excl = true else other ∈ hold.exclusive }

def opened (hold : Hold) (fd : ℤ) (description : ℕ) (excl : Bool) : Hold :=
  { hold with
    descriptors := Function.update hold.descriptors fd (some description)
    exclusive := hold.claim description excl }

def closed (hold : Hold) (fd : ℤ) : Hold :=
  { hold with descriptors := Function.update hold.descriptors fd none }

def mapped (hold : Hold) (start description : ℕ) : Hold :=
  { hold with mappings := Function.update hold.mappings start (some description) }

def unmapped (hold : Hold) (start : ℕ) : Hold :=
  { hold with mappings := Function.update hold.mappings start none }

def refused (hold : Hold) (start : ℕ) : Hold :=
  { hold with stuck := start :: hold.stuck }

/-- Another client opens or closes the device. -/
inductive Elsewhere : Hold → Hold → Prop where
  | opens {hold : Hold} {description : ℕ} {flags : OpenFlags} : hold.Admits flags →
      ¬hold.Open description →
      Elsewhere hold { hold with
        others := insert description hold.others
        exclusive := hold.claim description flags.excl }
  | closes {hold : Hold} {description : ℕ} : description ∈ hold.others →
      Elsewhere hold { hold with others := hold.others \ {description} }

def answersOpen (hold : Hold) (flags : OpenFlags) : Reply ℕ → Hold → Prop
  | .ok fd _, hold' =>
    hold.descriptors fd = none ∧ hold.Admits flags ∧
      ∃ description, ¬hold.Open description ∧ hold' = hold.opened fd description flags.excl
  | .fail err, hold' => (err = .EAGAIN → ¬hold.Admits flags) ∧ hold' = hold

/-- Another file. The number it is given is not one of the open numbers. -/
def answersOther (hold : Hold) : Reply ℕ → Hold → Prop
  | .ok fd _, hold' => hold.descriptors fd = none ∧ hold' = hold
  | .fail _, hold' => hold' = hold

/-- Only an open that is not granted reports `EAGAIN`. Closing releases the number whatever it
reports. -/
def answers (dev : Device) : (op : Syscall) → Hold → op.Answer → Hold → Prop
  | .openFile path flags, hold, reply, hold' =>
    if path = devicePath dev then hold.answersOpen flags reply hold'
    else hold.answersOther reply hold'
  | .close fd, hold, reply, hold' => reply ≠ .fail .EAGAIN ∧ hold' = hold.closed fd
  | .mmap _ fd _, hold, .ok start _, hold' =>
    start ≠ NULL ∧ hold.mappings start = none ∧
      ∃ description, hold.descriptors fd = some description ∧
        hold' = hold.mapped start description
  | .mmap _ _ _, hold, .fail _, hold' => hold' = hold
  | .munmap start _, hold, .ok _ _, hold' => hold' = hold.unmapped start
  | .munmap start _, hold, .fail _, hold' => hold' = hold.refused start
  | .getDeviceInfo _, hold, reply, hold' => reply ≠ .fail .EAGAIN ∧ hold' = hold
  | .resetDevice _ _, hold, reply, hold' => reply ≠ .fail .EAGAIN ∧ hold' = hold
  | _, hold, _, hold' => hold' = hold

/-- The driver and the kernel as the process sees them, while nobody else uses the device. -/
def contract (dev : Device) : Contract Sys Hold where
  answers := answers dev
  permits _ _ := True
  tolerates _ := True

/-! ## Live mappings -/

/-- Every live mapping starts at one of the places, or was refused to be unmapped. -/
def Accounted (starts : Set ℕ) (hold : Hold) : Prop :=
  ∀ start, hold.mappings start ≠ none → start ≠ NULL ∧ (start ∈ starts ∨ start ∈ hold.stuck)

section Accounted

variable {starts starts' : Set ℕ} {hold hold' : Hold} {start : ℕ}

theorem Accounted.mono (h : hold.Accounted starts) (hsub : starts ⊆ starts') :
    hold.Accounted starts' := by
  intro start hlive
  obtain ⟨hstart, hplace⟩ := h start hlive
  exact ⟨hstart, hplace.imp (fun hmem ↦ hsub hmem) id⟩

/-- Only the mappings matter. -/
theorem Accounted.congr (h : hold.Accounted starts) (hmappings : hold'.mappings = hold.mappings)
    (hstuck : hold'.stuck = hold.stuck) : hold'.Accounted starts := by
  intro start hlive
  rw [hmappings] at hlive
  rw [hstuck]
  exact h start hlive

/-- Nothing is mapped at the null address. -/
theorem Accounted.of_null (h : hold.Accounted (insert NULL starts)) : hold.Accounted starts := by
  intro start hlive
  obtain ⟨hstart, hplace⟩ := h start hlive
  refine ⟨hstart, hplace.imp (fun hmem ↦ ?_) id⟩
  exact hmem.resolve_left hstart

theorem Accounted.mapped (h : hold.Accounted starts) (hstart : start ≠ NULL)
    (description : ℕ) : (hold.mapped start description).Accounted (insert start starts) := by
  intro other hlive
  by_cases heq : other = start
  · subst heq
    exact ⟨hstart, .inl (Set.mem_insert other starts)⟩
  · have hold' : hold.mappings other ≠ none := by
      simpa [Hold.mapped, Function.update_of_ne heq] using hlive
    obtain ⟨hother, hplace⟩ := h other hold'
    exact ⟨hother, hplace.imp (Set.mem_insert_of_mem start) id⟩

theorem Accounted.unmapped (h : hold.Accounted (insert start starts)) :
    (hold.unmapped start).Accounted starts := by
  intro other hlive
  have hne : other ≠ start := by
    intro heq
    simp [Hold.unmapped, heq] at hlive
  have hold' : hold.mappings other ≠ none := by
    simpa [Hold.unmapped, Function.update_of_ne hne] using hlive
  obtain ⟨hother, hplace⟩ := h other hold'
  exact ⟨hother, hplace.imp (fun hmem ↦ hmem.resolve_left hne) id⟩

theorem Accounted.refused (h : hold.Accounted (insert start starts)) :
    (hold.refused start).Accounted starts := by
  intro other hlive
  obtain ⟨hother, hplace⟩ := h other hlive
  refine ⟨hother, ?_⟩
  rcases hplace with (rfl | hmem) | hstuck
  · exact .inr List.mem_cons_self
  · exact .inl hmem
  · exact .inr (List.mem_cons_of_mem start hstuck)

end Accounted

/-! ## Requests that map nothing -/

/-- The call neither maps nor unmaps. -/
def Quiet : Syscall → Prop
  | .mmap _ _ _ | .munmap _ _ => False
  | _ => True

section Quiet

variable {dev : Device} {op : Syscall} {hold hold' : Hold} {starts : Set ℕ} {thread : Thread}

theorem answersOpen_mappings {flags : OpenFlags} {reply : Reply ℕ}
    (h : hold.answersOpen flags reply hold') :
    hold'.mappings = hold.mappings ∧ hold'.stuck = hold.stuck := by
  cases reply with
  | ok fd residue =>
    obtain ⟨-, -, description, -, rfl⟩ := h
    exact ⟨rfl, rfl⟩
  | fail err =>
    obtain ⟨-, rfl⟩ := h
    exact ⟨rfl, rfl⟩

theorem answersOther_mappings {reply : Reply ℕ} (h : hold.answersOther reply hold') :
    hold' = hold := by
  cases reply with
  | ok fd residue => exact h.2
  | fail err => exact h

theorem answers_mappings {answer : op.Answer} (hquiet : Quiet op)
    (h : answers dev op hold answer hold') :
    hold'.mappings = hold.mappings ∧ hold'.stuck = hold.stuck := by
  cases op with
  | mmap len fd offset => exact hquiet.elim
  | munmap start len => exact hquiet.elim
  | openFile path flags =>
    by_cases hpath : path = devicePath dev
    · exact answersOpen_mappings ((if_pos hpath).mp h)
    · rw [answersOther_mappings ((if_neg hpath).mp h)]
      exact ⟨rfl, rfl⟩
  | close fd =>
    obtain ⟨-, rfl⟩ := h
    exact ⟨rfl, rfl⟩
  | getDeviceInfo fd =>
    obtain ⟨-, rfl⟩ := h
    exact ⟨rfl, rfl⟩
  | resetDevice fd req =>
    obtain ⟨-, rfl⟩ := h
    exact ⟨rfl, rfl⟩
  | _ =>
    obtain rfl := h
    exact ⟨rfl, rfl⟩

theorem keeps_quiet (hquiet : Quiet op) :
    Procedure.Keeps (contract dev) (Accounted starts) (sys op) := by
  apply keeps_sys
  · exact fun _ _ ↦ trivial
  · intro hold answer hold' haccounted hanswer
    obtain ⟨hmappings, hstuck⟩ := answers_mappings hquiet hanswer
    exact haccounted.congr hmappings hstuck

/-- The rule for a call that maps nothing. -/
theorem wp_quiet {post : Procedure.Post Sys op.Answer Thread Hold} (h : hold.Accounted starts)
    (hquiet : Quiet op)
    (hpost : ∀ answer hold', answers dev op hold answer hold' → hold'.Accounted starts →
      post [⟨op, answer⟩] answer { thread with errno := op.errnoAfter answer thread.errno } hold') :
    Procedure.wp (contract dev) (sys op) post thread hold := by
  refine (wp_sys op post).mpr ⟨trivial, fun answer hold' hanswer ↦ ?_⟩
  obtain ⟨hmappings, hstuck⟩ := answers_mappings hquiet hanswer
  exact hpost answer hold' hanswer (h.congr hmappings hstuck)

/-- An unmapped place is accounted for no longer. -/
theorem wp_munmap {start : ℕ} (len : ℕ) (h : hold.Accounted (insert start starts)) :
    Procedure.wp (contract dev) (sys (.munmap start len))
      (fun _ _ _ hold' ↦ hold'.Accounted starts) thread hold := by
  rw [wp_sys]
  refine ⟨trivial, fun reply hold' hanswer ↦ ?_⟩
  cases reply with
  | ok value residue =>
    obtain rfl := hanswer
    exact h.unmapped
  | fail err =>
    obtain rfl := hanswer
    exact h.refused

end Quiet

end Hold

end TtDal.Driver
