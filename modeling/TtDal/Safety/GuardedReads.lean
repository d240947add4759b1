import TtDal.Dev.Telemetry

/-!
# Code that reads under a guard

Between a recovery point and the end of the guarded access the telemetry code only reads words,
writes to the caller's table and sets `errno`. `Reads` says so of a piece of code, with the
addresses it may read. What it requests, and what a fault leaves behind, follow once for all such
code and every environment.
-/

namespace TtDal.Safety.GuardedReads

open Effect Platform Dev

/-- The part of a thread that decides what a fault does. -/
structure SameGuard (thread thread' : Thread) : Prop where
  armed : thread'.armed = thread.armed
  prev : thread'.prev = thread.prev
  once : thread'.once = thread.once

theorem SameGuard.refl (thread : Thread) : SameGuard thread thread := ⟨rfl, rfl, rfl⟩

theorem SameGuard.trans {thread thread' thread'' : Thread} (h : SameGuard thread thread')
    (h' : SameGuard thread' thread'') : SameGuard thread thread'' where
  armed := h'.armed.trans h.armed
  prev := h'.prev.trans h.prev
  once := h'.once.trans h.once

/-- Code that reads at good addresses only, and leaves the guard to them. -/
inductive Reads {α : Type} (good : ℕ → Prop) : Guarded α → Prop where
  | done (value : α) : Reads good (pure value)
  | update {f : Thread → Thread} {next : PUnit → Guarded α} :
      (∀ thread, SameGuard thread (f thread)) → Reads good (next ⟨⟩) →
      Reads good ((modify f : C PUnit) >>= next)
  | read {addr : ℕ} {next : UInt32 → Guarded α} : good addr → (∀ word, Reads good (next word)) →
      Reads good (deref addr >>= next)

section Reads

variable {α β : Type} {good : ℕ → Prop}

theorem Reads.bind {first : Guarded α} {next : α → Guarded β} (h : Reads good first)
    (hnext : ∀ value, Reads good (next value)) : Reads good (first >>= next) := by
  induction h with
  | done value =>
    rw [pure_bind]
    exact hnext value
  | update hguard hrest ih =>
    rw [bind_assoc]
    exact .update hguard ih
  | read hgood hrest ih =>
    rw [bind_assoc]
    exact .read hgood ih

theorem reads_modify {f : Thread → Thread} (h : ∀ thread, SameGuard thread (f thread)) :
    Reads good ((modify f : C PUnit) : Guarded PUnit) := by
  rw [← bind_pure ((modify f : C PUnit) : Guarded PUnit)]
  exact .update h (.done _)

theorem reads_ttFail (err : Errno) : Reads good ((ttFail err : C Status) : Guarded Status) := by
  have hguard : ∀ thread : Thread, SameGuard thread { thread with errno := err } :=
    fun _ ↦ ⟨rfl, rfl, rfl⟩
  exact (reads_modify hguard).bind fun _ ↦ .done _

end Reads

/-! ## What it requests and what a fault leaves behind -/

/-- A read faulted. -/
def Faults (trace : List (Event Sys)) : Prop :=
  ∃ guard addr, (⟨.load guard addr, none⟩ : Event Sys) ∈ trace

/-- Every request is a read at a good address under the guard. -/
def Loads (good : ℕ → Prop) (guard : Guard) (trace : List (Event Sys)) : Prop :=
  ∀ event ∈ trace, ∃ addr, good addr ∧ event.op = .load guard addr

/-- Guarded code that ran to its end left the guard alone, and a fault disarmed it. -/
structure Ran {α : Type} (good : ℕ → Prop) (thread : Thread) (trace : List (Event Sys))
    (res : Except Unit α) (thread' : Thread) : Prop where
  loads : Loads good thread.armed trace
  faults : Faults trace ↔ res = .error ()
  guard : res ≠ .error () → SameGuard thread thread'
  disarmed : res = .error () → thread'.armed.ptr = NULL ∧ thread'.prev = thread.prev ∧
    thread'.once = thread.once

section Ran

variable {α : Type} {good : ℕ → Prop} {guard : Guard} {addr : ℕ} {thread thread₁ thread' : Thread}
  {trace : List (Event Sys)} {res : Except Unit α} {word : UInt32}

theorem not_faults_nil : ¬Faults [] := by
  simp [Faults]

theorem faults_cons_none : Faults (⟨.load guard addr, none⟩ :: trace) :=
  ⟨guard, addr, List.mem_cons_self⟩

theorem faults_cons_some : Faults (⟨.load guard addr, some word⟩ :: trace) ↔ Faults trace := by
  simp [Faults]

theorem ran_done (value : α) : Ran good thread [] (.ok value) thread where
  loads := fun _ hevent ↦ absurd hevent List.not_mem_nil
  faults := iff_of_false not_faults_nil nofun
  guard _ := .refl thread
  disarmed := nofun

theorem Ran.update (h : Ran good thread₁ trace res thread') (hguard : SameGuard thread thread₁) :
    Ran good thread trace res thread' where
  loads := hguard.armed ▸ h.loads
  faults := h.faults
  guard hres := hguard.trans (h.guard hres)
  disarmed hres := by
    rw [← hguard.prev, ← hguard.once]
    exact h.disarmed hres

theorem Ran.read (h : Ran good thread trace res thread') (hgood : good addr) :
    Ran good thread (⟨.load thread.armed addr, some word⟩ :: trace) res thread' where
  loads := List.forall_mem_cons.mpr ⟨⟨addr, hgood, rfl⟩, h.loads⟩
  faults := faults_cons_some.trans h.faults
  guard := h.guard
  disarmed := h.disarmed

theorem ran_fault (hgood : good addr) :
    Ran good thread [⟨.load thread.armed addr, none⟩] (.error () : Except Unit α)
      (Thread.disarm thread) where
  loads := List.forall_mem_cons.mpr
    ⟨⟨addr, hgood, rfl⟩, fun _ hevent ↦ absurd hevent List.not_mem_nil⟩
  faults := iff_of_true faults_cons_none rfl
  guard hres := absurd rfl hres
  disarmed _ := ⟨rfl, rfl, rfl⟩

variable {W : Type} {contract : Contract Sys W} {inv : W → Prop} {w : W}

/-- Guarded code keeps an invariant that reads keep, and a fault leaves what a failing read does. -/
theorem Reads.wp_lost {lost : W → Prop} {code : Guarded α} (h : Reads good code)
    (hpermits : ∀ addr w, good addr → inv w → contract.permits (.load thread.armed addr) w)
    (hstep : ∀ addr w answer w', good addr → inv w →
      contract.answers (.load thread.armed addr) w answer w' → inv w')
    (hlost : ∀ addr w w', good addr → inv w →
      contract.answers (.load thread.armed addr) w none w' → lost w')
    (hfault : ∀ addr, good addr → handler thread.armed thread.prev { addr := addr, raised := false } =
      .recovered ∨ contract.tolerates .aborted) (hinv : inv w) :
    Procedure.wp contract code.run (fun trace res thread' w' ↦
      Ran good thread trace res thread' ∧ inv w' ∧ (res = .error () → lost w')) thread w := by
  induction h generalizing thread w with
  | done value => exact ⟨ran_done value, hinv, nofun⟩
  | @update f next hguard hrest ih =>
    rw [wp_guarded_modify]
    have hsame := hguard thread
    rw [← hsame.armed] at hpermits hstep hlost
    rw [← hsame.armed, ← hsame.prev] at hfault
    exact Procedure.wp_mono (ih hpermits hstep hlost hfault hinv) fun _ _ _ _ hran ↦
      ⟨hran.1.update hsame, hran.2⟩
  | @read addr next hgood hrest ih =>
    rw [ExceptT.run_bind, Procedure.wp_bind, wp_deref]
    refine ⟨hpermits addr w hgood hinv, fun answer v hanswer ↦ ?_⟩
    have hinv' := hstep addr w answer v hgood hinv hanswer
    cases answer with
    | some word =>
      exact Procedure.wp_mono (ih word hpermits hstep hlost hfault hinv') fun _ _ _ _ hran ↦
        ⟨hran.1.read hgood, hran.2⟩
    | none =>
      dsimp only
      split
      · exact ⟨ran_fault hgood, hinv', fun _ ↦ hlost addr w v hgood hinv hanswer⟩
      · rename_i hnot
        exact (hfault addr hgood).resolve_left hnot

theorem Reads.wp {code : Guarded α} (h : Reads good code)
    (hpermits : ∀ addr w, good addr → inv w → contract.permits (.load thread.armed addr) w)
    (hstep : ∀ addr w answer w', good addr → inv w →
      contract.answers (.load thread.armed addr) w answer w' → inv w')
    (hfault : ∀ addr, good addr → handler thread.armed thread.prev { addr := addr, raised := false } =
      .recovered ∨ contract.tolerates .aborted) (hinv : inv w) :
    Procedure.wp contract code.run (fun trace res thread' w' ↦
      Ran good thread trace res thread' ∧ inv w') thread w := by
  let lost : W → Prop := fun _ ↦ True
  have hrun : Procedure.wp contract code.run (fun trace res thread' w' ↦
      Ran good thread trace res thread' ∧ inv w' ∧ (res = .error () → lost w')) thread w :=
    h.wp_lost hpermits hstep (fun _ _ _ _ _ _ ↦ trivial) hfault hinv
  exact Procedure.wp_mono hrun fun _ _ _ _ hran ↦ ⟨hran.1, hran.2.1⟩

/-- In an environment that may do anything. -/
theorem Reads.wp_anything {code : Guarded α} (h : Reads good code) :
    Procedure.wp .anything code.run (fun trace res thread' _ ↦ Ran good thread trace res thread')
      thread () := by
  let inv : Unit → Prop := fun _ ↦ True
  have hrun : Procedure.wp .anything code.run (fun trace res thread' w' ↦
      Ran good thread trace res thread' ∧ inv w') thread () :=
    h.wp (fun _ _ _ _ ↦ trivial) (fun _ _ _ _ _ _ _ ↦ trivial) (fun _ _ ↦ .inr trivial) trivial
  exact Procedure.wp_mono hrun fun _ _ _ _ hran ↦ hran.1

/-- The rule for a read in such an environment. -/
theorem wp_read_anything {next : UInt32 → Guarded α}
    {post : Procedure.Post Sys (Except Unit α) Thread Unit}
    (hword : ∀ word, Procedure.wp .anything (next word).run
      (fun rest ↦ post (⟨.load thread.armed addr, some word⟩ :: rest)) thread ())
    (hfault : post [⟨.load thread.armed addr, none⟩] (.error ()) (Thread.disarm thread) ()) :
    Procedure.wp .anything (deref addr >>= next).run post thread () := by
  rw [ExceptT.run_bind, Procedure.wp_bind, wp_deref]
  refine ⟨trivial, fun answer _ _ ↦ ?_⟩
  cases answer with
  | some word => exact hword word
  | none =>
    dsimp only
    split
    · exact hfault
    · exact trivial

end Ran

/-! ## The telemetry code -/

section Telemetry

variable {good : ℕ → Prop}

theorem readPointers_reads {window : ℕ} {arch : ArchConstants}
    (htags : good (window + windowOffset arch.telemTags))
    (hdata : good (window + windowOffset arch.telemData)) :
    Reads good (readPointers window arch) :=
  .read htags fun _ ↦ .read hdata fun _ ↦ .done _

variable {tbl data : ℕ} {table : Ref} {map : TagMap}

theorem readEntries_reads (indices : List ℕ) (map : TagMap)
    (h : ∀ idx ∈ indices, good (tbl + 4 * (2 + idx))) : Reads good (readEntries tbl indices map) := by
  induction indices generalizing map with
  | nil => exact .done _
  | cons idx rest ih =>
    obtain ⟨hidx, hrest⟩ := List.forall_mem_cons.mp h
    refine .read hidx fun entry ↦ ?_
    cases recordEntry map entry with
    | none => exact .done _
    | some map => exact ih map hrest

theorem fillTable_reads (tags : List (Fin TT_TELEMETRY_LEN))
    (h : ∀ tag, map tag ≠ unset → good (wordAddr data (map tag))) :
    Reads good (fillTable data map table tags) := by
  induction tags with
  | nil => exact .done _
  | cons tag rest ih =>
    unfold fillTable
    split
    · rename_i hset
      exact .read (h tag hset) fun value ↦ .update (fun _ ↦ ⟨rfl, rfl, rfl⟩) ih
    · exact ih

theorem attemptSnapshot_reads (tries : ℕ)
    (h : ∀ tag, map tag ≠ unset → good (wordAddr data (map tag))) :
    Reads good (attemptSnapshot data map table tries) := by
  induction tries with
  | zero => exact reads_ttFail _
  | succ tries ih =>
    unfold attemptSnapshot
    split
    · rename_i hset
      refine .read (h _ hset) fun tick ↦ (fillTable_reads _ h).bind fun _ ↦
        .read (h _ hset) fun tock ↦ ?_
      split
      · exact .done _
      · exact .update (fun _ ↦ ⟨rfl, rfl, rfl⟩) ih
    · exact (fillTable_reads _ h).bind fun _ ↦ .done _

/-- The snapshot reads the entry count, at most as many entries as the cap, and listed words. -/
theorem snapshot_reads (hcount : good (tbl + 4))
    (hentries : ∀ idx < TELEM_ENTRY_CAP, good (tbl + 4 * (2 + idx)))
    (hwords : ∀ off, off ≠ unset → good (wordAddr data off)) :
    Reads good (snapshot tbl data table) := by
  refine .read hcount fun count ↦ ?_
  have hrange : ∀ idx ∈ List.range (min count.toNat TELEM_ENTRY_CAP),
      good (tbl + 4 * (2 + idx)) := by
    intro idx hidx
    have hlt := List.mem_range.mp hidx
    exact hentries idx (by omega)
  refine (readEntries_reads _ _ hrange).bind fun listed ↦ ?_
  cases listed with
  | none => exact reads_ttFail _
  | some map => exact attemptSnapshot_reads 3 fun tag hset ↦ hwords _ hset

end Telemetry

end TtDal.Safety.GuardedReads
