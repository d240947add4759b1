import TtDal.Platform.Thread
import Mathlib.Data.Set.Insert
import Mathlib.Order.BooleanAlgebra.Set

/-!
# The descriptor table of a process

Descriptor numbers are given out by `open(2)` to the library and to the rest of the process alike.
`close(2)` releases the number it is given, whatever it reports.
-/

namespace TtDal.Driver

open Effect Platform

inductive Owner where
  | library
  | foreign
  deriving DecidableEq, Repr

structure Table where
  /-- Who opened the descriptor that is open under a number. -/
  owner : ℤ → Option Owner
  /-- The numbers the library passed to `close(2)` while it had none open under them. -/
  strays : List ℤ

namespace Table

def opened (table : Table) (fd : ℤ) (owner : Owner) : Table :=
  { table with owner := Function.update table.owner fd (some owner) }

def closed (table : Table) (fd : ℤ) : Table :=
  { table with owner := Function.update table.owner fd none }

def strayed (table : Table) (fd : ℤ) : Table :=
  { table with strays := fd :: table.strays }

/-- The rest of the process opens and closes descriptors of its own at any time. -/
inductive Foreign : Table → Table → Prop where
  | opens {table : Table} {fd : ℤ} : 0 ≤ fd → table.owner fd = none →
      Foreign table (table.opened fd .foreign)
  | closes {table : Table} {fd : ℤ} : table.owner fd = some .foreign →
      Foreign table (table.closed fd)

def answers : (op : Syscall) → Table → op.Answer → Table → Prop
  | .openFile _ _, table, .ok fd _, table' =>
    table.owner fd = none ∧ table' = table.opened fd .library
  | .openFile _ _, table, .fail _, table' => table' = table
  | .close fd, table, reply, table' =>
    match table.owner fd with
    | some .library => table' = table.closed fd
    | some .foreign => table' = (table.closed fd).strayed fd
    | none => reply.isOk = false ∧ table' = table.strayed fd
  | _, table, _, table' => table' = table

/-- The kernel, with the rest of the process going on between any two system calls. -/
def contract : Contract Sys Table :=
  Contract.interleaved
    { answers := answers
      permits := fun _ _ ↦ True
      tolerates := fun _ ↦ True }
    Foreign

/-- The library has exactly these descriptors open, and never closed any other. -/
structure Holds (fds : Set ℤ) (table : Table) : Prop where
  owner : ∀ fd, table.owner fd = some .library ↔ fd ∈ fds
  strays : table.strays = []

section Holds

variable {fds : Set ℤ} {table table' : Table} {fd : ℤ}

theorem Holds.notMem (h : Holds fds table) (hother : table.owner fd ≠ some .library) :
    fd ∉ fds :=
  fun hmem ↦ hother ((h.owner fd).mpr hmem)

/-- What becomes of a number that is not the library's. -/
theorem Holds.elsewhere (h : Holds fds table) (hother : table.owner fd ≠ some .library)
    {entry : Option Owner} (hentry : entry ≠ some .library) :
    Holds fds { table with owner := Function.update table.owner fd entry } where
  owner other := by
    by_cases heq : other = fd
    · subst heq
      simp [h.notMem hother, hentry]
    · simpa [Function.update_of_ne heq] using h.owner other
  strays := h.strays

theorem Holds.foreign (h : Holds fds table) (hstep : Foreign table table') : Holds fds table' := by
  cases hstep with
  | opens hfd hfree =>
    have hentry : some Owner.foreign ≠ some .library := by decide
    refine h.elsewhere ?_ hentry
    rw [hfree]
    exact nofun
  | closes hforeign =>
    refine h.elsewhere ?_ (Option.some_ne_none _).symm
    rw [hforeign]
    exact nofun

theorem Holds.foreigns (h : Holds fds table) (hsteps : Relation.ReflTransGen Foreign table table') :
    Holds fds table' := by
  induction hsteps with
  | refl => exact h
  | tail _ hlast ih => exact ih.foreign hlast

theorem Holds.opened (h : Holds fds table) (hfree : table.owner fd = none) :
    fd ∉ fds ∧ Holds (insert fd fds) (table.opened fd .library) := by
  have hnot : fd ∉ fds := by
    apply h.notMem
    rw [hfree]
    exact nofun
  refine ⟨hnot, fun other ↦ ?_, h.strays⟩
  by_cases hother : other = fd
  · subst hother
    simp [Table.opened]
  · simpa [Table.opened, Function.update_of_ne hother, hother] using h.owner other

theorem Holds.closed (h : Holds fds table) : Holds (fds \ {fd}) (table.closed fd) := by
  refine ⟨fun other ↦ ?_, h.strays⟩
  by_cases hother : other = fd
  · subst hother
    simp [Table.closed]
  · simpa [Table.closed, Function.update_of_ne hother, hother] using h.owner other

end Holds

section Rules

variable {fds : Set ℤ} {table : Table} {thread : Thread} {fd : ℤ}

/-- Everything but opening and closing leaves the table to the rest of the process. -/
def Quiet : Syscall → Prop
  | .openFile _ _ | .close _ => False
  | _ => True

theorem keeps_quiet {op : Syscall} (hquiet : Quiet op) :
    Procedure.Keeps contract (Holds fds) (sys op) := by
  apply keeps_sys
  · exact fun _ _ _ _ ↦ trivial
  · rintro table answer table' hholds ⟨middle, hsteps, hanswer⟩
    have hmiddle := hholds.foreigns hsteps
    cases op <;> first
      | exact hquiet.elim
      | exact hanswer ▸ hmiddle

theorem wp_openFile {path : String} {flags : OpenFlags}
    {post : Procedure.Post Sys (Reply ℕ) Thread Table} (h : Holds fds table)
    (hok : ∀ (fd : ℕ) residue table', (fd : ℤ) ∉ fds → Holds (insert (fd : ℤ) fds) table' →
      post [⟨.openFile path flags, .ok fd residue⟩] (.ok fd residue)
        { thread with errno := residue } table')
    (hfail : ∀ err table', Holds fds table' →
      post [⟨.openFile path flags, .fail err⟩] (.fail err) { thread with errno := err } table') :
    Procedure.wp contract (sys (.openFile path flags)) post thread table := by
  refine (wp_sys (.openFile path flags) post).mpr ⟨fun _ _ ↦ trivial, fun reply table' hanswer ↦ ?_⟩
  obtain ⟨middle, hsteps, hanswer⟩ := hanswer
  have hmiddle := h.foreigns hsteps
  cases reply with
  | ok fd residue =>
    obtain ⟨hfree, rfl⟩ := hanswer
    exact hok fd residue _ (hmiddle.opened hfree).1 (hmiddle.opened hfree).2
  | fail err =>
    obtain rfl := hanswer
    exact hfail err _ hmiddle

theorem wp_close {post : Procedure.Post Sys (Reply Unit) Thread Table} (h : Holds fds table)
    (hfd : fd ∈ fds) (hpost : ∀ reply table', Holds (fds \ {fd}) table' →
      post [⟨.close fd, reply⟩] reply { thread with errno := reply.errno } table') :
    Procedure.wp contract (sys (.close fd)) post thread table := by
  refine (wp_sys (.close fd) post).mpr ⟨fun _ _ ↦ trivial, fun reply table' hanswer ↦ ?_⟩
  obtain ⟨middle, hsteps, hanswer⟩ := hanswer
  have hmiddle := h.foreigns hsteps
  have howner := (hmiddle.owner fd).mpr hfd
  have hclosed : answers (.close fd) middle reply table' := hanswer
  simp only [answers, howner] at hclosed
  subst hclosed
  exact hpost reply _ hmiddle.closed

end Rules

end Table

end TtDal.Driver
