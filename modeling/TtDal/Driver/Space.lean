import TtDal.Platform.Thread

/-!
# Windows and the mappings of a process

The driver grants windows to descriptors and programs them on request. The kernel maps windows
into the address space of the process. A window is named by its descriptor and its id, and a
mapping by its start. A mapping records for whom it was made, which restricts nothing.
-/

namespace TtDal.Driver

open Effect Platform

/-- A mapping is never empty. -/
structure Mapping where
  len : ℕ
  /-- For whom it was made. -/
  maker : ℕ
  positive : 0 < len

structure Space where
  /-- The granted windows, with the configuration each was last given. -/
  windows : ℤ × ℕ → Option (Option NocTlbConfig)
  /-- The mappings the library made and has not unmapped. -/
  mappings : ℕ → Option Mapping
  /-- The ranges that were to be unmapped and are no mapping of the one who asked. -/
  strays : List (ℕ × ℕ)

namespace Space

def granted (space : Space) (fd : ℤ) (id : ℕ) : Space :=
  { space with windows := Function.update space.windows (fd, id) (some none) }

def released (space : Space) (fd : ℤ) (id : ℕ) : Space :=
  { space with windows := Function.update space.windows (fd, id) none }

def programmed (space : Space) (fd : ℤ) (id : ℕ) (config : Option NocTlbConfig) : Space :=
  { space with windows := Function.update space.windows (fd, id) (some config) }

def mapped (space : Space) (start : ℕ) (mapping : Mapping) : Space :=
  { space with mappings := Function.update space.mappings start (some mapping) }

def unmapped (space : Space) (start : ℕ) : Space :=
  { space with mappings := Function.update space.mappings start none }

/-- No mapping overlaps the range. -/
def Vacant (space : Space) (start len : ℕ) : Prop :=
  ∀ start' mapping, space.mappings start' = some mapping →
    start + len ≤ start' ∨ start' + mapping.len ≤ start

/-- The range is a whole mapping that was made for the one who asks. -/
def Whole (space : Space) (maker start len : ℕ) : Prop :=
  ∃ mapping, space.mappings start = some mapping ∧ mapping.maker = maker ∧ mapping.len = len

def strayed (space : Space) (start len : ℕ) : Space :=
  { space with strays := (start, len) :: space.strays }

/-- Every request may fail. A failing configuration may leave the window programmed in any way,
and the other failing requests have no effect. A new mapping overlaps no other, and unmapping a
whole mapping succeeds. What else unmapping may do is left out, because it is never asked for. -/
def answers (maker : ℕ) : (op : Syscall) → Space → op.Answer → Space → Prop
  | .mmap len _ _, space, .ok start _, space' => start ≠ NULL ∧ space.Vacant start len ∧
    ∃ mapping : Mapping, mapping.len = len ∧ mapping.maker = maker ∧
      space' = space.mapped start mapping
  | .mmap _ _ _, space, .fail _, space' => space' = space
  | .munmap start len, space, reply, space' =>
    space.Whole maker start len ∧ reply.isOk = true ∧ space' = space.unmapped start ∨
    ¬space.Whole maker start len ∧ space' = space.strayed start len
  | .allocateTlb fd _, space, .ok out _, space' =>
    space.windows (fd, out.id) = none ∧ space' = space.granted fd out.id
  | .allocateTlb _ _, space, .fail _, space' => space' = space
  | .freeTlb fd id, space, .ok _ _, space' =>
    space.windows (fd, id) ≠ none ∧ space' = space.released fd id
  | .freeTlb _ _, space, .fail _, space' => space' = space
  | .configureTlb fd id config, space, .ok _ _, space' =>
    space.windows (fd, id) ≠ none ∧ space' = space.programmed fd id (some config)
  | .configureTlb fd id _, space, .fail _, space' => space' = space ∨
    space.windows (fd, id) ≠ none ∧ ∃ config, space' = space.programmed fd id config
  | _, space, _, space' => space' = space

/-- The kernel and the driver, as they serve one handle. -/
def contract (maker : ℕ) : Contract Sys Space where
  answers := answers maker
  permits _ _ := True
  tolerates _ := True

/-- An unmapping that is refused leaves everything as it is. -/
def answersOrRefuses (maker : ℕ) : (op : Syscall) → Space → op.Answer → Space → Prop
  | .munmap _ _, space, .fail _, space' => space' = space
  | op, space, answer, space' => answers maker op space answer space'

/-- The kernel and the driver, when not even an unmapping is sure to succeed. -/
def refusing (maker : ℕ) : Contract Sys Space where
  answers := answersOrRefuses maker
  permits _ _ := True
  tolerates _ := True

section Lemmas

variable {space : Space} {start start' len : ℕ} {mapping : Mapping} {fd : ℤ} {id : ℕ}

/-- A vacant range does not start where a mapping does. -/
theorem Vacant.mappings_eq_none (h : space.Vacant start len) (hlen : 0 < len) :
    space.mappings start = none := by
  cases hmapping : space.mappings start with
  | none => rfl
  | some mapping =>
    have hapart := h start mapping hmapping
    have hpositive := mapping.positive
    omega

@[simp]
theorem mapped_mappings_self :
    (space.mapped start mapping).mappings start = some mapping :=
  Function.update_self _ _ _

theorem mapped_mappings_of_ne (h : start' ≠ start) :
    (space.mapped start mapping).mappings start' = space.mappings start' :=
  Function.update_of_ne h _ _

@[simp]
theorem unmapped_mappings_self : (space.unmapped start).mappings start = none :=
  Function.update_self _ _ _

theorem unmapped_mappings_of_ne (h : start' ≠ start) :
    (space.unmapped start).mappings start' = space.mappings start' :=
  Function.update_of_ne h _ _

@[simp]
theorem programmed_windows_self {config : Option NocTlbConfig} :
    (space.programmed fd id config).windows (fd, id) = some config :=
  Function.update_self _ _ _

@[simp]
theorem granted_windows_self : (space.granted fd id).windows (fd, id) = some none :=
  Function.update_self _ _ _

end Lemmas

end Space

end TtDal.Driver
