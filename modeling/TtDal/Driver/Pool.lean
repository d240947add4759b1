import TtDal.Effect.System
import TtDal.Platform.Thread

/-!
# The driver's pool of TLB windows

The driver hands out windows by id. A window belongs to the descriptor it was allocated on until
it is freed, the descriptor is closed, or the device is reset out of band, which severs the
descriptor. Requests that name an id act on whatever window the descriptor owns under that id.

Three components record history and restrict nothing: `issued` numbers the windows in the order
of their allocation, `opens` counts the descriptors, and `touched` lists the windows that were
freed or configured by request.
-/

namespace TtDal.Driver

open Effect Platform

inductive Link where
  | live
  | severed
  deriving DecidableEq, Repr

structure Window where
  /-- The descriptor the window was allocated on. -/
  owner : ℤ
  /-- The position of the allocation among all allocations. -/
  serial : ℕ
  /-- The configuration the window was last given. -/
  config : Option NocTlbConfig
  deriving DecidableEq, Repr

structure Pool where
  links : ℤ → Option Link
  windows : ℕ → Option Window
  issued : ℕ
  opens : ℕ
  touched : List ℕ

namespace Pool

/-- The windows left when those of a descriptor return to the pool. -/
def release (pool : Pool) (fd : ℤ) : ℕ → Option Window :=
  fun id ↦ (pool.windows id).filter fun window ↦ window.owner ≠ fd

def opened (pool : Pool) (fd : ℤ) : Pool :=
  { pool with links := Function.update pool.links fd (some .live), opens := pool.opens + 1 }

def closed (pool : Pool) (fd : ℤ) : Pool :=
  { pool with links := Function.update pool.links fd none, windows := pool.release fd }

def severed (pool : Pool) (fd : ℤ) : Pool :=
  { pool with
    links := Function.update pool.links fd (some .severed)
    windows := pool.release fd }

def allocated (pool : Pool) (fd : ℤ) (id : ℕ) : Pool :=
  { pool with
    windows := Function.update pool.windows id
      (some { owner := fd, serial := pool.issued, config := none })
    issued := pool.issued + 1 }

def freed (pool : Pool) (id : ℕ) (window : Window) : Pool :=
  { pool with
    windows := Function.update pool.windows id none
    touched := window.serial :: pool.touched }

def configured (pool : Pool) (id : ℕ) (window : Window) (config : NocTlbConfig) : Pool :=
  { pool with
    windows := Function.update pool.windows id (some { window with config := some config })
    touched := window.serial :: pool.touched }

/-- An out-of-band reset severs a live descriptor. -/
inductive Reset : Pool → Pool → Prop where
  | sever {pool : Pool} {fd : ℤ} : pool.links fd = some .live → Reset pool (pool.severed fd)

/-- How the driver answers. Closing releases the descriptor whatever it reports, a failing request
has no effect, and every request may fail. -/
def answers : (op : Syscall) → Pool → op.Answer → Pool → Prop
  | .openFile _ _, pool, .ok fd _, pool' => pool.links fd = none ∧ pool' = pool.opened fd
  | .openFile _ _, pool, .fail _, pool' => pool' = pool
  | .close fd, pool, _, pool' => pool' = pool.closed fd
  | .allocateTlb fd _, pool, .ok out _, pool' =>
    pool.links fd = some .live ∧ pool.windows out.id = none ∧ pool' = pool.allocated fd out.id
  | .allocateTlb _ _, pool, .fail _, pool' => pool' = pool
  | .freeTlb fd id, pool, .ok _ _, pool' =>
    ∃ window, pool.windows id = some window ∧ window.owner = fd ∧ pool' = pool.freed id window
  | .freeTlb _ _, pool, .fail _, pool' => pool' = pool
  | .configureTlb fd id config, pool, .ok _ _, pool' =>
    ∃ window, pool.windows id = some window ∧ window.owner = fd ∧
      pool' = pool.configured id window config
  | .configureTlb _ _ _, pool, .fail _, pool' => pool' = pool
  | _, pool, _, pool' => pool' = pool

/-- The driver with out-of-band resets between any two system calls. -/
def contract : Contract Sys Pool :=
  Contract.interleaved
    { answers := answers
      permits := fun _ _ ↦ True
      tolerates := fun _ ↦ True }
    Reset

/-! ## Well-formed states -/

structure WellFormed (pool : Pool) : Prop where
  natural : ∀ fd, pool.links fd ≠ none → 0 ≤ fd
  owned : ∀ id window, pool.windows id = some window → pool.links window.owner = some .live
  numbered : ∀ id window, pool.windows id = some window → window.serial < pool.issued
  distinct : ∀ id id' window window', pool.windows id = some window →
    pool.windows id' = some window' → window.serial = window'.serial → id = id'

section WellFormed

variable {pool : Pool} {fd : ℤ} {id : ℕ} {window : Window}

theorem release_eq_some : pool.release fd id = some window ↔
    pool.windows id = some window ∧ window.owner ≠ fd := by
  simp [release, Option.filter_eq_some_iff]

theorem WellFormed.released (h : pool.WellFormed) (link : Option Link)
    (hlink : link ≠ none → 0 ≤ fd) :
    WellFormed { pool with
      links := Function.update pool.links fd link
      windows := pool.release fd } where
  natural other hother := by
    by_cases heq : other = fd
    · subst heq
      exact hlink (by simpa using hother)
    · exact h.natural other (by simpa [Function.update_of_ne heq] using hother)
  owned other window' hwindow := by
    obtain ⟨hsome, hne⟩ := release_eq_some.mp hwindow
    simpa [Function.update_of_ne hne] using h.owned other window' hsome
  numbered other window' hwindow := h.numbered other window' (release_eq_some.mp hwindow).1
  distinct other other' window' window'' hwindow hwindow' :=
    h.distinct other other' window' window'' (release_eq_some.mp hwindow).1
      (release_eq_some.mp hwindow').1

theorem WellFormed.closed (h : pool.WellFormed) : (pool.closed fd).WellFormed :=
  h.released none fun hne ↦ absurd rfl hne

theorem WellFormed.severed (h : pool.WellFormed) (hlive : pool.links fd = some .live) :
    (pool.severed fd).WellFormed :=
  h.released (some .severed) fun _ ↦ h.natural fd (by simp [hlive])

theorem WellFormed.opened {fd : ℕ} (h : pool.WellFormed) (hfree : pool.links fd = none) :
    (pool.opened fd).WellFormed where
  natural other hother := by
    by_cases heq : other = fd
    · exact heq ▸ Int.natCast_nonneg fd
    · exact h.natural other (by simpa [Pool.opened, Function.update_of_ne heq] using hother)
  owned other window' hwindow := by
    have howned := h.owned other window' hwindow
    have hne : window'.owner ≠ fd := fun heq ↦ by simp [heq, hfree] at howned
    simpa [Pool.opened, Function.update_of_ne hne] using howned
  numbered := h.numbered
  distinct := h.distinct

theorem allocated_windows_self :
    (pool.allocated fd id).windows id =
      some { owner := fd, serial := pool.issued, config := none } := by
  simp [allocated]

theorem allocated_windows_of_ne {other : ℕ} (hne : other ≠ id) :
    (pool.allocated fd id).windows other = pool.windows other := by
  simp [allocated, Function.update_of_ne hne]

theorem WellFormed.allocated (h : pool.WellFormed) (hlive : pool.links fd = some .live) :
    (pool.allocated fd id).WellFormed where
  natural := h.natural
  owned other window' hwindow := by
    by_cases heq : other = id
    · rw [heq, allocated_windows_self, Option.some.injEq] at hwindow
      exact hwindow ▸ hlive
    · exact h.owned other window' (allocated_windows_of_ne heq ▸ hwindow)
  numbered other window' hwindow := by
    by_cases heq : other = id
    · rw [heq, allocated_windows_self, Option.some.injEq] at hwindow
      exact hwindow ▸ Nat.lt_succ_self _
    · exact Nat.lt_succ_of_lt (h.numbered other window' (allocated_windows_of_ne heq ▸ hwindow))
  distinct other other' window' window'' hwindow hwindow' hserial := by
    by_cases heq : other = id <;> by_cases heq' : other' = id
    · rw [heq, heq']
    · rw [heq, allocated_windows_self, Option.some.injEq] at hwindow
      have hlt := h.numbered other' window'' (allocated_windows_of_ne heq' ▸ hwindow')
      rw [← hserial, ← hwindow] at hlt
      exact absurd hlt (Nat.lt_irrefl _)
    · rw [heq', allocated_windows_self, Option.some.injEq] at hwindow'
      have hlt := h.numbered other window' (allocated_windows_of_ne heq ▸ hwindow)
      rw [hserial, ← hwindow'] at hlt
      exact absurd hlt (Nat.lt_irrefl _)
    · exact h.distinct other other' window' window'' (allocated_windows_of_ne heq ▸ hwindow)
        (allocated_windows_of_ne heq' ▸ hwindow') hserial

theorem freed_windows_eq_some {other : ℕ} {window' : Window} :
    (pool.freed id window).windows other = some window' ↔
      other ≠ id ∧ pool.windows other = some window' := by
  by_cases heq : other = id
  · simp [freed, heq]
  · simp [freed, heq]

theorem WellFormed.freed (h : pool.WellFormed) : (pool.freed id window).WellFormed where
  natural := h.natural
  owned other window' hwindow := h.owned other window' (freed_windows_eq_some.mp hwindow).2
  numbered other window' hwindow := h.numbered other window' (freed_windows_eq_some.mp hwindow).2
  distinct other other' window' window'' hwindow hwindow' :=
    h.distinct other other' window' window'' (freed_windows_eq_some.mp hwindow).2
      (freed_windows_eq_some.mp hwindow').2

/-- Configuring changes no window but in its configuration. -/
theorem configured_windows_eq_some {config : NocTlbConfig} (hwindow : pool.windows id = some window)
    {other : ℕ} {window' : Window} (h : (pool.configured id window config).windows other = some window') :
    ∃ window'', pool.windows other = some window'' ∧ window'.owner = window''.owner ∧
      window'.serial = window''.serial := by
  by_cases heq : other = id
  · subst heq
    have hconfig : { window with config := some config } = window' := by
      simpa [configured] using h
    exact ⟨window, hwindow, hconfig ▸ rfl, hconfig ▸ rfl⟩
  · exact ⟨window', by simpa [configured, Function.update_of_ne heq] using h, rfl, rfl⟩

theorem WellFormed.configured {config : NocTlbConfig} (h : pool.WellFormed)
    (hwindow : pool.windows id = some window) : (pool.configured id window config).WellFormed where
  natural := h.natural
  owned other window' hwindow' := by
    obtain ⟨window'', hsome, howner, -⟩ := configured_windows_eq_some hwindow hwindow'
    exact howner ▸ h.owned other window'' hsome
  numbered other window' hwindow' := by
    obtain ⟨window'', hsome, -, hserial⟩ := configured_windows_eq_some hwindow hwindow'
    exact hserial ▸ h.numbered other window'' hsome
  distinct other other' window' window'' hwindow' hwindow'' hserial := by
    obtain ⟨first, hfirst, -, hserial'⟩ := configured_windows_eq_some hwindow hwindow'
    obtain ⟨second, hsecond, -, hserial''⟩ := configured_windows_eq_some hwindow hwindow''
    exact h.distinct other other' first second hfirst hsecond
      (hserial'.symm.trans (hserial.trans hserial''))

end WellFormed

end Pool

end TtDal.Driver
