import TtDal.Binding.Tlb
import TtDal.Driver.Pool

/-!
# Ownership of TLB windows across reopens

One binding session with any number of TLB handles runs against the driver's pool. The handle
records only the driver's id of its window, and a reopen replaces the descriptor behind it, so an
operation on a handle is safe while the handle is no older than the descriptor, or while no handle
of the current descriptor has its id. Under that condition no run touches the window of another
handle. Without it, freeing a handle from before a reopen frees the window of a later one.
-/

namespace TtDal.Safety.WindowOwnership

open Effect Platform Dev Driver Binding

inductive Language where
  | rust
  | python
  deriving DecidableEq, Repr

/-- A handle, with the descriptor and the window it was allocated as. -/
structure Handle where
  raw : Tlb
  freed : Bool
  /-- The number of descriptors opened before the allocation. -/
  birth : ℕ
  /-- The position of the window among all windows allocated. -/
  serial : ℕ
  deriving DecidableEq

abbrev Handles := ℕ → Option Handle

structure State where
  pool : Pool
  thread : Thread
  sess : Session
  handles : Handles

inductive Label where
  | reset
  | alloc (name : ℕ) (size : Size) (mode : Caching)
  | bind (name : ℕ) (cfg : TlbConfig)
  | free (name : ℕ)
  | drop (name : ℕ)
  | reopen
  | info
  deriving DecidableEq

/-- The handle an operation is applied to. -/
def Label.target : Label → Option ℕ
  | .bind name _ | .free name | .drop name => some name
  | .reset | .alloc _ _ _ | .reopen | .info => none

/-! ## The operations of both languages -/

def Language.alloc (language : Language) (persist : Bool) (size : Size) (mode : Caching)
    (sess : Session) : C (Option Tlb × Session) := do
  match language with
  | .rust =>
    let (res, sess) ← Rust.alloc persist size mode sess
    return (res.toOption, sess)
  | .python =>
    let (res, sess) ← Python.alloc persist size mode sess
    return (res.toOption, sess)

def Language.bind (language : Language) (sess : Session) (handle : Handle) (cfg : TlbConfig) :
    C Handle := do
  match language with
  | .rust =>
    let (_, raw) ← Rust.bind sess handle.raw cfg
    return { handle with raw := raw }
  | .python =>
    let (_, raw) ← Python.bind sess handle.raw handle.freed cfg
    return { handle with raw := raw }

/-- Free a handle; a Rust handle is consumed. -/
def Language.free (language : Language) (sess : Session) (handle : Handle) : C Handle := do
  match language with
  | .rust =>
    let _ ← Rust.free sess handle.raw
    return { handle with freed := true }
  | .python =>
    let (_, raw, freed) ← Python.free sess handle.raw handle.freed
    return { handle with raw := raw, freed := freed }

def Language.reopen (language : Language) (sess : Session) : C Session := do
  match language with
  | .rust =>
    let (_, sess) ← Rust.reopen sess
    return sess
  | .python =>
    let (_, sess) ← Python.reopen sess
    return sess

/-- An operation that uses no window, run through `perform` like every other. -/
def Language.info (language : Language) (persist : Bool) (sess : Session) : C Session := do
  match language with
  | .rust =>
    let (_, sess) ← Rust.perform persist (fun sess ↦ Rust.check (devInfo sess)) Rust.reopen sess
    return sess
  | .python =>
    let (_, sess) ← Python.perform persist (fun sess ↦ Python.check (devInfo sess)) Python.lost
      Python.reopen sess
    return sess

/-- A handle the language lets a program use: Rust has none left once it was freed. -/
def Language.usable (language : Language) (handle : Handle) : Prop :=
  language = .rust → handle.freed = false

/-! ## The system -/

/-- The driver state in which an operation starts, with nothing touched by it yet. -/
def State.begin (s : State) : Pool := { s.pool with touched := [] }

def Handles.put (handles : Handles) (name : ℕ) (handle : Handle) : Handles :=
  Function.update handles name (some handle)

def Handles.remove (handles : Handles) (name : ℕ) : Handles :=
  Function.update handles name none

theorem Handles.remove_put (handles : Handles) (name : ℕ) (handle : Handle) :
    (handles.put name handle).remove name = handles.remove name :=
  Function.update_idem _ _ _

/-- The moves of a session: an operation runs to its end, with resets between its system calls,
or a reset happens between operations. -/
inductive Moves (language : Language) (persist : Bool) : State → Label → State → Prop where
  | reset {s : State} {pool : Pool} : Pool.Reset s.begin pool →
      Moves language persist s .reset { s with pool := pool }
  | alloc {s : State} {name : ℕ} {size : Size} {mode : Caching} {trace : List (Event Sys)}
      {raw : Tlb} {sess : Session} {thread : Thread} {pool : Pool} : s.handles name = none →
      Procedure.Executes Pool.contract (language.alloc persist size mode s.sess) s.thread s.begin
        trace (some raw, sess) thread pool →
      Moves language persist s (.alloc name size mode)
        { pool := pool, thread := thread, sess := sess
          handles := s.handles.put name
            { raw := raw, freed := false, birth := pool.opens, serial := pool.issued - 1 } }
  | allocFailed {s : State} {name : ℕ} {size : Size} {mode : Caching} {trace : List (Event Sys)}
      {sess : Session} {thread : Thread} {pool : Pool} :
      Procedure.Executes Pool.contract (language.alloc persist size mode s.sess) s.thread s.begin
        trace (none, sess) thread pool →
      Moves language persist s (.alloc name size mode)
        { s with pool := pool, thread := thread, sess := sess }
  | bind {s : State} {name : ℕ} {cfg : TlbConfig} {trace : List (Event Sys)}
      {handle handle' : Handle} {thread : Thread} {pool : Pool} :
      s.handles name = some handle → language.usable handle →
      Procedure.Executes Pool.contract (language.bind s.sess handle cfg) s.thread s.begin
        trace handle' thread pool →
      Moves language persist s (.bind name cfg)
        { s with pool := pool, thread := thread, handles := s.handles.put name handle' }
  | free {s : State} {name : ℕ} {trace : List (Event Sys)} {handle handle' : Handle}
      {thread : Thread} {pool : Pool} :
      s.handles name = some handle → language.usable handle →
      Procedure.Executes Pool.contract (language.free s.sess handle) s.thread s.begin
        trace handle' thread pool →
      Moves language persist s (.free name)
        { s with pool := pool, thread := thread, handles := s.handles.put name handle' }
  | drop {s : State} {name : ℕ} {trace : List (Event Sys)} {handle handle' : Handle}
      {thread : Thread} {pool : Pool} :
      s.handles name = some handle → language.usable handle →
      Procedure.Executes Pool.contract (language.free s.sess handle) s.thread s.begin
        trace handle' thread pool →
      Moves language persist s (.drop name)
        { s with pool := pool, thread := thread, handles := s.handles.remove name }
  | reopen {s : State} {trace : List (Event Sys)} {sess : Session} {thread : Thread}
      {pool : Pool} :
      Procedure.Executes Pool.contract (language.reopen s.sess) s.thread s.begin
        trace sess thread pool →
      Moves language persist s .reopen { s with pool := pool, thread := thread, sess := sess }
  | info {s : State} {trace : List (Event Sys)} {sess : Session} {thread : Thread}
      {pool : Pool} :
      Procedure.Executes Pool.contract (language.info persist s.sess) s.thread s.begin
        trace sess thread pool →
      Moves language persist s .info { s with pool := pool, thread := thread, sess := sess }

/-- A session just opened: its descriptor is the only one, and no window is allocated. -/
structure Starts (s : State) : Prop where
  handles : s.handles = fun _ ↦ none
  windows : s.pool.windows = fun _ ↦ none
  links : ∀ fd, s.pool.links fd ≠ none ↔ fd = s.sess.fd
  natural : 0 ≤ s.sess.fd

def system (language : Language) (persist : Bool) : System State Label where
  starts := Starts
  moves := Moves language persist

/-- While the descriptor of the session is open and not severed, the handle was allocated on it, or
no handle that was has its id. -/
def Current (s : State) (name : ℕ) (handle : Handle) : Prop :=
  s.pool.links s.sess.fd = some .live →
    handle.birth = s.pool.opens ∨
      ∀ other handle', other ≠ name → s.handles other = some handle' → handle'.freed = false →
        handle'.birth = s.pool.opens → handle'.raw.id ≠ handle.raw.id

/-- The condition on a move: its target is current, or already freed. -/
def Careful (s : State) (label : Label) : Prop :=
  ∀ name handle, label.target = some name → s.handles name = some handle →
    handle.freed = false → Current s name handle

/-! ## The invariant -/

/-- The handle is there and has not been freed. -/
def Live (handles : Handles) (name : ℕ) (handle : Handle) : Prop :=
  handles name = some handle ∧ handle.freed = false

/-- A live handle of the current descriptor owns its window while the descriptor is live. The
window of an older handle is gone, so no window of the pool is its own. -/
structure Sound (handles : Handles) (fd : ℤ) (pool : Pool) : Prop where
  wellFormed : pool.WellFormed
  single : ∀ fd', pool.links fd' = some .live → fd' = fd
  issued : ∀ name handle, Live handles name handle → handle.serial < pool.issued
  born : ∀ name handle, Live handles name handle → handle.birth ≤ pool.opens
  apart : ∀ name name' handle handle', Live handles name handle → Live handles name' handle' →
    handle.serial = handle'.serial → name = name'
  held : ∀ name handle, Live handles name handle → ∀ id window, pool.windows id = some window →
    window.serial = handle.serial → id = handle.raw.id ∧ handle.birth = pool.opens
  current : ∀ name handle, Live handles name handle → handle.birth = pool.opens →
    pool.links fd = some .live →
    ∃ window, pool.windows handle.raw.id = some window ∧ window.serial = handle.serial

section Sound

variable {handles handles' : Handles} {fd : ℤ} {pool : Pool} {name id : ℕ} {handle : Handle}
  {window : Window}

/-- Only the live handles matter, and of these the id and the history. -/
theorem Sound.weaken (h : Sound handles fd pool)
    (hsub : ∀ name handle', Live handles' name handle' → ∃ handle, Live handles name handle ∧
      handle.raw.id = handle'.raw.id ∧ handle.birth = handle'.birth ∧
      handle.serial = handle'.serial) : Sound handles' fd pool where
  wellFormed := h.wellFormed
  single := h.single
  issued name handle' hlive := by
    obtain ⟨handle, hlive', -, -, hserial⟩ := hsub name handle' hlive
    exact hserial ▸ h.issued name handle hlive'
  born name handle' hlive := by
    obtain ⟨handle, hlive', -, hbirth, -⟩ := hsub name handle' hlive
    exact hbirth ▸ h.born name handle hlive'
  apart name name' handle handle' hlive hlive' hserial := by
    obtain ⟨first, hfirst, -, -, heq⟩ := hsub name handle hlive
    obtain ⟨second, hsecond, -, -, heq'⟩ := hsub name' handle' hlive'
    exact h.apart name name' first second hfirst hsecond (heq.trans (hserial.trans heq'.symm))
  held name handle' hlive id window hwindow hserial := by
    obtain ⟨handle, hlive', hid, hbirth, heq⟩ := hsub name handle' hlive
    rw [← hid, ← hbirth]
    exact h.held name handle hlive' id window hwindow (hserial.trans heq.symm)
  current name handle' hlive hbirth' hlink := by
    obtain ⟨handle, hlive', hid, hbirth, heq⟩ := hsub name handle' hlive
    rw [← hid, ← heq]
    exact h.current name handle hlive' (hbirth.trans hbirth') hlink

theorem Sound.remove (h : Sound handles fd pool) (name : ℕ) :
    Sound (handles.remove name) fd pool := by
  refine h.weaken fun other handle hlive ↦ ⟨handle, ⟨?_, hlive.2⟩, rfl, rfl, rfl⟩
  by_cases heq : other = name
  · simp [Live, Handles.remove, heq] at hlive
  · simpa [Handles.remove, Function.update_of_ne heq] using hlive.1

/-- Windows that are released belong to no handle of a live descriptor. -/
theorem Sound.released (h : Sound handles fd pool) {fd' : ℤ} (link : Option Link)
    (hlink : link ≠ some .live)
    (hwf : Pool.WellFormed { pool with
      links := Function.update pool.links fd' link
      windows := pool.release fd' }) :
    Sound handles fd { pool with
      links := Function.update pool.links fd' link
      windows := pool.release fd' } where
  wellFormed := hwf
  single other hother := by
    by_cases heq : other = fd'
    · subst heq
      exact absurd (by simpa using hother) hlink
    · exact h.single other (by simpa [Function.update_of_ne heq] using hother)
  issued := h.issued
  born := h.born
  apart := h.apart
  held name handle hlive id window hwindow hserial :=
    h.held name handle hlive id window (Pool.release_eq_some.mp hwindow).1 hserial
  current name handle hlive hbirth hfd := by
    by_cases heq : fd = fd'
    · subst heq
      exact absurd (by simpa using hfd) hlink
    · have hfd' : pool.links fd = some .live := by
        simpa [Function.update_of_ne heq] using hfd
      obtain ⟨window, hwindow, hserial⟩ := h.current name handle hlive hbirth hfd'
      have howner : window.owner = fd :=
        h.single _ (h.wellFormed.owned handle.raw.id window hwindow)
      exact ⟨window, Pool.release_eq_some.mpr ⟨hwindow, howner ▸ heq⟩, hserial⟩

theorem Sound.closed (h : Sound handles fd pool) (fd' : ℤ) : Sound handles fd (pool.closed fd') :=
  h.released none (by simp) h.wellFormed.closed

theorem Sound.reset {pool' : Pool} (h : Sound handles fd pool) (hreset : Pool.Reset pool pool') :
    Sound handles fd pool' := by
  cases hreset with
  | sever hlive => exact h.released (some .severed) (by simp) (h.wellFormed.severed hlive)

/-- With no live descriptor there are no windows, so the session may name any descriptor. -/
theorem Sound.windows_eq_none (h : Sound handles fd pool)
    (hidle : ∀ fd', pool.links fd' ≠ some .live) (id : ℕ) : pool.windows id = none := by
  rw [Option.eq_none_iff_forall_ne_some]
  intro window hwindow
  exact hidle _ (h.wellFormed.owned id window hwindow)

theorem Sound.opened {fd' : ℕ} (h : Sound handles fd pool)
    (hidle : ∀ fd', pool.links fd' ≠ some .live) (hfree : pool.links fd' = none) :
    Sound handles fd' (pool.opened fd') where
  wellFormed := h.wellFormed.opened hfree
  single other hother := by
    by_contra hne
    exact hidle other (by simpa [Pool.opened, Function.update_of_ne hne] using hother)
  issued := h.issued
  born name handle hlive := Nat.le_succ_of_le (h.born name handle hlive)
  apart := h.apart
  held name handle hlive id window hwindow hserial := by
    have hnone : pool.windows id = some window := hwindow
    rw [h.windows_eq_none hidle id] at hnone
    cases hnone
  current name handle hlive hbirth hfd := by
    have hlt := h.born name handle hlive
    have hopens : handle.birth = pool.opens + 1 := hbirth
    omega

theorem Sound.idle (h : Sound handles fd pool) (hidle : ∀ fd', pool.links fd' ≠ some .live)
    (fd' : ℤ) : Sound handles fd' pool where
  wellFormed := h.wellFormed
  single other hother := absurd hother (hidle other)
  issued := h.issued
  born := h.born
  apart := h.apart
  held := h.held
  current _ _ _ _ hfd := absurd hfd (hidle fd')

/-- No live handle owns the window under the id. -/
def Alone (handles : Handles) (id : ℕ) (pool : Pool) : Prop :=
  ∀ window, pool.windows id = some window →
    ∀ name handle, Live handles name handle → handle.serial ≠ window.serial

/-- No window of a live handle was touched. -/
def Untouched (handles : Handles) (pool : Pool) : Prop :=
  ∀ name handle, Live handles name handle → handle.serial ∉ pool.touched

theorem Sound.freed (h : Sound handles fd pool) (halone : Alone handles id pool)
    (hwindow : pool.windows id = some window) : Sound handles fd (pool.freed id window) where
  wellFormed := h.wellFormed.freed
  single := h.single
  issued := h.issued
  born := h.born
  apart := h.apart
  held name handle hlive id' window' hwindow' hserial :=
    h.held name handle hlive id' window' (Pool.freed_windows_eq_some.mp hwindow').2 hserial
  current name handle hlive hbirth hfd := by
    obtain ⟨window', hwindow', hserial⟩ := h.current name handle hlive hbirth hfd
    refine ⟨window', Pool.freed_windows_eq_some.mpr ⟨?_, hwindow'⟩, hserial⟩
    intro heq
    rw [heq, hwindow, Option.some.injEq] at hwindow'
    exact halone window hwindow name handle hlive (hserial.symm.trans (hwindow' ▸ rfl))

theorem Sound.configured (h : Sound handles fd pool) (hwindow : pool.windows id = some window)
    (config : NocTlbConfig) : Sound handles fd (pool.configured id window config) where
  wellFormed := h.wellFormed.configured hwindow
  single := h.single
  issued := h.issued
  born := h.born
  apart := h.apart
  held name handle hlive id' window' hwindow' hserial := by
    obtain ⟨first, hfirst, -, hserial'⟩ := Pool.configured_windows_eq_some hwindow hwindow'
    exact h.held name handle hlive id' first hfirst (hserial'.symm.trans hserial)
  current name handle hlive hbirth hfd := by
    obtain ⟨window', hwindow', hserial⟩ := h.current name handle hlive hbirth hfd
    by_cases heq : handle.raw.id = id
    · rw [heq, hwindow, Option.some.injEq] at hwindow'
      exact ⟨{ window with config := some config }, by simp [Pool.configured, heq],
        hwindow' ▸ hserial⟩
    · exact ⟨window', by simpa [Pool.configured, Function.update_of_ne heq] using hwindow', hserial⟩

/-- A handle that is current shares its id with no other live handle's window. -/
theorem Sound.alone {s : State} (h : Sound s.handles s.sess.fd s.pool)
    (hlive : Live s.handles name handle) (hcurrent : Current s name handle) :
    Alone (s.handles.remove name) handle.raw.id s.pool := by
  intro window hwindow other handle' hlive' hserial
  have hne : other ≠ name := by
    rintro rfl
    simp [Live, Handles.remove] at hlive'
  have hlive'' : Live s.handles other handle' := by
    simpa [Live, Handles.remove, Function.update_of_ne hne] using hlive'
  obtain ⟨hid, hbirth⟩ := h.held other handle' hlive'' handle.raw.id window hwindow hserial.symm
  have howned := h.wellFormed.owned _ _ hwindow
  have hlink : s.pool.links s.sess.fd = some .live := h.single _ howned ▸ howned
  rcases hcurrent hlink with hnew | hids
  · obtain ⟨window', hwindow', hserial'⟩ := h.current name handle hlive hnew hlink
    rw [hwindow, Option.some.injEq] at hwindow'
    exact hne (h.apart other name handle' handle hlive'' hlive
      (hserial.trans (hwindow' ▸ hserial')))
  · exact hids other handle' hne hlive''.1 hlive''.2 hbirth hid.symm

end Sound

/-! ## What each operation keeps -/

/-- The invariant in an operation that has touched no window so far. -/
def Stable (handles : Handles) (fd : ℤ) (pool : Pool) : Prop :=
  Sound handles fd pool ∧ pool.touched = []

/-- No descriptor is live. -/
def Idle (pool : Pool) : Prop := ∀ fd, pool.links fd ≠ some .live

section Operations

variable {handles : Handles} {fd : ℤ} {pool pool' : Pool} {sess : Session} {thread : Thread}

theorem Stable.resets (h : Stable handles fd pool)
    (hresets : Relation.ReflTransGen Pool.Reset pool pool') : Stable handles fd pool' := by
  induction hresets with
  | refl => exact h
  | tail _ hlast ih =>
    refine ⟨ih.1.reset hlast, ?_⟩
    cases hlast with
    | sever => exact ih.2

theorem Idle.resets (h : Idle pool) (hresets : Relation.ReflTransGen Pool.Reset pool pool') :
    pool' = pool := by
  induction hresets with
  | refl => rfl
  | tail _ hlast ih =>
    subst ih
    cases hlast with
    | sever hlive => exact absurd hlive (h _)

theorem Stable.idle (h : Stable handles fd pool) (hidle : Idle pool) (fd' : ℤ) :
    Stable handles fd' pool :=
  ⟨h.1.idle hidle fd', h.2⟩

theorem wp_closeSession (h : Stable handles sess.fd pool) :
    Procedure.wp Pool.contract (closeSession sess)
      (fun _ res _ pool' ↦ Stable handles res.2.fd pool' ∧ Idle pool') thread pool := by
  unfold closeSession
  split
  · rename_i hneg
    refine ⟨h, fun fd hlive ↦ ?_⟩
    have hfd := h.1.single fd hlive
    have hnatural := h.1.wellFormed.natural fd (by simp [hlive])
    omega
  · simp only [Procedure.wp_bind, wp_sys]
    refine ⟨fun _ _ ↦ trivial, fun answer pool' hanswer ↦ ?_⟩
    obtain ⟨middle, hresets, rfl⟩ := hanswer
    have hclosed : Stable handles sess.fd (middle.closed sess.fd) :=
      ⟨(h.resets hresets).1.closed sess.fd, (h.resets hresets).2⟩
    have hidle : Idle (middle.closed sess.fd) := by
      intro fd hlive
      have hne : fd ≠ sess.fd := by
        rintro rfl
        simp [Pool.closed] at hlive
      exact hne ((h.resets hresets).1.single fd
        (by simpa [Pool.closed, Function.update_of_ne hne] using hlive))
    cases answer with
    | fail err => exact ⟨hclosed, hidle⟩
    | ok value residue => exact ⟨hclosed.idle hidle _, hidle⟩

theorem wp_openSession (h : Stable handles fd pool) (hidle : Idle pool) (dev : Device)
    (flags : UInt16) :
    Procedure.wp Pool.contract (openSession dev flags)
      (fun _ res _ pool' ↦ match res with
        | .TT_OK sess => Stable handles sess.fd pool'
        | .TT_ERR => Stable handles fd pool') thread pool := by
  rw [openSession_eq]
  split
  · exact h
  · simp only [Procedure.wp_bind, wp_sys]
    refine ⟨fun _ _ ↦ trivial, fun answer pool' hanswer ↦ ?_⟩
    obtain ⟨middle, hresets, hanswer⟩ := hanswer
    rw [hidle.resets hresets] at hanswer
    cases answer with
    | fail err =>
      obtain rfl := hanswer
      exact h
    | ok fd' residue =>
      obtain ⟨hfree, rfl⟩ := hanswer
      exact ⟨h.1.opened hidle hfree, h.2⟩

theorem wp_reopenSession (h : Stable handles sess.fd pool) :
    Procedure.wp Pool.contract (reopenSession sess)
      (fun _ res _ pool' ↦ Stable handles res.2.fd pool') thread pool := by
  refine Procedure.wp_call (wp_closeSession h) fun _ closed thread' pool' hclosed ↦ ?_
  obtain ⟨status, sess'⟩ := closed
  refine Procedure.wp_call (wp_openSession hclosed.1 hclosed.2 sess'.dev sess'.flags)
    fun _ res thread'' pool'' hopened ↦ ?_
  cases res with
  | TT_OK sess'' => exact hopened
  | TT_ERR => exact hopened

theorem wp_reopen (h : Stable handles sess.fd pool) :
    Procedure.wp Pool.contract (Rust.reopen sess)
      (fun _ res _ pool' ↦ Stable handles res.2.fd pool') thread pool := by
  refine Procedure.wp_call (wp_reopenSession h) fun _ res thread' pool' hres ↦ ?_
  obtain ⟨status, sess'⟩ := res
  cases status with
  | TT_OK => exact hres
  | TT_ERR => exact hres

/-- The window a handle was just allocated as: the latest one, and owned by no live handle. -/
structure Fresh (handles : Handles) (raw : Tlb) (pool : Pool) : Prop where
  window : ∃ window, pool.windows raw.id = some window ∧ window.serial = pool.issued - 1
  latest : ∀ name handle, Live handles name handle → handle.serial < pool.issued - 1

theorem Sound.allocated {id : ℕ} (h : Sound handles fd pool) (hlive : pool.links fd = some .live)
    (hnone : pool.windows id = none) : Sound handles fd (pool.allocated fd id) where
  wellFormed := h.wellFormed.allocated hlive
  single := h.single
  issued name handle hhandle := Nat.lt_succ_of_lt (h.issued name handle hhandle)
  born := h.born
  apart := h.apart
  held name handle hhandle id' window hwindow hserial := by
    by_cases heq : id' = id
    · rw [heq, Pool.allocated_windows_self, Option.some.injEq] at hwindow
      have hlt := h.issued name handle hhandle
      rw [← hserial, ← hwindow] at hlt
      exact absurd hlt (Nat.lt_irrefl _)
    · exact h.held name handle hhandle id' window (Pool.allocated_windows_of_ne heq ▸ hwindow)
        hserial
  current name handle hhandle hbirth hfd := by
    obtain ⟨window, hwindow, hserial⟩ := h.current name handle hhandle hbirth hfd
    have hne : handle.raw.id ≠ id := by
      rintro heq
      rw [heq, hnone] at hwindow
      cases hwindow
    exact ⟨window, (Pool.allocated_windows_of_ne hne).trans hwindow, hserial⟩

theorem wp_allocRaw (h : Stable handles sess.fd pool) (size : Size) (mode : Caching) :
    Procedure.wp Pool.contract (allocRaw size mode sess)
      (fun _ res _ pool' ↦ Stable handles sess.fd pool' ∧
        ∀ raw, res = .TT_OK raw → Fresh handles raw pool') thread pool := by
  unfold allocRaw tlbAlloc
  split
  · simp [h]
  · simp only [Procedure.wp_bind, wp_sys]
    refine ⟨fun _ _ ↦ trivial, fun answer pool' hanswer ↦ ?_⟩
    obtain ⟨middle, hresets, hanswer⟩ := hanswer
    have hmiddle := h.resets hresets
    cases answer with
    | fail err =>
      obtain rfl := hanswer
      simpa using hmiddle
    | ok out residue =>
      obtain ⟨hlive, hnone, rfl⟩ := hanswer
      have hsound := hmiddle.1.allocated hlive hnone
      have hfresh : ∀ idx, Fresh handles { id := out.id, ptr := NULL, len := size.raw, idx := idx }
          (middle.allocated sess.fd out.id) := fun idx ↦
        { window := ⟨_, Pool.allocated_windows_self, rfl⟩
          latest := fun name handle hhandle ↦ hmiddle.1.issued name handle hhandle }
      cases mode with
      | Uncached => simpa [Caching.raw] using ⟨⟨hsound, hmiddle.2⟩, hfresh _⟩
      | WriteCombined =>
        simpa [Caching.raw, TT_TLB_UC, TT_TLB_WC] using ⟨⟨hsound, hmiddle.2⟩, hfresh _⟩

/-- The requests an operation on a handle may make: with `release`, also to free its window. -/
def Targets (fd : ℤ) (id : ℕ) (release : Bool) : Syscall → Prop
  | .mmap _ _ _ | .munmap _ _ => True
  | .configureTlb fd' id' _ => fd' = fd ∧ id' = id
  | .freeTlb fd' id' => fd' = fd ∧ id' = id ∧ release = true
  | _ => False

/-- The invariant in an operation that targets one id: the handles keep their windows, those left
beside the target do not share it, and none of theirs was touched. -/
structure Focused (handles rest : Handles) (fd : ℤ) (id : ℕ) (pool : Pool) : Prop where
  sound : Sound handles fd pool
  alone : Alone rest id pool
  untouched : Untouched rest pool

theorem Focused.reset {rest : Handles} {id : ℕ} (h : Focused handles rest fd id pool)
    (hreset : Pool.Reset pool pool') : Focused handles rest fd id pool' where
  sound := h.sound.reset hreset
  alone := by
    cases hreset with
    | sever => exact fun window hwindow ↦ h.alone window (Pool.release_eq_some.mp hwindow).1
  untouched := by
    cases hreset with
    | sever => exact h.untouched

theorem Focused.freed {rest : Handles} {id : ℕ} {window : Window}
    (h : Focused rest rest fd id pool) (hwindow : pool.windows id = some window) :
    Focused rest rest fd id (pool.freed id window) where
  sound := h.sound.freed h.alone hwindow
  alone window' hwindow' := absurd rfl (Pool.freed_windows_eq_some.mp hwindow').1
  untouched name handle hlive hmem := by
    rcases List.mem_cons.mp hmem with heq | htail
    · exact h.alone window hwindow name handle hlive heq
    · exact h.untouched name handle hlive htail

theorem Focused.configured {rest : Handles} {id : ℕ} {window : Window}
    (h : Focused handles rest fd id pool) (hwindow : pool.windows id = some window)
    (config : NocTlbConfig) : Focused handles rest fd id (pool.configured id window config) where
  sound := h.sound.configured hwindow config
  alone window' hwindow' := by
    obtain ⟨first, hfirst, -, hserial⟩ := Pool.configured_windows_eq_some hwindow hwindow'
    rw [hserial]
    exact h.alone first hfirst
  untouched name handle hlive hmem := by
    rcases List.mem_cons.mp hmem with heq | htail
    · exact h.alone window hwindow name handle hlive heq
    · exact h.untouched name handle hlive htail

/-- An operation on a handle may free the window only when the handle is no longer counted. -/
theorem focused_answers {rest : Handles} {id : ℕ} {release : Bool}
    (hrelease : release = true → handles = rest) (op : Syscall) (pool : Pool) (answer : op.Answer)
    (pool' : Pool) (htargets : Targets fd id release op)
    (h : Focused handles rest fd id pool) (hanswer : Pool.answers op pool answer pool') :
    Focused handles rest fd id pool' := by
  cases op with
  | mmap => exact hanswer ▸ h
  | munmap => exact hanswer ▸ h
  | configureTlb fd' id' config =>
    obtain ⟨rfl, rfl⟩ := htargets
    cases answer with
    | fail err => exact hanswer ▸ h
    | ok value residue =>
      obtain ⟨window, hwindow, -, rfl⟩ := hanswer
      exact h.configured hwindow config
  | freeTlb fd' id' =>
    obtain ⟨rfl, rfl, htrue⟩ := htargets
    obtain rfl := hrelease htrue
    cases answer with
    | fail err => exact hanswer ▸ h
    | ok value residue =>
      obtain ⟨window, hwindow, -, rfl⟩ := hanswer
      exact h.freed hwindow
  | _ => cases htargets

/-- A procedure that only targets one id keeps the invariant, whatever it returns. -/
theorem wp_focused {α : Type} {procedure : C α} {returns : α → Thread → Prop} {rest : Handles}
    {id : ℕ} {release : Bool} (hrelease : release = true → handles = rest)
    (hcalls : Procedure.wp (.only (Targets fd id release)) procedure
      (fun _ value thread' _ ↦ returns value thread') thread ())
    (h : Focused handles rest fd id pool) :
    Procedure.wp Pool.contract procedure
      (fun _ value thread' pool' ↦ returns value thread' ∧ Focused handles rest fd id pool')
      thread pool :=
  Procedure.wp_invariant hcalls (fun _ _ _ _ _ _ ↦ trivial) (fun _ ↦ trivial)
    (Contract.interleaved_invariant (fun _ _ hfocused hreset ↦ hfocused.reset hreset)
      (focused_answers hrelease)) h

theorem tlbFree_targets (sess : Session) (raw : Tlb) :
    Procedure.wp (.only (Targets sess.fd raw.id true)) (tlbFree sess raw)
      (fun _ _ _ _ ↦ True) thread () :=
  keeps_tlbFree (fun _ ↦ keeps_only trivial) (keeps_only ⟨rfl, rfl, rfl⟩) thread () trivial

theorem tlbUnconfigure_targets (raw : Tlb) {release : Bool} :
    Procedure.wp (.only (Targets fd raw.id release)) (tlbUnconfigure raw)
      (fun _ res _ _ ↦ res.2.id = raw.id) thread () := by
  unfold tlbUnconfigure
  simp only [Procedure.wp_bind, wp_getErrno]
  split
  · simp [Targets, Contract.only]
  · simp

theorem tlbBind_targets (sess : Session) (raw : Tlb) (cfg : TlbConfig) :
    Procedure.wp (.only (Targets sess.fd raw.id false)) (tlbBind sess raw cfg)
      (fun _ res _ _ ↦ res.2.id = raw.id) thread () := by
  unfold tlbBind
  split
  · simp
  · simp only [Procedure.wp_bind, wp_sys]
    refine ⟨trivial, fun mapped _ _ ↦ ?_⟩
    cases mapped with
    | fail err => simpa using tlbUnconfigure_targets raw
    | ok ptr residue =>
      simp only [Procedure.wp_bind, wp_sys]
      refine ⟨⟨rfl, rfl⟩, fun answer _ _ ↦ ?_⟩
      cases answer with
      | fail err =>
        simp only [Procedure.wp_bind, wp_sys]
        exact ⟨trivial, fun _ _ _ ↦ by simpa using tlbUnconfigure_targets raw⟩
      | ok value residue' =>
        simp only
        split
        · simp [Targets, Contract.only]
        · simp

theorem Focused.resets {rest : Handles} {id : ℕ} (h : Focused handles rest fd id pool)
    (hresets : Relation.ReflTransGen Pool.Reset pool pool') :
    Focused handles rest fd id pool' := by
  induction hresets with
  | refl => exact h
  | tail _ hlast ih => exact ih.reset hlast

end Operations

/-! ## Both languages -/

section Languages

variable {handles : Handles} {pool pool' : Pool} {sess : Session} {thread : Thread} {name : ℕ}
  {handle : Handle}

theorem toOption_raise {α : Type} (res : Except Errno α) : (raise res).toOption = res.toOption := by
  cases res <;> rfl

/-- Which language allocates makes no difference to the calls made. -/
theorem language_alloc_eq (language : Language) (persist : Bool) (size : Size) (mode : Caching)
    (sess : Session) :
    language.alloc persist size mode sess = Language.rust.alloc persist size mode sess := by
  cases language with
  | rust => rfl
  | python =>
    simp only [Language.alloc, Python.alloc, perform_library_agree, bind_map_left, Prod.map,
      toOption_raise]
    rfl

theorem language_info_eq (language : Language) (persist : Bool) (sess : Session) :
    language.info persist sess = Language.rust.info persist sess := by
  cases language with
  | rust => rfl
  | python =>
    simp only [Language.info, perform_library_agree, bind_map_left, Prod.map]
    rfl

theorem language_reopen_eq (language : Language) (sess : Session) :
    language.reopen sess = Language.rust.reopen sess := by
  cases language with
  | rust => rfl
  | python =>
    simp only [Language.reopen, python_reopen_eq, bind_map_left, Prod.map]
    rfl

theorem wp_languageAlloc (h : Stable handles sess.fd pool) (language : Language) (persist : Bool)
    (size : Size) (mode : Caching) :
    Procedure.wp Pool.contract (language.alloc persist size mode sess)
      (fun _ res _ pool' ↦ Stable handles res.2.fd pool' ∧
        ∀ raw, res.1 = some raw → Fresh handles raw pool') thread pool := by
  rw [language_alloc_eq]
  have hop : ∀ sess thread pool, Stable handles sess.fd pool →
      Procedure.wp Pool.contract (Rust.check (allocRaw size mode sess))
        (fun _ res _ pool' ↦ Stable handles sess.fd pool' ∧
          ∀ raw, res = .ok raw → Fresh handles raw pool') thread pool := by
    intro sess thread pool hstable
    refine wp_check (Procedure.wp_mono (wp_allocRaw hstable size mode) ?_)
    intro _ res _ _ hres
    cases res with
    | TT_OK raw => exact ⟨hres.1, fun raw' heq ↦ hres.2 raw' (by cases heq; rfl)⟩
    | TT_ERR => exact ⟨hres.1, fun _ heq ↦ by cases heq⟩
  refine Procedure.wp_call (wp_perform persist hop (fun _ _ _ ↦ wp_reopen) h) ?_
  intro _ out _ _ hout
  obtain ⟨res, sess'⟩ := out
  cases res with
  | error err => exact ⟨hout.1, fun _ heq ↦ by cases heq⟩
  | ok raw => exact ⟨hout.1, fun raw' heq ↦ hout.2 raw' (by cases heq; rfl)⟩

theorem wp_languageInfo (h : Stable handles sess.fd pool) (language : Language) (persist : Bool) :
    Procedure.wp Pool.contract (language.info persist sess)
      (fun _ sess' _ pool' ↦ Stable handles sess'.fd pool') thread pool := by
  rw [language_info_eq]
  have hop : ∀ sess thread pool, Stable handles sess.fd pool →
      Procedure.wp Pool.contract (Rust.check (devInfo sess))
        (fun _ res _ pool' ↦ Stable handles sess.fd pool' ∧ ∀ info, res = .ok info → True)
        thread pool := by
    intro sess thread pool hstable
    refine wp_check ?_
    unfold devInfo
    split
    · simpa using hstable
    · simp only [Procedure.wp_bind, wp_sys]
      refine ⟨fun _ _ ↦ trivial, fun answer pool' hanswer ↦ ?_⟩
      obtain ⟨middle, hresets, rfl⟩ := hanswer
      cases answer <;> simpa using hstable.resets hresets
  refine Procedure.wp_call (wp_perform persist hop (fun _ _ _ ↦ wp_reopen) h) ?_
  intro _ out _ _ hout
  exact hout.1

theorem wp_languageReopen (h : Stable handles sess.fd pool) (language : Language) :
    Procedure.wp Pool.contract (language.reopen sess)
      (fun _ sess' _ pool' ↦ Stable handles sess'.fd pool') thread pool := by
  rw [language_reopen_eq]
  exact Procedure.wp_call (wp_reopen h) fun _ _ _ _ hres ↦ hres

/-- Binding keeps the identity of the handle. -/
theorem wp_languageBind (language : Language) (cfg : TlbConfig) (husable : language.usable handle)
    (h : Stable handles sess.fd pool) {rest : Handles}
    (hfocused : handle.freed = false → Focused handles rest sess.fd handle.raw.id pool) :
    Procedure.wp Pool.contract (language.bind sess handle cfg)
      (fun _ handle' _ pool' ↦ (∃ raw, handle' = { handle with raw := raw } ∧
        raw.id = handle.raw.id) ∧ Sound handles sess.fd pool' ∧ Untouched rest pool')
      thread pool := by
  have hrun : ∀ thread pool, Focused handles rest sess.fd handle.raw.id pool →
      Procedure.wp Pool.contract (tlbBind sess handle.raw cfg) (fun _ res _ pool' ↦
        res.2.id = handle.raw.id ∧ Focused handles rest sess.fd handle.raw.id pool')
        thread pool := fun thread pool hfocus ↦
    wp_focused (by simp) (tlbBind_targets sess handle.raw cfg) hfocus
  cases language with
  | rust =>
    refine Procedure.wp_call (Procedure.wp_call (hrun thread pool (hfocused (husable rfl)))
      fun _ res _ _ hres ↦ ?_) fun _ out _ _ hout ↦ hout
    obtain ⟨status, raw⟩ := res
    cases status <;>
      exact ⟨⟨raw, rfl, hres.1⟩, hres.2.sound, hres.2.untouched⟩
  | python =>
    by_cases hfreed : handle.freed = true
    · simp only [Language.bind, Python.bind, hfreed, if_true, pure_bind]
      exact ⟨⟨handle.raw, by rw [← hfreed], rfl⟩, h.1, fun _ _ _ ↦ by simp [h.2]⟩
    · rw [Bool.not_eq_true] at hfreed
      have hfocus := hfocused hfreed
      simp only [Language.bind, Python.bind, hfreed, Bool.false_eq_true, if_false,
        Procedure.wp_bind, wp_sys]
      refine ⟨fun _ _ ↦ trivial, fun borrowed pool' hanswer ↦ ?_⟩
      obtain ⟨middle, hresets, rfl⟩ := hanswer
      cases borrowed with
      | false =>
        exact ⟨⟨handle.raw, rfl, rfl⟩, (hfocus.resets hresets).sound,
          (hfocus.resets hresets).untouched⟩
      | true =>
        simp only [if_true]
        refine Procedure.wp_call (hrun _ _ (hfocus.resets hresets)) fun _ res _ _ hres ↦ ?_
        obtain ⟨status, raw⟩ := res
        cases status <;>
          exact ⟨⟨raw, rfl, hres.1⟩, hres.2.sound, hres.2.untouched⟩

/-- A handle that is freed no longer counts. -/
theorem Sound.put_freed (h : Sound (handles.remove name) sess.fd pool) (hfreed : handle.freed = true) :
    Sound (handles.put name handle) sess.fd pool := by
  refine h.weaken fun other handle' hlive ↦ ⟨handle', ⟨?_, hlive.2⟩, rfl, rfl, rfl⟩
  by_cases heq : other = name
  · have hsame : handle = handle' := by simpa [Live, Handles.put, heq] using hlive.1
    exact absurd hlive.2 (by simp [← hsame, hfreed])
  · simpa [Handles.remove, Handles.put, Function.update_of_ne heq] using hlive.1

/-- A handle that kept its identity may replace the one it was. -/
theorem Sound.put (h : Sound handles sess.fd pool) (hhandle : handles name = some handle)
    (raw : Tlb) (hid : raw.id = handle.raw.id) :
    Sound (handles.put name { handle with raw := raw }) sess.fd pool := by
  refine h.weaken fun other handle' hlive ↦ ?_
  by_cases heq : other = name
  · have hsame : { handle with raw := raw } = handle' := by
      simpa [Live, Handles.put, heq] using hlive.1
    subst hsame
    exact ⟨handle, ⟨heq ▸ hhandle, hlive.2⟩, hid.symm, rfl, rfl⟩
  · exact ⟨handle', ⟨by simpa [Handles.put, Function.update_of_ne heq] using hlive.1, hlive.2⟩,
      rfl, rfl, rfl⟩

/-- Freeing leaves the handle freed, or as it was when its session could not be borrowed. -/
theorem wp_languageFree (language : Language) (husable : language.usable handle)
    (h : Stable handles sess.fd pool) (hhandle : handles name = some handle)
    (halone : handle.freed = false → Alone (handles.remove name) handle.raw.id pool) :
    Procedure.wp Pool.contract (language.free sess handle)
      (fun _ handle' _ pool' ↦ Sound (handles.put name handle') sess.fd pool' ∧
        Untouched (handles.remove name) pool') thread pool := by
  have hfocused : handle.freed = false →
      Focused (handles.remove name) (handles.remove name) sess.fd handle.raw.id pool :=
    fun hfreed ↦
      { sound := h.1.remove name
        alone := halone hfreed
        untouched := fun _ _ _ ↦ by simp [h.2] }
  have hrun : ∀ thread pool,
      Focused (handles.remove name) (handles.remove name) sess.fd handle.raw.id pool →
      Procedure.wp Pool.contract (tlbFree sess handle.raw) (fun _ _ _ pool' ↦
        True ∧ Focused (handles.remove name) (handles.remove name) sess.fd handle.raw.id pool')
        thread pool := fun thread pool hfocus ↦
    wp_focused (fun _ ↦ rfl) (tlbFree_targets sess handle.raw) hfocus
  cases language with
  | rust =>
    refine Procedure.wp_call (Procedure.wp_call (hrun thread pool (hfocused (husable rfl)))
      fun _ res _ _ hres ↦ ?_) fun _ out _ _ hout ↦ hout
    obtain ⟨status, raw⟩ := res
    cases status <;> exact ⟨hres.2.sound.put_freed rfl, hres.2.untouched⟩
  | python =>
    by_cases hfreed : handle.freed = true
    · simp only [Language.free, Python.free, hfreed, if_true, pure_bind]
      exact ⟨(h.1.remove name).put_freed rfl, fun _ _ _ ↦ by simp [h.2]⟩
    · rw [Bool.not_eq_true] at hfreed
      simp only [Language.free, Python.free, hfreed, Bool.false_eq_true, if_false,
        Procedure.wp_bind, wp_sys]
      refine ⟨fun _ _ ↦ trivial, fun borrowed pool' hanswer ↦ ?_⟩
      obtain ⟨middle, hresets, rfl⟩ := hanswer
      have hfocus := (hfocused hfreed).resets hresets
      cases borrowed with
      | false =>
        refine ⟨?_, hfocus.untouched⟩
        have hput := (h.resets hresets).1.put hhandle handle.raw rfl
        rwa [← hfreed]
      | true =>
        simp only [if_true]
        refine Procedure.wp_call (hrun _ _ hfocus) fun _ res _ _ hres ↦ ?_
        obtain ⟨status, raw⟩ := res
        cases status <;> exact ⟨hres.2.sound.put_freed rfl, hres.2.untouched⟩

end Languages

/-! ## Runs -/

theorem Sound.begin {s : State} (h : Sound s.handles s.sess.fd s.pool) :
    Stable s.handles s.sess.fd s.begin :=
  ⟨{ h with wellFormed := { h.wellFormed with } }, rfl⟩

theorem Starts.sound {s : State} (h : Starts s) : Sound s.handles s.sess.fd s.pool where
  wellFormed :=
    { natural := fun fd hfd ↦ (h.links fd).mp hfd ▸ h.natural
      owned := fun id window hwindow ↦ by simp [h.windows] at hwindow
      numbered := fun id window hwindow ↦ by simp [h.windows] at hwindow
      distinct := fun id _ window _ hwindow ↦ by simp [h.windows] at hwindow }
  single fd hfd := (h.links fd).mp (by simp [hfd])
  issued name handle hlive := by simp [Live, h.handles] at hlive
  born name handle hlive := by simp [Live, h.handles] at hlive
  apart name _ handle _ hlive := by simp [Live, h.handles] at hlive
  held name handle hlive := by simp [Live, h.handles] at hlive
  current name handle hlive := by simp [Live, h.handles] at hlive

/-- A handle allocated as a fresh window joins the others. -/
theorem Sound.put_fresh {handles : Handles} {fd : ℤ} {pool : Pool} {raw : Tlb} (name : ℕ)
    (h : Sound handles fd pool) (hfresh : Fresh handles raw pool) :
    Sound (handles.put name
      { raw := raw, freed := false, birth := pool.opens, serial := pool.issued - 1 }) fd pool := by
  obtain ⟨fresh, hwindow, hserial⟩ := hfresh.window
  have hnumbered := h.wellFormed.numbered raw.id fresh hwindow
  have hcases : ∀ {other handle}, Live (handles.put name
      { raw := raw, freed := false, birth := pool.opens, serial := pool.issued - 1 }) other handle →
      other = name ∧ handle =
        { raw := raw, freed := false, birth := pool.opens, serial := pool.issued - 1 } ∨
      other ≠ name ∧ Live handles other handle := by
    intro other handle hlive
    by_cases heq : other = name
    · exact .inl ⟨heq, by simpa [Live, Handles.put, heq, eq_comm] using hlive.1⟩
    · exact .inr ⟨heq, by simpa [Handles.put, Function.update_of_ne heq] using hlive.1, hlive.2⟩
  exact
    { wellFormed := h.wellFormed
      single := h.single
      issued := fun other handle hlive ↦ by
        rcases hcases hlive with ⟨-, rfl⟩ | ⟨-, hold⟩
        · exact hserial ▸ hnumbered
        · exact h.issued other handle hold
      born := fun other handle hlive ↦ by
        rcases hcases hlive with ⟨-, rfl⟩ | ⟨-, hold⟩
        · exact Nat.le_refl _
        · exact h.born other handle hold
      apart := fun other other' handle handle' hlive hlive' heq ↦ by
        rcases hcases hlive with ⟨hname, rfl⟩ | ⟨-, hold⟩ <;>
          rcases hcases hlive' with ⟨hname', rfl⟩ | ⟨-, hold'⟩
        · rw [hname, hname']
        · exact absurd heq.symm (Nat.ne_of_lt (hfresh.latest other' handle' hold'))
        · exact absurd heq (Nat.ne_of_lt (hfresh.latest other handle hold))
        · exact h.apart other other' handle handle' hold hold' heq
      held := fun other handle hlive id window hwindow' hserial' ↦ by
        rcases hcases hlive with ⟨-, rfl⟩ | ⟨-, hold⟩
        · exact ⟨h.wellFormed.distinct id raw.id window fresh hwindow' hwindow
            (hserial'.trans hserial.symm), rfl⟩
        · exact h.held other handle hold id window hwindow' hserial'
      current := fun other handle hlive hbirth hfd ↦ by
        rcases hcases hlive with ⟨-, rfl⟩ | ⟨-, hold⟩
        · exact ⟨fresh, hwindow, hserial⟩
        · exact h.current other handle hold hbirth hfd }

/-- What the step of a run keeps: the invariant, and the windows of all handles but its target. -/
theorem moves_sound {language : Language} {persist : Bool} {s s' : State} {label : Label}
    (h : Sound s.handles s.sess.fd s.pool) (hcareful : Careful s label)
    (hmove : Moves language persist s label s') :
    Sound s'.handles s'.sess.fd s'.pool ∧
      ∀ name handle, label.target ≠ some name → Live s.handles name handle →
        handle.serial ∉ s'.pool.touched := by
  have hnone : ∀ {fd pool}, Stable s.handles fd pool →
      ∀ name handle, label.target ≠ some name → Live s.handles name handle →
        handle.serial ∉ pool.touched := fun hstable _ _ _ _ ↦ by simp [hstable.2]
  have halone : ∀ {name handle}, label.target = some name → s.handles name = some handle →
      handle.freed = false → Alone (s.handles.remove name) handle.raw.id s.begin :=
    fun htarget hhandle hfreed ↦
      h.alone ⟨hhandle, hfreed⟩ (hcareful _ _ htarget hhandle hfreed)
  have hrest : ∀ {target pool}, label.target = some target →
      Untouched (s.handles.remove target) pool →
      ∀ name handle, label.target ≠ some name → Live s.handles name handle →
        handle.serial ∉ pool.touched := by
    intro target pool htarget huntouched name handle hother hlive
    have hne : name ≠ target := fun heq ↦ hother (heq ▸ htarget)
    exact huntouched name handle
      ⟨by simpa [Handles.remove, Function.update_of_ne hne] using hlive.1, hlive.2⟩
  cases hmove with
  | reset hreset =>
    have hstable : Stable s.handles s.sess.fd _ := h.begin.resets (.single hreset)
    exact ⟨hstable.1, hnone hstable⟩
  | alloc hfree hrun =>
    have hout := hrun.ensures (wp_languageAlloc h.begin language persist _ _)
    exact ⟨hout.1.1.put_fresh _ (hout.2 _ rfl), hnone hout.1⟩
  | allocFailed hrun =>
    have hout := hrun.ensures (wp_languageAlloc h.begin language persist _ _)
    exact ⟨hout.1.1, hnone hout.1⟩
  | info hrun =>
    have hout := hrun.ensures (wp_languageInfo h.begin language persist)
    exact ⟨hout.1, hnone hout⟩
  | reopen hrun =>
    have hout := hrun.ensures (wp_languageReopen h.begin language)
    exact ⟨hout.1, hnone hout⟩
  | bind hhandle husable hrun =>
    have hfocused := fun hfreed ↦
      Focused.mk h.begin.1 (halone rfl hhandle hfreed) fun _ _ _ ↦ by simp [h.begin.2]
    have hout := hrun.ensures (wp_languageBind language _ husable h.begin hfocused)
    obtain ⟨⟨raw, rfl, hid⟩, hsound, huntouched⟩ := hout
    exact ⟨hsound.put hhandle raw hid, hrest rfl huntouched⟩
  | free hhandle husable hrun =>
    have hout := hrun.ensures (wp_languageFree language husable h.begin hhandle (halone rfl hhandle))
    exact ⟨hout.1, hrest rfl hout.2⟩
  | @drop name _ _ _ _ _ hhandle husable hrun =>
    have hout := hrun.ensures (wp_languageFree language husable h.begin hhandle (halone rfl hhandle))
    have hremove := hout.1.remove name
    rw [Handles.remove_put] at hremove
    exact ⟨hremove, hrest rfl hout.2⟩

/-- The invariant of a state. -/
def Consistent (s : State) : Prop := Sound s.handles s.sess.fd s.pool

theorem careful_run_consistent {language : Language} {persist : Bool} {s : State}
    (hrun : (system language persist).Reaches Careful s) : Consistent s := by
  have hstart : ∀ s, (system language persist).starts s → Consistent s := fun s ↦ Starts.sound
  have hmove : ∀ s label s', Consistent s → Careful s label →
      (system language persist).moves s label s' → Consistent s' :=
    fun _ _ _ hsound hcareful hstep ↦ (moves_sound hsound hcareful hstep).1
  exact hrun.invariant hstart hmove

/-- In every run whose operations are all on current handles, no operation frees or configures
the window of a live handle other than its target. -/
theorem careful_run_isolates (language : Language) (persist : Bool) {s s' : State} {label : Label}
    (hrun : (system language persist).Reaches Careful s) (hcareful : Careful s label)
    (hmove : Moves language persist s label s') (name : ℕ) (handle : Handle)
    (hother : label.target ≠ some name) (hlive : Live s.handles name handle) :
    handle.serial ∉ s'.pool.touched :=
  (moves_sound (careful_run_consistent hrun) hcareful hmove).2 name handle hother hlive

/-! ## A run that frees the window of another handle -/

/-- A session just opened on descriptor three. -/
def justOpened : State where
  pool :=
    { links := fun fd ↦ if fd = 3 then some .live else none
      windows := fun _ ↦ none
      issued := 0
      opens := 1
      touched := [] }
  thread := Thread.initial
  sess := { dev := { id := 0 }, fd := 3, flags := 0 }
  handles := fun _ ↦ none

theorem justOpened_starts : Starts justOpened where
  handles := rfl
  windows := rfl
  links fd := by simp [justOpened]
  natural := by decide

/-- The state after the driver granted a window to a new handle. -/
def State.granted (s : State) (name id : ℕ) : State where
  pool := s.begin.allocated s.sess.fd id
  thread := { s.thread with errno := .other 0 }
  sess := s.sess
  handles := s.handles.put name
    { raw := { id := id, ptr := NULL, len := 2 ^ 21, idx := 0 }
      freed := false
      birth := s.pool.opens
      serial := s.pool.issued }

/-- The state after the session was reopened on the same descriptor number. -/
def State.reopened (s : State) : State where
  pool := (s.begin.closed 3).opened 3
  thread := { s.thread with errno := .other 0 }
  sess := s.sess
  handles := s.handles

/-- The handle of id zero allocated on descriptor three. -/
def firstHandle (birth serial : ℕ) : Handle where
  raw := { id := 0, ptr := NULL, len := 2 ^ 21, idx := 0 }
  freed := false
  birth := birth
  serial := serial

/-- The driver grants a window whose id is free, whether or not a handle had it before. -/
theorem granted_moves {language : Language} {s : State} (name id : ℕ)
    (hsess : s.sess = justOpened.sess) (hlive : s.pool.links 3 = some .live)
    (hid : s.pool.windows id = none) (hname : s.handles name = none) :
    Moves language false s (.alloc name .Mb2 .Uncached) (s.granted name id) := by
  have hanswer : Pool.contract.answers (.allocateTlb 3 (2 ^ 21)) s.begin
      (.ok ⟨id, 0, 0⟩ (.other 0)) (s.begin.allocated 3 id) := ⟨_, .refl, hlive, hid, rfl⟩
  have hrun : Procedure.Executes Pool.contract
      (language.alloc false .Mb2 .Uncached justOpened.sess) s.thread s.begin
      [⟨.allocateTlb 3 (2 ^ 21), .ok ⟨id, 0, 0⟩ (.other 0)⟩]
      (some { id := id, ptr := NULL, len := 2 ^ 21, idx := 0 }, justOpened.sess)
      { s.thread with errno := .other 0 } (s.begin.allocated 3 id) := by
    rw [language_alloc_eq]
    exact .call hanswer .done
  obtain ⟨pool, thread, sess, handles⟩ := s
  obtain rfl : sess = justOpened.sess := hsess
  exact Moves.alloc hname hrun

theorem granted_reopened (language : Language) :
    Moves language false (justOpened.granted 0 0) .reopen (justOpened.granted 0 0).reopened := by
  have hrun : Procedure.Executes Pool.contract (language.reopen (justOpened.granted 0 0).sess)
      Thread.initial (justOpened.granted 0 0).begin
      [⟨.close 3, .ok () (.other 0)⟩,
        ⟨.openFile (devicePath { id := 0 }) (openFlags 0), .ok 3 (.other 0)⟩]
      justOpened.sess Thread.initial (justOpened.granted 0 0).reopened.pool := by
    have hclose : Pool.contract.answers (.close 3) (justOpened.granted 0 0).begin
        (.ok () (.other 0)) ((justOpened.granted 0 0).begin.closed 3) := ⟨_, .refl, rfl⟩
    have hopen : Pool.contract.answers (.openFile (devicePath { id := 0 }) (openFlags 0))
        ((justOpened.granted 0 0).begin.closed 3) (.ok 3 (.other 0))
        (justOpened.granted 0 0).reopened.pool := ⟨_, .refl, rfl, rfl⟩
    rw [language_reopen_eq]
    exact Procedure.executes_bind.mpr ⟨_, [], _, _, _, rfl, Procedure.executes_bind.mpr
      ⟨_, [], _, _, _, rfl, executes_reopenSession justOpened.sess (by decide) (by decide) hclose
        hopen, .done⟩, .done⟩
  exact Moves.reopen hrun

/-- Freeing a handle of id zero frees whatever window has that id. -/
theorem moves_free (language : Language) (s : State) (window : Window) (birth serial : ℕ)
    (hsess : s.sess = justOpened.sess) (hthread : s.thread = Thread.initial)
    (hhandle : s.handles 0 = some (firstHandle birth serial))
    (hwindow : s.begin.windows 0 = some window) (howner : window.owner = 3) :
    ∃ s', Moves language false s (.free 0) s' ∧ s'.pool.touched = [window.serial] := by
  have hanswer : Pool.contract.answers (.freeTlb 3 0) s.begin (.ok () (.other 0))
      (s.begin.freed 0 window) := ⟨_, .refl, window, hwindow, howner, rfl⟩
  obtain ⟨trace, handle', hrun⟩ : ∃ trace handle',
      Procedure.Executes Pool.contract (language.free justOpened.sess (firstHandle birth serial))
        Thread.initial s.begin trace handle' Thread.initial (s.begin.freed 0 window) := by
    cases language with
    | rust => exact ⟨_, _, .call hanswer .done⟩
    | python =>
      have hborrow : Pool.contract.answers .tryBorrow s.begin true s.begin := ⟨_, .refl, rfl⟩
      exact ⟨_, _, .call hborrow (.call hanswer .done)⟩
  refine ⟨_, Moves.free hhandle (fun _ ↦ rfl) (hsess ▸ hthread ▸ hrun), rfl⟩

/-- A move leaves the windows of all live handles but its target alone, in every run. -/
def Isolates (language : Language) (persist : Bool) : Prop :=
  ∀ s s' label, (system language persist).Reachable s → Moves language persist s label s' →
    ∀ name handle, label.target ≠ some name → Live s.handles name handle →
      handle.serial ∉ s'.pool.touched

/-- A handle from before a reopen frees the window of a handle allocated after it. -/
theorem stale_free_touches_other (language : Language) : ¬ Isolates language false := by
  intro hisolates
  have hfirst : (system language false).Reachable justOpened := .start justOpened_starts
  have hsecond := hfirst.move trivial (granted_moves 0 0 rfl rfl rfl rfl)
  have hthird := hsecond.move trivial (granted_reopened language)
  have hreach := hthird.move trivial (granted_moves 1 0 rfl rfl rfl rfl)
  obtain ⟨s', hmove, htouched⟩ := moves_free language
    ((justOpened.granted 0 0).reopened.granted 1 0)
    { owner := 3, serial := 1, config := none } 1 0 rfl rfl rfl rfl rfl
  have hlive : Live ((justOpened.granted 0 0).reopened.granted 1 0).handles 1 (firstHandle 2 1) :=
    ⟨rfl, rfl⟩
  have hsafe := hisolates _ s' (.free 0) hreach hmove 1 (firstHandle 2 1) (by simp [Label.target])
    hlive
  rw [htouched] at hsafe
  exact hsafe (by simp [firstHandle])

theorem isolates_fails : ¬ Isolates .rust false ∧ ¬ Isolates .python false :=
  ⟨stale_free_touches_other .rust, stale_free_touches_other .python⟩

/-- Of two handles of one descriptor, freeing the first leaves the window of the second alone. -/
theorem careful_free_isolates :
    ∃ s', Moves .rust false ((justOpened.granted 0 0).granted 1 1) (.free 0) s' ∧
      s'.pool.touched = [0] ∧ 1 ∉ s'.pool.touched := by
  obtain ⟨s', hmove, htouched⟩ := moves_free .rust ((justOpened.granted 0 0).granted 1 1)
    { owner := 3, serial := 0, config := none } 1 0 rfl rfl rfl rfl rfl
  have hfirst : (system .rust false).Reaches Careful justOpened := .start justOpened_starts
  have hsecond := hfirst.move (by simp [Careful, Label.target]) (granted_moves 0 0 rfl rfl rfl rfl)
  have hreach := hsecond.move (by simp [Careful, Label.target]) (granted_moves 1 1 rfl rfl rfl rfl)
  have hcareful : Careful ((justOpened.granted 0 0).granted 1 1) (.free 0) := by
    intro name handle htarget hhandle _ _
    obtain rfl : 0 = name := by simpa [Label.target] using htarget
    have hsame : firstHandle 1 0 = handle := Option.some.inj hhandle
    exact .inl (hsame ▸ rfl)
  have hlive : Live ((justOpened.granted 0 0).granted 1 1).handles 1
      { firstHandle 1 1 with raw := { id := 1, ptr := NULL, len := 2 ^ 21, idx := 0 } } := ⟨rfl, rfl⟩
  exact ⟨s', hmove, htouched, careful_run_isolates .rust false hreach hcareful hmove 1 _
    (by simp [Label.target]) hlive⟩

end TtDal.Safety.WindowOwnership
