import TtDal.Effect.Ledger
import TtDal.Platform.Thread
import Mathlib.Data.Set.BooleanAlgebra
import Mathlib.Order.CompletePartialOrder

/-!
# What the library holds

The ledger of the system interface. The kernel hands out descriptors, directory streams, windows
and mappings. Closing gives a descriptor or a stream back, whatever it reports, and the windows of
a descriptor go with it. Otherwise a window is given back by FREE_TLB and a mapping by `munmap`,
where these succeed. What they refuse to take back is still held, and is stuck. Everything else
the library asks for uses what it holds.
-/

namespace TtDal.Driver

open Effect Platform

inductive Resource where
  | descriptor (fd : ℤ)
  | directory (dir : ℤ)
  | window (fd : ℤ) (id : ℕ)
  | mapping (start len : ℕ)
  deriving DecidableEq, Repr

/-- A descriptor with the windows that were allocated on it. -/
def under (fd : ℤ) : Set Resource :=
  insert (.descriptor fd) (Set.range (.window fd))

def windows : Set Resource :=
  {resource | ∃ fd id, resource = .window fd id}

namespace Holdings

/-- What is held, and what of it the system refused to take back. -/
structure Account where
  held : Set Resource
  stuck : Set Resource

/-- What a system call is about. -/
def uses : Syscall → Set Resource
  | .close fd | .read fd _ | .pread fd _ _ | .mmap _ fd _ | .getDeviceInfo fd | .getDriverInfo fd
  | .allocateTlb fd _ | .setPowerState fd _ | .smcMsg fd _ | .resetDevice fd _ => {.descriptor fd}
  | .freeTlb fd id | .configureTlb fd id _ => {.descriptor fd, .window fd id}
  | .readdir dir | .closedir dir => {.directory dir}
  | .munmap addr len => {.mapping addr len}
  | .load guard _ => {.mapping guard.ptr guard.len}
  | .openFile _ _ | .access _ | .realpath _ | .opendir _ | .clockGettime | .usleep _ | .nanosleep _
  | .sigaction | .indeterminate | .tryBorrow => ∅

/-- A read is made inside the guarded range. -/
def Inside : Syscall → Prop
  | .load guard addr => guard.ptr ≤ addr ∧ addr + 4 ≤ guard.ptr + guard.len
  | _ => True

def releases : (op : Syscall) → op.Answer → Set Resource
  | .close fd, _ => under fd
  | .closedir dir, _ => {.directory dir}
  | .freeTlb fd id, .ok _ _ => {.window fd id}
  | .munmap addr len, .ok _ _ => {.mapping addr len}
  | _, _ => ∅

/-- A mapping that stays in place may be that of any window. -/
def refusals (held : Set Resource) : (op : Syscall) → op.Answer → Set Resource
  | .freeTlb fd id, .fail _ => {.window fd id}
  | .munmap addr len, .fail _ => insert (.mapping addr len) (held ∩ windows)
  | _, _ => ∅

def gains : (op : Syscall) → op.Answer → Set Resource
  | .openFile _ _, .ok fd _ => {.descriptor fd}
  | .opendir _, .ok dir _ => {.directory dir}
  | .allocateTlb fd _, .ok out _ => {.window fd out.id}
  | .mmap len _ _, .ok start _ => {.mapping start len}
  | _, _ => ∅

/-- What is handed out is not held, and a mapping is not put at address zero. -/
def genuine (held : Set Resource) : (op : Syscall) → op.Answer → Prop
  | .openFile _ _, .ok fd _ => Disjoint held (under fd)
  | .opendir _, .ok dir _ => .directory dir ∉ held
  | .allocateTlb fd _, .ok out _ => .window fd out.id ∉ held
  | .mmap len _ _, .ok start _ => start ≠ NULL ∧ .mapping start len ∉ held
  | _, _ => True

def ledger : Ledger Sys Account where
  covers account op := uses op ⊆ account.held ∧ Inside op
  genuine account event := genuine account.held event.op event.answer
  after account event :=
    { held := (account.held \ releases event.op event.answer) ∪ gains event.op event.answer
      stuck := (account.stuck \ releases event.op event.answer) ∪
        refusals account.held event.op event.answer }

/-- Nothing is handed out or given back by the call. -/
def Quiet : Syscall → Prop
  | .openFile _ _ | .close _ | .opendir _ | .closedir _ | .mmap _ _ _ | .munmap _ _
  | .allocateTlb _ _ | .freeTlb _ _ => False
  | _ => True

/-- FREE_TLB or `munmap` failed. -/
def Refused : Event Sys → Prop
  | ⟨.freeTlb _ _, .fail _⟩ | ⟨.munmap _ _, .fail _⟩ => True
  | _ => False

/-- This is held, and beside it only what the system refused to take back. -/
structure Accounted (held : Set Resource) (account : Account) : Prop where
  kept : held ⊆ account.held
  rest : account.held ⊆ held ∪ account.stuck

section Accounts

variable {held : Set Resource} {account : Account}

/-- What is stuck can be left out of the account. -/
theorem Accounted.forget {lost : Set Resource} (h : Accounted held account)
    (hlost : lost ⊆ account.stuck) : Accounted (held \ lost) account := by
  refine ⟨Set.sdiff_subset.trans h.kept, fun resource hmem ↦ ?_⟩
  by_cases hstuck : resource ∈ lost
  · exact Or.inr (hlost hstuck)
  · exact (h.rest hmem).imp_left fun hheld ↦ ⟨hheld, hstuck⟩

theorem Accounted.after (h : Accounted held account) (event : Event Sys) :
    Accounted ((held \ releases event.op event.answer) ∪ gains event.op event.answer)
      (ledger.after account event) := by
  refine ⟨Set.union_subset_union_left _ (Set.sdiff_subset_sdiff_left h.kept), ?_⟩
  rintro resource (⟨hmem, hreleased⟩ | hgained)
  · rcases h.rest hmem with hheld | hstuck
    · exact Or.inl (Or.inl ⟨hheld, hreleased⟩)
    · exact Or.inr (Or.inl ⟨hstuck, hreleased⟩)
  · exact Or.inl (Or.inr hgained)

theorem Accounted.gained {op : Syscall} {answer : op.Answer} {resource : Resource}
    (h : Accounted held account) (hreleases : releases op answer = ∅)
    (hgains : gains op answer = {resource}) :
    Accounted (insert resource held) (ledger.after account ⟨op, answer⟩) := by
  have hafter := h.after ⟨op, answer⟩
  rw [hreleases, hgains, Set.sdiff_empty, Set.union_singleton] at hafter
  exact hafter

theorem Accounted.idle {op : Syscall} {answer : op.Answer} (h : Accounted held account)
    (hreleases : releases op answer = ∅) (hgains : gains op answer = ∅) :
    Accounted held (ledger.after account ⟨op, answer⟩) := by
  have hafter := h.after ⟨op, answer⟩
  rw [hreleases, hgains, Set.sdiff_empty, Set.union_empty] at hafter
  exact hafter

theorem Accounted.released {op : Syscall} {answer : op.Answer} {gone : Set Resource}
    (h : Accounted held account) (hreleases : releases op answer = gone)
    (hgains : gains op answer = ∅) :
    Accounted (held \ gone) (ledger.after account ⟨op, answer⟩) := by
  have hafter := h.after ⟨op, answer⟩
  rw [hreleases, hgains, Set.union_empty] at hafter
  exact hafter

end Accounts

/-! ## Symbolic execution -/

section Rules

variable {held : Set Resource} {account : Account} {thread : Thread} {fd : ℤ}

theorem keeps_quiet {op : Syscall} (hquiet : Quiet op) (huses : uses op ⊆ held)
    (hinside : Inside op) : Procedure.Keeps ledger.contract (Accounted held) (sys op) := by
  refine keeps_sys op (fun account h ↦ ⟨huses.trans h.kept, hinside⟩) ?_
  rintro account answer _ h ⟨-, rfl⟩
  apply h.idle
  · cases op <;> first | rfl | exact hquiet.elim
  · cases op <;> first | rfl | exact hquiet.elim

/-- A call that is covered gives a genuine answer. -/
theorem wp_covered {op : Syscall} {post : Procedure.Post Sys op.Answer Thread Account}
    (h : Accounted held account) (huses : uses op ⊆ held) (hinside : Inside op)
    (hanswer : ∀ answer, genuine account.held op answer → post [⟨op, answer⟩] answer
      { thread with errno := op.errnoAfter answer thread.errno }
      (ledger.after account ⟨op, answer⟩)) :
    @Procedure.wp Sys Account Thread (no_index op.Answer) ledger.contract (sys op) post
      thread account := by
  rw [wp_sys]
  refine ⟨⟨huses.trans h.kept, hinside⟩, fun answer account' hstep ↦ ?_⟩
  obtain ⟨hgenuine, rfl⟩ := hstep
  exact hanswer answer hgenuine

theorem wp_openFile {path : String} {flags : OpenFlags}
    {post : Procedure.Post Sys (Reply ℕ) Thread Account} (h : Accounted held account)
    (hok : ∀ (opened : ℕ) residue account', Disjoint held (under opened) →
      Accounted (insert (.descriptor opened) held) account' →
      post [⟨.openFile path flags, .ok opened residue⟩] (.ok opened residue)
        { thread with errno := residue } account')
    (hfail : ∀ err account', Accounted held account' →
      post [⟨.openFile path flags, .fail err⟩] (.fail err) { thread with errno := err } account') :
    Procedure.wp ledger.contract (sys (.openFile path flags)) post thread account := by
  refine wp_covered h (Set.empty_subset held) trivial fun reply hgenuine ↦ ?_
  cases reply with
  | ok opened residue => exact hok opened residue _ (hgenuine.mono_left h.kept) (h.gained rfl rfl)
  | fail err => exact hfail err _ (h.idle rfl rfl)

theorem wp_opendir {path : String} {post : Procedure.Post Sys (Reply ℕ) Thread Account}
    (h : Accounted held account)
    (hok : ∀ (dir : ℕ) residue account', .directory dir ∉ held →
      Accounted (insert (.directory dir) held) account' →
      post [⟨.opendir path, .ok dir residue⟩] (.ok dir residue)
        { thread with errno := residue } account')
    (hfail : ∀ err account', Accounted held account' →
      post [⟨.opendir path, .fail err⟩] (.fail err) { thread with errno := err } account') :
    Procedure.wp ledger.contract (sys (.opendir path)) post thread account := by
  refine wp_covered h (Set.empty_subset held) trivial fun reply hgenuine ↦ ?_
  cases reply with
  | ok dir residue => exact hok dir residue _ (fun hmem ↦ hgenuine (h.kept hmem)) (h.gained rfl rfl)
  | fail err => exact hfail err _ (h.idle rfl rfl)

theorem wp_mmap {len offset : ℕ} {post : Procedure.Post Sys (Reply ℕ) Thread Account}
    (h : Accounted held account) (hfd : .descriptor fd ∈ held)
    (hok : ∀ (start : ℕ) residue account', start ≠ NULL → .mapping start len ∉ held →
      Accounted (insert (.mapping start len) held) account' →
      post [⟨.mmap len fd offset, .ok start residue⟩] (.ok start residue)
        { thread with errno := residue } account')
    (hfail : ∀ err account', Accounted held account' →
      post [⟨.mmap len fd offset, .fail err⟩] (.fail err) { thread with errno := err } account') :
    Procedure.wp ledger.contract (sys (.mmap len fd offset)) post thread account := by
  refine wp_covered h (Set.singleton_subset_iff.mpr hfd) trivial fun reply hgenuine ↦ ?_
  cases reply with
  | ok start residue =>
    exact hok start residue _ hgenuine.1 (fun hmem ↦ hgenuine.2 (h.kept hmem)) (h.gained rfl rfl)
  | fail err => exact hfail err _ (h.idle rfl rfl)

theorem wp_allocateTlb {size : ℕ}
    {post : Procedure.Post Sys (Reply AllocateTlbOut) Thread Account}
    (h : Accounted held account) (hfd : .descriptor fd ∈ held)
    (hok : ∀ out residue account', .window fd out.id ∉ held →
      Accounted (insert (.window fd out.id) held) account' →
      post [⟨.allocateTlb fd size, .ok out residue⟩] (.ok out residue)
        { thread with errno := residue } account')
    (hfail : ∀ err account', Accounted held account' →
      post [⟨.allocateTlb fd size, .fail err⟩] (.fail err) { thread with errno := err } account') :
    Procedure.wp ledger.contract (sys (.allocateTlb fd size)) post thread account := by
  refine wp_covered h (Set.singleton_subset_iff.mpr hfd) trivial fun reply hgenuine ↦ ?_
  cases reply with
  | ok out residue => exact hok out residue _ (fun hmem ↦ hgenuine (h.kept hmem)) (h.gained rfl rfl)
  | fail err => exact hfail err _ (h.idle rfl rfl)

theorem wp_close {post : Procedure.Post Sys (Reply Unit) Thread Account}
    (h : Accounted held account) (hfd : .descriptor fd ∈ held)
    (hreply : ∀ (reply : Reply Unit) account', Accounted (held \ under fd) account' →
      post [⟨.close fd, reply⟩] reply { thread with errno := reply.errno } account') :
    Procedure.wp ledger.contract (sys (.close fd)) post thread account :=
  wp_covered h (Set.singleton_subset_iff.mpr hfd) trivial fun reply _ ↦
    hreply reply _ (h.released rfl rfl)

theorem wp_closedir {dir : ℤ} {post : Procedure.Post Sys (Reply Unit) Thread Account}
    (h : Accounted held account) (hdir : .directory dir ∈ held)
    (hreply : ∀ (reply : Reply Unit) account', Accounted (held \ {.directory dir}) account' →
      post [⟨.closedir dir, reply⟩] reply { thread with errno := reply.errno } account') :
    Procedure.wp ledger.contract (sys (.closedir dir)) post thread account :=
  wp_covered h (Set.singleton_subset_iff.mpr hdir) trivial fun reply _ ↦
    hreply reply _ (h.released rfl rfl)

/-- A window that is not taken back is still held. -/
theorem wp_freeTlb {id : ℕ} {post : Procedure.Post Sys (Reply Unit) Thread Account}
    (h : Accounted held account) (hfd : .descriptor fd ∈ held) (hwindow : .window fd id ∈ held)
    (hok : ∀ residue account', Accounted (held \ {.window fd id}) account' →
      post [⟨.freeTlb fd id, .ok () residue⟩] (.ok () residue)
        { thread with errno := residue } account')
    (hfail : ∀ err account', Accounted held account' → .window fd id ∈ account'.stuck →
      post [⟨.freeTlb fd id, .fail err⟩] (.fail err) { thread with errno := err } account') :
    Procedure.wp ledger.contract (sys (.freeTlb fd id)) post thread account := by
  have huses : uses (.freeTlb fd id) ⊆ held :=
    Set.insert_subset hfd (Set.singleton_subset_iff.mpr hwindow)
  refine wp_covered h huses trivial fun reply _ ↦ ?_
  cases reply with
  | ok value residue => exact hok residue _ (h.released rfl rfl)
  | fail err => exact hfail err _ (h.idle rfl rfl) (Or.inr rfl)

theorem wp_munmap {addr len : ℕ} {post : Procedure.Post Sys (Reply Unit) Thread Account}
    (h : Accounted held account) (hmapped : .mapping addr len ∈ held)
    (hok : ∀ residue account', Accounted (held \ {.mapping addr len}) account' →
      post [⟨.munmap addr len, .ok () residue⟩] (.ok () residue)
        { thread with errno := residue } account')
    (hfail : ∀ err account', Accounted held account' →
      insert (.mapping addr len) (held ∩ windows) ⊆ account'.stuck →
      post [⟨.munmap addr len, .fail err⟩] (.fail err) { thread with errno := err } account') :
    Procedure.wp ledger.contract (sys (.munmap addr len)) post thread account := by
  refine wp_covered h (Set.singleton_subset_iff.mpr hmapped) trivial fun reply _ ↦ ?_
  cases reply with
  | ok value residue => exact hok residue _ (h.released rfl rfl)
  | fail err =>
    have hrefused : insert (.mapping addr len) (held ∩ windows) ⊆
        refusals account.held (.munmap addr len) (.fail err) :=
      Set.insert_subset_insert (Set.inter_subset_inter_left _ h.kept)
    exact hfail err _ (h.idle rfl rfl) (hrefused.trans Set.subset_union_right)

/-- An `munmap` whose answer is not looked at. -/
theorem wp_unmapped {addr len : ℕ} {post : Procedure.Post Sys (Reply Unit) Thread Account}
    (h : Accounted held account) (hmapped : .mapping addr len ∈ held)
    (hreply : ∀ (reply : Reply Unit) account', Accounted (held \ {.mapping addr len}) account' →
      post [⟨.munmap addr len, reply⟩] reply { thread with errno := reply.errno } account') :
    Procedure.wp ledger.contract (sys (.munmap addr len)) post thread account := by
  apply wp_munmap h hmapped
  · exact fun residue account' hheld ↦ hreply (.ok () residue) account' hheld
  · intro err account' hheld hstuck
    have hlost : {.mapping addr len} ⊆ account'.stuck :=
      Set.singleton_subset_iff.mpr (hstuck (Set.mem_insert _ _))
    exact hreply (.fail err) account' (hheld.forget hlost)

/-- A descriptor that was opened and closed again leaves no trace. -/
theorem opened_closed (hfresh : Disjoint held (under fd)) :
    insert (.descriptor fd) held \ under fd = held := by
  have hmem : .descriptor fd ∈ under fd := Set.mem_insert _ _
  rw [Set.insert_sdiff_of_mem held hmem]
  exact hfresh.sdiff_eq_left

end Rules

end Holdings

end TtDal.Driver
