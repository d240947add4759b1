import TtDal.Dev.Api
import TtDal.Driver.Holdings
import TtDal.Effect.Handler
import TtDal.Safety.TelemetryCleanup

/-!
# Nothing is used after it was given back, and nothing is lost

A second ledger accounts for what a client holds through its session and window handles. It says
of each public function what it has to be given, what it takes away and what its answer hands out.
Every function keeps the two ledgers in step. A client that calls the library with handles it
holds therefore makes the library use only descriptors, streams, windows and mappings that are held
at the time and read only inside a mapping that is in place. What is held in the end is what the
client's handles stand for, and beside that only what the system refused to take back.
-/

namespace TtDal.Safety.Confinement

open Effect Platform Dev Driver Holdings

/-! ## The ledger of a client -/

def ownDescriptor (sess : Session) : Set Resource :=
  if sess.fd < 0 then ∅ else {.descriptor sess.fd}

/-- The descriptor of a session and the windows that go with it. -/
def ownAll (sess : Session) : Set Resource :=
  if sess.fd < 0 then ∅ else under sess.fd

def ownWindow (sess : Session) (tlb : Tlb) : Set Resource :=
  if sess.fd < 0 then ∅ else {.window sess.fd tlb.id}

def ownMapping (tlb : Tlb) : Set Resource :=
  if tlb.ptr = NULL then ∅ else {.mapping tlb.ptr tlb.len}

/-- What a handle of a session stands for. -/
def ownHandle (sess : Session) (tlb : Tlb) : Set Resource :=
  ownWindow sess tlb ∪ ownMapping tlb

/-- What the handles passed to a call have to stand for. -/
def needs : Request → Set Resource
  | .ttClose (some sess) | .ttReopen (some sess) | .ttDevInfo (some sess) _
  | .ttTlbAlloc (some sess) _ _ _ | .ttSmcCall (some sess) _ _ _ | .ttSmcPost (some sess) _
  | .ttSmcPoll (some sess) _ | .ttSmcWait (some sess) _ _ | .ttSmcDrop (some sess)
  | .ttTelemetry (some sess) _ | .ttPower (some sess) _ | .ttResetWith (some sess) =>
    ownDescriptor sess
  | .ttTlbBind (some sess) (some tlb) _ | .ttTlbFree (some sess) (some tlb) =>
    ownDescriptor sess ∪ ownHandle sess tlb
  | _ => ∅

/-- What a call takes away. -/
def takes : Request → Set Resource
  | .ttClose (some sess) | .ttReopen (some sess) | .ttResetWith (some sess) => ownAll sess
  | .ttTlbBind (some sess) (some tlb) (some _) | .ttTlbFree (some sess) (some tlb) =>
    ownHandle sess tlb
  | _ => ∅

/-- What the answer hands out. A window that could not be freed is handed back. -/
def hands : (request : Request) → request.Answer → Set Resource
  | .ttOpen _ _ _, (.TT_OK _, some sess) => ownDescriptor sess
  | .ttReopen _, (.TT_OK _, some sess) => ownDescriptor sess
  | .ttTlbAlloc (some sess) _ _ _, (.TT_OK _, some tlb) => ownHandle sess tlb
  | .ttTlbBind (some sess) (some _) (some _), (_, some tlb) => ownHandle sess tlb
  | .ttTlbFree (some sess) (some _), (.TT_ERR, some tlb) => ownHandle sess tlb
  | _, _ => ∅

/-- The ledger of a client. What is handed out is new to the client. -/
def clientLedger : Ledger Api (Set Resource) where
  covers held request := needs request ⊆ held
  genuine held call := Disjoint (held \ takes call.op) (hands call.op call.answer)
  after held call := (held \ takes call.op) ∪ hands call.op call.answer

/-! ## Functions that give back what they take -/

section Balanced

variable {held : Set Resource} {account : Account} {thread : Thread} {fd : ℤ} {sess : Session}

/-- The procedure leaves what is held as it was. -/
abbrev Balanced {α : Type} (held : Set Resource) (procedure : C α) : Prop :=
  Procedure.Keeps ledger.contract (Accounted held) procedure

theorem balanced_idle {op : Syscall} (hquiet : Quiet op) (huses : uses op = ∅)
    (hinside : Inside op) : Balanced held (sys op) :=
  keeps_quiet hquiet (huses ▸ Set.empty_subset held) hinside

theorem balanced_descriptor {op : Syscall} (hquiet : Quiet op) (huses : uses op = {.descriptor fd})
    (hinside : Inside op) (hfd : .descriptor fd ∈ held) : Balanced held (sys op) :=
  keeps_quiet hquiet (huses ▸ Set.singleton_subset_iff.mpr hfd) hinside

theorem balanced_scanLoop (dir : ℕ) (hdir : .directory dir ∈ held) (cap rounds count : ℕ)
    (buf : List Device) : Balanced held (scanLoop dir cap rounds count buf) := by
  have hread : Balanced held (sys (.readdir dir)) :=
    keeps_quiet trivial (Set.singleton_subset_iff.mpr hdir) trivial
  induction rounds generalizing count buf with
  | zero => exact Procedure.keeps_stop _ trivial
  | succ rounds ih =>
    refine hread.bind fun entry ↦ ?_
    cases entry with
    | none => exact Procedure.keeps_pure _
    | some entry =>
      cases hentry : scanEntry entry with
      | none => simpa only [hentry] using ih count buf
      | some dev => simpa only [hentry] using ih (count + 1) _

/-- The stream is closed when the scan is over. -/
theorem balanced_ttDevScan (rounds cap : ℕ) : Balanced held (ttDevScan rounds cap) := by
  intro thread account hheld
  unfold ttDevScan
  rw [Procedure.wp_bind]
  apply Holdings.wp_opendir hheld
  · intro dir residue account₁ hfresh hopened
    have hdir : Resource.directory dir ∈ insert (Resource.directory dir) held :=
      Set.mem_insert _ _
    refine (balanced_scanLoop dir hdir cap rounds 0 []).wp_call hopened
      fun _ found _ account₂ hscanned ↦ ?_
    rw [Procedure.wp_bind]
    apply Holdings.wp_closedir hscanned hdir
    rw [Set.insert_sdiff_self_of_notMem hfresh]
    exact fun reply account' hclosed ↦ hclosed
  · intro err account' hsame
    dsimp only
    split
    · exact hsame
    · exact hsame

theorem balanced_scannedDevice (devs : List Device) (index : ℕ) :
    Balanced held (scannedDevice devs index) := by
  have hunset : Balanced held (sys .indeterminate) := balanced_idle trivial rfl trivial
  unfold scannedDevice
  split
  · exact Procedure.keeps_pure _
  · exact hunset.bind fun _ ↦ Procedure.keeps_pure _

/-! ### Descriptors of their own -/

theorem ownDescriptor_of_nonneg (hfd : 0 ≤ sess.fd) : ownDescriptor sess = {.descriptor sess.fd} :=
  if_neg (Int.not_lt.mpr hfd)

/-- A new descriptor is not held before, and neither is a window on it. -/
structure Opened (held : Set Resource) (sess : Session) (account : Account) : Prop where
  nonneg : 0 ≤ sess.fd
  fresh : Disjoint held (under sess.fd)
  held : Accounted (insert (.descriptor sess.fd) held) account

theorem wp_openSession (hheld : Accounted held account) (dev : Device) (flags : UInt16) :
    Procedure.wp ledger.contract (openSession dev flags) (fun _ res _ account' ↦ match res with
      | .TT_OK sess => Opened held sess account'
      | .TT_ERR => Accounted held account') thread account := by
  rw [openSession_eq]
  split
  · exact hheld
  · rw [Procedure.wp_bind]
    apply Holdings.wp_openFile hheld
    · intro fd residue account' hfresh hopened
      exact ⟨Int.natCast_nonneg fd, hfresh, hopened⟩
    · exact fun err account' hsame ↦ hsame

/-- A descriptor that was opened is closed again. -/
theorem wp_closeOpened {post : Procedure.Post Sys (Reply Unit) Thread Account}
    (hfresh : Disjoint held (under fd))
    (hopened : Accounted (insert (.descriptor fd) held) account)
    (hreply : ∀ (reply : Reply Unit) account', Accounted held account' →
      post [⟨.close fd, reply⟩] reply { thread with errno := reply.errno } account') :
    Procedure.wp ledger.contract (sys (.close fd)) post thread account := by
  apply Holdings.wp_close hopened (Set.mem_insert _ _)
  rw [opened_closed hfresh]
  exact hreply

theorem wp_closeSession (hheld : Accounted held account) (hcovers : ownDescriptor sess ⊆ held) :
    Procedure.wp ledger.contract (closeSession sess)
      (fun _ out _ account' ↦ Accounted (held \ ownAll sess) account' ∧
        (out.1 = .TT_OK () → out.2.fd < 0))
      thread account := by
  unfold closeSession
  split
  · rename_i hfd
    rw [ownAll, if_pos hfd, Set.sdiff_empty]
    exact ⟨hheld, fun _ ↦ hfd⟩
  · rename_i hfd
    rw [ownDescriptor, if_neg hfd, Set.singleton_subset_iff] at hcovers
    rw [ownAll, if_neg hfd, Procedure.wp_bind]
    apply Holdings.wp_close hheld hcovers
    intro reply account' hclosed
    cases reply with
    | fail err => exact ⟨hclosed, nofun⟩
    | ok value residue => exact ⟨hclosed, fun _ ↦ (by decide : (-1 : ℤ) < 0)⟩

theorem balanced_devInfo (hcovers : ownDescriptor sess ⊆ held) : Balanced held (devInfo sess) := by
  unfold devInfo
  split
  · exact keeps_ttFail _
  · rename_i hfd
    rw [ownDescriptor, if_neg hfd, Set.singleton_subset_iff] at hcovers
    have hask : Balanced held (sys (.getDeviceInfo sess.fd)) :=
      balanced_descriptor trivial rfl trivial hcovers
    refine hask.bind fun reply ↦ ?_
    cases reply with
    | fail err => exact keeps_ttFailIo _
    | ok info residue => exact Procedure.keeps_pure _

theorem Opened.covers (h : Opened held sess account) :
    ownDescriptor sess ⊆ insert (.descriptor sess.fd) held := by
  rw [ownDescriptor_of_nonneg h.nonneg]
  exact Set.singleton_subset_iff.mpr (Set.mem_insert _ _)

theorem Opened.closed (h : Opened held sess account) :
    insert (.descriptor sess.fd) held \ ownAll sess = held := by
  rw [ownAll, if_neg (Int.not_lt.mpr h.nonneg)]
  exact opened_closed h.fresh

/-- A device is opened, asked and closed again. -/
theorem balanced_matchBdf (normalized : List Char) (devs : List Device) (remaining index : ℕ) :
    Balanced held (matchBdf normalized devs remaining index) := by
  induction remaining generalizing index with
  | zero => exact keeps_ttFail _
  | succ remaining ih =>
    refine (balanced_scannedDevice devs index).bind fun dev ↦ ?_
    intro thread account hheld
    refine Procedure.wp_call (wp_openSession hheld dev 0) fun _ res _ account₁ hopen ↦ ?_
    cases res with
    | TT_ERR => exact ih (index + 1) _ _ hopen
    | TT_OK sess =>
      refine (balanced_devInfo hopen.covers).wp_call hopen.held fun _ res _ account₂ hasked ↦ ?_
      refine Procedure.wp_call (wp_closeSession hasked hopen.covers)
        fun _ _ _ account₃ hclose ↦ ?_
      have hclosed := hclose.1
      rw [hopen.closed] at hclosed
      cases res with
      | TT_ERR => exact ih (index + 1) _ _ hclosed
      | TT_OK info =>
        dsimp only
        split
        · exact hclosed
        · exact ih (index + 1) _ _ hclosed

theorem balanced_devFromBdf (rounds : ℕ) (addr : List Char) :
    Balanced held (devFromBdf rounds addr) := by
  unfold devFromBdf
  split
  · exact keeps_ttFail _
  · refine (balanced_ttDevScan rounds BDF_SCAN_CAP).bind fun res ↦ ?_
    cases res with
    | TT_ERR => exact keeps_ttFail _
    | TT_OK found => exact balanced_matchBdf _ found.2 found.1 0

theorem balanced_devFromPath (path : String) : Balanced held (devFromPath path) := by
  have hresolve : Balanced held (sys (.realpath path)) := balanced_idle trivial rfl trivial
  refine hresolve.bind fun reply ↦ ?_
  cases reply with
  | fail err => exact keeps_ttFail _
  | ok resolved residue =>
    dsimp only
    split
    · exact keeps_ttFail _
    · split
      · exact keeps_ttFail _
      · exact Procedure.keeps_pure _

theorem balanced_kmdVersion (rounds : ℕ) : Balanced held (kmdVersion rounds) := by
  refine (balanced_ttDevScan rounds 1).bind fun res ↦ ?_
  cases res with
  | TT_ERR => exact Procedure.keeps_pure _
  | TT_OK found =>
    obtain ⟨count, devs⟩ := found
    dsimp only
    split
    · exact keeps_ttFail _
    · refine (balanced_scannedDevice devs 0).bind fun dev ↦ ?_
      intro thread account hheld
      refine Procedure.wp_call (wp_openSession hheld dev 0) fun _ res _ account₁ hopen ↦ ?_
      cases res with
      | TT_ERR => exact hopen
      | TT_OK sess =>
        have hask : Balanced (insert (.descriptor sess.fd) held) (sys (.getDriverInfo sess.fd)) :=
          balanced_descriptor trivial rfl trivial (Set.mem_insert _ _)
        refine hask.wp_call hopen.held fun _ reply _ account₂ hasked ↦ ?_
        rw [Procedure.wp_bind, wp_getErrno]
        refine Procedure.wp_call (wp_closeSession hasked hopen.covers)
          fun _ _ _ account₃ hclose ↦ ?_
        have hclosed := hclose.1
        rw [hopen.closed] at hclosed
        cases reply with
        | fail err => exact hclosed
        | ok out residue => exact hclosed

/-- The attribute is read through a descriptor of its own, whatever the session. -/
theorem balanced_fwVersion : Balanced held (fwVersion sess) := by
  intro thread account hheld
  unfold fwVersion
  split
  · exact hheld
  · rw [Procedure.wp_bind]
    apply Holdings.wp_openFile hheld
    · intro fd residue account₁ hfresh hopened
      have hread : Balanced (insert (Resource.descriptor fd) held) (sys (.read fd 31)) :=
        balanced_descriptor trivial rfl trivial (Set.mem_insert _ _)
      refine hread.wp_call hopened fun _ reply _ account₂ hread ↦ ?_
      cases reply with
      | fail err =>
        rw [Procedure.wp_bind]
        exact wp_closeOpened hfresh hread fun reply account' hclosed ↦ hclosed
      | ok buf residue =>
        rw [Procedure.wp_bind]
        apply wp_closeOpened hfresh hread
        intro reply account' hclosed
        split
        · exact hclosed
        · cases parseFwVersion buf with
          | none => exact hclosed
          | some version => exact hclosed
    · exact fun err account' hsame ↦ hsame

/-! ### Reset -/

theorem balanced_markerClear (sysfs : String) : Balanced held (markerClear sysfs) := by
  intro thread account hheld
  unfold markerClear
  rw [Procedure.wp_bind]
  apply Holdings.wp_openFile hheld
  · intro cfd residue account₁ hfresh hopened
    have hread : Balanced (insert (Resource.descriptor cfd) held) (sys (.pread cfd 1 4)) :=
      balanced_descriptor trivial rfl trivial (Set.mem_insert _ _)
    refine hread.wp_call hopened fun _ reply _ account₂ hread ↦ ?_
    rw [Procedure.wp_bind]
    apply wp_closeOpened hfresh hread
    intro reply account' hclosed
    split
    · exact hclosed
    · exact hclosed
  · exact fun err account' hsame ↦ hsame

theorem balanced_waits {op : Syscall} (hop : Waits op) : Balanced held (sys op) := by
  cases op with
  | clockGettime | access _ | usleep _ | nanosleep _ => exact balanced_idle trivial rfl trivial
  | _ => exact hop.elim

theorem wp_failClosed (hfresh : Disjoint held (under fd))
    (hopened : Accounted (insert (.descriptor fd) held) account) (err : Errno) :
    Procedure.wp ledger.contract (failClosed fd err)
      (fun _ _ _ account' ↦ Accounted held account') thread account := by
  unfold failClosed
  rw [Procedure.wp_bind]
  exact wp_closeOpened hfresh hopened fun reply account' hclosed ↦ hclosed

theorem balanced_resetIoctl (req : ResetDeviceIn) :
    Balanced (insert (.descriptor fd) held) (sys (.resetDevice fd req)) :=
  balanced_descriptor trivial rfl trivial (Set.mem_insert _ _)

theorem wp_finishReset (hfresh : Disjoint held (under fd))
    (hopened : Accounted (insert (.descriptor fd) held) account) :
    Procedure.wp ledger.contract (finishReset fd)
      (fun _ _ _ account' ↦ Accounted held account') thread account := by
  refine (balanced_resetIoctl _).wp_call hopened fun _ reply _ account₁ hopened₁ ↦ ?_
  cases reply with
  | fail err => exact wp_failClosed hfresh hopened₁ _
  | ok result residue =>
    dsimp only
    split
    · exact wp_failClosed hfresh hopened₁ _
    · rw [Procedure.wp_bind]
      apply wp_closeOpened hfresh hopened₁
      intro reply account' hclosed
      cases reply with
      | fail err => exact hclosed
      | ok value residue => exact hclosed

/-- The device is closed on every path. -/
theorem balanced_resetDevice (rounds : ℕ) (dev : Device) :
    Balanced held (resetDevice rounds dev) := by
  intro thread account hheld
  refine Procedure.wp_call (wp_openSession hheld dev _) fun _ res _ account₁ hopen ↦ ?_
  cases res with
  | TT_ERR => exact hopen
  | TT_OK sess =>
    obtain ⟨hfresh, hopened⟩ := And.intro hopen.fresh hopen.held
    refine (balanced_devInfo hopen.covers).wp_call hopened fun _ res _ account₂ hopened ↦ ?_
    cases res with
    | TT_ERR => exact wp_failClosed hfresh hopened _
    | TT_OK info =>
      refine (balanced_resetIoctl _).wp_call hopened fun _ reply _ account₃ hopened ↦ ?_
      cases reply with
      | fail err => exact wp_failClosed hfresh hopened _
      | ok result residue =>
        dsimp only
        split
        · exact wp_failClosed hfresh hopened _
        · have hclock : Balanced (insert (Resource.descriptor sess.fd) held) (sys .clockGettime) :=
            balanced_waits trivial
          refine hclock.wp_call hopened fun _ start _ account₄ hopened ↦ ?_
          refine (keeps_awaitReset (fun _ ↦ balanced_waits) (balanced_markerClear _) trivial start
            rounds false).wp_call hopened fun _ complete _ account₅ hopened ↦ ?_
          split
          · refine (keeps_awaitFirmware (fun _ ↦ balanced_waits) trivial rounds _).wp_call hopened
              fun _ _ _ account₆ hopened ↦ ?_
            exact wp_finishReset hfresh hopened
          · exact wp_failClosed hfresh hopened _

/-! ### Messages and power -/

/-- On a closed session the five functions make no request. -/
theorem ttSmcPost_closed (hfd : sess.fd < 0) (req : Option Ref) :
    ∃ err, ttSmcPost (some sess) req = ttFail err := by
  cases req with
  | none => exact ⟨.EINVAL, rfl⟩
  | some req => exact ⟨.ENOTCONN, if_pos hfd⟩

theorem ttSmcPoll_closed (hfd : sess.fd < 0) (rsp : Option Ref) :
    ∃ err, ttSmcPoll (some sess) rsp = ttFail err := by
  cases rsp with
  | none => exact ⟨.EINVAL, rfl⟩
  | some rsp => exact ⟨.ENOTCONN, if_pos hfd⟩

theorem ttSmcWait_closed (hfd : sess.fd < 0) (rounds : ℕ) (rsp : Option Ref) (timeout : UInt32) :
    ∃ err, ttSmcWait rounds (some sess) rsp timeout = ttFail err := by
  cases rsp with
  | none => exact ⟨.EINVAL, rfl⟩
  | some rsp => exact ⟨.ENOTCONN, if_pos hfd⟩

theorem ttSmcCall_closed (hfd : sess.fd < 0) (rounds : ℕ) (req rsp : Option Ref)
    (timeout : UInt32) : ∃ err, ttSmcCall rounds (some sess) req rsp timeout = ttFail err := by
  unfold ttSmcCall
  split
  · exact ⟨.EINVAL, rfl⟩
  · obtain ⟨err, hpost⟩ := ttSmcPost_closed hfd req
    rw [hpost]
    exact ⟨err, rfl⟩

/-- What an operation keeps of an open session's message requests it keeps of every session. -/
theorem balanced_message {procedure : C Status} (hcovers : ownDescriptor sess ⊆ held)
    (hclosed : sess.fd < 0 → ∃ err, procedure = ttFail err)
    (hopen : (∀ msg, Balanced held (sys (.smcMsg sess.fd msg))) → Balanced held procedure) :
    Balanced held procedure := by
  by_cases hfd : sess.fd < 0
  · obtain ⟨err, rfl⟩ := hclosed hfd
    exact keeps_ttFail err
  · rw [ownDescriptor, if_neg hfd, Set.singleton_subset_iff] at hcovers
    exact hopen fun msg ↦ balanced_descriptor trivial rfl trivial hcovers

theorem balanced_clock : Balanced held (sys .clockGettime) :=
  balanced_waits trivial

theorem balanced_sleep (usec : ℕ) : Balanced held (sys (.usleep usec)) :=
  balanced_waits trivial

theorem balanced_ttSmcPost (hcovers : ownDescriptor sess ⊆ held) (req : Option Ref) :
    Balanced held (ttSmcPost (some sess) req) :=
  balanced_message hcovers (fun hfd ↦ ttSmcPost_closed hfd req) fun hmsg ↦
    keeps_ttSmcPost hmsg req

theorem balanced_ttSmcPoll (hcovers : ownDescriptor sess ⊆ held) (rsp : Option Ref) :
    Balanced held (ttSmcPoll (some sess) rsp) :=
  balanced_message hcovers (fun hfd ↦ ttSmcPoll_closed hfd rsp) fun hmsg ↦
    keeps_ttSmcPoll hmsg rsp

theorem balanced_ttSmcWait (hcovers : ownDescriptor sess ⊆ held) (rounds : ℕ) (rsp : Option Ref)
    (timeout : UInt32) : Balanced held (ttSmcWait rounds (some sess) rsp timeout) :=
  balanced_message hcovers (fun hfd ↦ ttSmcWait_closed hfd rounds rsp timeout) fun hmsg ↦
    keeps_ttSmcWait hmsg balanced_clock balanced_sleep trivial rounds rsp timeout

theorem balanced_ttSmcDrop (hcovers : ownDescriptor sess ⊆ held) :
    Balanced held (ttSmcDrop (some sess)) :=
  balanced_message hcovers (fun hfd ↦ ⟨.ENOTCONN, if_pos hfd⟩) keeps_ttSmcDrop

theorem balanced_ttSmcCall (hcovers : ownDescriptor sess ⊆ held) (rounds : ℕ)
    (req rsp : Option Ref) (timeout : UInt32) :
    Balanced held (ttSmcCall rounds (some sess) req rsp timeout) :=
  balanced_message hcovers (fun hfd ↦ ttSmcCall_closed hfd rounds req rsp timeout) fun hmsg ↦
    keeps_ttSmcCall hmsg balanced_clock balanced_sleep trivial rounds req rsp timeout

theorem balanced_ttPower (hcovers : ownDescriptor sess ⊆ held) (flags : UInt16) :
    Balanced held (ttPower (some sess) flags) := by
  simp only [ttPower]
  split
  · exact keeps_ttFail _
  · rename_i hfd
    rw [ownDescriptor, if_neg hfd, Set.singleton_subset_iff] at hcovers
    have hrequest : Balanced held (sys (.setPowerState sess.fd (powerState flags))) :=
      balanced_descriptor trivial rfl trivial hcovers
    refine hrequest.bind fun reply ↦ ?_
    cases reply with
    | fail err => exact keeps_ttFailIo _
    | ok value residue => exact Procedure.keeps_pure _

end Balanced

/-! ## Windows -/

section Windows

variable {held : Set Resource} {account : Account} {thread : Thread} {sess : Session}
  {tlb tlb' : Tlb}

/-- The mapping of a handle was replaced by that of the handle left behind. -/
structure Rebound (held : Set Resource) (tlb tlb' : Tlb) (account : Account) : Prop where
  id : tlb'.id = tlb.id
  len : tlb'.len = tlb.len
  fresh : Disjoint (held \ ownMapping tlb) (ownMapping tlb')
  held : Accounted ((held \ ownMapping tlb) ∪ ownMapping tlb') account

theorem rebound_same (hheld : Accounted held account) (hmapped : ownMapping tlb ⊆ held) :
    Rebound held tlb tlb account where
  id := rfl
  len := rfl
  fresh := Set.disjoint_sdiff_left
  held := (Set.sdiff_union_of_subset hmapped).symm ▸ hheld

theorem ownMapping_unmapped (tlb : Tlb) : ownMapping { tlb with ptr := NULL } = ∅ :=
  if_pos rfl

theorem rebound_unmapped (hheld : Accounted (held \ ownMapping tlb) account) :
    Rebound held tlb { tlb with ptr := NULL } account where
  id := rfl
  len := rfl
  fresh := by
    rw [ownMapping_unmapped]
    exact Set.disjoint_empty _
  held := by
    rw [ownMapping_unmapped, Set.union_empty]
    exact hheld

/-- The old mapping is taken away after the new one was put in place. -/
theorem rebound_moved {start : ℕ} (hmapped : ownMapping tlb ⊆ held) (hstart : start ≠ NULL)
    (hfresh : .mapping start tlb.len ∉ held)
    (hheld : Accounted (insert (.mapping start tlb.len) held \ ownMapping tlb) account) :
    Rebound held tlb { tlb with ptr := start } account := by
  have hnew : ownMapping { tlb with ptr := start } = {.mapping start tlb.len} := if_neg hstart
  refine ⟨rfl, rfl, ?_, ?_⟩
  · rw [hnew, Set.disjoint_singleton_right]
    exact fun hmem ↦ hfresh hmem.1
  · have hold : .mapping start tlb.len ∉ ownMapping tlb := fun hmem ↦ hfresh (hmapped hmem)
    rw [hnew, Set.union_singleton, ← Set.insert_sdiff_of_notMem held hold]
    exact hheld

/-- A mapping that is not taken back is left out of the account. -/
theorem wp_tlbUnconfigure (hheld : Accounted held account) (hmapped : ownMapping tlb ⊆ held) :
    Procedure.wp ledger.contract (tlbUnconfigure tlb)
      (fun _ out _ account' ↦ out.1 = .TT_ERR ∧ Rebound held tlb out.2 account')
      thread account := by
  rw [tlbUnconfigure, Procedure.wp_bind, wp_getErrno]
  split
  · rename_i hptr
    have hmapping : ownMapping tlb = {.mapping tlb.ptr tlb.len} := if_neg hptr
    rw [hmapping, Set.singleton_subset_iff] at hmapped
    rw [Procedure.wp_bind]
    apply Holdings.wp_unmapped hheld hmapped
    rw [← hmapping]
    exact fun reply account' hunmapped ↦ ⟨rfl, rebound_unmapped hunmapped⟩
  · exact ⟨rfl, rebound_same hheld hmapped⟩

theorem covers_mapping (hcovers : ownDescriptor sess ∪ ownHandle sess tlb ⊆ held) :
    ownMapping tlb ⊆ held :=
  (Set.union_subset_iff.mp (Set.union_subset_iff.mp hcovers).2).2

theorem disjoint_window_mapping : Disjoint (ownWindow sess tlb) (ownMapping tlb') := by
  unfold ownWindow ownMapping
  split <;> split <;> simp

theorem disjoint_descriptor_mapping : Disjoint (ownDescriptor sess) (ownMapping tlb) := by
  unfold ownDescriptor ownMapping
  split <;> split <;> simp

theorem ownWindow_subset : ownWindow sess tlb ⊆ windows := by
  unfold ownWindow
  split
  · exact Set.empty_subset _
  · exact Set.singleton_subset_iff.mpr ⟨sess.fd, tlb.id, rfl⟩

/-- The handle stands for the same window as before. -/
theorem Rebound.handle (h : Rebound held tlb tlb' account) (hwindow : ownWindow sess tlb ⊆ held) :
    Disjoint (held \ ownHandle sess tlb) (ownHandle sess tlb') ∧
      Accounted (held \ ownHandle sess tlb ∪ ownHandle sess tlb') account := by
  have hsame : ownWindow sess tlb' = ownWindow sess tlb := by rw [ownWindow, h.id, ownWindow]
  have hrest : held \ ownHandle sess tlb = (held \ ownMapping tlb) \ ownWindow sess tlb := by
    rw [ownHandle, Set.union_comm, Set.sdiff_sdiff]
  have hkept : ownWindow sess tlb ⊆ held \ ownMapping tlb :=
    Set.subset_sdiff.mpr ⟨hwindow, disjoint_window_mapping⟩
  rw [hrest, ownHandle, hsame]
  constructor
  · exact Set.disjoint_union_right.mpr
      ⟨Set.disjoint_sdiff_left, h.fresh.mono_left Set.sdiff_subset⟩
  · rw [← Set.union_assoc, Set.sdiff_union_of_subset hkept]
    exact h.held

/-- What is covered of an open session and a handle of it. -/
theorem covers_window (hfd : ¬sess.fd < 0)
    (hcovers : ownDescriptor sess ∪ ownHandle sess tlb ⊆ held) :
    .descriptor sess.fd ∈ held ∧ .window sess.fd tlb.id ∈ held ∧ ownMapping tlb ⊆ held := by
  simpa only [ownDescriptor, ownHandle, ownWindow, if_neg hfd, Set.union_subset_iff,
    Set.singleton_subset_iff] using hcovers

theorem wp_tlbBind (hheld : Accounted held account) (cfg : TlbConfig)
    (hcovers : ownDescriptor sess ∪ ownHandle sess tlb ⊆ held) :
    Procedure.wp ledger.contract (tlbBind sess tlb cfg) (fun _ out _ account' ↦
      Rebound held tlb out.2 account' ∧ (out.1 = .TT_OK () → out.2.ptr ≠ NULL))
      thread account := by
  unfold tlbBind
  split
  · exact ⟨rebound_same hheld (covers_mapping hcovers), nofun⟩
  · rename_i hfd
    obtain ⟨hdescriptor, hwindow, hmapped⟩ := covers_window hfd hcovers
    rw [Procedure.wp_bind]
    apply Holdings.wp_mmap hheld hdescriptor
    · intro start residue account₁ hstart hfresh hplaced
      have hinsert : held ⊆ insert (Resource.mapping start tlb.len) held := Set.subset_insert _ _
      have huses : uses (.configureTlb sess.fd tlb.id (nocTlbConfig cfg)) ⊆
          insert (Resource.mapping start tlb.len) held :=
        Set.insert_subset (hinsert hdescriptor) (Set.singleton_subset_iff.mpr (hinsert hwindow))
      have hconfigure : Balanced (insert (Resource.mapping start tlb.len) held)
          (sys (.configureTlb sess.fd tlb.id (nocTlbConfig cfg))) :=
        keeps_quiet trivial huses trivial
      refine hconfigure.wp_call hplaced fun _ reply _ account₂ hplaced ↦ ?_
      cases reply with
      | fail err =>
        rw [Procedure.wp_bind]
        apply Holdings.wp_unmapped hplaced (Set.mem_insert _ _)
        intro reply account₃ hremoved
        rw [Set.insert_sdiff_self_of_notMem hfresh] at hremoved
        rw [Procedure.wp_bind, wp_ttFailIo]
        refine Procedure.wp_mono (wp_tlbUnconfigure hremoved hmapped) fun _ out _ _ hout ↦ ?_
        exact ⟨hout.2, fun hok ↦ by simp [hout.1] at hok⟩
      | ok value residue =>
        dsimp only
        split
        · rename_i hptr
          have hmapping : ownMapping tlb = {.mapping tlb.ptr tlb.len} := if_neg hptr
          have hold : .mapping tlb.ptr tlb.len ∈ held :=
            hmapped (hmapping ▸ Set.mem_singleton _)
          rw [Procedure.wp_bind]
          apply Holdings.wp_unmapped hplaced (hinsert hold)
          rw [← hmapping]
          exact fun reply account' hmoved ↦
            ⟨rebound_moved hmapped hstart hfresh hmoved, fun _ ↦ hstart⟩
        · rename_i hptr
          have hnone : ownMapping tlb = ∅ := if_pos (not_not.mp hptr)
          have hmoved :
              Accounted (insert (.mapping start tlb.len) held \ ownMapping tlb) account₂ := by
            rw [hnone, Set.sdiff_empty]
            exact hplaced
          exact ⟨rebound_moved hmapped hstart hfresh hmoved, fun _ ↦ hstart⟩
    · intro err account₁ hsame
      rw [Procedure.wp_bind, wp_ttFailIo]
      refine Procedure.wp_mono (wp_tlbUnconfigure hsame hmapped) fun _ out _ _ hout ↦ ?_
      exact ⟨hout.2, fun hok ↦ by simp [hout.1] at hok⟩

/-- What is left of a handle that was to be freed. -/
def ownLeft (sess : Session) : Status × Tlb → Set Resource
  | (.TT_OK _, _) => ∅
  | (.TT_ERR, tlb) => ownHandle sess tlb

/-- What is left of the handle was not taken back. -/
structure Freed (held : Set Resource) (sess : Session) (tlb : Tlb) (out : Status × Tlb)
    (account : Account) : Prop where
  part : ownLeft sess out ⊆ ownHandle sess tlb
  stuck : ownLeft sess out ⊆ account.stuck
  held : Accounted (held \ ownHandle sess tlb ∪ ownLeft sess out) account

theorem Freed.fresh {out : Status × Tlb} (h : Freed held sess tlb out account) :
    Disjoint (held \ ownHandle sess tlb) (ownLeft sess out) :=
  Set.disjoint_sdiff_left.mono_right h.part

/-- Where nobody frees the handle again, what is left of it is lost. -/
theorem Freed.forget {out : Status × Tlb} (h : Freed held sess tlb out account) :
    Accounted (held \ ownHandle sess tlb) account := by
  have hlost := h.held.forget h.stuck
  rw [Set.union_sdiff_right, h.fresh.sdiff_eq_left] at hlost
  exact hlost

/-- Nothing is left of the handle. -/
theorem freed_whole {out : Status × Tlb} (hleft : ownLeft sess out = ∅)
    (hheld : Accounted (held \ ownHandle sess tlb) account) : Freed held sess tlb out account := by
  refine ⟨hleft ▸ Set.empty_subset _, hleft ▸ Set.empty_subset _, ?_⟩
  rw [hleft, Set.union_empty]
  exact hheld

/-- The handle is left as it was. -/
theorem freed_none (hheld : Accounted held account) (hhandle : ownHandle sess tlb ⊆ held)
    (hstuck : ownHandle sess tlb ⊆ account.stuck) : Freed held sess tlb (.TT_ERR, tlb) account where
  part := subset_rfl
  stuck := hstuck
  held := (Set.sdiff_union_of_subset hhandle).symm ▸ hheld

theorem ownHandle_unmapped (sess : Session) (tlb : Tlb) :
    ownHandle sess { tlb with ptr := NULL } = ownWindow sess tlb := by
  rw [ownHandle, ownMapping_unmapped, Set.union_empty]
  rfl

theorem wp_tlbRelease (hheld : Accounted held account)
    (hcovers : ownDescriptor sess ∪ ownWindow sess tlb ⊆ held) :
    Procedure.wp ledger.contract (tlbRelease sess { tlb with ptr := NULL })
      (fun _ out _ account' ↦ Freed held sess { tlb with ptr := NULL } out account')
      thread account := by
  obtain ⟨hdescriptor, hwindow⟩ := Set.union_subset_iff.mp hcovers
  have hhandle := ownHandle_unmapped sess tlb
  unfold tlbRelease
  split
  · rename_i hfd
    have hnone : ownHandle sess { tlb with ptr := NULL } = ∅ := hhandle.trans (if_pos hfd)
    refine freed_whole hnone ?_
    rw [hnone, Set.sdiff_empty]
    exact hheld
  · rename_i hfd
    have hown : ownWindow sess tlb = {.window sess.fd tlb.id} := if_neg hfd
    rw [ownDescriptor, if_neg hfd, Set.singleton_subset_iff] at hdescriptor
    have hmem : .window sess.fd tlb.id ∈ held := hwindow (hown ▸ Set.mem_singleton _)
    rw [Procedure.wp_bind]
    apply Holdings.wp_freeTlb hheld hdescriptor hmem
    · intro residue account' hfreed
      rw [← hown, ← hhandle] at hfreed
      exact freed_whole rfl hfreed
    · intro err account' hkept hstuck
      refine freed_none hkept (hhandle ▸ hwindow) ?_
      rw [hhandle, hown]
      exact Set.singleton_subset_iff.mpr hstuck

/-- The mapping is taken away before the window. -/
theorem Freed.unmapped {out : Status × Tlb}
    (h : Freed (held \ ownMapping tlb) sess { tlb with ptr := NULL } out account) :
    Freed held sess tlb out account := by
  obtain ⟨hpart, hstuck, hheld⟩ := h
  rw [ownHandle_unmapped] at hpart hheld
  refine ⟨hpart.trans Set.subset_union_left, hstuck, ?_⟩
  rw [ownHandle, Set.union_comm (ownWindow sess tlb), ← Set.sdiff_sdiff]
  exact hheld

theorem wp_tlbFree (hheld : Accounted held account)
    (hcovers : ownDescriptor sess ∪ ownHandle sess tlb ⊆ held) :
    Procedure.wp ledger.contract (tlbFree sess tlb)
      (fun _ out _ account' ↦ Freed held sess tlb out account') thread account := by
  obtain ⟨hdescriptor, hhandle⟩ := Set.union_subset_iff.mp hcovers
  obtain ⟨hwindow, hmapped⟩ := Set.union_subset_iff.mp hhandle
  unfold tlbFree
  split
  · rename_i hptr
    have hmapping : ownMapping tlb = {.mapping tlb.ptr tlb.len} := if_neg hptr
    have hmem : .mapping tlb.ptr tlb.len ∈ held := hmapped (hmapping ▸ Set.mem_singleton _)
    rw [Procedure.wp_bind]
    apply Holdings.wp_munmap hheld hmem
    · intro residue account' hunmapped
      rw [← hmapping] at hunmapped
      have hkept : ownDescriptor sess ∪ ownWindow sess tlb ⊆ held \ ownMapping tlb :=
        Set.subset_sdiff.mpr ⟨Set.union_subset hdescriptor hwindow,
          Set.disjoint_union_left.mpr ⟨disjoint_descriptor_mapping, disjoint_window_mapping⟩⟩
      refine Procedure.wp_mono (wp_tlbRelease hunmapped hkept) fun _ _ _ _ hfreed ↦ ?_
      exact hfreed.unmapped
    · -- The window behind the mapping is not freed either.
      intro err account' hkept hstuck
      refine freed_none hkept hhandle (Set.union_subset ?_ ?_)
      · exact fun resource hmem ↦
          hstuck (Or.inr ⟨hwindow hmem, ownWindow_subset hmem⟩)
      · rw [hmapping]
        exact Set.singleton_subset_iff.mpr (hstuck (Set.mem_insert _ _))
  · rename_i hptr
    have hnone : ownMapping tlb = ∅ := if_pos (not_not.mp hptr)
    have hunmapped : Accounted (held \ ownMapping tlb) account := by
      rw [hnone, Set.sdiff_empty]
      exact hheld
    have hkept : ownDescriptor sess ∪ ownWindow sess tlb ⊆ held \ ownMapping tlb := by
      rw [hnone, Set.sdiff_empty]
      exact Set.union_subset hdescriptor hwindow
    refine Procedure.wp_mono (wp_tlbRelease hunmapped hkept) fun _ _ _ _ hfreed ↦ ?_
    exact hfreed.unmapped

/-- A window of an open session is new, and its handle points at nothing. -/
structure Allocated (held : Set Resource) (sess : Session) (size : ℕ) (tlb : Tlb)
    (account : Account) : Prop where
  opened : ¬sess.fd < 0
  fresh : .window sess.fd tlb.id ∉ held
  len : tlb.len = size
  ptr : tlb.ptr = NULL
  held : Accounted (insert (.window sess.fd tlb.id) held) account

theorem ownHandle_allocated (hfd : ¬sess.fd < 0) (hptr : tlb.ptr = NULL) :
    ownHandle sess tlb = {.window sess.fd tlb.id} := by
  rw [ownHandle, ownWindow, ownMapping, if_neg hfd, if_pos hptr, Set.union_empty]

theorem covers_allocated (hfd : ¬sess.fd < 0) (hdescriptor : .descriptor sess.fd ∈ held)
    (hptr : tlb.ptr = NULL) :
    ownDescriptor sess ∪ ownHandle sess tlb ⊆ insert (.window sess.fd tlb.id) held := by
  rw [ownDescriptor, if_neg hfd, ownHandle_allocated hfd hptr]
  exact Set.union_subset (Set.singleton_subset_iff.mpr (Set.mem_insert_of_mem _ hdescriptor))
    (Set.singleton_subset_iff.mpr (Set.mem_insert _ _))

theorem wp_tlbAlloc (hheld : Accounted held account) (size mode : ℕ)
    (hcovers : ownDescriptor sess ⊆ held) :
    Procedure.wp ledger.contract (tlbAlloc sess size mode tlb) (fun _ out _ account' ↦
      match out.1 with
      | .TT_OK _ => Allocated held sess size out.2 account'
      | .TT_ERR => Accounted held account') thread account := by
  unfold tlbAlloc
  split
  · exact hheld
  · rename_i hfd
    rw [ownDescriptor, if_neg hfd, Set.singleton_subset_iff] at hcovers
    rw [Procedure.wp_bind]
    apply Holdings.wp_allocateTlb hheld hcovers
    · intro out residue account₁ hfresh hgranted
      dsimp only
      split
      · exact ⟨hfd, hfresh, rfl, rfl, hgranted⟩
      · split
        · exact ⟨hfd, hfresh, rfl, rfl, hgranted⟩
        · -- The window was granted before its mode is found to be invalid.
          rw [Procedure.wp_bind, wp_setErrno, Procedure.wp_bind, wp_getErrno]
          have hcovered := @covers_allocated held sess ⟨out.id, NULL, size, 0⟩ hfd hcovers rfl
          refine Procedure.wp_call (wp_tlbFree hgranted hcovered) fun _ _ _ account₂ hfreed ↦ ?_
          have hlost := hfreed.forget
          rw [ownHandle_allocated hfd rfl, Set.insert_sdiff_self_of_notMem hfresh] at hlost
          exact hlost
    · exact fun err account' hsame ↦ hsame

/-! ### Telemetry -/

/-- The handle of a window that is held with its mapping beside everything else. -/
structure Bound (base : Set Resource) (id : ℕ) (tlb : Tlb) (account : Account) : Prop where
  id : tlb.id = id
  len : tlb.len = TT_TLB_2MB
  fresh : Disjoint base (ownMapping tlb)
  held : Accounted (base ∪ ownMapping tlb) account

theorem bound_allocated {base : Set Resource} (hlen : tlb.len = TT_TLB_2MB) (hptr : tlb.ptr = NULL)
    (hheld : Accounted base account) : Bound base tlb.id tlb account := by
  have hnone : ownMapping tlb = ∅ := if_pos hptr
  refine ⟨rfl, hlen, ?_, ?_⟩
  · rw [hnone]
    exact Set.disjoint_empty _
  · rw [hnone, Set.union_empty]
    exact hheld

theorem Bound.bind {base : Set Resource} {id : ℕ} {account' : Account}
    (h : Bound base id tlb account)
    (hrebound : Rebound (base ∪ ownMapping tlb) tlb tlb' account') :
    Bound base id tlb' account' := by
  obtain ⟨hid, hlen, hfresh, hheld⟩ := hrebound
  rw [Set.union_sdiff_right, h.fresh.sdiff_eq_left] at hfresh hheld
  exact ⟨hid.trans h.id, hlen.trans h.len, hfresh, hheld⟩

/-- What is beside the mapping: the descriptor and the window. -/
def Beside (base : Set Resource) (sess : Session) (id : ℕ) : Prop :=
  0 ≤ sess.fd ∧ .descriptor sess.fd ∈ base ∧ .window sess.fd id ∈ base

theorem Bound.covers {base : Set Resource} {id : ℕ} (h : Bound base id tlb account)
    (hbase : Beside base sess id) :
    ownDescriptor sess ∪ ownHandle sess tlb ⊆ base ∪ ownMapping tlb := by
  obtain ⟨hfd, hdescriptor, hwindow⟩ := hbase
  rw [ownDescriptor_of_nonneg hfd, ownHandle, ownWindow, if_neg (Int.not_lt.mpr hfd), h.id,
    ← Set.union_assoc]
  refine Set.union_subset_union_left _ (Set.union_subset ?_ ?_)
  · exact Set.singleton_subset_iff.mpr hdescriptor
  · exact Set.singleton_subset_iff.mpr hwindow

theorem wp_bindWindow {base : Set Resource} {id : ℕ} (h : Bound base id tlb account)
    (hbase : Beside base sess id) (cfg : TlbConfig) :
    Procedure.wp ledger.contract (tlbBind sess tlb cfg) (fun _ out _ account' ↦
      Bound base id out.2 account' ∧ (out.1 = .TT_OK () → out.2.ptr ≠ NULL)) thread account :=
  Procedure.wp_mono (wp_tlbBind h.held cfg (h.covers hbase)) fun _ _ _ _ hbind ↦
    ⟨h.bind hbind.1, hbind.2⟩

/-- The guard is armed for the mapping. -/
theorem wp_armWindow (hheld : Accounted held account) (tlb : Tlb) :
    Procedure.wp ledger.contract (ttTrapArm tlb.ptr TT_TLB_2MB) (fun _ _ thread' account' ↦
      Accounted held account' ∧ thread'.armed = ⟨tlb.ptr, TT_TLB_2MB⟩) thread account := by
  have hinstall : Balanced held (sys .sigaction) := balanced_idle trivial rfl trivial
  rw [ttTrapArm, Procedure.wp_bind, Procedure.wp_get]
  split
  · exact ⟨hheld, rfl⟩
  · exact hinstall.wp_call hheld fun _ _ _ _ hsame ↦ ⟨hsame, rfl⟩

/-- Guarded reads are made inside the mapping that is held. -/
theorem wp_reads {α : Type} {base : Set Resource} {id : ℕ} {code : Guarded α}
    (hcode : GuardedReads.Reads (TelemetryCleanup.Within tlb.ptr) code)
    (h : Bound base id tlb account) (hptr : tlb.ptr ≠ NULL)
    (harmed : thread.armed = ⟨tlb.ptr, TT_TLB_2MB⟩) :
    Procedure.wp ledger.contract code.run (fun _ _ _ account' ↦ Bound base id tlb account')
      thread account := by
  have hmapped : Resource.mapping tlb.ptr TT_TLB_2MB ∈ base ∪ ownMapping tlb := by
    rw [ownMapping, if_neg hptr, h.len]
    exact Or.inr rfl
  have hpermits (addr : ℕ) (account' : Account) (hwithin : TelemetryCleanup.Within tlb.ptr addr)
      (hheld : Accounted (base ∪ ownMapping tlb) account') :
      ledger.contract.permits (.load thread.armed addr) account' := by
    rw [harmed]
    exact ⟨Set.singleton_subset_iff.mpr (hheld.kept hmapped), hwithin⟩
  have hstep (addr : ℕ) (before : Account) (answer : Option UInt32) (after : Account)
      (_ : TelemetryCleanup.Within tlb.ptr addr)
      (hbefore : Accounted (base ∪ ownMapping tlb) before)
      (hanswer : ledger.contract.answers (.load thread.armed addr) before answer after) :
      Accounted (base ∪ ownMapping tlb) after := by
    rw [hanswer.2]
    exact hbefore.idle rfl rfl
  exact Procedure.wp_mono (hcode.wp hpermits hstep (fun _ _ ↦ .inr trivial) h.held)
    fun _ _ _ _ hran ↦ ⟨h.id, h.len, h.fresh, hran.2⟩

theorem wp_readSnapshot {base : Set Resource} {id : ℕ} {arch : ArchConstants} {tags data : UInt32}
    (h : Bound base id tlb account) (hbase : Beside base sess id)
    (htags : validPointer tags = true) (hdata : validPointer data = true) (table : Ref) :
    Procedure.wp ledger.contract (readSnapshot sess arch tlb tags data table)
      (fun _ out _ account' ↦ Bound base id out.2 account') thread account := by
  refine Procedure.wp_call (wp_bindWindow h hbase _) fun _ out _ account₁ hbind ↦ ?_
  obtain ⟨status, tlb₁⟩ := out
  obtain ⟨hbound, hptr⟩ := hbind
  cases status with
  | TT_ERR => exact hbound
  | TT_OK done =>
    refine Procedure.wp_call (wp_armWindow hbound.held tlb₁) fun _ _ _ account₂ harm ↦ ?_
    obtain ⟨hheld, harmed⟩ := harm
    have hbound₂ : Bound base id tlb₁ account₂ := ⟨hbound.id, hbound.len, hbound.fresh, hheld⟩
    have hreads := TelemetryCleanup.snapshot_within htags hdata tlb₁.ptr table
    refine Procedure.wp_call (wp_reads hreads hbound₂ (hptr rfl) harmed)
      fun _ res _ account₃ hbound₃ ↦ ?_
    cases res with
    | error fault => exact hbound₃
    | ok status => exact hbound₃

theorem wp_readWindow {base : Set Resource} {id : ℕ} {deviceId : UInt16} {arch : ArchConstants}
    (h : Bound base id tlb account) (hbase : Beside base sess id)
    (harch : archConstants deviceId = some arch) (table : Ref) :
    Procedure.wp ledger.contract (readWindow sess arch tlb table)
      (fun _ out _ account' ↦ Bound base id out.2 account') thread account := by
  refine Procedure.wp_call (wp_bindWindow h hbase _) fun _ out _ account₁ hbind ↦ ?_
  obtain ⟨status, tlb₁⟩ := out
  obtain ⟨hbound, hptr⟩ := hbind
  cases status with
  | TT_ERR => exact hbound
  | TT_OK done =>
    refine Procedure.wp_call (wp_armWindow hbound.held tlb₁) fun _ _ _ account₂ harm ↦ ?_
    obtain ⟨hheld, harmed⟩ := harm
    have hbound₂ : Bound base id tlb₁ account₂ := ⟨hbound.id, hbound.len, hbound.fresh, hheld⟩
    have hreads := TelemetryCleanup.readPointers_within harch tlb₁.ptr
    refine Procedure.wp_call (wp_reads hreads hbound₂ (hptr rfl) harmed)
      fun _ res _ account₃ hbound₃ ↦ ?_
    cases res with
    | error fault => exact hbound₃
    | ok pointers =>
      dsimp only
      split
      · rename_i hvalid
        obtain ⟨htags, hdata⟩ := Bool.and_eq_true_iff.mp hvalid
        rw [ttTrapDisarm, Procedure.wp_bind, Procedure.wp_modify]
        exact wp_readSnapshot hbound₃ hbase htags hdata table
      · exact hbound₃

/-- The window is freed and its mapping taken away, whatever happened to the reads. -/
theorem Bound.freed {base : Set Resource} {id : ℕ} {account' : Account} {out : Status × Tlb}
    (h : Bound base id tlb account) (hfd : 0 ≤ sess.fd)
    (hfree : Freed (base ∪ ownMapping tlb) sess tlb out account') :
    Accounted (base \ {.window sess.fd id}) account' := by
  have hlost := hfree.forget
  rw [ownHandle, ownWindow, if_neg (Int.not_lt.mpr hfd), h.id, Set.union_comm {_},
    ← Set.sdiff_sdiff, Set.union_sdiff_right, h.fresh.sdiff_eq_left] at hlost
  exact hlost

theorem balanced_telemetry (hcovers : ownDescriptor sess ⊆ held) (table : Ref) :
    Balanced held (telemetry sess table) := by
  intro thread account hheld
  unfold telemetry
  split
  · exact hheld
  · rename_i hopen
    have hfd : 0 ≤ sess.fd := Int.not_lt.mp hopen
    refine (balanced_devInfo hcovers).wp_call hheld fun _ info _ account₁ hasked ↦ ?_
    cases info with
    | TT_ERR => exact hasked
    | TT_OK info =>
      cases harch : archConstants info.deviceId with
      | none =>
        simp only [harch, wp_ttFail]
        exact hasked
      | some arch =>
        simp only [harch]
        rw [Procedure.wp_bind, Procedure.wp_modify]
        refine Procedure.wp_call (wp_tlbAlloc hasked TT_TLB_2MB TT_TLB_UC hcovers)
          fun _ out _ account₂ halloc ↦ ?_
        obtain ⟨status, tlb⟩ := out
        cases status with
        | TT_ERR => exact halloc
        | TT_OK done =>
          obtain ⟨-, hfresh, hlen, hptr, hgranted⟩ := halloc
          have hdescriptor : Resource.descriptor sess.fd ∈ held :=
            hcovers (ownDescriptor_of_nonneg hfd ▸ Set.mem_singleton _)
          have hbase : Beside (insert (.window sess.fd tlb.id) held) sess tlb.id :=
            ⟨hfd, Set.mem_insert_of_mem _ hdescriptor, Set.mem_insert _ _⟩
          refine Procedure.wp_call
            (wp_readWindow (bound_allocated hlen hptr hgranted) hbase harch table)
            fun _ out _ account₃ hused ↦ ?_
          have hback := Set.insert_sdiff_self_of_notMem hfresh
          obtain ⟨status, tlb'⟩ := out
          cases status with
          | TT_OK done =>
            rw [ttTrapDisarm, Procedure.wp_bind, Procedure.wp_modify]
            refine Procedure.wp_call (wp_tlbFree hused.held (hused.covers hbase))
              fun _ _ _ _ hfree ↦ ?_
            exact hback ▸ hused.freed hfd hfree
          | TT_ERR =>
            simp only [Procedure.wp_bind, wp_getErrno, ttTrapDisarm, Procedure.wp_modify]
            refine Procedure.wp_mono (wp_tlbFree hused.held (hused.covers hbase))
              fun _ _ _ _ hfree ↦ ?_
            exact hback ▸ hused.freed hfd hfree

end Windows

/-! ## The public functions -/

section Functions

variable {held : Set Resource} {account : Account} {thread : Thread}

/-- A call that settles leaves the ledger of the client right. -/
def Settled (request : Request) (held : Set Resource) (answer : request.Answer)
    (account : Account) : Prop :=
  clientLedger.genuine held ⟨request, answer⟩ ∧
    Accounted (clientLedger.after held ⟨request, answer⟩) account

theorem settled_taken {request : Request} {answer : request.Answer}
    (hhands : hands request answer = ∅) (hheld : Accounted (held \ takes request) account) :
    Settled request held answer account := by
  constructor
  · change Disjoint _ (hands request answer)
    rw [hhands]
    exact Set.disjoint_empty _
  · change Accounted (held \ takes request ∪ hands request answer) account
    rw [hhands, Set.union_empty]
    exact hheld

theorem settled_idle {request : Request} {answer : request.Answer} (htakes : takes request = ∅)
    (hhands : hands request answer = ∅) (hheld : Accounted held account) :
    Settled request held answer account := by
  apply settled_taken hhands
  rw [htakes, Set.sdiff_empty]
  exact hheld

theorem settled_opened {request : Request} {answer : request.Answer} {sess : Session}
    (hhands : hands request answer = ownDescriptor sess)
    (h : Opened (held \ takes request) sess account) : Settled request held answer account := by
  rw [ownDescriptor_of_nonneg h.nonneg] at hhands
  constructor
  · change Disjoint (held \ takes request) (hands request answer)
    rw [hhands, Set.disjoint_singleton_right]
    exact fun hmem ↦ Set.disjoint_left.mp h.fresh hmem (Set.mem_insert _ _)
  · change Accounted (held \ takes request ∪ hands request answer) account
    rw [hhands, Set.union_singleton]
    exact h.held

/-- A function that takes nothing and hands nothing out. -/
theorem settles_balanced (rounds : ℕ) {request : Request} (hheld : Accounted held account)
    (htakes : takes request = ∅) (hhands : ∀ answer, hands request answer = ∅)
    (h : Balanced held (request.run rounds)) :
    Procedure.wp ledger.contract (request.run rounds)
      (fun _ answer _ account' ↦ Settled request held answer account') thread account :=
  Procedure.wp_mono (h thread account hheld) fun _ answer _ _ hsame ↦
    settled_idle htakes (hhands answer) hsame

/-- The out-parameter is written behind the call. -/
theorem balanced_filled {α β : Type} {procedure : C (Result α)} {fill : Result α → C β}
    (h : Balanced held procedure) (hfill : ∀ res, ∃ value, fill res = pure value) :
    Balanced held (procedure >>= fill) := by
  refine h.bind fun res ↦ ?_
  obtain ⟨value, hvalue⟩ := hfill res
  rw [hvalue]
  exact Procedure.keeps_pure value

theorem balanced_invalid {α : Type} (value : α) : Balanced held (do
    return ((← ttFail .EINVAL), value) : C (Status × α)) :=
  (keeps_ttFail _).bind fun _ ↦ Procedure.keeps_pure _

theorem balanced_ttKmdVersion (rounds : ℕ) (version : Option Version) :
    Balanced held (ttKmdVersion rounds version) := by
  cases version with
  | none => exact balanced_invalid _
  | some version =>
    exact balanced_filled (balanced_kmdVersion rounds) fun res ↦
      by cases res <;> exact ⟨_, rfl⟩

theorem balanced_ttFwVersion (sess : Option Session) (version : Option Version) :
    Balanced held (ttFwVersion sess version) := by
  cases sess with
  | none => exact balanced_invalid _
  | some sess =>
    cases version with
    | none => exact balanced_invalid _
    | some version =>
      exact balanced_filled balanced_fwVersion fun res ↦
        by cases res <;> exact ⟨_, rfl⟩

theorem balanced_ttDevFromPath (path : Option String) (dev : Option Device) :
    Balanced held (ttDevFromPath path dev) := by
  cases path with
  | none => exact balanced_invalid _
  | some path =>
    cases dev with
    | none => exact balanced_invalid _
    | some dev =>
      exact balanced_filled (balanced_devFromPath path) fun res ↦
        by cases res <;> exact ⟨_, rfl⟩

theorem balanced_ttDevFromBdf (rounds : ℕ) (addr : Option String) (dev : Option Device) :
    Balanced held (ttDevFromBdf rounds addr dev) := by
  cases addr with
  | none => exact balanced_invalid _
  | some addr =>
    cases dev with
    | none => exact balanced_invalid _
    | some dev =>
      exact balanced_filled (balanced_devFromBdf rounds addr.toList) fun res ↦
        by cases res <;> exact ⟨_, rfl⟩

theorem balanced_ttDevInfo {sess : Session} (hcovers : ownDescriptor sess ⊆ held)
    (info : Option DevInfo) : Balanced held (ttDevInfo (some sess) info) := by
  cases info with
  | none => exact balanced_invalid _
  | some info =>
    exact balanced_filled (balanced_devInfo hcovers) fun res ↦
      by cases res <;> exact ⟨_, rfl⟩

theorem balanced_ttTelemetry {sess : Session} (hcovers : ownDescriptor sess ⊆ held)
    (table : Option Ref) : Balanced held (ttTelemetry (some sess) table) := by
  cases table with
  | none => exact keeps_ttFail _
  | some table => exact balanced_telemetry hcovers table

theorem balanced_ttReset (rounds : ℕ) (dev : Option Device) :
    Balanced held (ttReset rounds dev) := by
  cases dev with
  | none => exact keeps_ttFail _
  | some dev => exact balanced_resetDevice rounds dev

/-! ### Sessions -/

theorem settles_ttOpen (hheld : Accounted held account) (dev : Option Device)
    (sess : Option Session) (flags : UInt16) :
    Procedure.wp ledger.contract (ttOpen dev sess flags) (fun _ answer _ account' ↦
      Settled (.ttOpen dev sess flags) held answer account') thread account := by
  cases dev with
  | none => exact settled_idle rfl rfl hheld
  | some dev =>
    cases sess with
    | none => exact settled_idle rfl rfl hheld
    | some old =>
      refine Procedure.wp_call (wp_openSession hheld dev flags) fun _ res _ account₁ hopen ↦ ?_
      cases res with
      | TT_ERR => exact settled_idle rfl rfl hopen
      | TT_OK sess =>
        have hkept : held \ takes (.ttOpen (some dev) (some old) flags) = held := Set.sdiff_empty
        exact settled_opened rfl (hkept.symm ▸ hopen)

theorem settles_ttClose {sess : Session} (hheld : Accounted held account)
    (hcovers : ownDescriptor sess ⊆ held) :
    Procedure.wp ledger.contract (ttClose (some sess)) (fun _ answer _ account' ↦
      Settled (.ttClose (some sess)) held answer account') thread account :=
  Procedure.wp_call (wp_closeSession hheld hcovers) fun _ _ _ _ hclose ↦
    settled_taken rfl hclose.1

theorem settles_ttReopen {sess : Session} (hheld : Accounted held account)
    (hcovers : ownDescriptor sess ⊆ held) :
    Procedure.wp ledger.contract (ttReopen (some sess)) (fun _ answer _ account' ↦
      Settled (.ttReopen (some sess)) held answer account') thread account := by
  have hreopen : Procedure.wp ledger.contract (reopenSession sess) (fun _ out _ account' ↦
      match out.1 with
      | .TT_OK _ => Opened (held \ ownAll sess) out.2 account'
      | .TT_ERR => Accounted (held \ ownAll sess) account') thread account := by
    refine Procedure.wp_call (wp_closeSession hheld hcovers) fun _ closed _ account₁ hclose ↦ ?_
    refine Procedure.wp_call (wp_openSession hclose.1 closed.2.dev closed.2.flags)
      fun _ res _ account₂ hopen ↦ ?_
    cases res with
    | TT_OK sess' => exact hopen
    | TT_ERR => exact hopen
  refine Procedure.wp_call hreopen fun _ out _ _ hout ↦ ?_
  obtain ⟨status, sess'⟩ := out
  cases status with
  | TT_OK done => exact settled_opened rfl hout
  | TT_ERR => exact settled_taken rfl hout

theorem settles_ttResetWith (rounds : ℕ) {sess : Session} (hheld : Accounted held account)
    (hcovers : ownDescriptor sess ⊆ held) :
    Procedure.wp ledger.contract (ttResetWith rounds (some sess)) (fun _ answer _ account' ↦
      Settled (.ttResetWith (some sess)) held answer account') thread account := by
  have hreset : Procedure.wp ledger.contract (resetWith rounds sess)
      (fun _ _ _ account' ↦ Accounted (held \ ownAll sess) account') thread account := by
    unfold resetWith
    split
    · rename_i hfd
      rw [ownAll, if_pos hfd, Set.sdiff_empty]
      exact hheld
    · refine Procedure.wp_call (wp_closeSession hheld hcovers) fun _ closed _ account₁ hclose ↦ ?_
      obtain ⟨status, sess'⟩ := closed
      cases status with
      | TT_ERR => exact hclose.1
      | TT_OK done =>
        exact (balanced_resetDevice rounds sess'.dev).wp_call hclose.1 fun _ _ _ _ hsame ↦ hsame
  exact Procedure.wp_call hreset fun _ _ _ _ hgone ↦ settled_taken rfl hgone

/-! ### Windows -/

theorem settles_ttTlbAlloc {sess : Session} (hheld : Accounted held account)
    (hcovers : ownDescriptor sess ⊆ held) (size mode : ℕ) (tlb : Option Tlb) :
    Procedure.wp ledger.contract (ttTlbAlloc (some sess) size mode tlb) (fun _ answer _ account' ↦
      Settled (.ttTlbAlloc (some sess) size mode tlb) held answer account') thread account := by
  cases tlb with
  | none => exact settled_idle rfl rfl hheld
  | some old =>
    refine Procedure.wp_call (wp_tlbAlloc hheld size mode hcovers) fun _ out _ account₁ halloc ↦ ?_
    obtain ⟨status, tlb⟩ := out
    cases status with
    | TT_ERR => exact settled_idle rfl rfl halloc
    | TT_OK done =>
      obtain ⟨hfd, hfresh, -, hptr, hgranted⟩ := halloc
      constructor
      · change Disjoint (held \ ∅) (ownHandle sess tlb)
        rw [ownHandle_allocated hfd hptr, Set.sdiff_empty]
        exact Set.disjoint_singleton_right.mpr hfresh
      · change Accounted (held \ ∅ ∪ ownHandle sess tlb) account₁
        rw [ownHandle_allocated hfd hptr, Set.sdiff_empty, Set.union_singleton]
        exact hgranted

theorem settles_ttTlbBind {sess : Session} {tlb : Tlb} (hheld : Accounted held account)
    (hcovers : ownDescriptor sess ∪ ownHandle sess tlb ⊆ held)
    (cfg : Option TlbConfig) :
    Procedure.wp ledger.contract (ttTlbBind (some sess) (some tlb) cfg) (fun _ answer _ account' ↦
      Settled (.ttTlbBind (some sess) (some tlb) cfg) held answer account') thread account := by
  cases cfg with
  | none => exact settled_idle rfl rfl hheld
  | some cfg =>
    have hwindow : ownWindow sess tlb ⊆ held :=
      Set.subset_union_left.trans (Set.union_subset_iff.mp hcovers).2
    exact Procedure.wp_call (wp_tlbBind hheld cfg hcovers) fun _ _ _ _ hbind ↦
      hbind.1.handle hwindow

/-- The answer hands back what is left of the handle. -/
theorem hands_ttTlbFree (sess : Session) (tlb : Tlb) (out : Status × Tlb) :
    hands (.ttTlbFree (some sess) (some tlb)) (out.1, some out.2) = ownLeft sess out := by
  obtain ⟨status, tlb'⟩ := out
  cases status with
  | TT_ERR => rfl
  | TT_OK done => rfl

theorem settles_ttTlbFree {sess : Session} {tlb : Tlb} (hheld : Accounted held account)
    (hcovers : ownDescriptor sess ∪ ownHandle sess tlb ⊆ held) :
    Procedure.wp ledger.contract (ttTlbFree (some sess) (some tlb)) (fun _ answer _ account' ↦
      Settled (.ttTlbFree (some sess) (some tlb)) held answer account') thread account := by
  refine Procedure.wp_call (wp_tlbFree hheld hcovers) fun _ out _ account' hfree ↦ ?_
  constructor
  · change Disjoint (held \ ownHandle sess tlb) (hands (.ttTlbFree (some sess) (some tlb)) _)
    rw [hands_ttTlbFree]
    exact hfree.fresh
  · change Accounted (held \ ownHandle sess tlb ∪ hands (.ttTlbFree (some sess) (some tlb)) _)
      account'
    rw [hands_ttTlbFree]
    exact hfree.held

end Functions

/-! ## Clients -/

section Clients

variable {held : Set Resource} {account : Account} {thread : Thread}

/-- Every public function keeps the ledger of the client in step with that of the system. -/
theorem settles (rounds : ℕ) (request : Request) (hheld : Accounted held account)
    (hcovers : needs request ⊆ held) :
    Procedure.wp ledger.contract (request.run rounds) (fun _ answer _ account' ↦
      Settled request held answer account') thread account := by
  cases request with
  | ttKmdVersion version =>
    exact settles_balanced rounds hheld rfl (fun _ ↦ rfl) (balanced_ttKmdVersion rounds version)
  | ttFwVersion sess version =>
    exact settles_balanced rounds hheld rfl (fun _ ↦ rfl) (balanced_ttFwVersion sess version)
  | ttDevFromPath path dev =>
    exact settles_balanced rounds hheld rfl (fun _ ↦ rfl) (balanced_ttDevFromPath path dev)
  | ttDevFromBdf addr dev =>
    exact settles_balanced rounds hheld rfl (fun _ ↦ rfl) (balanced_ttDevFromBdf rounds addr dev)
  | ttDevScan cap =>
    exact settles_balanced rounds hheld rfl (fun _ ↦ rfl) (balanced_ttDevScan rounds cap)
  | ttOpen dev sess flags => exact settles_ttOpen hheld dev sess flags
  | ttReset dev =>
    exact settles_balanced rounds hheld rfl (fun _ ↦ rfl) (balanced_ttReset rounds dev)
  | ttClose sess =>
    cases sess with
    | none => exact settled_idle rfl rfl hheld
    | some sess => exact settles_ttClose hheld hcovers
  | ttReopen sess =>
    cases sess with
    | none => exact settled_idle rfl rfl hheld
    | some sess => exact settles_ttReopen hheld hcovers
  | ttResetWith sess =>
    cases sess with
    | none => exact settled_idle rfl rfl hheld
    | some sess => exact settles_ttResetWith rounds hheld hcovers
  | ttDevInfo sess info =>
    cases sess with
    | none => exact settled_idle rfl rfl hheld
    | some sess =>
      exact settles_balanced rounds hheld rfl (fun _ ↦ rfl) (balanced_ttDevInfo hcovers info)
  | ttTlbAlloc sess size mode tlb =>
    cases sess with
    | none => exact settled_idle rfl rfl hheld
    | some sess => exact settles_ttTlbAlloc hheld hcovers size mode tlb
  | ttTlbBind sess tlb cfg =>
    cases sess with
    | none => exact settled_idle rfl rfl hheld
    | some sess =>
      cases tlb with
      | none => exact settled_idle rfl rfl hheld
      | some tlb => exact settles_ttTlbBind hheld hcovers cfg
  | ttTlbFree sess tlb =>
    cases sess with
    | none => exact settled_idle rfl rfl hheld
    | some sess =>
      cases tlb with
      | none => exact settled_idle rfl rfl hheld
      | some tlb => exact settles_ttTlbFree hheld hcovers
  | ttSmcCall sess req rsp timeout =>
    cases sess with
    | none =>
      refine settles_balanced rounds hheld rfl (fun _ ↦ rfl) ?_
      change Balanced held (ttSmcCall rounds none req rsp timeout)
      unfold ttSmcCall
      split
      · exact keeps_ttFail _
      · exact keeps_ttFail _
    | some sess =>
      exact settles_balanced rounds hheld rfl (fun _ ↦ rfl)
        (balanced_ttSmcCall hcovers rounds req rsp timeout)
  | ttSmcPost sess req =>
    cases sess with
    | none => exact settled_idle rfl rfl hheld
    | some sess =>
      exact settles_balanced rounds hheld rfl (fun _ ↦ rfl)
        (balanced_ttSmcPost hcovers req)
  | ttSmcPoll sess rsp =>
    cases sess with
    | none => exact settled_idle rfl rfl hheld
    | some sess =>
      exact settles_balanced rounds hheld rfl (fun _ ↦ rfl)
        (balanced_ttSmcPoll hcovers rsp)
  | ttSmcWait sess rsp timeout =>
    cases sess with
    | none => exact settled_idle rfl rfl hheld
    | some sess =>
      exact settles_balanced rounds hheld rfl (fun _ ↦ rfl)
        (balanced_ttSmcWait hcovers rounds rsp timeout)
  | ttSmcDrop sess =>
    cases sess with
    | none => exact settled_idle rfl rfl hheld
    | some sess =>
      exact settles_balanced rounds hheld rfl (fun _ ↦ rfl)
        (balanced_ttSmcDrop hcovers)
  | ttTelemetry sess table =>
    cases sess with
    | none => exact settled_idle rfl rfl hheld
    | some sess =>
      exact settles_balanced rounds hheld rfl (fun _ ↦ rfl) (balanced_ttTelemetry hcovers table)
  | ttPower sess flags =>
    cases sess with
    | none => exact settled_idle rfl rfl hheld
    | some sess =>
      exact settles_balanced rounds hheld rfl (fun _ ↦ rfl)
        (balanced_ttPower hcovers flags)

theorem serves (rounds : ℕ) :
    Procedure.Serves clientLedger.contract ledger.contract Accounted (Request.run rounds) := by
  intro request thread held account hcovers hheld
  refine Procedure.wp_mono (settles rounds request hheld hcovers)
    fun _ answer _ account' hsettled ↦ ?_
  exact ⟨clientLedger.after held ⟨request, answer⟩, ⟨hsettled.1, rfl⟩, hsettled.2⟩

end Clients

/-! ## A client -/

def sampleClosed : Session := { sampleSession with fd := -1 }

def sampleHandle : Tlb := { id := 0, ptr := NULL, len := 0, idx := 0 }

/-- Open a device, use a window of it, and give everything back. -/
def sampleClient : Program Api Status :=
  .call (.ttOpen (some sampleClosed.dev) (some sampleClosed) 0) fun opened ↦ match opened with
    | (.TT_OK _, some sess) =>
      .call (.ttTlbAlloc (some sess) TT_TLB_2MB TT_TLB_UC (some sampleHandle)) fun granted ↦
        match granted with
        | (.TT_OK _, some tlb) =>
          .call (.ttTlbBind (some sess) (some tlb) (some (csmConfig wormhole))) fun bound ↦
            match bound with
            | (_, some tlb) =>
              .call (.ttTlbFree (some sess) (some tlb)) fun freed ↦
                .call (.ttClose (some sess)) fun _ ↦ .done freed.1
            | (_, none) => .stop .aborted
        | _ => .call (.ttClose (some sess)) fun _ ↦ .done .TT_ERR
    | _ => .done .TT_ERR

def sampleBound : Tlb := { sampleTlb with ptr := 4096 }

def sampleThread : Thread := { Thread.initial with errno := .other 0 }

/-- FREE_TLB gives this reply. -/
def sampleTrace (reply : Reply Unit) : List (Event Sys) :=
  [⟨.openFile (devicePath sampleClosed.dev) (openFlags 0), .ok 3 (.other 0)⟩,
    ⟨.allocateTlb 3 TT_TLB_2MB, .ok { id := 5, mmapOffsetUc := 0, mmapOffsetWc := 0 } (.other 0)⟩,
    ⟨.mmap TT_TLB_2MB 3 0, .ok 4096 (.other 0)⟩,
    ⟨.configureTlb 3 5 (nocTlbConfig (csmConfig wormhole)), .ok () (.other 0)⟩,
    ⟨.munmap 4096 TT_TLB_2MB, .ok () (.other 0)⟩,
    ⟨.freeTlb 3 5, reply⟩,
    ⟨.close 3, .ok () (.other 0)⟩]

def sampleStatus : Reply Unit → Status
  | .ok _ _ => .TT_OK ()
  | .fail _ => .TT_ERR

theorem sampleTrace_runs (reply : Reply Unit) : Procedure.Executes (.anything : Contract Sys Unit)
    (sampleClient.handle (Request.run 1)) Thread.initial () (sampleTrace reply)
    (sampleStatus reply) sampleThread () := by
  have hopen : Procedure.Executes (.anything : Contract Sys Unit)
      (ttOpen (some sampleClosed.dev) (some sampleClosed) 0) Thread.initial () _
      (.TT_OK (), some sampleSession) sampleThread () :=
    Procedure.executes_bind.mpr ⟨_, [], _, _, _, rfl,
      executes_openSession sampleClosed.dev (by decide) trivial, .done⟩
  have halloc : Procedure.Executes (.anything : Contract Sys Unit)
      (ttTlbAlloc (some sampleSession) TT_TLB_2MB TT_TLB_UC (some sampleHandle)) sampleThread ()
      [⟨.allocateTlb 3 TT_TLB_2MB,
        .ok { id := 5, mmapOffsetUc := 0, mmapOffsetWc := 0 } (.other 0)⟩]
      (.TT_OK (), some sampleTlb) sampleThread () := .call trivial .done
  have hbind : Procedure.Executes (.anything : Contract Sys Unit)
      (ttTlbBind (some sampleSession) (some sampleTlb) (some (csmConfig wormhole))) sampleThread ()
      [⟨.mmap TT_TLB_2MB 3 0, .ok 4096 (.other 0)⟩,
        ⟨.configureTlb 3 5 (nocTlbConfig (csmConfig wormhole)), .ok () (.other 0)⟩]
      (.TT_OK (), some sampleBound) sampleThread () :=
    .call (v := ()) trivial (.call trivial .done)
  have hfree : ∃ tlb thread, Procedure.Executes (.anything : Contract Sys Unit)
      (ttTlbFree (some sampleSession) (some sampleBound)) sampleThread ()
      [⟨.munmap 4096 TT_TLB_2MB, .ok () (.other 0)⟩, ⟨.freeTlb 3 5, reply⟩]
      (sampleStatus reply, tlb) { sampleThread with errno := thread } () := by
    cases reply with
    | ok value residue => exact ⟨_, _, .call (v := ()) trivial (.call trivial .done)⟩
    | fail err => exact ⟨_, _, .call (v := ()) trivial (.call trivial .done)⟩
  obtain ⟨tlb, errno, hfree⟩ := hfree
  have hclose : Procedure.Executes (.anything : Contract Sys Unit)
      (ttClose (some sampleSession)) { sampleThread with errno := errno } ()
      [⟨.close 3, .ok () (.other 0)⟩]
      (.TT_OK (), some sampleClosed) sampleThread () := .call trivial .done
  exact Procedure.executes_bind.mpr ⟨_, _, _, _, _, rfl, hopen,
    Procedure.executes_bind.mpr ⟨_, _, _, _, _, rfl, halloc,
    Procedure.executes_bind.mpr ⟨_, _, _, _, _, rfl, hbind,
    Procedure.executes_bind.mpr ⟨_, _, _, _, _, rfl, hfree,
    Procedure.executes_bind.mpr ⟨_, [], _, _, _, rfl, hclose, .done⟩⟩⟩⟩⟩

end TtDal.Safety.Confinement
