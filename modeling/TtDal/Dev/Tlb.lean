import TtDal.Dev.Session

/-!
# TLB windows

The functions of `dev/tlb.c`. A handle holds the driver's id of the window, the start of its
mapping (null while unconfigured), its length and the offset to map it at. Every function takes
the handle by value and returns the handle it leaves behind, whether it succeeds or not.
-/

namespace TtDal.Dev

open Effect Platform

/-- `tt_tlb_t` -/
structure Tlb where
  id : ℕ
  ptr : ℕ
  len : ℕ
  idx : ℕ
  deriving DecidableEq, Repr

/-- `tt_tlb_config_t` -/
structure TlbConfig where
  addr : UInt64
  xEnd : UInt8
  yEnd : UInt8
  xStart : UInt8 := 0
  yStart : UInt8 := 0
  noc : UInt8 := 0
  mcast : Bool := false
  linked : Bool := false
  staticVc : UInt8 := 0
  deriving DecidableEq, Repr

def TT_TLB_2MB : ℕ := 2 ^ 21

def TT_TLB_UC : ℕ := 0

def TT_TLB_WC : ℕ := 1

/-- A handle after its allocation. -/
def sampleTlb : Tlb := { id := 5, ptr := NULL, len := TT_TLB_2MB, idx := 0 }

/-- The configuration the driver is given, always with strict ordering. -/
def nocTlbConfig (cfg : TlbConfig) : NocTlbConfig where
  addr := cfg.addr
  xEnd := cfg.xEnd.toUInt16
  yEnd := cfg.yEnd.toUInt16
  xStart := cfg.xStart.toUInt16
  yStart := cfg.yStart.toUInt16
  noc := cfg.noc
  mcast := cfg.mcast.toUInt8
  ordering := 1
  linked := cfg.linked.toUInt8
  staticVc := cfg.staticVc

/-- The part of `tt_tlb_free` behind the unmapping. -/
def tlbRelease (sess : Session) (tlb : Tlb) : C (Status × Tlb) := do
  if sess.fd < 0 then
    return (← ttFail .ENOTCONN, tlb)
  else
    match ← sys (.freeTlb sess.fd tlb.id) with
    | .fail err => return (← ttFailIo err, tlb)
    | .ok _ _ => return (.TT_OK (), { tlb with id := 0 })

def tlbFree (sess : Session) (tlb : Tlb) : C (Status × Tlb) := do
  if tlb.ptr ≠ NULL then
    match ← sys (.munmap tlb.ptr tlb.len) with
    | .fail _ => return (.TT_ERR, tlb)
    | .ok _ _ => tlbRelease sess { tlb with ptr := NULL }
  else
    tlbRelease sess { tlb with ptr := NULL }

def tlbAlloc (sess : Session) (size mode : ℕ) (tlb : Tlb) : C (Status × Tlb) := do
  if sess.fd < 0 then
    return (← ttFail .ENOTCONN, tlb)
  else
    match ← sys (.allocateTlb sess.fd size) with
    | .fail err => return (← ttFailIo err, tlb)
    | .ok out _ =>
      let tlb : Tlb := { id := out.id, ptr := NULL, len := size, idx := 0 }
      if mode = TT_TLB_UC then
        return (.TT_OK (), { tlb with idx := out.mmapOffsetUc })
      else if mode = TT_TLB_WC then
        return (.TT_OK (), { tlb with idx := out.mmapOffsetWc })
      else
        setErrno .EINVAL
        let err ← getErrno
        let (_, tlb) ← tlbFree sess tlb
        return (← ttFail err, tlb)

/-- The `cleanup` label of `tt_tlb_bind`. -/
def tlbUnconfigure (tlb : Tlb) : C (Status × Tlb) := do
  let err ← getErrno
  if tlb.ptr ≠ NULL then
    let _ ← sys (.munmap tlb.ptr tlb.len)
    return (← ttFail err, { tlb with ptr := NULL })
  else
    return (← ttFail err, tlb)

def tlbBind (sess : Session) (tlb : Tlb) (cfg : TlbConfig) : C (Status × Tlb) := do
  if sess.fd < 0 then
    return (← ttFail .ENOTCONN, tlb)
  else
    match ← sys (.mmap tlb.len sess.fd tlb.idx) with
    | .fail err =>
      let _ : Status ← ttFailIo err
      tlbUnconfigure tlb
    | .ok ptr _ =>
      match ← sys (.configureTlb sess.fd tlb.id (nocTlbConfig cfg)) with
      | .fail err =>
        let _ ← sys (.munmap ptr tlb.len)
        let _ : Status ← ttFailIo err
        tlbUnconfigure tlb
      | .ok _ _ =>
        if tlb.ptr ≠ NULL then
          let _ ← sys (.munmap tlb.ptr tlb.len)
          return (.TT_OK (), { tlb with ptr := ptr })
        else
          return (.TT_OK (), { tlb with ptr := ptr })

/-! ## Entry points -/

def ttTlbAlloc (sess : Option Session) (size mode : ℕ) (tlb : Option Tlb) :
    C (Status × Option Tlb) := do
  match sess, tlb with
  | some sess, some tlb =>
    let (status, tlb) ← tlbAlloc sess size mode tlb
    return (status, some tlb)
  | _, _ => return (← ttFail .EINVAL, tlb)

def ttTlbBind (sess : Option Session) (tlb : Option Tlb) (cfg : Option TlbConfig) :
    C (Status × Option Tlb) := do
  match sess, tlb, cfg with
  | some sess, some tlb, some cfg =>
    let (status, tlb) ← tlbBind sess tlb cfg
    return (status, some tlb)
  | _, _, _ => return (← ttFail .EINVAL, tlb)

def ttTlbFree (sess : Option Session) (tlb : Option Tlb) : C (Status × Option Tlb) := do
  match sess, tlb with
  | some sess, some tlb =>
    let (status, tlb) ← tlbFree sess tlb
    return (status, some tlb)
  | _, _ => return (← ttFail .EINVAL, tlb)

/-! ## Invariants

A call keeps what the requests it makes keep. -/

section Invariants

variable {W : Type} {contract : Contract Sys W} {inv : W → Prop} {sess : Session} {tlb : Tlb}

theorem keeps_tlbRelease (hfree : Procedure.Keeps contract inv (sys (.freeTlb sess.fd tlb.id))) :
    Procedure.Keeps contract inv (tlbRelease sess tlb) := by
  unfold tlbRelease
  split
  · exact (keeps_ttFail _).bind fun _ ↦ Procedure.keeps_pure _
  · refine hfree.bind fun reply ↦ ?_
    cases reply with
    | fail err => exact (keeps_ttFailIo err).bind fun _ ↦ Procedure.keeps_pure _
    | ok value residue => exact Procedure.keeps_pure _

/-- Nothing is unmapped for a handle that points at nothing. -/
theorem keeps_tlbFree
    (hunmap : tlb.ptr ≠ NULL → Procedure.Keeps contract inv (sys (.munmap tlb.ptr tlb.len)))
    (hfree : Procedure.Keeps contract inv (sys (.freeTlb sess.fd tlb.id))) :
    Procedure.Keeps contract inv (tlbFree sess tlb) := by
  have hrelease : Procedure.Keeps contract inv (tlbRelease sess { tlb with ptr := NULL }) :=
    keeps_tlbRelease hfree
  unfold tlbFree
  split
  · rename_i hptr
    refine (hunmap hptr).bind fun reply ↦ ?_
    cases reply with
    | fail err => exact Procedure.keeps_pure _
    | ok value residue => exact hrelease
  · exact hrelease

/-- A new handle points at nothing. -/
theorem keeps_tlbAlloc {size : ℕ} (mode : ℕ)
    (halloc : Procedure.Keeps contract inv (sys (.allocateTlb sess.fd size)))
    (hfree : ∀ id, Procedure.Keeps contract inv (sys (.freeTlb sess.fd id))) :
    Procedure.Keeps contract inv (tlbAlloc sess size mode tlb) := by
  unfold tlbAlloc
  split
  · exact (keeps_ttFail _).bind fun _ ↦ Procedure.keeps_pure _
  · refine halloc.bind fun reply ↦ ?_
    cases reply with
    | fail err => exact (keeps_ttFailIo err).bind fun _ ↦ Procedure.keeps_pure _
    | ok out residue =>
      dsimp only
      split
      · exact Procedure.keeps_pure _
      · split
        · exact Procedure.keeps_pure _
        · refine (keeps_setErrno _).bind fun _ ↦ keeps_getErrno.bind fun err ↦ ?_
          refine (keeps_tlbFree (fun hptr ↦ absurd rfl hptr) (hfree out.id)).bind fun _ ↦ ?_
          exact (keeps_ttFail _).bind fun _ ↦ Procedure.keeps_pure _

theorem keeps_tlbUnconfigure
    (hunmap : ∀ ptr, Procedure.Keeps contract inv (sys (.munmap ptr tlb.len))) :
    Procedure.Keeps contract inv (tlbUnconfigure tlb) := by
  refine keeps_getErrno.bind fun err ↦ ?_
  split
  · exact (hunmap _).bind fun _ ↦ (keeps_ttFail _).bind fun _ ↦ Procedure.keeps_pure _
  · exact (keeps_ttFail _).bind fun _ ↦ Procedure.keeps_pure _

theorem keeps_tlbBind (cfg : TlbConfig)
    (hmap : Procedure.Keeps contract inv (sys (.mmap tlb.len sess.fd tlb.idx)))
    (hunmap : ∀ ptr, Procedure.Keeps contract inv (sys (.munmap ptr tlb.len)))
    (hconfigure : Procedure.Keeps contract inv
      (sys (.configureTlb sess.fd tlb.id (nocTlbConfig cfg)))) :
    Procedure.Keeps contract inv (tlbBind sess tlb cfg) := by
  have hcleanup := keeps_tlbUnconfigure hunmap
  unfold tlbBind
  split
  · exact (keeps_ttFail _).bind fun _ ↦ Procedure.keeps_pure _
  · refine hmap.bind fun reply ↦ ?_
    cases reply with
    | fail err => exact (keeps_ttFailIo err).bind fun _ ↦ hcleanup
    | ok ptr residue =>
      refine hconfigure.bind fun reply ↦ ?_
      cases reply with
      | fail err => exact (hunmap _).bind fun _ ↦ (keeps_ttFailIo err).bind fun _ ↦ hcleanup
      | ok value residue =>
        dsimp only
        split
        · exact (hunmap _).bind fun _ ↦ Procedure.keeps_pure _
        · exact Procedure.keeps_pure _

end Invariants

end TtDal.Dev
