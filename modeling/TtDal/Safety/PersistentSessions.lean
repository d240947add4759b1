import TtDal.Binding.Session
import TtDal.Driver.Presence
import TtDal.Safety.ErrorReports

/-!
# Resets behind a persistent session

The device may be reset or removed between any two system calls of an operation that a binding
performs on a session object. An operation whose descriptor was severed before reports `ECONNRESET`,
and one that reports it was severed in the end. A persistent session reopens and tries again, so its
caller never sees `ECONNRESET`. It reports `ENODEV` when the device could not be opened again, when
it is gone, or after a reset at each of its attempts.
-/

namespace TtDal.Safety.PersistentSessions

open Effect Platform Dev Driver Binding GuardedReads

open Presence (Upsets Later)

/-- How a part of an operation goes: it changes no descriptor, and it reports `ENODEV` only if the
device is gone, and `ECONNRESET` only if its descriptor is severed. -/
structure Goes (sess : Session) (presence : Presence) (failed : Prop) (err : Errno)
    (presence' : Presence) : Prop where
  later : Later presence presence'
  sound : presence'.Sound
  removed : failed → err = .ENODEV → presence'.present = false
  lost : failed → err = .ECONNRESET → presence'.Severed sess.fd

/-- It starts with a request on its descriptor, which must not be severed before. -/
structure Asks (sess : Session) (presence : Presence) (failed : Prop) (err : Errno)
    (presence' : Presence) : Prop extends Goes sess presence failed err presence' where
  severed : presence.Severed sess.fd → failed ∧ err = .ECONNRESET

/-- A later state with the same descriptors. -/
def Stays (presence presence' : Presence) : Prop :=
  Later presence presence' ∧ presence'.Sound

section Parts

variable {dev : Device} {sess : Session} {presence presence' middle : Presence} {failed : Prop}
  {err : Errno} {fd : ℤ}

theorem Stays.trans (h : Stays presence middle) (h' : Stays middle presence') :
    Stays presence presence' :=
  ⟨h.1.trans h'.1, h'.2⟩

theorem stays_upsets (h : presence.Sound) (hupsets : Upsets presence presence') :
    Stays presence presence' :=
  ⟨hupsets.later, h.upsets hupsets⟩

/-- A part that reports none of the two errors. -/
theorem goes_other (h : Stays presence presence') (hdev : failed → err ≠ .ENODEV)
    (hreset : failed → err ≠ .ECONNRESET) : Goes sess presence failed err presence' where
  later := h.1
  sound := h.2
  removed hfailed herr := absurd herr (hdev hfailed)
  lost hfailed herr := absurd herr (hreset hfailed)

theorem Goes.stays (h : Goes sess presence failed err presence') : Stays presence presence' :=
  ⟨h.later, h.sound⟩

theorem Goes.after (h : Goes sess middle failed err presence') (hlater : Later presence middle) :
    Goes sess presence failed err presence' where
  later := hlater.trans h.later
  sound := h.sound
  removed := h.removed
  lost := h.lost

/-- What happens behind a part does not change its report. -/
theorem Goes.cleaned (h : Goes sess presence failed err middle) (hstays : Stays middle presence') :
    Goes sess presence failed err presence' where
  later := h.later.trans hstays.1
  sound := hstays.2
  removed hfailed herr := hstays.1.removed (h.removed hfailed herr)
  lost hfailed herr := (h.lost hfailed herr).later h.sound hstays.1

/-- A part behind a request that was granted. -/
theorem Goes.asked (h : Goes sess middle failed err presence') (hlater : Later presence middle)
    (hlive : ¬presence.Severed sess.fd) : Asks sess presence failed err presence' where
  toGoes := h.after hlater
  severed hsevered := absurd hsevered hlive

theorem Asks.live (h : Asks sess presence failed err presence') (hok : ¬failed) :
    ¬presence.Severed sess.fd :=
  fun hsevered ↦ hok (h.severed hsevered).1

theorem Asks.cleaned (h : Asks sess presence failed err middle) (hstays : Stays middle presence') :
    Asks sess presence failed err presence' where
  toGoes := h.toGoes.cleaned hstays
  severed := h.severed

theorem Asks.congr {failed' : Prop} (h : Asks sess presence failed err presence')
    (hiff : failed' ↔ failed) : Asks sess presence failed' err presence' :=
  propext hiff ▸ h

/-- An operation on a closed session. -/
theorem asks_closed (h : presence.Sound) (hfd : sess.fd < 0) (hdev : err ≠ .ENODEV)
    (hreset : err ≠ .ECONNRESET) : Asks sess presence failed err presence where
  toGoes := goes_other ⟨.refl presence, h⟩ (fun _ ↦ hdev) fun _ ↦ hreset
  severed := by
    rintro ⟨before, hbefore, -⟩
    have hpos := h.numbered sess.fd before hbefore
    omega

/-- A request that is refused is reported. -/
theorem asks_refused {β : Type} (h : presence.Sound) (hupsets : Upsets presence middle)
    (hanswer : middle.AnswersRequest sess.fd (.fail err : Reply β)) (hfailed : failed) :
    Asks sess presence failed (normalise err) middle where
  later := hupsets.later
  sound := h.upsets hupsets
  removed _ hdev := absurd hdev (normalise_ne_ENODEV err)
  lost _ hlost := by
    apply hanswer.severed.mp
    unfold normalise at hlost
    split at hlost
    · rename_i hcode
      rw [hcode]
    · exact absurd (congrArg Reply.fail hlost) hanswer.library
  severed hsevered := by
    cases hanswer.severed.mpr (hsevered.later h hupsets.later)
    exact ⟨hfailed, rfl⟩

/-- A request that is granted was not made on a severed descriptor. -/
theorem live_of_granted {β : Type} {value : β} {residue : Errno} (h : presence.Sound)
    (hupsets : Upsets presence middle)
    (hanswer : middle.AnswersRequest fd (.ok value residue)) : ¬presence.Severed fd :=
  fun hsevered ↦ nomatch hanswer.severed.mpr (hsevered.later h hupsets.later)

theorem asks_granted {β : Type} {value : β} {residue : Errno} (h : presence.Sound)
    (hupsets : Upsets presence middle)
    (hanswer : middle.AnswersRequest sess.fd (.ok value residue)) (hok : ¬failed) :
    Asks sess presence failed err middle where
  toGoes := goes_other (stays_upsets h hupsets) (fun hfailed ↦ absurd hfailed hok)
    fun hfailed ↦ absurd hfailed hok
  severed hsevered := absurd hsevered (live_of_granted h hupsets hanswer)

/-! ## Requests that change no descriptor -/

/-- A request that opens and closes nothing. -/
def Plain : Syscall → Prop
  | .openFile _ _ | .close _ => False
  | _ => True

theorem plain_stays {op : Syscall} {answer : op.Answer} (hplain : Plain op) (h : presence.Sound)
    (hanswer : Presence.answers dev op presence answer presence') : Stays presence presence' := by
  have hsame : Stays presence presence := ⟨.refl presence, h⟩
  cases op with
  | openFile | close => exact hplain.elim
  | mmap length fd offset =>
    obtain ⟨-, hreply⟩ := hanswer
    cases answer with
    | ok start residue =>
      obtain ⟨-, rfl⟩ := hreply
      exact ⟨Presence.later_mapped presence start, h.mapping start⟩
    | fail err =>
      obtain rfl : presence' = presence := hreply
      exact hsame
  | munmap start length =>
    cases answer with
    | ok value residue =>
      obtain rfl : presence' = presence.unmapped start := hanswer
      exact ⟨Presence.later_unmapped presence start, h.unmapping start⟩
    | fail err =>
      obtain rfl : presence' = presence := hanswer
      exact hsame
  | getDeviceInfo | getDriverInfo | allocateTlb | freeTlb | configureTlb | setPowerState | smcMsg
  | resetDevice | load | read =>
    obtain ⟨-, rfl⟩ := hanswer
    exact hsame
  | _ =>
    obtain rfl : presence' = presence := hanswer
    exact hsame

theorem keeps_plain (op : Syscall) (hplain : Plain op) (presence : Presence) :
    Procedure.Keeps (Presence.contract dev) (Stays presence) (sys op) := by
  refine keeps_sys op (fun _ _ _ _ ↦ trivial) fun before answer after hstays hallowed ↦ ?_
  obtain ⟨middle, hupsets, hanswer⟩ := hallowed
  have hmiddle : Stays presence middle := hstays.trans (stays_upsets hstays.2 hupsets)
  exact hmiddle.trans (plain_stays hplain hmiddle.2 hanswer)

/-- What holds whatever is answered holds beside resets. -/
theorem wp_always {α : Type} {procedure : C α} {thread : Thread}
    {post : List (Event Sys) → α → Thread → Prop}
    (h : Procedure.wp .anything procedure (fun trace value thread' _ ↦ post trace value thread')
      thread ()) :
    Procedure.wp (Presence.contract dev) procedure (fun trace value thread' _ ↦
      post trace value thread') thread presence := by
  let relation : Presence → Unit → Prop := fun _ _ ↦ True
  have hrelation : relation presence () := trivial
  refine Procedure.wp_mono (Procedure.wp_refines (fun _ _ ↦ trivial)
    (fun _ _ _ _ _ _ _ _ ↦ ⟨(), trivial, trivial⟩) (fun _ _ _ _ _ _ _ _ ↦ trivial)
    (fun _ _ _ ↦ trivial) (Procedure.wp_anything procedure thread) h hrelation) ?_
  rintro trace value thread' presence' ⟨-, -, hpost⟩
  exact hpost

end Parts

/-! ## Windows -/

section Windows

variable {dev : Device} {sess : Session} {thread : Thread} {presence : Presence}

/-- Freeing a window behind a part changes no descriptor. -/
theorem keeps_free (sess : Session) (tlb : Tlb) (presence : Presence) :
    Procedure.Keeps (Presence.contract dev) (Stays presence) (tlbFree sess tlb) :=
  keeps_tlbFree (fun _ ↦ keeps_plain (.munmap _ _) trivial presence)
    (keeps_plain (.freeTlb _ _) trivial presence)

theorem wp_alloc (h : presence.Sound) (size mode : ℕ) (tlb : Tlb) :
    Procedure.wp (Presence.contract dev) (tlbAlloc sess size mode tlb) (fun _ out thread' presence' ↦
      Asks sess presence (out.1 = .TT_ERR) thread'.errno presence') thread presence := by
  have hclosed : Errno.ENOTCONN ≠ .ENODEV ∧ Errno.ENOTCONN ≠ .ECONNRESET := by decide
  unfold tlbAlloc
  split
  · rename_i hfd
    exact asks_closed h hfd hclosed.1 hclosed.2
  · rw [Procedure.wp_bind, wp_sys]
    refine ⟨fun _ _ ↦ trivial, fun reply presence' hstep ↦ ?_⟩
    obtain ⟨middle, hupsets, hanswer, hsame⟩ := hstep
    subst hsame
    cases reply with
    | fail err => exact asks_refused h hupsets hanswer rfl
    | ok out residue =>
      dsimp only
      split
      · exact asks_granted h hupsets hanswer nofun
      · split
        · exact asks_granted h hupsets hanswer nofun
        · rw [Procedure.wp_bind, wp_setErrno, Procedure.wp_bind, wp_getErrno]
          refine (keeps_free sess _ presence).wp_call (stays_upsets h hupsets)
            fun _ out _ presence' hstays ↦ ?_
          exact { toGoes := goes_other hstays (by simp) (by simp)
                  severed := fun hsevered ↦ absurd hsevered (live_of_granted h hupsets hanswer) }

/-- The cleanup keeps what the binding reported. -/
theorem wp_unconfigure {before : Presence} {failed : Prop} (tlb : Tlb)
    (h : Goes sess before failed thread.errno presence) (hfailed : failed) :
    Procedure.wp (Presence.contract dev) (tlbUnconfigure tlb) (fun _ out thread' presence' ↦
      out.1 = .TT_ERR ∧ Goes sess before (out.1 = .TT_ERR) thread'.errno presence')
      thread presence := by
  have hreport : Goes sess before (Result.TT_ERR = (.TT_ERR : Status)) thread.errno presence :=
    ⟨h.later, h.sound, fun _ ↦ h.removed hfailed, fun _ ↦ h.lost hfailed⟩
  unfold tlbUnconfigure
  rw [Procedure.wp_bind, wp_getErrno]
  split
  · have hstays : Stays presence presence := ⟨.refl presence, h.sound⟩
    exact (keeps_plain (.munmap _ _) trivial presence).wp_call hstays fun _ _ _ _ hunmapped ↦
      ⟨rfl, hreport.cleaned hunmapped⟩
  · exact ⟨rfl, hreport⟩

/-- A window that is bound was mapped on the descriptor. -/
theorem wp_bind (h : presence.Sound) (tlb : Tlb) (cfg : TlbConfig) :
    Procedure.wp (Presence.contract dev) (tlbBind sess tlb cfg) (fun _ out thread' presence' ↦
      Goes sess presence (out.1 = .TT_ERR) thread'.errno presence' ∧
        (out.1 = .TT_OK () → presence'.Backed sess.fd out.2.ptr)) thread presence := by
  have hclosed : Errno.ENOTCONN ≠ .ENODEV ∧ Errno.ENOTCONN ≠ .ECONNRESET := by decide
  have hrefused : ∀ out : Status × Tlb, out.1 = .TT_ERR → ∀ presence' : Presence,
      out.1 = .TT_OK () → presence'.Backed sess.fd out.2.ptr := by
    intro out herr presence' hok
    cases herr.symm.trans hok
  unfold tlbBind
  split
  · exact ⟨goes_other ⟨.refl presence, h⟩ (fun _ ↦ hclosed.1) fun _ ↦ hclosed.2,
      hrefused _ rfl _⟩
  · rw [Procedure.wp_bind, wp_sys]
    refine ⟨fun _ _ ↦ trivial, fun reply mapped hstep ↦ ?_⟩
    obtain ⟨middle, hupsets, hanswer, hmapped⟩ := hstep
    cases reply with
    | fail err =>
      obtain rfl : mapped = middle := hmapped
      rw [Procedure.wp_bind, wp_ttFailIo]
      have hfails := (asks_refused h hupsets hanswer trivial).toGoes
      exact Procedure.wp_mono (wp_unconfigure tlb hfails trivial) fun _ out _ presence' hclean ↦
        ⟨hclean.2, hrefused out hclean.1 presence'⟩
    | ok start residue =>
      obtain ⟨-, rfl⟩ := hmapped
      obtain ⟨earlier, hfd⟩ := hanswer.granted rfl
      have hlater : Later presence (middle.mapped start) :=
        (Presence.Upsets.later hupsets).trans (Presence.later_mapped middle start)
      have hsound := (h.upsets hupsets).mapping start
      have hbacked : (middle.mapped start).Backed sess.fd start :=
        Presence.backed_mapped (h.upsets hupsets) hfd
      rw [Procedure.wp_bind, wp_sys]
      refine ⟨fun _ _ ↦ trivial, fun reply configured hstep ↦ ?_⟩
      obtain ⟨last, hupsets', hanswer', hsame⟩ := hstep
      subst hsame
      have hstays : Stays presence configured :=
        ⟨hlater.trans (Presence.Upsets.later hupsets'), hsound.upsets hupsets'⟩
      cases reply with
      | fail err =>
        have hfails := (asks_refused hsound hupsets' hanswer' trivial).toGoes.after hlater
        dsimp only
        refine (keeps_plain (.munmap _ _) trivial configured).wp_call ⟨.refl _, hstays.2⟩
          fun _ _ _ unmapped hunmapped ↦ ?_
        rw [Procedure.wp_bind, wp_ttFailIo]
        exact Procedure.wp_mono (wp_unconfigure tlb (hfails.cleaned hunmapped) trivial)
          fun _ out _ presence' hclean ↦ ⟨hclean.2, hrefused out hclean.1 presence'⟩
      | ok value residue =>
        have hbound : ∀ presence' errno, Stays presence presence' →
            Goes sess presence (Result.TT_OK () = (.TT_ERR : Status)) errno presence' :=
          fun _ _ hstays' ↦ goes_other hstays' nofun nofun
        dsimp only
        split
        · rw [Procedure.wp_bind, wp_sys]
          refine ⟨fun _ _ ↦ trivial, fun reply unmapped hstep ↦ ?_⟩
          obtain ⟨final, hupsets'', hunmap⟩ := hstep
          have hfinal : Stays presence final := hstays.trans (stays_upsets hstays.2 hupsets'')
          have hunmapped : Stays presence unmapped :=
            hfinal.trans (@plain_stays dev _ _ (.munmap tlb.ptr tlb.len) _ trivial hfinal.2 hunmap)
          refine ⟨hbound _ _ hunmapped, fun _ ↦ ?_⟩
          have hlast := (hbacked.upsets hupsets').upsets hupsets''
          cases reply with
          | ok value residue =>
            obtain rfl : unmapped = final.unmapped tlb.ptr := hunmap
            exact hlast.unmapped tlb.ptr
          | fail err =>
            obtain rfl : unmapped = final := hunmap
            exact hlast
        · exact ⟨hbound _ _ hstays, fun _ ↦ hbacked.upsets hupsets'⟩

end Windows

/-! ## Operations -/

section Operations

variable {dev : Device} {sess : Session} {thread : Thread} {presence presence' : Presence}
  {fd : ℤ} {start : ℕ}

theorem wp_devInfo (h : presence.Sound) :
    Procedure.wp (Presence.contract dev) (devInfo sess) (fun _ res thread' presence' ↦
      Asks sess presence (res = .TT_ERR) thread'.errno presence') thread presence := by
  have hclosed : Errno.ENOTCONN ≠ .ENODEV ∧ Errno.ENOTCONN ≠ .ECONNRESET := by decide
  unfold devInfo
  split
  · rename_i hfd
    exact asks_closed h hfd hclosed.1 hclosed.2
  · rw [Procedure.wp_bind, wp_sys]
    refine ⟨fun _ _ ↦ trivial, fun reply presence' hstep ↦ ?_⟩
    obtain ⟨middle, hupsets, hanswer, hsame⟩ := hstep
    subst hsame
    cases reply with
    | ok value residue => exact asks_granted h hupsets hanswer nofun
    | fail err => exact asks_refused h hupsets hanswer rfl

theorem wp_power (h : presence.Sound) (flags : UInt16) :
    Procedure.wp (Presence.contract dev) (ttPower (some sess) flags) (fun _ status thread' presence' ↦
      Asks sess presence (status = .TT_ERR) thread'.errno presence') thread presence := by
  have hclosed : Errno.ENOTCONN ≠ .ENODEV ∧ Errno.ENOTCONN ≠ .ECONNRESET := by decide
  unfold ttPower
  dsimp only
  split
  · rename_i hfd
    exact asks_closed h hfd hclosed.1 hclosed.2
  · rw [Procedure.wp_bind, wp_sys]
    refine ⟨fun _ _ ↦ trivial, fun reply presence' hstep ↦ ?_⟩
    obtain ⟨middle, hupsets, hanswer, hsame⟩ := hstep
    subst hsame
    cases reply with
    | ok value residue => exact asks_granted h hupsets hanswer nofun
    | fail err => exact asks_refused h hupsets hanswer rfl

/-! ### Telemetry -/

theorem wp_arm (h : presence.Sound) (hbacked : presence.Backed fd start) (len : ℕ) :
    Procedure.wp (Presence.contract dev) (ttTrapArm start len) (fun _ _ thread' presence' ↦
      thread'.armed.ptr = start ∧ Stays presence presence' ∧ presence'.Backed fd start)
      thread presence := by
  rw [ttTrapArm, Procedure.wp_bind, Procedure.wp_get]
  split
  · exact ⟨rfl, ⟨.refl presence, h⟩, hbacked⟩
  · rw [Procedure.wp_bind, wp_sys]
    refine ⟨fun _ _ ↦ trivial, fun prev presence' hstep ↦ ?_⟩
    obtain ⟨middle, hupsets, hsame⟩ := hstep
    obtain rfl : presence' = middle := hsame
    exact ⟨rfl, stays_upsets h hupsets, hbacked.upsets hupsets⟩

/-- Reads through a window fault only when its descriptor is severed. -/
theorem wp_reads {α : Type} {code : Guarded α} (hreads : Reads (fun _ ↦ True) code)
    (h : presence.Sound) (hbacked : presence.Backed fd thread.armed.ptr) :
    Procedure.wp (Presence.contract dev) code.run (fun _ res _ presence' ↦
      Stays presence presence' ∧ (res = .error () → presence'.Severed fd)) thread presence := by
  let inv : Presence → Prop := fun presence' ↦
    Stays presence presence' ∧ presence'.Backed fd thread.armed.ptr
  have hstep : ∀ addr before answer after, True → inv before →
      (Presence.contract dev).answers (.load thread.armed addr) before answer after →
      inv after ∧ (answer = none → after.Severed fd) := by
    rintro addr before answer after - ⟨hstays, hbacked⟩ ⟨middle, hupsets, hword, rfl⟩
    have hafter : Stays presence after := hstays.trans (stays_upsets hstays.2 hupsets)
    exact ⟨⟨hafter, hbacked.upsets hupsets⟩, fun hnone ↦
      (hword.mp hnone).severed hafter.2 (hbacked.upsets hupsets)⟩
  let lost : Presence → Prop := fun presence' ↦ presence'.Severed fd
  have hrun : Procedure.wp (Presence.contract dev) code.run (fun trace res thread' presence' ↦
      Ran (fun _ ↦ True) thread trace res thread' ∧ inv presence' ∧ (res = .error () → lost presence'))
      thread presence := hreads.wp_lost
    (fun _ _ _ _ _ _ ↦ trivial)
    (fun addr before answer after hgood hinv hanswer ↦
      (hstep addr before answer after hgood hinv hanswer).1)
    (fun addr before after hgood hinv hanswer ↦
      (hstep addr before none after hgood hinv hanswer).2 rfl)
    (fun _ _ ↦ .inr trivial) ⟨⟨.refl presence, h⟩, hbacked⟩
  exact Procedure.wp_mono hrun fun _ _ _ _ hran ↦ ⟨hran.2.1.1, hran.2.2⟩

/-- A fault is reported as a lost connection, which it is. -/
theorem goes_fault (h : Stays presence presence')
    (hsevered : presence'.Severed sess.fd) :
    Goes sess presence (Result.TT_ERR = (.TT_ERR : Status)) .ECONNRESET presence' where
  later := h.1
  sound := h.2
  removed _ hdev := nomatch hdev
  lost _ _ := hsevered

theorem wp_readSnapshot (h : presence.Sound) (arch : ArchConstants) (tlb : Tlb)
    (tags data : UInt32) (table : Ref) :
    Procedure.wp (Presence.contract dev) (readSnapshot sess arch tlb tags data table)
      (fun _ out thread' presence' ↦
        Goes sess presence (out.1 = .TT_ERR) thread'.errno presence') thread presence := by
  unfold readSnapshot
  refine Procedure.wp_call (wp_bind h tlb _) fun _ out _ bound hbind ↦ ?_
  obtain ⟨status, tlb'⟩ := out
  obtain ⟨hgoes, hbacked⟩ := hbind
  cases status with
  | TT_ERR => exact hgoes
  | TT_OK out =>
    refine Procedure.wp_call (wp_arm hgoes.sound (hbacked rfl) _) fun _ _ thread₁ armed harm ↦ ?_
    obtain ⟨hguard, hstays, hbacked⟩ := harm
    have hreads : Reads (fun _ ↦ True)
        (snapshot (tlb'.ptr + windowOffset tags) (tlb'.ptr + windowOffset data) table) :=
      snapshot_reads trivial (fun _ _ ↦ trivial) fun _ _ ↦ trivial
    rw [← hguard] at hbacked
    refine Procedure.wp_call (Procedure.wp_and (wp_reads hreads hstays.2 hbacked)
      (wp_always (ErrorReports.wp_snapshot _ _ table))) fun _ res thread₂ read hran ↦ ?_
    obtain ⟨⟨hread, hlost⟩, hfails⟩ := hran
    have hlast : Stays presence read := (hgoes.stays.trans hstays).trans hread
    cases res with
    | error fault => exact goes_fault hlast (hlost rfl)
    | ok status =>
      have hio : status = .TT_ERR → thread₂.errno = Errno.EIO := fun herr ↦
        hfails (congrArg _ herr)
      exact goes_other hlast (fun herr ↦ hio herr ▸ by decide) fun herr ↦ hio herr ▸ by decide

theorem wp_readWindow (h : presence.Sound) (arch : ArchConstants) (tlb : Tlb) (table : Ref) :
    Procedure.wp (Presence.contract dev) (readWindow sess arch tlb table)
      (fun _ out thread' presence' ↦
        Goes sess presence (out.1 = .TT_ERR) thread'.errno presence') thread presence := by
  unfold readWindow
  refine Procedure.wp_call (wp_bind h tlb _) fun _ out _ bound hbind ↦ ?_
  obtain ⟨status, tlb'⟩ := out
  obtain ⟨hgoes, hbacked⟩ := hbind
  cases status with
  | TT_ERR => exact hgoes
  | TT_OK out =>
    refine Procedure.wp_call (wp_arm hgoes.sound (hbacked rfl) _) fun _ _ thread₁ armed harm ↦ ?_
    obtain ⟨hguard, hstays, hbacked⟩ := harm
    have hreads : Reads (fun _ ↦ True) (readPointers tlb'.ptr arch) :=
      readPointers_reads trivial trivial
    rw [← hguard] at hbacked
    refine Procedure.wp_call (wp_reads hreads hstays.2 hbacked) fun _ res thread₂ read hran ↦ ?_
    obtain ⟨hread, hlost⟩ := hran
    have hlast : Stays presence read := (hgoes.stays.trans hstays).trans hread
    cases res with
    | error fault => exact goes_fault hlast (hlost rfl)
    | ok pointers =>
      obtain ⟨tags, data⟩ := pointers
      dsimp only
      split
      · rw [Procedure.wp_bind, ttTrapDisarm, Procedure.wp_modify]
        refine Procedure.wp_mono (wp_readSnapshot hlast.2 arch tlb' tags data table) ?_
        exact fun _ _ _ _ hrest ↦ hrest.after hlast.1
      · exact goes_other hlast (fun _ ↦ by simp) fun _ ↦ by simp

theorem wp_telemetry (h : presence.Sound) (table : Ref) :
    Procedure.wp (Presence.contract dev) (telemetry sess table) (fun _ status thread' presence' ↦
      Asks sess presence (status = .TT_ERR) thread'.errno presence') thread presence := by
  have hclosed : Errno.ENOTCONN ≠ .ENODEV ∧ Errno.ENOTCONN ≠ .ECONNRESET := by decide
  unfold telemetry
  split
  · rename_i hfd
    exact asks_closed h hfd hclosed.1 hclosed.2
  · refine Procedure.wp_call (wp_devInfo h) fun _ res thread₁ asked hinfo ↦ ?_
    cases res with
    | TT_ERR => exact hinfo.congr (by simp)
    | TT_OK info =>
      have hlive : ¬presence.Severed sess.fd := hinfo.live (by simp)
      dsimp only
      cases archConstants info.deviceId with
      | none =>
        have hother : Errno.ENOTSUP ≠ .ENODEV ∧ Errno.ENOTSUP ≠ .ECONNRESET := by decide
        exact (goes_other ⟨.refl asked, hinfo.sound⟩ (fun _ ↦ hother.1) fun _ ↦ hother.2).asked
          hinfo.later hlive
      | some arch =>
        dsimp only
        rw [Procedure.wp_bind, Procedure.wp_modify]
        refine Procedure.wp_call (wp_alloc hinfo.sound _ _ _) fun _ out _ granted halloc ↦ ?_
        obtain ⟨status, tlb⟩ := out
        cases status with
        | TT_ERR => exact halloc.toGoes.asked hinfo.later hlive
        | TT_OK out =>
          have hlater : Later presence granted := hinfo.later.trans halloc.later
          refine Procedure.wp_call (wp_readWindow halloc.sound arch tlb table)
            fun _ out _ used hused ↦ ?_
          obtain ⟨status, tlb'⟩ := out
          have hsame : Stays used used := ⟨.refl used, hused.sound⟩
          cases status with
          | TT_OK out =>
            rw [Procedure.wp_bind, ttTrapDisarm, Procedure.wp_modify]
            refine (keeps_free sess tlb' used).wp_call hsame fun _ _ _ freed hfreed ↦ ?_
            have hstays : Stays granted freed := hused.stays.trans hfreed
            exact (goes_other hstays (by simp) (by simp)).asked hlater hlive
          | TT_ERR =>
            rw [Procedure.wp_bind, wp_getErrno, Procedure.wp_bind, ttTrapDisarm,
              Procedure.wp_modify]
            refine (keeps_free sess tlb' used).wp_call hsame fun _ _ _ freed hfreed ↦ ?_
            exact (hused.cleaned hfreed).asked hlater hlive

/-! ### The firmware version -/

/-- A refused request on sysfs is reported as it is. -/
theorem goes_file {β : Type} {err : Errno} {failed : Prop} (h : Stays presence presence')
    (hanswer : presence'.AnswersFile (.fail err : Reply β)) :
    Goes sess presence failed err presence' where
  later := h.1
  sound := h.2
  removed _ hdev := hanswer.1 (congrArg Reply.fail hdev)
  lost _ hreset := absurd (congrArg Reply.fail hreset) hanswer.2

/-- The number of another file is not a descriptor of the device. -/
theorem keeps_closeFile (hfd : presence.descriptors fd = none) :
    Procedure.Keeps (Presence.contract dev) (Stays presence) (sys (.close fd)) := by
  refine keeps_sys _ (fun _ _ _ _ ↦ trivial) fun before answer after hstays hallowed ↦ ?_
  obtain ⟨middle, hupsets, hclosed⟩ := hallowed
  have hmiddle : Stays presence middle := hstays.trans (stays_upsets hstays.2 hupsets)
  have hnone : middle.descriptors fd = none := by rw [hmiddle.1.descriptors, hfd]
  obtain rfl : after = middle.closed fd := hclosed
  rw [Presence.closed_of_none hnone]
  exact hmiddle

theorem wp_version (h : presence.Sound) :
    Procedure.wp (Presence.contract dev) (fwVersion sess) (fun _ res thread' presence' ↦
      Goes sess presence (res = .TT_ERR) thread'.errno presence') thread presence := by
  unfold fwVersion
  split
  · exact goes_other ⟨.refl presence, h⟩ (fun _ ↦ by simp) fun _ ↦ by simp
  · rw [Procedure.wp_bind, wp_sys]
    refine ⟨fun _ _ ↦ trivial, fun reply opened hstep ↦ ?_⟩
    obtain ⟨middle, hupsets, hopen⟩ := hstep
    simp only [Presence.answers, if_neg (fwVersionPath_ne_devicePath sess.dev dev)] at hopen
    obtain ⟨hfile, hfresh, rfl⟩ := hopen
    have hopened : Stays presence opened := stays_upsets h hupsets
    cases reply with
    | fail err => exact goes_file hopened hfile
    | ok fd residue =>
      rw [Procedure.wp_bind, wp_sys]
      refine ⟨fun _ _ ↦ trivial, fun reply read hstep ↦ ?_⟩
      obtain ⟨middle, hupsets', hanswer, hsame⟩ := hstep
      subst hsame
      have hread : Stays presence read := hopened.trans (stays_upsets hopened.2 hupsets')
      have hnone : read.descriptors fd = none := by
        rw [(Presence.Upsets.later hupsets').descriptors]
        exact hfresh fd residue rfl
      have hstays : Stays read read := ⟨.refl read, hread.2⟩
      cases reply with
      | fail err =>
        refine (keeps_closeFile hnone).wp_call hstays fun _ _ _ closed hclosed ↦ ?_
        exact (goes_file hread hanswer).cleaned hclosed
      | ok buf residue =>
        refine (keeps_closeFile hnone).wp_call hstays fun _ _ _ closed hclosed ↦ ?_
        have hlast : Stays presence closed := hread.trans hclosed
        split
        · exact goes_other hlast (fun _ ↦ by simp) fun _ ↦ by simp
        · cases parseFwVersion buf with
          | none => exact goes_other hlast (fun _ ↦ by simp) fun _ ↦ by simp
          | some version => exact goes_other hlast nofun nofun

end Operations

/-! ## Performed operations -/

/-- The operation makes a request on the descriptor. -/
def asks : Operation → Bool
  | .version => false
  | _ => true

/-- The result of an operation. -/
structure Results {α : Type} (asks : Bool) (sess : Session) (presence : Presence)
    (res : Except Errno α) (presence' : Presence) : Prop where
  later : Later presence presence'
  sound : presence'.Sound
  removed : res = .error .ENODEV → presence'.present = false
  lost : res = .error .ECONNRESET → presence'.Severed sess.fd
  severed : asks = true → presence.Severed sess.fd → res = .error .ECONNRESET

section Performed

variable {dev : Device} {sess : Session} {thread : Thread} {presence presence' : Presence}
  {α : Type}

theorem Goes.results {procedure : C (Result α)}
    (h : Procedure.wp (Presence.contract dev) procedure (fun _ res thread' presence' ↦
      Goes sess presence (res = .TT_ERR) thread'.errno presence') thread presence) :
    Procedure.wp (Presence.contract dev) (Rust.check procedure)
      (fun _ res _ presence' ↦ Results false sess presence res presence') thread presence := by
  refine wp_check (Procedure.wp_mono h fun _ res thread' presence' hgoes ↦ ?_)
  cases res with
  | TT_OK out => exact ⟨hgoes.later, hgoes.sound, nofun, nofun, nofun⟩
  | TT_ERR => exact ⟨hgoes.later, hgoes.sound, fun hdev ↦ hgoes.removed rfl (Except.error.inj hdev),
      fun hlost ↦ hgoes.lost rfl (Except.error.inj hlost), nofun⟩

theorem Asks.results {procedure : C (Result α)}
    (h : Procedure.wp (Presence.contract dev) procedure (fun _ res thread' presence' ↦
      Asks sess presence (res = .TT_ERR) thread'.errno presence') thread presence) :
    Procedure.wp (Presence.contract dev) (Rust.check procedure)
      (fun _ res _ presence' ↦ Results true sess presence res presence') thread presence := by
  refine wp_check (Procedure.wp_mono h fun _ res thread' presence' hasks ↦ ?_)
  cases res with
  | TT_OK out =>
    exact ⟨hasks.later, hasks.sound, nofun, nofun, fun _ hsevered ↦ nomatch (hasks.severed hsevered).1⟩
  | TT_ERR =>
    exact ⟨hasks.later, hasks.sound, fun hdev ↦ hasks.removed rfl (Except.error.inj hdev),
      fun hlost ↦ hasks.lost rfl (Except.error.inj hlost),
      fun _ hsevered ↦ congrArg Except.error (hasks.severed hsevered).2⟩

/-- Every operation that is performed on a session. -/
theorem run_results (h : presence.Sound) (operation : Operation) :
    Procedure.wp (Presence.contract dev) (Rust.check (operation.run sess))
      (fun _ res _ presence' ↦ Results (asks operation) sess presence res presence')
      thread presence := by
  cases operation with
  | info => exact Asks.results (wp_devInfo h)
  | power flags => exact Asks.results (wp_power h flags)
  | alloc size mode =>
    apply Asks.results
    refine Procedure.wp_call (wp_alloc h _ _ _) fun _ out _ _ hasks ↦ ?_
    obtain ⟨status, raw⟩ := out
    cases status with
    | TT_OK out => exact hasks.congr (by simp)
    | TT_ERR => exact hasks.congr (by simp)
  | telemetry table =>
    apply Asks.results
    rw [Operation.run, Procedure.wp_bind, Procedure.wp_modify]
    refine Procedure.wp_call (wp_telemetry h table) fun _ status _ _ hasks ↦ ?_
    cases status with
    | TT_OK out => exact hasks.congr (by simp)
    | TT_ERR => exact hasks.congr (by simp)
  | version => exact Goes.results (wp_version h)

end Performed

/-! ## Persistent sessions -/

/-- An open of the device was refused. -/
def OpenFails (dev : Device) (trace : List (Event Sys)) : Prop :=
  ∃ flags err, (⟨.openFile (devicePath dev) flags, .fail err⟩ : Event Sys) ∈ trace

/-- How a reopen goes. The descriptor it got was opened last of all. -/
structure Reopens (sess : Session) (presence : Presence) (trace : List (Event Sys))
    (out : Except Errno Unit × Session) (presence' : Presence) : Prop where
  dev : out.2.dev = sess.dev
  flags : out.2.flags = sess.flags
  sound : presence'.Sound
  resets : presence.resets ≤ presence'.resets
  removed : presence.present = false → presence'.present = false
  opened : out.1 = .ok () → presence'.present = true ∧
    presence'.descriptors out.2.fd = some presence'.resets
  refused : ∀ err, out.1 = .error err → err ≠ .ECONNRESET ∧
    (err = .ENODEV → OpenFails sess.dev trace) ∧ (presence.present = false → err = .ENODEV)

section Persistent

variable {sess : Session} {thread : Thread} {presence presence' : Presence} {α : Type}

/-- The flags of a session that was opened are known ones. -/
def Flagged (sess : Session) : Prop :=
  sess.flags &&& ~~~(TT_OPEN_EXCL ||| TT_OPEN_NONBLOCK) = 0

theorem wp_closeSession (h : presence.Sound) :
    Procedure.wp (Presence.contract sess.dev) (closeSession sess)
      (fun _ out _ presence' ↦ out.2.dev = sess.dev ∧ out.2.flags = sess.flags ∧
        presence'.Sound ∧ presence.resets ≤ presence'.resets ∧
        (presence.present = false → presence'.present = false)) thread presence := by
  unfold closeSession
  split
  · exact ⟨rfl, rfl, h, Nat.le_refl _, id⟩
  · rw [Procedure.wp_bind, wp_sys]
    refine ⟨fun _ _ ↦ trivial, fun reply presence' hstep ↦ ?_⟩
    obtain ⟨middle, hupsets, hanswer⟩ := hstep
    obtain rfl : presence' = middle.closed sess.fd := hanswer
    obtain ⟨-, hresets, hremoved⟩ := Presence.Upsets.later hupsets
    have hsound := (h.upsets hupsets).closed sess.fd
    cases reply with
    | ok value residue => exact ⟨rfl, rfl, hsound, hresets, hremoved⟩
    | fail err => exact ⟨rfl, rfl, hsound, hresets, hremoved⟩

theorem wp_openSession (h : presence.Sound) (hflags : Flagged sess) :
    Procedure.wp (Presence.contract sess.dev) (openSession sess.dev sess.flags)
      (fun trace res thread' presence' ↦ presence'.Sound ∧ presence.resets ≤ presence'.resets ∧
        (presence.present = false → presence'.present = false) ∧
        match res with
        | .TT_OK out => out.dev = sess.dev ∧ out.flags = sess.flags ∧
            presence'.present = true ∧ presence'.descriptors out.fd = some presence'.resets
        | .TT_ERR => OpenFails sess.dev trace ∧ thread'.errno ≠ .ECONNRESET ∧
            (presence.present = false → thread'.errno = .ENODEV)) thread presence := by
  have hknown : sess.flags &&& ~~~(TT_OPEN_EXCL ||| TT_OPEN_NONBLOCK) = 0 := hflags
  rw [openSession_eq, if_neg (not_not.mpr hknown), Procedure.wp_bind, wp_sys]
  refine ⟨fun _ _ ↦ trivial, fun reply presence' hstep ↦ ?_⟩
  obtain ⟨middle, hupsets, hanswer⟩ := hstep
  obtain ⟨-, hresets, hremoved⟩ := Presence.Upsets.later hupsets
  have hsound := h.upsets hupsets
  simp only [Presence.answers, if_true] at hanswer
  cases reply with
  | ok fd residue =>
    obtain ⟨hpresent, -, rfl⟩ := hanswer
    refine ⟨hsound.opened (Int.natCast_nonneg fd), hresets, hremoved, rfl, rfl, hpresent, ?_⟩
    simp [Presence.opened]
  | fail err =>
    obtain ⟨hagain, rfl⟩ := hanswer
    have hfails : OpenFails sess.dev
        [⟨.openFile (devicePath sess.dev) (openFlags sess.flags), .fail err⟩] :=
      ⟨_, _, List.mem_singleton_self _⟩
    refine ⟨hsound, hresets, hremoved, hfails, ?_, fun hgone ↦ ?_⟩
    · by_cases herr : err = .EAGAIN <;> simp [herr]
    · simp [hagain (hremoved hgone)]

theorem wp_reopen (h : presence.Sound) (hflags : Flagged sess) :
    Procedure.wp (Presence.contract sess.dev) (Rust.reopen sess)
      (fun trace out _ presence' ↦ Reopens sess presence trace out presence')
      thread presence := by
  unfold Rust.reopen reopenSession
  rw [Procedure.wp_bind]
  refine Procedure.wp_call (wp_closeSession h) fun closing out _ middle hclosed ↦ ?_
  obtain ⟨status, dev, fd, flags⟩ := out
  obtain ⟨hdev, hstale, hsound, hresets, hremoved⟩ := hclosed
  obtain rfl : dev = sess.dev := hdev
  obtain rfl : flags = sess.flags := hstale
  refine Procedure.wp_call (wp_openSession hsound hflags) fun opening res opened last hopen ↦ ?_
  obtain ⟨hsound', hresets', hremoved', hres⟩ := hopen
  have hlast := Nat.le_trans hresets hresets'
  cases res with
  | TT_OK out =>
    obtain ⟨hdev', hflags', hpresent, hfd⟩ := hres
    exact
      { dev := hdev'
        flags := hflags'
        sound := hsound'
        resets := hlast
        removed := fun hgone ↦ hremoved' (hremoved hgone)
        opened := fun _ ↦ ⟨hpresent, hfd⟩
        refused := fun _ hrefused ↦ by cases hrefused }
  | TT_ERR =>
    obtain ⟨⟨flags, err, hmem⟩, hreset, hgone⟩ := hres
    refine ⟨rfl, rfl, hsound', hlast, fun hfirst ↦ hremoved' (hremoved hfirst), nofun, ?_⟩
    rintro _ ⟨⟩
    refine ⟨hreset, fun _ ↦ ⟨flags, err, ?_⟩, fun hfirst ↦ hgone (hremoved hfirst)⟩
    simp [hmem]

/-- How the retries go, with a number of reopens left. -/
structure Retried (dev : Device) (retries : ℕ) (presence : Presence) (trace : List (Event Sys))
    (res : Except Errno α) (out : Except Errno α) (presence' : Presence) : Prop where
  never : out ≠ .error .ECONNRESET
  settled : res ≠ .error .ECONNRESET → out = res
  exhausted : out = .error .ENODEV → OpenFails dev trace ∨ presence'.present = false ∨
    presence.resets + retries ≤ presence'.resets
  gone : presence.present = false → res = .error .ECONNRESET → out = .error .ENODEV
  resets : presence.resets ≤ presence'.resets
  removed : presence.present = false → presence'.present = false

/-- A result that is no lost connection is final. -/
theorem Retried.settle {dev : Device} {retries : ℕ} {res : Except Errno α}
    (hremoved : res = .error .ENODEV → presence.present = false)
    (hlive : res ≠ .error .ECONNRESET) : Retried dev retries presence [] res res presence where
  never := hlive
  settled _ := rfl
  exhausted hdead := .inr (.inl (hremoved hdead))
  gone _ hlost := absurd hlost hlive
  resets := Nat.le_refl _
  removed := id

theorem OpenFails.append {dev : Device} {first second : List (Event Sys)}
    (h : OpenFails dev second) : OpenFails dev (first ++ second) := by
  obtain ⟨flags, err, hmem⟩ := h
  exact ⟨flags, err, List.mem_append_right first hmem⟩

/-- A descriptor that was just opened is severed by another reset, or when the device goes. -/
theorem severed_again {middle later : Presence} {fd : ℤ} (hlater : Later middle later)
    (hfd : middle.descriptors fd = some middle.resets) (h : later.Severed fd) :
    later.present = false ∨ middle.resets + 1 ≤ later.resets := by
  obtain ⟨before, hbefore, hcut⟩ := h
  rw [hlater.descriptors, hfd] at hbefore
  obtain rfl := Option.some.inj hbefore
  have hresets := hlater.resets
  refine hcut.imp id fun hne ↦ ?_
  omega

/-- One more attempt on a descriptor that was just opened. -/
theorem Retried.again {asks : Bool} {retries : ℕ} {res res' out : Except Errno α}
    {sess' : Session} {opening attempt rest : List (Event Sys)} {middle later : Presence}
    (hlost : res = .error .ECONNRESET)
    (hreopens : Reopens sess presence opening (.ok (), sess') middle)
    (hresults : Results asks sess' middle res' later)
    (h : Retried sess.dev retries later rest res' out presence') :
    Retried sess.dev (retries + 1) presence (opening ++ (attempt ++ rest)) res out presence' := by
  obtain ⟨hpresent, hfd⟩ := hreopens.opened rfl
  obtain ⟨-, hresets, hremoved⟩ := hresults.later
  have hsofar := hreopens.resets
  have hlast := h.resets
  refine ⟨h.never, fun hlive ↦ absurd hlost hlive, fun hdead ↦ ?_, fun hgone _ ↦ ?_, by omega, ?_⟩
  · by_cases hagain : res' = .error .ECONNRESET
    · rcases h.exhausted hdead with hfails | hgone | hcount
      · exact .inl hfails.append.append
      · exact .inr (.inl hgone)
      · rcases severed_again hresults.later hfd (hresults.lost hagain) with hgone | hreset
        · exact .inr (.inl (h.removed hgone))
        · exact .inr (.inr (by omega))
    · have hdead' : res' = .error .ENODEV := (h.settled hagain).symm.trans hdead
      exact .inr (.inl (h.removed (hresults.removed hdead')))
  · rw [hreopens.removed hgone] at hpresent
    cases hpresent
  · exact fun hgone ↦ h.removed (hremoved (hreopens.removed hgone))

theorem wp_performLoop (operation : Operation) (retries : ℕ)
    {res : Except Errno operation.Answer} (h : presence.Sound) (hflags : Flagged sess)
    (hremoved : res = .error .ENODEV → presence.present = false) :
    Procedure.wp (Presence.contract sess.dev)
      (Rust.performLoop (fun sess ↦ Rust.check (operation.run sess)) Rust.reopen retries sess res)
      (fun trace out _ presence' ↦ Retried sess.dev retries presence trace res out.1 presence')
      thread presence := by
  induction retries generalizing sess presence thread res with
  | zero =>
    by_cases hlost : res = .error .ECONNRESET
    · rw [Rust.performLoop, if_pos (isLost_iff.mpr hlost)]
      exact ⟨by simp, fun hlive ↦ absurd hlost hlive, fun _ ↦ .inr (.inr (Nat.le_refl _)),
        fun _ _ ↦ rfl, Nat.le_refl _, id⟩
    · rw [Rust.performLoop, if_neg (mt isLost_iff.mp hlost)]
      exact .settle hremoved hlost
  | succ retries ih =>
    by_cases hlost : res = .error .ECONNRESET
    · rw [Rust.performLoop, if_pos (isLost_iff.mpr hlost)]
      refine Procedure.wp_call (wp_reopen h hflags) fun opening out _ middle hreopens ↦ ?_
      obtain ⟨reopened, sess'⟩ := out
      cases reopened with
      | error err =>
        obtain ⟨hreset, hfails, hgone⟩ := hreopens.refused err rfl
        refine ⟨fun herr ↦ hreset (Except.error.inj herr), fun hlive ↦ absurd hlost hlive,
          fun hdead ↦ ?_, fun hfirst _ ↦ congrArg Except.error (hgone hfirst), hreopens.resets,
          hreopens.removed⟩
        rw [List.append_nil]
        exact .inl (hfails (Except.error.inj hdead))
      | ok =>
        have hflags' : Flagged sess' := by
          rw [Flagged, hreopens.flags]
          exact hflags
        have hdev : sess'.dev = sess.dev := hreopens.dev
        rw [← hdev]
        refine Procedure.wp_call (run_results hreopens.sound operation)
          fun attempt res' _ later hresults ↦ ?_
        refine Procedure.wp_mono (ih hresults.sound hflags' hresults.removed)
          fun rest out _ presence' hrest ↦ ?_
        rw [hdev] at hrest ⊢
        exact hrest.again hlost hreopens hresults
    · rw [Rust.performLoop, if_neg (mt isLost_iff.mp hlost)]
      exact .settle hremoved hlost

/-- What the caller of a persistent session sees. -/
structure Transparent (asks : Bool) (sess : Session) (presence : Presence)
    (trace : List (Event Sys)) (res : Except Errno α) (presence' : Presence) : Prop where
  never : res ≠ .error .ECONNRESET
  /-- A few resets are hidden. -/
  hidden : res = .error .ENODEV → OpenFails sess.dev trace ∨ presence'.present = false ∨
    presence.resets + RETRIES ≤ presence'.resets
  /-- One more is, on a descriptor that was not severed before. -/
  fresh : res = .error .ENODEV → presence.descriptors sess.fd = some presence.resets →
    OpenFails sess.dev trace ∨ presence'.present = false ∨
      presence.resets + RETRIES + 1 ≤ presence'.resets
  /-- A removal is not. -/
  gone : asks = true → presence.present = false → presence.Severed sess.fd → res = .error .ENODEV

theorem Retried.transparent {asks : Bool} {res out : Except Errno α}
    {attempt rest : List (Event Sys)} {middle : Presence}
    (hresults : Results asks sess presence res middle)
    (h : Retried sess.dev RETRIES middle rest res out presence') :
    Transparent asks sess presence (attempt ++ rest) out presence' := by
  obtain ⟨-, hresets, hremoved⟩ := hresults.later
  have hlast := h.resets
  refine ⟨h.never, fun hdead ↦ ?_, fun hdead hfd ↦ ?_, fun hasks hgone hsevered ↦ ?_⟩
  · exact (h.exhausted hdead).imp OpenFails.append (Or.imp id fun hcount ↦ by omega)
  · by_cases hlost : res = .error .ECONNRESET
    · rcases h.exhausted hdead with hfails | hgone | hcount
      · exact .inl hfails.append
      · exact .inr (.inl hgone)
      · rcases severed_again hresults.later hfd (hresults.lost hlost) with hgone | hreset
        · exact .inr (.inl (h.removed hgone))
        · exact .inr (.inr (by omega))
    · have hdead' : res = .error .ENODEV := (h.settled hlost).symm.trans hdead
      exact .inr (.inl (h.removed (hresults.removed hdead')))
  · exact h.gone (hremoved hgone) (hresults.severed hasks hsevered)

theorem wp_operate {sess : Object} (h : presence.Sound) (hflags : Flagged sess.raw)
    (hpersist : sess.persist = true) (operation : Operation) :
    Procedure.wp (Presence.contract sess.raw.dev) (Rust.operate operation sess)
      (fun trace out _ presence' ↦
        Transparent (asks operation) sess.raw presence trace out.1 presence')
      thread presence := by
  rw [Rust.operate, hpersist, Procedure.wp_bind]
  refine Procedure.wp_call (run_results h operation) fun attempt res _ middle hresults ↦ ?_
  refine Procedure.wp_mono
    (wp_performLoop operation RETRIES hresults.sound hflags hresults.removed)
    fun rest out _ presence' hrest ↦ ?_
  rw [Procedure.wp_pure, List.append_nil]
  exact hrest.transparent hresults

/-- Whatever resets and removals happen during an operation of a persistent session object, in
either language. -/
theorem persistent_transparent {sess : Object} (h : presence.Sound) (hflags : Flagged sess.raw)
    (hpersist : sess.persist = true) (operation : Operation) (thread : Thread) :
    Procedure.wp (Presence.contract sess.raw.dev) (Rust.operate operation sess)
      (fun trace out _ presence' ↦
        Transparent (asks operation) sess.raw presence trace out.1 presence')
      thread presence ∧
    Procedure.wp (Presence.contract sess.raw.dev) (Python.operate operation sess)
      (fun trace out _ presence' ↦ ∃ res, out.1 = raise res ∧
        Transparent (asks operation) sess.raw presence trace res presence')
      thread presence := by
  refine ⟨wp_operate h hflags hpersist operation, ?_⟩
  rw [operate_agree, Procedure.wp_map]
  exact Procedure.wp_mono (wp_operate h hflags hpersist operation) fun _ out _ _ hout ↦ ⟨out.1, rfl, hout⟩

end Persistent

/-! ## A reset that is hidden -/

/-- The device was reset after the descriptor was opened. -/
def samplePresence : Presence where
  present := true
  resets := 1
  descriptors := Function.update (fun _ ↦ none) 3 (some 0)
  windows _ := none

theorem samplePresence_sound : samplePresence.Sound := by
  have hopen : ∀ fd before, samplePresence.descriptors fd = some before → fd = 3 ∧ before = 0 := by
    intro fd before hfd
    by_cases heq : fd = 3
    · subst heq
      simp [samplePresence] at hfd
      exact ⟨rfl, hfd.symm⟩
    · simp [samplePresence, heq] at hfd
  refine ⟨fun fd before hfd ↦ ?_, fun fd before hfd ↦ ?_, nofun⟩
  · rw [(hopen fd before hfd).1]
    decide
  · rw [(hopen fd before hfd).2]
    decide

def emptyPresence : Presence :=
  { samplePresence with descriptors := fun _ ↦ none }

theorem sample_reopens (thread : Thread) :
    Procedure.Executes (Presence.contract sampleSession.dev) (Rust.reopen sampleSession) thread
      samplePresence
      [⟨.close 3, .ok () (.other 0)⟩,
        ⟨.openFile (devicePath sampleSession.dev) (openFlags 0), .ok 3 (.other 0)⟩]
      (.ok (), sampleSession) { thread with errno := .other 0 } (emptyPresence.opened 3) := by
  have hclose : (Presence.contract sampleSession.dev).answers (.close sampleSession.fd)
      samplePresence (.ok () (.other 0)) emptyPresence := by
    refine ⟨_, .refl, ?_⟩
    simp [Presence.answers, Presence.closed, samplePresence, emptyPresence, sampleSession]
  have hopen : (Presence.contract sampleSession.dev).answers
      (.openFile (devicePath sampleSession.dev) (openFlags sampleSession.flags)) emptyPresence
      (.ok 3 (.other 0)) (emptyPresence.opened 3) := by
    refine ⟨_, .refl, ?_⟩
    simp only [Presence.answers, if_true]
    exact ⟨rfl, rfl, rfl⟩
  exact Procedure.executes_bind.mpr ⟨_, [], _, _, _, rfl,
    executes_reopenSession sampleSession (by decide) rfl hclose hopen, .done⟩

def sampleObject : Object := { raw := sampleSession, persist := true }

/-- A request is repeated on a new descriptor. -/
theorem sample_runs : ∃ trace presence' thread',
    Procedure.Executes (Presence.contract sampleObject.raw.dev)
      (Rust.operate (.power 0) sampleObject) Thread.initial samplePresence trace
      (.ok (), sampleObject) thread' presence' := by
  have hlost : (Presence.contract sampleSession.dev).answers
      (.setPowerState 3 (powerState 0)) samplePresence (.fail .ENODEV) samplePresence :=
    ⟨_, .refl, ⟨⟨fun _ ↦ ⟨0, rfl, .inr (by decide)⟩, fun _ ↦ rfl⟩, nofun, nofun⟩, rfl⟩
  have hlive : ¬(emptyPresence.opened 3).Severed 3 := by
    rintro ⟨before, hbefore, hgone | hreset⟩
    · cases hgone
    · exact hreset (Option.some.inj hbefore).symm
  have hanswered : (Presence.contract sampleSession.dev).answers
      (.setPowerState 3 (powerState 0)) (emptyPresence.opened 3) (.ok () (.other 0))
      (emptyPresence.opened 3) :=
    ⟨_, .refl, ⟨⟨nofun, fun hsevered ↦ absurd hsevered hlive⟩, nofun, fun _ ↦ ⟨1, rfl⟩⟩, rfl⟩
  refine ⟨_, _, _, Procedure.executes_bind.mpr ⟨_, [], (.ok (), sampleSession), _, _,
    (List.append_nil _).symm, Procedure.executes_bind.mpr ⟨_, _, .error .ECONNRESET, _, _, rfl,
      .call hlost .done, Procedure.executes_bind.mpr ⟨_, _, _, _, _, rfl, sample_reopens _,
        .call hanswered .done⟩⟩, .done⟩⟩

/-- The caller does not see the reset. -/
theorem sample_transparent : ∃ trace presence',
    Transparent true sampleSession samplePresence trace (.ok ()) presence' := by
  obtain ⟨trace, presence', thread', hrun⟩ := sample_runs
  have hflags : Flagged sampleObject.raw := rfl
  have htransparent :=
    persistent_transparent samplePresence_sound hflags rfl (.power 0) Thread.initial
  exact ⟨trace, presence', hrun.ensures htransparent.1⟩

end TtDal.Safety.PersistentSessions
