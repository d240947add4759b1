import TtDal.Dev.Reset
import TtDal.Platform.Trace

/-!
# The course of a reset

A reset that returns took one of eight courses. `Course` lists them with the trace of each, and
what a reset promises is read off the list: the order of its two `ioctl`s, the release of what it
opened, and the error it reports.
-/

namespace TtDal.Safety.ResetCourse

open Effect Platform Dev

/-! ## The wait for completion -/

/-- The device was seen to complete its reset: the marker read as clear, or the device was absent
and then present. -/
inductive Observes (sysfs : String) : List (Event Sys) → Prop where
  | marker {before after : List (Event Sys)} {cfd : ℕ} {residue residue' : Errno} {cmd : UInt8} :
      cmd.toNat / 2 ^ 6 % 2 = 0 →
      Observes sysfs (before ++ ⟨.openFile (configPath sysfs) (readOnly true), .ok cfd residue⟩ ::
        ⟨.pread cfd 1 4, .ok [cmd] residue'⟩ :: after)
  | reappeared {before between after : List (Event Sys)} {err residue : Errno} :
      Observes sysfs (before ++ ⟨.access sysfs, .fail err⟩ :: between ++
        ⟨.access sysfs, .ok () residue⟩ :: after)

/-- The error with which a call on the exclusive descriptor makes a reset fail. -/
def fault : Event Sys → Option Errno
  | ⟨.openFile _ flags, .fail err⟩ =>
    if flags.excl then some (if err = .EAGAIN then .EAGAIN else .ENODEV) else none
  | ⟨.getDeviceInfo _, .fail err⟩ => some (normalise err)
  | ⟨.resetDevice _ _, .fail err⟩ => some (normalise err)
  | ⟨.resetDevice _ _, .ok result _⟩ => if result ≠ 0 then some Errno.EIO else none
  | _ => none

/-- The request for the second half of a reset, with the descriptor it is made on. -/
def posting : Syscall → Option ℤ
  | .resetDevice fd req => if req.flags = .POST_RESET then some fd else none
  | _ => none

/-- A part of a reset that opens and closes in pairs and has nothing to do with the `ioctl`s. -/
structure Aside (trace : List (Event Sys)) : Prop where
  balanced : ∀ fds, ledger fds trace = some fds
  faultless : trace.findSome? fault = none
  unposted : ∀ event ∈ trace, posting event.op = none

theorem Aside.append {first rest : List (Event Sys)} (h : Aside first) (h' : Aside rest) :
    Aside (first ++ rest) where
  balanced fds := by
    rw [ledger_append, h.balanced]
    exact h'.balanced fds
  faultless := by
    rw [List.findSome?_append, h.faultless, h'.faultless]
    rfl
  unposted event hmem := by
    rcases List.mem_append.mp hmem with hmem | hmem
    · exact h.unposted event hmem
    · exact h'.unposted event hmem

/-- A request that neither opens nor closes and is none of the `ioctl`s. -/
theorem aside_single {event : Event Sys} (hopening : opening event = none)
    (hclosing : event.op.closing = none) (hfault : fault event = none)
    (hposting : posting event.op = none) : Aside [event] where
  balanced fds := by simp [settle, hopening, hclosing]
  faultless := by simp [hfault]
  unposted other hmem := by
    rw [List.mem_singleton.mp hmem]
    exact hposting

section Wait

variable {sysfs : String} {thread : Thread} {first rest : List (Event Sys)}

theorem Observes.after (h : Observes sysfs rest) : Observes sysfs (first ++ rest) := by
  cases h with
  | @marker before after cfd residue residue' cmd hclear =>
    rw [← List.append_assoc]
    exact .marker hclear
  | @reappeared before between after err residue =>
    have hassoc : first ++ (before ++ (⟨.access sysfs, .fail err⟩ :: between) ++
        ⟨.access sysfs, .ok () residue⟩ :: after) =
          first ++ before ++ (⟨.access sysfs, .fail err⟩ :: between) ++
            ⟨.access sysfs, .ok () residue⟩ :: after := by
      simp only [List.append_assoc]
    rw [hassoc]
    exact .reappeared

theorem Observes.before (h : Observes sysfs first) : Observes sysfs (first ++ rest) := by
  cases h with
  | @marker before after cfd residue residue' cmd hclear =>
    rw [List.append_assoc]
    exact .marker hclear
  | @reappeared before between after err residue =>
    rw [List.append_assoc]
    exact .reappeared

/-- The marker is checked through a descriptor of its own. -/
theorem wp_markerClear :
    Procedure.wp .anything (markerClear sysfs) (fun trace complete _ _ ↦
      Aside trace ∧ (complete = true → Observes sysfs trace)) thread () := by
  rw [markerClear, Procedure.wp_bind, wp_sys]
  refine ⟨trivial, fun reply _ _ ↦ ?_⟩
  cases reply with
  | fail err => exact ⟨aside_single rfl rfl rfl rfl, nofun⟩
  | ok cfd residue =>
    rw [Procedure.wp_bind, wp_sys]
    refine ⟨trivial, fun reply _ _ ↦ ?_⟩
    rw [Procedure.wp_bind, wp_sys]
    refine ⟨trivial, fun closed _ _ ↦ ?_⟩
    have haside : Aside [⟨.openFile (configPath sysfs) (readOnly true), .ok cfd residue⟩,
        ⟨.pread cfd 1 4, reply⟩, ⟨.close cfd, closed⟩] := by
      refine ⟨fun fds ↦ ?_, rfl, ?_⟩
      · have hpread : settle ((cfd : ℤ) :: fds) ⟨.pread cfd 1 4, reply⟩ = some ((cfd : ℤ) :: fds) :=
          rfl
        simp [settle_openFile, hpread, settle_close]
      · simp [posting]
    dsimp only
    split
    · rename_i cmd residue' hread
      refine ⟨haside, fun hclear ↦ ?_⟩
      exact @Observes.marker sysfs [] _ cfd residue residue' cmd (of_decide_eq_true hclear)
    · exact ⟨haside, nofun⟩

/-- The device is present in the trace. -/
def Present (sysfs : String) (trace : List (Event Sys)) : Prop :=
  ∃ before after residue, trace = before ++ ⟨.access sysfs, .ok () residue⟩ :: after

theorem Present.after (h : Present sysfs rest) : Present sysfs (first ++ rest) := by
  obtain ⟨before, after, residue, rfl⟩ := h
  exact ⟨first ++ before, after, residue, (List.append_assoc _ _ _).symm⟩

theorem Present.observes {err : Errno} (h : Present sysfs rest) :
    Observes sysfs (⟨.access sysfs, .fail err⟩ :: rest) := by
  obtain ⟨before, after, residue, rfl⟩ := h
  exact @Observes.reappeared sysfs [] before after err residue

/-- A wait that ends in completion observed it, or saw the device it had seen absent. -/
theorem wp_awaitReset (start : Timespec) (rounds : ℕ) (disappeared : Bool) :
    Procedure.wp .anything (awaitReset sysfs start rounds disappeared) (fun trace complete _ _ ↦
      Aside trace ∧ (complete = true → Observes sysfs trace ∨
        disappeared = true ∧ Present sysfs trace)) thread () := by
  induction rounds generalizing disappeared thread with
  | zero => exact trivial
  | succ rounds ih =>
    rw [awaitReset, Procedure.wp_bind, wp_elapsedMs]
    refine ⟨trivial, fun now _ _ ↦ ?_⟩
    have hclock : Aside [⟨.clockGettime, now⟩] := aside_single rfl rfl rfl rfl
    split
    · rw [Procedure.wp_bind, wp_sys]
      refine ⟨trivial, fun reply _ _ ↦ ?_⟩
      have haccess : Aside [⟨.clockGettime, now⟩, ⟨.access sysfs, reply⟩] :=
        hclock.append (aside_single rfl rfl rfl rfl)
      have hsleep : Aside [⟨.usleep RESET_POLL_INTERVAL_US, ()⟩] := aside_single rfl rfl rfl rfl
      cases reply with
      | ok value residue =>
        dsimp only
        split
        · rename_i hgone
          exact ⟨haccess, fun _ ↦ .inr ⟨hgone, [⟨.clockGettime, now⟩], [], residue, rfl⟩⟩
        · rename_i hseen
          refine Procedure.wp_call wp_markerClear fun checked complete _ _ hmarker ↦ ?_
          split
          · rename_i hcomplete
            have hobserves : Observes sysfs (checked ++ []) := by simpa using hmarker.2 hcomplete
            refine ⟨?_, fun _ ↦ .inl hobserves.after.after⟩
            simpa using haccess.append hmarker.1
          · rw [Procedure.wp_bind, wp_sys]
            refine ⟨trivial, fun slept _ _ ↦ ?_⟩
            refine Procedure.wp_mono (ih disappeared) fun rest complete _ _ hrest ↦ ?_
            refine ⟨haccess.append (hmarker.1.append (hsleep.append hrest.1)), fun hcomplete ↦ ?_⟩
            have hobserves := (hrest.2 hcomplete).resolve_right fun hgone ↦ hseen hgone.1
            exact .inl hobserves.after.after.after.after
      | fail err =>
        rw [Procedure.wp_bind, wp_sys]
        refine ⟨trivial, fun slept _ _ ↦ ?_⟩
        refine Procedure.wp_mono (ih true) fun rest complete _ _ hrest ↦ ?_
        refine ⟨haccess.append (hsleep.append hrest.1), fun hcomplete ↦ .inl ?_⟩
        rcases hrest.2 hcomplete with hobserves | ⟨-, hpresent⟩
        · exact hobserves.after.after.after
        · have hslept : Present sysfs ([⟨.usleep RESET_POLL_INTERVAL_US, slept⟩] ++ rest) :=
            hpresent.after
          exact hslept.observes.after
    · exact ⟨hclock, nofun⟩

/-- The sleep for the firmware is resumed after signals. -/
theorem wp_awaitFirmware (rounds : ℕ) (delay : Timespec) :
    Procedure.wp .anything (awaitFirmware rounds delay) (fun trace _ _ _ ↦ Aside trace)
      thread () := by
  induction rounds generalizing delay thread with
  | zero => exact trivial
  | succ rounds ih =>
    rw [awaitFirmware, Procedure.wp_bind, wp_sys]
    refine ⟨trivial, fun answer _ _ ↦ ?_⟩
    have hsleep : Aside [⟨.nanosleep delay, answer⟩] := aside_single rfl rfl rfl rfl
    split
    · rename_i remaining _
      exact Procedure.wp_mono (ih remaining) fun rest _ _ _ hrest ↦ hsleep.append hrest
    · exact hsleep

end Wait

/-! ## The courses -/

def acquiring (dev : Device) (reply : Reply ℕ) : Event Sys :=
  ⟨.openFile (devicePath dev) (openFlags (TT_OPEN_EXCL ||| TT_OPEN_NONBLOCK)), reply⟩

def asking (fd : ℤ) (reply : Reply DevInfo) : Event Sys := ⟨.getDeviceInfo fd, reply⟩

def resetting (fd : ℤ) (flags : ResetFlag) (reply : Reply UInt32) : Event Sys :=
  ⟨.resetDevice fd (resetDeviceIn flags), reply⟩

def releasing (fd : ℤ) (reply : Reply Unit) : Event Sys := ⟨.close fd, reply⟩

/-- The start of every course that waits. -/
def started (dev : Device) (fd : ℕ) (info : DevInfo) (r₀ r₁ r₂ : Errno) : List (Event Sys) :=
  [acquiring dev (.ok fd r₀), asking fd (.ok info r₁), resetting fd .ASIC_RESET (.ok 0 r₂)]

/-- The traces of a reset, with what it returns and reports. -/
inductive Course (dev : Device) : List (Event Sys) → Status → Errno → Prop where
  | refused {err : Errno} : Course dev [acquiring dev (.fail err)] .TT_ERR
      (if err = .EAGAIN then .EAGAIN else .ENODEV)
  | uninformed {fd : ℕ} {r₀ err : Errno} {closed : Reply Unit} :
      Course dev [acquiring dev (.ok fd r₀), asking fd (.fail err), releasing fd closed]
        .TT_ERR (normalise err)
  | unreset {fd : ℕ} {r₀ r₁ err : Errno} {info : DevInfo} {reply : Reply UInt32}
      {closed : Reply Unit} : fault (resetting fd .ASIC_RESET reply) = some err →
      Course dev [acquiring dev (.ok fd r₀), asking fd (.ok info r₁),
        resetting fd .ASIC_RESET reply, releasing fd closed] .TT_ERR err
  | incomplete {fd : ℕ} {r₀ r₁ r₂ : Errno} {info : DevInfo} {wait : List (Event Sys)}
      {closed : Reply Unit} : Aside wait →
      Course dev (started dev fd info r₀ r₁ r₂ ++ (wait ++ [releasing fd closed]))
        .TT_ERR .ETIMEDOUT
  | unposted {fd : ℕ} {r₀ r₁ r₂ err : Errno} {info : DevInfo} {wait : List (Event Sys)}
      {reply : Reply UInt32} {closed : Reply Unit} : Aside wait →
      Observes (sysfsPath info) wait → fault (resetting fd .POST_RESET reply) = some err →
      Course dev (started dev fd info r₀ r₁ r₂ ++
        (wait ++ [resetting fd .POST_RESET reply, releasing fd closed])) .TT_ERR err
  | unreleased {fd : ℕ} {r₀ r₁ r₂ r₃ err : Errno} {info : DevInfo} {wait : List (Event Sys)} :
      Aside wait → Observes (sysfsPath info) wait →
      Course dev (started dev fd info r₀ r₁ r₂ ++
        (wait ++ [resetting fd .POST_RESET (.ok 0 r₃), releasing fd (.fail err)])) .TT_ERR err
  | done {fd : ℕ} {r₀ r₁ r₂ r₃ errno : Errno} {info : DevInfo} {wait : List (Event Sys)} :
      Aside wait → Observes (sysfsPath info) wait →
      Course dev (started dev fd info r₀ r₁ r₂ ++
        (wait ++ [resetting fd .POST_RESET (.ok 0 r₃), releasing fd (.ok () errno)]))
        (.TT_OK ()) errno

section Course

variable {dev : Device} {thread : Thread} {trace : List (Event Sys)} {status : Status}
  {errno : Errno}

theorem fault_resetting_ok (fd : ℤ) (flags : ResetFlag) {result : UInt32} (residue : Errno)
    (h : result ≠ 0) : fault (resetting fd flags (.ok result residue)) = some Errno.EIO :=
  if_pos h

/-- The descriptor is released behind every failure. -/
theorem wp_failClosed {fd : ℤ} {err : Errno} {post : Procedure.Post Sys Status Thread Unit}
    (h : ∀ closed, post [releasing fd closed] .TT_ERR { thread with errno := err } ()) :
    Procedure.wp .anything (failClosed fd err) post thread () := by
  rw [failClosed, Procedure.wp_bind, wp_sys]
  exact ⟨trivial, fun closed _ _ ↦ h closed⟩

/-- The end of a reset whose completion was observed. -/
theorem wp_finishReset {fd : ℕ} {info : DevInfo} {wait : List (Event Sys)} (dev : Device)
    (r₀ r₁ r₂ : Errno) (haside : Aside wait) (hobserves : Observes (sysfsPath info) wait) :
    Procedure.wp .anything (finishReset fd) (fun rest status thread' _ ↦
      Course dev (started dev fd info r₀ r₁ r₂ ++ (wait ++ rest)) status thread'.errno)
      thread () := by
  rw [finishReset, Procedure.wp_bind, wp_sys]
  refine ⟨trivial, fun reply _ _ ↦ ?_⟩
  cases reply with
  | fail err => exact wp_failClosed fun closed ↦ .unposted haside hobserves rfl
  | ok result residue =>
    dsimp only
    split
    · rename_i hresult
      exact wp_failClosed fun closed ↦
        .unposted haside hobserves (fault_resetting_ok fd .POST_RESET residue hresult)
    · rename_i hresult
      obtain rfl := not_not.mp hresult
      rw [Procedure.wp_bind, wp_sys]
      refine ⟨trivial, fun closed _ _ ↦ ?_⟩
      cases closed with
      | fail err => exact .unreleased haside hobserves
      | ok value errno => exact .done haside hobserves

/-- The rest of a reset whose first half succeeded. -/
theorem wp_awaitFinish {fd : ℕ} {info : DevInfo} (r₀ r₁ r₂ : Errno) (rounds : ℕ) :
    Procedure.wp .anything (do
        let start ← sys .clockGettime
        let complete ← awaitReset (sysfsPath info) start rounds false
        if complete then
          awaitFirmware rounds { sec := 0, nsec := POST_RESET_DELAY_MS * 1000000 }
          finishReset fd
        else
          failClosed fd .ETIMEDOUT) (fun rest status thread' _ ↦
      Course dev (started dev fd info r₀ r₁ r₂ ++ rest) status thread'.errno) thread () := by
  rw [Procedure.wp_bind, wp_sys]
  refine ⟨trivial, fun start _ _ ↦ ?_⟩
  have hclock : Aside [⟨.clockGettime, start⟩] := aside_single rfl rfl rfl rfl
  refine Procedure.wp_call (wp_awaitReset start rounds false) fun wait complete _ _ hwait ↦ ?_
  obtain ⟨haside, hobserved⟩ := hwait
  have hwaited : Aside ([⟨.clockGettime, start⟩] ++ wait) := hclock.append haside
  split
  · rename_i hcomplete
    have hobserves : Observes (sysfsPath info) wait :=
      (hobserved hcomplete).resolve_right fun hgone ↦ Bool.false_ne_true hgone.1
    refine Procedure.wp_call (wp_awaitFirmware rounds _) fun slept _ _ _ hslept ↦ ?_
    have haside' : Aside ([⟨.clockGettime, start⟩] ++ wait ++ slept) := hwaited.append hslept
    have hobserves' : Observes (sysfsPath info) ([⟨.clockGettime, start⟩] ++ wait ++ slept) :=
      hobserves.after.before
    refine Procedure.wp_mono (wp_finishReset dev r₀ r₁ r₂ haside' hobserves')
      fun rest status thread' _ hcourse ↦ ?_
    simpa using hcourse
  · refine wp_failClosed fun closed ↦ ?_
    exact .incomplete hwaited

theorem wp_resetDevice (dev : Device) (rounds : ℕ) :
    Procedure.wp .anything (resetDevice rounds dev) (fun trace status thread' _ ↦
      Course dev trace status thread'.errno) thread () := by
  have hknown : ¬(TT_OPEN_EXCL ||| TT_OPEN_NONBLOCK) &&&
      ~~~(TT_OPEN_EXCL ||| TT_OPEN_NONBLOCK) ≠ 0 := by decide
  rw [resetDevice, openSession_eq, if_neg hknown, Procedure.wp_bind, Procedure.wp_bind, wp_sys]
  refine ⟨trivial, fun reply _ _ ↦ ?_⟩
  cases reply with
  | fail err => exact .refused
  | ok fd r₀ =>
    have hfd : ¬(fd : ℤ) < 0 := Int.not_lt.mpr (Int.natCast_nonneg fd)
    simp only [Procedure.wp_pure, resetExclusive, devInfo, if_neg hfd]
    rw [Procedure.wp_bind, Procedure.wp_bind, wp_sys]
    refine ⟨trivial, fun reply _ _ ↦ ?_⟩
    cases reply with
    | fail err =>
      rw [wp_ttFailIo, Procedure.wp_bind, wp_getErrno]
      exact wp_failClosed fun closed ↦ .uninformed
    | ok info r₁ =>
      rw [Procedure.wp_pure, Procedure.wp_bind, wp_sys]
      refine ⟨trivial, fun reply _ _ ↦ ?_⟩
      cases reply with
      | fail err => exact wp_failClosed fun closed ↦ .unreset rfl
      | ok result r₂ =>
        dsimp only
        split
        · rename_i hresult
          exact wp_failClosed fun closed ↦
            .unreset (fault_resetting_ok fd .ASIC_RESET r₂ hresult)
        · rename_i hresult
          obtain rfl := not_not.mp hresult
          exact wp_awaitFinish r₀ r₁ r₂ rounds

end Course

/-! ## What every course has in common -/

/-- The promises of a reset. -/
structure Orderly (dev : Device) (trace : List (Event Sys)) (status : Status) (errno : Errno) :
    Prop where
  /-- The second half is requested at most once. -/
  once : (trace.filterMap fun event ↦ posting event.op).length ≤ 1
  /-- It is requested on the descriptor that was acquired exclusively and reset, after the reset
  succeeded and its completion was observed. -/
  order : ∀ before fd reply after, trace = before ++ resetting fd .POST_RESET reply :: after →
    ∃ (acquired : ℕ) (info : DevInfo) (r₀ r₁ r₂ : Errno) (wait : List (Event Sys)),
      fd = acquired ∧ before = started dev acquired info r₀ r₁ r₂ ++ wait ∧
        Observes (sysfsPath info) wait
  /-- What was opened is closed, and nothing else. -/
  settled : ledger [] trace = some []
  succeeded : status = .TT_OK () → ∃ (fd : ℕ) (r₂ r₃ r₄ : Errno),
    resetting fd .ASIC_RESET (.ok 0 r₂) ∈ trace ∧ resetting fd .POST_RESET (.ok 0 r₃) ∈ trace ∧
      trace.getLast? = some (releasing fd (.ok () r₄))
  /-- A failure reports the call that failed, or the wait that ended without completion, or the
  last close. -/
  failed : status = .TT_ERR →
    trace.findSome? fault = some errno ∨
    trace.findSome? fault = none ∧ ((∀ event ∈ trace, posting event.op = none) ∧
        errno = .ETIMEDOUT ∨
      (∃ fd reply, resetting fd .POST_RESET reply ∈ trace) ∧
        ∃ fd : ℤ, trace.getLast? = some (releasing fd (.fail errno)))

section Orderly

variable {dev : Device} {fd : ℕ} {info : DevInfo} {r₀ r₁ r₂ : Errno} {wait : List (Event Sys)}

theorem Aside.posted (h : Aside wait) :
    (wait.filterMap fun event ↦ posting event.op) = [] := by
  rw [List.filterMap_eq_nil_iff]
  exact h.unposted

/-- The only request for the second half. -/
theorem split_posting {pre post before after : List (Event Sys)} {event other : Event Sys}
    (h : pre ++ event :: post = before ++ other :: after)
    (hpre : ∀ e ∈ pre, posting e.op = none) (hpost : ∀ e ∈ post, posting e.op = none)
    (hother : posting other.op ≠ none) : before = pre ∧ other = event := by
  induction pre generalizing before with
  | nil =>
    cases before with
    | nil => exact ⟨rfl, (List.cons.inj h).1.symm⟩
    | cons head tail =>
      have htail : post = tail ++ other :: after := (List.cons.inj h).2
      have hmem : other ∈ post := by
        rw [htail]
        exact List.mem_append_right _ List.mem_cons_self
      exact absurd (hpost other hmem) hother
  | cons head pre ih =>
    obtain ⟨hhead, hrest⟩ := List.forall_mem_cons.mp hpre
    cases before with
    | nil =>
      obtain rfl := (List.cons.inj h).1
      exact absurd hhead hother
    | cons head' tail =>
      obtain ⟨rfl, htail⟩ := List.cons.inj h
      obtain ⟨rfl, hevent⟩ := ih htail hrest
      exact ⟨rfl, hevent⟩

variable {trace : List (Event Sys)} {status : Status} {errno : Errno}

@[simp]
theorem settle_acquiring_ok (fds : List ℤ) : settle fds (acquiring dev (.ok fd r₀)) =
    some ((fd : ℤ) :: fds) := rfl

@[simp]
theorem settle_acquiring_fail (fds : List ℤ) : settle fds (acquiring dev (.fail errno)) =
    some fds := rfl

@[simp]
theorem settle_asking (fds : List ℤ) (fd : ℤ) (reply : Reply DevInfo) :
    settle fds (asking fd reply) = some fds := rfl

@[simp]
theorem settle_resetting (fds : List ℤ) (fd : ℤ) (flags : ResetFlag) (reply : Reply UInt32) :
    settle fds (resetting fd flags reply) = some fds := rfl

@[simp]
theorem settle_releasing (fds : List ℤ) (fd : ℤ) (reply : Reply Unit) :
    settle (fd :: fds) (releasing fd reply) = some fds :=
  settle_close fds fd reply

theorem ledger_started : ledger [] (started dev fd info r₀ r₁ r₂) = some [(fd : ℤ)] := rfl

/-- Every course closes what it opened. -/
theorem Course.settled (h : Course dev trace status errno) : ledger [] trace = some [] := by
  cases h with
  | refused => rfl
  | uninformed => simp
  | unreset => simp
  | incomplete haside => simp [ledger_append, ledger_started, haside.balanced]
  | unposted haside => simp [ledger_append, ledger_started, haside.balanced]
  | unreleased haside => simp [ledger_append, ledger_started, haside.balanced]
  | done haside => simp [ledger_append, ledger_started, haside.balanced]

theorem unposted_started : ∀ event ∈ started dev fd info r₀ r₁ r₂, posting event.op = none := by
  simp [started, posting, acquiring, asking, resetting, resetDeviceIn]

theorem unposted_releasing (fd : ℤ) (reply : Reply Unit) :
    ∀ event ∈ [releasing fd reply], posting event.op = none := by
  simp [releasing, posting]

theorem unposted_append {first rest : List (Event Sys)}
    (h : ∀ event ∈ first, posting event.op = none) (h' : ∀ event ∈ rest, posting event.op = none) :
    ∀ event ∈ first ++ rest, posting event.op = none := by
  intro event hmem
  rcases List.mem_append.mp hmem with hmem | hmem
  · exact h event hmem
  · exact h' event hmem

/-- The requests for the second half on a course, with what comes before them. -/
theorem Course.posts (h : Course dev trace status errno) :
    (∀ event ∈ trace, posting event.op = none) ∨
      ∃ (fd : ℕ) (info : DevInfo) (r₀ r₁ r₂ : Errno) (wait : List (Event Sys))
        (reply : Reply UInt32) (closed : Reply Unit),
        Aside wait ∧ Observes (sysfsPath info) wait ∧
        trace = (started dev fd info r₀ r₁ r₂ ++ wait) ++
          resetting fd .POST_RESET reply :: [releasing fd closed] := by
  cases h with
  | refused => exact .inl (by simp [acquiring, posting])
  | uninformed => exact .inl (by simp [acquiring, asking, releasing, posting])
  | unreset =>
    exact .inl (by simp [acquiring, asking, resetting, releasing, posting, resetDeviceIn])
  | incomplete haside =>
    exact .inl (unposted_append unposted_started
      (unposted_append haside.unposted (unposted_releasing _ _)))
  | unposted haside hobserves hfault =>
    exact .inr ⟨_, _, _, _, _, _, _, _, haside, hobserves, (List.append_assoc _ _ _).symm⟩
  | unreleased haside hobserves =>
    exact .inr ⟨_, _, _, _, _, _, _, _, haside, hobserves, (List.append_assoc _ _ _).symm⟩
  | done haside hobserves =>
    exact .inr ⟨_, _, _, _, _, _, _, _, haside, hobserves, (List.append_assoc _ _ _).symm⟩

theorem Course.once (h : Course dev trace status errno) :
    (trace.filterMap fun event ↦ posting event.op).length ≤ 1 := by
  rcases h.posts with hnone | ⟨fd, info, r₀, r₁, r₂, wait, reply, closed, haside, -, rfl⟩
  · have hnil := List.filterMap_eq_nil_iff.mpr hnone
    rw [hnil]
    exact Nat.zero_le 1
  · have hstarted := List.filterMap_eq_nil_iff.mpr (@unposted_started dev fd info r₀ r₁ r₂)
    rw [List.filterMap_append, List.filterMap_append, hstarted, haside.posted]
    exact Nat.le_refl 1

theorem Course.order (h : Course dev trace status errno) (before : List (Event Sys)) (fd : ℤ)
    (reply : Reply UInt32) (after : List (Event Sys))
    (hsplit : trace = before ++ resetting fd .POST_RESET reply :: after) :
    ∃ (acquired : ℕ) (info : DevInfo) (r₀ r₁ r₂ : Errno) (wait : List (Event Sys)),
      fd = acquired ∧ before = started dev acquired info r₀ r₁ r₂ ++ wait ∧
        Observes (sysfsPath info) wait := by
  have hposting : posting (resetting fd .POST_RESET reply).op ≠ none := Option.some_ne_none fd
  rcases h.posts with hnone | ⟨fd', info, r₀, r₁, r₂, wait, reply', closed, haside, hobserves, rfl⟩
  · have hmem : resetting fd .POST_RESET reply ∈ trace := by
      rw [hsplit]
      exact List.mem_append_right _ List.mem_cons_self
    exact absurd (hnone _ hmem) hposting
  · have hpre := unposted_append (@unposted_started dev fd' info r₀ r₁ r₂) haside.unposted
    obtain ⟨rfl, heq⟩ := split_posting hsplit hpre (unposted_releasing _ _) hposting
    have hfd : posting (resetting fd .POST_RESET reply).op =
        posting (resetting fd' .POST_RESET reply').op := by rw [heq]
    exact ⟨fd', info, r₀, r₁, r₂, wait, Option.some.inj hfd, rfl, hobserves⟩

theorem Course.succeeded (h : Course dev trace status errno) (hok : status = .TT_OK ()) :
    ∃ (fd : ℕ) (r₂ r₃ r₄ : Errno),
      resetting fd .ASIC_RESET (.ok 0 r₂) ∈ trace ∧ resetting fd .POST_RESET (.ok 0 r₃) ∈ trace ∧
        trace.getLast? = some (releasing fd (.ok () r₄)) := by
  cases h with
  | refused | uninformed | unreset | incomplete | unposted | unreleased => cases hok
  | @done fd r₀ r₁ r₂ r₃ _ info wait haside hobserves =>
    have hreset : resetting fd .ASIC_RESET (.ok 0 r₂) ∈ started dev fd info r₀ r₁ r₂ := by
      simp [started]
    refine ⟨fd, r₂, r₃, errno, List.mem_append_left _ hreset, ?_, ?_⟩
    · exact List.mem_append_right _ (List.mem_append_right _ List.mem_cons_self)
    · rw [← List.append_assoc]
      rw [List.getLast?_append]
      rfl

theorem faultless_started : (started dev fd info r₀ r₁ r₂).findSome? fault = none := rfl

/-- The first fault of a course that waited is behind the wait. -/
theorem fault_waited (h : Aside wait) (rest : List (Event Sys)) :
    (started dev fd info r₀ r₁ r₂ ++ (wait ++ rest)).findSome? fault = rest.findSome? fault := by
  rw [List.findSome?_append, faultless_started, Option.none_or, List.findSome?_append,
    h.faultless, Option.none_or]

theorem Course.failed (h : Course dev trace status errno) (herr : status = .TT_ERR) :
    trace.findSome? fault = some errno ∨
    trace.findSome? fault = none ∧ ((∀ event ∈ trace, posting event.op = none) ∧
        errno = .ETIMEDOUT ∨
      (∃ fd reply, resetting fd .POST_RESET reply ∈ trace) ∧
        ∃ fd : ℤ, trace.getLast? = some (releasing fd (.fail errno))) := by
  cases h with
  | refused => exact .inl rfl
  | uninformed => exact .inl rfl
  | @unreset fd r₀ r₁ err info reply closed hfault =>
    have hearlier : fault (acquiring dev (.ok fd r₀)) = none := rfl
    have hearlier' : fault (asking fd (.ok info r₁)) = none := rfl
    exact .inl (by simp [hearlier, hearlier', hfault])
  | incomplete haside =>
    refine .inr ⟨fault_waited haside _, .inl ⟨?_, rfl⟩⟩
    exact unposted_append unposted_started
      (unposted_append haside.unposted (unposted_releasing _ _))
  | unposted haside hobserves hfault =>
    refine .inl ((fault_waited haside _).trans ?_)
    simp [hfault]
  | @unreleased fd r₀ r₁ r₂ r₃ err info wait haside hobserves =>
    refine .inr ⟨fault_waited haside _, .inr ⟨⟨fd, .ok 0 r₃, ?_⟩, fd, ?_⟩⟩
    · exact List.mem_append_right _ (List.mem_append_right _ List.mem_cons_self)
    · rw [← List.append_assoc]
      rw [List.getLast?_append]
      rfl
  | done => cases herr

theorem Course.orderly (h : Course dev trace status errno) : Orderly dev trace status errno where
  once := h.once
  order := h.order
  settled := h.settled
  succeeded := h.succeeded
  failed := h.failed

variable {W : Type} {contract : Contract Sys W} {thread thread' : Thread} {rounds : ℕ} {w w' : W}

end Orderly

/-- A reset whose completion is seen at the first check. -/
def sampleTrace : List (Event Sys) :=
  started { id := 0 } 3 sampleInfo (.other 0) (.other 0) (.other 0) ++
    ([⟨.clockGettime, ⟨0, 0⟩⟩, ⟨.clockGettime, ⟨0, 0⟩⟩,
      ⟨.access (sysfsPath sampleInfo), .ok () (.other 0)⟩,
      ⟨.openFile (configPath (sysfsPath sampleInfo)) (readOnly true), .ok 4 (.other 0)⟩,
      ⟨.pread 4 1 4, .ok [0] (.other 0)⟩, ⟨.close 4, .ok () (.other 0)⟩,
      ⟨.nanosleep ⟨0, POST_RESET_DELAY_MS * 1000000⟩, (.ok () (.other 0), ⟨0, 0⟩)⟩] ++
      [resetting 3 .POST_RESET (.ok 0 (.other 0)), releasing 3 (.ok () (.other 0))])

end TtDal.Safety.ResetCourse
