import TtDal.Dev.Version
import TtDal.Safety.AddressLookup

/-!
# The version of the driver

Any device tells the version, since it is one of the driver. The query asks the first device of a
scan and no other, so it is right where that device stands for all: where it answers if any does,
and where it is not missing while another one is there.
-/

namespace TtDal.Safety.DriverVersion

open Effect Platform Dev Driver

open Listing (filled_append filled_singleton)

/-- The version the driver tells. -/
def told (driver : DriverInfo) : Version where
  major := driver.driverVersionMajor.toNat
  minor := driver.driverVersionMinor.toNat
  patch := driver.driverVersionPatch.toNat

/-- A directory that is scanned, with devices that are used or not as they were found, and one
version of the driver. -/
def world (driver : DriverInfo) (scan : Scan) (pattern : String → Fate) : Contract Sys Listing :=
  (Listing.contract Listing.Queries (· = scan) fun _ ↦ pattern).restricted (Listing.Reports driver)

/-- A device of a list can be opened. -/
def Opens (pattern : String → Fate) (devices : List Device) : Prop :=
  ∃ dev ∈ devices, (pattern (devicePath dev)).opens = true

/-- A device of a list opens and answers the query. -/
def Answers (pattern : String → Fate) (devices : List Device) : Prop :=
  ∃ dev ∈ devices, (pattern (devicePath dev)).answers = true

/-- The query returns. It reports `ENODEV` only if no device can be opened, and it gives the version
if any device opens and answers. -/
def Finds (driver : DriverInfo) (scan : Scan) (pattern : String → Fate) (rounds : ℕ)
    (old : Version) (thread : Thread) : Prop :=
  Procedure.Completes (world driver scan pattern) (ttKmdVersion rounds (some old)) thread
    Listing.initial fun _ out thread' _ ↦
      (out.1 = .TT_ERR → thread'.errno = .ENODEV → ¬Opens pattern scan.devices) ∧
        (Answers pattern scan.devices → out = (.TT_OK (), some (told driver)))

/-- The first device stands for all. -/
structure Represents (pattern : String → Fate) (first : Device) (devices : List Device) : Prop where
  /-- It answers if any does. -/
  answers : Answers pattern devices → (pattern (devicePath first)).answers = true
  /-- If any opens, then it opens or is held. -/
  opens : Opens pattern devices → (pattern (devicePath first)).opens = true ∨
    pattern (devicePath first) = .unopened .EAGAIN

section Query

variable {driver : DriverInfo} {scan : Scan} {pattern : String → Fate} {s : Listing}
  {thread : Thread}

/-- What the query gives, by what becomes of the first device. -/
def Given (driver : DriverInfo) (fate : Fate) (res : Result Version) (errno : Errno) : Prop :=
  match fate with
  | .unopened err => res = .TT_ERR ∧ errno = if err = .EAGAIN then .EAGAIN else .ENODEV
  | .mute _ => res = .TT_ERR ∧ errno ≠ .ENODEV
  | .answering _ => res = .TT_OK (told driver)

/-- The query of an open session. -/
def asked (sess : Session) : C (Result Version) := do
  let res ← sys (.getDriverInfo sess.fd)
  let err ← getErrno
  let _ ← closeSession sess
  match res with
  | .fail _ => ttFailIo err
  | .ok out _ => return .TT_OK (told out)

theorem wp_closeSession (sess : Session) :
    Procedure.wp (world driver scan pattern) (closeSession sess) (fun _ _ _ s' ↦ s' = s) thread s :=
  Procedure.wp_restricted (Procedure.wp_mono (Listing.wp_closeSession (fun _ ↦ trivial) sess)
    fun _ _ _ _ hclosed ↦ hclosed.2)

theorem wp_asked (sess : Session) {fate : Fate} (hopens : fate.opens = true)
    (hcurrent : s.current = some fate) :
    Procedure.wp (world driver scan pattern) (asked sess) (fun _ res thread' _ ↦
      Given driver fate res thread'.errno) thread s := by
  rw [asked, Procedure.wp_bind, wp_sys]
  refine ⟨trivial, fun reply s₁ hanswer ↦ ?_⟩
  have hreport : Listing.Reports driver (.getDriverInfo sess.fd) s reply s₁ := hanswer.2
  simp only [Listing.Reports, hcurrent, Option.bind_some] at hreport
  simp only [Procedure.wp_bind, wp_getErrno]
  refine Procedure.wp_mono (wp_closeSession sess) fun _ _ _ _ _ ↦ ?_
  cases fate with
  | unopened err => cases hopens
  | mute err =>
    cases reply with
    | ok out residue => cases hreport
    | fail err' => exact ⟨rfl, normalise_ne_ENODEV err'⟩
  | answering info =>
    obtain ⟨residue, rfl⟩ := hreport
    exact rfl

/-- The query is settled by the first device of the scan. -/
theorem wp_kmdVersion {first : Device} {rest : List Device} {rounds : ℕ}
    (hdevices : scan.devices = first :: rest) (hrounds : scan.entries.length < rounds) :
    Procedure.wp (world driver scan pattern) (kmdVersion rounds) (fun _ res thread' _ ↦
      Given driver (pattern (devicePath first)) res thread'.errno) thread s := by
  have hlisted : ∀ other, other = scan → other.entries.length < rounds := by
    intro other hother
    rw [hother]
    exact hrounds
  have hpermitted : ∀ op, Listing.Scans op → Listing.Queries op := by
    intro op hop
    cases op <;> trivial
  rw [kmdVersion]
  refine Procedure.wp_call (Procedure.wp_restricted
    (Listing.wp_ttDevScan hpermitted rounds 1 hlisted)) ?_
  intro _ res _ s₁ hscanned
  obtain ⟨other, -, -, rfl, hreported⟩ := hscanned
  have hres : res = .TT_OK (rest.length + 1, [first]) := by
    cases other with
    | listed entries =>
      simp only [Scan.Reported, Scan.report, hdevices] at hreported
      exact hreported
    | failed err => cases hdevices
  rw [hres]
  simp only [Nat.add_one_ne_zero, if_false, scannedDevice, List.getElem?_cons_zero, pure_bind]
  refine Procedure.wp_call (Procedure.wp_restricted
    (Listing.wp_openSession (fun _ _ ↦ trivial) first)) ?_
  intro _ opened _ s₂ hopened
  rcases hopened.2 with ⟨err, hfate, rfl, herrno, -⟩ | ⟨sess, hopens, rfl, -, rfl⟩
  · rw [hfate]
    exact ⟨rfl, herrno⟩
  · exact wp_asked sess hopens rfl

/-- What the caller gets, with the version he passed. -/
def reply (old : Version) : Result Version → Status × Option Version
  | .TT_OK version => (.TT_OK (), some version)
  | .TT_ERR => (.TT_ERR, some old)

theorem completes_ttKmdVersion {first : Device} {rest : List Device} {rounds : ℕ}
    (hdevices : scan.devices = first :: rest) (hrounds : scan.entries.length < rounds)
    (old : Version) :
    Procedure.Completes (world driver scan pattern) (ttKmdVersion rounds (some old)) thread s
      fun _ out thread' _ ↦ ∃ res, Given driver (pattern (devicePath first)) res thread'.errno ∧
        out = reply old res := by
  apply Procedure.wp_completes
  · intro op v hop
    have hscan : ∃ other, other = scan := ⟨scan, rfl⟩
    exact Listing.restricted_answered driver hscan hop v
  · exact fun _ ↦ id
  · refine Procedure.wp_call (wp_kmdVersion hdevices hrounds) ?_
    intro _ res _ _ hgiven
    cases res with
    | TT_OK version => exact ⟨.TT_OK version, hgiven, rfl⟩
    | TT_ERR => exact ⟨.TT_ERR, hgiven, rfl⟩

end Query

/-! ## The first device -/

section Found

variable {driver : DriverInfo} {fate : Fate} {res : Result Version} {errno : Errno} {old : Version}

/-- The version is given where the device answers. -/
theorem Given.answers_iff (h : Given driver fate res errno) :
    fate.answers = true ↔ reply old res = (.TT_OK (), some (told driver)) := by
  cases fate with
  | unopened err =>
    rw [h.1]
    exact iff_of_false nofun nofun
  | mute err =>
    rw [h.1]
    exact iff_of_false nofun nofun
  | answering info =>
    obtain rfl : res = .TT_OK (told driver) := h
    exact iff_of_true rfl rfl

/-- `ENODEV` is reported where the device is missing and not held. -/
theorem Given.missing_iff (h : Given driver fate res errno) :
    (reply old res).1 = .TT_ERR ∧ errno = .ENODEV ↔
      ¬(fate.opens = true ∨ fate = .unopened .EAGAIN) := by
  cases fate with
  | unopened err =>
    obtain ⟨rfl, rfl⟩ := h
    by_cases hheld : err = .EAGAIN
    · rw [hheld]
      exact iff_of_false (fun hmissing ↦ absurd hmissing.2 nofun) (fun hopens ↦ hopens (.inr rfl))
    · rw [if_neg hheld]
      refine iff_of_true ⟨rfl, rfl⟩ (not_or.mpr ⟨nofun, fun hfate ↦ hheld ?_⟩)
      exact Fate.unopened.inj hfate
  | mute err => exact iff_of_false (fun hmissing ↦ h.2 hmissing.2) fun hopens ↦ hopens (.inl rfl)
  | answering info =>
    obtain rfl : res = .TT_OK (told driver) := h
    exact iff_of_false (fun hmissing ↦ absurd hmissing.1 nofun) fun hopens ↦ hopens (.inl rfl)

/-- The version is found exactly where the first device of the scan stands for all. -/
theorem version_found_iff {scan : Scan} {first : Device} {rest : List Device} {rounds : ℕ}
    (hdevices : scan.devices = first :: rest) (hrounds : scan.entries.length < rounds)
    (driver : DriverInfo) (pattern : String → Fate) (old : Version) (thread : Thread) :
    Finds driver scan pattern rounds old thread ↔ Represents pattern first scan.devices := by
  have hcompletes := @completes_ttKmdVersion driver scan pattern Listing.initial thread first rest
    rounds hdevices hrounds old
  constructor
  · intro hfinds
    obtain ⟨_, _, thread', _, hfound, res, hgiven, rfl⟩ := hfinds.common hcompletes
    constructor
    · exact fun hany ↦ hgiven.answers_iff.mpr (hfound.2 hany)
    · intro hany
      by_contra hmissing
      obtain ⟨herr, herrno⟩ := (@Given.missing_iff _ _ _ _ old hgiven).mpr hmissing
      exact hfound.1 herr herrno hany
  · intro hfirst
    refine hcompletes.mono fun _ out thread' _ hrun ↦ ?_
    obtain ⟨res, hgiven, rfl⟩ := hrun
    constructor
    · exact fun herr herrno hany ↦ hgiven.missing_iff.mp ⟨herr, herrno⟩ (hfirst.opens hany)
    · exact fun hany ↦ hgiven.answers_iff.mp (hfirst.answers hany)

end Found

/-! ## Two devices -/

open AddressLookup (nodes nodes_devices length_entries_nodes cardThree)

/-- One device is at hand and the others are gone. -/
def only (present : Device) (path : String) : Fate :=
  if path = devicePath present then .answering cardThree else .unopened .ENODEV

theorem only_present (present : Device) :
    only present (devicePath present) = .answering cardThree :=
  if_pos rfl

/-- The driver that was asked. -/
def driverTwo : DriverInfo where
  driverVersionMajor := 2
  driverVersionMinor := 1
  driverVersionPatch := 0

def noVersion : Version where
  major := 0
  minor := 0
  patch := 0

theorem two_devices : (nodes 2).devices = [{ id := 0 }, { id := 1 }] := by
  rw [nodes_devices]
  rfl

theorem two_entries : (nodes 2).entries.length < 3 := by
  rw [length_entries_nodes]
  decide

/-- Where the first device is at hand, it gives the version. -/
theorem first_device_found :
    Finds driverTwo (nodes 2) (only { id := 0 }) 3 noVersion Thread.initial := by
  apply (version_found_iff two_devices two_entries driverTwo _ noVersion Thread.initial).mpr
  constructor
  · intro _
    rw [only_present]
    rfl
  · intro _
    rw [only_present]
    exact .inl rfl

/-- Where only the second device is at hand, every query reports that there is none. -/
theorem second_device_missed :
    Answers (only { id := 1 }) (nodes 2).devices ∧
    Procedure.Completes (world driverTwo (nodes 2) (only { id := 1 }))
      (ttKmdVersion 3 (some noVersion)) Thread.initial Listing.initial
      (fun _ out thread' _ ↦ out = (.TT_ERR, some noVersion) ∧ thread'.errno = .ENODEV) ∧
    ¬Finds driverTwo (nodes 2) (only { id := 1 }) 3 noVersion Thread.initial := by
  have hgone : only { id := 1 } (devicePath { id := 0 }) = .unopened .ENODEV := by
    apply if_neg
    exact mt (fun hsame ↦ DeviceNames.devicePath_injective hsame) (by decide)
  have hanswers : Answers (only { id := 1 }) (nodes 2).devices := by
    refine ⟨{ id := 1 }, ?_, ?_⟩
    · rw [two_devices]
      decide
    · rw [only_present]
      rfl
  have hmissing : Procedure.Completes (world driverTwo (nodes 2) (only { id := 1 }))
      (ttKmdVersion 3 (some noVersion)) Thread.initial Listing.initial
      (fun _ out thread' _ ↦ out = (.TT_ERR, some noVersion) ∧ thread'.errno = .ENODEV) := by
    refine (completes_ttKmdVersion two_devices two_entries noVersion).mono fun _ out thread' _ hrun ↦ ?_
    obtain ⟨res, hgiven, rfl⟩ := hrun
    rw [hgone] at hgiven
    obtain ⟨rfl, herrno⟩ := hgiven
    exact ⟨rfl, herrno⟩
  refine ⟨hanswers, hmissing, fun hfinds ↦ ?_⟩
  obtain ⟨_, out, _, _, hfound, rfl, -⟩ := hfinds.common hmissing
  exact absurd (hfound.2 hanswers) nofun

end TtDal.Safety.DriverVersion
