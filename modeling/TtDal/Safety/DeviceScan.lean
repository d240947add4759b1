import TtDal.Binding.Scan
import TtDal.Driver.Listing
import Mathlib.Data.Nat.Log
import Mathlib.Tactic.Ring

/-!
# Scanning while devices come and go

Each scan of the bindings sees a directory of its own. A scan that was too small is repeated with
room for twice what it counted, so the number of scans is logarithmic in the number of devices,
and the devices that are returned are those of the last scan.
-/

namespace TtDal.Safety.DeviceScan

open Effect Platform Dev Driver Binding

/-- What a scan of the whole directory reports. -/
def outcome : Scan → Except Errno (List Device)
  | .listed entries => .ok (entries.filterMap scanEntry)
  | .failed err => if err = .ENOENT then .ok [] else .error err

/-- The scans that suffice for a number of devices, `1 + ⌈log₂ (max devices 32 / 32)⌉`: one, and
one for each doubling that takes the first capacity to that number. -/
def scanBound (devices : ℕ) : ℕ := 1 + Nat.clog 2 ((max devices SCAN_CAP + 31) / SCAN_CAP)

section Loop

variable {permitted : Syscall → Prop} {allowed : Scan → Prop} {fate : ℕ → String → Fate}
  {s : Listing} {thread : Thread} {devices rounds : ℕ}

theorem scanBound_covers (devices : ℕ) : devices ≤ 2 ^ (scanBound devices - 1) * SCAN_CAP := by
  have hpow : (max devices SCAN_CAP + 31) / SCAN_CAP ≤
      2 ^ Nat.clog 2 ((max devices SCAN_CAP + 31) / SCAN_CAP) := Nat.le_pow_clog (by omega) _
  have hsub : scanBound devices - 1 = Nat.clog 2 ((max devices SCAN_CAP + 31) / SCAN_CAP) :=
    Nat.add_sub_cancel_left ..
  rw [hsub]
  generalize 2 ^ Nat.clog 2 ((max devices SCAN_CAP + 31) / SCAN_CAP) = doublings at hpow
  simp only [SCAN_CAP] at hpow ⊢
  omega

/-- A vector holds exactly what the last scan found, and a failure is the failure of that scan. -/
def Holds (last : Scan) (out : Option (ℕ × ScanBuffer)) (errno : Errno) : Prop :=
  match out with
  | some (len, buf) =>
      outcome last = .ok buf.stored ∧ len = buf.stored.length ∧ len ≤ buf.capacity
  | none => outcome last = .error errno

/-- What the loop leaves, after one scan and at most a number of repetitions. -/
def Ends (most : ℕ) (s : Listing) (out : Option (ℕ × ScanBuffer)) (thread' : Thread)
    (s' : Listing) : Prop :=
  ∃ last earlier, s'.scans = last :: (earlier ++ s.scans) ∧ earlier.length ≤ most ∧
    Holds last out thread'.errno

/-- A scan that was too small leaves room for twice as many devices. -/
theorem wp_scanAll (hpermitted : ∀ op, Listing.Scans op → permitted op)
    (hrounds : ∀ scan, allowed scan → scan.entries.length < rounds)
    (hdevices : ∀ scan, allowed scan → scan.devices.length ≤ devices)
    (most scans capacity cap : ℕ) (hscans : most < scans) (hcap : devices ≤ 2 ^ most * cap) :
    Procedure.wp (Listing.contract permitted allowed fate) (scanAll rounds scans capacity cap)
      (fun _ out thread' s' ↦ Ends most s out thread' s') thread s := by
  induction scans generalizing s thread most capacity cap with
  | zero => omega
  | succ scans ih =>
    rw [scanAll]
    refine Procedure.wp_call (Listing.wp_ttDevScan hpermitted rounds cap hrounds) ?_
    intro _ res thread₁ s₁ hscan
    obtain ⟨scan, hscans₁, -, hallowed, hreported⟩ := hscan
    cases scan with
    | failed err =>
      by_cases herr : err = .ENOENT
      · simp only [Scan.Reported, if_pos herr] at hreported
        obtain rfl := hreported
        simp only [if_pos (Nat.zero_le cap)]
        refine ⟨.failed err, [], hscans₁, Nat.zero_le most, ?_, rfl, Nat.zero_le _⟩
        exact if_pos herr
      · simp only [Scan.Reported, if_neg herr] at hreported
        obtain ⟨rfl, herrno⟩ := hreported
        refine ⟨.failed err, [], hscans₁, Nat.zero_le most, ?_⟩
        exact (if_neg herr).trans (congrArg Except.error herrno.symm)
    | listed entries =>
      obtain rfl : res = .TT_OK ((entries.filterMap scanEntry).length,
        (entries.filterMap scanEntry).take cap) := hreported
      have hcount : (entries.filterMap scanEntry).length ≤ devices := hdevices _ hallowed
      by_cases hfit : (entries.filterMap scanEntry).length ≤ cap
      · rw [List.take_of_length_le hfit]
        simp only [if_pos hfit]
        refine ⟨.listed entries, [], hscans₁, Nat.zero_le most, rfl, rfl, ?_⟩
        exact hfit.trans (by simp [reserve])
      · simp only [if_neg hfit]
        cases most with
        | zero => omega
        | succ most =>
          -- The count was over the capacity, so twice the count is over twice the capacity.
          have hdoubled : devices ≤ 2 ^ most * ((entries.filterMap scanEntry).length * 2) := by
            calc devices ≤ 2 ^ (most + 1) * cap := hcap
              _ = 2 ^ most * (cap * 2) := by ring
              _ ≤ 2 ^ most * ((entries.filterMap scanEntry).length * 2) :=
                Nat.mul_le_mul_left _ (by omega)
          refine Procedure.wp_mono (ih most _ _ (by omega) hdoubled) ?_
          intro _ out thread' s' hends
          obtain ⟨last, earlier, hscans', hmost, hout⟩ := hends
          refine ⟨last, earlier ++ [.listed entries], ?_, ?_, hout⟩
          · rw [hscans', hscans₁, List.append_assoc, List.singleton_append]
          · rw [List.length_append, List.length_singleton]
            omega

/-- The elements that were stored are read, and no others. -/
theorem mapM_scannedDevice (before stored : List Device) :
    (List.range' before.length stored.length).mapM (scannedDevice (before ++ stored)) =
      pure stored := by
  induction stored generalizing before with
  | nil => rfl
  | cons dev rest ih =>
    have hfirst : scannedDevice (before ++ dev :: rest) before.length = pure dev := by
      simp [scannedDevice]
    have hrest := ih (before ++ [dev])
    rw [List.length_append, List.append_assoc, List.singleton_append] at hrest
    rw [List.length_cons, List.range'_succ, List.mapM_cons, hfirst, pure_bind]
    simp only [List.length_singleton] at hrest
    rw [hrest, pure_bind]

theorem elements_eq (buf : ScanBuffer) : elements buf.stored.length buf = pure buf.stored := by
  rw [elements, List.range_eq_range']
  exact mapM_scannedDevice [] buf.stored

/-- A number of scans was made, and what the last one found is returned. -/
def Scanned {ε : Type} (devices : ℕ) (fails : Errno → ε) (s : Listing)
    (result : Except ε (List Device)) (s' : Listing) : Prop :=
  ∃ last earlier, s'.scans = last :: (earlier ++ s.scans) ∧
    (last :: earlier).length ≤ scanBound devices ∧ result = (outcome last).mapError fails

/-- A binding returns what the loop left in its vector. -/
theorem wp_scanWith {ε : Type} (fails : Errno → ε)
    (hrounds : ∀ scan, allowed scan → scan.entries.length < rounds)
    (hdevices : ∀ scan, allowed scan → scan.devices.length ≤ devices)
    (scans capacity : ℕ) (hscans : scanBound devices ≤ scans) :
    Procedure.wp (Listing.contract Listing.Scans allowed fate)
      (scanWith fails rounds scans capacity)
      (fun _ result _ s' ↦ Scanned devices fails s result s') thread s := by
  have hone : 1 ≤ scanBound devices := Nat.le_add_right ..
  refine Procedure.wp_call (wp_scanAll (fun _ h ↦ h) hrounds hdevices (scanBound devices - 1)
    scans capacity SCAN_CAP (by omega) (scanBound_covers devices)) ?_
  intro _ out thread₁ s₁ hout
  obtain ⟨last, earlier, hscans₁, hlength, hholds⟩ := hout
  have hbound : (last :: earlier).length ≤ scanBound devices := by
    rw [List.length_cons]
    omega
  cases out with
  | none =>
    have hlast : outcome last = .error thread₁.errno := hholds
    refine ⟨last, earlier, hscans₁, hbound, ?_⟩
    rw [hlast]
    rfl
  | some found =>
    obtain ⟨len, buf⟩ := found
    obtain ⟨hlast, rfl, -⟩ : outcome last = .ok buf.stored ∧ len = buf.stored.length ∧
      len ≤ buf.capacity := hholds
    simp only [elements_eq, pure_bind, Procedure.wp_pure]
    refine ⟨last, earlier, hscans₁, hbound, ?_⟩
    rw [hlast]
    rfl

/-- What a scan stores fits the vector in which room was reserved for it. -/
def Fits (capacity cap : ℕ) (res : Result (ℕ × List Device)) : Prop :=
  ∀ len stored, res = .TT_OK (len, stored) → stored.length ≤ reserve capacity 0 cap

theorem fits_of_reported {scan : Scan} {cap : ℕ} {res : Result (ℕ × List Device)} {errno : Errno}
    (h : scan.Reported cap res errno) (capacity : ℕ) : Fits capacity cap res := by
  have hroom : cap ≤ reserve capacity 0 cap := by simp [reserve]
  intro len stored hres
  cases scan with
  | failed err =>
    by_cases herr : err = .ENOENT
    · simp only [Scan.Reported, if_pos herr] at h
      cases h.symm.trans hres
      exact Nat.zero_le _
    · simp only [Scan.Reported, if_neg herr] at h
      cases h.1.symm.trans hres
  | listed entries =>
    have hlisted : res = .TT_OK ((entries.filterMap scanEntry).length,
      (entries.filterMap scanEntry).take cap) := h
    cases hlisted.symm.trans hres
    exact (List.length_take_le cap _).trans hroom

/-- A scan for any capacity stores the first devices and counts all, without running over the vector
it stores in. The loop ends after a logarithmic number of scans with a vector whose length is what
was stored and within its capacity, and each binding returns the devices of the last scan. -/
theorem scan_complete (allowed : Scan → Prop) (fate : ℕ → String → Fate)
    (devices rounds scans : ℕ) (hscan : ∃ scan, allowed scan)
    (hrounds : ∀ scan, allowed scan → scan.entries.length < rounds)
    (hdevices : ∀ scan, allowed scan → scan.devices.length ≤ devices)
    (hscans : scanBound devices ≤ scans) (thread : Thread) (s : Listing) :
    (∀ capacity cap, Procedure.Completes (Listing.contract Listing.Scans allowed fate)
      (ttDevScan rounds cap) thread s fun trace res thread' s' ↦ Filled trace ∧
        Fits capacity cap res ∧
        ∃ scan, s'.scans = scan :: s.scans ∧ scan.Reported cap res thread'.errno) ∧
    (∀ capacity, Procedure.Completes (Listing.contract Listing.Scans allowed fate)
      (scanAll rounds scans capacity SCAN_CAP) thread s fun trace out thread' s' ↦ Filled trace ∧
        Ends (scanBound devices - 1) s out thread' s') ∧
    Procedure.Completes (Listing.contract Listing.Scans allowed fate) (Rust.scan rounds scans)
      thread s (fun trace result _ s' ↦ Filled trace ∧ Scanned devices id s result s') ∧
    Procedure.Completes (Listing.contract Listing.Scans allowed fate) (Python.scan rounds scans)
      thread s (fun trace result _ s' ↦ Filled trace ∧ Scanned devices .TTError s result s') := by
  have hone : 1 ≤ scanBound devices := Nat.le_add_right ..
  refine ⟨fun capacity cap ↦ Listing.completes_of_wp hscan ?_,
    fun capacity ↦ Listing.completes_of_wp hscan ?_, Listing.completes_of_wp hscan ?_,
    Listing.completes_of_wp hscan ?_⟩
  · refine Procedure.wp_mono (Listing.wp_ttDevScan (fun _ h ↦ h) rounds cap hrounds) ?_
    intro _ res thread' s' hreported
    obtain ⟨scan, hscans', -, -, hreported⟩ := hreported
    exact ⟨fits_of_reported hreported capacity, scan, hscans', hreported⟩
  · exact wp_scanAll (fun _ h ↦ h) hrounds hdevices (scanBound devices - 1) scans capacity SCAN_CAP
      (by omega) (scanBound_covers devices)
  · exact wp_scanWith id hrounds hdevices scans _ hscans
  · exact wp_scanWith Python.PyErr.TTError hrounds hdevices scans _ hscans

end Loop

/-- Directories of at most 100 entries are scanned at most three times. -/
theorem hundred_scanned : scanBound 100 = 3 ∧
    Procedure.Completes
      (Listing.contract Listing.Scans (fun scan ↦ scan.entries.length ≤ 100) fun _ _ ↦
        .unopened .ENODEV)
      (Rust.scan 101 3) Thread.initial Listing.initial
      (fun trace result _ s' ↦ Filled trace ∧ Scanned 100 id Listing.initial result s') := by
  have hbound : scanBound 100 = 3 := by
    have hfour : (max 100 SCAN_CAP + 31) / SCAN_CAP = 2 ^ 2 := by decide
    rw [scanBound, hfour, Nat.clog_pow 2 2 Nat.one_lt_two]
  have hscan : ∃ scan : Scan, scan.entries.length ≤ 100 := ⟨.failed .ENOENT, Nat.zero_le _⟩
  refine ⟨hbound, (scan_complete _ _ 100 101 3 hscan (fun scan h ↦ Nat.lt_succ_of_le h)
    (fun scan h ↦ ?_) hbound.le _ _).2.2.1⟩
  exact (List.length_filterMap_le _ _).trans h

end TtDal.Safety.DeviceScan
