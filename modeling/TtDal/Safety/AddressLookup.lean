import TtDal.Driver.Listing
import TtDal.Safety.AddressText
import TtDal.Safety.DeviceNames

/-!
# The lookup by PCI address

The lookup asks the devices of a scan in order, up to the number that the scan counted, and its
buffer holds the first 64. It is right where a match stops it in time, or where no more devices
were counted than are in the buffer.
-/

namespace TtDal.Safety.AddressLookup

open Effect Platform Dev Driver AddressText

open Listing (filled_append filled_singleton)

variable {fate : ℕ → String → Fate} {nums : Numbers} {devs : List Device} {s : Listing}
  {thread : Thread}

/-- An entry of the buffer opens, answers and has the address. -/
def Matches (fate : ℕ → String → Fate) (nums : Numbers) (devs : List Device) (index : ℕ)
    (dev : Device) : Prop :=
  devs[index]? = some dev ∧
    ∃ info, (fate index (devicePath dev)).info = some info ∧ infoNumbers info = nums

/-- The result is the first match, or `ENODEV` where there is none. -/
def Answered (fate : ℕ → String → Fate) (nums : Numbers) (devs : List Device)
    (res : Result Device) (errno : Errno) : Prop :=
  (∃ index dev, Matches fate nums devs index dev ∧
      (∀ i < index, ∀ other, ¬Matches fate nums devs i other) ∧ res = .TT_OK dev) ∨
    (∀ index dev, ¬Matches fate nums devs index dev) ∧ res = .TT_ERR ∧ errno = .ENODEV

/-- The buffer holds the entries up to a number, or a match comes first. -/
def Covered (fate : ℕ → String → Fate) (nums : Numbers) (devs : List Device) (count : ℕ) : Prop :=
  count ≤ devs.length ∨ ∃ index dev, Matches fate nums devs index dev

/-! ## One device -/

/-- Open a device, ask it and close it. -/
def inquire (dev : Device) : C (Option DevInfo) := do
  match ← openSession dev 0 with
  | .TT_ERR => return none
  | .TT_OK sess =>
    let res ← devInfo sess
    let _ ← closeSession sess
    match res with
    | .TT_ERR => return none
    | .TT_OK info => return some info

theorem matchBdf_succ (text : List Char) (devs : List Device) (remaining index : ℕ) :
    matchBdf text devs (remaining + 1) index = (do
      let dev ← scannedDevice devs index
      match ← inquire dev with
      | none => matchBdf text devs remaining (index + 1)
      | some info =>
        if infoBdf info = text then
          return .TT_OK dev
        else
          matchBdf text devs remaining (index + 1)) := by
  rw [matchBdf]
  congr 1
  funext dev
  rw [inquire, bind_assoc]
  congr 1
  funext opened
  cases opened with
  | TT_ERR => rfl
  | TT_OK sess =>
    simp only [bind_assoc]
    congr 1
    funext res
    congr 1
    funext _
    cases res <;> rfl

/-- A device that answers gives its answer, and any other fails the query. -/
theorem wp_devInfo (allowed : Scan → Prop) (sess : Session) (hfd : 0 ≤ sess.fd) {known : Fate}
    (hcurrent : s.current = some known) :
    Procedure.wp (Listing.contract Listing.Looks allowed fate) (devInfo sess)
      (fun trace res _ s' ↦ Filled trace ∧ s' = s ∧ res = match known.info with
        | some info => .TT_OK info
        | none => .TT_ERR) thread s := by
  rw [devInfo, if_neg (Int.not_lt.mpr hfd), Procedure.wp_bind, wp_sys]
  refine ⟨trivial, fun reply s₁ hreply ↦ ?_⟩
  have hanswer : Listing.answers allowed fate (.getDeviceInfo sess.fd) s reply s₁ := hreply
  simp only [Listing.answers, hcurrent, Option.bind_some] at hanswer
  obtain ⟨hsame, hanswer⟩ := hanswer
  cases hinfo : known.info with
  | some info =>
    rw [hinfo] at hanswer
    obtain ⟨residue, rfl⟩ := hanswer
    exact ⟨filled_singleton (by simp), hsame, rfl⟩
  | none =>
    rw [hinfo] at hanswer
    cases reply with
    | ok value residue => cases hanswer
    | fail err => exact ⟨filled_singleton (by simp), hsame, rfl⟩

/-- A session that was opened is asked and closed. -/
theorem wp_asked (allowed : Scan → Prop) (sess : Session) (hfd : 0 ≤ sess.fd) {known : Fate}
    (hcurrent : s.current = some known) :
    Procedure.wp (Listing.contract Listing.Looks allowed fate) (do
        let res ← devInfo sess
        let _ ← closeSession sess
        match res with
        | .TT_ERR => return none
        | .TT_OK info => return some info)
      (fun trace out _ s' ↦ Filled trace ∧ out = known.info ∧ s'.attempts = s.attempts)
      thread s := by
  refine Procedure.wp_call (wp_devInfo allowed sess hfd hcurrent) ?_
  intro asked res _ s₁ hasked
  obtain ⟨hfilled, rfl, rfl⟩ := hasked
  refine Procedure.wp_call (Listing.wp_closeSession (fun _ ↦ trivial) sess) ?_
  intro closed _ _ s₂ hclosed
  obtain ⟨hfilled', rfl⟩ := hclosed
  have htrace : Filled (asked ++ (closed ++ [])) := by
    rw [List.append_nil]
    exact filled_append.mpr ⟨hfilled, hfilled'⟩
  cases hinfo : known.info with
  | none => exact ⟨htrace, rfl, rfl⟩
  | some info => exact ⟨htrace, rfl, rfl⟩

/-- One attempt is made on a device, and it gives what the device answers. -/
theorem wp_inquire (allowed : Scan → Prop) (dev : Device) :
    Procedure.wp (Listing.contract Listing.Looks allowed fate) (inquire dev)
      (fun trace out _ s' ↦ Filled trace ∧ out = (fate s.attempts (devicePath dev)).info ∧
        s'.attempts = s.attempts + 1) thread s := by
  rw [inquire]
  refine Procedure.wp_call (Listing.wp_openSession (fun _ _ ↦ trivial) dev) ?_
  intro opening res _ s₁ hopened
  obtain ⟨hfilled, hopened⟩ := hopened
  rcases hopened with ⟨err, hfate, rfl, -, rfl⟩ | ⟨sess, -, rfl, hfd, rfl⟩
  · rw [hfate]
    exact ⟨filled_append.mpr ⟨hfilled, List.forall_mem_nil _⟩, rfl, rfl⟩
  · refine Procedure.wp_mono (wp_asked allowed sess hfd rfl) ?_
    intro asked out _ s' hout
    exact ⟨filled_append.mpr ⟨hfilled, hout.1⟩, hout.2.1, hout.2.2⟩

/-! ## The loop -/

section Loop

theorem Matches.lt {index : ℕ} {dev : Device} (h : Matches fate nums devs index dev) :
    index < devs.length := by
  obtain ⟨hlt, -⟩ := List.getElem?_eq_some_iff.mp h.1
  exact hlt

/-- The comparison of a device that answered decides whether it matches. -/
theorem matches_iff (hfits : Fits nums) {index : ℕ} {dev : Device} {info : DevInfo}
    (hdev : devs[index]? = some dev) (hinfo : (fate index (devicePath dev)).info = some info) :
    Matches fate nums devs index dev ↔ infoBdf info = normalized nums := by
  rw [infoBdf_eq, normalized_inj (infoNumbers_fits info) hfits]
  constructor
  · intro h
    obtain ⟨-, other, hother, hnums⟩ := h
    rw [hinfo] at hother
    obtain rfl := Option.some.inj hother
    exact hnums
  · exact fun hnums ↦ ⟨hdev, info, hinfo, hnums⟩

theorem unmatched_succ {index : ℕ} (h : ∀ i < index, ∀ dev, ¬Matches fate nums devs i dev)
    (hindex : ∀ dev, ¬Matches fate nums devs index dev) :
    ∀ i < index + 1, ∀ dev, ¬Matches fate nums devs i dev := by
  intro i hi
  rcases Nat.lt_succ_iff_lt_or_eq.mp hi with hlt | rfl
  · exact h i hlt
  · exact hindex

/-- Behind the last filled entry, with no match before it, nothing is covered. -/
theorem not_covered {index count : ℕ} (hindex : devs.length ≤ index) (hcount : devs.length < count)
    (hpassed : ∀ i < index, ∀ dev, ¬Matches fate nums devs i dev) :
    ¬Covered fate nums devs count := by
  intro hcovered
  rcases hcovered with hle | ⟨i, dev, hmatch⟩
  · omega
  · exact hpassed i (Nat.lt_of_lt_of_le hmatch.lt hindex) dev hmatch

/-- What the loop does from an entry on: it reads only filled entries exactly where these are
covered, and then it is right. -/
def Sound (fate : ℕ → String → Fate) (nums : Numbers) (devs : List Device) (count : ℕ)
    (trace : List (Event Sys)) (res : Result Device) (errno : Errno) : Prop :=
  (Filled trace ↔ Covered fate nums devs count) ∧
    (Covered fate nums devs count → Answered fate nums devs res errno)

theorem Sound.append {count : ℕ} {first rest : List (Event Sys)} {res : Result Device}
    {errno : Errno} (hfirst : Filled first) (h : Sound fate nums devs count rest res errno) :
    Sound fate nums devs count (first ++ rest) res errno :=
  ⟨filled_append.trans ((and_iff_right hfirst).trans h.1), h.2⟩

/-- An entry behind the filled ones is read only where they are not covered. -/
theorem sound_indeterminate {count index : ℕ} {id : UInt32} {trace : List (Event Sys)}
    {res : Result Device} {errno : Errno} (hindex : devs.length ≤ index)
    (hcount : devs.length < count)
    (hpassed : ∀ i < index, ∀ dev, ¬Matches fate nums devs i dev) :
    Sound fate nums devs count (⟨.indeterminate, id⟩ :: trace) res errno := by
  have huncovered := not_covered hindex hcount hpassed
  refine ⟨iff_of_false (fun hfilled ↦ ?_) huncovered, fun hcovered ↦ absurd hcovered huncovered⟩
  exact hfilled _ List.mem_cons_self rfl

theorem wp_matchBdf (hfits : Fits nums) (allowed : Scan → Prop) (remaining index : ℕ)
    (hattempts : s.attempts = index) (hcount : devs.length ≤ index + remaining)
    (hpassed : ∀ i < index, ∀ dev, ¬Matches fate nums devs i dev) :
    Procedure.wp (Listing.contract Listing.Looks allowed fate)
      (matchBdf (normalized nums) devs remaining index)
      (fun trace res thread' _ ↦ index ≤ devs.length →
        Sound fate nums devs (index + remaining) trace res thread'.errno) thread s := by
  induction remaining generalizing index s thread with
  | zero =>
    intro hindex
    have hcovered : Covered fate nums devs (index + 0) := .inl hindex
    refine ⟨iff_of_true (List.forall_mem_nil _) hcovered, fun _ ↦ .inr ⟨?_, rfl, rfl⟩⟩
    exact fun i dev hmatch ↦ hpassed i (by have := hmatch.lt; omega) dev hmatch
  | succ remaining ih =>
    have hnext (s₁ : Listing) (thread₁ : Thread) (hattempts₁ : s₁.attempts = index + 1)
        (hunmatched : ∀ other, ¬Matches fate nums devs index other) :=
      @ih s₁ thread₁ (index + 1) hattempts₁ (by omega) (unmatched_succ hpassed hunmatched)
    have hshift : index + 1 + remaining = index + (remaining + 1) := by omega
    rw [matchBdf_succ, scannedDevice]
    cases hdev : devs[index]? with
    | none =>
      have hindex : devs.length ≤ index := List.getElem?_eq_none_iff.mp hdev
      have hunmatched (other : Device) (hmatch : Matches fate nums devs index other) : False :=
        absurd hmatch.lt (Nat.not_lt.mpr hindex)
      simp only [bind_assoc, pure_bind]
      rw [Procedure.wp_bind, wp_sys]
      refine ⟨trivial, fun id s₁ hid ↦ ?_⟩
      obtain rfl : s₁ = s := hid
      refine Procedure.wp_call (wp_inquire allowed { id := id }) ?_
      intro asked out thread₁ s₁ hasked
      obtain ⟨-, -, hattempts₁⟩ := hasked
      rw [hattempts] at hattempts₁
      have hbroken (trace : List (Event Sys)) (res : Result Device) (errno : Errno) :
          Sound fate nums devs (index + (remaining + 1)) (⟨.indeterminate, id⟩ :: trace) res errno :=
        sound_indeterminate hindex (by omega) hpassed
      have hcontinue := Procedure.wp_mono (hnext s₁ thread₁ hattempts₁ hunmatched)
        fun rest res thread' _ _ (_ : index ≤ devs.length) ↦
          hbroken (asked ++ rest) res thread'.errno
      cases out with
      | none => exact hcontinue
      | some info =>
        by_cases hsame : infoBdf info = normalized nums
        · simp only [if_pos hsame]
          exact fun _ ↦ hbroken _ _ _
        · simp only [if_neg hsame]
          exact hcontinue
    | some dev =>
      have hlt : index < devs.length := (List.getElem?_eq_some_iff.mp hdev).1
      simp only [pure_bind]
      refine Procedure.wp_call (wp_inquire allowed dev) ?_
      intro asked out thread₁ s₁ hasked
      obtain ⟨hfilled, hout, hattempts₁⟩ := hasked
      rw [hattempts] at hout hattempts₁
      have hcontinue (hunmatched : ∀ other, ¬Matches fate nums devs index other) :
          Procedure.wp (Listing.contract Listing.Looks allowed fate)
            (matchBdf (normalized nums) devs remaining (index + 1))
            (fun rest res thread' _ ↦ index ≤ devs.length →
              Sound fate nums devs (index + (remaining + 1)) (asked ++ rest) res thread'.errno)
            thread₁ s₁ := by
        refine Procedure.wp_mono (hnext s₁ thread₁ hattempts₁ hunmatched) ?_
        intro rest res thread' _ hsound _
        exact Sound.append hfilled (hshift ▸ hsound hlt)
      cases out with
      | none =>
        refine hcontinue fun other hmatch ↦ ?_
        obtain ⟨hother, info, hinfo, -⟩ := hmatch
        obtain rfl := Option.some.inj (hdev.symm.trans hother)
        exact absurd (hout.trans hinfo) nofun
      | some info =>
        have hmatches := matches_iff hfits hdev hout.symm
        by_cases hsame : infoBdf info = normalized nums
        · simp only [if_pos hsame]
          intro _
          have hmatch := hmatches.mpr hsame
          have hcovered : Covered fate nums devs (index + (remaining + 1)) :=
            .inr ⟨index, dev, hmatch⟩
          have htrace : Filled (asked ++ []) := filled_append.mpr ⟨hfilled, List.forall_mem_nil _⟩
          exact ⟨iff_of_true htrace hcovered, fun _ ↦ .inl ⟨index, dev, hmatch, hpassed, rfl⟩⟩
        · simp only [if_neg hsame]
          refine hcontinue fun other hmatch ↦ hsame ?_
          obtain rfl := Option.some.inj (hdev.symm.trans hmatch.1)
          exact hmatches.mp hmatch

end Loop

/-! ## The lookup -/

/-- The entries of the buffer that the scan fills. -/
def scanned (scan : Scan) : List Device := scan.devices.take 64

/-- What the caller gets, with the device he passed. -/
def reply (old : Device) : Result Device → Status × Option Device
  | .TT_OK dev => (.TT_OK (), some dev)
  | .TT_ERR => (.TT_ERR, some old)

/-- The lookup of a text returns, having read only entries that were filled. It gives the first
match among them, and otherwise it fails with `ENODEV` and leaves the device alone. -/
def LooksUp (text : List Char) (nums : Numbers) (scan : Scan) (fate : ℕ → String → Fate)
    (rounds : ℕ) (old : Device) (thread : Thread) : Prop :=
  Procedure.Completes (Listing.contract Listing.Looks (· = scan) fate)
    (ttDevFromBdf rounds (some (String.ofList text)) (some old)) thread Listing.initial
    fun trace out thread' _ ↦ Filled trace ∧
      ∃ res, Answered fate nums (scanned scan) res thread'.errno ∧ out = reply old res

section Lookup

variable {text : List Char} {scan : Scan} {rounds : ℕ} {old : Device}

theorem covered_scanned :
    Covered fate nums (scanned scan) scan.devices.length ↔ scan.devices.length ≤ 64 ∨
      ∃ index dev, Matches fate nums (scanned scan) index dev := by
  unfold Covered scanned
  rw [List.length_take, Nat.le_min, and_iff_left (Nat.le_refl _)]

/-- A failed scan counts no devices. -/
theorem reported_cases {res : Result (ℕ × List Device)} {errno : Errno}
    (h : scan.Reported BDF_SCAN_CAP res errno) :
    res = .TT_OK (scan.devices.length, scanned scan) ∨ scan.devices = [] ∧ res = .TT_ERR := by
  cases scan with
  | listed entries => exact .inl h
  | failed err =>
    by_cases herr : err = .ENOENT
    · simp only [Scan.Reported, if_pos herr] at h
      exact .inl h
    · simp only [Scan.Reported, if_neg herr] at h
      exact .inr ⟨rfl, h.1⟩

theorem wp_devFromBdf (hparse : parseBdf text = some nums) (hfits : Fits nums)
    (hrounds : scan.entries.length < rounds) :
    Procedure.wp (Listing.contract Listing.Looks (· = scan) fate) (devFromBdf rounds text)
      (fun trace res thread' _ ↦ Sound fate nums (scanned scan) scan.devices.length trace res
        thread'.errno) thread Listing.initial := by
  simp only [devFromBdf, hparse]
  have hlisted : ∀ other, other = scan → other.entries.length < rounds := by
    rintro _ rfl
    exact hrounds
  have hpermitted : ∀ op, Listing.Scans op → Listing.Looks op := by
    intro op hop
    cases op <;> trivial
  refine Procedure.wp_call (Listing.wp_filled hpermitted
    (Listing.wp_ttDevScan (fun _ hop ↦ hop) rounds BDF_SCAN_CAP hlisted)) ?_
  intro asked res thread₁ s₁ hscanned
  obtain ⟨hfilled, other, -, hattempts, hother, hreported⟩ := hscanned
  rw [hother] at hreported
  rcases reported_cases hreported with rfl | ⟨hnone, rfl⟩
  · have hcount : (scanned scan).length ≤ 0 + scan.devices.length := by
      rw [scanned, List.length_take]
      omega
    refine Procedure.wp_mono (wp_matchBdf hfits (· = scan) scan.devices.length 0 hattempts
      hcount fun i hi ↦ absurd hi (Nat.not_lt_zero i)) ?_
    intro rest res thread' _ hsound
    have hsound := hsound (Nat.zero_le _)
    rw [Nat.zero_add] at hsound
    exact hsound.append hfilled
  · have hempty : scanned scan = [] := by rw [scanned, hnone, List.take_nil]
    have hcovered : Covered fate nums (scanned scan) scan.devices.length := by
      rw [hnone]
      exact .inl (Nat.zero_le _)
    have hunmatched (index : ℕ) (dev : Device) : ¬Matches fate nums (scanned scan) index dev := by
      intro hmatch
      have hlt := hmatch.lt
      rw [hempty] at hlt
      exact Nat.not_lt_zero index hlt
    have htrace : Filled (asked ++ []) := filled_append.mpr ⟨hfilled, List.forall_mem_nil _⟩
    exact ⟨iff_of_true htrace hcovered, fun _ ↦ .inr ⟨hunmatched, rfl, rfl⟩⟩

/-- What is passed to the lookup is what the loop finds, or the device of the caller. -/
theorem wp_ttDevFromBdf (hparse : parseBdf text = some nums) (hfits : Fits nums)
    (hrounds : scan.entries.length < rounds) :
    Procedure.wp (Listing.contract Listing.Looks (· = scan) fate)
      (ttDevFromBdf rounds (some (String.ofList text)) (some old)) (fun trace out thread' _ ↦
        ∃ res, Sound fate nums (scanned scan) scan.devices.length trace res thread'.errno ∧
          out = reply old res) thread Listing.initial := by
  simp only [ttDevFromBdf, String.toList_ofList]
  refine Procedure.wp_call (wp_devFromBdf hparse hfits hrounds) ?_
  intro trace res thread' _ hsound
  rw [← List.append_nil trace] at hsound
  cases res with
  | TT_OK dev => exact ⟨.TT_OK dev, hsound, rfl⟩
  | TT_ERR => exact ⟨.TT_ERR, hsound, rfl⟩

/-- With one listing of the directory, a lookup returns. -/
theorem completes_looks {α : Type} {procedure : C α} {post : Procedure.Post Sys α Thread Listing}
    (h : Procedure.wp (Listing.contract Listing.Looks (· = scan) fate) procedure post thread
      Listing.initial) :
    Procedure.Completes (Listing.contract Listing.Looks (· = scan) fate) procedure thread
      Listing.initial post := by
  apply Procedure.wp_completes _ _ h
  · intro op v hop
    have hscan : ∃ other, other = scan := ⟨scan, rfl⟩
    exact Listing.contract_answered hscan hop v
  · exact fun _ ↦ id

/-- Every run of the lookup is as sound as the loop of it. -/
theorem completes_ttDevFromBdf (h : Denotes text nums) (hrounds : scan.entries.length < rounds)
    (fate : ℕ → String → Fate) (old : Device) (thread : Thread) :
    Procedure.Completes (Listing.contract Listing.Looks (· = scan) fate)
      (ttDevFromBdf rounds (some (String.ofList text)) (some old)) thread Listing.initial
      fun trace out thread' _ ↦ ∃ res, Sound fate nums (scanned scan) scan.devices.length trace res
        thread'.errno ∧ out = reply old res :=
  completes_looks (wp_ttDevFromBdf h.parseBdf h.fits hrounds)

/-- The lookup of an address is right exactly where at most 64 devices are scanned or one of the
first 64 opens, answers and has the address. -/
theorem lookup_sound_iff (h : Denotes text nums) (hrounds : scan.entries.length < rounds)
    (fate : ℕ → String → Fate) (old : Device) (thread : Thread) :
    LooksUp text nums scan fate rounds old thread ↔
      scan.devices.length ≤ 64 ∨ ∃ index dev, Matches fate nums (scanned scan) index dev := by
  have hsound := completes_ttDevFromBdf h hrounds fate old thread
  rw [← covered_scanned]
  constructor
  · intro hlooks
    obtain ⟨_, _, _, _, hdone, _, hiff, -⟩ := hlooks.common hsound
    exact hiff.1.mp hdone.1
  · intro hcovered
    refine hsound.mono fun trace out thread' _ hrun ↦ ?_
    obtain ⟨res, hiff, hout⟩ := hrun
    exact ⟨hiff.1.mpr hcovered, res, hiff.2 hcovered, hout⟩

end Lookup

/-- `"03:00.0"` -/
def slotThree : List Char := ['0', '3', ':', '0', '0', '.', '0']

theorem slotThree_denotes : Denotes slotThree (0, 3, 0, 0) := by
  have hbus : Field 8 ['0', '3'] 3 := ⟨plain_of_all (by decide) (by decide), by decide, by decide⟩
  have hdevice : Field 5 ['0', '0'] 0 := ⟨plain_of_all (by decide) (by decide), by decide, by decide⟩
  have hfunction : Field 3 ['0'] 0 := ⟨plain_of_all (by decide) (by decide), by decide, by decide⟩
  exact .short hbus hdevice hfunction

/-- A directory of so many device nodes. -/
def nodes (count : ℕ) : Scan :=
  .listed ((List.range count).map fun id ↦
    { name := (UInt32.ofNat id).toNat.repr, isChr := true })

theorem nodes_devices (count : ℕ) :
    (nodes count).devices = (List.range count).map fun id ↦ { id := UInt32.ofNat id } := by
  have hnode : (scanEntry ∘ fun id ↦ ({ name := (UInt32.ofNat id).toNat.repr, isChr := true } :
      Dirent)) = some ∘ fun id ↦ ({ id := UInt32.ofNat id } : Device) := by
    funext id
    simp only [Function.comp_apply]
    rw [DeviceNames.scanEntry_repr]
  rw [Scan.devices, nodes, Scan.entries, List.filterMap_map, hnode, List.filterMap_eq_map]

theorem length_entries_nodes (count : ℕ) : (nodes count).entries.length = count := by
  rw [nodes, Scan.entries, List.length_map, List.length_range]

/-- A device at `"03:00.0"`. -/
def cardThree : DevInfo where
  outputSizeBytes := 16
  vendorId := 0x1E52
  deviceId := 0xB140
  subsystemVendorId := 0x1E52
  subsystemId := 0
  busDevFn := 0x300
  maxDmaBufSizeLog2 := 0
  pciDomain := 0

/-- With one device, the lookup is right. -/
theorem one_device_looked_up :
    LooksUp slotThree (0, 3, 0, 0) (nodes 1) (fun _ _ ↦ .answering cardThree) 2 { id := 7 }
      Thread.initial := by
  have hrounds : (nodes 1).entries.length < 2 := by
    rw [length_entries_nodes]
    decide
  have hcount : (nodes 1).devices.length ≤ 64 := by
    rw [nodes_devices, List.length_map, List.length_range]
    decide
  exact (lookup_sound_iff slotThree_denotes hrounds _ _ _).mpr (.inl hcount)

/-- With 65 devices of which none opens, every run reads behind the buffer. -/
theorem crowded_overread :
    Procedure.Completes (Listing.contract Listing.Looks (· = nodes 65) fun _ _ ↦ .unopened .ENODEV)
      (ttDevFromBdf 66 (some (String.ofList slotThree)) (some { id := 0 })) Thread.initial
      Listing.initial (fun trace _ _ _ ↦ ¬Filled trace) ∧
    ¬LooksUp slotThree (0, 3, 0, 0) (nodes 65) (fun _ _ ↦ .unopened .ENODEV) 66 { id := 0 }
      Thread.initial := by
  have hrounds : (nodes 65).entries.length < 66 := by
    rw [length_entries_nodes]
    decide
  have hcount : ¬(nodes 65).devices.length ≤ 64 := by
    rw [nodes_devices, List.length_map, List.length_range]
    decide
  have hunmatched (index : ℕ) (dev : Device) : ¬Matches (fun _ _ ↦ .unopened .ENODEV) (0, 3, 0, 0)
      (scanned (nodes 65)) index dev := by
    intro hmatch
    obtain ⟨-, _, hinfo, -⟩ := hmatch
    exact absurd hinfo nofun
  have huncovered : ¬Covered (fun _ _ ↦ .unopened .ENODEV) (0, 3, 0, 0) (scanned (nodes 65))
      (nodes 65).devices.length := by
    rw [covered_scanned]
    exact not_or.mpr ⟨hcount, fun ⟨index, dev, hmatch⟩ ↦ hunmatched index dev hmatch⟩
  have hsound := completes_ttDevFromBdf slotThree_denotes hrounds (fun _ _ ↦ .unopened .ENODEV)
    { id := 0 } Thread.initial
  have hbroken := hsound.mono fun trace _ _ _ hrun ↦ show ¬Filled trace by
    obtain ⟨_, hiff, -⟩ := hrun
    exact mt hiff.1.mp huncovered
  refine ⟨hbroken, fun hlooks ↦ ?_⟩
  obtain ⟨_, _, _, _, hdone, hunfilled⟩ := hlooks.common hbroken
  exact hunfilled hdone.1

end TtDal.Safety.AddressLookup
