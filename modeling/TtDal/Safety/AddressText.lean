import TtDal.Binding.Address
import Mathlib.Data.List.Basic

/-!
# The text of a PCI address

The C library and the Rust binding each parse the text of an address, and the library compares
addresses through the text it prints. Printed addresses read back in both, and the comparison
distinguishes all addresses. The parsers accept more than the addresses, and not the same.
-/

namespace TtDal.Safety.AddressText

open Effect Platform Dev

open Binding.Rust (Address Accepted fromStrRadix fromStrRadix_plain fromStr_eq_some_iff)

/-- Domain, bus, device and function. -/
abbrev Numbers := ℕ × ℕ × ℕ × ℕ

/-- The numbers of a device's address. -/
def infoNumbers (info : DevInfo) : Numbers :=
  (info.pciDomain.toNat, info.busDevFn.toNat / 2 ^ 8 % 2 ^ 8, info.busDevFn.toNat / 2 ^ 3 % 2 ^ 5,
    info.busDevFn.toNat % 2 ^ 3)

/-- The string an address is compared by. -/
def normalized (numbers : Numbers) : List Char :=
  snprintf 20 (formatBdf numbers.1 numbers.2.1 numbers.2.2.1 numbers.2.2.2)

/-- The numbers fit the fields of an `Address`. -/
structure Fits (numbers : Numbers) : Prop where
  domain : numbers.1 < 2 ^ 16
  bus : numbers.2.1 < 2 ^ 8
  device : numbers.2.2.1 < 2 ^ 8
  function : numbers.2.2.2 < 2 ^ 8

/-! ## Reading fields -/

section Fields

variable {domain bus device function : List Char}

theorem ends_separator : ∀ c ∈ [':', ':', '.'], Ends 16 [c] := by
  intro c hc c' hc'
  obtain rfl := Option.some.inj hc'
  simp only [List.mem_cons, List.not_mem_nil, or_false] at hc
  rcases hc with rfl | rfl | rfl <;> decide

/-- Fields with room in an `unsigned int` are stored as they are. -/
theorem sscanf_fields {first : List Char} {fields : List (Char × List Char)}
    (hplain : ∀ field ∈ first :: fields.map Prod.snd, Plain 16 field)
    (hfits : ∀ field ∈ first :: fields.map Prod.snd, digitsValue 16 0 field < 2 ^ 32)
    (hseparators : ∀ c ∈ fields.map Prod.fst, Ends 16 [c]) :
    sscanf (numbers 16 32 (fields.map Prod.fst)) (spelled first fields) =
      (first :: fields.map Prod.snd).map (digitsValue 16 0) := by
  have hwide : ∀ field ∈ first :: fields.map Prod.snd, digitsValue 16 0 field < 2 ^ 64 :=
    fun field hmem ↦ Nat.lt_trans (hfits field hmem) (by decide)
  calc
    _ = sscanf (numbers 16 32 (fields.map Prod.fst)) (spelled first fields ++ []) := by
      rw [List.append_nil]
    _ = (first :: fields.map Prod.snd).map fun field ↦ digitsValue 16 0 field % 2 ^ 32 :=
      sscanf_spelled hplain hwide hseparators (ends_nil 16)
    _ = _ := List.map_congr_left fun field hmem ↦ Nat.mod_eq_of_lt (hfits field hmem)

theorem parseBdf_long
    (hplain : ∀ field ∈ [domain, bus, device, function], Plain 16 field)
    (hfits : ∀ field ∈ [domain, bus, device, function], digitsValue 16 0 field < 2 ^ 32) :
    parseBdf (spelled domain [(':', bus), (':', device), ('.', function)]) =
      some (digitsValue 16 0 domain, digitsValue 16 0 bus, digitsValue 16 0 device,
        digitsValue 16 0 function) := by
  have hread := @sscanf_fields domain [(':', bus), (':', device), ('.', function)] hplain hfits
    ends_separator
  simp only [List.map_cons, List.map_nil, numbers] at hread
  simp only [parseBdf, hread]

/-- The long form stops at the dot of a short one. -/
theorem sscanf_long_short (hbus : Plain 16 bus) (hdevice : Plain 16 device)
    (hfits : ∀ field ∈ [bus, device], digitsValue 16 0 field < 2 ^ 32) :
    sscanf (numbers 16 32 [':', ':', '.']) (spelled bus [(':', device), ('.', function)]) =
      [digitsValue 16 0 bus, digitsValue 16 0 device] := by
  have hlt (field : List Char) (hmem : field ∈ [bus, device]) :
      digitsValue 16 0 field < 2 ^ 64 := Nat.lt_trans (hfits field hmem) (by decide)
  have hfirst := scanNumber_plain hbus (ends_cons (ends_separator ':' (by simp))
    (device ++ '.' :: function)) (hlt bus (by simp))
  have hsecond := scanNumber_plain hdevice (ends_cons (ends_separator '.' (by simp)) function)
    (hlt device (by simp))
  simp only [numbers, spelled]
  rw [sscanf_number hfirst, sscanf_literal, sscanf_number hsecond,
    Nat.mod_eq_of_lt (hfits bus (by simp)), Nat.mod_eq_of_lt (hfits device (by simp))]
  simp [sscanf]

theorem parseBdf_short
    (hplain : ∀ field ∈ [bus, device, function], Plain 16 field)
    (hfits : ∀ field ∈ [bus, device, function], digitsValue 16 0 field < 2 ^ 32) :
    parseBdf (spelled bus [(':', device), ('.', function)]) =
      some (0, digitsValue 16 0 bus, digitsValue 16 0 device, digitsValue 16 0 function) := by
  have hlong := @sscanf_long_short bus device function (hplain bus (by simp))
    (hplain device (by simp)) fun field hmem ↦ hfits field (by simp at hmem ⊢; tauto)
  have hread := @sscanf_fields bus [(':', device), ('.', function)] hplain hfits
    fun c hc ↦ ends_separator c (List.mem_cons_of_mem _ hc)
  simp only [List.map_cons, List.map_nil, numbers] at hread hlong
  simp only [parseBdf, hread, hlong]

/-- The text is parsed exactly when it begins with numbers in one of the two forms. -/
theorem parseBdf_isSome_iff {text : List Char} : (parseBdf text).isSome ↔
    Listed 16 [':', ':', '.'] text ∨ Listed 16 [':', '.'] text := by
  have hlong := @sscanf_complete_iff 16 32 text [':', ':', '.'] ends_separator
  have hshort := @sscanf_complete_iff 16 32 text [':', '.'] fun c hc ↦
    ends_separator c (List.mem_cons_of_mem _ hc)
  rw [← hlong, ← hshort]
  simp only [parseBdf, numbers, List.length_cons, List.length_nil]
  split
  · rename_i hread
    simp [hread]
  · rename_i hread
    have hfour := mt List.length_eq_four.mp (by simpa using hread)
    split
    · rename_i hread
      simp [hread]
    · rename_i hread
      have hthree := mt List.length_eq_three.mp (by simpa using hread)
      exact iff_of_false (by simp) (not_or.mpr ⟨hfour, hthree⟩)

end Fields

/-! ## Printed addresses -/

section Printed

variable {nums other : Numbers}

theorem formatBdf_eq (domain bus slot func : ℕ) : formatBdf domain bus slot func =
    spelled (hex 4 domain) [(':', hex 2 bus), (':', hex 2 slot), ('.', hex 0 func)] := by
  simp [formatBdf, spelled]

theorem Fits.lt (h : Fits nums) : ∀ value ∈ [nums.1, nums.2.1, nums.2.2.1, nums.2.2.2],
    value < 2 ^ 32 := by
  simp only [List.mem_cons, List.not_mem_nil, or_false]
  obtain ⟨hdomain, hbus, hdevice, hfunction⟩ := h
  intro value hvalue
  omega

/-- A printed address is parsed to its numbers. -/
theorem parseBdf_formatBdf (h : Fits nums) :
    parseBdf (formatBdf nums.1 nums.2.1 nums.2.2.1 nums.2.2.2) = some nums := by
  have hplain : ∀ field ∈ [hex 4 nums.1, hex 2 nums.2.1, hex 2 nums.2.2.1, hex 0 nums.2.2.2],
      Plain 16 field := by
    simp only [List.mem_cons, List.not_mem_nil, or_false]
    rintro field (rfl | rfl | rfl | rfl) <;> exact plain_hex _ _
  have hfits : ∀ field ∈ [hex 4 nums.1, hex 2 nums.2.1, hex 2 nums.2.2.1, hex 0 nums.2.2.2],
      digitsValue 16 0 field < 2 ^ 32 := by
    simp only [List.mem_cons, List.not_mem_nil, or_false]
    rintro field (rfl | rfl | rfl | rfl) <;> rw [digitsValue_hex] <;> exact h.lt _ (by simp)
  rw [formatBdf_eq, parseBdf_long hplain hfits]
  simp only [digitsValue_hex]

/-- A printed address fits the buffer. -/
theorem normalized_eq (h : Fits nums) :
    normalized nums = formatBdf nums.1 nums.2.1 nums.2.2.1 nums.2.2.2 := by
  have hdomain : (hex 4 nums.1).length ≤ 4 := length_hex_le (by omega) (by omega) h.domain
  have hbus : (hex 2 nums.2.1).length ≤ 2 := length_hex_le (by omega) (by omega) h.bus
  have hdevice : (hex 2 nums.2.2.1).length ≤ 2 := length_hex_le (by omega) (by omega) h.device
  have hfunction : (hex 0 nums.2.2.2).length ≤ 2 :=
    length_hex_le (by omega) (by omega) h.function
  apply List.take_of_length_le
  simp only [formatBdf, List.length_append, List.length_cons]
  omega

/-- Comparing the printed forms is comparing the numbers. -/
theorem normalized_inj (h : Fits nums) (hother : Fits other) :
    normalized nums = normalized other ↔ nums = other := by
  constructor
  · intro heq
    rw [normalized_eq h, normalized_eq hother] at heq
    have hread := parseBdf_formatBdf h
    rw [heq, parseBdf_formatBdf hother] at hread
    exact (Option.some.inj hread).symm
  · exact congrArg normalized

theorem infoBdf_eq (info : DevInfo) : infoBdf info = normalized (infoNumbers info) := rfl

theorem infoNumbers_fits (info : DevInfo) : Fits (infoNumbers info) where
  domain := by
    have hlt := info.pciDomain.toNat_lt
    simp only [infoNumbers]
    omega
  bus := by
    simp only [infoNumbers]
    omega
  device := by
    simp only [infoNumbers]
    omega
  function := by
    simp only [infoNumbers]
    omega

theorem numbers_fits (address : Address) : Fits address.numbers where
  domain := by
    have hlt := address.domain.toNat_lt
    simp only [Address.numbers]
    omega
  bus := by
    have hlt := address.bus.toNat_lt
    simp only [Address.numbers]
    omega
  device := by
    have hlt := address.device.toNat_lt
    simp only [Address.numbers]
    omega
  function := by
    have hlt := address.function.toNat_lt
    simp only [Address.numbers]
    omega

theorem fromStrRadix_hex (width bits value : ℕ) (h : value < 2 ^ bits) :
    fromStrRadix 16 bits (hex width value) = some value := by
  have hvalue := digitsValue_hex width value
  calc
    _ = some (digitsValue 16 0 (hex width value)) :=
      fromStrRadix_plain (plain_hex width value) (hvalue.symm ▸ h)
    _ = some value := congrArg some hvalue

theorem display_eq (address : Address) : address.display =
    formatBdf address.numbers.1 address.numbers.2.1 address.numbers.2.2.1
      address.numbers.2.2.2 := rfl

theorem display_accepted (address : Address) : Accepted address.display address := by
  have hdomain := fromStrRadix_hex 4 16 address.domain.toNat address.domain.toNat_lt
  have hbus := fromStrRadix_hex 2 8 address.bus.toNat address.bus.toNat_lt
  have hdevice := fromStrRadix_hex 2 8 address.device.toNat address.device.toNat_lt
  have hfunction := fromStrRadix_hex 0 8 address.function.toNat address.function.toNat_lt
  have haccepted := Accepted.long hdomain hbus hdevice hfunction
  rw [← formatBdf_eq] at haccepted
  simp only [UInt16.ofNat_toNat, UInt8.ofNat_toNat] at haccepted
  exact haccepted

theorem numbers_inj (address other : Address) :
    address.numbers = other.numbers ↔ address = other := by
  obtain ⟨domain, bus, device, function⟩ := address
  obtain ⟨domain', bus', device', function'⟩ := other
  simp [Address.numbers, UInt16.toNat_inj, UInt8.toNat_inj]

/-- Every address reads back from its text in both languages, and is the address of a device in
the library's comparison exactly when its numbers are, so that a device has one address. -/
theorem address_text_faithful (address : Address) :
    Address.fromStr address.display = some address ∧
    parseBdf address.display = some address.numbers ∧
    (∀ info : DevInfo, normalized address.numbers = infoBdf info ↔
      address.numbers = infoNumbers info) ∧
    ∀ other : Address, address.numbers = other.numbers ↔ address = other := by
  have hfits := numbers_fits address
  refine ⟨fromStr_eq_some_iff.mpr (display_accepted address), ?_, fun info ↦ ?_,
    numbers_inj address⟩
  · rw [display_eq]
    exact parseBdf_formatBdf hfits
  · rw [infoBdf_eq]
    exact normalized_inj hfits (infoNumbers_fits info)

end Printed

/-! ## The addresses -/

/-- Digits of a number that fits a width. -/
structure Field (bits : ℕ) (text : List Char) (value : ℕ) : Prop where
  plain : Plain 16 text
  value_eq : digitsValue 16 0 text = value
  fits : value < 2 ^ bits

/-- The text is an address in one of the two forms. -/
inductive Denotes : List Char → Numbers → Prop where
  | long {domain bus device function : List Char} {d b v f : ℕ} : Field 16 domain d →
      Field 8 bus b → Field 5 device v → Field 3 function f →
      Denotes (spelled domain [(':', bus), (':', device), ('.', function)]) (d, b, v, f)
  | short {bus device function : List Char} {b v f : ℕ} : Field 8 bus b → Field 5 device v →
      Field 3 function f →
      Denotes (spelled bus [(':', device), ('.', function)]) (0, b, v, f)

/-- Both parsers accept an address as what it denotes, and reject every other text. -/
structure Agreed (text : List Char) : Prop where
  library : ∀ nums, parseBdf text = some nums ↔ Denotes text nums
  binding : ∀ nums, (Address.fromStr text).map Address.numbers = some nums ↔ Denotes text nums
  /-- The library reports a rejection before it looks at any device. -/
  rejected : parseBdf text = none → ∀ rounds dev,
    ttDevFromBdf rounds (some (String.ofList text)) (some dev) =
      (do return (← ttFail .EINVAL, some dev))

section Denotes

variable {text : List Char} {nums : Numbers}

theorem Field.lt {bits value : ℕ} (h : Field bits text value) (hbits : bits ≤ 32) :
    digitsValue 16 0 text < 2 ^ 32 := by
  rw [h.value_eq]
  exact Nat.lt_of_lt_of_le h.fits (Nat.pow_le_pow_right (by omega) hbits)

theorem Denotes.fits (h : Denotes text nums) : Fits nums := by
  cases h with
  | @long domain bus device function d b v f hd hb hv hf =>
    have hv' := hv.fits
    have hf' := hf.fits
    exact ⟨hd.fits, hb.fits, by simp only; omega, by simp only; omega⟩
  | @short bus device function b v f hb hv hf =>
    have hv' := hv.fits
    have hf' := hf.fits
    exact ⟨Nat.two_pow_pos 16, hb.fits, by simp only; omega, by simp only; omega⟩

theorem Denotes.parseBdf (h : Denotes text nums) : parseBdf text = some nums := by
  cases h with
  | @long domain bus device function d b v f hd hb hv hf =>
    have hplain : ∀ field ∈ [domain, bus, device, function], Plain 16 field := by
      simp only [List.forall_mem_cons]
      exact ⟨hd.plain, hb.plain, hv.plain, hf.plain, nofun⟩
    have hfits : ∀ field ∈ [domain, bus, device, function], digitsValue 16 0 field < 2 ^ 32 := by
      simp only [List.forall_mem_cons]
      exact ⟨hd.lt (by omega), hb.lt (by omega), hv.lt (by omega), hf.lt (by omega), nofun⟩
    rw [parseBdf_long hplain hfits, hd.value_eq, hb.value_eq, hv.value_eq, hf.value_eq]
  | @short bus device function b v f hb hv hf =>
    have hplain : ∀ field ∈ [bus, device, function], Plain 16 field := by
      simp only [List.forall_mem_cons]
      exact ⟨hb.plain, hv.plain, hf.plain, nofun⟩
    have hfits : ∀ field ∈ [bus, device, function], digitsValue 16 0 field < 2 ^ 32 := by
      simp only [List.forall_mem_cons]
      exact ⟨hb.lt (by omega), hv.lt (by omega), hf.lt (by omega), nofun⟩
    rw [parseBdf_short hplain hfits, hb.value_eq, hv.value_eq, hf.value_eq]

theorem Denotes.fromStr (h : Denotes text nums) :
    (Address.fromStr text).map Address.numbers = some nums := by
  have hfield {bits wide value : ℕ} {field : List Char} (h : Field bits field value)
      (hwide : bits ≤ wide) : fromStrRadix 16 wide field = some value := by
    rw [← h.value_eq]
    apply fromStrRadix_plain h.plain
    rw [h.value_eq]
    exact Nat.lt_of_lt_of_le h.fits (Nat.pow_le_pow_right (by omega) hwide)
  have hnumbers {d b v f : ℕ} (hd : d < 2 ^ 16) (hb : b < 2 ^ 8) (hv : v < 2 ^ 8)
      (hf : f < 2 ^ 8) : Address.numbers
        { domain := UInt16.ofNat d
          bus := UInt8.ofNat b
          device := UInt8.ofNat v
          function := UInt8.ofNat f } = (d, b, v, f) := by
    simp only [Address.numbers, UInt16.toNat_ofNat_of_lt' hd, UInt8.toNat_ofNat_of_lt' hb,
      UInt8.toNat_ofNat_of_lt' hv, UInt8.toNat_ofNat_of_lt' hf]
  cases h with
  | long hd hb hv hf =>
    have haccepted := Accepted.long (hfield hd (Nat.le_refl _)) (hfield hb (Nat.le_refl _))
      (hfield hv (by omega)) (hfield hf (by omega))
    have hv' := hv.fits
    have hf' := hf.fits
    rw [fromStr_eq_some_iff.mpr haccepted]
    exact congrArg some (hnumbers hd.fits hb.fits (by omega) (by omega))
  | short hb hv hf =>
    have haccepted := Accepted.short (hfield hb (Nat.le_refl _)) (hfield hv (by omega))
      (hfield hf (by omega))
    have hv' := hv.fits
    have hf' := hf.fits
    rw [fromStr_eq_some_iff.mpr haccepted]
    exact congrArg some (hnumbers (Nat.two_pow_pos 16) hb.fits (by omega) (by omega))

/-- The text begins with numbers, in one of the two forms, as `sscanf` reads them. -/
def Loose (text : List Char) : Prop := Listed 16 [':', ':', '.'] text ∨ Listed 16 [':', '.'] text

theorem rejects (h : parseBdf text = none) (rounds : ℕ) (dev : Device) :
    ttDevFromBdf rounds (some (String.ofList text)) (some dev) =
      (do return (← ttFail .EINVAL, some dev)) := by
  simp only [ttDevFromBdf, devFromBdf, String.toList_ofList, h]
  rfl

/-- The parsers agree with the format, and so with each other, on the addresses and on the texts
that neither of them takes for one. -/
theorem address_agreed_iff (text : List Char) : Agreed text ↔
    (∃ nums, Denotes text nums) ∨ ¬Loose text ∧ ∀ address, ¬Accepted text address := by
  constructor
  · intro h
    by_cases hdenotes : ∃ nums, Denotes text nums
    · exact .inl hdenotes
    · refine .inr ⟨fun hloose ↦ hdenotes ?_, fun address haccepted ↦ hdenotes ?_⟩
      · obtain ⟨nums, hread⟩ := Option.isSome_iff_exists.mp (parseBdf_isSome_iff.mpr hloose)
        exact ⟨nums, (h.library nums).mp hread⟩
      · have hread := congrArg (Option.map Address.numbers) (fromStr_eq_some_iff.mpr haccepted)
        exact ⟨_, (h.binding _).mp hread⟩
  · intro h
    have hrejected : parseBdf text = none → ∀ rounds dev,
        ttDevFromBdf rounds (some (String.ofList text)) (some dev) =
          (do return (← ttFail .EINVAL, some dev)) := rejects
    rcases h with ⟨nums, hdenotes⟩ | ⟨hloose, hunread⟩
    · refine ⟨fun other ↦ ⟨fun hread ↦ ?_, Denotes.parseBdf⟩,
        fun other ↦ ⟨fun hread ↦ ?_, Denotes.fromStr⟩, hrejected⟩
      · rw [hdenotes.parseBdf] at hread
        exact Option.some.inj hread ▸ hdenotes
      · rw [hdenotes.fromStr] at hread
        exact Option.some.inj hread ▸ hdenotes
    · have hnone : parseBdf text = none :=
        Option.not_isSome_iff_eq_none.mp (mt parseBdf_isSome_iff.mp hloose)
      have hnobody : Address.fromStr text = none :=
        Option.eq_none_iff_forall_ne_some.mpr fun address hread ↦
          hunread address (fromStr_eq_some_iff.mp hread)
      have hnot (nums : Numbers) : ¬Denotes text nums := by
        intro hdenotes
        have hread := hdenotes.parseBdf
        rw [hnone] at hread
        cases hread
      refine ⟨fun nums ↦ iff_of_false ?_ (hnot nums), fun nums ↦ iff_of_false ?_ (hnot nums),
        hrejected⟩
      · rw [hnone]
        exact nofun
      · rw [hnobody]
        exact nofun

theorem Denotes.function_lt (h : Denotes text nums) : nums.2.2.2 < 2 ^ 3 := by
  cases h with
  | long _ _ _ hf => exact hf.fits
  | short _ _ hf => exact hf.fits

end Denotes

/-- `"03:00.0 "` -/
def trailing : List Char := ['0', '3', ':', '0', '0', '.', '0', ' ']

/-- `"03:00.8"` -/
def wide : List Char := ['0', '3', ':', '0', '0', '.', '8']

/-- The library takes an address with a space behind it, which the binding rejects, and both take
a function number of four bits. -/
theorem loose_address_disagrees :
    parseBdf trailing = some (0, 3, 0, 0) ∧ Address.fromStr trailing = none ∧ ¬Agreed trailing ∧
    parseBdf wide = some (0, 3, 0, 8) ∧
    (Address.fromStr wide).map Address.numbers = some (0, 3, 0, 8) ∧ ¬Agreed wide := by
  have htrailing : parseBdf trailing = some (0, 3, 0, 0) := by decide
  have hrejected : Address.fromStr trailing = none := by decide
  have hwide : parseBdf wide = some (0, 3, 0, 8) := by decide
  refine ⟨htrailing, hrejected, fun hagreed ↦ ?_, hwide, by decide, fun hagreed ↦ ?_⟩
  · have hread := ((hagreed.library _).mp htrailing).fromStr
    rw [hrejected] at hread
    cases hread
  · exact absurd ((hagreed.library _).mp hwide).function_lt (by decide)

end TtDal.Safety.AddressText
