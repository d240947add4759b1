import TtDal.Platform.Text
import Mathlib.Data.List.TakeDrop
import Mathlib.Data.List.TakeWhile

/-!
# The texts that are read as numbers

What the numeric conversions accept, described by the text itself. A numeral is white space, a
sign, a prefix in base sixteen and digits; a plain numeral is digits only. A conversion reads the
longest numeral at the front of a text, and `sscanf` with numbers and separators in turn reads a
list of them.
-/

namespace TtDal.Platform

/-! ## Characters -/

section Characters

variable {base : ℕ} {c : Char}

theorem digit_toNat (h : (digitValue base c).isSome) :
    48 ≤ c.toNat ∧ c.toNat ≤ 57 ∨ 97 ≤ c.toNat ∧ c.toNat ≤ 102 ∨
      65 ≤ c.toNat ∧ c.toNat ≤ 70 := by
  obtain ⟨value, hvalue⟩ := Option.isSome_iff_exists.mp h
  have hclass := (Option.filter_eq_some_iff.mp hvalue).1
  simp only [Char.le_def, UInt32.le_iff_toNat_le] at hclass
  split at hclass
  · rename_i hrange
    exact .inl hrange
  · split at hclass
    · rename_i hrange
      exact .inr (.inl hrange)
    · split at hclass
      · rename_i hrange
        exact .inr (.inr hrange)
      · cases hclass

theorem space_toNat (h : isSpace c) : c.toNat = 32 ∨ 9 ≤ c.toNat ∧ c.toNat ≤ 13 := by
  simp only [isSpace, Bool.or_eq_true, Bool.and_eq_true, decide_eq_true_eq, Char.le_def,
    UInt32.le_iff_toNat_le] at h
  rcases h with rfl | hrange
  · exact .inl rfl
  · exact .inr hrange

/-- A digit is neither white space nor a sign nor the mark of a prefix. -/
theorem digit_ne (h : (digitValue base c).isSome) :
    isSpace c = false ∧ c ≠ '-' ∧ c ≠ '+' ∧ c ≠ 'x' ∧ c ≠ 'X' := by
  have hrange := digit_toNat h
  refine ⟨Bool.eq_false_iff.mpr fun hspace ↦ ?_, ?_, ?_, ?_, ?_⟩
  · have hclass := space_toNat hspace
    omega
  all_goals
    rintro rfl
    revert hrange
    decide

/-- A digit of a number as it is printed. -/
theorem digitValue_digitChar (hbase : base ≤ 16) {digit : ℕ} (h : digit < base) :
    digitValue base digit.digitChar = some digit := by
  have hsixteen : ∀ digit < 16, digitValue 16 digit.digitChar = some digit := by decide
  have hvalue := (Option.filter_eq_some_iff.mp (hsixteen digit (Nat.lt_of_lt_of_le h hbase))).1
  exact Option.filter_eq_some_iff.mpr ⟨hvalue, decide_eq_true h⟩

end Characters

/-! ## Plain numerals -/

/-- A number without sign or prefix. -/
structure Plain (base : ℕ) (text : List Char) : Prop where
  digits : ∀ c ∈ text, (digitValue base c).isSome
  nonempty : text ≠ []

section Plain

variable {base : ℕ} {text : List Char}

-- A check of each character would be decided over all characters.
theorem plain_of_all (h : text.all (fun c ↦ (digitValue base c).isSome) = true) (hne : text ≠ []) :
    Plain base text :=
  ⟨List.all_eq_true.mp h, hne⟩

theorem digitsValue_append (acc : ℕ) (first rest : List Char) :
    digitsValue base acc (first ++ rest) = digitsValue base (digitsValue base acc first) rest :=
  List.foldl_append

theorem le_digitsValue (hbase : 0 < base) (acc : ℕ) (text : List Char) :
    acc ≤ digitsValue base acc text := by
  induction text generalizing acc with
  | nil => exact Nat.le_refl acc
  | cons c text ih =>
    calc acc ≤ acc * base := Nat.le_mul_of_pos_right acc hbase
      _ ≤ acc * base + (digitValue base c).getD 0 := Nat.le_add_right ..
      _ ≤ digitsValue base acc (c :: text) := ih _

/-- Further digits only keep the number when it is zero. -/
theorem digitsValue_eq_self (hbase : 1 < base) {acc : ℕ} (hne : text ≠ [])
    (h : digitsValue base acc text = acc) : acc = 0 := by
  obtain ⟨c, rest, rfl⟩ := List.exists_cons_of_ne_nil hne
  have hle : acc * base + (digitValue base c).getD 0 ≤ acc :=
    (le_digitsValue (Nat.zero_lt_of_lt hbase) _ rest).trans_eq h
  by_contra hpos
  have hgrown : acc * 2 ≤ acc * base := Nat.mul_le_mul_left acc hbase
  omega

theorem digitsValue_zeros (count : ℕ) (text : List Char) :
    digitsValue base 0 (List.replicate count '0' ++ text) = digitsValue base 0 text := by
  have hzero : (digitValue base '0').getD 0 = 0 := by
    have hvalue : digitValue base '0' = (some 0).filter (· < base) := rfl
    rw [hvalue, Option.filter_some]
    split <;> rfl
  rw [digitsValue_append]
  congr 1
  induction count with
  | zero => rfl
  | succ count ih =>
    rw [List.replicate_succ', digitsValue_append, ih]
    simp [digitsValue, hzero]

/-- A number reads back as it was printed. -/
theorem digitsValue_toDigits (hone : 1 < base) (hbase : base ≤ 16) (value : ℕ) :
    digitsValue base 0 (Nat.toDigits base value) = value := by
  induction value using Nat.strongRecOn with
  | ind value ih =>
    by_cases hlt : value < base
    · rw [Nat.toDigits_of_lt_base hlt]
      simp [digitsValue, digitValue_digitChar hbase hlt]
    · have hle := Nat.not_lt.mp hlt
      have hpos : 0 < base := by omega
      have hdigit : value % base < base := Nat.mod_lt _ hpos
      have hless : value / base < value := Nat.div_lt_self (by omega) hone
      rw [Nat.toDigits_of_base_le hone hle, digitsValue_append, ih _ hless]
      simp [digitsValue, digitValue_digitChar hbase hdigit, Nat.div_add_mod']

theorem plain_toDigits (hone : 1 < base) (hbase : base ≤ 16) (value : ℕ) :
    Plain base (Nat.toDigits base value) := by
  refine ⟨?_, Nat.toDigits_ne_nil⟩
  induction value using Nat.strongRecOn with
  | ind value ih =>
    by_cases hlt : value < base
    · rw [Nat.toDigits_of_lt_base hlt]
      simp [digitValue_digitChar hbase hlt]
    · have hle := Nat.not_lt.mp hlt
      have hpos : 0 < base := by omega
      have hdigit : value % base < base := Nat.mod_lt _ hpos
      have hless : value / base < value := Nat.div_lt_self (by omega) hone
      rw [Nat.toDigits_of_base_le hone hle]
      intro c hc
      rcases List.mem_append.mp hc with hfirst | hlast
      · exact ih _ hless c hfirst
      · rw [List.mem_singleton.mp hlast, digitValue_digitChar hbase hdigit]
        rfl

theorem hex_eq (width value : ℕ) : ∃ count,
    hex width value = List.replicate count '0' ++ Nat.toDigits 16 value :=
  ⟨width - (Nat.toDigits 16 value).length, rfl⟩

theorem digitsValue_hex (width value : ℕ) : digitsValue 16 0 (hex width value) = value := by
  obtain ⟨count, hcount⟩ := hex_eq width value
  rw [hcount, digitsValue_zeros, digitsValue_toDigits (by omega) (by omega)]

theorem plain_hex (width value : ℕ) : Plain 16 (hex width value) := by
  obtain ⟨count, hcount⟩ := hex_eq width value
  have hplain : Plain 16 (Nat.toDigits 16 value) := plain_toDigits (by omega) (by omega) value
  rw [hcount]
  constructor
  · intro c hc
    rcases List.mem_append.mp hc with hzero | hdigit
    · rw [(List.mem_replicate.mp hzero).2]
      decide
    · exact hplain.digits c hdigit
  · exact fun hnil ↦ hplain.nonempty (List.append_eq_nil_iff.mp hnil).2

theorem length_hex_le {width value most : ℕ} (hwidth : width ≤ most) (hpos : 0 < most)
    (h : value < 16 ^ most) : (hex width value).length ≤ most := by
  have hdigits : (Nat.toDigits 16 value).length ≤ most :=
    (Nat.length_toDigits_le_iff (by omega) hpos).mpr h
  rw [hex, List.length_leftpad]
  exact Nat.max_le.mpr ⟨hwidth, hdigits⟩

end Plain

/-! ## Numerals -/

/-- What may stand before the digits in a base. -/
def IsPrefix (base : ℕ) (mark : List Char) : Prop :=
  mark = [] ∨ base = 16 ∧ (mark = ['0', 'x'] ∨ mark = ['0', 'X'])

/-- The text of a number as the conversions read it. -/
def Numeral (base : ℕ) (text : List Char) : Prop :=
  ∃ spaces sign mark digits, text = spaces ++ (sign ++ (mark ++ digits)) ∧
    (∀ c ∈ spaces, isSpace c) ∧ (sign = [] ∨ sign = ['-'] ∨ sign = ['+']) ∧
    IsPrefix base mark ∧ (∀ c ∈ digits, (digitValue base c).isSome) ∧ (mark ≠ [] ∨ digits ≠ [])

/-- No number goes on into a text. -/
def Ends (base : ℕ) (rest : List Char) : Prop :=
  ∀ c ∈ rest.head?, digitValue base c = none ∧ c ≠ 'x' ∧ c ≠ 'X'

theorem ends_nil (base : ℕ) : Ends base [] := nofun

section Numeral

variable {base : ℕ} {text rest spaces sign mark digits : List Char}

/-- What is behind the white space begins with a sign, a prefix or a digit. -/
theorem dropWhile_spaces (hspaces : ∀ c ∈ spaces, isSpace c)
    (hhead : ∀ c ∈ text.head?, isSpace c = false) :
    (spaces ++ text).dropWhile isSpace = text := by
  rw [List.dropWhile_append_of_pos hspaces]
  cases text with
  | nil => rfl
  | cons c text =>
    have hc : isSpace c = false := hhead c rfl
    rw [List.dropWhile_cons_of_neg (by simp [hc])]

theorem head_digits (hdigits : ∀ c ∈ digits, (digitValue base c).isSome) (hne : digits ≠ [])
    (rest : List Char) : ∃ c tail, digits ++ rest = c :: tail ∧ (digitValue base c).isSome := by
  obtain ⟨c, tail, rfl⟩ := List.exists_cons_of_ne_nil hne
  exact ⟨c, tail ++ rest, rfl, hdigits c List.mem_cons_self⟩

/-- The first character behind the sign is none of white space and signs. -/
theorem head_number (hmark : IsPrefix base mark)
    (hdigits : ∀ c ∈ digits, (digitValue base c).isSome) (hne : mark ≠ [] ∨ digits ≠ [])
    (rest : List Char) : ∃ c tail, mark ++ (digits ++ rest) = c :: tail ∧ isSpace c = false ∧
      c ≠ '-' ∧ c ≠ '+' := by
  rcases hmark with rfl | ⟨-, rfl | rfl⟩
  · obtain ⟨c, tail, heq, hdigit⟩ := head_digits hdigits (hne.resolve_left (· rfl)) rest
    have hclass := digit_ne hdigit
    exact ⟨c, tail, heq, hclass.1, hclass.2.1, hclass.2.2.1⟩
  · exact ⟨'0', 'x' :: (digits ++ rest), rfl, by decide, by decide, by decide⟩
  · exact ⟨'0', 'X' :: (digits ++ rest), rfl, by decide, by decide, by decide⟩

theorem scanSign_append (hsign : sign = [] ∨ sign = ['-'] ∨ sign = ['+'])
    (hhead : ∃ c tail, text = c :: tail ∧ isSpace c = false ∧ c ≠ '-' ∧ c ≠ '+') :
    scanSign (sign ++ text) = (decide (sign = ['-']), text) := by
  rcases hsign with rfl | rfl | rfl
  · obtain ⟨c, tail, rfl, -, hminus, hplus⟩ := hhead
    simp only [List.nil_append, scanSign]
    split
    · rename_i heq
      exact absurd (List.cons.inj heq).1 hminus
    · rename_i heq
      exact absurd (List.cons.inj heq).1 hplus
    · rfl
  · rfl
  · rfl

/-- Behind the white space and the sign. -/
theorem scanSign_numeral (hspaces : ∀ c ∈ spaces, isSpace c)
    (hsign : sign = [] ∨ sign = ['-'] ∨ sign = ['+'])
    (hhead : ∃ c tail, text = c :: tail ∧ isSpace c = false ∧ c ≠ '-' ∧ c ≠ '+') :
    scanSign ((spaces ++ (sign ++ text)).dropWhile isSpace) = (decide (sign = ['-']), text) := by
  rw [dropWhile_spaces hspaces, scanSign_append hsign hhead]
  rcases hsign with rfl | rfl | rfl
  · obtain ⟨c, tail, rfl, hspace, -⟩ := hhead
    intro c' hc'
    obtain rfl := Option.some.inj hc'
    exact hspace
  · intro c hc
    obtain rfl := Option.some.inj hc
    rfl
  · intro c hc
    obtain rfl := Option.some.inj hc
    rfl

theorem span_digits (hdigits : ∀ c ∈ digits, (digitValue base c).isSome)
    (hends : ∀ c ∈ rest.head?, digitValue base c = none) :
    (digits ++ rest).span (fun c ↦ (digitValue base c).isSome) = (digits, rest) := by
  rw [List.span_eq_takeWhile_dropWhile, List.takeWhile_append_of_pos hdigits,
    List.dropWhile_append_of_pos hdigits]
  cases rest with
  | nil => simp
  | cons c rest =>
    have hc : ¬(digitValue base c).isSome := by rw [hends c rfl]; exact nofun
    rw [List.takeWhile_cons_of_neg (p := fun c ↦ (digitValue base c).isSome) hc,
      List.dropWhile_cons_of_neg (p := fun c ↦ (digitValue base c).isSome) hc, List.append_nil]

/-- Digits are not taken for a prefix. -/
theorem scanHexPrefix_digits (hdigits : ∀ c ∈ digits, (digitValue 16 c).isSome)
    (hne : digits ≠ []) (hends : Ends 16 rest) :
    scanHexPrefix (digits ++ rest) = (false, digits ++ rest) := by
  obtain ⟨c, tail, rfl⟩ := List.exists_cons_of_ne_nil hne
  have hsecond : ∀ c' ∈ (tail ++ rest).head?, c' ≠ 'x' ∧ c' ≠ 'X' := by
    intro c' hc'
    cases tail with
    | nil => exact (hends c' hc').2
    | cons d tail =>
      obtain rfl := Option.some.inj hc'
      exact (digit_ne (hdigits d (by simp))).2.2.2
  simp only [List.cons_append, scanHexPrefix]
  split
  · rename_i heq
    rw [(List.cons.inj heq).2] at hsecond
    exact absurd rfl (hsecond 'x' rfl).1
  · rename_i heq
    rw [(List.cons.inj heq).2] at hsecond
    exact absurd rfl (hsecond 'X' rfl).2
  · rfl

/-- The prefix a conversion skips. -/
theorem scanMark (hmark : IsPrefix base mark)
    (hdigits : ∀ c ∈ digits, (digitValue base c).isSome) (hne : mark ≠ [] ∨ digits ≠ [])
    (hends : Ends base rest) :
    (if base = 16 then scanHexPrefix (mark ++ (digits ++ rest))
      else (false, mark ++ (digits ++ rest))) = (decide (mark ≠ []), digits ++ rest) := by
  rcases hmark with rfl | ⟨rfl, rfl | rfl⟩
  · split
    · rename_i hbase
      subst hbase
      have hplain := scanHexPrefix_digits hdigits (hne.resolve_left (· rfl)) hends
      exact hplain
    · rfl
  · rfl
  · rfl

/-- A conversion reads a numeral with nothing of it left behind. -/
theorem scanNumber_append (hspaces : ∀ c ∈ spaces, isSpace c)
    (hsign : sign = [] ∨ sign = ['-'] ∨ sign = ['+']) (hmark : IsPrefix base mark)
    (hdigits : ∀ c ∈ digits, (digitValue base c).isSome) (hne : mark ≠ [] ∨ digits ≠ [])
    (hends : Ends base rest) :
    scanNumber base (spaces ++ (sign ++ (mark ++ (digits ++ rest)))) =
      some ((unsignedLong (decide (sign = ['-'])) (digitsValue base 0 digits)).1, rest) := by
  have hempty : ¬(digits = [] ∧ decide (mark ≠ []) = false) := by
    rintro ⟨hnone, hmark⟩
    exact hne.elim (of_decide_eq_false hmark) (· hnone)
  simp only [scanNumber, scanSign_numeral hspaces hsign (head_number hmark hdigits hne rest),
    scanMark hmark hdigits hne hends, span_digits hdigits fun c hc ↦ (hends c hc).1, if_neg hempty]

theorem scanNumber_numeral (h : Numeral base text) (hends : Ends base rest) :
    ∃ value, scanNumber base (text ++ rest) = some (value, rest) := by
  obtain ⟨spaces, sign, mark, digits, rfl, hspaces, hsign, hmark, hdigits, hne⟩ := h
  have hread := scanNumber_append hspaces hsign hmark hdigits hne hends
  simp only [List.append_assoc]
  exact ⟨_, hread⟩

theorem unsignedLong_of_lt {magnitude : ℕ} (h : magnitude < 2 ^ 64) :
    (unsignedLong false magnitude).1 = magnitude := by
  unfold unsignedLong
  rw [if_neg (Nat.not_le.mpr h), if_neg Bool.false_ne_true]

theorem scanNumber_plain (h : Plain base text) (hends : Ends base rest)
    (hfits : digitsValue base 0 text < 2 ^ 64) :
    scanNumber base (text ++ rest) = some (digitsValue base 0 text, rest) := by
  have hspaces : ∀ c ∈ ([] : List Char), isSpace c := fun _ hmem ↦ absurd hmem List.not_mem_nil
  have hmark : IsPrefix base [] := .inl rfl
  have hread := scanNumber_append hspaces (.inl rfl) hmark h.digits (.inr h.nonempty) hends
  simp only [List.nil_append] at hread
  rw [hread]
  exact congrArg (fun value ↦ some (value, rest)) (unsignedLong_of_lt hfits)

theorem span_head {p : Char → Bool} {c : Char} {tail : List Char} (h : p c = true) :
    ((c :: tail).span p).1 ≠ [] := by
  rw [List.span_eq_takeWhile_dropWhile, List.takeWhile_cons_of_pos h]
  exact List.cons_ne_nil _ _

/-- Whatever follows a numeral, a number is read. -/
theorem scanNumber_isSome (h : Numeral base text) (rest : List Char) :
    (scanNumber base (text ++ rest)).isSome := by
  obtain ⟨spaces, sign, mark, digits, rfl, hspaces, hsign, hmark, hdigits, hne⟩ := h
  simp only [List.append_assoc, scanNumber,
    scanSign_numeral hspaces hsign (head_number hmark hdigits hne rest)]
  rcases hmark with rfl | ⟨rfl, rfl | rfl⟩
  · obtain ⟨c, tail, heq, hdigit⟩ := head_digits hdigits (hne.resolve_left (· rfl)) rest
    rw [List.nil_append, heq]
    have hspan := @span_head (fun c ↦ (digitValue base c).isSome) c tail hdigit
    split
    · unfold scanHexPrefix
      split
      · simp
      · simp
      · simp only [hspan, false_and, if_false, Option.isSome_some]
    · simp only [hspan, false_and, if_false, Option.isSome_some]
  · simp [scanHexPrefix]
  · simp [scanHexPrefix]

theorem scanSign_reads (text : List Char) : ∃ sign, text = sign ++ (scanSign text).2 ∧
    (sign = [] ∨ sign = ['-'] ∨ sign = ['+']) := by
  unfold scanSign
  split
  · exact ⟨['-'], rfl, .inr (.inl rfl)⟩
  · exact ⟨['+'], rfl, .inr (.inr rfl)⟩
  · exact ⟨[], rfl, .inl rfl⟩

theorem scanMark_reads (base : ℕ) (text : List Char) : ∃ mark,
    text = mark ++ (if base = 16 then scanHexPrefix text else (false, text)).2 ∧
    IsPrefix base mark ∧
    ((if base = 16 then scanHexPrefix text else (false, text)).1 = true → mark ≠ []) := by
  split
  · rename_i hbase
    unfold scanHexPrefix
    split
    · exact ⟨['0', 'x'], rfl, .inr ⟨hbase, .inl rfl⟩, fun _ ↦ List.cons_ne_nil _ _⟩
    · exact ⟨['0', 'X'], rfl, .inr ⟨hbase, .inr rfl⟩, fun _ ↦ List.cons_ne_nil _ _⟩
    · exact ⟨[], rfl, .inl rfl, nofun⟩
  · exact ⟨[], rfl, .inl rfl, nofun⟩

/-- What a conversion has read is a numeral, and no digit follows it. -/
theorem scanNumber_reads {value : ℕ} (h : scanNumber base text = some (value, rest)) :
    ∃ first, text = first ++ rest ∧ Numeral base first ∧
      ∀ c ∈ rest.head?, digitValue base c = none := by
  obtain ⟨sign, hsign, hsigns⟩ := scanSign_reads (text.dropWhile isSpace)
  obtain ⟨mark, hmark, hprefix, hzero⟩ :=
    scanMark_reads base (scanSign (text.dropWhile isSpace)).2
  simp only [scanNumber, List.span_eq_takeWhile_dropWhile] at h
  generalize hbehind : (if base = 16 then scanHexPrefix (scanSign (text.dropWhile isSpace)).2
    else (false, (scanSign (text.dropWhile isSpace)).2)) = behind at h hmark hzero
  split at h
  · cases h
  · rename_i hne
    obtain ⟨-, rfl⟩ := Prod.mk.inj (Option.some.inj h)
    let p : Char → Bool := fun c ↦ (digitValue base c).isSome
    refine ⟨text.takeWhile isSpace ++ (sign ++ (mark ++ behind.2.takeWhile p)), ?_,
      ⟨_, _, _, _, rfl, ?_, hsigns, hprefix, ?_, ?_⟩, ?_⟩
    · calc
        text = text.takeWhile isSpace ++ text.dropWhile isSpace :=
          List.takeWhile_append_dropWhile.symm
        _ = text.takeWhile isSpace ++ (sign ++ (mark ++ behind.2)) := by
          rw [← hmark, ← hsign]
        _ = text.takeWhile isSpace ++
            (sign ++ (mark ++ (behind.2.takeWhile p ++ behind.2.dropWhile p))) := by
          rw [List.takeWhile_append_dropWhile]
        _ = _ := by simp only [List.append_assoc, p]
    · exact fun c hc ↦ List.mem_takeWhile_imp hc
    · exact fun c hc ↦ List.mem_takeWhile_imp (p := p) hc
    · by_contra hnone
      obtain ⟨hmark, hdigits⟩ := not_or.mp hnone
      have hplain : behind.1 = false := Bool.eq_false_iff.mpr fun hset ↦ hmark (hzero hset)
      exact hne ⟨not_not.mp hdigits, hplain⟩
    · intro c hc
      have hnot := List.head?_dropWhile_not p behind.2
      rw [Option.mem_def] at hc
      rw [show (behind.2.dropWhile p).head? = some c from hc] at hnot
      exact Option.not_isSome_iff_eq_none.mp (Bool.eq_false_iff.mp hnot)

end Numeral

/-! ## Lists of numbers -/

/-- The directives for numbers with separators between them. -/
def numbers (base bits : ℕ) : List Char → List Directive
  | [] => [.number base bits]
  | c :: separators => .number base bits :: .literal c :: numbers base bits separators

/-- The text begins with numerals that have the separators between them. -/
def Listed (base : ℕ) : List Char → List Char → Prop
  | [], text => ∃ first rest, text = first ++ rest ∧ Numeral base first
  | c :: separators, text => ∃ first rest, text = first ++ c :: rest ∧ Numeral base first ∧
      Listed base separators rest

/-- A first field and further ones, each behind its separator. -/
def spelled (first : List Char) : List (Char × List Char) → List Char
  | [] => first
  | (c, field) :: fields => first ++ c :: spelled field fields

section Lists

variable {base bits : ℕ} {text rest : List Char} {separators : List Char}

theorem Numeral.ne_nil (h : Numeral base text) : text ≠ [] := by
  obtain ⟨spaces, sign, mark, digits, rfl, -, -, -, -, hne⟩ := h
  simp only [ne_eq, List.append_eq_nil_iff]
  tauto

/-- Something is left of a list of numerals behind the last separator. -/
theorem Listed.behind {c : Char} {count : ℕ} (h : Listed base (List.replicate count c) text) :
    ∃ before after, text = before ++ after ∧ count ≤ before.count c ∧ after ≠ [] := by
  induction count generalizing text with
  | zero =>
    obtain ⟨first, rest, rfl, hfirst⟩ := h
    exact ⟨[], first ++ rest, rfl, Nat.zero_le _, by simp [hfirst.ne_nil]⟩
  | succ count ih =>
    obtain ⟨first, rest, rfl, -, hrest⟩ := h
    obtain ⟨before, after, rfl, hcount, hafter⟩ := ih hrest
    refine ⟨first ++ c :: before, after, by simp, ?_, hafter⟩
    rw [List.count_append, List.count_cons_self]
    omega

@[simp]
theorem sscanf_nil (text : List Char) : sscanf [] text = [] := rfl

@[simp]
theorem sscanf_literal (c : Char) (format : List Directive) (text : List Char) :
    sscanf (.literal c :: format) (c :: text) = sscanf format text := by
  simp [sscanf]

theorem sscanf_number {format : List Directive} {value : ℕ}
    (h : scanNumber base text = some (value, rest)) :
    sscanf (.number base bits :: format) text = value % 2 ^ bits :: sscanf format rest := by
  simp [sscanf, h]

theorem ends_cons {c : Char} (h : Ends base [c]) (rest : List Char) : Ends base (c :: rest) :=
  fun c' hc' ↦ h c' hc'

/-- All the numbers are stored exactly when the text begins with a numeral for each. -/
theorem sscanf_complete_iff (hseparators : ∀ c ∈ separators, Ends base [c]) :
    (sscanf (numbers base bits separators) text).length = separators.length + 1 ↔
      Listed base separators text := by
  induction separators generalizing text with
  | nil =>
    unfold numbers sscanf Listed
    constructor
    · intro h
      split at h
      · rename_i value rest hread
        obtain ⟨first, htext, hnumeral, -⟩ := scanNumber_reads hread
        exact ⟨first, rest, htext, hnumeral⟩
      · cases h
    · intro h
      obtain ⟨first, rest, rfl, hnumeral⟩ := h
      obtain ⟨read, hread⟩ := Option.isSome_iff_exists.mp (scanNumber_isSome hnumeral rest)
      rw [hread]
      rfl
  | cons c separators ih =>
    have hrest : ∀ c ∈ separators, Ends base [c] := fun c' hmem ↦
      hseparators c' (List.mem_cons_of_mem c hmem)
    unfold numbers Listed
    constructor
    · intro h
      unfold sscanf at h
      split at h
      · rename_i value rest hread
        obtain ⟨first, htext, hnumeral, -⟩ := scanNumber_reads hread
        cases rest with
        | nil => simp [sscanf] at h
        | cons d rest =>
          by_cases hd : d = c
          · subst hd
            rw [sscanf_literal] at h
            exact ⟨first, rest, htext, hnumeral, (ih hrest).mp (Nat.succ.inj h)⟩
          · simp [sscanf, hd] at h
      · simp at h
    · intro h
      obtain ⟨first, rest, rfl, hnumeral, hlisted⟩ := h
      have hends := ends_cons (hseparators c List.mem_cons_self) rest
      obtain ⟨value, hread⟩ := scanNumber_numeral hnumeral hends
      rw [sscanf_number hread, sscanf_literal, List.length_cons, (ih hrest).mpr hlisted]
      rfl

/-- Plain fields are read as the numbers they denote. -/
theorem sscanf_spelled {first : List Char} {fields : List (Char × List Char)}
    (hplain : ∀ field ∈ first :: fields.map Prod.snd, Plain base field)
    (hfits : ∀ field ∈ first :: fields.map Prod.snd, digitsValue base 0 field < 2 ^ 64)
    (hseparators : ∀ c ∈ fields.map Prod.fst, Ends base [c]) (hends : Ends base rest) :
    sscanf (numbers base bits (fields.map Prod.fst)) (spelled first fields ++ rest) =
      (first :: fields.map Prod.snd).map fun field ↦ digitsValue base 0 field % 2 ^ bits := by
  induction fields generalizing first with
  | nil =>
    have hread := scanNumber_plain (hplain first List.mem_cons_self) hends
      (hfits first List.mem_cons_self)
    exact sscanf_number hread
  | cons field fields ih =>
    obtain ⟨c, field⟩ := field
    have hnext := ends_cons (hseparators c List.mem_cons_self) (spelled field fields ++ rest)
    have hread := scanNumber_plain (hplain first List.mem_cons_self) hnext
      (hfits first List.mem_cons_self)
    have hfields := ih (fun f hmem ↦ hplain f (List.mem_cons_of_mem _ hmem))
      (fun f hmem ↦ hfits f (List.mem_cons_of_mem _ hmem))
      (fun c' hmem ↦ hseparators c' (List.mem_cons_of_mem _ hmem))
    simp only [spelled, List.append_assoc, List.cons_append, List.map_cons, numbers] at hread ⊢
    rw [sscanf_number hread, sscanf_literal, hfields]
    rfl

end Lists

/-! ## Base ten -/

section Decimal

variable {text rest : List Char} {value : ℕ}

theorem strtoul_of_some (h : scanNumber 10 text = some (value, rest)) :
    ∃ overflow, strtoul text = (value, rest, overflow) := by
  simp only [scanNumber, if_neg (show ¬10 = 16 by decide), and_true] at h
  unfold strtoul
  split at h
  · cases h
  · rename_i hdigits
    simp only [if_neg hdigits]
    exact ⟨_, congrArg₂ (fun value rest ↦ (value, rest, _)) (congrArg Prod.fst (Option.some.inj h))
      (congrArg Prod.snd (Option.some.inj h))⟩

theorem strtoul_of_none (h : scanNumber 10 text = none) : strtoul text = (0, text, false) := by
  simp only [scanNumber, if_neg (show ¬10 = 16 by decide), and_true] at h
  unfold strtoul
  split at h
  · rename_i hdigits
    simp only [if_pos hdigits]
  · cases h

/-- A text is consumed exactly when it is a numeral. -/
theorem strtoul_whole_iff (hne : text ≠ []) : (strtoul text).2.1 = [] ↔ Numeral 10 text := by
  constructor
  · intro hrest
    cases hread : scanNumber 10 text with
    | none =>
      rw [strtoul_of_none hread] at hrest
      exact absurd hrest hne
    | some found =>
      obtain ⟨value, rest⟩ := found
      obtain ⟨overflow, heq⟩ := strtoul_of_some hread
      rw [heq] at hrest
      obtain ⟨first, htext, hnumeral, -⟩ := scanNumber_reads hread
      rw [htext, show rest = [] from hrest, List.append_nil]
      exact hnumeral
  · intro h
    obtain ⟨value, hread⟩ := scanNumber_numeral h (ends_nil 10)
    rw [List.append_nil] at hread
    obtain ⟨overflow, heq⟩ := strtoul_of_some hread
    rw [heq]

/-- A printed number reads back. -/
theorem strtoul_repr (h : value < 2 ^ 64) :
    ∃ overflow, strtoul value.repr.toList = (value, [], overflow) := by
  have hplain : Plain 10 (Nat.toDigits 10 value) := plain_toDigits (by omega) (by omega) value
  have hvalue : digitsValue 10 0 (Nat.toDigits 10 value) = value :=
    digitsValue_toDigits (by omega) (by omega) value
  have hread := scanNumber_plain hplain (ends_nil 10) (hvalue.symm ▸ h)
  rw [List.append_nil, hvalue] at hread
  rw [Nat.toList_repr]
  exact strtoul_of_some hread

end Decimal

end TtDal.Platform
