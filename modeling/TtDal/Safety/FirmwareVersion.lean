import TtDal.Dev.Version
import TtDal.Platform.Scan
import Mathlib.Data.List.Basic

/-!
# The firmware version

The version is scanned from the first 31 bytes of its attribute. A longer text loses the end of its
last number, and the scan accepts more than four numbers with dots between them.
-/

namespace TtDal.Safety.FirmwareVersion

open Effect Platform Dev

/-! ## The attribute -/

/-- An attribute that reads as its content, up to the size of the buffer. -/
def serving (path : String) (content : List UInt8) : Contract Sys Unit where
  answers
    | .openFile _ _, _, reply, _ => reply.isOk = true
    | .read _ count, _, reply, _ => ∃ residue, reply = .ok (content.take count) residue
    | _, _, _, _ => True
  permits op _ := op = .openFile path (readOnly false) ∨ (∃ fd count, op = .read fd count) ∨
    ∃ fd, op = .close fd
  tolerates _ := False

/-- The fields are four decimal numbers that fit 64 bits. -/
structure Fields (major minor patch rc : List Char) : Prop where
  plain : ∀ field ∈ [major, minor, patch, rc], Plain 10 field
  fits : ∀ field ∈ [major, minor, patch, rc], digitsValue 10 0 field < 2 ^ 64

/-- `major.minor.patch.rc` -/
def dotted (major minor patch rc : List Char) : List Char :=
  spelled major [('.', minor), ('.', patch), ('.', rc)]

/-- The content is a version, with or without a newline. -/
structure WellFormed (content : List UInt8) (major minor patch rc : List Char) : Prop where
  fields : Fields major minor patch rc
  text : content.map Char.ofUInt8 = dotted major minor patch rc ∨
    content.map Char.ofUInt8 = dotted major minor patch rc ++ ['\n']

/-- The version that the fields denote. -/
def denoted (major minor patch rc : List Char) : Version where
  major := digitsValue 10 0 major
  minor := digitsValue 10 0 minor
  patch := digitsValue 10 0 patch
  pre := if digitsValue 10 0 rc = 0 then "" else "rc." ++ (digitsValue 10 0 rc).repr
  build := ""

/-- `tt_fw_version` on an open session gives the version, or fails with `EIO` and leaves the
caller's version alone. -/
def Reads (content : List UInt8) (version : Option Version) : Prop :=
  ∀ (sess : Session) old thread, 0 ≤ sess.fd →
    Procedure.Completes (serving (fwVersionPath sess.dev) content)
      (ttFwVersion (some sess) (some old)) thread () fun _ out thread' _ ↦
        match version with
        | some version => out = (.TT_OK (), some version)
        | none => out = (.TT_ERR, some old) ∧ thread'.errno = Errno.EIO

/-- The attribute is read as the version it spells, and is rejected where it spells none. -/
structure Faithful (content : List UInt8) : Prop where
  accepted : ∀ major minor patch rc, WellFormed content major minor patch rc →
    Reads content (some (denoted major minor patch rc))
  rejected : (∀ major minor patch rc, ¬WellFormed content major minor patch rc) →
    Reads content none

/-! ## Reading the attribute -/

section Reading

variable {content : List UInt8} {sess : Session} {old : Version} {thread : Thread}

/-- The version of the attribute as the library reads it. -/
def scanned (content : List UInt8) : Option Version := parseFwVersion (content.take 31)

theorem wp_fwVersion (hfd : 0 ≤ sess.fd) :
    Procedure.wp (serving (fwVersionPath sess.dev) content) (fwVersion sess)
      (fun _ res thread' _ ↦ match scanned content with
        | some version => res = .TT_OK version
        | none => res = .TT_ERR ∧ thread'.errno = Errno.EIO) thread () := by
  rw [fwVersion, if_neg (Int.not_lt.mpr hfd), Procedure.wp_bind, wp_sys]
  refine ⟨.inl rfl, fun opened _ hopened ↦ ?_⟩
  cases opened with
  | fail err => exact absurd hopened nofun
  | ok fd residue =>
    rw [Procedure.wp_bind, wp_sys]
    refine ⟨.inr (.inl ⟨_, _, rfl⟩), fun answer _ hanswer ↦ ?_⟩
    obtain ⟨residue', rfl⟩ : ∃ residue, answer = .ok (content.take 31) residue := hanswer
    rw [Procedure.wp_bind, wp_sys]
    refine ⟨.inr (.inr ⟨_, rfl⟩), fun closed _ _ ↦ ?_⟩
    by_cases hempty : content.take 31 = []
    · simp only [scanned, hempty]
      exact ⟨rfl, rfl⟩
    · simp only [if_neg hempty, scanned]
      cases parseFwVersion (content.take 31) with
      | none => exact ⟨rfl, rfl⟩
      | some version => exact rfl

theorem completes_ttFwVersion (hfd : 0 ≤ sess.fd) (old : Version) (thread : Thread) :
    Procedure.Completes (serving (fwVersionPath sess.dev) content)
      (ttFwVersion (some sess) (some old)) thread () fun _ out thread' _ ↦
        match scanned content with
        | some version => out = (.TT_OK (), some version)
        | none => out = (.TT_ERR, some old) ∧ thread'.errno = Errno.EIO := by
  apply Procedure.wp_completes
  · intro op _ hop
    rcases hop with rfl | ⟨fd, count, rfl⟩ | ⟨fd, rfl⟩
    · exact ⟨.ok 3 (.other 0), (), rfl⟩
    · exact ⟨.ok (content.take count) (.other 0), (), .other 0, rfl⟩
    · exact ⟨.ok () (.other 0), (), trivial⟩
  · exact fun _ ↦ id
  · simp only [ttFwVersion]
    refine Procedure.wp_call (wp_fwVersion hfd) ?_
    intro _ res thread' _ hres
    cases hscanned : scanned content with
    | some version =>
      rw [hscanned] at hres
      obtain rfl := hres
      rfl
    | none =>
      rw [hscanned] at hres
      obtain ⟨rfl, herrno⟩ := hres
      exact ⟨rfl, herrno⟩

/-- The library reads the attribute as it scans it. -/
theorem reads_iff {version : Option Version} : Reads content version ↔ scanned content = version := by
  constructor
  · intro h
    let sess : Session := { dev := { id := 0 }, fd := 3, flags := 0 }
    let old : Version := { major := 0, minor := 0, patch := 0 }
    have hfd : 0 ≤ sess.fd := by decide
    obtain ⟨_, out, thread', _, hout, hout'⟩ := (h sess old Thread.initial hfd).common
      (completes_ttFwVersion hfd old Thread.initial)
    cases hscanned : scanned content with
    | some found =>
      rw [hscanned] at hout'
      cases version with
      | some version => exact (Prod.ext_iff.mp (hout'.symm.trans hout)).2
      | none => exact absurd (Prod.ext_iff.mp (hout'.symm.trans hout.1)).1 nofun
    | none =>
      rw [hscanned] at hout'
      cases version with
      | some version => exact absurd (Prod.ext_iff.mp (hout'.1.symm.trans hout)).1 nofun
      | none => rfl
  · rintro rfl sess old thread hfd
    exact completes_ttFwVersion hfd old thread

end Reading

/-! ## The scan -/

section Scan

variable {content : List UInt8} {major minor patch rc : List Char}

/-- The text of a buffer, up to its first null byte. -/
def cString (buf : List UInt8) : List Char := (buf.takeWhile (· ≠ 0)).map Char.ofUInt8

theorem ends_dot : ∀ c ∈ ['.', '.', '.'], Ends 10 [c] := by
  intro c hc c' hc'
  obtain rfl := Option.some.inj hc'
  simp only [List.mem_cons, List.not_mem_nil, or_false, or_self] at hc
  obtain rfl := hc
  decide

/-- The numbers that are scanned. -/
def scan (buf : List UInt8) : List ℕ := sscanf (numbers 10 64 ['.', '.', '.']) (cString buf)

/-- The version of four numbers. -/
def versionOf : List ℕ → Option Version
  | [major, minor, patch, rc] =>
    some
      { major := major
        minor := minor
        patch := patch
        pre := if 0 < rc then String.ofList (snprintf 32 ("rc." ++ rc.repr).toList) else "" }
  | _ => none

theorem parseFwVersion_eq (buf : List UInt8) : parseFwVersion buf = versionOf (scan buf) := rfl

theorem scanned_isSome_iff :
    (scanned content).isSome ↔ Listed 10 ['.', '.', '.'] (cString (content.take 31)) := by
  rw [← @sscanf_complete_iff 10 64 _ _ ends_dot, scanned, parseFwVersion_eq]
  change _ ↔ (scan (content.take 31)).length = 4
  generalize scan (content.take 31) = read
  rw [List.length_eq_four]
  unfold versionOf
  split
  · exact iff_of_true rfl ⟨_, _, _, _, rfl⟩
  · rename_i hread
    exact iff_of_false nofun fun ⟨a, b, c, d, heq⟩ ↦ hread a b c d heq

/-- The text of a release candidate fits its field. -/
theorem pre_eq (h : digitsValue 10 0 rc < 2 ^ 64) :
    String.ofList (snprintf 32 ("rc." ++ (digitsValue 10 0 rc).repr).toList) =
      "rc." ++ (digitsValue 10 0 rc).repr := by
  have hdigits : (digitsValue 10 0 rc).repr.length ≤ 20 :=
    (Nat.length_repr_le_iff (by omega)).mpr (Nat.lt_trans h (by decide))
  have hlength : ("rc." ++ (digitsValue 10 0 rc).repr).toList.length ≤ 31 := by
    rw [String.length_toList, String.length_append]
    have hmark : "rc.".length = 3 := by decide
    omega
  rw [snprintf, List.take_of_length_le hlength, String.ofList_toList]

/-- A text that begins with a version is read as that version. -/
theorem parse_dotted (hfields : Fields major minor patch rc) {rest : List Char}
    (hends : Ends 10 rest) {buf : List UInt8}
    (htext : cString buf = dotted major minor patch rc ++ rest) :
    parseFwVersion buf = some (denoted major minor patch rc) := by
  have hread := @sscanf_spelled 10 64 rest major [('.', minor), ('.', patch), ('.', rc)]
    hfields.plain hfields.fits ends_dot hends
  have hfits (field : List Char) (hmem : field ∈ [major, minor, patch, rc]) :=
    Nat.mod_eq_of_lt (hfields.fits field hmem)
  simp only [List.map_cons, List.map_nil] at hread
  rw [hfits major (by simp), hfits minor (by simp), hfits patch (by simp),
    hfits rc (by simp)] at hread
  have hscan : scan buf = [digitsValue 10 0 major, digitsValue 10 0 minor, digitsValue 10 0 patch,
      digitsValue 10 0 rc] := by
    rw [scan, htext]
    exact hread
  have hpre := pre_eq (hfields.fits rc (by simp))
  simp only [parseFwVersion_eq, hscan, versionOf, denoted, hpre, Nat.pos_iff_ne_zero, ite_not]

/-! ## Long texts -/

theorem Fields.mem_dotted (h : Fields major minor patch rc) {c : Char}
    (hc : c ∈ dotted major minor patch rc) : c = '.' ∨ (digitValue 10 c).isSome := by
  have hdigit (field : List Char) (hmem : field ∈ [major, minor, patch, rc]) (hc : c ∈ field) :
      (digitValue 10 c).isSome := (h.plain field hmem).digits c hc
  simp only [dotted, spelled, List.mem_append, List.mem_cons] at hc
  rcases hc with hc | rfl | hc | rfl | hc | rfl | hc
  · exact .inr (hdigit major (by simp) hc)
  · exact .inl rfl
  · exact .inr (hdigit minor (by simp) hc)
  · exact .inl rfl
  · exact .inr (hdigit patch (by simp) hc)
  · exact .inl rfl
  · exact .inr (hdigit rc (by simp) hc)

/-- No byte of a version ends the string. -/
theorem WellFormed.cString_take (h : WellFormed content major minor patch rc) (count : ℕ) :
    cString (content.take count) = (content.map Char.ofUInt8).take count := by
  have hnonzero : ∀ byte ∈ content, byte ≠ 0 := by
    rintro byte hmem rfl
    have hchar : Char.ofUInt8 0 ∈ content.map Char.ofUInt8 := List.mem_map_of_mem hmem
    have hdotted : Char.ofUInt8 0 ∉ dotted major minor patch rc := by
      intro hc
      rcases h.fields.mem_dotted hc with hdot | hdigit
      · exact absurd hdot (by decide)
      · exact absurd hdigit (by decide)
    rcases h.text with htext | htext
    · rw [htext] at hchar
      exact hdotted hchar
    · rw [htext, List.mem_append, List.mem_singleton] at hchar
      exact hchar.elim hdotted (by decide)
  have hwhole : (content.take count).takeWhile (· ≠ 0) = content.take count :=
    List.takeWhile_eq_self_iff.mpr fun byte hmem ↦
      decide_eq_true (hnonzero byte (List.mem_of_mem_take hmem))
  rw [cString, hwhole, List.map_take]

/-- A version that fits the buffer is read in full. -/
theorem parse_short (h : WellFormed content major minor patch rc) {count : ℕ}
    (hlength : (dotted major minor patch rc).length ≤ count) :
    parseFwVersion (content.take count) = some (denoted major minor patch rc) := by
  have htake := h.cString_take count
  have hnewline : Ends 10 ['\n'] := by
    intro c hc
    obtain rfl := Option.some.inj hc
    decide
  rcases h.text with htext | htext
  · rw [htext, List.take_of_length_le hlength, ← List.append_nil (dotted ..)] at htake
    exact parse_dotted h.fields (ends_nil 10) htake
  · rw [htext, List.take_append, List.take_of_length_le hlength] at htake
    refine parse_dotted h.fields ?_ htake
    cases count - (dotted major minor patch rc).length with
    | zero => exact ends_nil 10
    | succ left => exact hnewline

/-- The part before the last number and its dot. -/
def stem (major minor patch : List Char) : List Char :=
  spelled major [('.', minor), ('.', patch)]

theorem dotted_eq : dotted major minor patch rc = stem major minor patch ++ ['.'] ++ rc := by
  simp [dotted, stem, spelled]

/-- A version that does not fit is cut. -/
theorem cString_long (h : WellFormed content major minor patch rc)
    (hlength : 31 < (dotted major minor patch rc).length) :
    cString (content.take 31) = (dotted major minor patch rc).take 31 := by
  rw [h.cString_take 31]
  rcases h.text with htext | htext
  · rw [htext]
  · rw [htext, List.take_append_of_le_length hlength.le]

theorem Fields.take (h : Fields major minor patch rc) {count : ℕ} (hcount : 0 < count) :
    Fields major minor patch (rc.take count) := by
  have hplain := h.plain rc (by simp)
  have hvalue : digitsValue 10 0 (rc.take count) ≤ digitsValue 10 0 rc := by
    calc _ ≤ digitsValue 10 (digitsValue 10 0 (rc.take count)) (rc.drop count) :=
          le_digitsValue (by omega) _ _
      _ = digitsValue 10 0 rc := by rw [← digitsValue_append, List.take_append_drop]
  have hcut : Plain 10 (rc.take count) := by
    refine ⟨fun c hc ↦ hplain.digits c (List.mem_of_mem_take hc), ?_⟩
    rw [ne_eq, List.take_eq_nil_iff]
    exact not_or.mpr ⟨hcount.ne', hplain.nonempty⟩
  constructor
  · intro field hmem
    rcases List.mem_append.mp (show field ∈ [major, minor, patch] ++ [rc.take count] from hmem)
      with hfirst | hlast
    · exact h.plain field (List.mem_append_left [rc] hfirst)
    · rw [List.mem_singleton.mp hlast]
      exact hcut
  · intro field hmem
    rcases List.mem_append.mp (show field ∈ [major, minor, patch] ++ [rc.take count] from hmem)
      with hfirst | hlast
    · exact h.fits field (List.mem_append_left [rc] hfirst)
    · rw [List.mem_singleton.mp hlast]
      exact hvalue.trans_lt (h.fits rc (by simp))

/-- Where some of the last number is read, it is taken for the whole. -/
theorem scanned_cut (h : WellFormed content major minor patch rc)
    (hlength : 31 < (dotted major minor patch rc).length)
    (hstem : (stem major minor patch).length + 1 < 31) :
    scanned content =
      some (denoted major minor patch (rc.take (31 - ((stem major minor patch).length + 1)))) := by
  have hcut := h.fields.take (Nat.sub_pos_of_lt hstem)
  refine parse_dotted hcut (ends_nil 10) ?_
  have hprefix : (stem major minor patch ++ ['.']).length = (stem major minor patch).length + 1 :=
    List.length_append
  rw [cString_long h hlength, List.append_nil, dotted_eq, dotted_eq, List.take_append,
    List.take_of_length_le (by omega), hprefix]

/-- Where nothing of the last number is read, there is no version. -/
theorem scanned_long (h : WellFormed content major minor patch rc)
    (hlength : 31 < (dotted major minor patch rc).length)
    (hstem : 31 ≤ (stem major minor patch).length + 1) : scanned content = none := by
  have hprefix : (stem major minor patch ++ ['.']).length = (stem major minor patch).length + 1 :=
    List.length_append
  rw [← Option.not_isSome_iff_eq_none, scanned_isSome_iff, cString_long h hlength, dotted_eq,
    List.take_append_of_le_length (by omega)]
  intro hlisted
  have hthree : Listed 10 (List.replicate 3 '.') _ := hlisted
  obtain ⟨before, after, heq, hcount, hafter⟩ := hthree.behind
  have hwhole : before <+: stem major minor patch ++ ['.'] :=
    (heq ▸ List.prefix_append before after).trans (List.take_prefix ..)
  have hshort : before <+: stem major minor patch := by
    refine (List.prefix_concat_iff.mp hwhole).resolve_left fun hsame ↦ hafter ?_
    have hlengths := congrArg List.length heq
    simp only [hsame, List.length_take, List.length_append, List.length_singleton] at hlengths
    exact List.length_eq_zero_iff.mp (by omega)
  have hnone (field : List Char) (hmem : field ∈ [major, minor, patch, rc]) :
      field.count '.' = 0 := by
    refine List.count_eq_zero_of_not_mem fun hdot ↦ ?_
    exact absurd ((h.fields.plain field hmem).digits '.' hdot) (by decide)
  have htwo : (stem major minor patch).count '.' = 2 := by
    simp only [stem, spelled, List.count_append, List.count_cons_self, hnone major (by simp),
      hnone minor (by simp), hnone patch (by simp)]
  have hle := hshort.count_le '.'
  omega

theorem repr_inj {value other : ℕ} (h : value.repr = other.repr) : value = other := by
  have hdigits := congrArg (digitsValue 10 0) (congrArg String.toList h)
  simp only [Nat.toList_repr] at hdigits
  rwa [digitsValue_toDigits (by omega) (by omega), digitsValue_toDigits (by omega) (by omega)]
    at hdigits

/-- Different numbers of the release candidate are told apart. -/
theorem denoted_inj {other : List Char}
    (h : denoted major minor patch rc = denoted major minor patch other) :
    digitsValue 10 0 rc = digitsValue 10 0 other := by
  have hpre : (denoted major minor patch rc).pre = (denoted major minor patch other).pre :=
    congrArg Version.pre h
  have hnonempty (value : ℕ) : "rc." ++ value.repr ≠ "" := by
    rw [ne_eq, String.append_eq_empty_iff]
    exact fun hempty ↦ absurd hempty.1 (by decide)
  simp only [denoted] at hpre
  by_cases hrc : digitsValue 10 0 rc = 0
  · by_cases hother : digitsValue 10 0 other = 0
    · rw [hrc, hother]
    · rw [if_pos hrc, if_neg hother] at hpre
      exact absurd hpre.symm (hnonempty _)
  · by_cases hother : digitsValue 10 0 other = 0
    · rw [if_neg hrc, if_pos hother] at hpre
      exact absurd hpre (hnonempty _)
    · rw [if_neg hrc, if_neg hother, String.append_right_inj] at hpre
      exact repr_inj hpre

/-! ## Which versions are read -/

/-- The version fits the buffer, or it is stable and its last number is not cut off. -/
def Shown (major minor patch rc : List Char) : Prop :=
  (dotted major minor patch rc).length ≤ 31 ∨
    digitsValue 10 0 rc = 0 ∧ (stem major minor patch).length + 1 < 31

theorem denoted_take {count : ℕ} (h : digitsValue 10 0 (rc.take count) = digitsValue 10 0 rc) :
    denoted major minor patch (rc.take count) = denoted major minor patch rc := by
  unfold denoted
  rw [h]

theorem scanned_iff (h : WellFormed content major minor patch rc) :
    scanned content = some (denoted major minor patch rc) ↔ Shown major minor patch rc := by
  by_cases hlength : (dotted major minor patch rc).length ≤ 31
  · exact iff_of_true (parse_short h hlength) (.inl hlength)
  · have hlong := Nat.not_le.mp hlength
    by_cases hstem : (stem major minor patch).length + 1 < 31
    · let count := 31 - ((stem major minor patch).length + 1)
      have hcut : scanned content = some (denoted major minor patch (rc.take count)) :=
        scanned_cut h hlong hstem
      have hsplit : digitsValue 10 (digitsValue 10 0 (rc.take count)) (rc.drop count) =
          digitsValue 10 0 rc := by rw [← digitsValue_append, List.take_append_drop]
      have hdropped : rc.drop count ≠ [] := by
        rw [dotted_eq, List.length_append, List.length_append, List.length_singleton] at hlong
        rw [ne_eq, List.drop_eq_nil_iff]
        omega
      rw [hcut]
      constructor
      · intro hsame
        have hvalue := denoted_inj (Option.some.inj hsame)
        have hzero := digitsValue_eq_self (by omega) hdropped (hsplit.trans hvalue.symm)
        exact .inr ⟨hvalue.symm.trans hzero, hstem⟩
      · intro hshown
        obtain ⟨hzero, -⟩ := hshown.resolve_left hlength
        have hle := le_digitsValue (Nat.zero_lt_succ 9) (digitsValue 10 0 (rc.take count))
          (rc.drop count)
        rw [hsplit, hzero] at hle
        exact congrArg some (denoted_take (by omega))
    · rw [scanned_long h hlong (Nat.not_lt.mp hstem)]
      exact iff_of_false nofun (not_or.mpr ⟨hlength, fun hstable ↦ hstem hstable.2⟩)

/-- A content spells one version. -/
theorem WellFormed.unique {major' minor' patch' rc' : List Char}
    (h : WellFormed content major minor patch rc)
    (h' : WellFormed content major' minor' patch' rc') :
    denoted major minor patch rc = denoted major' minor' patch' rc' := by
  have hread := parse_short h (Nat.le_max_left _ (dotted major' minor' patch' rc').length)
  rw [parse_short h' (Nat.le_max_right ..)] at hread
  exact (Option.some.inj hread).symm

/-- The version is read as it is spelled exactly when it fits the buffer or its end does not
matter, and a text that is no version is rejected exactly when it does not begin like one. -/
theorem version_faithful_iff (content : List UInt8) : Faithful content ↔
    (∃ major minor patch rc, WellFormed content major minor patch rc ∧
      Shown major minor patch rc) ∨
    (∀ major minor patch rc, ¬WellFormed content major minor patch rc) ∧
      ¬Listed 10 ['.', '.', '.'] (cString (content.take 31)) := by
  constructor
  · intro h
    by_cases hformed : ∃ major minor patch rc, WellFormed content major minor patch rc
    · obtain ⟨major, minor, patch, rc, hformed⟩ := hformed
      have hread := reads_iff.mp (h.accepted major minor patch rc hformed)
      exact .inl ⟨major, minor, patch, rc, hformed, (scanned_iff hformed).mp hread⟩
    · have hnone : ∀ major minor patch rc, ¬WellFormed content major minor patch rc :=
        fun major minor patch rc hother ↦ hformed ⟨major, minor, patch, rc, hother⟩
      refine .inr ⟨hnone, ?_⟩
      rw [← scanned_isSome_iff, Option.not_isSome_iff_eq_none]
      exact reads_iff.mp (h.rejected hnone)
  · intro h
    rcases h with ⟨major, minor, patch, rc, hformed, hshown⟩ | ⟨hnone, hother⟩
    · have hread := (scanned_iff hformed).mpr hshown
      refine ⟨fun major' minor' patch' rc' hformed' ↦ ?_, fun hnone ↦ ?_⟩
      · rw [reads_iff, hread, hformed.unique hformed']
      · exact absurd hformed (hnone major minor patch rc)
    · refine ⟨fun major minor patch rc hformed ↦ absurd hformed (hnone major minor patch rc),
        fun _ ↦ reads_iff.mpr ?_⟩
      rwa [← scanned_isSome_iff, Option.not_isSome_iff_eq_none] at hother

end Scan

/-- `"1.2.3.4x"` -/
def suffixed : List UInt8 := [49, 46, 50, 46, 51, 46, 52, 120]

/-- `18446744073709551615` -/
def longest : List Char := Nat.toDigits 10 18446744073709551615

/-- `"1000.2000.3000.18446744073709551615"` -/
def overlong : List UInt8 :=
  [49, 48, 48, 48, 46, 50, 48, 48, 48, 46, 51, 48, 48, 48, 46, 49, 56, 52, 52, 54, 55, 52, 52, 48,
    55, 51, 55, 48, 57, 53, 53, 49, 54, 49, 53]

theorem overlong_wellFormed :
    WellFormed overlong ['1', '0', '0', '0'] ['2', '0', '0', '0'] ['3', '0', '0', '0'] longest where
  fields :=
    { plain := by
        simp only [List.forall_mem_cons]
        exact ⟨plain_of_all (by decide) (by decide), plain_of_all (by decide) (by decide),
          plain_of_all (by decide) (by decide), plain_toDigits (by omega) (by omega) _, nofun⟩
      fits := by
        have hvalue : digitsValue 10 0 longest = 18446744073709551615 :=
          digitsValue_toDigits (by omega) (by omega) _
        simp only [List.forall_mem_cons]
        exact ⟨by decide, by decide, by decide, by omega, nofun⟩ }
  text := .inl (by decide)

theorem suffixed_not_wellFormed (major minor patch rc : List Char) :
    ¬WellFormed suffixed major minor patch rc := by
  intro h
  have hmem : 'x' ∈ suffixed.map Char.ofUInt8 := by decide
  have hdotted : 'x' ∉ dotted major minor patch rc := by
    intro hc
    rcases h.fields.mem_dotted hc with hdot | hdigit
    · exact absurd hdot (by decide)
    · exact absurd hdigit (by decide)
  rcases h.text with htext | htext
  · rw [htext] at hmem
    exact hdotted hmem
  · rw [htext, List.mem_append, List.mem_singleton] at hmem
    exact hmem.elim hdotted (by decide)

/-- A text that goes on behind the version is accepted, and a long version is read with the end of
its release candidate cut off. -/
theorem lenient_version_misread :
    Reads suffixed (some (denoted ['1'] ['2'] ['3'] ['4'])) ∧ ¬Faithful suffixed ∧
    Reads overlong (some (denoted ['1', '0', '0', '0'] ['2', '0', '0', '0'] ['3', '0', '0', '0']
      (longest.take 16))) ∧
    digitsValue 10 0 (longest.take 16) = 1844674407370955 ∧ ¬Faithful overlong := by
  have hsuffixed : scanned suffixed = some (denoted ['1'] ['2'] ['3'] ['4']) := by decide
  have hlong : 31 < (dotted ['1', '0', '0', '0'] ['2', '0', '0', '0'] ['3', '0', '0', '0']
      longest).length := by decide
  have hstem : (stem ['1', '0', '0', '0'] ['2', '0', '0', '0'] ['3', '0', '0', '0']).length + 1 <
      31 := by decide
  have hvalue : digitsValue 10 0 longest ≠ 0 := by decide
  refine ⟨reads_iff.mpr hsuffixed, fun h ↦ ?_, reads_iff.mpr (scanned_cut overlong_wellFormed hlong
    hstem), by decide, fun h ↦ ?_⟩
  · have hread := reads_iff.mp (h.rejected suffixed_not_wellFormed)
    rw [hsuffixed] at hread
    cases hread
  · have hread := reads_iff.mp (h.accepted _ _ _ _ overlong_wellFormed)
    rcases (scanned_iff overlong_wellFormed).mp hread with hshort | hstable
    · exact absurd hshort (Nat.not_le.mpr hlong)
    · exact hvalue hstable.1

end TtDal.Safety.FirmwareVersion
