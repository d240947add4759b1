import TtDal.Platform.Thread

/-!
# Points in time

A reading of the clock is normalised: its nanoseconds make less than a second. Such readings are
ordered by their seconds first, and that is the order of the nanoseconds they stand for. The
difference of two readings is computed in signed 64-bit values, each of which may overflow.
-/

namespace TtDal.Platform

/-- The nanoseconds a reading stands for. -/
def Timespec.nanos (t : Timespec) : ℤ := t.sec * 1000000000 + t.nsec

/-- A normalised reading. -/
structure Instant extends Timespec where
  nsec_nonneg : 0 ≤ nsec
  nsec_lt : nsec < 1000000000

namespace Instant

variable {t t' : Instant}

instance : LE Instant where
  le t t' := t.sec < t'.sec ∨ t.sec = t'.sec ∧ t.nsec ≤ t'.nsec

theorem le_iff_nanos_le : t ≤ t' ↔ t.nanos ≤ t'.nanos := by
  have hlow := t.nsec_nonneg
  have hlow' := t'.nsec_nonneg
  have hhigh := t.nsec_lt
  have hhigh' := t'.nsec_lt
  change t.sec < t'.sec ∨ t.sec = t'.sec ∧ t.nsec ≤ t'.nsec ↔ _
  simp only [Timespec.nanos]
  omega

/-- The reading for a number of nanoseconds. -/
def ofNanos (nanos : ℤ) : Instant where
  sec := nanos / 1000000000
  nsec := nanos % 1000000000
  nsec_nonneg := Int.emod_nonneg _ (by decide)
  nsec_lt := Int.emod_lt_of_pos _ (by decide)

@[simp]
theorem nanos_ofNanos (nanos : ℤ) : (ofNanos nanos).nanos = nanos :=
  Int.ediv_mul_add_emod nanos 1000000000

end Instant

/-! ## Overflow -/

/-- A value of a signed 64-bit type, or `none` where it overflows. -/
def int64 (value : ℤ) : Option ℤ :=
  if -2 ^ 63 ≤ value ∧ value < 2 ^ 63 then some value else none

theorem int64_of_fits {value : ℤ} (hlow : -2 ^ 63 ≤ value) (hhigh : value < 2 ^ 63) :
    int64 value = some value :=
  if_pos ⟨hlow, hhigh⟩

theorem eq_of_int64 {value value' : ℤ} (h : int64 value = some value') : value' = value := by
  unfold int64 at h
  split at h
  · exact (Option.some.inj h).symm
  · cases h

/-- `timespec_diff_ms` with every intermediate value in its type. -/
def checkedDiffMs (start stop : Timespec) : Option ℕ := do
  let secs ← int64 (stop.sec - start.sec)
  let scaled ← int64 (secs * 1000000000)
  let nsecs ← int64 (stop.nsec - start.nsec)
  let ns ← int64 (scaled + nsecs)
  let ms ← int64 (ns.tdiv 1000000)
  return (ms % 2 ^ 64).toNat

theorem timespecDiffNs_eq (start stop : Timespec) :
    timespecDiffNs start stop = stop.nanos - start.nanos := by
  simp only [timespecDiffNs, Timespec.nanos]
  omega

/-- Between two points in order only the scaled seconds and the difference itself can overflow, and
the result is rounded down. -/
theorem checkedDiffMs_eq {start stop : Instant} (hle : start ≤ stop)
    (hsecs : (stop.sec - start.sec) * 1000000000 < 2 ^ 63)
    (hnanos : stop.nanos - start.nanos < 2 ^ 63) :
    checkedDiffMs start.toTimespec stop.toTimespec =
      some ((stop.nanos - start.nanos) / 1000000).toNat := by
  have hordered := Instant.le_iff_nanos_le.mp hle
  have hlow := start.nsec_nonneg
  have hlow' := stop.nsec_nonneg
  have hhigh := start.nsec_lt
  have hhigh' := stop.nsec_lt
  have hsum : (stop.sec - start.sec) * 1000000000 + (stop.nsec - start.nsec) =
      stop.nanos - start.nanos := timespecDiffNs_eq start.toTimespec stop.toTimespec
  have hquotient : (stop.nanos - start.nanos).tdiv 1000000 =
      (stop.nanos - start.nanos) / 1000000 := Int.tdiv_eq_ediv_of_nonneg (by omega)
  have hunsigned : (stop.nanos - start.nanos) / 1000000 % 2 ^ 64 =
      (stop.nanos - start.nanos) / 1000000 := Int.emod_eq_of_lt (by omega) (by omega)
  have hforward : 0 ≤ stop.sec - start.sec := by
    rw [← hsum] at hnanos
    simp only [Timespec.nanos] at hordered
    omega
  calc
    _ = (int64 (stop.nanos - start.nanos)).bind fun ns ↦
          (int64 (ns.tdiv 1000000)).bind fun ms ↦ some (ms % 2 ^ 64).toNat := by
      simp only [checkedDiffMs, Option.bind_eq_bind]
      rw [int64_of_fits (by omega) (by omega), Option.bind_some,
        int64_of_fits (by omega) hsecs, Option.bind_some,
        int64_of_fits (by omega) (by omega), Option.bind_some, hsum]
      rfl
    _ = some ((stop.nanos - start.nanos) / 1000000 % 2 ^ 64).toNat := by
      rw [int64_of_fits (by omega) hnanos, Option.bind_some, hquotient,
        int64_of_fits (by omega) (by omega), Option.bind_some]
    _ = _ := by rw [hunsigned]

/-- Where nothing overflows, the checks change nothing. -/
theorem timespecDiffMs_of_checked {start stop : Timespec} {ms : ℕ}
    (h : checkedDiffMs start stop = some ms) : timespecDiffMs start stop = ms := by
  simp only [checkedDiffMs, Option.bind_eq_bind, Option.bind_eq_some_iff] at h
  obtain ⟨secs, hsecs, scaled, hscaled, nsecs, hnsecs, ns, hns, quotient, hquotient, hms⟩ := h
  obtain rfl := eq_of_int64 hsecs
  obtain rfl := eq_of_int64 hscaled
  obtain rfl := eq_of_int64 hnsecs
  obtain rfl := eq_of_int64 hns
  obtain rfl := eq_of_int64 hquotient
  exact Option.some.inj hms

end TtDal.Platform
