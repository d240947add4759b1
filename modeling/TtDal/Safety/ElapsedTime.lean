import TtDal.Platform.Instant

/-!
# Elapsed milliseconds

The difference of two points in time is computed in signed nanoseconds. A second boundary between
them makes the difference of their nanosecond fields negative, which costs the scaled seconds up
to a second more than the whole. So there is no overflow where the whole stays a second below the
limit, and then the result is the exact difference rounded down.
-/

namespace TtDal.Safety.ElapsedTime

open Platform

/-- The points are in order, and less than 2^63 - 10^9 nanoseconds apart. -/
structure Spans (start stop : Instant) : Prop where
  ordered : start ≤ stop
  near : stop.nanos - start.nanos < 2 ^ 63 - 10 ^ 9

/-- What is computed between two points. -/
def elapsed (start stop : Instant) : ℕ :=
  timespecDiffMs start.toTimespec stop.toTimespec

/-- The elapsed time is computed without overflow and rounded down, so it grows with the end,
shrinks with the start, and loses at most one millisecond when it is taken in two parts. -/
structure Exact (start stop : Instant) : Prop where
  fits : checkedDiffMs start.toTimespec stop.toTimespec = some (elapsed start stop)
  floor : (elapsed start stop : ℤ) = (stop.nanos - start.nanos) / 1000000
  monotone : ∀ later, stop ≤ later → Spans start later → elapsed start stop ≤ elapsed start later
  antitone : ∀ earlier, earlier ≤ start → Spans earlier stop →
    elapsed start stop ≤ elapsed earlier stop
  split : ∀ mid, start ≤ mid → mid ≤ stop →
    elapsed start mid + elapsed mid stop ≤ elapsed start stop ∧
      elapsed start stop ≤ elapsed start mid + elapsed mid stop + 1

section Exact

variable {start mid stop : Instant}

theorem Spans.scaled_lt (h : Spans start stop) :
    (stop.sec - start.sec) * 1000000000 < 2 ^ 63 := by
  have hnear := h.near
  have hstart := start.nsec_lt
  have hstop := stop.nsec_nonneg
  simp only [Timespec.nanos] at hnear
  omega

theorem Spans.checked (h : Spans start stop) :
    checkedDiffMs start.toTimespec stop.toTimespec =
      some ((stop.nanos - start.nanos) / 1000000).toNat :=
  checkedDiffMs_eq h.ordered h.scaled_lt (Int.lt_trans h.near (by decide))

theorem Spans.elapsed_eq (h : Spans start stop) :
    elapsed start stop = ((stop.nanos - start.nanos) / 1000000).toNat :=
  timespecDiffMs_of_checked h.checked

theorem Spans.floor (h : Spans start stop) :
    (elapsed start stop : ℤ) = (stop.nanos - start.nanos) / 1000000 := by
  have hordered := Instant.le_iff_nanos_le.mp h.ordered
  rw [h.elapsed_eq, Int.toNat_of_nonneg (by omega)]

/-- A part of a span is one. -/
theorem Spans.first (h : Spans start stop) (hstart : start ≤ mid) (hstop : mid ≤ stop) :
    Spans start mid where
  ordered := hstart
  near := by
    have hnear := h.near
    have hbefore := Instant.le_iff_nanos_le.mp hstop
    omega

theorem Spans.second (h : Spans start stop) (hstart : start ≤ mid) (hstop : mid ≤ stop) :
    Spans mid stop where
  ordered := hstop
  near := by
    have hnear := h.near
    have hafter := Instant.le_iff_nanos_le.mp hstart
    omega

theorem Spans.elapsed_add_le (h : Spans start stop) (hstart : start ≤ mid) (hstop : mid ≤ stop) :
    elapsed start mid + elapsed mid stop ≤ elapsed start stop := by
  have hfirst := (h.first hstart hstop).floor
  have hsecond := (h.second hstart hstop).floor
  have hwhole := h.floor
  omega

theorem Spans.elapsed_le_add (h : Spans start stop) (hstart : start ≤ mid) (hstop : mid ≤ stop) :
    elapsed start stop ≤ elapsed start mid + elapsed mid stop + 1 := by
  have hfirst := (h.first hstart hstop).floor
  have hsecond := (h.second hstart hstop).floor
  have hwhole := h.floor
  omega

/-- Between points that are in order and not too far apart, the elapsed time is exact. -/
theorem elapsed_exact (h : Spans start stop) : Exact start stop where
  fits := by rw [h.checked, h.elapsed_eq]
  floor := h.floor
  monotone later hlater hspans := by
    calc
      elapsed start stop ≤ elapsed start stop + elapsed stop later := Nat.le_add_right _ _
      _ ≤ elapsed start later := hspans.elapsed_add_le h.ordered hlater
  antitone earlier hearlier hspans := by
    calc
      elapsed start stop ≤ elapsed earlier start + elapsed start stop := Nat.le_add_left _ _
      _ ≤ elapsed earlier stop := hspans.elapsed_add_le hearlier h.ordered
  split mid hstart hstop := ⟨h.elapsed_add_le hstart hstop, h.elapsed_le_add hstart hstop⟩

end Exact

/-- 10.9 seconds. -/
def shortBefore : Instant where
  sec := 10
  nsec := 900000000
  nsec_nonneg := by decide
  nsec_lt := by decide

/-- 20.1 seconds. -/
def shortAfter : Instant where
  sec := 20
  nsec := 100000000
  nsec_nonneg := by decide
  nsec_lt := by decide

/-- Across second boundaries. -/
theorem borrowed_exact : Exact shortBefore shortAfter :=
  elapsed_exact ⟨.inl (by decide), by decide⟩

example : elapsed shortBefore shortAfter = 9200 := by decide

end TtDal.Safety.ElapsedTime
