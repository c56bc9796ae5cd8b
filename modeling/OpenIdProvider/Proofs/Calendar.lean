/-
  Whole seconds. Instants and durations are kept with their fractions, and tokens name whole
  seconds only: the second of an instant, and the second in which a duration after it ends. For a
  duration without a fraction this is the second of the instant plus the seconds of the duration,
  whatever fraction the instant has.
-/
import OpenIdProvider.Clock

namespace OpenIdProvider

namespace Instant

/-- The last instant whose date can be represented. -/
def greatest : Instant := ⟨8210266876799999999999, by decide⟩

theorem le_def {t u : Instant} : t ≤ u ↔ t.nanoseconds ≤ u.nanoseconds := Iff.rfl

instance (t u : Instant) : Decidable (t ≤ u) :=
  inferInstanceAs (Decidable (t.nanoseconds ≤ u.nanoseconds))

instance : Trans (fun t u : Instant => t ≤ u) (fun t u : Instant => t ≤ u)
    (fun t u : Instant => t ≤ u) := ⟨Int.le_trans⟩

theorem seconds_le_seconds {t u : Instant} (h : t ≤ u) : t.seconds ≤ u.seconds :=
  Int.ediv_le_ediv (by decide) h

theorem seconds_bounds (t : Instant) :
    -8334601228800 ≤ t.seconds ∧ t.seconds ≤ 8210266876799 := by
  obtain ⟨hlow, hhigh⟩ := t.hasDate
  unfold seconds nanosecondsPerSecond
  omega

theorem ofNanoseconds?_eq_some_iff {n : Int} {t : Instant} :
    ofNanoseconds? n = some t ↔ t.nanoseconds = n := by
  unfold ofNanoseconds?
  split
  · rw [Option.some.injEq, Instant.mk.injEq, eq_comm]
  · rename_i h
    exact ⟨nofun, fun heq => absurd (heq ▸ t.hasDate) h⟩

/-- Seconds with a date are those of their instant. -/
theorem seconds_ofSeconds {n : Int} (h : HasDate (n * nanosecondsPerSecond)) :
    (ofSeconds n).seconds = n := by
  unfold ofSeconds ofNanoseconds?
  rw [dif_pos h]
  exact Int.mul_ediv_cancel n (by decide)

theorem ofSeconds_of_not_hasDate {n : Int} (h : ¬ HasDate (n * nanosecondsPerSecond)) :
    ofSeconds n = epoch := by
  unfold ofSeconds ofNanoseconds?
  rw [dif_neg h]
  rfl

/-- Such an instant has no fraction. -/
theorem nanoseconds_ofSeconds (n : Int) :
    (ofSeconds n).nanoseconds = (ofSeconds n).seconds * nanosecondsPerSecond := by
  by_cases h : HasDate (n * nanosecondsPerSecond)
  · rw [seconds_ofSeconds h, ofSeconds, ofNanoseconds?, dif_pos h]
    rfl
  · rw [ofSeconds_of_not_hasDate h]
    rfl

/-- The second in which a duration after an instant ends. -/
def lastSecond (t : Instant) (d : Duration) : Int :=
  (t.nanoseconds + d.nanoseconds) / nanosecondsPerSecond

theorem plus?_eq_some_iff {t finish : Instant} {d : Duration} :
    t.plus? d = some finish ↔
      d.isRepresentable = true ∧ finish.nanoseconds = t.nanoseconds + d.nanoseconds := by
  unfold plus?
  split
  · rename_i h
    rw [ofNanoseconds?_eq_some_iff]
    exact (and_iff_right h).symm
  · rename_i h
    exact ⟨nofun, fun ⟨hd, _⟩ => absurd hd h⟩

theorem seconds_of_plus? {t finish : Instant} {d : Duration} (h : t.plus? d = some finish) :
    finish.seconds = t.lastSecond d := by
  unfold seconds lastSecond
  rw [(plus?_eq_some_iff.1 h).2]

/-- A duration without a fraction leaves the fraction of an instant as it is. -/
theorem lastSecond_ofSeconds (t : Instant) (n : Int) :
    t.lastSecond (.ofSeconds n) = t.seconds + n :=
  Int.add_mul_ediv_right t.nanoseconds n (by decide)

end Instant

namespace Duration

theorem seconds_bounds {d : Duration} (h : 0 ≤ d) (hgreatest : d ≤ greatest) :
    0 ≤ d.seconds ∧ d.seconds ≤ 9223372036854775 := by
  have hlow : 0 ≤ d.nanoseconds := h
  have hhigh : d.nanoseconds ≤ 9223372036854775807000000 := hgreatest
  unfold seconds nanosecondsPerSecond
  rw [Int.tdiv_eq_ediv_of_nonneg hlow]
  omega

theorem seconds_ofSeconds (n : Int) : (ofSeconds n).seconds = n :=
  Int.mul_tdiv_cancel n (by decide)

end Duration

end OpenIdProvider
