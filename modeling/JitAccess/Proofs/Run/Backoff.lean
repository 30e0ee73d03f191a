import JitAccess.Run.Backoff
import Mathlib

/-!
# Pauses at the limits

A duration is kept in two words, its whole seconds and the nanoseconds of the last one, and how often it
is taken is counted in a third. Each of them can be too small. Where one is, the result is the largest
there is, and no word ever wraps around.

* `Duration.Words.times?_eq`: the product in words is the product of nanoseconds, up to the largest.
* `RetryPolicy.base_nanos`: the pause without variation.
* `RetryPolicy.scaled_bounds`: what a variation comes to.
* `RetryPolicy.backoff_bounded`: all together, and pauses of different attempts.
-/

namespace JitAccess

/-! ## Words -/

/-- The word of a number, if it fits in one. -/
def word? (n : Nat) : Option UInt64 := if n < 2 ^ 64 then some (.ofNat n) else none

theorem word?_eq_some_iff {n : Nat} {word : UInt64} : word? n = some word ↔ word.toNat = n := by
  constructor
  · intro h
    obtain ⟨hfits, hword⟩ := Option.ite_none_right_eq_some.1 h
    rw [← Option.some_inj.1 hword, UInt64.toNat_ofNat', Nat.mod_eq_of_lt hfits]
  · intro h
    rw [word?, if_pos (h ▸ word.toNat_lt), ← h, UInt64.ofNat_toNat]

theorem word?_eq_none_iff {n : Nat} : word? n = none ↔ 2 ^ 64 ≤ n := by
  rw [word?, ite_eq_right_iff, imp_iff_not (by simp), Nat.not_lt]

theorem Duration.eq_of_nanos {d e : Duration} (h : d.nanos = e.nanos) : d = e := by
  cases d
  cases e
  simpa using h

/-- A duration in words. -/
structure Duration.Words where
  seconds : UInt64
  nanos : UInt32
  nanos_lt : nanos.toNat < 1000000000

namespace Duration.Words

variable {w : Words} {n : UInt32} {nanos seconds : UInt64}

/-- The duration that the words stand for. -/
def duration (w : Words) : Duration :=
  ⟨w.seconds.toNat * 1000000000 + w.nanos.toNat, by
    have hseconds := w.seconds.toNat_lt
    have hnanos := w.nanos_lt
    unfold Duration.limit
    omega⟩

/-- The words of the largest duration. -/
def largest : Words := ⟨18446744073709551615, 999999999, by decide⟩

/-- The words of some seconds and of the nanoseconds that are left of others. -/
def ofRest (seconds nanos : UInt64) : Words :=
  ⟨seconds, (nanos % 1000000000).toUInt32, by
    rw [UInt64.toNat_toUInt32, UInt64.toNat_mod]
    exact Nat.lt_of_le_of_lt (Nat.mod_le ..) (Nat.mod_lt _ (by decide))⟩

/-- The seconds of a product, if they fit in a word. Some of them come from the nanoseconds. -/
def secondsTimes? (w : Words) (n : UInt32) (nanos : UInt64) : Option UInt64 := do
  let seconds ← word? (w.seconds.toNat * n.toNat)
  word? (seconds.toNat + (nanos / 1000000000).toNat)

/-- A product, or the largest duration if the seconds do not fit in a word. There is none if already the
nanoseconds do not fit. -/
def times? (w : Words) (n : UInt32) : Option Words := do
  let nanos ← word? (w.nanos.toNat * n.toNat)
  return ((w.secondsTimes? n nanos).map (ofRest · nanos)).getD largest

theorem duration_ofRest (seconds nanos : UInt64) :
    (ofRest seconds nanos).duration.nanos =
      seconds.toNat * 1000000000 + nanos.toNat % 1000000000 := by
  have hlt : nanos.toNat % 1000000000 < 2 ^ 32 :=
    Nat.lt_trans (Nat.mod_lt _ (by decide)) (by decide)
  simp only [ofRest, duration, UInt64.toNat_toUInt32, UInt64.toNat_mod]
  exact congrArg _ (Nat.mod_eq_of_lt hlt)

theorem toNat_of_secondsTimes? (h : w.secondsTimes? n nanos = some seconds) :
    seconds.toNat = w.seconds.toNat * n.toNat + nanos.toNat / 1000000000 := by
  obtain ⟨product, hproduct, hsum⟩ := Option.bind_eq_some_iff.1 h
  rw [word?_eq_some_iff.1 hsum, word?_eq_some_iff.1 hproduct, UInt64.toNat_div]
  rfl

theorem le_of_secondsTimes?_eq_none (h : w.secondsTimes? n nanos = none) :
    2 ^ 64 ≤ w.seconds.toNat * n.toNat + nanos.toNat / 1000000000 := by
  cases hproduct : word? (w.seconds.toNat * n.toNat) with
  | none => exact Nat.le_add_right_of_le (word?_eq_none_iff.1 hproduct)
  | some product =>
    have hsum : word? (product.toNat + (nanos / 1000000000).toNat) = none := by
      simpa [secondsTimes?, hproduct] using h
    rw [word?_eq_none_iff, word?_eq_some_iff.1 hproduct, UInt64.toNat_div] at hsum
    exact hsum

/-- The nanoseconds of less than a second, as often as a word says, fit in a longer word. -/
theorem exists_word?_nanos (w : Words) (n : UInt32) :
    ∃ nanos, word? (w.nanos.toNat * n.toNat) = some nanos := by
  have hproduct : w.nanos.toNat * n.toNat ≤ 1000000000 * 2 ^ 32 :=
    Nat.mul_le_mul w.nanos_lt.le n.toNat_lt.le
  cases hword : word? (w.nanos.toNat * n.toNat) with
  | some nanos => exact ⟨nanos, rfl⟩
  | none =>
    have hle := word?_eq_none_iff.1 hword
    omega

/-- **Products of words are products of nanoseconds.** There always is a product, and it is the largest
duration exactly where the nanoseconds go beyond it. -/
theorem times?_eq (w : Words) (n : UInt32) : ∃ product,
    w.times? n = some product ∧ product.duration = .saturating (w.duration.nanos * n.toNat) := by
  obtain ⟨nanos, hnanos⟩ := w.exists_word?_nanos n
  have hproduct : w.duration.nanos * n.toNat =
      w.seconds.toNat * n.toNat * 1000000000 + nanos.toNat := by
    rw [word?_eq_some_iff.1 hnanos]
    simp only [duration]
    ring
  refine ⟨_, by rw [times?, hnanos]; rfl, eq_of_nanos ?_⟩
  rw [saturating]
  cases hseconds : w.secondsTimes? n nanos with
  | some seconds =>
    have htotal := duration_ofRest seconds nanos
    have hle := (ofRest seconds nanos).duration.nanos_le
    rw [toNat_of_secondsTimes? hseconds] at htotal
    simp only [Option.map_some, Option.getD_some]
    omega
  | none =>
    have hle := le_of_secondsTimes?_eq_none hseconds
    have hlargest : largest.duration.nanos = limit := rfl
    simp only [Option.map_none, Option.getD_none, hlargest]
    unfold limit
    omega

end Duration.Words

/-- The words of a duration. -/
def Duration.words (d : Duration) : Words :=
  ⟨.ofNat (d.nanos / 1000000000), .ofNat (d.nanos % 1000000000), by
    rw [UInt32.toNat_ofNat']
    exact Nat.lt_of_le_of_lt (Nat.mod_le ..) (Nat.mod_lt _ (by decide))⟩

theorem Duration.duration_words (d : Duration) : d.words.duration = d := by
  have hle := d.nanos_le
  unfold limit at hle
  apply eq_of_nanos
  simp only [words, Words.duration, UInt64.toNat_ofNat', UInt32.toNat_ofNat']
  omega

namespace RetryPolicy

variable {attempt a b : Nat}

/-- Two to the power of an attempt, in a word that stays at the largest. -/
def doubled : Nat → UInt32
  | 0 => 1
  | attempt + 1 =>
    if (doubled attempt).toNat < 2147483648 then doubled attempt + doubled attempt else 4294967295

theorem doubling_eq (attempt : Nat) : doubling attempt = min (2 ^ attempt) 4294967295 := by
  by_cases hlt : attempt < 32
  · have hle : 2 ^ attempt ≤ 2 ^ 31 := Nat.pow_le_pow_right (by decide) (by omega)
    rw [doubling, if_pos hlt, Nat.pow_eq]
    omega
  · have hle : 2 ^ 32 ≤ 2 ^ attempt := Nat.pow_le_pow_right (by decide) (by omega)
    rw [doubling, if_neg hlt]
    omega

theorem toNat_doubled (attempt : Nat) : (doubled attempt).toNat = doubling attempt := by
  rw [doubling_eq]
  induction attempt with
  | zero => rfl
  | succ attempt ih =>
    rw [doubled, Nat.pow_succ]
    by_cases hlt : (doubled attempt).toNat < 2147483648
    · rw [if_pos hlt, UInt32.toNat_add, Nat.mod_eq_of_lt (by omega)]
      omega
    · rw [if_neg hlt]
      have hlargest : (4294967295 : UInt32).toNat = 4294967295 := rfl
      omega

/-- The pause without variation is what was set, as often as a word allows, up to the largest. -/
theorem base_nanos (p : RetryPolicy) (attempt : Nat) :
    (p.base attempt).nanos =
      min (p.initialBackoff.nanos * min (2 ^ attempt) 4294967295) Duration.limit := by
  rw [← doubling_eq]
  rfl

theorem base_nanos_of_le {p : RetryPolicy} (hattempt : attempt ≤ 31)
    (hfits : p.initialBackoff.nanos * 2 ^ attempt ≤ Duration.limit) :
    (p.base attempt).nanos = p.initialBackoff.nanos * 2 ^ attempt := by
  have hpow : 2 ^ attempt ≤ 2 ^ 31 := Nat.pow_le_pow_right (by decide) hattempt
  have hword : 2 ^ attempt ≤ 4294967295 := by omega
  rw [base_nanos, Nat.min_eq_left hword, Nat.min_eq_left hfits]

theorem base_mono (p : RetryPolicy) (h : a ≤ b) : (p.base a).nanos ≤ (p.base b).nanos := by
  have hpow : 2 ^ a ≤ 2 ^ b := Nat.pow_le_pow_right (by decide) h
  rw [base_nanos, base_nanos]
  gcongr

/-! ## Variations -/

theorem scaled_mono {d e : Duration} {x y : Rat} (h : d.nanos * x ≤ e.nanos * y) :
    scaled d x ≤ scaled e y := by
  apply Int.toNat_le_toNat
  rw [Rat.le_floor_iff]
  exact (Rat.floor_le _).trans (by gcongr)

/-- A varied pause is at least three quarters and at most five quarters of it, up to the half of a
nanosecond. -/
theorem scaled_bounds (d : Duration) (jitter : Jitter) :
    3 * d.nanos ≤ 4 * scaled d jitter.factor + 2 ∧ 4 * scaled d jitter.factor ≤ 5 * d.nanos + 2 := by
  have hlower : d.nanos * (3 / 4 : Rat) ≤ d.nanos * jitter.factor := by
    gcongr
    exact jitter.lower
  have hupper : d.nanos * jitter.factor ≤ d.nanos * (5 / 4 : Rat) := by
    gcongr
    exact jitter.upper.le
  have hnanos : (0 : Rat) ≤ d.nanos := Nat.cast_nonneg _
  have hfloor : 0 ≤ (d.nanos * jitter.factor + 1 / 2).floor := by
    rw [Rat.le_floor_iff, Int.cast_zero]
    linarith
  have hscaled : (scaled d jitter.factor : Rat) = (d.nanos * jitter.factor + 1 / 2).floor := by
    rw [scaled, ← Int.cast_natCast, Int.toNat_of_nonneg hfloor]
  have hle := Rat.floor_le (d.nanos * jitter.factor + 1 / 2)
  have hlt := Rat.lt_floor (x := d.nanos * jitter.factor + 1 / 2)
  constructor
  · have hbound : (3 * d.nanos : Rat) ≤ 4 * scaled d jitter.factor + 2 := by linarith
    exact_mod_cast hbound
  · have hbound : (4 * scaled d jitter.factor : Rat) ≤ 5 * d.nanos + 2 := by linarith
    exact_mod_cast hbound

theorem backoff_nanos (p : RetryPolicy) (attempt : Nat) (jitter : Jitter) :
    (p.backoff attempt jitter).nanos =
      if scaled (p.base attempt) jitter.factor ≤ Duration.limit then
        scaled (p.base attempt) jitter.factor
      else (p.base attempt).nanos := by
  by_cases hle : scaled (p.base attempt) jitter.factor ≤ Duration.limit
  · simp [backoff, Duration.ofNanos?, hle]
  · simp [backoff, Duration.ofNanos?, hle]

theorem backoff_bounds (p : RetryPolicy) (attempt : Nat) (jitter : Jitter) :
    3 * (p.base attempt).nanos ≤ 4 * (p.backoff attempt jitter).nanos + 2 ∧
      4 * (p.backoff attempt jitter).nanos ≤ 5 * (p.base attempt).nanos + 2 := by
  have hbounds := scaled_bounds (p.base attempt) jitter
  rw [backoff_nanos]
  by_cases hle : scaled (p.base attempt) jitter.factor ≤ Duration.limit
  · rwa [if_pos hle]
  · rw [if_neg hle]
    omega

/-- Twice a pause is more than any variation makes of it, and one that any variation leaves of the next. -/
theorem backoff_le_backoff (p : RetryPolicy) (hab : a < b) (hb : b ≤ 31)
    (hfits : p.initialBackoff.nanos * 2 ^ b ≤ Duration.limit) (j k : Jitter) :
    (p.backoff a j).nanos ≤ (p.backoff b k).nanos := by
  have hdouble : 2 * (p.base a).nanos ≤ (p.base b).nanos := by
    have hpow : 2 ^ a * 2 ≤ 2 ^ b := by
      rw [← Nat.pow_succ]
      exact Nat.pow_le_pow_right (by decide) hab
    have hinitial := Nat.mul_le_mul_left p.initialBackoff.nanos hpow
    rw [← Nat.mul_assoc] at hinitial
    rw [base_nanos_of_le (by omega) (by omega), base_nanos_of_le hb hfits]
    omega
  have hscaled : scaled (p.base a) j.factor ≤ scaled (p.base b) k.factor := by
    apply scaled_mono
    calc ((p.base a).nanos * j.factor : Rat)
        ≤ (p.base a).nanos * (5 / 4) := by
          gcongr
          exact j.upper.le
      _ ≤ (2 * (p.base a).nanos) * (3 / 4) := by
          have hnanos : (0 : Rat) ≤ (p.base a).nanos := Nat.cast_nonneg _
          linarith
      _ ≤ (p.base b).nanos * k.factor := by
          gcongr
          · exact_mod_cast hdouble
          · exact k.lower
  have hbounds := scaled_bounds (p.base a) j
  have hlimit := (p.base b).nanos_le
  rw [backoff_nanos, backoff_nanos, if_pos (by omega)]
  by_cases hle : scaled (p.base b) k.factor ≤ Duration.limit
  · rwa [if_pos hle]
  · rw [if_neg hle]
    omega

/-- **Pauses stay within their limits.** For every first pause, be it the largest duration, and for every
attempt: in words the pause without variation comes out as it should, without any word that wraps around
or is too small. It is the first pause times two to the power of the attempt, of which no more than 32
bits count, up to the largest duration, and it never gets shorter with the attempts. A variation stays
within three quarters and five quarters of it, up to the half of a nanosecond, and within the durations;
beyond these the pause is not varied. As long as pauses are doubled exactly, no variation makes one
longer than any variation makes a later one. -/
theorem backoff_bounded (p : RetryPolicy) :
    (∀ attempt, (doubled attempt).toNat = min (2 ^ attempt) 4294967295 ∧
      ∃ base, p.initialBackoff.words.times? (doubled attempt) = some base ∧
        base.duration = p.base attempt) ∧
    (∀ attempt, (p.base attempt).nanos =
      min (p.initialBackoff.nanos * min (2 ^ attempt) 4294967295) Duration.limit) ∧
    (∀ a b, a ≤ b → (p.base a).nanos ≤ (p.base b).nanos) ∧
    (∀ attempt jitter, (p.backoff attempt jitter).nanos =
      if scaled (p.base attempt) jitter.factor ≤ Duration.limit then
        scaled (p.base attempt) jitter.factor
      else (p.base attempt).nanos) ∧
    (∀ attempt jitter, 3 * (p.base attempt).nanos ≤ 4 * (p.backoff attempt jitter).nanos + 2 ∧
      4 * (p.backoff attempt jitter).nanos ≤ 5 * (p.base attempt).nanos + 2 ∧
      (p.backoff attempt jitter).nanos ≤ Duration.limit) ∧
    (∀ a b j k, a < b → b ≤ 31 → p.initialBackoff.nanos * 2 ^ b ≤ Duration.limit →
      (p.backoff a j).nanos ≤ (p.backoff b k).nanos) := by
  refine ⟨?_, p.base_nanos, fun _ _ => p.base_mono, p.backoff_nanos, ?_,
    fun _ _ j k hab hb hfits => p.backoff_le_backoff hab hb hfits j k⟩
  · intro attempt
    refine ⟨by rw [toNat_doubled, doubling_eq], ?_⟩
    obtain ⟨base, htimes, hbase⟩ := p.initialBackoff.words.times?_eq (doubled attempt)
    rw [Duration.duration_words, toNat_doubled] at hbase
    exact ⟨base, htimes, hbase⟩
  · intro attempt jitter
    obtain ⟨hlower, hupper⟩ := p.backoff_bounds attempt jitter
    exact ⟨hlower, hupper, (p.backoff attempt jitter).nanos_le⟩

end RetryPolicy

end JitAccess
