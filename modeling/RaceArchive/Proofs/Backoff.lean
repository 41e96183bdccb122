import Mathlib
import RaceArchive.Proofs.Retries

/-!
# The backoff before a retry

The pause before retry number `n + 1` starts from the base backoff `b` and doubles `n` times, and
the maximum `M` replaces it once a doubling reaches it. The doubling is done on 64-bit
nanoseconds and compared only afterwards, so a doubling that leaves the 64-bit range wraps around,
lands below the maximum and goes on doubling from there.

The main statement is `backoff_is_clamped_doubling`: when every doubling the loop makes stays in
range (`Settings.DoublingsFit`), the pause is `min (b * 2 ^ n) M` over the integers, and the pauses
a request records are non-decreasing and lie between `b` and `M`. The range condition holds
whenever the maximum is below `2 ^ 62` nanoseconds, about 146 years (`doublingsFit_of_lt`).
Without it the loop wraps: with the default base of five seconds and the largest maximum, retry
32 pauses for a negative time.
-/

namespace RaceArchive.Remote

namespace Settings

variable (c : Settings)

/-- Every doubling the backoff loop makes stays within 64 bits: the first one, and each one from a
pause still below the maximum. -/
def DoublingsFit : Prop :=
  ∀ k : Nat, (k = 0 ∨ c.rateLimitBackoff.toInt * 2 ^ k < c.maxBackoff.toInt) →
    c.rateLimitBackoff.toInt * 2 ^ (k + 1) < 2 ^ 63

variable {c}

theorem toInt_double {d : Int64} {k : Nat} (hd : d.toInt = c.rateLimitBackoff.toInt * 2 ^ k)
    (hb : 0 < c.rateLimitBackoff.toInt) (hfit : c.rateLimitBackoff.toInt * 2 ^ (k + 1) < 2 ^ 63) :
    (d * 2).toInt = c.rateLimitBackoff.toInt * 2 ^ (k + 1) := by
  have hpos : 0 < c.rateLimitBackoff.toInt * 2 ^ (k + 1) := by positivity
  rw [Int64.toInt_mul, hd, show (2 : Int64).toInt = 2 from rfl, mul_assoc, ← pow_succ]
  exact Int.bmod_eq_of_le (by omega) (by omega)

/-- The loop from a pause `b * 2 ^ k` that it may still double: `n` more rounds give the
clamped doubling of `k + n` rounds. -/
theorem backoff_go (hb : 0 < c.rateLimitBackoff.toInt) (hfit : c.DoublingsFit) :
    ∀ (n k : Nat) (d : Int64), d.toInt = c.rateLimitBackoff.toInt * 2 ^ k →
      (k = 0 ∨ c.rateLimitBackoff.toInt * 2 ^ k < c.maxBackoff.toInt) →
      c.rateLimitBackoff.toInt ≤ c.maxBackoff.toInt →
      (backoff.go c d n).toInt = min (c.rateLimitBackoff.toInt * 2 ^ (k + n)) c.maxBackoff.toInt := by
  intro n
  induction n with
  | zero =>
    intro k d hd hk hbm
    -- a pause the loop may double is at most the maximum: the base, or one below it
    have hle : c.rateLimitBackoff.toInt * 2 ^ k ≤ c.maxBackoff.toInt := by
      rcases hk with rfl | hk
      · simpa using hbm
      · exact hk.le
    simp [backoff.go, hd, min_eq_left hle]
  | succ n ih =>
    intro k d hd hk hbm
    have hd2 := toInt_double hd hb (hfit k hk)
    have hgrow : c.rateLimitBackoff.toInt * 2 ^ (k + 1) ≤ c.rateLimitBackoff.toInt * 2 ^ (k + (n + 1)) :=
      mul_le_mul_of_nonneg_left (pow_le_pow_right₀ (by norm_num) (by omega)) hb.le
    simp only [backoff.go]
    split
    · next hge =>
      rw [ge_iff_le, Int64.le_iff_toInt_le, hd2] at hge
      rw [min_eq_right (hge.trans hgrow)]
    · next hlt =>
      rw [ge_iff_le, Int64.le_iff_toInt_le, hd2, not_le] at hlt
      rw [ih (k + 1) (d * 2) hd2 (.inr hlt) hbm, show k + 1 + n = k + (n + 1) by omega]

/-- The pause before retry `n + 1` is the base doubled `n` times, clamped to the maximum. -/
theorem backoff_eq_min (hb : 0 < c.rateLimitBackoff.toInt)
    (hbm : c.rateLimitBackoff.toInt ≤ c.maxBackoff.toInt) (hfit : c.DoublingsFit) (n : Nat) :
    (c.backoff n).toInt = min (c.rateLimitBackoff.toInt * 2 ^ n) c.maxBackoff.toInt := by
  simpa [backoff] using backoff_go hb hfit n 0 c.rateLimitBackoff (by simp) (.inl rfl) hbm

theorem backoff_mono (hb : 0 < c.rateLimitBackoff.toInt)
    (hbm : c.rateLimitBackoff.toInt ≤ c.maxBackoff.toInt) (hfit : c.DoublingsFit) {m n : Nat}
    (hmn : m ≤ n) : (c.backoff m).toInt ≤ (c.backoff n).toInt := by
  rw [backoff_eq_min hb hbm hfit, backoff_eq_min hb hbm hfit]
  exact min_le_min_right _
    (mul_le_mul_of_nonneg_left (pow_le_pow_right₀ (by norm_num) hmn) hb.le)

theorem backoff_mem_Icc (hb : 0 < c.rateLimitBackoff.toInt)
    (hbm : c.rateLimitBackoff.toInt ≤ c.maxBackoff.toInt) (hfit : c.DoublingsFit) (n : Nat) :
    c.rateLimitBackoff.toInt ≤ (c.backoff n).toInt ∧ (c.backoff n).toInt ≤ c.maxBackoff.toInt := by
  rw [backoff_eq_min hb hbm hfit]
  refine ⟨le_min ?_ hbm, min_le_right _ _⟩
  exact le_mul_of_one_le_right hb.le (one_le_pow₀ (by norm_num))

/-- With a maximum below `2 ^ 62` every doubling fits: a pause below the maximum doubles to less
than twice it. -/
theorem doublingsFit_of_lt (hbm : c.rateLimitBackoff.toInt ≤ c.maxBackoff.toInt)
    (hm : c.maxBackoff.toInt < 2 ^ 62) : c.DoublingsFit := by
  intro k hk
  rw [pow_succ, ← mul_assoc]
  rcases hk with rfl | hk
  · simp only [pow_zero, mul_one]
    omega
  · omega

end Settings

open Settings

/-- The backoff is the clamped doubling: when every doubling stays within 64 bits, the pause
before retry `n + 1` is `min (b * 2 ^ n) M` for the base `b` and the maximum `M`, and the pauses
any request records are non-decreasing and lie between `b` and `M`. -/
theorem backoff_is_clamped_doubling (c : Settings) (hb : 0 < c.rateLimitBackoff.toInt)
    (hbm : c.rateLimitBackoff.toInt ≤ c.maxBackoff.toInt) (hfit : c.DoublingsFit) :
    (∀ n : Nat, (c.backoff n).toInt = min (c.rateLimitBackoff.toInt * 2 ^ n) c.maxBackoff.toInt) ∧
    ∀ (url : String) (params : List (String × List String)) (w : Wire), w.session.settings = c →
      ∃ pauses : List Int64,
        ((getDocument url params).run w).2.pauses.toList = w.pauses.toList ++ pauses ∧
        pauses.Pairwise (fun p q => p.toInt ≤ q.toInt) ∧
        ∀ p ∈ pauses, c.rateLimitBackoff.toInt ≤ p.toInt ∧ p.toInt ≤ c.maxBackoff.toInt := by
  refine ⟨backoff_eq_min hb hbm hfit, fun url params w hs => ?_⟩
  obtain ⟨n, -, hmoved, -⟩ := getDocument_retry_law url params w
  rw [hs] at hmoved
  refine ⟨_, hmoved.pauses, ?_, ?_⟩
  · -- the pauses are the backoffs of retries `0` to `n - 1`, in order
    rw [List.pairwise_map]
    exact List.pairwise_lt_range.imp fun hij => backoff_mono hb hbm hfit (by omega)
  · simp only [List.mem_map, List.mem_range]
    rintro _ ⟨i, -, rfl⟩
    exact backoff_mem_Icc hb hbm hfit i

-- Past the range condition the doubling wraps: five seconds doubled 31 times leaves 64 bits.
example : ({ rateLimitBackoff := 5000000000, maxBackoff := 9223372036854775807 } : Settings).backoff 31
    = -7709325833709551616 := by decide

/-- The default base of five seconds with a maximum of a minute. -/
theorem backoff_is_clamped_doubling_defaults :
    let c : Settings := { rateLimitBackoff := 5000000000, maxBackoff := 60000000000 }
    (0 < c.rateLimitBackoff.toInt ∧ c.rateLimitBackoff.toInt ≤ c.maxBackoff.toInt ∧
      c.DoublingsFit) ∧
    ((∀ n : Nat, (c.backoff n).toInt = min (c.rateLimitBackoff.toInt * 2 ^ n) c.maxBackoff.toInt) ∧
    ∀ (url : String) (params : List (String × List String)) (w : Wire), w.session.settings = c →
      ∃ pauses : List Int64,
        ((getDocument url params).run w).2.pauses.toList = w.pauses.toList ++ pauses ∧
        pauses.Pairwise (fun p q => p.toInt ≤ q.toInt) ∧
        ∀ p ∈ pauses, c.rateLimitBackoff.toInt ≤ p.toInt ∧ p.toInt ≤ c.maxBackoff.toInt) := by
  intro c
  have hb : 0 < c.rateLimitBackoff.toInt := by decide
  have hbm : c.rateLimitBackoff.toInt ≤ c.maxBackoff.toInt := by decide
  have hfit : c.DoublingsFit := doublingsFit_of_lt hbm (by decide)
  exact ⟨⟨hb, hbm, hfit⟩, backoff_is_clamped_doubling c hb hbm hfit⟩

end RaceArchive.Remote
