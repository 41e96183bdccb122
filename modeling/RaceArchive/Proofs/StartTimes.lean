import Mathlib
import RaceArchive.Results.Rows
import RaceArchive.Proofs.CivilCalendar
import RaceArchive.Proofs.Octets

/-!
# Start times read back

A start time is twenty octets in the layout `YYYY-MM-DDTHH:MM:SSZ`. The layout takes exactly four
digits for the year and two for the month, day, minute and second, and one or two for the hour,
with a fraction of a second allowed after the seconds; at twenty octets neither a one-digit hour
nor a fraction fits, so the octets read are exactly the timestamp of the fields they give
(`eq_stampOctets_of_read`).

Main statement: `parseStartTime_stamp_round_trip`. An instant whose shown year has four digits
reads back from its timestamp, and every accepted start time is the timestamp of the instant it
reads as, so two accepted start times that read alike are the same octets.
-/

namespace RaceArchive.Civil

/-- A date and time that a UTC timestamp shows with a four-digit year: a year from 0 to 9999,
a day of its month and a time of day. -/
structure DateTime.FitsStamp (t : DateTime) : Prop where
  year_mem : 0 ≤ t.year ∧ t.year ≤ 9999
  month_mem : 1 ≤ t.month ∧ t.month ≤ 12
  day_mem : 1 ≤ t.day ∧ t.day ≤ daysIn t.month t.year
  hour_lt : t.hour < 24
  minute_lt : t.minute < 60
  second_lt : t.second < 60

end RaceArchive.Civil

namespace RaceArchive.Stamp

open Civil Utf8

/-! ## Decimal digits as octets -/

/-- The octets of the last `w` decimal digits of `n`, most significant first. -/
def decimalOctets : Nat → Nat → List UInt8
  | 0, _ => []
  | w + 1, n => decimalOctets w (n / 10) ++ [(0x30 + n % 10).toUInt8]

theorem length_decimalOctets (w n : Nat) : (decimalOctets w n).length = w := by
  induction w generalizing n with
  | zero => rfl
  | succ w ih => simp [decimalOctets, ih]

theorem isDigit_iff (a : UInt8) : isDigit a = true ↔ 48 ≤ a.toNat ∧ a.toNat ≤ 57 := by
  simp [isDigit, UInt8.le_iff_toNat_le]

theorem isDigit_octet {k : Nat} (hk : k < 10) : isDigit (0x30 + k).toUInt8 = true := by
  rw [isDigit_iff]
  simp only [Nat.toUInt8_eq, UInt8.toNat_ofNat']
  omega

theorem digit_octet {k : Nat} (hk : k < 10) : digit (0x30 + k).toUInt8 = k := by
  simp only [digit, Nat.toUInt8_eq, UInt8.toNat_ofNat']
  omega

theorem octet_digit {a : UInt8} (h : isDigit a = true) : (0x30 + digit a).toUInt8 = a := by
  rw [isDigit_iff] at h
  apply UInt8.toNat_inj.mp
  simp only [digit, Nat.toUInt8_eq, UInt8.toNat_ofNat']
  omega

theorem digit_lt {a : UInt8} (h : isDigit a = true) : digit a < 10 := by
  rw [isDigit_iff] at h
  simp only [digit]
  omega

theorem decimalOctets_four (n : Nat) :
    decimalOctets 4 n = [(0x30 + n / 1000 % 10).toUInt8, (0x30 + n / 100 % 10).toUInt8,
      (0x30 + n / 10 % 10).toUInt8, (0x30 + n % 10).toUInt8] := by
  simp [decimalOctets, Nat.div_div_eq_div_mul]

theorem decimalOctets_two (n : Nat) :
    decimalOctets 2 n = [(0x30 + n / 10 % 10).toUInt8, (0x30 + n % 10).toUInt8] := by
  simp [decimalOctets]

theorem takeNumber_decimalOctets (fixed : Bool) {n : Nat} (hn : n < 100) (rest : List UInt8) :
    takeNumber fixed (decimalOctets 2 n ++ rest) = some (n, rest) := by
  have h10 : ∀ k, k % 10 < 10 := fun k => Nat.mod_lt k (by norm_num)
  simp only [decimalOctets_two, List.cons_append, List.nil_append, takeNumber, isDigit_octet (h10 _),
    if_true, digit_octet (h10 _)]
  congr 2
  omega

theorem decimalOctets_two_digits {a b : UInt8} (ha : isDigit a = true) (hb : isDigit b = true) :
    digit a * 10 + digit b < 100 ∧ decimalOctets 2 (digit a * 10 + digit b) = [a, b] := by
  have := digit_lt ha
  have := digit_lt hb
  have htens : (digit a * 10 + digit b) / 10 % 10 = digit a := by omega
  have hunits : (digit a * 10 + digit b) % 10 = digit b := by omega
  refine ⟨by omega, ?_⟩
  rw [decimalOctets_two, htens, hunits, octet_digit ha, octet_digit hb]

theorem takeNumber_true_eq_some {v rest : List UInt8} {n : Nat} :
    takeNumber true v = some (n, rest) ↔ n < 100 ∧ v = decimalOctets 2 n ++ rest := by
  constructor
  · intro h
    match v, h with
    | a :: b :: rest', h =>
      simp only [takeNumber] at h
      split at h
      · split at h
        · next ha hb =>
          cases h
          obtain ⟨hn, hoct⟩ := decimalOctets_two_digits ha hb
          exact ⟨hn, by rw [hoct]; rfl⟩
        · simp at h
      · simp at h
    | [a], h => simp [takeNumber] at h
  · rintro ⟨hn, rfl⟩
    exact takeNumber_decimalOctets true hn rest

/-- An hour takes two digits, or one when no digit follows it. -/
theorem takeNumber_false_eq_some {v rest : List UInt8} {n : Nat}
    (h : takeNumber false v = some (n, rest)) :
    n < 100 ∧ v = decimalOctets 2 n ++ rest ∨ n < 10 ∧ v = decimalOctets 1 n ++ rest := by
  match v, h with
  | a :: b :: rest', h =>
    simp only [takeNumber] at h
    split at h
    · next ha =>
      split at h
      · next hb =>
        cases h
        obtain ⟨hn, hoct⟩ := decimalOctets_two_digits ha hb
        exact .inl ⟨hn, by rw [hoct]; rfl⟩
      · cases h
        refine .inr ⟨digit_lt ha, ?_⟩
        simp [decimalOctets, Nat.mod_eq_of_lt (digit_lt ha), octet_digit ha]
    · simp at h
  | [a], h =>
    simp only [takeNumber] at h
    split at h
    · next ha =>
      cases h
      have ha : isDigit a = true := by simpa using ha
      refine .inr ⟨digit_lt ha, ?_⟩
      simp [decimalOctets, Nat.mod_eq_of_lt (digit_lt ha), octet_digit ha]
    · simp at h

/-- Skipping a fraction leaves the text as it is or takes at least two octets off it. -/
theorem skipFraction_eq_or (v : List UInt8) :
    skipFraction v = v ∨ (skipFraction v).length + 2 ≤ v.length := by
  match v with
  | sep :: d :: rest =>
    simp only [skipFraction]
    split
    · right
      have := List.length_dropWhile_le isDigit rest
      simp only [List.length_cons]
      omega
    · left; rfl
  | [] | [_] => left; rfl

/-! ## Rendering -/

theorem decimalOctets_zero (w : Nat) : decimalOctets w 0 = List.replicate w 0x30 := by
  induction w with
  | zero => rfl
  | succ w ih => simp [decimalOctets, ih, List.replicate_succ']

theorem encode_digitChar {k : Nat} (hk : k < 10) :
    String.utf8EncodeChar (Nat.digitChar k) = [(0x30 + k).toUInt8] := by
  interval_cases k <;> rfl

theorem toDigits_of_ge {n : Nat} (hn : 10 ≤ n) :
    Nat.toDigits 10 n = Nat.toDigits 10 (n / 10) ++ [Nat.digitChar (n % 10)] := by
  rw [← Nat.toDigits_of_lt_base (Nat.mod_lt n (by norm_num : 10 > 0)),
    Nat.toDigits_append_toDigits (by norm_num) (by omega) (Nat.mod_lt _ (by norm_num)),
    Nat.div_add_mod]

/-- Zeros in front of the digits of `n` up to `w` octets give the last `w` digits of `n`. -/
theorem replicate_append_toDigits {w n : Nat} (hn : n < 10 ^ w)
    (hlen : (Nat.toDigits 10 n).length ≤ w) :
    List.replicate (w - (Nat.toDigits 10 n).length) 0x30 ++
      (Nat.toDigits 10 n).flatMap String.utf8EncodeChar = decimalOctets w n := by
  induction w generalizing n with
  | zero =>
    have : n = 0 := by simpa using hn
    subst this
    simp at hlen
  | succ w ih =>
    by_cases hsmall : n < 10
    · rw [Nat.toDigits_of_lt_base hsmall]
      simp [encode_digitChar hsmall, decimalOctets, Nat.div_eq_of_lt hsmall, decimalOctets_zero,
        Nat.mod_eq_of_lt hsmall]
    · -- the last digit comes off the number and off the octets alike
      rw [toDigits_of_ge (by omega)] at hlen ⊢
      rw [List.length_append, List.length_singleton] at hlen
      have hq : n / 10 < 10 ^ w := by rw [pow_succ] at hn; omega
      rw [List.flatMap_append, List.length_append, List.length_singleton,
        show w + 1 - ((Nat.toDigits 10 (n / 10)).length + 1) =
          w - (Nat.toDigits 10 (n / 10)).length by omega,
        ← List.append_assoc, ih hq (by omega)]
      simp [decimalOctets, encode_digitChar (Nat.mod_lt n (by norm_num : 10 > 0))]

theorem flatMap_replicate_zero (k : Nat) :
    (List.replicate k '0').flatMap String.utf8EncodeChar = List.replicate k 0x30 := by
  induction k with
  | zero => rfl
  | succ k ih => rw [List.replicate_succ, List.flatMap_cons, ih]; rfl

theorem octetsOf_padded {w n : Nat} (hw : 0 < w) (hn : n < 10 ^ w) :
    octetsOf (padded w n) = decimalOctets w n := by
  rw [padded, octetsOf_ofList, List.flatMap_append, flatMap_replicate_zero]
  exact replicate_append_toDigits hn (Nat.toDigits_length 10 n w hw hn)

/-- The octets of the timestamp `YYYY-MM-DDTHH:MM:SSZ`, four digits for the year. -/
def stampOctets (t : DateTime) : List UInt8 :=
  decimalOctets 4 t.year.toNat ++ 0x2D :: decimalOctets 2 t.month ++ 0x2D :: decimalOctets 2 t.day ++
    0x54 :: decimalOctets 2 t.hour ++ 0x3A :: decimalOctets 2 t.minute ++ 0x3A ::
    decimalOctets 2 t.second ++ [0x5A]

theorem length_stampOctets (t : DateTime) : (stampOctets t).length = 20 := by
  simp [stampOctets, length_decimalOctets]

/-- The timestamp of a date and time with a four-digit year, as octets. -/
theorem octetsOf_stamp {t : DateTime} (ht : t.FitsStamp) : octetsOf t.stamp = stampOctets t := by
  obtain ⟨hy, hm, hd, hh, hmin, hs⟩ := ht
  have hdays := daysIn_le t.month t.year
  have h2 : ∀ n, n < 100 → octetsOf (padded 2 n) = decimalOctets 2 n :=
    fun n hn => octetsOf_padded (by norm_num) (by norm_num; omega)
  have h4 : octetsOf (padded 4 t.year.natAbs) = decimalOctets 4 t.year.toNat := by
    rw [show t.year.natAbs = t.year.toNat by omega]
    exact octetsOf_padded (by norm_num) (by norm_num; omega)
  have hdash : octetsOf "-" = [0x2D] := by rw [octetsOf, String.toUTF8, toList_eq_data]; rfl
  have hT : octetsOf "T" = [0x54] := by rw [octetsOf, String.toUTF8, toList_eq_data]; rfl
  have hcolon : octetsOf ":" = [0x3A] := by rw [octetsOf, String.toUTF8, toList_eq_data]; rfl
  have hZ : octetsOf "Z" = [0x5A] := by rw [octetsOf, String.toUTF8, toList_eq_data]; rfl
  have hnone : octetsOf "" = [] := by rw [octetsOf, String.toUTF8, toList_eq_data]; rfl
  simp only [DateTime.stamp, DateTime.dateText, yearText, if_neg (show ¬ t.year < 0 by omega),
    octetsOf_append, hnone, h4, hdash, hT, hcolon, hZ, h2 _ (show t.month < 100 by omega),
    h2 _ (show t.day < 100 by omega), h2 _ (show t.hour < 100 by omega),
    h2 _ (show t.minute < 100 by omega), h2 _ (show t.second < 100 by omega)]
  simp [stampOctets]

/-! ## Reading, one piece at a time -/

section Pieces

variable {ps : List Piece} {v : List UInt8} {f : Fields} {r : Fields × List UInt8}

-- the lemmas of this section take the reader apart one piece at a time
attribute [local simp] readPieces

theorem readPieces_literal_ok {c : UInt8} :
    readPieces (.literal c :: ps) v f = .ok r ↔ ∃ rest, v = c :: rest ∧ readPieces ps rest f = .ok r := by
  cases v with
  | nil => simp
  | cons x rest =>
    simp only [readPieces]
    split <;> simp_all

theorem readPieces_month_ok :
    readPieces (.month :: ps) v f = .ok r ↔ ∃ n rest, takeNumber true v = some (n, rest) ∧
      1 ≤ n ∧ n ≤ 12 ∧ readPieces ps rest { f with month := n } = .ok r := by
  simp only [readPieces]
  split
  · next n rest h =>
    split <;> simp_all <;> omega
  · next h => simp_all

theorem readPieces_day_ok :
    readPieces (.day :: ps) v f = .ok r ↔ ∃ n rest, takeNumber true v = some (n, rest) ∧
      readPieces ps rest { f with day := n } = .ok r := by
  simp only [readPieces]
  split <;> simp_all

theorem readPieces_hour_ok :
    readPieces (.hour :: ps) v f = .ok r ↔ ∃ n rest, takeNumber false v = some (n, rest) ∧
      n < 24 ∧ readPieces ps rest { f with hour := n } = .ok r := by
  simp only [readPieces]
  split
  · split <;> simp_all
  · simp_all

theorem readPieces_minute_ok :
    readPieces (.minute :: ps) v f = .ok r ↔ ∃ n rest, takeNumber true v = some (n, rest) ∧
      n < 60 ∧ readPieces ps rest { f with minute := n } = .ok r := by
  simp only [readPieces]
  split
  · split <;> simp_all
  · simp_all

theorem readPieces_second_ok :
    readPieces (.second :: ps) v f = .ok r ↔ ∃ n rest, takeNumber true v = some (n, rest) ∧
      n < 60 ∧ readPieces ps (skipFraction rest) { f with second := n } = .ok r := by
  simp only [readPieces]
  split
  · split <;> simp_all
  · simp_all
theorem readPieces_year_ok :
    readPieces (.year :: ps) v f = .ok r ↔ ∃ y rest, y < 10000 ∧ v = decimalOctets 4 y ++ rest ∧
      readPieces ps rest { f with year := y } = .ok r := by
  constructor
  · intro h
    match v, h with
    | a :: b :: c :: d :: rest, h =>
      simp only [readPieces] at h
      split at h
      · next hall =>
        simp only [List.all_cons, List.all_nil, Bool.and_true, Bool.and_eq_true] at hall
        obtain ⟨ha, hb, hc, hd⟩ := hall
        have := digit_lt ha; have := digit_lt hb; have := digit_lt hc; have := digit_lt hd
        refine ⟨digit a * 1000 + digit b * 100 + digit c * 10 + digit d, rest, by omega, ?_, ?_⟩
        · rw [decimalOctets_four]
          rw [show (digit a * 1000 + digit b * 100 + digit c * 10 + digit d) / 1000 % 10 = digit a by omega,
            show (digit a * 1000 + digit b * 100 + digit c * 10 + digit d) / 100 % 10 = digit b by omega,
            show (digit a * 1000 + digit b * 100 + digit c * 10 + digit d) / 10 % 10 = digit c by omega,
            show (digit a * 1000 + digit b * 100 + digit c * 10 + digit d) % 10 = digit d by omega,
            octet_digit ha, octet_digit hb, octet_digit hc, octet_digit hd]
          rfl
        · push_cast; exact h
      · simp at h
    | [], h | [_], h | [_, _], h | [_, _, _], h => simp at h
  · rintro ⟨y, rest, hy, rfl, h⟩
    have h10 : ∀ k, k % 10 < 10 := fun k => Nat.mod_lt k (by norm_num)
    simp only [decimalOctets_four, List.cons_append, List.nil_append, readPieces, List.all_cons,
      List.all_nil, isDigit_octet (h10 _), Bool.and_self, if_true, digit_octet (h10 _)]
    rw [← h]
    congr 3
    omega

end Pieces

/-! ## The timestamp layout -/

/-- The octets of the timestamp of a date and time read as its fields. -/
theorem readPieces_stampOctets {t : DateTime} (ht : t.FitsStamp) :
    readPieces utcLayout (stampOctets t) {} =
      .ok (⟨t.year, t.month, t.day, t.hour, t.minute, t.second⟩, []) := by
  obtain ⟨hy, hm, hd, hh, hmin, hs⟩ := ht
  have hdays := daysIn_le t.month t.year
  simp only [utcLayout, stampOctets, List.append_assoc, List.cons_append]
  refine readPieces_year_ok.2 ⟨t.year.toNat, _, by omega, rfl, ?_⟩
  refine readPieces_literal_ok.2 ⟨_, rfl, ?_⟩
  refine readPieces_month_ok.2 ⟨t.month, _, takeNumber_decimalOctets true (by omega) _, hm.1, hm.2, ?_⟩
  refine readPieces_literal_ok.2 ⟨_, rfl, ?_⟩
  refine readPieces_day_ok.2 ⟨t.day, _, takeNumber_decimalOctets true (by omega) _, ?_⟩
  refine readPieces_literal_ok.2 ⟨_, rfl, ?_⟩
  refine readPieces_hour_ok.2 ⟨t.hour, _, takeNumber_decimalOctets false (by omega) _, hh, ?_⟩
  refine readPieces_literal_ok.2 ⟨_, rfl, ?_⟩
  refine readPieces_minute_ok.2 ⟨t.minute, _, takeNumber_decimalOctets true (by omega) _, hmin, ?_⟩
  refine readPieces_literal_ok.2 ⟨_, rfl, ?_⟩
  refine readPieces_second_ok.2 ⟨t.second, _, takeNumber_decimalOctets true (by omega) _, hs, ?_⟩
  -- no fraction follows the seconds, only the closing `Z`
  refine readPieces_literal_ok.2 ⟨[], rfl, ?_⟩
  simp only [readPieces, Except.ok.injEq, Prod.mk.injEq, and_true]
  rw [Int.toNat_of_nonneg hy.1]

/-- Twenty octets that read against the timestamp layout with nothing left over are the
timestamp of the fields they give: the year takes four digits and the other numbers two each,
since a one-digit hour or a fraction after the seconds changes the length. -/
theorem eq_stampOctets_of_readPieces {s : List UInt8} {f : Fields}
    (h : readPieces utcLayout s {} = .ok (f, [])) (hs : s.length = 20) :
    (0 ≤ f.year ∧ f.year ≤ 9999) ∧ (1 ≤ f.month ∧ f.month ≤ 12) ∧ f.hour < 24 ∧ f.minute < 60 ∧
      f.second < 60 ∧ s = stampOctets ⟨f.year, f.month, f.day, f.hour, f.minute, f.second⟩ := by
  simp only [utcLayout] at h
  obtain ⟨y, r₁, hy, rfl, h₁⟩ := readPieces_year_ok.1 h
  obtain ⟨r₂, rfl, h₂⟩ := readPieces_literal_ok.1 h₁
  obtain ⟨mo, r₃, hmo, hm₁, hm₂, h₃⟩ := readPieces_month_ok.1 h₂
  obtain ⟨-, rfl⟩ := takeNumber_true_eq_some.1 hmo
  obtain ⟨r₄, rfl, h₄⟩ := readPieces_literal_ok.1 h₃
  obtain ⟨d, r₅, hdn, h₅⟩ := readPieces_day_ok.1 h₄
  obtain ⟨-, rfl⟩ := takeNumber_true_eq_some.1 hdn
  obtain ⟨r₆, rfl, h₆⟩ := readPieces_literal_ok.1 h₅
  obtain ⟨hr, r₇, hhn, hh, h₇⟩ := readPieces_hour_ok.1 h₆
  obtain ⟨r₈, rfl, h₈⟩ := readPieces_literal_ok.1 h₇
  obtain ⟨mi, r₉, hmin, hmi, h₉⟩ := readPieces_minute_ok.1 h₈
  obtain ⟨-, rfl⟩ := takeNumber_true_eq_some.1 hmin
  obtain ⟨r₁₀, rfl, h₁₀⟩ := readPieces_literal_ok.1 h₉
  obtain ⟨se, r₁₁, hsn, hse, h₁₁⟩ := readPieces_second_ok.1 h₁₀
  obtain ⟨-, rfl⟩ := takeNumber_true_eq_some.1 hsn
  obtain ⟨r₁₂, hz, h₁₂⟩ := readPieces_literal_ok.1 h₁₁
  simp only [readPieces, Except.ok.injEq, Prod.mk.injEq] at h₁₂
  obtain ⟨rfl, rfl⟩ := h₁₂
  -- at twenty octets the hour has two digits and no fraction follows the seconds
  have hfrac := skipFraction_eq_or r₁₁
  rcases takeNumber_false_eq_some hhn with ⟨-, rfl⟩ | ⟨-, rfl⟩
  · rcases hfrac with heq | hlen
    · rw [heq] at hz
      subst hz
      dsimp only
      refine ⟨⟨by omega, by omega⟩, ⟨hm₁, hm₂⟩, hh, hmi, hse, ?_⟩
      simp [stampOctets]
    · rw [hz] at hlen
      simp [length_decimalOctets] at hs hlen
      omega
  · rcases hfrac with heq | hlen
    · rw [heq] at hz
      subst hz
      simp [length_decimalOctets] at hs
    · rw [hz] at hlen
      simp [length_decimalOctets] at hs hlen
      omega

theorem read_stampOctets {t : DateTime} (ht : t.FitsStamp) :
    read utcLayout (stampOctets t) = .ok t.toUnix := by
  have hd := ht.day_mem
  rw [read, readPieces_stampOctets ht]
  simp only [List.isEmpty_nil]
  rw [if_neg (show ¬(t.day = 0 ∨ t.day > daysIn t.month t.year) by omega)]
  rfl

/-- Twenty octets that read as an instant are the timestamp of a date and time of that instant. -/
theorem eq_stampOctets_of_read {s : List UInt8} {u : Int} (hs : s.length = 20)
    (h : read utcLayout s = .ok u) :
    ∃ t : DateTime, t.FitsStamp ∧ s = stampOctets t ∧ u = t.toUnix := by
  unfold read at h
  split at h
  · cases h
  · next f rest hread =>
    split at h
    · cases h
    · next hrest =>
      split at h
      · cases h
      · next hday =>
        cases h
        have hnil : rest = [] := by simpa using hrest
        subst hnil
        obtain ⟨hy, hm, hh, hmin, hsec, rfl⟩ := eq_stampOctets_of_readPieces hread hs
        refine ⟨_, ⟨hy, hm, ?_, hh, hmin, hsec⟩, rfl, rfl⟩
        show 1 ≤ f.day ∧ f.day ≤ daysIn f.month f.year
        omega

end RaceArchive.Stamp

namespace RaceArchive.Results

open Civil Stamp Utf8

theorem parseStartTime_eq_ok {s : Octets} {u : Int} :
    parseStartTime s = .ok u ↔ s.length = 20 ∧ read utcLayout s = .ok u := by
  unfold parseStartTime startTimeLayout
  split
  · simp_all
  · split <;> simp_all

theorem parseStartTime_octetsOf_stamp {t : Int} (ht : -Nat.pow 2 63 ≤ t)
    (hy : 0 ≤ (ofUnix t).year ∧ (ofUnix t).year ≤ 9999) :
    parseStartTime (octetsOf (ofUnix t).stamp) = .ok t := by
  obtain ⟨hm, hd, hh, hmin, hsec⟩ := ofUnix_valid t
  have hfit : (ofUnix t).FitsStamp := ⟨hy, hm, hd, hh, hmin, hsec⟩
  rw [octetsOf_stamp hfit, parseStartTime_eq_ok, read_stampOctets hfit,
    toUnix_ofUnix (shownInstant_of_year_le ht hy.2)]
  exact ⟨length_stampOctets _, rfl⟩

theorem octetsOf_stamp_of_parseStartTime {s : Octets} {u : Int} (h : parseStartTime s = .ok u) :
    octetsOf (ofUnix u).stamp = s := by
  obtain ⟨hs, hread⟩ := parseStartTime_eq_ok.1 h
  obtain ⟨t, ht, rfl, rfl⟩ := eq_stampOctets_of_read hs hread
  rw [ofUnix_toUnix ht.year_mem.1 ht.month_mem ht.day_mem ht.hour_lt ht.minute_lt ht.second_lt,
    octetsOf_stamp ht]

/-- Start times and the timestamps of instants are one format read both ways: every 64-bit
instant whose shown year has four digits reads back from its timestamp, every accepted start time
is the timestamp of the instant it reads as, and so two accepted start times that read as the same
instant are the same octets. -/
theorem parseStartTime_stamp_round_trip :
    (∀ t : Int64, 0 ≤ (ofUnix t.toInt).year → (ofUnix t.toInt).year ≤ 9999 →
      parseStartTime (octetsOf (ofUnix t.toInt).stamp) = .ok t.toInt) ∧
    (∀ (s : Octets) (u : Int), parseStartTime s = .ok u → octetsOf (ofUnix u).stamp = s) ∧
    (∀ (s₁ s₂ : Octets) (u : Int), parseStartTime s₁ = .ok u → parseStartTime s₂ = .ok u →
      s₁ = s₂) := by
  refine ⟨fun t hy₀ hy₁ => ?_, fun s u h => octetsOf_stamp_of_parseStartTime h,
    fun s₁ s₂ u h₁ h₂ => ?_⟩
  · have hlow : -Nat.pow 2 63 ≤ t.toInt := by
      have := Int64.le_toInt t
      simp only [Nat.pow_eq]
      omega
    exact parseStartTime_octetsOf_stamp hlow ⟨hy₀, hy₁⟩
  · rw [← octetsOf_stamp_of_parseStartTime h₁, octetsOf_stamp_of_parseStartTime h₂]

end RaceArchive.Results
