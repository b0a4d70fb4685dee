import Novel.Time.Rfc3339

/-!
# Reading back the text of an instant

An instant written in RFC 3339 reads back as the same instant, for every instant a clock can
show whose date lies in the calendar's range: its second lies within its day, and its
nanoseconds stay below a second except in a leap second, the last second of a minute.

Two things carry this. The calendar: the date of a day count is a real date (its day lies
within its month, the 29th of February within a leap year) and counts back to the same day.
These are facts of integer division, and `omega` proves them once the day of an era is cut into
centuries of 36524 days and four-year cycles of 1461 days. And the digits: a number padded to
`w` places is read back whole by a reader of up to `w` digits, and stops there. A year outside
0 to 9999 is written with its sign, and after a sign the reader takes every digit up to the dash.
-/

namespace Novel

theorem except_ok_bind {ε α β : Type} (a : α) (f : α → Except ε β) :
    (Except.ok a >>= f) = f a := rfl

theorem except_pure {ε α : Type} (a : α) : (pure a : Except ε α) = .ok a := rfl

@[simp] theorem except_map_ok {ε α β : Type} (f : α → β) (a : α) :
    (f <$> (Except.ok a : Except ε α)) = .ok (f a) := rfl

end Novel

namespace Novel.Time

/-! ## The calendar -/

/-- Within an era: the year of a day, counted from March, and the day within that year. -/
theorem era_year_facts {doe yoe : Int} (h0 : 0 ≤ doe) (h1 : doe ≤ 146096)
    (hyoe : (doe - doe / 1460 + doe / 36524 - doe / 146096) / 365 = yoe) :
    0 ≤ yoe ∧ yoe ≤ 399 ∧ 365 * yoe + yoe / 4 - yoe / 100 ≤ doe ∧
      doe - (365 * yoe + yoe / 4 - yoe / 100) ≤ 365 ∧
      (doe - (365 * yoe + yoe / 4 - yoe / 100) = 365 →
        (yoe + 1) % 4 = 0 ∧ ((yoe + 1) % 100 ≠ 0 ∨ yoe = 399)) := by
  by_cases hlast : doe = 146096
  · -- the last day of an era is the leap day of its 400th year
    subst hlast
    have : yoe = 399 := by omega
    subst this
    omega
  -- centuries of 36524 days, then four-year cycles of 1461 days
  obtain ⟨c, m, hdoe, hc0, hc1, hm0, hm1⟩ :
      ∃ c m, doe = 36524 * c + m ∧ 0 ≤ c ∧ c ≤ 3 ∧ 0 ≤ m ∧ m < 36524 :=
    ⟨doe / 36524, doe % 36524, by omega, by omega, by omega, by omega, by omega⟩
  obtain ⟨k, r, hm, hk0, hk1, hr0, hr1⟩ :
      ∃ k r, m = 1461 * k + r ∧ 0 ≤ k ∧ k ≤ 24 ∧ 0 ≤ r ∧ r < 1461 :=
    ⟨m / 1461, m % 1461, by omega, by omega, by omega, by omega, by omega⟩
  have hc : doe / 36524 = c := by omega
  have hz : doe / 146096 = 0 := by omega
  have h1460 : doe / 1460 = 25 * c + k + (24 * c + k + r) / 1460 := by omega
  have hy : yoe = 100 * c + 4 * k + (r - (24 * c + k + r) / 1460) / 365 := by
    rw [← hyoe, hc, hz, h1460]
    omega
  have h4 : yoe / 4 = 25 * c + k := by omega
  have h100 : yoe / 100 = c := by omega
  -- past day 1460 - 24 * c - k of a cycle, the count of 1460-day blocks is one more
  have hq : (24 * c + k + r) / 1460 = 0 ∨ (24 * c + k + r) / 1460 = 1 := by omega
  rcases hq with hq | hq
  · have hy' : yoe = 100 * c + 4 * k + r / 365 := by
      rw [hq, Int.sub_zero] at hy
      exact hy
    omega
  · -- only the cycle's last year reaches so far, and its last day is the leap day
    have h3 : (r - 1) / 365 = 3 := by omega
    have hy' : yoe = 100 * c + 4 * k + 3 := by
      rw [hq, h3] at hy
      exact hy
    omega

/-- Within a year counted from March: the month and the day of a day of the year. -/
theorem year_day_facts {doy mp : Int} (h0 : 0 ≤ doy) (h1 : doy ≤ 365)
    (hmp : (5 * doy + 2) / 153 = mp) :
    0 ≤ mp ∧ mp ≤ 11 ∧ 1 ≤ doy - (153 * mp + 2) / 5 + 1 ∧
      doy - (153 * mp + 2) / 5 + 1 ≤ 31 ∧
      ((mp = 1 ∨ mp = 3 ∨ mp = 6 ∨ mp = 8) → doy - (153 * mp + 2) / 5 + 1 ≤ 30) ∧
      (mp = 11 → doy - (153 * mp + 2) / 5 + 1 ≤ 28 ∨ doy = 365) := by
  have hmp0 : 0 ≤ mp := by omega
  have hmp1 : mp ≤ 11 := by omega
  have : mp = 0 ∨ mp = 1 ∨ mp = 2 ∨ mp = 3 ∨ mp = 4 ∨ mp = 5 ∨ mp = 6 ∨ mp = 7 ∨ mp = 8 ∨
      mp = 9 ∨ mp = 10 ∨ mp = 11 := by omega
  rcases this with h | h | h | h | h | h | h | h | h | h | h | h <;> subst h <;> omega

/-- The date of a day count, through the era, the day of the era, the year of the era (from
March), the day of that year and its month (from March). -/
theorem Date.ofDays_parts (z : Int) :
    ∃ era doe yoe doy mp, (z + 719468) / 146097 = era ∧ z + 719468 - era * 146097 = doe ∧
      (doe - doe / 1460 + doe / 36524 - doe / 146096) / 365 = yoe ∧
      doe - (365 * yoe + yoe / 4 - yoe / 100) = doy ∧ (5 * doy + 2) / 153 = mp ∧
      Date.ofDays z =
        { year := yoe + era * 400 + (if (if mp < 10 then mp + 3 else mp - 9) ≤ 2 then 1 else 0),
          month := (if mp < 10 then mp + 3 else mp - 9).toNat,
          day := (doy - (153 * mp + 2) / 5 + 1).toNat } :=
  ⟨_, _, _, _, _, rfl, rfl, rfl, rfl, rfl, rfl⟩

/-- The day count of a date, given the year of its era counted from March and its month counted
from March. -/
theorem Date.toDays_of_parts (d : Date) {era yoe mp : Int} (hyoe0 : 0 ≤ yoe) (hyoe1 : yoe ≤ 399)
    (hy : (if d.month ≤ 2 then d.year - 1 else d.year) = yoe + era * 400)
    (hmp : (if d.month > 2 then (d.month : Int) - 3 else (d.month : Int) + 9) = mp) :
    d.toDays = era * 146097 + (yoe * 365 + yoe / 4 - yoe / 100 + ((153 * mp + 2) / 5 + d.day - 1)) -
      719468 := by
  simp only [Date.toDays, hy, hmp]
  have hera : (yoe + era * 400) / 400 = era := by omega
  rw [hera]
  omega

theorem Date.toDays_ofDays (z : Int) : (Date.ofDays z).toDays = z := by
  obtain ⟨era, doe, yoe, doy, mp, hera, hdoe, hyoe, hdoy, hmp, hdate⟩ := Date.ofDays_parts z
  obtain ⟨hy0, hy1, hs0, hs1, -⟩ := era_year_facts (by omega) (by omega) hyoe
  obtain ⟨hm0, hm1, hd0, -⟩ := year_day_facts (by omega) (by omega) hmp
  rw [hdate]
  -- January and February belong to the year counted from the March before them
  rw [@Date.toDays_of_parts _ era yoe mp hy0 hy1
    (by dsimp only; split <;> split <;> split <;> omega) (by dsimp only; split <;> split <;> omega)]
  dsimp only
  omega

theorem isLeapYear_iff (y : Int) :
    isLeapYear y = true ↔ y % 4 = 0 ∧ (y % 100 ≠ 0 ∨ y % 400 = 0) := by
  simp [isLeapYear]

/-- February has 28 or 29 days, April, June, September and November 30, the others 31. -/
theorem daysInMonth_cases (y : Int) (m : Nat) :
    (m = 2 ∧ daysInMonth y m = if isLeapYear y then 29 else 28) ∨
      ((m = 4 ∨ m = 6 ∨ m = 9 ∨ m = 11) ∧ daysInMonth y m = 30) ∨
      (m ≠ 2 ∧ m ≠ 4 ∧ m ≠ 6 ∧ m ≠ 9 ∧ m ≠ 11 ∧ daysInMonth y m = 31) := by
  unfold daysInMonth
  split <;> simp_all

theorem Date.valid_ofDays (z : Int) : (Date.ofDays z).valid = true := by
  obtain ⟨era, doe, yoe, doy, mp, hera, hdoe, hyoe, hdoy, hmp, hdate⟩ := Date.ofDays_parts z
  obtain ⟨hy0, hy1, hs0, hs1, hleap⟩ := era_year_facts (by omega) (by omega) hyoe
  obtain ⟨hm0, hm1, hd0, hd31, hd30, hfeb⟩ := year_day_facts (by omega) (by omega) hmp
  rw [hdate]
  simp only [Date.valid, Bool.and_eq_true, decide_eq_true_eq]
  generalize hM : (if mp < 10 then mp + 3 else mp - 9) = M
  have hMmp : M = mp + 3 ∧ mp < 10 ∨ M = mp - 9 ∧ 10 ≤ mp := by
    rw [← hM]
    split <;> omega
  refine ⟨⟨⟨by omega, by omega⟩, by omega⟩, ?_⟩
  rcases daysInMonth_cases (yoe + era * 400 + if M ≤ 2 then 1 else 0) M.toNat with
    ⟨h2, hdays⟩ | ⟨h30, hdays⟩ | ⟨-, -, -, -, -, hdays⟩ <;> rw [hdays]
  · -- February: its 29th day is the last day of a year counted from March, a leap year
    have hM2 : M ≤ 2 := by omega
    simp only [hM2, if_true]
    by_cases hl : isLeapYear (yoe + era * 400 + 1) = true
    · rw [if_pos hl]
      omega
    · rw [if_neg hl]
      rw [isLeapYear_iff] at hl
      omega
  · omega
  · omega

/-! ## Runs of digits -/

theorem isDigit_toNat {c : Char} (h : c.isDigit = true) : 48 ≤ c.toNat ∧ c.toNat ≤ 57 :=
  Char.isDigit_iff_toNat.1 h

theorem le_ofDigitChars (cs : List Char) (acc : Nat) : acc ≤ Nat.ofDigitChars 10 cs acc := by
  rw [Nat.ofDigitChars_eq_ofDigitChars_zero]
  have : 1 ≤ 10 ^ cs.length := Nat.one_le_pow _ _ (by decide)
  have := Nat.le_mul_of_pos_left acc this
  omega

/-- A run of digits is read whole while the count allows it, and reading stops where the count
is reached or the digits end. -/
theorem digits_go_run (hi : Nat) (cs rest : List Char) (count acc : Nat)
    (hdig : ∀ c ∈ cs, c.isDigit = true) (hlen : count + cs.length ≤ hi)
    (hstop : count + cs.length = hi ∨ ∀ c ∈ rest.head?, c.isDigit = false)
    (hsmall : Nat.ofDigitChars 10 cs acc < Nat.pow 2 63) :
    digits.go hi count acc (cs ++ rest) = .ok (Nat.ofDigitChars 10 cs acc, rest) := by
  induction cs generalizing count acc with
  | nil =>
    cases rest with
    | nil => simp [digits.go]
    | cons c rest =>
      have hc : ¬ (count < hi ∧ c.isDigit = true) := by
        rcases hstop with h | h
        · simp at h; omega
        · simp [h c rfl]
      simp [digits.go, hc]
  | cons c cs ih =>
    have hc := hdig c List.mem_cons_self
    have hcount : count < hi := by simp at hlen; omega
    have hnext : acc * 10 + digitValue c = 10 * acc + (c.toNat - '0'.toNat) := by
      simp only [digitValue]; omega
    have hvalue : Nat.ofDigitChars 10 (c :: cs) acc =
        Nat.ofDigitChars 10 cs (acc * 10 + digitValue c) := by
      rw [Nat.ofDigitChars_cons, hnext]
    rw [hvalue] at hsmall ⊢
    have hbound : acc * 10 + digitValue c < Nat.pow 2 63 :=
      Nat.lt_of_le_of_lt (le_ofDigitChars cs _) hsmall
    simp only [List.cons_append, digits.go, hcount, hc, decide_true, Bool.and_self, ↓reduceIte,
      Nat.not_le.2 hbound]
    have hstop' : count + 1 + cs.length = hi ∨ ∀ c ∈ rest.head?, c.isDigit = false := by
      rcases hstop with h | h
      · left
        simp at h
        omega
      · exact .inr h
    exact ih (count + 1) _ (fun c' h => hdig c' (List.mem_cons_of_mem _ h))
      (by simp at hlen; omega) hstop' hsmall

/-- A run of at most `hi` digits, ended by the count or by a character that is no digit. -/
theorem digits_run (hi : Nat) (cs rest : List Char) (hne : cs ≠ [])
    (hdig : ∀ c ∈ cs, c.isDigit = true) (hlen : cs.length ≤ hi)
    (hstop : cs.length = hi ∨ ∀ c ∈ rest.head?, c.isDigit = false)
    (hsmall : Nat.ofDigitChars 10 cs 0 < Nat.pow 2 63) :
    digits hi (cs ++ rest) = .ok (Nat.ofDigitChars 10 cs 0, rest) := by
  obtain ⟨c, cs, rfl⟩ := List.exists_cons_of_ne_nil hne
  have hc := hdig c List.mem_cons_self
  have hvalue : Nat.ofDigitChars 10 (c :: cs) 0 = Nat.ofDigitChars 10 cs (digitValue c) := by
    rw [Nat.ofDigitChars_cons]
    simp [digitValue]
  rw [hvalue] at hsmall ⊢
  simp only [List.cons_append, digits, hc, ↓reduceIte]
  have hstop' : 1 + cs.length = hi ∨ ∀ c ∈ rest.head?, c.isDigit = false := by
    rcases hstop with h | h
    · left
      simp at h
      omega
    · exact .inr h
  exact digits_go_run hi cs rest 1 _ (fun c' h => hdig c' (List.mem_cons_of_mem _ h))
    (by simp at hlen; omega) hstop' hsmall

theorem padded_toList (w n : Nat) :
    (padded w n).toList =
      List.replicate (w - (Nat.toDigits 10 n).length) '0' ++ Nat.toDigits 10 n := by
  simp [padded]

theorem isDigit_of_mem_padded {w n : Nat} {c : Char} (h : c ∈ (padded w n).toList) :
    c.isDigit = true := by
  rw [padded_toList, List.mem_append] at h
  rcases h with h | h
  · rw [List.eq_of_mem_replicate h]
    rfl
  · exact Nat.isDigit_of_mem_toDigits (by decide) (by decide) h

theorem length_padded {w n : Nat} (h : n < Nat.pow 10 w) (hw : 0 < w) :
    (padded w n).toList.length = w := by
  have hlen : (Nat.toDigits 10 n).length ≤ w := (Nat.length_toDigits_le_iff (by decide) hw).2 h
  rw [padded_toList, List.length_append, List.length_replicate]
  omega

theorem ofDigitChars_padded (w n : Nat) : Nat.ofDigitChars 10 (padded w n).toList 0 = n := by
  rw [padded_toList, Nat.ofDigitChars_append, Nat.ofDigitChars_replicate_zero, Nat.mul_zero,
    Nat.ofDigitChars_ten_toDigits]

theorem padded_ne_nil (w n : Nat) : (padded w n).toList ≠ [] := by
  rw [padded_toList]
  simp

/-- The digits of a number padded to `w` places are read back as the number, by a reader of at
least `w` digits that stops after them. -/
theorem digits_padded {w n : Nat} (rest : List Char) (hw : 0 < w) (h : n < Nat.pow 10 w)
    {hi : Nat} (hsmall : n < Nat.pow 2 63) (hstop : w ≤ hi)
    (hend : w = hi ∨ ∀ c ∈ rest.head?, c.isDigit = false) :
    digits hi ((padded w n).toList ++ rest) = .ok (n, rest) := by
  rw [digits_run hi _ rest (padded_ne_nil w n) (fun c hc => isDigit_of_mem_padded hc)
    (by rw [length_padded h hw]; exact hstop) (by rw [length_padded h hw]; exact hend)
    (by rw [ofDigitChars_padded]; exact hsmall), ofDigitChars_padded]

theorem isBlank_of_isDigit {c : Char} (h : c.isDigit = true) : Text.isBlank c = false := by
  have := isDigit_toNat h
  simp only [Text.isBlank, Bool.or_eq_false_iff, Bool.and_eq_false_iff, decide_eq_false_iff_not,
    beq_eq_false_iff_ne]
  omega

theorem trimStart_cons {c : Char} (cs : List Char) (h : Text.isBlank c = false) :
    Text.trimStart (c :: cs) = c :: cs := by
  simp [Text.trimStart, h]

theorem trimStart_padded (w n : Nat) (rest : List Char) :
    Text.trimStart ((padded w n).toList ++ rest) = (padded w n).toList ++ rest := by
  obtain ⟨c, cs, hcs⟩ := List.exists_cons_of_ne_nil (padded_ne_nil w n)
  have hc : c.isDigit = true := isDigit_of_mem_padded (by rw [hcs]; exact List.mem_cons_self)
  rw [hcs, List.cons_append, trimStart_cons _ (isBlank_of_isDigit hc)]

theorem literal_cons (c : Char) (cs : List Char) : literal c (c :: cs) = .ok cs := by
  simp [literal]

/-! ## The fields of a timestamp -/

/-- A field padded to its width is read back, when it lies in the field's range. -/
theorem field_padded {w lo hi n : Nat} (rest : List Char) (hw : 0 < w) (h : n < Nat.pow 10 w)
    (hsmall : n < Nat.pow 2 63) (hlo : lo ≤ n) (hhi : n ≤ hi) :
    field w lo hi ((padded w n).toList ++ rest) = .ok (n, rest) := by
  simp only [field, trimStart_padded, digits_padded rest hw h hsmall (Nat.le_refl w) (.inl rfl),
    except_ok_bind]
  simp [Nat.not_lt.2 hlo, Nat.not_lt.2 hhi]
  rfl

/-- A year of four digits is read back. -/
theorem yearField_padded {n : Nat} (rest : List Char) (h : n < 10000) :
    yearField ((padded 4 n).toList ++ rest) = .ok ((n : Int), rest) := by
  have hdigits := digits_padded rest (by decide) (show n < Nat.pow 10 4 from h)
    (show n < Nat.pow 2 63 by simp only [Nat.pow_eq]; omega) (Nat.le_refl 4) (.inl rfl)
  obtain ⟨c, cs, hcs⟩ := List.exists_cons_of_ne_nil (padded_ne_nil 4 n)
  have hc : c.isDigit = true := isDigit_of_mem_padded (by rw [hcs]; exact List.mem_cons_self)
  rw [hcs, List.cons_append] at hdigits ⊢
  simp only [yearField, trimStart_cons _ (isBlank_of_isDigit hc)]
  -- a digit is no sign, so the year is read as four digits
  split
  · rename_i heq
    cases heq
    simp at hc
  · rename_i heq
    cases heq
    simp at hc
  · have hrange :
        ((n : Int) < -(Nat.pow 2 31 : Int) || (n : Int) ≥ (Nat.pow 2 31 : Int)) = false := by
      simp only [Bool.or_eq_false_iff, decide_eq_false_iff_not, Nat.pow_eq]
      omega
    simp only [hdigits, except_ok_bind, except_pure, hrange, Bool.false_eq_true, ↓reduceIte]

/-- A year written with its sign, `-` below zero and `+` above 9999, is read back up to the
dash after it: the reader takes every digit after the sign. -/
theorem yearField_signed {y : Int} (hlo : minYear ≤ y) (hhi : y ≤ maxYear)
    (hfour : ¬ (0 ≤ y ∧ y ≤ 9999)) (rest : List Char) :
    yearField ((yearText y).toList ++ '-' :: rest) = .ok (y, '-' :: rest) := by
  have hsmall : y.natAbs < Nat.pow 2 63 := by
    simp only [minYear, maxYear, Nat.pow_eq] at hlo hhi ⊢
    omega
  -- the digits run to the dash, so a reader allowed the whole rest takes them all
  have hdigits : digits ((padded 4 y.natAbs).toList ++ '-' :: rest).length
      ((padded 4 y.natAbs).toList ++ '-' :: rest) = .ok (y.natAbs, '-' :: rest) := by
    rw [digits_run _ _ _ (padded_ne_nil 4 _) (fun c hc => isDigit_of_mem_padded hc)
      (by simp) (.inr (by simp)) (by rw [ofDigitChars_padded]; exact hsmall), ofDigitChars_padded]
  have hrange (v : Int) (hv : v = y) :
      (v < -(Nat.pow 2 31 : Int) || v ≥ (Nat.pow 2 31 : Int)) = false := by
    simp only [minYear, maxYear, Bool.or_eq_false_iff, decide_eq_false_iff_not, Nat.pow_eq]
      at hlo hhi ⊢
    omega
  have hsign : Text.isBlank '-' = false ∧ Text.isBlank '+' = false := by decide
  have htext : (yearText y).toList =
      (if y < 0 then '-' else '+') :: (padded 4 y.natAbs).toList := by
    have hcond : (decide (0 ≤ y) && decide (y ≤ 9999)) = false := by
      simp only [Bool.and_eq_false_iff, decide_eq_false_iff_not]
      omega
    by_cases hneg : y < 0 <;> simp [yearText, hcond, hneg]
  rw [htext]
  by_cases hneg : y < 0
  · simp only [hneg, List.cons_append, yearField, trimStart_cons _ hsign.1, hdigits,
      except_ok_bind, except_pure, hrange (-(y.natAbs : Int)) (by omega), Bool.false_eq_true,
      ↓reduceIte]
    rw [show -(y.natAbs : Int) = y by omega]
  · simp only [hneg, List.cons_append, yearField, trimStart_cons _ hsign.2, hdigits,
      except_ok_bind, except_pure, hrange (y.natAbs : Int) (by omega), Bool.false_eq_true,
      ↓reduceIte]
    rw [show (y.natAbs : Int) = y by omega]

/-- A fraction of `k` digits is read back, scaled to nanoseconds, up to the `Z` after it. -/
theorem fractionField_padded {k v : Nat} (rest : List Char) (hk : 0 < k) (hk9 : k ≤ 9)
    (hv : v < Nat.pow 10 k) :
    fractionField ('.' :: ((padded k v).toList ++ 'Z' :: rest)) =
      .ok (some (v * Nat.pow 10 (9 - k)), 'Z' :: rest) := by
  have hsmall : v < Nat.pow 2 63 := by
    have : Nat.pow 10 k ≤ Nat.pow 10 9 := Nat.pow_le_pow_right (by decide) hk9
    have : Nat.pow 10 9 < Nat.pow 2 63 := by decide
    omega
  have hread := digits_padded ('Z' :: rest) hk hv hsmall hk9 (.inr (by simp))
  simp only [fractionField, hread, except_ok_bind, List.length_append, List.length_cons,
    length_padded hv hk]
  have hused : k + (rest.length + 1) - (rest.length + 1) = k := by omega
  simp [hused]
  rfl

/-- The fraction of a second as written, and read back up to the `Z` after it. -/
theorem fractionField_fraction {nano : Nat} (rest : List Char) (h : nano < 1000000000) :
    ∃ r : Option Nat, fractionField ((fraction nano).toList ++ 'Z' :: rest) = .ok (r, 'Z' :: rest) ∧
      r.getD 0 = nano := by
  unfold fraction
  by_cases h0 : nano = 0
  · exact ⟨none, by simp [h0, fractionField], by simp [h0]⟩
  by_cases h6 : nano % 1000000 = 0
  · refine ⟨some (nano / 1000000 * Nat.pow 10 6), ?_, ?_⟩
    · simp only [h0, h6, beq_self_eq_true, if_true, beq_iff_eq, if_false, String.toList_append]
      exact fractionField_padded rest (by decide) (by decide) (show nano / 1000000 < Nat.pow 10 3 by
        simp only [Nat.pow_eq]; omega)
    · simp only [Option.getD_some, show Nat.pow 10 6 = 1000000 from rfl]
      omega
  by_cases h3 : nano % 1000 = 0
  · refine ⟨some (nano / 1000 * Nat.pow 10 3), ?_, ?_⟩
    · simp only [h0, h6, h3, beq_self_eq_true, if_true, beq_iff_eq, if_false,
        String.toList_append]
      exact fractionField_padded rest (by decide) (by decide) (show nano / 1000 < Nat.pow 10 6 by
        simp only [Nat.pow_eq]; omega)
    · simp only [Option.getD_some, show Nat.pow 10 3 = 1000 from rfl]
      omega
  · refine ⟨some (nano * Nat.pow 10 0), ?_, by simp⟩
    simp only [h0, h6, h3, beq_iff_eq, if_false, String.toList_append]
    exact fractionField_padded rest (by decide) (by decide) (show nano < Nat.pow 10 9 by
      simp only [Nat.pow_eq]; omega)

theorem field_two {lo hi n : Nat} (rest : List Char) (hlo : lo ≤ n) (hhi : n ≤ hi) (h : hi < 100) :
    field 2 lo hi ((padded 2 n).toList ++ rest) = .ok (n, rest) :=
  field_padded rest (by decide) (show n < 100 by omega)
    (show n < Nat.pow 2 63 by simp only [Nat.pow_eq]; omega) hlo hhi

theorem offsetField_zulu : offsetField ['Z'] = .ok (0, []) := rfl

theorem yearText_four {y : Int} (h0 : 0 ≤ y) (h1 : y ≤ 9999) : yearText y = padded 4 y.toNat := by
  simp [yearText, h0, h1]

theorem daysInMonth_le (y : Int) (m : Nat) : daysInMonth y m ≤ 31 := by
  rcases daysInMonth_cases y m with ⟨-, h⟩ | ⟨-, h⟩ | ⟨-, -, -, -, -, h⟩
  · split at h <;> omega
  · omega
  · omega

/-! ## Instants -/

/-- The text of an instant, field by field; `sec` and `nano` are the second and the
nanoseconds as written, a leap second being written as second 60. -/
theorem rfc3339_toList (t : Instant) (sec nano : Nat)
    (hsn : (if t.nano ≥ 1000000000 then (t.second + 1, t.nano - 1000000000)
      else (t.second, t.nano)) = (sec, nano)) :
    t.rfc3339.toList = (yearText t.date.year).toList ++ '-' :: ((padded 2 t.date.month).toList ++
      '-' :: ((padded 2 t.date.day).toList ++ 'T' :: ((padded 2 (t.second / 3600)).toList ++
      ':' :: ((padded 2 (t.second / 60 % 60)).toList ++ ':' ::
      ((padded 2 (sec - t.second / 3600 * 3600 - t.second / 60 % 60 * 60)).toList ++
      ((fraction nano).toList ++ ['Z'])))))) := by
  simp only [Instant.rfc3339, hsn]
  simp [String.toList_append]

/-- An instant is the local time of its own date and second at offset zero. -/
theorem Instant.ofLocal_date (t : Instant) (h : t.second < 86400) :
    Instant.ofLocal t.date t.second t.nano 0 = t := by
  obtain ⟨z, sec, nano⟩ := t
  simp only [Instant.ofLocal, Instant.date, Date.toDays_ofDays, Instant.mk.injEq, and_true]
  simp only at h
  constructor <;> omega

/-- An instant a clock can show: its second lies within its day, and its nanoseconds stay below
a second except in a leap second, which is the last second of a minute. -/
def Instant.WellFormed (t : Instant) : Prop :=
  t.second < 86400 ∧ (t.nano < 1000000000 ∨ (t.nano < 2000000000 ∧ t.second % 60 = 59))

instance : DecidablePred Instant.WellFormed := fun _ =>
  inferInstanceAs (Decidable (_ ∧ _))

theorem Instant.epoch_wellFormed : Instant.epoch.WellFormed := by decide

theorem yearField_yearText {y : Int} (hlo : minYear ≤ y) (hhi : y ≤ maxYear) (rest : List Char) :
    yearField ((yearText y).toList ++ '-' :: rest) = .ok (y, '-' :: rest) := by
  by_cases hfour : 0 ≤ y ∧ y ≤ 9999
  · rw [yearText_four hfour.1 hfour.2, yearField_padded _ (by omega), Int.toNat_of_nonneg hfour.1]
  · exact yearField_signed hlo hhi hfour rest

/-- **An instant's text reads back as the instant**, for every instant a clock can show whose
date lies in the calendar's range. -/
theorem readInstant_rfc3339_of_inRange {t : Instant} (hwf : t.WellFormed)
    (hin : t.inRange = true) : readInstant t.rfc3339 = .ok t := by
  obtain ⟨hsec, hnano⟩ := hwf
  have hrange : minYear ≤ t.date.year ∧ t.date.year ≤ maxYear := by
    simpa only [Instant.inRange, Bool.and_eq_true, decide_eq_true_eq] using hin
  -- the date is a real one, so each of its fields lies in its range
  have hvalid : t.date.valid = true := Date.valid_ofDays t.day
  have hfields := hvalid
  simp only [Date.valid, Bool.and_eq_true, decide_eq_true_eq] at hfields
  obtain ⟨⟨⟨hm1, hm12⟩, hd1⟩, hdays⟩ := hfields
  have hd31 := Nat.le_trans hdays (daysInMonth_le _ _)
  -- the second and the nanoseconds as written
  obtain ⟨sec, nano, hsn⟩ : ∃ sec nano, (if t.nano ≥ 1000000000 then
      (t.second + 1, t.nano - 1000000000) else (t.second, t.nano)) = (sec, nano) := ⟨_, _, rfl⟩
  have hparts : (t.nano ≥ 1000000000 ∧ sec = t.second + 1 ∧ nano = t.nano - 1000000000) ∨
      (t.nano < 1000000000 ∧ sec = t.second ∧ nano = t.nano) := by
    split at hsn <;> cases hsn <;> omega
  have hfrac : nano < 1000000000 := by omega
  obtain ⟨r, hr, hrnano⟩ := fractionField_fraction [] hfrac
  have hdash : Text.isBlank '-' = false := by decide
  have hcolon : Text.isBlank ':' = false := by decide
  have hzulu : Text.isBlank 'Z' = false := by decide
  have hT : ('T' == 'T' || 'T' == 't' || 'T' == ' ') = true := by decide
  simp only [readInstant, rfc3339_toList t sec nano hsn, yearField_yearText hrange.1 hrange.2,
    except_ok_bind, trimStart_cons _ hdash, literal_cons, field_two _ hm1 hm12 (by decide),
    field_two _ hd1 hd31 (by decide), hT, if_true, pure_bind,
    field_two _ (Nat.zero_le _) (show t.second / 3600 ≤ 23 by omega) (by decide),
    trimStart_cons _ hcolon, field_two _ (Nat.zero_le _) (show t.second / 60 % 60 ≤ 59 by omega)
      (by decide),
    field_two _ (Nat.zero_le _)
      (show sec - t.second / 3600 * 3600 - t.second / 60 % 60 * 60 ≤ 60 by omega) (by decide),
    hr, trimStart_cons _ hzulu, offsetField_zulu]
  -- the second as written is 60 exactly in a leap second, which is read back into the nanoseconds
  have hwritten : ∀ S, S = sec - t.second / 3600 * 3600 - t.second / 60 % 60 * 60 →
      t.second / 3600 * 3600 + t.second / 60 % 60 * 60 +
          (if (S == 60) = true then (59, 1000000000) else (S, 0)).1 = t.second ∧
        (if (S == 60) = true then (59, 1000000000) else (S, 0)).2 + nano = t.nano := by
    intro S hS
    by_cases h60 : S = 60 <;> simp [h60] <;> omega
  obtain ⟨hsecond, hnanos⟩ := hwritten _ rfl
  rw [hrnano, hsecond, hnanos, Instant.ofLocal_date t hsec]
  -- what is left are the final checks, which all pass
  have hbounds : (decide (t.date.year < minYear) || decide (t.date.year > maxYear)) = false := by
    simp only [Bool.or_eq_false_iff]
    constructor <;> apply decide_eq_false <;> omega
  have htrim : Text.trimStart [] = [] := rfl
  simp [htrim, hvalid, hbounds, hin]
  rfl

theorem Instant.inRange_of_four_digits {t : Instant} (hyear : 0 ≤ t.date.year ∧ t.date.year ≤ 9999) :
    t.inRange = true := by
  simp only [Instant.inRange, minYear, maxYear, Bool.and_eq_true]
  constructor <;> apply decide_eq_true <;> omega

/-- An instant's text reads back as the instant, for every instant a clock can show whose year
has four digits. -/
theorem readInstant_rfc3339 {t : Instant} (hwf : t.WellFormed)
    (hyear : 0 ≤ t.date.year ∧ t.date.year ≤ 9999) : readInstant t.rfc3339 = .ok t :=
  readInstant_rfc3339_of_inRange hwf (Instant.inRange_of_four_digits hyear)

end Novel.Time
