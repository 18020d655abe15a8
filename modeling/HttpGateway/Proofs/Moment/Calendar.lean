import HttpGateway.Moment.Basic

/-!
The calendar: years and months are blocks of days one behind the other, so that day numbers grow as
dates do, and every day from the first of January of year 1 on has one date.
-/

namespace HttpGateway.Moment

section Blocks

variable {start length : Nat → Nat}

theorem block_before (hstep : ∀ n, 1 ≤ n → start n + length n ≤ start (n + 1)) {n n' : Nat}
    (hn : 1 ≤ n) (h : n < n') : start n + length n ≤ start n' := by
  induction h with
  | refl => exact hstep n hn
  | @step k h ih =>
    have hk : n < k := h
    have hnext := hstep k (by omega)
    exact Nat.le_trans ih (Nat.le_trans (Nat.le_add_right _ _) hnext)

theorem placed_lt_iff (hstep : ∀ n, 1 ≤ n → start n + length n ≤ start (n + 1)) {n n' x x' : Nat}
    (hn : 1 ≤ n) (hn' : 1 ≤ n') (hx : x < length n) (hx' : x' < length n') :
    start n + x < start n' + x' ↔ n < n' ∨ n = n' ∧ x < x' := by
  rcases Nat.lt_trichotomy n n' with h | rfl | h
  · have hbefore := block_before hstep hn h
    omega
  · omega
  · have hbefore := block_before hstep hn' h
    omega

end Blocks

structure IsDate (year month day : Nat) : Prop where
  one_le_year : 1 ≤ year
  one_le_month : 1 ≤ month
  month_le : month ≤ 12
  one_le_day : 1 ≤ day
  day_le : day ≤ monthDays year month

def yearDays (year : Nat) : Nat := if isLeap year then 366 else 365

theorem isLeap_iff {year : Nat} :
    isLeap year ↔ year % 4 = 0 ∧ (year % 100 ≠ 0 ∨ year % 400 = 0) := by
  simp [isLeap]

theorem daysBeforeYear_succ {year : Nat} (h : 1 ≤ year) :
    daysBeforeYear (year + 1) = daysBeforeYear year + yearDays year := by
  obtain ⟨y, rfl⟩ := Nat.exists_eq_add_of_le' h
  have hfour : y / 100 ≤ y / 4 := Nat.div_le_div_left (by decide) (by decide)
  -- each quotient grows by one just in the years that it divides
  simp only [daysBeforeYear, Nat.add_sub_cancel, yearDays, isLeap_iff, Nat.succ_div,
    Nat.dvd_iff_mod_eq_zero]
  split <;> split <;> split <;> split <;> omega

theorem daysBeforeMonth_succ {year month : Nat} (h : 1 ≤ month) :
    daysBeforeMonth year (month + 1) = daysBeforeMonth year month + monthDays year month := by
  obtain ⟨k, rfl⟩ := Nat.exists_eq_add_of_le' h
  simp [daysBeforeMonth, List.range_succ]

theorem daysBeforeMonth_thirteen (year : Nat) : daysBeforeMonth year 13 = yearDays year := by
  cases h : isLeap year <;> simp [daysBeforeMonth, yearDays, monthDays, List.range_succ, h]

theorem daysBeforeMonth_step (year n : Nat) (h : 1 ≤ n) :
    daysBeforeMonth year n + monthDays year n ≤ daysBeforeMonth year (n + 1) :=
  Nat.le_of_eq (daysBeforeMonth_succ h).symm

theorem daysBeforeYear_step (n : Nat) (h : 1 ≤ n) :
    daysBeforeYear n + yearDays n ≤ daysBeforeYear (n + 1) :=
  Nat.le_of_eq (daysBeforeYear_succ h).symm

theorem IsDate.lt_yearDays {year month day : Nat} (h : IsDate year month day) :
    daysBeforeMonth year month + (day - 1) < yearDays year := by
  obtain ⟨-, hmonth, hle, hday, hdays⟩ := h
  have hbefore := block_before (daysBeforeMonth_step year) hmonth (Nat.lt_succ_of_le hle)
  rw [daysBeforeMonth_thirteen] at hbefore
  omega

theorem dayNumber_lt_iff {year month day year' month' day' : Nat} (h : IsDate year month day)
    (h' : IsDate year' month' day') :
    dayNumber year month day < dayNumber year' month' day' ↔
      [year, month, day] < [year', month', day'] := by
  obtain ⟨hy, hm, -, hd, hdays⟩ := id h
  obtain ⟨hy', hm', -, hd', hdays'⟩ := id h'
  have hyear := placed_lt_iff daysBeforeYear_step hy hy' h.lt_yearDays h'.lt_yearDays
  have hmonth : year = year' → (daysBeforeMonth year month + (day - 1) <
      daysBeforeMonth year' month' + (day' - 1) ↔
        month < month' ∨ month = month' ∧ day - 1 < day' - 1) := by
    rintro rfl
    exact placed_lt_iff (daysBeforeMonth_step year) hm hm' (by omega) (by omega)
  simp only [dayNumber, List.cons_lt_cons_iff, List.not_lt_nil, and_false, or_false, Nat.add_assoc]
  rw [hyear]
  refine or_congr_right (and_congr_right fun he => ?_)
  rw [hmonth he]
  omega

theorem daysBeforeYear_spans {e c f o : Nat} (hc : c ≤ 3) (hf : f ≤ 24) (ho : o ≤ 3) :
    daysBeforeYear (400 * e + 100 * c + 4 * f + o + 1) =
      146097 * e + 36524 * c + 1461 * f + 365 * o := by
  have hfour : (400 * e + 100 * c + 4 * f + o) / 4 = 100 * e + 25 * c + f := by omega
  have hhundred : (400 * e + 100 * c + 4 * f + o) / 100 = 4 * e + c := by omega
  have hall : (400 * e + 100 * c + 4 * f + o) / 400 = e := by omega
  simp only [daysBeforeYear, Nat.add_sub_cancel, hfour, hhundred, hall]
  omega

theorem isLeap_spans {e c f o : Nat} (hc : c ≤ 3) (hf : f ≤ 24) (ho : o ≤ 3) :
    isLeap (400 * e + 100 * c + 4 * f + o + 1) ↔ o = 3 ∧ (f ≠ 24 ∨ c = 3) := by
  rw [isLeap_iff]
  omega

def skipMonth (year : Nat) (place : Nat × Nat) : Nat × Nat :=
  if monthDays year place.1 ≤ place.2 then (place.1 + 1, place.2 - monthDays year place.1)
  else place

theorem foldl_skipMonth (year days : Nat) (k : Nat) :
    ∃ month rest, (List.range k).foldl (fun place _ => skipMonth year place) (1, days) =
        (month, rest) ∧ 1 ≤ month ∧ month ≤ k + 1 ∧ daysBeforeMonth year month + rest = days ∧
      (rest < monthDays year month ∨ month = k + 1) := by
  induction k with
  | zero =>
    refine ⟨1, days, rfl, Nat.le_refl 1, Nat.le_refl 1, ?_, .inr rfl⟩
    simp [daysBeforeMonth]
  | succ k ih =>
    obtain ⟨month, rest, hfold, hpos, hle, hdays, hend⟩ := ih
    rw [List.range_succ, List.foldl_append, hfold, List.foldl_cons, List.foldl_nil, skipMonth]
    by_cases hskip : monthDays year month ≤ rest
    · have hlast : month = k + 1 := hend.resolve_left (Nat.not_lt.2 hskip)
      refine ⟨month + 1, rest - monthDays year month, if_pos hskip, by omega, by omega, ?_,
        .inr (by omega)⟩
      rw [daysBeforeMonth_succ hpos]
      omega
    · exact ⟨month, rest, if_neg hskip, hpos, by omega, hdays, .inl (Nat.not_le.1 hskip)⟩

theorem exists_dateOfDay (n : Nat) : ∃ year month day, dateOfDay n = (year, month, day) ∧
    IsDate year month day ∧ dayNumber year month day = n := by
  unfold dateOfDay
  extract_lets era n₁ century n₂ four n₃ one n₄ year
  have hcentury : century ≤ 3 := by omega
  have hfour : four ≤ 24 := by omega
  have hone : one ≤ 3 := by omega
  have hyear : daysBeforeYear year + n₄ = n := by
    rw [daysBeforeYear_spans hcentury hfour hone]
    omega
  have hleap : isLeap year ↔ one = 3 ∧ (four ≠ 24 ∨ century = 3) :=
    isLeap_spans hcentury hfour hone
  have hrest : n₄ < yearDays year := by
    rw [yearDays]
    split
    · next h =>
      rw [hleap] at h
      omega
    · next h =>
      rw [hleap] at h
      omega
  obtain ⟨month, rest, hfold, hpos, hle, hdays, hend⟩ := foldl_skipMonth year n₄ 11
  have hmonth : rest < monthDays year month := by
    have hend : rest < monthDays year month ∨ month = 12 := hend
    rcases hend with hend | rfl
    · exact hend
    · rw [← daysBeforeMonth_thirteen, daysBeforeMonth_succ (by decide)] at hrest
      omega
  refine ⟨year, month, rest + 1, ?_, ⟨Nat.succ_pos _, hpos, hle, Nat.succ_pos _, hmonth⟩, ?_⟩
  · generalize hplace : List.foldl _ _ (List.range 11) = place
    have hend : place = (month, rest) := hplace.symm.trans hfold
    rw [hend]
  · rw [dayNumber, Nat.add_sub_cancel, Nat.add_assoc, hdays, hyear]

end HttpGateway.Moment
