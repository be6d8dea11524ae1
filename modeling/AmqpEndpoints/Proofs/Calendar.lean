import AmqpEndpoints.Time.Calendar

/-!
# Numbered days

Every numbered day is a date of the calendar, and the date has that number: days are counted without
gaps from year to year and from month to month.
-/

set_option autoImplicit false

namespace AmqpEndpoints.Time

/-!
## Years
-/

/-- The number of days of months. -/
def totalDays (lengths : List Nat) : Nat :=
  lengths.foldr (· + ·) 0

theorem isLeap_iff (year : Nat) :
    isLeap year = true ↔ (year % 4 = 0 ∧ year % 100 ≠ 0) ∨ year % 400 = 0 := by
  simp [isLeap]

theorem totalDays_monthLengths (year : Nat) :
    totalDays (monthLengths year) = if isLeap year then 366 else 365 := by
  unfold monthLengths
  cases isLeap year <;> rfl

theorem daysBeforeYear_succ (year : Nat) :
    daysBeforeYear (year + 1) = daysBeforeYear year + totalDays (monthLengths year) := by
  have fourth : (year + 1 + 3) / 4 = (year + 3) / 4 + if year % 4 = 0 then 1 else 0 := by
    split <;> omega
  have hundredth : (year + 1 + 99) / 100 = (year + 99) / 100 + if year % 100 = 0 then 1 else 0 := by
    split <;> omega
  have last : (year + 1 + 399) / 400 = (year + 399) / 400 + if year % 400 = 0 then 1 else 0 := by
    split <;> omega
  have fewer : (year + 99) / 100 ≤ year := by omega
  have divides : (year % 400 = 0 → year % 100 = 0) ∧ (year % 100 = 0 → year % 4 = 0) := by omega
  rw [totalDays_monthLengths, daysBeforeYear, daysBeforeYear, fourth, hundredth, last]
  simp only [isLeap_iff]
  generalize (year + 3) / 4 = fourths at *
  generalize (year + 99) / 100 = hundredths at *
  generalize (year + 399) / 400 = lasts at *
  clear fourth hundredth last
  grind

theorem daysBeforeYear_mono {first second : Nat} (before : first ≤ second) :
    daysBeforeYear first ≤ daysBeforeYear second := by
  induction before with
  | refl => exact Nat.le_refl _
  | step _ ih =>
      rw [Nat.succ_eq_add_one, daysBeforeYear_succ]
      exact Nat.le_add_right_of_le ih

/-- A year starts a few days before or after its share of the days of 400 years. -/
theorem daysBeforeYear_bounds (year : Nat) :
    400 * daysBeforeYear year ≤ 146097 * year + 1000 ∧
      146097 * year ≤ 400 * daysBeforeYear year + 1000 := by
  unfold daysBeforeYear
  omega

theorem yearOfDays_spec (days : Nat) :
    daysBeforeYear (yearOfDays days) ≤ days ∧ days < daysBeforeYear (yearOfDays days + 1) := by
  unfold yearOfDays
  dsimp only
  have least := Nat.div_mul_le_self (days * 400) 146097
  have most := Nat.lt_div_mul_add (a := days * 400) (b := 146097) (by decide)
  generalize days * 400 / 146097 = guess at least most
  split
  · rename_i late
    have positive : guess ≠ 0 := by
      rintro rfl
      exact absurd late (Nat.not_lt_zero days)
    obtain ⟨year, rfl⟩ := Nat.exists_eq_add_one_of_ne_zero positive
    obtain ⟨below, _⟩ := daysBeforeYear_bounds year
    rw [Nat.add_sub_cancel]
    omega
  · split
    · rename_i early
      obtain ⟨_, above⟩ := daysBeforeYear_bounds (guess + 1 + 1)
      omega
    · omega

/-!
## Months and days
-/

/-- A day within some months falls into one of them. -/
theorem monthOfDays_spec (first : Nat) {days : Nat} {lengths : List Nat}
    (inside : days < totalDays lengths) :
    ∃ index length, lengths[index]? = some length ∧
      (monthOfDays first days lengths).1 = first + index ∧
      1 ≤ (monthOfDays first days lengths).2 ∧ (monthOfDays first days lengths).2 ≤ length ∧
      totalDays (lengths.take index) + ((monthOfDays first days lengths).2 - 1) = days := by
  induction lengths generalizing first days with
  | nil => exact absurd inside (Nat.not_lt_zero days)
  | cons length rest ih =>
      rw [monthOfDays]
      split
      · exact ⟨0, length, rfl, rfl, by simp, ‹_›, by simp [totalDays]⟩
      · rename_i beyond
        have later : days - length < totalDays rest := by
          change days < length + totalDays rest at inside
          omega
        obtain ⟨index, found, there, month, least, most, counted⟩ := ih (first + 1) later
        refine ⟨index + 1, found, there, ?_, least, most, ?_⟩
        · rw [month]
          omega
        · change length + totalDays (rest.take index) + _ = days
          omega

namespace Date

theorem ofDays_spec (days : Nat) : (ofDays days).Valid ∧ (ofDays days).toDays = days := by
  obtain ⟨started, ended⟩ := yearOfDays_spec days
  rw [daysBeforeYear_succ] at ended
  have inside : days - daysBeforeYear (yearOfDays days) <
      totalDays (monthLengths (yearOfDays days)) := by omega
  obtain ⟨index, length, there, month, least, most, counted⟩ := monthOfDays_spec 1 inside
  have place : (ofDays days).month - 1 = index := by
    change (monthOfDays ..).1 - 1 = index
    omega
  refine ⟨⟨?_, least, length, ?_, most⟩, ?_⟩
  · change 1 ≤ (monthOfDays ..).1
    omega
  · rw [place]
    exact there
  · unfold toDays
    rw [place]
    rw [Nat.add_assoc]
    exact (congrArg _ counted).trans (Nat.add_sub_cancel' started)

end Date

end AmqpEndpoints.Time
