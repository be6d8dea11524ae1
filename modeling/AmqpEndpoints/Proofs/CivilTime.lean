import AmqpEndpoints.Proofs.Timestamps

/-!
# Counting seconds

A clock with a calendar goes on second by second and carries into minutes, hours, days, months and
years. A timestamp is written as the moment that such a clock, started with the year 1970, shows
after as many seconds, and there is a written form up to the end of the last year.
-/

set_option autoImplicit false

namespace AmqpEndpoints.Time

/-!
## Dates and their numbers
-/

theorem yearOfDays_eq {year days : Nat} (started : daysBeforeYear year ≤ days)
    (ended : days < daysBeforeYear (year + 1)) : yearOfDays days = year := by
  obtain ⟨least, most⟩ := yearOfDays_spec days
  have notLater : ¬ year + 1 ≤ yearOfDays days := fun later =>
    absurd (daysBeforeYear_mono later) (by omega)
  have notEarlier : ¬ yearOfDays days + 1 ≤ year := fun earlier =>
    absurd (daysBeforeYear_mono earlier) (by omega)
  omega

theorem yearOfDays_le_iff {year days : Nat} :
    yearOfDays days ≤ year ↔ days < daysBeforeYear (year + 1) := by
  obtain ⟨least, most⟩ := yearOfDays_spec days
  constructor
  · intro early
    exact Nat.lt_of_lt_of_le most (daysBeforeYear_mono (Nat.succ_le_succ early))
  · intro before
    refine Nat.le_of_not_lt fun later => ?_
    have started := daysBeforeYear_mono (Nat.succ_le_of_lt later)
    rw [Nat.succ_eq_add_one] at started
    omega

theorem totalDays_take_succ {lengths : List Nat} {index length : Nat}
    (there : lengths[index]? = some length) :
    totalDays (lengths.take (index + 1)) = totalDays (lengths.take index) + length := by
  induction lengths generalizing index with
  | nil => cases there
  | cons first rest ih =>
      cases index with
      | zero =>
          cases there
          simp [totalDays]
      | succ index =>
          change first + totalDays (rest.take (index + 1)) =
            first + totalDays (rest.take index) + length
          rw [ih there, Nat.add_assoc]

theorem totalDays_take_le (lengths : List Nat) (count : Nat) :
    totalDays (lengths.take count) ≤ totalDays lengths := by
  induction lengths generalizing count with
  | nil => simp
  | cons first rest ih =>
      cases count with
      | zero => exact Nat.zero_le _
      | succ count => exact Nat.add_le_add_left (ih count) first

theorem monthOfDays_eq (first : Nat) {lengths : List Nat} {index length day : Nat}
    (there : lengths[index]? = some length) (least : 1 ≤ day) (most : day ≤ length) :
    monthOfDays first (totalDays (lengths.take index) + (day - 1)) lengths =
      (first + index, day) := by
  induction lengths generalizing first index with
  | nil => cases there
  | cons head rest ih =>
      cases index with
      | zero =>
          cases there
          have inside : totalDays [] + (day - 1) < length := by
            change 0 + (day - 1) < length
            omega
          rw [List.take_zero, monthOfDays, if_pos inside]
          change (first, 0 + (day - 1) + 1) = (first, day)
          congr 1
          omega
      | succ index =>
          have beyond : ¬ totalDays ((head :: rest).take (index + 1)) + (day - 1) < head := by
            change ¬ head + totalDays (rest.take index) + (day - 1) < head
            omega
          have remaining : totalDays ((head :: rest).take (index + 1)) + (day - 1) - head =
              totalDays (rest.take index) + (day - 1) := by
            change head + totalDays (rest.take index) + (day - 1) - head = _
            omega
          rw [monthOfDays, if_neg beyond, remaining, ih (first + 1) there]
          congr 1
          omega

theorem one_le_monthLength {year length : Nat} (member : length ∈ monthLengths year) :
    1 ≤ length := by
  have all : ∀ leap : Bool, ∀ length ∈ [31, if leap then 29 else 28, 31, 30, 31, 30, 31, 31, 30, 31,
      30, 31], 1 ≤ length := by decide
  exact all (isLeap year) length member

namespace Date

theorem toDays_eq (date : Date) :
    date.toDays = daysBeforeYear date.year +
      totalDays ((monthLengths date.year).take (date.month - 1)) + (date.day - 1) :=
  rfl

theorem Valid.toDays_bounds {date : Date} (valid : date.Valid) :
    daysBeforeYear date.year ≤ date.toDays ∧ date.toDays < daysBeforeYear (date.year + 1) := by
  obtain ⟨_, least, length, there, most⟩ := valid
  have upTo := totalDays_take_succ there
  have whole := totalDays_take_le (monthLengths date.year) (date.month - 1 + 1)
  rw [daysBeforeYear_succ, toDays_eq]
  omega

theorem ofDays_toDays {date : Date} (valid : date.Valid) : ofDays date.toDays = date := by
  obtain ⟨started, ended⟩ := valid.toDays_bounds
  obtain ⟨first, least, length, there, most⟩ := valid
  have within : date.toDays - daysBeforeYear date.year =
      totalDays ((monthLengths date.year).take (date.month - 1)) + (date.day - 1) := by
    rw [toDays_eq]
    omega
  have month : 1 + (date.month - 1) = date.month := by omega
  rw [ofDays, yearOfDays_eq started ended, within, monthOfDays_eq 1 there least most, month]

/-- The day after a date: the next day of its month, or else the first day of the next month of its
year, or else the first day of the next year. -/
def next (date : Date) : Date :=
  let tomorrow := { date with day := date.day + 1 }
  let following := { date with month := date.month + 1, day := 1 }
  if tomorrow.isValid then tomorrow
  else if following.isValid then following
  else ⟨date.year + 1, 1, 1⟩

theorem next_valid (date : Date) : date.next.Valid := by
  unfold Date.next
  dsimp only
  split
  · exact (isValid_iff _).mp ‹_›
  · split
    · exact (isValid_iff _).mp ‹_›
    · exact ⟨Nat.le_refl 1, Nat.le_refl 1, 31, rfl, Nat.le_add_left 1 30⟩

/-- A month with a month behind it ends where that month starts, and the last month ends where the
next year starts. -/
theorem toDays_next {date : Date} (valid : date.Valid) : date.next.toDays = date.toDays + 1 := by
  obtain ⟨first, least, length, there, most⟩ := valid
  have upTo := totalDays_take_succ there
  rw [Nat.sub_add_cancel first] at upTo
  unfold Date.next
  dsimp only
  split
  · rw [toDays_eq, toDays_eq]
    dsimp only
    omega
  · rename_i lastDay
    have ended : date.day = length := by
      refine Nat.le_antisymm most (Nat.le_of_not_lt fun earlier => lastDay ?_)
      exact (isValid_iff _).mpr ⟨first, Nat.le_add_left 1 date.day, length, there, earlier⟩
    split
    · rw [toDays_eq, toDays_eq]
      dsimp only
      rw [Nat.add_sub_cancel, upTo]
      omega
    · rename_i lastMonth
      -- Every month has a first day, so there is no month behind this one.
      have twelve : ¬ date.month < (monthLengths date.year).length := by
        intro earlier
        refine lastMonth ((isValid_iff _).mpr ?_)
        refine ⟨Nat.le_add_left 1 date.month, Nat.le_refl 1, (monthLengths date.year)[date.month],
          List.getElem?_eq_getElem earlier, ?_⟩
        exact one_le_monthLength (List.getElem_mem earlier)
      rw [List.take_of_length_le (Nat.le_of_not_lt twelve)] at upTo
      rw [toDays_eq, toDays_eq]
      dsimp only
      rw [daysBeforeYear_succ, upTo]
      change _ + 0 + 0 = _
      omega

end Date

namespace Moment

/-- The moment a second later. -/
def next (moment : Moment) : Moment :=
  if moment.second < 59 then { moment with second := moment.second + 1 }
  else if moment.minute < 59 then { moment with minute := moment.minute + 1, second := 0 }
  else if moment.hour < 23 then { moment with hour := moment.hour + 1, minute := 0, second := 0 }
  else ⟨moment.date.next, 0, 0, 0⟩

theorem Valid.next {moment : Moment} (valid : moment.Valid) : moment.next.Valid := by
  obtain ⟨onCalendar, hours, minutes, seconds⟩ := valid
  unfold Moment.next
  split
  · exact ⟨onCalendar, hours, minutes, Nat.succ_lt_succ ‹_›⟩
  · split
    · exact ⟨onCalendar, hours, Nat.succ_lt_succ ‹_›, Nat.zero_lt_succ 59⟩
    · split
      · exact ⟨onCalendar, Nat.succ_lt_succ ‹_›, Nat.zero_lt_succ 59, Nat.zero_lt_succ 59⟩
      · exact ⟨moment.date.next_valid, Nat.zero_lt_succ 23, Nat.zero_lt_succ 59, Nat.zero_lt_succ 59⟩

theorem toSeconds_next {moment : Moment} (valid : moment.Valid) :
    moment.next.toSeconds = moment.toSeconds + 1 := by
  have later := Date.toDays_next valid.1
  obtain ⟨_, hours, minutes, seconds⟩ := valid
  unfold Moment.next
  split
  · unfold toSeconds
    dsimp only
    omega
  · split
    · unfold toSeconds
      dsimp only
      omega
    · split <;>
      · unfold toSeconds
        dsimp only
        omega

/-- Seconds tell moments apart. -/
theorem Valid.eq_of_toSeconds {moment other : Moment} (valid : moment.Valid)
    (also : other.Valid) (same : moment.toSeconds = other.toSeconds) : moment = other := by
  obtain ⟨onCalendar, hours, minutes, seconds⟩ := valid
  obtain ⟨onCalendar', hours', minutes', seconds'⟩ := also
  obtain ⟨date, hour, minute, second⟩ := moment
  obtain ⟨date', hour', minute', second'⟩ := other
  dsimp only at onCalendar hours minutes seconds onCalendar' hours' minutes' seconds'
  unfold toSeconds at same
  dsimp only at same
  have days : date.toDays = date'.toDays := by omega
  have time : hour = hour' ∧ minute = minute' ∧ second = second' := by omega
  obtain ⟨rfl, rfl, rfl⟩ := time
  rw [← Date.ofDays_toDays onCalendar, days, Date.ofDays_toDays onCalendar']

/-- A moment is the one of the seconds from the start of 1970 to it. -/
theorem ofTimestamp_eq {moment : Moment} {seconds : Nat} (valid : moment.Valid)
    (counted : moment.toSeconds = epochDays * 86400 + seconds) : ofTimestamp seconds = moment :=
  (ofTimestamp_valid seconds).eq_of_toSeconds valid
    ((toSeconds_ofTimestamp seconds).trans counted.symm)

/-- What a clock shows after a number of seconds from the start of 1970. -/
def afterEpoch : Nat → Moment
  | 0 => ⟨⟨1970, 1, 1⟩, 0, 0, 0⟩
  | seconds + 1 => (afterEpoch seconds).next

/-- Counting seconds leads to the moment that is computed from their number. -/
theorem afterEpoch_eq (seconds : Nat) : afterEpoch seconds = ofTimestamp seconds := by
  induction seconds with
  | zero => decide
  | succ seconds ih =>
      rw [afterEpoch, ih]
      refine (ofTimestamp_eq (ofTimestamp_valid seconds).next ?_).symm
      rw [toSeconds_next (ofTimestamp_valid seconds), toSeconds_ofTimestamp, Nat.add_assoc]

end Moment

/-!
## Written moments
-/

/-- Digits that write a number at a width. -/
structure Numeral (width value : Nat) (digits : List Char) : Prop where
  isDigit : ∀ c ∈ digits, c.isDigit = true
  length_eq : digits.length = width
  value_eq : Nat.ofDigitChars 10 digits 0 = value

theorem numeral_padded {width value : Nat} (some : 0 < width) (fits : value < 10 ^ width) :
    Numeral width value (padded width value) where
  isDigit := fun _ => isDigit_of_mem_padded
  length_eq := by
    have short := length_padded_le some fits
    have long : width ≤ (padded width value).length := by
      rw [padded, List.leftpad, List.length_append, List.length_replicate]
      omega
    omega
  value_eq := ofDigitChars_padded width value

/-- How a text shows a moment of UTC: all numbers at their width, but a year of more than four
digits with all its digits behind a plus sign. -/
def Moment.ShownBy (moment : Moment) (text : List Char) : Prop :=
  ∃ year month day hour minute second : List Char,
    text = year ++ '-' :: month ++ '-' :: day ++ 'T' :: hour ++ ':' :: minute ++ ':' :: second ++
      ['+', '0', '0', '0', '0'] ∧
    (if moment.date.year ≤ 9999 then Numeral 4 moment.date.year year
      else year = '+' :: Nat.toDigits 10 moment.date.year) ∧
    Numeral 2 moment.date.month month ∧ Numeral 2 moment.date.day day ∧
    Numeral 2 moment.hour hour ∧ Numeral 2 moment.minute minute ∧ Numeral 2 moment.second second

theorem Moment.Valid.shownBy_text {moment : Moment} (valid : moment.Valid) :
    moment.ShownBy moment.text := by
  obtain ⟨onCalendar, hours, minutes, seconds⟩ := valid
  obtain ⟨months, days⟩ := onCalendar.two_digits
  have two : ∀ value, value < 100 → Numeral 2 value (padded 2 value) := fun value fits =>
    numeral_padded (by decide) fits
  refine ⟨_, _, _, _, _, _, rfl, ?_, two _ months, two _ days, two _ (by omega), two _ (by omega),
    two _ (by omega)⟩
  unfold yearText
  by_cases short : moment.date.year < 10000
  · rw [if_pos (Nat.le_of_lt_succ short), if_pos short]
    exact numeral_padded (by decide) short
  · have long : 4 ≤ (Nat.toDigits 10 moment.date.year).length := by
      refine Nat.le_of_not_lt fun shorter => short ?_
      have few : (Nat.toDigits 10 moment.date.year).length ≤ 4 := Nat.le_of_lt shorter
      exact (Nat.length_toDigits_le_iff (by decide) (by decide)).mp few
    rw [if_neg (by omega), if_neg short, padded, List.leftpad, Nat.sub_eq_zero_of_le long]
    rfl

/-- The last timestamp with a written form. -/
def lastTimestamp : Nat := 8210266876799

theorem formatTimestamp_isSome_iff {seconds : Nat} :
    (formatTimestamp seconds).isSome = true ↔ seconds ≤ lastTimestamp := by
  have early : (formatTimestamp seconds).isSome = true ↔
      yearOfDays (epochDays + seconds / 86400) ≤ lastYear := by
    change (ite ((Moment.ofTimestamp seconds).date.year ≤ lastYear) _ _ : Option String).isSome
      = true ↔ (Moment.ofTimestamp seconds).date.year ≤ lastYear
    split <;> simp [*]
  have last : lastTimestamp + 1 + epochDays * 86400 = daysBeforeYear (lastYear + 1) * 86400 := by
    decide
  rw [early, yearOfDays_le_iff]
  omega

/-- A timestamp is written as the moment that a clock shows after as many seconds from the start of
1970, and it is read back as it was. The last one is at the end of the year 262142. -/
theorem formatTimestamp_shows_clock (seconds : Nat) :
    (∀ text, formatTimestamp seconds = some text →
      parseTimestamp text = some seconds ∧ (Moment.afterEpoch seconds).Valid ∧
        (Moment.afterEpoch seconds).ShownBy text.toList) ∧
    ((formatTimestamp seconds).isSome = true ↔ seconds ≤ lastTimestamp) ∧
    Moment.afterEpoch lastTimestamp = ⟨⟨262142, 12, 31⟩, 23, 59, 59⟩ := by
  refine ⟨fun text written => ?_, formatTimestamp_isSome_iff, ?_⟩
  · have valid := Moment.ofTimestamp_valid seconds
    obtain ⟨_, same⟩ := formatTimestamp_cases written
    rw [Moment.afterEpoch_eq, same]
    exact ⟨parseTimestamp_formatTimestamp written, valid, valid.shownBy_text⟩
  · rw [Moment.afterEpoch_eq]
    decide

end AmqpEndpoints.Time
