import Mathlib.Algebra.Group.Nat.Defs
import AmqpEndpoints.Proofs.Calendar
import AmqpEndpoints.Proofs.Digits
import AmqpEndpoints.Time.Timestamp

/-!
# Reading back timestamps

A written timestamp is read as the number of seconds that it was written for. The form is read
number by number: each stands as digits in front of a character that is no digit.
-/

set_option autoImplicit false

namespace AmqpEndpoints.Time

/-!
## Moments
-/

theorem Moment.ofTimestamp_valid (seconds : Nat) : (Moment.ofTimestamp seconds).Valid := by
  refine ⟨(Date.ofDays_spec _).1, ?_, ?_, ?_⟩
  · change seconds % 86400 / 3600 < 24
    omega
  · change seconds % 86400 % 3600 / 60 < 60
    omega
  · change seconds % 86400 % 60 < 60
    omega

theorem Moment.toSeconds_ofTimestamp (seconds : Nat) :
    (Moment.ofTimestamp seconds).toSeconds = epochDays * 86400 + seconds := by
  have days := (Date.ofDays_spec (epochDays + seconds / 86400)).2
  unfold toSeconds ofTimestamp
  dsimp only
  rw [days]
  omega

theorem Date.Valid.two_digits {date : Date} (valid : date.Valid) :
    date.month < 100 ∧ date.day < 100 := by
  obtain ⟨_, _, length, there, most⟩ := valid
  have months : (monthLengths date.year).length = 12 := rfl
  have short : ∀ length ∈ monthLengths date.year, length ≤ 31 := by
    unfold monthLengths
    cases isLeap date.year <;> decide
  have bound := short length (List.mem_of_getElem? there)
  obtain ⟨inside, _⟩ := List.getElem?_eq_some_iff.mp there
  omega

/-- The moment of a timestamp is the moment of nothing but that timestamp. -/
theorem Moment.toTimestamp?_ofTimestamp {seconds : Nat}
    (early : (Moment.ofTimestamp seconds).date.year ≤ lastYear) :
    (Moment.ofTimestamp seconds).toTimestamp? 0 = some seconds := by
  have valid := Moment.ofTimestamp_valid seconds
  have counted := Moment.toSeconds_ofTimestamp seconds
  have before : epochDays + seconds / 86400 < daysBeforeYear (lastYear + 1) := by
    have ended := (yearOfDays_spec (epochDays + seconds / 86400)).2
    exact Nat.lt_of_lt_of_le ended (daysBeforeYear_mono (Nat.succ_le_succ early))
  generalize Moment.ofTimestamp seconds = moment at early valid counted
  obtain ⟨date, hour, minute, second⟩ := moment
  obtain ⟨onCalendar, hours, minutes, most⟩ := valid
  have same : min second 59 = second := Nat.min_eq_left (Nat.le_of_lt_succ most)
  have tested := (date.isValid_iff).mpr onCalendar
  unfold toTimestamp?
  dsimp only at early hours minutes most ⊢
  rw [same, counted]
  generalize daysBeforeYear (lastYear + 1) = last at before
  simp only [tested, hours, minutes, Nat.le_of_lt most, early, decide_true, Bool.and_self,
    ↓reduceIte, Option.ite_none_right_eq_some, Option.some.injEq]
  omega

theorem Moment.toTimestamp?_le {moment : Moment} {offset : Int} {seconds : Nat}
    (counted : moment.toTimestamp? offset = some seconds) : seconds ≤ Number.limit64 := by
  have last : daysBeforeYear (lastYear + 1) * 86400 ≤ Number.limit64 := by decide
  unfold toTimestamp? at counted
  dsimp only at counted
  generalize daysBeforeYear (lastYear + 1) = ended at counted last
  split at counted
  · split at counted
    · cases counted
      omega
    · cases counted
  · cases counted

/-!
## Digits
-/

theorem isDigit_of_mem_padded {width value : Nat} {c : Char} (member : c ∈ padded width value) :
    c.isDigit = true := by
  rcases List.mem_append.mp member with zero | digit
  · obtain ⟨_, rfl⟩ := List.mem_replicate.mp zero
    rfl
  · exact Nat.isDigit_of_mem_toDigits (by decide) (by decide) digit

theorem padded_ne_nil (width value : Nat) : padded width value ≠ [] :=
  List.append_ne_nil_of_right_ne_nil _ Nat.toDigits_ne_nil

theorem length_padded_le {width value : Nat} (some : 0 < width) (fits : value < 10 ^ width) :
    (padded width value).length ≤ width := by
  have short := (Nat.length_toDigits_le_iff (b := 10) (by decide) some).mpr fits
  rw [padded, List.leftpad, List.length_append, List.length_replicate]
  omega

theorem ofDigitChars_padded (width value : Nat) :
    Nat.ofDigitChars 10 (padded width value) 0 = value := by
  have zeros : ∀ count, Nat.ofDigitChars 10 (List.replicate count '0') 0 = 0 := by
    intro count
    induction count with
    | zero => rfl
    | succ count ih =>
        rw [List.replicate_succ, Nat.ofDigitChars_cons]
        exact ih
  rw [padded, List.leftpad, Nat.ofDigitChars_append, zeros, Nat.ofDigitChars_ten_toDigits]

theorem number_digits {most : Nat} {digits rest : List Char}
    (all : ∀ c ∈ digits, c.isDigit = true) (some : digits ≠ []) (fits : digits.length ≤ most)
    (stops : ∀ c ∈ rest.head?, c.isDigit = false) :
    number most (digits ++ rest) = .some (Nat.ofDigitChars 10 digits 0, rest) := by
  have front : ((digits ++ rest).take most).takeWhile Char.isDigit = digits := by
    rw [List.take_append, List.take_of_length_le fits, List.takeWhile_append_of_pos all]
    cases rest with
    | nil => simp
    | cons c rest =>
        have stop := stops c rfl
        cases most - digits.length <;> simp [stop]
  unfold number
  rw [front]
  simp [some]

/-!
## The written form
-/

theorem isBlank_of_isDigit {c : Char} (digit : c.isDigit = true) : Text.isBlank c = false := by
  obtain ⟨least, most⟩ := Char.isDigit_iff_toNat.mp digit
  change 48 ≤ c.toNat at least
  change c.toNat ≤ 57 at most
  simp only [Text.isBlank, Bool.or_eq_false_iff, Bool.and_eq_false_imp, decide_eq_true_eq,
    decide_eq_false_iff_not, beq_eq_false_iff_ne]
  omega

theorem dropBlanks_digits {digits rest : List Char} (all : ∀ c ∈ digits, c.isDigit = true)
    (some : digits ≠ []) : Text.dropBlanks (digits ++ rest) = digits ++ rest := by
  refine Text.dropBlanks_of_head fun c first => ?_
  obtain ⟨d, others, rfl⟩ := List.exists_cons_of_ne_nil some
  obtain rfl : d = c := Option.some.inj first
  exact isBlank_of_isDigit (all d List.mem_cons_self)

/-- Digits in front of a character that is none are read up to that character. -/
theorem number_padded {most width value : Nat} {c : Char} {rest : List Char}
    (fits : (padded width value).length ≤ most) (stop : c.isDigit = false) :
    number most (padded width value ++ c :: rest) = some (value, c :: rest) := by
  rw [number_digits (fun _ => isDigit_of_mem_padded) (padded_ne_nil width value) fits ?_,
    ofDigitChars_padded]
  rintro d ⟨⟩
  exact stop

theorem loosePair_padded {value : Nat} {c : Char} {rest : List Char} (fits : value < 100)
    (stop : c.isDigit = false) :
    loosePair (padded 2 value ++ c :: rest) = some (value, c :: rest) := by
  rw [loosePair, dropBlanks_digits (fun _ => isDigit_of_mem_padded) (padded_ne_nil 2 value)]
  exact number_padded (length_padded_le (by decide) fits) stop

theorem looseYear_yearText {year : Nat} {c : Char} {rest : List Char} (stop : c.isDigit = false) :
    looseYear (yearText year ++ c :: rest) = some (year, c :: rest) := by
  unfold yearText
  split
  · rename_i short
    have fits : (padded 4 year).length ≤ 4 := length_padded_le (by decide) short
    have unsigned : '+' ∉ padded 4 year := fun signed => absurd (isDigit_of_mem_padded signed) nofun
    rw [looseYear, dropBlanks_digits (fun _ => isDigit_of_mem_padded) (padded_ne_nil 4 year)]
    split
    · rename_i same
      obtain ⟨d, digits, written⟩ := List.exists_cons_of_ne_nil (padded_ne_nil 4 year)
      rw [written] at same unsigned
      cases same
      exact absurd List.mem_cons_self unsigned
    · exact number_padded fits stop
  · have longer : (padded 4 year).length ≤ (padded 4 year ++ c :: rest).length := by simp
    exact number_padded longer stop

theorem Moment.text_eq (moment : Moment) :
    moment.text = yearText moment.date.year ++ '-' :: (padded 2 moment.date.month ++
      '-' :: (padded 2 moment.date.day ++ 'T' :: (padded 2 moment.hour ++
        ':' :: (padded 2 moment.minute ++ ':' :: (padded 2 moment.second ++
          '+' :: ['0', '0', '0', '0']))))) := by
  simp [text]

theorem bind_of_eq_some {α β : Type} {first : Option α} {value : α} (found : first = some value)
    (next : α → Option β) : (first >>= next) = next value := by
  rw [found]
  rfl

/-- What is read from the rest of a text, behind what stands in front of it. -/
theorem read_after {α : Type} {text rest : List Char} {found : Nat × List Char}
    {step : List Char → Option (List Char)} {read : List Char → Option (Nat × List Char)}
    (stepped : step text = some rest) (reads : read rest = some found)
    (next : Nat × List Char → Option α) :
    (do
      let rest ← step text
      next (← read rest)) = next found :=
  (bind_of_eq_some stepped _).trans (bind_of_eq_some reads next)

theorem expect_self (c : Char) (rest : List Char) : expect c (c :: rest) = some rest :=
  if_pos rfl

theorem readWritten_text {moment : Moment} (valid : moment.Valid) :
    readWritten moment.text = moment.toTimestamp? 0 := by
  obtain ⟨onCalendar, hours, minutes, seconds⟩ := valid
  obtain ⟨months, days⟩ := onCalendar.two_digits
  have hour : moment.hour < 100 := by omega
  have minute : moment.minute < 100 := by omega
  have second : moment.second < 100 := by omega
  rw [Moment.text_eq, readWritten]
  refine (bind_of_eq_some (looseYear_yearText rfl) _).trans ?_
  refine (read_after (expect_self _ _) (loosePair_padded months rfl) _).trans ?_
  refine (read_after (expect_self _ _) (loosePair_padded days rfl) _).trans ?_
  refine (read_after (expect_self _ _) (loosePair_padded hour rfl) _).trans ?_
  refine (read_after (expect_self _ _) (loosePair_padded minute rfl) _).trans ?_
  exact read_after (expect_self _ _) (loosePair_padded second rfl) _

/-!
## Timestamps
-/

/-- The characters of a written moment. -/
theorem Moment.mem_text {moment : Moment} {c : Char} (member : c ∈ moment.text) :
    c.isDigit = true ∨ c ∈ ['-', 'T', ':', '+'] := by
  have year : ∀ year, c ∈ yearText year → c.isDigit = true ∨ c = '+' := by
    intro year written
    unfold yearText at written
    split at written
    · exact .inl (isDigit_of_mem_padded written)
    · rcases List.mem_cons.mp written with sign | digit
      · exact .inr sign
      · exact .inl (isDigit_of_mem_padded digit)
  have digit : ∀ value, c ∈ padded 2 value → c.isDigit = true := fun _ => isDigit_of_mem_padded
  have zero : c = '0' → c.isDigit = true := fun same => same ▸ rfl
  rw [Moment.text_eq] at member
  simp only [List.mem_append, List.mem_cons, List.not_mem_nil, or_false] at member ⊢
  grind

theorem formatTimestamp_cases {seconds : Nat} {text : String}
    (written : formatTimestamp seconds = some text) :
    (Moment.ofTimestamp seconds).date.year ≤ lastYear ∧
      text.toList = (Moment.ofTimestamp seconds).text := by
  unfold formatTimestamp at written
  dsimp only at written
  split at written
  · cases written
    exact ⟨‹_›, String.toList_ofList⟩
  · cases written

/-- A written timestamp is read as it was. -/
theorem parseTimestamp_formatTimestamp {seconds : Nat} {text : String}
    (written : formatTimestamp seconds = some text) : parseTimestamp text = some seconds := by
  obtain ⟨early, same⟩ := formatTimestamp_cases written
  have valid := Moment.ofTimestamp_valid seconds
  have counted := Moment.toTimestamp?_ofTimestamp early
  generalize Moment.ofTimestamp seconds = moment at same valid counted
  have trimmed : Text.trimBlanks moment.text = moment.text := by
    refine Text.trimBlanks_eq_self fun c member => ?_
    have visible : ∀ mark ∈ ['-', 'T', ':', '+'], Text.isBlank mark = false := by
      simp [Text.isBlank]
    rcases Moment.mem_text member with digit | mark
    · exact isBlank_of_isDigit digit
    · exact visible c mark
  -- No number is written with a hyphen.
  have hyphen : '-' ∈ moment.text := by simp [Moment.text]
  have notPlain : ∀ plain, Number.read Number.limit64 moment.text ≠ .ok plain :=
    fun plain => Number.read_ne_ok_of_mem hyphen rfl (by decide)
  unfold parseTimestamp
  dsimp only
  rw [same, trimmed, readWritten_text valid, counted]
  cases read : Number.read Number.limit64 moment.text with
  | ok plain => exact absurd read (notPlain plain)
  | error fault => rfl

theorem le_of_bind {α : Type} {first : Option α} {next : α → Option Nat} {seconds bound : Nat}
    (bounded : ∀ value, next value = some seconds → seconds ≤ bound)
    (read : (first >>= next) = some seconds) : seconds ≤ bound := by
  obtain ⟨value, _, later⟩ := Option.bind_eq_some_iff.mp read
  exact bounded value later

theorem readWritten_le {text : List Char} {seconds : Nat} :
    readWritten text = some seconds → seconds ≤ Number.limit64 := by
  unfold readWritten
  repeat refine le_of_bind fun _ => ?_
  exact Moment.toTimestamp?_le

theorem readInternet_le {text : List Char} {seconds : Nat} :
    readInternet text = some seconds → seconds ≤ Number.limit64 := by
  unfold readInternet
  repeat refine le_of_bind fun _ => ?_
  exact Moment.toTimestamp?_le

/-- Timestamps have 64 bits. -/
theorem parseTimestamp_le {text : String} {seconds : Nat}
    (read : parseTimestamp text = some seconds) : seconds ≤ Number.limit64 := by
  unfold parseTimestamp at read
  dsimp only at read
  split at read
  · rename_i plain
    cases read
    exact Number.read_le plain
  · rcases Option.or_eq_some_iff.mp read with written | ⟨_, internet⟩
    · exact readWritten_le written
    · exact readInternet_le internet

theorem parseTimestamp_trim (text : String) :
    parseTimestamp (Text.trim text) = parseTimestamp text := by
  unfold parseTimestamp Text.trim
  rw [String.toList_ofList, Text.trimBlanks_idem]

theorem parseTimestamp_empty : parseTimestamp "" = none := by
  decide

end AmqpEndpoints.Time
