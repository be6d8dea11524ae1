import AmqpEndpoints.Proofs.CivilTime
import AmqpEndpoints.Proofs.StandardFields

/-!
# Offsets from UTC

A clock set to any offset shows some moment at an instant, and a text may write this moment and the
offset in several ways. All of them are read as the same timestamp, on whichever side of midnight, of
the new year or of 1970 the local clock is.
-/

set_option autoImplicit false

namespace AmqpEndpoints.Time

/-!
## Instants
-/

/-- When a clock shows a moment, in seconds from the start of 1970: a second later it shows the next
moment. -/
inductive Moment.ShownAt : Moment → Int → Prop where
  | epoch : ShownAt ⟨⟨1970, 1, 1⟩, 0, 0, 0⟩ 0
  | next {moment : Moment} {instant : Int} :
      ShownAt moment instant → ShownAt moment.next (instant + 1)
  | back {moment : Moment} {instant : Int} :
      moment.Valid → ShownAt moment.next (instant + 1) → ShownAt moment instant

namespace Moment

theorem ShownAt.counted {moment : Moment} {instant : Int} (shown : moment.ShownAt instant) :
    moment.Valid ∧ (moment.toSeconds : Int) = epochDays * 86400 + instant := by
  induction shown with
  | epoch =>
      have start : ofTimestamp 0 = ⟨⟨1970, 1, 1⟩, 0, 0, 0⟩ := (afterEpoch_eq 0).symm
      rw [← start, toSeconds_ofTimestamp]
      exact ⟨ofTimestamp_valid 0, by omega⟩
  | next _ ih =>
      obtain ⟨valid, counted⟩ := ih
      refine ⟨valid.next, ?_⟩
      rw [toSeconds_next valid]
      omega
  | back valid _ ih =>
      have counted := ih.2
      rw [toSeconds_next valid] at counted
      exact ⟨valid, by omega⟩

theorem afterEpoch_shownAt (seconds : Nat) : (afterEpoch seconds).ShownAt seconds := by
  induction seconds with
  | zero => exact .epoch
  | succ seconds ih => exact .next ih

/-- A moment before 1970 is as far back as there are moments from it to the epoch. -/
theorem Valid.shownAt_neg {moment : Moment} (valid : moment.Valid) {before : Nat}
    (counted : moment.toSeconds + before = epochDays * 86400) : moment.ShownAt (-before) := by
  induction before generalizing moment with
  | zero =>
      rw [Nat.add_zero] at counted
      rw [← ofTimestamp_eq valid (counted.trans (Nat.add_zero _).symm), ← afterEpoch_eq]
      exact .epoch
  | succ before ih =>
      have later := toSeconds_next valid
      refine .back valid ?_
      have sooner := ih valid.next (by omega)
      rwa [Int.natCast_succ, Int.neg_add, Int.neg_add_cancel_right]

/-- Every moment of the calendar is shown at one instant. -/
theorem shownAt_iff {moment : Moment} {instant : Int} :
    moment.ShownAt instant ↔
      moment.Valid ∧ (moment.toSeconds : Int) = epochDays * 86400 + instant := by
  refine ⟨ShownAt.counted, fun ⟨valid, counted⟩ => ?_⟩
  rcases Int.le_total 0 instant with after | before
  · obtain ⟨seconds, rfl⟩ := Int.eq_ofNat_of_zero_le after
    have since : moment.toSeconds = epochDays * 86400 + seconds := by omega
    rw [← ofTimestamp_eq valid since, ← afterEpoch_eq]
    exact afterEpoch_shownAt seconds
  · obtain ⟨seconds, same⟩ := Int.eq_ofNat_of_zero_le (Int.neg_nonneg_of_nonpos before)
    obtain rfl : instant = -seconds := by omega
    exact valid.shownAt_neg (by omega)

/-- From the start of the year 0 on there is one moment for each instant. -/
theorem exists_shownAt {instant : Int} (since : 0 ≤ epochDays * 86400 + instant) :
    ∃ moment : Moment, moment.ShownAt instant ∧
      ∀ other : Moment, other.ShownAt instant → other = moment := by
  obtain ⟨seconds, same⟩ := Int.eq_ofNat_of_zero_le since
  obtain ⟨onCalendar, days⟩ := Date.ofDays_spec (seconds / 86400)
  let moment : Moment := ⟨Date.ofDays (seconds / 86400), seconds % 86400 / 3600,
    seconds % 3600 / 60, seconds % 60⟩
  have shown : moment.ShownAt instant := by
    refine shownAt_iff.mpr ⟨⟨onCalendar, ?_, ?_, ?_⟩, ?_⟩
    · change seconds % 86400 / 3600 < 24
      omega
    · change seconds % 3600 / 60 < 60
      omega
    · exact Nat.mod_lt seconds (by decide)
    · unfold toSeconds
      dsimp only [moment]
      rw [days]
      omega
  refine ⟨moment, shown, fun other also => ?_⟩
  have one := also.counted
  have two := shown.counted
  exact one.1.eq_of_toSeconds two.1 (by omega)

end Moment

/-!
## Spellings
-/

/-- How a text writes the date and the time of a moment, all numbers at their width. -/
def Moment.WrittenAs (moment : Moment) (text : List Char) : Prop :=
  ∃ year month day hour minute second : List Char,
    text = year ++ '-' :: month ++ '-' :: day ++ 'T' :: hour ++ ':' :: minute ++ ':' :: second ∧
    Numeral 4 moment.date.year year ∧ Numeral 2 moment.date.month month ∧
    Numeral 2 moment.date.day day ∧ Numeral 2 moment.hour hour ∧
    Numeral 2 moment.minute minute ∧ Numeral 2 moment.second second

/-- How a text writes an offset in seconds: `Z` for none, or a sign, hours and minutes with a colon
or without one. -/
inductive WritesOffset : Int → List Char → Prop where
  | utc : WritesOffset 0 ['Z']
  | signed {behind : Bool} {hours minutes : Nat} {hour between minute : List Char} :
      hours < 24 → minutes < 60 → Numeral 2 hours hour → Numeral 2 minutes minute →
      between = [] ∨ between = [':'] →
      WritesOffset
        (if behind then -(hours * 3600 + minutes * 60) else hours * 3600 + minutes * 60)
        ((if behind then '-' else '+') :: (hour ++ (between ++ minute)))

/-- The texts for an instant: what a clock at some offset shows, in a year of four digits, and the
offset, with blanks around them. -/
def Spells (instant : Int) (text : List Char) : Prop :=
  ∃ (moment : Moment) (offset : Int) (front written zone back : List Char),
    moment.ShownAt (instant + offset) ∧ moment.date.year ≤ 9999 ∧
    moment.WrittenAs written ∧ WritesOffset offset zone ∧
    (∀ c ∈ front, Text.isBlank c = true) ∧ (∀ c ∈ back, Text.isBlank c = true) ∧
    text = front ++ (written ++ zone ++ back)

/-!
## Numerals that are read
-/

section Numerals

variable {width value : Nat} {digits rest : List Char}

theorem Numeral.ne_nil (numeral : Numeral (width + 1) value digits) : digits ≠ [] :=
  List.ne_nil_of_length_eq_add_one numeral.length_eq

theorem Numeral.visible (numeral : Numeral width value digits) :
    ∀ c ∈ digits, Text.isBlank c = false :=
  fun c member => isBlank_of_isDigit (numeral.isDigit c member)

theorem Numeral.dropBlanks (numeral : Numeral (width + 1) value digits) :
    Text.dropBlanks (digits ++ rest) = digits ++ rest :=
  dropBlanks_digits numeral.isDigit numeral.ne_nil

theorem Numeral.number (numeral : Numeral (width + 1) value digits)
    (stops : ∀ c ∈ rest.head?, c.isDigit = false) :
    number (width + 1) (digits ++ rest) = some (value, rest) := by
  rw [number_digits numeral.isDigit numeral.ne_nil (Nat.le_of_eq numeral.length_eq) stops,
    numeral.value_eq]

theorem Numeral.loosePair (numeral : Numeral 2 value digits)
    (stops : ∀ c ∈ rest.head?, c.isDigit = false) :
    loosePair (digits ++ rest) = some (value, rest) := by
  rw [Time.loosePair, numeral.dropBlanks, numeral.number stops]

theorem Numeral.looseYear (numeral : Numeral 4 value digits)
    (stops : ∀ c ∈ rest.head?, c.isDigit = false) :
    looseYear (digits ++ rest) = some (value, rest) := by
  rw [Time.looseYear, numeral.dropBlanks]
  split
  · rename_i signed
    obtain ⟨d, others, rfl⟩ := List.exists_cons_of_ne_nil numeral.ne_nil
    cases signed
    exact absurd (numeral.isDigit '+' List.mem_cons_self) (by decide)
  · exact numeral.number stops

theorem Numeral.fixedNumber (numeral : Numeral width value digits) :
    fixedNumber width (digits ++ rest) = some (value, rest) := by
  have front : (digits ++ rest).take width = digits := List.take_left' numeral.length_eq
  have all : digits.takeWhile Char.isDigit = digits := by
    rw [← List.append_nil digits, List.takeWhile_append_of_pos numeral.isDigit, List.takeWhile_nil]
  rw [Time.fixedNumber, front, all, if_pos numeral.length_eq, numeral.value_eq,
    List.drop_left' numeral.length_eq]

theorem Numeral.ne_colon (numeral : Numeral width value digits) : ':' ∉ digits := fun member =>
  absurd (numeral.isDigit ':' member) (by decide)

theorem Numeral.behind_colon {between : List Char} (numeral : Numeral (width + 1) value digits)
    (colon : between = [] ∨ between = [':']) :
    (between ++ digits).dropWhile (fun c => c == ':' || Text.isBlank c) = digits := by
  have kept : digits.dropWhile (fun c => c == ':' || Text.isBlank c) = digits := by
    obtain ⟨c, others, rfl⟩ := List.exists_cons_of_ne_nil numeral.ne_nil
    have visible := isBlank_of_isDigit (numeral.isDigit c List.mem_cons_self)
    have other : c ≠ ':' := (List.ne_of_not_mem_cons numeral.ne_colon).symm
    simp [other, visible]
  rcases colon with rfl | rfl
  · exact kept
  · exact kept

end Numerals

/-!
## Spellings that are read
-/

theorem Moment.WrittenAs.append_eq {moment : Moment} {written : List Char}
    (writes : moment.WrittenAs written) (zone : List Char) :
    ∃ year month day hour minute second : List Char,
      written ++ zone = year ++ '-' :: (month ++ '-' :: (day ++ 'T' :: (hour ++ ':' ::
        (minute ++ ':' :: (second ++ zone))))) ∧
      Numeral 4 moment.date.year year ∧ Numeral 2 moment.date.month month ∧
      Numeral 2 moment.date.day day ∧ Numeral 2 moment.hour hour ∧
      Numeral 2 moment.minute minute ∧ Numeral 2 moment.second second := by
  obtain ⟨year, month, day, hour, minute, second, rfl, numerals⟩ := writes
  exact ⟨year, month, day, hour, minute, second, by simp, numerals⟩

theorem stops_of_cons {c : Char} {rest : List Char} (other : c.isDigit = false) :
    ∀ d ∈ (c :: rest).head?, d.isDigit = false := by
  rintro d ⟨⟩
  exact other

theorem WritesOffset.stops {offset : Int} {zone : List Char} (writes : WritesOffset offset zone) :
    ∀ c ∈ zone.head?, c.isDigit = false := by
  cases writes with
  | utc => exact stops_of_cons rfl
  | @signed behind => cases behind <;> exact stops_of_cons rfl

theorem offsetSign_signed (behind : Bool) (rest : List Char) :
    offsetSign ((if behind then '-' else '+') :: rest) = some (behind, rest) := by
  cases behind <;> rfl

theorem offsetSign_dropBlanks (behind : Bool) (rest : List Char) :
    offsetSign (Text.dropBlanks ((if behind then '-' else '+') :: rest)) = some (behind, rest) := by
  cases behind <;> rfl

theorem offsetSeconds_inside (behind : Bool) {hours minutes : Nat} (early : hours < 24)
    (inside : minutes < 60) :
    offsetSeconds behind hours minutes =
      some (if behind then -((hours : Int) * 3600 + minutes * 60) else hours * 3600 + minutes * 60) :=
  if_pos ⟨inside, early⟩

theorem WritesOffset.afterFraction {offset : Int} {zone : List Char}
    (writes : WritesOffset offset zone) : afterFraction zone = some zone := by
  cases writes with
  | utc => rfl
  | @signed behind => cases behind <;> rfl

theorem WritesOffset.internetOffset {offset : Int} {zone : List Char}
    (writes : WritesOffset offset zone) :
    internetOffset zone = if zone = ['Z'] ∨ ':' ∈ zone then some (offset, []) else none := by
  cases writes with
  | utc => rfl
  | @signed behind hours minutes hour between minute early inside hourly minutely colon =>
      have sign : (if behind then '-' else '+') ∉ ['Z', 'z', ':'] := by
        cases behind <;> decide
      unfold Time.internetOffset
      split
      · rename_i same
        rw [(List.cons.inj same).1] at sign
        exact absurd sign (by decide)
      · rename_i same
        rw [(List.cons.inj same).1] at sign
        exact absurd sign (by decide)
      · refine (bind_of_eq_some (offsetSign_signed behind _) _).trans ?_
        refine (bind_of_eq_some hourly.fixedNumber _).trans ?_
        rcases colon with rfl | rfl
        · have missing : expect ':' ([] ++ minute) = none := by
            obtain ⟨c, others, rfl⟩ := List.exists_cons_of_ne_nil minutely.ne_nil
            exact if_neg (List.ne_of_not_mem_cons minutely.ne_colon)
          rw [if_neg (by cases behind <;> simp [hourly.ne_colon, minutely.ne_colon])]
          dsimp only
          rw [missing]
          rfl
        · rw [if_pos (.inr (by simp)), ← List.append_nil minute]
          refine (read_after (expect_self _ _) minutely.fixedNumber _).trans ?_
          exact (bind_of_eq_some (offsetSeconds_inside behind early inside) _).trans rfl

/-- The form that is written reads every offset but `Z`. -/
theorem readWritten_spelled {moment : Moment} {offset : Int} {written zone : List Char}
    (writes : moment.WrittenAs written) (offsets : WritesOffset offset zone) :
    readWritten (written ++ zone) = if zone = ['Z'] then none else moment.toTimestamp? offset := by
  obtain ⟨_, _, _, _, _, _, same, year, month, day, hour, minute, second⟩ := writes.append_eq zone
  rw [same, readWritten]
  refine (bind_of_eq_some (year.looseYear (stops_of_cons rfl)) _).trans ?_
  refine (read_after (expect_self _ _) (month.loosePair (stops_of_cons rfl)) _).trans ?_
  refine (read_after (expect_self _ _) (day.loosePair (stops_of_cons rfl)) _).trans ?_
  refine (read_after (expect_self _ _) (hour.loosePair (stops_of_cons rfl)) _).trans ?_
  refine (read_after (expect_self _ _) (minute.loosePair (stops_of_cons rfl)) _).trans ?_
  refine (read_after (expect_self _ _) (second.loosePair offsets.stops) _).trans ?_
  cases offsets with
  | utc => rfl
  | @signed behind hours minutes hour between minute early inside hourly minutely colon =>
      have sign : (if behind then '-' else '+') :: (hour ++ (between ++ minute)) ≠ ['Z'] := by
        cases behind <;> simp
      have minutesRead : fixedNumber 2
          ((between ++ minute).dropWhile fun c => c == ':' || Text.isBlank c) =
            some (minutes, []) := by
        rw [minutely.behind_colon colon, ← List.append_nil minute]
        exact minutely.fixedNumber
      rw [if_neg sign]
      refine (bind_of_eq_some (offsetSign_dropBlanks behind _) _).trans ?_
      refine (bind_of_eq_some hourly.fixedNumber _).trans ?_
      refine (bind_of_eq_some minutesRead _).trans ?_
      exact (bind_of_eq_some (offsetSeconds_inside behind early inside) _).trans rfl

/-- The internet form reads `Z` and offsets with a colon. -/
theorem readInternet_spelled {moment : Moment} {offset : Int} {written zone : List Char}
    (writes : moment.WrittenAs written) (offsets : WritesOffset offset zone) :
    readInternet (written ++ zone) =
      if zone = ['Z'] ∨ ':' ∈ zone then moment.toTimestamp? offset else none := by
  obtain ⟨_, _, _, _, _, _, same, year, month, day, hour, minute, second⟩ := writes.append_eq zone
  rw [same, readInternet]
  refine (bind_of_eq_some year.fixedNumber _).trans ?_
  refine (read_after (expect_self _ _) month.fixedNumber _).trans ?_
  refine (read_after (expect_self _ _) day.fixedNumber _).trans ?_
  refine (read_after rfl hour.fixedNumber _).trans ?_
  refine (read_after (expect_self _ _) minute.fixedNumber _).trans ?_
  refine (read_after (expect_self _ _) second.fixedNumber _).trans ?_
  refine (bind_of_eq_some offsets.afterFraction _).trans ?_
  by_cases colon : zone = ['Z'] ∨ ':' ∈ zone
  · rw [if_pos colon]
    exact (bind_of_eq_some (offsets.internetOffset.trans (if_pos colon)) _).trans rfl
  · rw [if_neg colon, offsets.internetOffset, if_neg colon]
    rfl

theorem WritesOffset.bounds {offset : Int} {zone : List Char} (writes : WritesOffset offset zone) :
    -86400 < offset ∧ offset < 86400 := by
  cases writes with
  | utc => decide
  | @signed behind hours minutes =>
      cases behind <;> simp only [↓reduceIte, Bool.false_eq_true] <;> omega

/-- A moment of a year of four digits is the timestamp of its instant, from 1970 on. -/
theorem Moment.ShownAt.toTimestamp? {moment : Moment} {instant offset : Int}
    (shown : moment.ShownAt (instant + offset)) (year : moment.date.year ≤ 9999)
    (near : -86400 < offset ∧ offset < 86400) :
    moment.toTimestamp? offset = if 0 ≤ instant then some instant.toNat else none := by
  obtain ⟨⟨onCalendar, hours, minutes, seconds⟩, counted⟩ := shown.counted
  have tested := moment.date.isValid_iff.mpr onCalendar
  have early : moment.date.year ≤ lastYear := Nat.le_trans year (by decide)
  have ended : moment.date.toDays < daysBeforeYear 10000 :=
    Nat.lt_of_lt_of_le onCalendar.toDays_bounds.2 (daysBeforeYear_mono (Nat.succ_le_succ year))
  have last : daysBeforeYear 10000 < daysBeforeYear (lastYear + 1) := by decide
  have same : min moment.second 59 = moment.second := Nat.min_eq_left (Nat.le_of_lt_succ seconds)
  have before : (moment.toSeconds : Int) < (daysBeforeYear 10000 : Int) * 86400 := by
    unfold toSeconds
    generalize daysBeforeYear 10000 = days at ended
    omega
  unfold Moment.toTimestamp?
  rw [same]
  simp only [tested, hours, minutes, Nat.le_of_lt seconds, early, decide_true, Bool.and_self,
    ↓reduceIte]
  change (if _ ≤ (moment.toSeconds : Int) - offset ∧ (moment.toSeconds : Int) - offset < _ then _
    else _) = _
  have moved : (moment.toSeconds : Int) - offset = epochDays * 86400 + instant := by omega
  have inside : (epochDays : Int) * 86400 + instant < daysBeforeYear (lastYear + 1) * 86400 := by
    generalize daysBeforeYear (lastYear + 1) = lastDays at last
    generalize daysBeforeYear 10000 = days at before last
    omega
  rw [moved]
  by_cases since : 0 ≤ instant
  · rw [if_pos ⟨by omega, inside⟩, if_pos since]
    congr 2
    omega
  · rw [if_neg (by omega), if_neg since]

theorem Moment.WrittenAs.visible {moment : Moment} {written : List Char}
    (writes : moment.WrittenAs written) :
    '-' ∈ written ∧ ∀ c ∈ written, Text.isBlank c = false := by
  obtain ⟨_, _, _, _, _, _, rfl, year, month, day, hour, minute, second⟩ := writes
  refine ⟨by simp, ?_⟩
  simp only [List.forall_mem_append, List.forall_mem_cons]
  exact ⟨⟨⟨⟨⟨year.visible, rfl, month.visible⟩, rfl, day.visible⟩, rfl, hour.visible⟩, rfl,
    minute.visible⟩, rfl, second.visible⟩

theorem WritesOffset.visible {offset : Int} {zone : List Char} (writes : WritesOffset offset zone) :
    ∀ c ∈ zone, Text.isBlank c = false := by
  cases writes with
  | utc => exact List.forall_mem_singleton.mpr rfl
  | @signed behind _ _ _ between _ _ _ hourly minutely colon =>
      have sign : Text.isBlank (if behind then '-' else '+') = false := by cases behind <;> rfl
      have middle : ∀ c ∈ between, Text.isBlank c = false := by
        rcases colon with rfl | rfl
        · exact List.forall_mem_nil _
        · exact List.forall_mem_singleton.mpr rfl
      simp only [List.forall_mem_cons, List.forall_mem_append]
      exact ⟨sign, hourly.visible, middle, minutely.visible⟩

theorem parseTimestamp_of_spells {instant : Int} {text : String}
    (spelled : Spells instant text.toList) :
    parseTimestamp text = if 0 ≤ instant then some instant.toNat else none := by
  obtain ⟨moment, offset, front, written, zone, back, shown, year, writes, offsets, before, after,
    same⟩ := spelled
  have counted := shown.toTimestamp? year offsets.bounds
  obtain ⟨hyphen, visible⟩ := writes.visible
  have some : written ++ zone ≠ [] := List.append_ne_nil_of_left_ne_nil (List.ne_nil_of_mem hyphen) _
  have trimmed : Text.trimBlanks text.toList = written ++ zone := by
    rw [same]
    exact Text.trimBlanks_between some before
      (List.forall_mem_append.mpr ⟨visible, offsets.visible⟩) after
  -- No number is written with a hyphen.
  have notPlain : ∀ plain, Number.read Number.limit64 (written ++ zone) ≠ .ok plain :=
    fun plain => Number.read_ne_ok_of_mem (List.mem_append_left _ hyphen) rfl (by decide)
  rw [← counted]
  unfold parseTimestamp
  dsimp only
  rw [trimmed, readWritten_spelled writes offsets, readInternet_spelled writes offsets]
  cases read : Number.read Number.limit64 (written ++ zone) with
  | ok plain => exact absurd read (notPlain plain)
  | error fault =>
      dsimp only
      by_cases zulu : zone = ['Z']
      · rw [if_pos zulu, if_pos (.inl zulu)]
        rfl
      · rw [if_neg zulu]
        split
        · exact Option.or_self
        · exact Option.or_none

/-- Every text for an instant, at whatever offset, is read as its seconds from the start of 1970, and
as nothing before that. It is the timestamp of the metadata that hold the text, and the same for all
texts of the instant. -/
theorem parseTimestamp_honours_offset {instant : Int} {text : String}
    (spelled : Spells instant text.toList) :
    parseTimestamp text = (if 0 ≤ instant then some instant.toNat else none) ∧
    (∀ metadata : Metadata, metadata.get? Metadata.Key.timestamp = some text →
      (Properties.ofMetadata metadata).timestamp.map UInt64.toNat =
        if 0 ≤ instant then some instant.toNat else none) ∧
    ∀ other : String, Spells instant other.toList → parseTimestamp other = parseTimestamp text := by
  have read := parseTimestamp_of_spells spelled
  refine ⟨read, fun metadata held => ?_, fun other spells => ?_⟩
  · change (Properties.timestampAt metadata Metadata.Key.timestamp).map UInt64.toNat = _
    rw [Properties.timestampAt_eq, held, Option.bind_some, Option.map_map, ← read]
    cases parsed : parseTimestamp text with
    | none => rfl
    | some seconds =>
        have small := Nat.lt_succ_of_le (parseTimestamp_le parsed)
        exact congrArg some (UInt64.toNat_ofNat_of_lt' small)
  · rw [read, parseTimestamp_of_spells spells]

/-- Half an hour before 1970 by a clock an hour behind UTC is half an hour after its start, and half
an hour after its start by a clock an hour ahead is before it. -/
theorem parseTimestamp_around_epoch :
    (Spells 1800 " 1969-12-31T23:30:00-01:00 ".toList ∧
      parseTimestamp " 1969-12-31T23:30:00-01:00 " = some 1800) ∧
    (Spells (-1800) "1970-01-01T00:30:00+0100".toList ∧
      parseTimestamp "1970-01-01T00:30:00+0100" = none) := by
  have two : ∀ value < 100, Numeral 2 value (padded 2 value) := fun value fits =>
    numeral_padded (by decide) fits
  have earlier : Moment.ShownAt ⟨⟨1969, 12, 31⟩, 23, 30, 0⟩ (1800 + -3600) :=
    Moment.shownAt_iff.mpr ⟨⟨⟨by decide, by decide, 31, rfl, by decide⟩, by decide⟩, by decide⟩
  have later : Moment.ShownAt ⟨⟨1970, 1, 1⟩, 0, 30, 0⟩ (-1800 + 3600) :=
    Moment.shownAt_iff.mpr ⟨⟨⟨by decide, by decide, 31, rfl, by decide⟩, by decide⟩, by decide⟩
  have behind : WritesOffset (-3600) "-01:00".toList :=
    @WritesOffset.signed true 1 0 _ [':'] _ (by decide) (by decide) (two 1 (by decide))
      (two 0 (by decide)) (.inr rfl)
  have ahead : WritesOffset 3600 "+0100".toList :=
    @WritesOffset.signed false 1 0 _ [] _ (by decide) (by decide) (two 1 (by decide))
      (two 0 (by decide)) (.inl rfl)
  have after : Spells 1800 " 1969-12-31T23:30:00-01:00 ".toList :=
    ⟨_, -3600, [' '], "1969-12-31T23:30:00".toList, _, [' '], earlier, by decide,
      ⟨_, _, _, _, _, _, rfl, numeral_padded (by decide) (by decide), two 12 (by decide),
        two 31 (by decide), two 23 (by decide), two 30 (by decide), two 0 (by decide)⟩,
      behind, List.forall_mem_singleton.mpr rfl, List.forall_mem_singleton.mpr rfl, rfl⟩
  have before : Spells (-1800) "1970-01-01T00:30:00+0100".toList :=
    ⟨_, 3600, [], "1970-01-01T00:30:00".toList, _, [], later, by decide,
      ⟨_, _, _, _, _, _, rfl, numeral_padded (by decide) (by decide), two 1 (by decide),
        two 1 (by decide), two 0 (by decide), two 30 (by decide), two 0 (by decide)⟩,
      ahead, List.forall_mem_nil _, List.forall_mem_nil _, rfl⟩
  exact ⟨⟨after, (parseTimestamp_honours_offset after).1⟩, before,
    (parseTimestamp_honours_offset before).1⟩

end AmqpEndpoints.Time
