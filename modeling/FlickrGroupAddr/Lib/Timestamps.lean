import FlickrGroupAddr.Lib.Calendar
import Mathlib.Data.List.Basic
import Mathlib.Order.Basic
import Mathlib.Tactic.Ring

/-!
# Instants as text

Microseconds since 1970 in the proleptic Gregorian calendar, before and after the epoch:
the date and the time of day of an instant, its fixed-width text, and the instant that a
text spells.
-/

namespace Calendar

set_option autoImplicit false

/-! ## Decimal blocks -/

/-- The last `width` decimal digits of a number, with zeros in front. -/
def padded : Nat → Nat → List Char
  | 0, _ => []
  | width + 1, n => padded width (n / 10) ++ [Nat.digitChar (n % 10)]

@[simp] theorem length_padded (width n : Nat) : (padded width n).length = width := by
  induction width generalizing n with
  | zero => rfl
  | succ width ih => simp [padded, ih]

theorem drop_padded {width n count : Nat} (h : width ≤ count) :
    (padded width n).drop count = [] := List.drop_of_length_le (by simpa using h)

theorem take_padded {width n count : Nat} (h : width ≤ count) :
    (padded width n).take count = padded width n := List.take_of_length_le (by simpa using h)

theorem digitChar_value {n : Nat} (h : n < 10) :
    (Nat.digitChar n).isDigit = true ∧ (Nat.digitChar n).toNat - '0'.toNat = n := by
  revert n
  decide

theorem digitsValue_append (digits : List Char) (c : Char) :
    digitsValue (digits ++ [c]) = digitsValue digits * 10 + (c.toNat - '0'.toNat) := by
  simp [digitsValue]

@[simp] theorem digitsValue_padded (width n : Nat) :
    digitsValue (padded width n) = n % 10 ^ width := by
  induction width generalizing n with
  | zero => simp [padded, digitsValue, Nat.mod_one]
  | succ width ih =>
      have hlast := (digitChar_value (Nat.mod_lt n (by decide : 0 < 10))).2
      rw [padded, digitsValue_append, ih, hlast, pow_succ, Nat.mul_comm (10 ^ width),
        Nat.mod_mul, Nat.mul_comm, Nat.add_comm]

/-! ## Days -/

/-- The days from 1970 to the first day of a year. -/
def dayFromYear (year : Int) : Int :=
  365 * (year - 1970) + (year - 1969) / 4 - (year - 1901) / 100 + (year - 1601) / 400

/-- The mean year is 146097 / 400 days, up to less than two days. -/
theorem dayFromYear_bounds (year : Int) :
    -506 ≤ 400 * dayFromYear year - 146097 * (year - 1970) ∧
      400 * dayFromYear year - 146097 * (year - 1970) ≤ 589 := by
  unfold dayFromYear
  omega

theorem dayFromYear_lt {year later : Int} (h : year < later) :
    dayFromYear year < dayFromYear later := by
  have := dayFromYear_bounds year
  have := dayFromYear_bounds later
  omega

theorem dayFromYear_le {year later : Int} (h : year ≤ later) :
    dayFromYear year ≤ dayFromYear later := by
  rcases h.eq_or_lt with rfl | h
  · exact le_rfl
  · exact (dayFromYear_lt h).le

/-- A year has 365 days, or 366. -/
theorem dayFromYear_succ (year : Nat) :
    dayFromYear (year + 1) = dayFromYear year + (monthLengths year).sum := by
  have hsum : (monthLengths year).sum = if isLeap year then 366 else 365 := by
    unfold monthLengths
    split
    · rfl
    · rfl
  rw [hsum]
  unfold dayFromYear isLeap
  by_cases hfour : year % 4 = 0
  · by_cases hhundred : year % 100 = 0
    · by_cases hcentury : year % 400 = 0
      · simp [hfour, hcentury]
        omega
      · simp [hhundred, hcentury]
        omega
    · simp [hfour, hhundred]
      omega
  · simp [hfour]
    omega

/-- The year that a day is in: an estimate from the mean length, corrected by one. -/
def yearOfDay (day : Int) : Int :=
  let estimate := 1970 + day * 400 / 146097
  if day < dayFromYear estimate then estimate - 1
  else if dayFromYear (estimate + 1) ≤ day then estimate + 1
  else estimate

theorem yearOfDay_spec (day : Int) :
    dayFromYear (yearOfDay day) ≤ day ∧ day < dayFromYear (yearOfDay day + 1) := by
  unfold yearOfDay
  dsimp only
  have hbefore := dayFromYear_bounds (1970 + day * 400 / 146097 - 1)
  have hafter := dayFromYear_bounds (1970 + day * 400 / 146097 + 1 + 1)
  split
  · rw [Int.sub_add_cancel]
    omega
  · split
    · omega
    · omega

/-! ## Months -/

/-- The lengths of the months of any year. -/
def monthsOf (year : Int) : List Nat := monthLengths (year % 400).toNat

theorem isLeap_mod (year : Nat) : isLeap (year % 400) = isLeap year := by
  have hfour : year % 400 % 4 = year % 4 := Nat.mod_mod_of_dvd year (by decide)
  have hhundred : year % 400 % 100 = year % 100 := Nat.mod_mod_of_dvd year (by decide)
  simp [isLeap, hfour, hhundred]

theorem monthsOf_natCast (year : Nat) : monthsOf year = monthLengths year := by
  have hmod : ((year : Int) % 400).toNat = year % 400 := by omega
  rw [monthsOf, hmod, monthLengths, isLeap_mod, monthLengths]

/-- The month, counted from zero, and the day in it, of a day counted from the first one. -/
def splitMonth : List Nat → Nat → Nat × Nat
  | [], day => (0, day)
  | length :: lengths, day =>
      if day < length then (0, day)
      else ((splitMonth lengths (day - length)).1 + 1, (splitMonth lengths (day - length)).2)

theorem splitMonth_spec {lengths : List Nat} {day : Nat} (h : day < lengths.sum) :
    (splitMonth lengths day).1 < lengths.length ∧
      (lengths.take (splitMonth lengths day).1).sum + (splitMonth lengths day).2 = day ∧
      (splitMonth lengths day).2 < lengths.getD (splitMonth lengths day).1 0 := by
  induction lengths generalizing day with
  | nil => simp at h
  | cons length lengths ih =>
      rw [List.sum_cons] at h
      unfold splitMonth
      split
      · next hday => simp [hday]
      · next hday =>
          obtain ⟨hmonth, hsum, hlength⟩ := ih (show day - length < lengths.sum by omega)
          simp only [List.length_cons, List.take_succ_cons, List.sum_cons, List.getD_cons_succ]
          omega

/-! ## Texts -/

/-- The year of an ISO text: four digits, or a sign and six. -/
def yearText (year : Int) : List Char :=
  if 0 ≤ year ∧ year ≤ 9999 then padded 4 year.toNat
  else (if year < 0 then '-' else '+') :: padded 6 year.natAbs

/-- `toISOString` before its last letter; there is no text farther than 10^8 days from 1970. -/
def isoText (ms : Int) : Option (List Char) :=
  let day := ms / 86400000
  let time := (ms % 86400000).toNat
  let year := yearOfDay day
  let date := splitMonth (monthsOf year) (day - dayFromYear year).toNat
  if 8640000000000000 < ms.natAbs then none
  else
    some (yearText year ++ ['-'] ++ padded 2 (date.1 + 1) ++ ['-'] ++ padded 2 (date.2 + 1) ++
      ['T'] ++ padded 2 (time / 3600000) ++ [':'] ++ padded 2 (time / 60000 % 60) ++ [':'] ++
      padded 2 (time / 1000 % 60) ++ ['.'] ++ padded 3 (time % 1000))

/-- The milliseconds of a date and a time of day. -/
def makeTime (f : Fields) (ms : Nat) : Int :=
  (dayFromYear f.year + ((monthsOf f.year).take (f.month - 1)).sum + (f.day - 1)) * 86400000 +
    f.hour * 3600000 + f.minute * 60000 + f.second * 1000 + ms

/-- The text of an instant to the microsecond. -/
def microText (us : Int) : Option (List Char) :=
  (isoText (us / 1000)).map fun text => text ++ padded 3 (us % 1000).toNat ++ ['Z']

/-- `YYYY-MM-DDTHH:MM:SS.uuuuuuZ`. -/
def microShape : List Char := "dddd-dd-ddTdd:dd:dd.ddddddZ".toList

/-- The instant that a text of that shape spells: its date, where it comes out again. -/
def readMicro (text : List Char) : Option Int :=
  if hasShape microShape text then
    (readFields text).bind fun fields =>
      let ms := makeTime fields (digitsValue ((text.drop 20).take 3))
      if isoText ms = some (text.take 23) then
        some (ms * 1000 + digitsValue ((text.drop 23).take 3))
      else none
  else none

/-- The year that an instant is in. -/
def yearOfMicro (us : Int) : Int := yearOfDay (us / 86400000000)

/-- The fields of an instant. -/
def fieldsOf (ms : Int) : Fields where
  year := (yearOfDay (ms / 86400000)).toNat
  month := (splitMonth (monthsOf (yearOfDay (ms / 86400000)))
    (ms / 86400000 - dayFromYear (yearOfDay (ms / 86400000))).toNat).1 + 1
  day := (splitMonth (monthsOf (yearOfDay (ms / 86400000)))
    (ms / 86400000 - dayFromYear (yearOfDay (ms / 86400000))).toNat).2 + 1
  hour := (ms % 86400000).toNat / 3600000
  minute := (ms % 86400000).toNat / 60000 % 60
  second := (ms % 86400000).toNat / 1000 % 60

/-- An instant is its date and its time of day. -/
theorem makeTime_fieldsOf {ms : Int} (h : 0 ≤ yearOfDay (ms / 86400000)) :
    makeTime (fieldsOf ms) ((ms % 86400000).toNat % 1000) = ms := by
  obtain ⟨year, hyear⟩ := Int.eq_ofNat_of_zero_le h
  obtain ⟨hle, hlt⟩ := yearOfDay_spec (ms / 86400000)
  rw [hyear] at hle hlt
  have hlength := dayFromYear_succ year
  have hday : (ms / 86400000 - dayFromYear year).toNat < (monthLengths year).sum := by omega
  obtain ⟨_, hsplit, _⟩ := splitMonth_spec hday
  simp only [makeTime, fieldsOf, hyear, Int.toNat_natCast, monthsOf_natCast,
    Nat.add_sub_cancel]
  omega

/-! ### Round trip -/

theorem hasShape_append {template text : List Char} (h : template.length = text.length)
    (template' text' : List Char) :
    hasShape (template ++ template') (text ++ text') =
      (hasShape template text && hasShape template' text') := by
  rw [Bool.eq_iff_iff]
  simp only [hasShape, List.length_append, h, List.zip_append h, List.all_append, Bool.and_eq_true,
    beq_iff_eq, Nat.add_left_cancel_iff, true_and]
  tauto

theorem hasShape_padded (width n : Nat) :
    hasShape (List.replicate width 'd') (padded width n) = true := by
  induction width generalizing n with
  | zero => rfl
  | succ width ih =>
      rw [List.replicate_succ', padded, hasShape_append (by simp), ih]
      simp [hasShape, Nat.mod_lt]

theorem hasShape_letter (c : Char) (h : c ≠ 'd') : hasShape [c] [c] = true := by
  simp [hasShape, h]

theorem shape_eq : shape = List.replicate 4 'd' ++ ['-'] ++ List.replicate 2 'd' ++ ['-'] ++
    List.replicate 2 'd' ++ ['T'] ++ List.replicate 2 'd' ++ [':'] ++ List.replicate 2 'd' ++
    [':'] ++ List.replicate 2 'd' := by decide

@[simp] theorem length_shape : shape.length = 19 := by decide

theorem microShape_eq : microShape = shape ++ ['.'] ++ List.replicate 3 'd' ++
    List.replicate 3 'd' ++ ['Z'] := by decide

/-- The text of an instant in years of four digits. -/
theorem isoText_eq {ms : Int} (h : 0 ≤ yearOfDay (ms / 86400000))
    (h' : yearOfDay (ms / 86400000) ≤ 9999) :
    isoText ms = some (padded 4 (fieldsOf ms).year ++ ['-'] ++ padded 2 (fieldsOf ms).month ++
      ['-'] ++ padded 2 (fieldsOf ms).day ++ ['T'] ++ padded 2 (fieldsOf ms).hour ++ [':'] ++
      padded 2 (fieldsOf ms).minute ++ [':'] ++ padded 2 (fieldsOf ms).second ++ ['.'] ++
      padded 3 ((ms % 86400000).toNat % 1000)) := by
  obtain ⟨hle, hlt⟩ := yearOfDay_spec (ms / 86400000)
  have hfirst : dayFromYear 0 = -719528 := by decide
  have hlast : dayFromYear 10000 = 2932897 := by decide
  have hlower := dayFromYear_le h
  have hupper := dayFromYear_le (show yearOfDay (ms / 86400000) + 1 ≤ 10000 by omega)
  unfold isoText
  dsimp only
  rw [if_neg (by omega), yearText, if_pos ⟨h, h'⟩]
  rfl

/-- The fields of an instant fit their blocks. -/
theorem fieldsOf_bounds {ms : Int} (h : 0 ≤ yearOfDay (ms / 86400000))
    (h' : yearOfDay (ms / 86400000) ≤ 9999) :
    (fieldsOf ms).year ≤ 9999 ∧ (fieldsOf ms).Exists := by
  obtain ⟨year, hyear⟩ := Int.eq_ofNat_of_zero_le h
  obtain ⟨hle, hlt⟩ := yearOfDay_spec (ms / 86400000)
  rw [hyear] at hle hlt
  have hlength := dayFromYear_succ year
  have hday : (ms / 86400000 - dayFromYear year).toNat < (monthLengths year).sum := by omega
  obtain ⟨_, _, hexists⟩ := splitMonth_spec hday
  refine ⟨?_, ?_, ?_, ?_, ?_, ?_, ?_⟩
  · simp only [fieldsOf]
    omega
  · simp [fieldsOf]
  · simp [fieldsOf]
  · simp only [fieldsOf, hyear, Int.toNat_natCast, monthsOf_natCast, Nat.add_sub_cancel]
    omega
  all_goals
    simp only [fieldsOf]
    omega

theorem length_month_le {year length : Nat} (h : length ∈ monthLengths year) : length ≤ 31 := by
  revert length
  cases hleap : isLeap year <;> simp [monthLengths, hleap]

theorem Fields.Exists.month_le {f : Fields} (h : f.Exists) : f.month ≤ 12 ∧ f.day ≤ 31 := by
  obtain ⟨hmonth, hday, hlength, _⟩ := h
  have htwelve : (monthLengths f.year).length = 12 := rfl
  have hindex : f.month - 1 < (monthLengths f.year).length := by
    by_contra hout
    simp [List.getD_eq_getElem?_getD, List.getElem?_eq_none (not_lt.mp hout)] at hlength
    omega
  rw [List.getD_eq_getElem?_getD, List.getElem?_eq_getElem hindex, Option.getD_some] at hlength
  have hle := length_month_le (List.getElem_mem hindex)
  omega

/-- The first nineteen characters of the text of a time. -/
def fieldsText (f : Fields) : List Char :=
  padded 4 f.year ++ ['-'] ++ padded 2 f.month ++ ['-'] ++ padded 2 f.day ++ ['T'] ++
    padded 2 f.hour ++ [':'] ++ padded 2 f.minute ++ [':'] ++ padded 2 f.second

@[simp] theorem length_fieldsText (f : Fields) : (fieldsText f).length = 19 := by
  simp [fieldsText]

theorem hasShape_fieldsText (f : Fields) : hasShape shape (fieldsText f) = true := by
  simp (disch := simp) only [shape_eq, fieldsText, hasShape_append, hasShape_padded,
    hasShape_letter, Bool.and_self]

/-- Fields that fit their blocks are read from their text. -/
theorem readFields_fieldsText {f : Fields} (hyear : f.year ≤ 9999) (hexists : f.Exists)
    (rest : List Char) : readFields (fieldsText f ++ rest) = some f := by
  obtain ⟨hmonth, hday⟩ := hexists.month_le
  obtain ⟨_, _, _, hhour, hminute, hsecond⟩ := hexists
  have hwithin : ∀ start width, start + width ≤ 19 →
      ((fieldsText f ++ rest).drop start).take width = ((fieldsText f).drop start).take width := by
    intro start width h
    rw [List.drop_append_of_le_length (by simp; omega),
      List.take_append_of_le_length (by simp; omega)]
  have hfront : (fieldsText f ++ rest).take 19 = fieldsText f := List.take_left' (by simp)
  have hhead : (fieldsText f ++ rest).take 4 = (fieldsText f).take 4 :=
    List.take_append_of_le_length (by simp)
  rw [readFields, hfront, if_pos (hasShape_fieldsText f), hhead, hwithin 5 2 (by decide),
    hwithin 8 2 (by decide), hwithin 11 2 (by decide), hwithin 14 2 (by decide),
    hwithin 17 2 (by decide)]
  simp (disch := simp) [fieldsText, List.drop_append, take_padded, drop_padded]
  rw [Nat.mod_eq_of_lt (by omega), Nat.mod_eq_of_lt (by omega), Nat.mod_eq_of_lt (by omega),
    Nat.mod_eq_of_lt (by omega), Nat.mod_eq_of_lt (by omega), Nat.mod_eq_of_lt (by omega)]

/-- What is printed for an instant in years of four digits reads back as that instant. -/
theorem readMicro_microText {us : Int} (h : 0 ≤ yearOfMicro us) (h' : yearOfMicro us ≤ 9999) :
    ∃ text, microText us = some text ∧ readMicro text = some us := by
  have hday : us / 1000 / 86400000 = us / 86400000000 := by omega
  rw [yearOfMicro, ← hday] at h h'
  obtain ⟨hyear, hexists⟩ := fieldsOf_bounds h h'
  have htime := makeTime_fieldsOf h
  have htext : isoText (us / 1000) = some (fieldsText (fieldsOf (us / 1000)) ++ ['.'] ++
      padded 3 ((us / 1000 % 86400000).toNat % 1000)) := isoText_eq h h'
  refine ⟨_, by rw [microText, htext]; rfl, ?_⟩
  have hmillis : (us / 1000 % 86400000).toNat % 1000 < 1000 := Nat.mod_lt _ (by decide)
  have hmicros : (us % 1000).toNat < 1000 := by omega
  generalize (us / 1000 % 86400000).toNat % 1000 = millis at *
  generalize fieldsOf (us / 1000) = f at *
  have hshape : hasShape microShape (fieldsText f ++ ['.'] ++ padded 3 millis ++
      padded 3 (us % 1000).toNat ++ ['Z']) = true := by
    simp (disch := simp) only [microShape_eq, hasShape_append, hasShape_fieldsText,
      hasShape_padded, hasShape_letter, Bool.and_self]
  have hfields : readFields (fieldsText f ++ ['.'] ++ padded 3 millis ++
      padded 3 (us % 1000).toNat ++ ['Z']) = some f := by
    simp only [List.append_assoc]
    exact readFields_fieldsText hyear hexists _
  rw [readMicro, if_pos hshape, hfields, Option.bind_some]
  simp (disch := simp) [List.take_append, List.drop_append, List.take_of_length_le,
    List.drop_of_length_le]
  rw [Nat.mod_eq_of_lt hmillis, htime, htext]
  exact ⟨by simp, by omega⟩

/-- The year of a text has four digits exactly where it is one of four digits. -/
theorem length_yearText (year : Int) :
    (yearText year).length = if 0 ≤ year ∧ year ≤ 9999 then 4 else 7 := by
  unfold yearText
  split
  · simp
  · simp

theorem length_microText {us : Int} {text : List Char} (h : microText us = some text) :
    text.length = 23 + (yearText (yearOfMicro us)).length := by
  obtain ⟨iso, hiso, rfl⟩ := Option.map_eq_some_iff.mp h
  have hday : us / 1000 / 86400000 = us / 86400000000 := by omega
  unfold isoText at hiso
  dsimp only at hiso
  split at hiso
  · cases hiso
  · cases hiso
    rw [hday]
    simp [yearOfMicro]
    omega

/-- Whatever reads back of a printed instant is that instant. -/
theorem readMicro_of_microText {us us' : Int} {text : List Char} (h : microText us = some text)
    (hread : readMicro text = some us') : us' = us := by
  have hlength := length_microText h
  rw [length_yearText] at hlength
  have hshape : microShape.length = text.length := by
    by_contra hne
    simp [readMicro, hasShape, hne] at hread
  rw [show microShape.length = 27 from rfl] at hshape
  split at hlength
  · next hyear =>
      obtain ⟨printed, hprinted, hback⟩ := readMicro_microText hyear.1 hyear.2
      cases h.symm.trans hprinted
      cases hread.symm.trans hback
      rfl
  · omega

end Calendar
