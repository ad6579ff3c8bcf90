import Mathlib.Data.List.Induction
import JsonSchema.Format.Date

/-!
# `JsonSchema.Proofs.Format.Date` — dates are the days of the calendar, as they are written

The shape of a date is looked for byte by byte, before the text is cut at byte offsets. Ten bytes that are
digits and hyphens are ASCII, so the text has ten characters and every cut falls between two of them: the
check always gives an answer. Digits in a fixed number of places are the number that they write, padded to
as many places, so that what is accepted is what the days of the calendar are written as.

## Contents
- **Places.** `padded`, and `exists_padded`: digits are a padded number.
- **Calendar.** `IsLeapYear`, `CalendarDay`, and `isDay_iff`.
- **Shape.** `written`, and `dateShape?_bytes_iff`: which texts have the shape of a date.
- **Dates.** `isDate?_written` and `isDate?_other`, which leave no text without an answer. Main statement
  `isDate_iff_calendarDay`.
-/

namespace JsonSchema.Format

open Text (bytes numeral? natural? integer? slice? slice?_append ascii_of_bytes bytes_of_ascii)

/-! ## Places -/

/-- A number in at least so many places, zeros standing in front. -/
def padded (places n : Nat) : List Char := (Nat.toDigits 10 n).leftpad places '0'

section Places

variable {places n d : Nat}

theorem isDigit_of_mem_padded {c : Char} (h : c ∈ padded places n) : c.isDigit = true := by
  rw [padded, List.leftpad] at h
  rcases List.mem_append.mp h with hzero | hdigit
  · rw [List.eq_of_mem_replicate hzero]
    rfl
  · exact Nat.isDigit_of_mem_toDigits (by decide) (by decide) hdigit

theorem length_padded (hpos : 0 < places) (h : n < 10 ^ places) : (padded places n).length = places := by
  rw [padded, List.length_leftpad]
  exact Nat.max_eq_left ((Nat.length_toDigits_le_iff (by decide) hpos).mpr h)

/-- Zeros in front do not count. -/
theorem numeral?_padded (places n : Nat) : numeral? 10 (padded places n) = some n := by
  have hzeros : ∀ k cs, numeral? 10 (List.replicate k '0' ++ cs) = numeral? 10 cs := by
    intro k cs
    induction k with
    | zero => rfl
    | succ k ih => exact ih
  rw [padded, List.leftpad, hzeros, Text.numeral?_toDigits]

/-- One more digit moves the others up by one place. -/
theorem padded_append_digit (hpos : 0 < places) (hd : d < 10) :
    padded places n ++ [d.digitChar] = padded (places + 1) (n * 10 + d) := by
  have hlast : Nat.toDigits 10 d = [d.digitChar] := Nat.toDigits_of_lt_base hd
  rcases Nat.eq_zero_or_pos n with rfl | hn
  · obtain ⟨k, rfl⟩ := Nat.exists_eq_add_one_of_ne_zero (Nat.ne_of_gt hpos)
    rw [Nat.zero_mul, Nat.zero_add, padded, padded, hlast]
    simp [List.leftpad, List.replicate_succ']
  · have hdigits : Nat.toDigits 10 (n * 10 + d) = Nat.toDigits 10 n ++ [d.digitChar] := by
      rw [Nat.mul_comm, ← hlast, Nat.toDigits_append_toDigits (by decide) hn hd]
    simp [padded, List.leftpad, hdigits]

theorem exists_digit {c : Char} (h : c.isDigit = true) : ∃ d < 10, c = d.digitChar := by
  have hall : ∀ d : Fin 10, Char.ofNat (48 + d.val) = d.val.digitChar := by decide
  simp only [Char.isDigit, Bool.and_eq_true, decide_eq_true_eq, ge_iff_le, UInt32.le_iff_toNat_le] at h
  have hlow : 48 ≤ c.toNat := h.1
  have hhigh : c.toNat ≤ 57 := h.2
  refine ⟨c.toNat - 48, by omega, ?_⟩
  have hdigit := hall ⟨c.toNat - 48, by omega⟩
  have hsum : 48 + (c.toNat - 48) = c.toNat := by omega
  rw [← hdigit, hsum, Char.ofNat_toNat]

/-- **Digits are the number that they write**, in as many places. -/
theorem exists_padded {cs : List Char} (hne : cs ≠ []) (h : ∀ c ∈ cs, c.isDigit = true) :
    ∃ n < 10 ^ cs.length, cs = padded cs.length n := by
  -- numbers grow at their end, so the induction takes the last digit off
  induction cs using List.reverseRecOn with
  | nil => exact absurd rfl hne
  | append_singleton cs c ih =>
      obtain ⟨d, hd, rfl⟩ := exists_digit (h c (by simp))
      rw [List.length_append, List.length_singleton]
      by_cases hnil : cs = []
      · subst hnil
        refine ⟨d, hd, ?_⟩
        rw [padded, Nat.toDigits_of_lt_base hd]
        rfl
      · obtain ⟨n, hn, hcs⟩ := ih hnil fun c hc => h c (List.mem_append_left _ hc)
        refine ⟨n * 10 + d, ?_, ?_⟩
        · rw [Nat.pow_succ]
          omega
        · rw [← padded_append_digit (List.length_pos_iff.mpr hnil) hd, ← hcs]

end Places

/-! ## Calendar -/

/-- The leap years: every fourth one, but of the full centuries every fourth alone. -/
def IsLeapYear (year : Nat) : Prop := 4 ∣ year ∧ ¬100 ∣ year ∨ 400 ∣ year

/-- The days of the proleptic Gregorian calendar. -/
structure CalendarDay (year month day : Nat) : Prop where
  month_pos : 1 ≤ month
  month_le : month ≤ 12
  day_pos : 1 ≤ day
  day_le : day ≤ 31
  short : month ∈ [4, 6, 9, 11] → day ≤ 30
  february : month = 2 → day ≤ 28 ∨ day = 29 ∧ IsLeapYear year

theorem isLeap_iff {year : Nat} : isLeap year = true ↔ IsLeapYear year := by
  unfold isLeap IsLeapYear
  simp only [Bool.and_eq_true, Bool.or_eq_true, beq_iff_eq, bne_iff_ne]
  omega

/-- **The check knows the days of the calendar.** -/
theorem isDay_iff {year month day : Nat} : isDay year month day = true ↔ CalendarDay year month day := by
  have hleap : isLeap year = true ↔ IsLeapYear year := isLeap_iff
  rw [isDay, Bool.and_eq_true, decide_eq_true_iff, decide_eq_true_iff]
  -- the days of a month are those of its row in the table
  unfold daysIn
  constructor
  · rintro ⟨hpos, hle⟩
    constructor <;> grind
  · rintro ⟨hmonth, hmonth', hpos, hle, hshort, hfebruary⟩
    grind

/-! ## Shape -/

/-- Year, month and day with hyphens between them. -/
def joined (year month day : List Char) : List Char := year ++ '-' :: (month ++ '-' :: day)

/-- The characters of a date: the year in four places, month and day in two. -/
def written (year month day : Nat) : List Char := joined (padded 4 year) (padded 2 month) (padded 2 day)

theorem toNat_toUInt8 {c : Char} (h : c.toNat < 128) : c.val.toUInt8.toNat = c.toNat := by
  rw [UInt32.toNat_toUInt8]
  exact Nat.mod_eq_of_lt (Nat.lt_trans h (by decide))

theorem isDigitByte_toUInt8 {c : Char} (h : c.toNat < 128) : isDigitByte c.val.toUInt8 = c.isDigit := by
  have hbyte := toNat_toUInt8 h
  rw [Bool.eq_iff_iff]
  simp only [isDigitByte, Char.isDigit, Bool.and_eq_true, decide_eq_true_eq, ge_iff_le,
    UInt8.le_iff_toNat_le, UInt32.le_iff_toNat_le, hbyte]
  rfl

theorem toUInt8_eq_hyphen {c : Char} (h : c.toNat < 128) : c.val.toUInt8 = hyphen ↔ c = '-' := by
  rw [← UInt8.toNat_inj, toNat_toUInt8 h, ← Char.toNat_inj]
  rfl

theorem ascii_of_isDigit {c : Char} (h : c.isDigit = true) : c.toNat < 128 := by
  obtain ⟨d, hd, rfl⟩ := exists_digit h
  have hall : ∀ d : Fin 10, d.val.digitChar.toNat < 128 := by decide
  exact hall ⟨d, hd⟩

/-- **The shape is only asked of bytes that are there**, so that there is always an answer. -/
theorem dateShape?_eq (bs : List UInt8) :
    dateShape? bs = some (decide (bs.length = 10 ∧ bs[4]? = some hyphen ∧ bs[7]? = some hyphen ∧
      ∀ e ∈ bs.zipIdx, e.2 = 4 ∨ e.2 = 7 ∨ isDigitByte e.1 = true)) := by
  unfold dateShape?
  by_cases hlen : bs.length = 10
  · have hfirst : bs[4]? = some bs[4] := List.getElem?_eq_getElem _
    have hsecond : bs[7]? = some bs[7] := List.getElem?_eq_getElem _
    rw [if_pos hlen, hfirst, hsecond]
    refine congrArg some (Bool.eq_iff_iff.mpr ?_)
    simp only [Bool.and_eq_true, Bool.or_eq_true, beq_iff_eq, List.all_eq_true, decide_eq_true_eq,
      Option.some.injEq, hlen, true_and, and_assoc, or_assoc]
  · rw [if_neg hlen]
    simp [hlen]

/-- Ten characters of ASCII, one for each byte: those of a text of which every byte is a digit or a hyphen. -/
theorem ascii_of_dateShape {cs : List Char} (h : dateShape? (bytes cs) = some true) {c : Char} (hc : c ∈ cs) :
    c.toNat < 128 := by
  rw [dateShape?_eq, Option.some.injEq, decide_eq_true_iff] at h
  obtain ⟨-, hfirst, hsecond, hdigits⟩ := h
  refine ascii_of_bytes (fun b hb => ?_) hc
  obtain ⟨i, hi⟩ := List.mem_iff_getElem?.mp hb
  rcases hdigits ⟨b, i⟩ (List.mem_zipIdx_iff_getElem?.mpr hi) with rfl | rfl | hdigit
  · obtain rfl := Option.some.inj (hi.symm.trans hfirst)
    decide
  · obtain rfl := Option.some.inj (hi.symm.trans hsecond)
    decide
  · simp only [isDigitByte, Bool.and_eq_true, decide_eq_true_eq, UInt8.le_iff_toNat_le] at hdigit
    exact Nat.lt_of_le_of_lt hdigit.2 (by decide)

/-- What the shape asks of characters of ASCII. -/
theorem dateShape?_ascii {cs : List Char} (h : ∀ c ∈ cs, c.toNat < 128) :
    dateShape? (bytes cs) = some true ↔ cs.length = 10 ∧ cs[4]? = some '-' ∧ cs[7]? = some '-' ∧
      ∀ i c, cs[i]? = some c → i = 4 ∨ i = 7 ∨ c.isDigit = true := by
  have hhyphen : ∀ i : Nat, (cs.map fun c => c.val.toUInt8)[i]? = some hyphen ↔ cs[i]? = some '-' := by
    intro i
    rw [List.getElem?_map, Option.map_eq_some_iff]
    constructor
    · rintro ⟨c, hc, hbyte⟩
      rw [hc, (toUInt8_eq_hyphen (h c (List.mem_of_getElem? hc))).mp hbyte]
    · exact fun hc => ⟨'-', hc, rfl⟩
  rw [dateShape?_eq, Option.some.injEq, decide_eq_true_iff, bytes_of_ascii h, List.length_map, hhyphen,
    hhyphen]
  refine and_congr_right fun _ => and_congr_right fun _ => and_congr_right fun _ => ?_
  constructor
  · intro hall i c hc
    have hmem : (c.val.toUInt8, i) ∈ (cs.map fun c => c.val.toUInt8).zipIdx := by
      rw [List.mem_zipIdx_iff_getElem?, List.getElem?_map, hc, Option.map_some]
    rw [← isDigitByte_toUInt8 (h c (List.mem_of_getElem? hc))]
    exact hall _ hmem
  · rintro hall ⟨b, i⟩ hb
    rw [List.mem_zipIdx_iff_getElem?, List.getElem?_map, Option.map_eq_some_iff] at hb
    obtain ⟨c, hc, rfl⟩ := hb
    rw [isDigitByte_toUInt8 (h c (List.mem_of_getElem? hc))]
    exact hall i c hc

theorem mem_written {year month day : Nat} {c : Char} (h : c ∈ written year month day) :
    c = '-' ∨ c.isDigit = true := by
  simp only [written, joined, List.mem_append, List.mem_cons] at h
  rcases h with hyear | rfl | hmonth | rfl | hday
  · exact .inr (isDigit_of_mem_padded hyear)
  · exact .inl rfl
  · exact .inr (isDigit_of_mem_padded hmonth)
  · exact .inl rfl
  · exact .inr (isDigit_of_mem_padded hday)

theorem ascii_of_mem_written {year month day : Nat} {c : Char} (h : c ∈ written year month day) :
    c.toNat < 128 := by
  rcases mem_written h with rfl | hdigit
  · decide
  · exact ascii_of_isDigit hdigit

/-- A part without the hyphens is a number in as many places. -/
theorem exists_padded_part {cs : List Char} (hlen : cs.length = 10)
    (hdigits : ∀ i c, cs[i]? = some c → i = 4 ∨ i = 7 ∨ c.isDigit = true) {start places : Nat}
    (hpos : 0 < places) (hle : start + places ≤ 10)
    (hapart : ∀ i < places, start + i ≠ 4 ∧ start + i ≠ 7) :
    ∃ n < 10 ^ places, (cs.drop start).take places = padded places n := by
  have hplaces : ((cs.drop start).take places).length = places := by
    rw [List.length_take, List.length_drop]
    omega
  have hne : (cs.drop start).take places ≠ [] := List.ne_nil_of_length_pos (by omega)
  have hall : ∀ c ∈ (cs.drop start).take places, c.isDigit = true := by
    intro c hc
    obtain ⟨i, hi⟩ := List.mem_iff_getElem?.mp hc
    rw [List.getElem?_take, List.getElem?_drop, Option.ite_none_right_eq_some] at hi
    obtain ⟨hlt, hget⟩ := hi
    obtain ⟨hnot, hnot'⟩ := hapart i hlt
    exact ((hdigits _ c hget).resolve_left hnot).resolve_left hnot'
  have hpadded := exists_padded hne hall
  rwa [hplaces] at hpadded

section Written

variable {year month day : Nat}

/-- Where no hyphen stands there is a digit. -/
theorem isDigit_of_getElem?_written (hyear : year < 10 ^ 4) (hmonth : month < 10 ^ 2) {i : Nat} {c : Char}
    (hc : (written year month day)[i]? = some c) : i = 4 ∨ i = 7 ∨ c.isDigit = true := by
  have hdigit : ∀ {places n j : Nat}, (padded places n)[j]? = some c → c.isDigit = true :=
    fun h => isDigit_of_mem_padded (List.mem_of_getElem? h)
  have hyear' := length_padded (by decide) hyear
  have hmonth' := length_padded (by decide) hmonth
  -- the year, a hyphen, the month, a hyphen, and the day
  rw [written, joined, List.getElem?_append, hyear'] at hc
  split at hc
  · exact .inr (.inr (hdigit hc))
  · rw [List.getElem?_cons] at hc
    split at hc
    · exact .inl (by omega)
    · rw [List.getElem?_append, hmonth'] at hc
      split at hc
      · exact .inr (.inr (hdigit hc))
      · rw [List.getElem?_cons] at hc
        split at hc
        · exact .inr (.inl (by omega))
        · exact .inr (.inr (hdigit hc))

theorem dateShape?_written (hyear : year < 10 ^ 4) (hmonth : month < 10 ^ 2) (hday : day < 10 ^ 2) :
    dateShape? (bytes (written year month day)) = some true := by
  have hyear' := length_padded (by decide) hyear
  have hmonth' := length_padded (by decide) hmonth
  have hday' := length_padded (by decide) hday
  refine (dateShape?_ascii fun _ => ascii_of_mem_written).mpr
    ⟨?_, ?_, ?_, fun i c hc => isDigit_of_getElem?_written hyear hmonth hc⟩
  · simp [written, joined, hyear', hmonth', hday']
  · simp [written, joined, hyear']
  · simp [written, joined, List.getElem?_append, hyear', hmonth']

end Written

/-- **Which texts have the shape of a date**: digits in four, two and two places. -/
theorem dateShape?_bytes_iff {cs : List Char} :
    dateShape? (bytes cs) = some true ↔
      ∃ year month day, year < 10 ^ 4 ∧ month < 10 ^ 2 ∧ day < 10 ^ 2 ∧ cs = written year month day := by
  constructor
  · intro h
    obtain ⟨hlen, hfirst, hsecond, hdigits⟩ := (dateShape?_ascii fun _ => ascii_of_dateShape h).mp h
    have hsplit : cs = joined ((cs.drop 0).take 4) ((cs.drop 5).take 2) ((cs.drop 8).take 2) := by
      match cs, hlen, hfirst, hsecond with
      | [_, _, _, _, _, _, _, _, _, _], _, hfirst, hsecond =>
        obtain rfl := Option.some.inj hfirst
        obtain rfl := Option.some.inj hsecond
        rfl
    have hpart := @exists_padded_part cs hlen hdigits
    obtain ⟨year, hyear, hyear'⟩ := @hpart 0 4 (by omega) (by omega) (by omega)
    obtain ⟨month, hmonth, hmonth'⟩ := @hpart 5 2 (by omega) (by omega) (by omega)
    obtain ⟨day, hday, hday'⟩ := @hpart 8 2 (by omega) (by omega) (by omega)
    refine ⟨year, month, day, hyear, hmonth, hday, ?_⟩
    rw [written, ← hyear', ← hmonth', ← hday']
    exact hsplit
  · rintro ⟨year, month, day, hyear, hmonth, hday, rfl⟩
    exact dateShape?_written hyear hmonth hday

/-! ## Dates -/

section Dates

variable {year month day : Nat}

/-- Digits do not begin with a sign. -/
theorem padded_ne_cons {places n : Nat} {c : Char} (h : c.isDigit = false) (rest : List Char) :
    padded places n ≠ c :: rest := by
  intro heq
  have hdigit : c.isDigit = true := isDigit_of_mem_padded (heq ▸ List.mem_cons_self)
  rw [h] at hdigit
  cases hdigit

theorem natural?_padded {places n limit : Nat} (hpos : 0 < places) (h : n < 10 ^ places) (hlimit : n < limit) :
    natural? limit (padded places n) = some n := by
  have hne : padded places n ≠ [] := List.ne_nil_of_length_pos (by rwa [length_padded hpos h])
  rw [natural?, if_neg (by simpa using hne), numeral?_padded, Option.bind_some, if_pos hlimit]
  exact padded_ne_cons (by decide)

theorem integer?_padded {places n limit : Nat} (hpos : 0 < places) (h : n < 10 ^ places) (hlimit : n < limit) :
    integer? limit (padded places n) = some (n : Int) := by
  rw [integer?, natural?_padded hpos h hlimit]
  · rfl
  · exact padded_ne_cons (by decide)

/-- **A date is cut at its hyphens**: what stands before a part takes as many bytes as it has characters. -/
theorem slice?_written (front part back : List Char) {start stop : Nat}
    (hsplit : written year month day = front ++ (part ++ back)) (hfront : front.length = start)
    (hpart : start + part.length = stop) : slice? start stop (written year month day) = some part := by
  have hbytes : ∀ cs ⊆ written year month day, (bytes cs).length = cs.length := fun cs hcs => by
    rw [bytes_of_ascii fun c hc => ascii_of_mem_written (hcs hc), List.length_map]
  have hinside : front ⊆ written year month day ∧ part ⊆ written year month day := by
    simp [hsplit]
  rw [hsplit]
  refine slice?_append front part back ?_ ?_
  · rw [hbytes front hinside.1, hfront]
  · rw [hbytes part hinside.2, hpart]

/-- The numbers at the places of year, month and day are those that are written there. -/
theorem namesDay?_written (hyear : year < 10 ^ 4) (hmonth : month < 10 ^ 2) (hday : day < 10 ^ 2) :
    namesDay? (written year month day) = some (isDay year month day) := by
  have hyear' := length_padded (by decide) hyear
  have hmonth' := length_padded (by decide) hmonth
  have hday' := length_padded (by decide) hday
  have hsliceYear : slice? 0 4 (written year month day) = some (padded 4 year) :=
    slice?_written [] _ _ rfl rfl (by rw [hyear'])
  have hsliceMonth : slice? 5 7 (written year month day) = some (padded 2 month) :=
    slice?_written (padded 4 year ++ ['-']) _ ('-' :: padded 2 day)
      (by simp [written, joined]) (by simp [hyear']) (by rw [hmonth'])
  have hsliceDay : slice? 8 10 (written year month day) = some (padded 2 day) :=
    slice?_written (padded 4 year ++ '-' :: (padded 2 month ++ ['-'])) _ []
      (by simp [written, joined]) (by simp [hyear', hmonth']) (by rw [hday'])
  have hreadYear : integer? 0x80000000 (padded 4 year) = some (year : Int) :=
    integer?_padded (by decide) hyear (by omega)
  have hreadMonth : natural? 0x100000000 (padded 2 month) = some month :=
    natural?_padded (by decide) hmonth (by omega)
  have hreadDay : natural? 0x100000000 (padded 2 day) = some day :=
    natural?_padded (by decide) hday (by omega)
  simp only [namesDay?, hsliceYear, hsliceMonth, hsliceDay, Option.bind_eq_bind, Option.bind_some, hreadYear,
    hreadMonth, hreadDay, Option.pure_def]

/-- A text of the shape of a date is one if its numbers name a day. -/
theorem isDate?_written (hyear : year < 10 ^ 4) (hmonth : month < 10 ^ 2) (hday : day < 10 ^ 2) :
    isDate? (written year month day) = some (isDay year month day) := by
  have hshape := dateShape?_bytes_iff.mpr ⟨year, month, day, hyear, hmonth, hday, rfl⟩
  rw [isDate?, hshape]
  exact namesDay?_written hyear hmonth hday

/-- A text of another shape is none. -/
theorem isDate?_other {cs : List Char} (h : dateShape? (bytes cs) ≠ some true) : isDate? cs = some false := by
  obtain ⟨shaped, hshaped⟩ : ∃ shaped, dateShape? (bytes cs) = some shaped := ⟨_, dateShape?_eq _⟩
  cases shaped with
  | true => exact absurd hshaped h
  | false =>
      rw [isDate?, hshaped]
      rfl

/-- **There is always an answer.** -/
theorem exists_isDate (cs : List Char) : ∃ answer, isDate? cs = some answer := by
  by_cases h : dateShape? (bytes cs) = some true
  · obtain ⟨year, month, day, hyear, hmonth, hday, rfl⟩ := dateShape?_bytes_iff.mp h
    exact ⟨_, isDate?_written hyear hmonth hday⟩
  · exact ⟨false, isDate?_other h⟩

end Dates

/-- The text of a date, `YYYY-MM-DD`. -/
def dateText (year month day : Nat) : String := String.ofList (written year month day)

/-- **Dates are the days of the calendar.** The check of a text always gives an answer: no byte is missing and
every cut falls between two characters, whatever the text. It accepts the text exactly if this is what a day
of the years 0 to 9999 is written as. -/
theorem isDate_iff_calendarDay (text : String) :
    isDate? text.toList = some (isDate text) ∧
      (isDate text = true ↔
        ∃ year month day, year ≤ 9999 ∧ CalendarDay year month day ∧ text = dateText year month day) := by
  obtain ⟨answer, hanswer⟩ := exists_isDate text.toList
  have hsame : isDate text = answer := by
    rw [isDate, hanswer]
    cases answer <;> rfl
  rw [hsame]
  refine ⟨hanswer, ?_, ?_⟩
  · rintro rfl
    have hshape : dateShape? (bytes text.toList) = some true := by
      by_contra hother
      rw [isDate?_other hother] at hanswer
      cases hanswer
    obtain ⟨year, month, day, hyear, hmonth, hday, hcs⟩ := dateShape?_bytes_iff.mp hshape
    rw [hcs, isDate?_written hyear hmonth hday] at hanswer
    refine ⟨year, month, day, by omega, isDay_iff.mp (Option.some.inj hanswer), ?_⟩
    rw [dateText, ← hcs, String.ofList_toList]
  · rintro ⟨year, month, day, hyear, hday, rfl⟩
    have hwritten : isDate? (written year month day) = some (isDay year month day) :=
      isDate?_written (by omega) (Nat.lt_of_le_of_lt hday.month_le (by decide))
        (Nat.lt_of_le_of_lt hday.day_le (by decide))
    rw [dateText, String.toList_ofList, hwritten] at hanswer
    rw [← Option.some.inj hanswer]
    exact isDay_iff.mpr hday

end JsonSchema.Format
