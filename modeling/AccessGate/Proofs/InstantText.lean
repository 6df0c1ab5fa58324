import AccessGate.Proofs.Dates
import AccessGate.Time.Text

/-! # Instants read back

    An instant is written in one form and read from many, so the reader has to be
    followed only where the writer leads it.  Each part of the text has one lemma:
    the reader of that part takes the part and leaves the rest.  `read?_write` puts
    them in a row, and `isDate_date` says that the date in the text is one that the
    reader accepts. -/

namespace AccessGate.Instant

open AccessGate.Text

/-! ## Numbers -/

/-- A padded number is written in digits. -/
theorem isDigit_of_mem_padded {width n : Nat} {c : Char} (h : c ∈ padded width n) :
    c.isDigit = true := by
  rcases List.mem_append.mp h with h | h
  · rw [List.eq_of_mem_replicate h]
    rfl
  · exact Nat.isDigit_of_mem_toDigits (by decide) (by decide) h

/-- The value of digits is that of the library. -/
theorem digitsValue_eq (digits : List Char) : digitsValue digits = Nat.ofDigitChars 10 digits 0 := by
  rw [digitsValue, Nat.ofDigitChars_eq_foldl]
  congr 1
  funext acc c
  rw [Nat.mul_comm]

/-- Padding does not change the number. -/
theorem digitsValue_padded (width n : Nat) : digitsValue (padded width n) = n := by
  rw [digitsValue_eq, padded, Nat.ofDigitChars_append, Nat.ofDigitChars_replicate_zero,
    Nat.mul_zero, Nat.ofDigitChars_ten_toDigits]

/-- A number that fits is padded to the width. -/
theorem length_padded {width n : Nat} (hw : 0 < width) (h : n < Nat.pow 10 width) :
    (padded width n).length = width := by
  have hdigits := (Nat.length_toDigits_le_iff (by decide : 1 < 10) hw).mpr h
  rw [padded, List.length_append, List.length_replicate]
  omega

/-- A written number begins with a digit. -/
theorem padded_eq_cons (width n : Nat) :
    ∃ c rest, padded width n = c :: rest ∧ c.isDigit = true := by
  cases hp : padded width n with
  | nil =>
      have hdigits := Nat.length_toDigits_pos (b := 10) (n := n)
      rw [padded, List.append_eq_nil_iff] at hp
      rw [hp.2] at hdigits
      cases hdigits
  | cons c rest => exact ⟨c, rest, rfl, isDigit_of_mem_padded (hp ▸ List.mem_cons_self)⟩

/-- No number goes on in a text. -/
def Stops (s : List Char) : Prop := s.takeWhile Char.isDigit = []

theorem stops_cons {c : Char} (s : List Char) (h : c.isDigit = false) : Stops (c :: s) := by
  rw [Stops, List.takeWhile_cons_of_neg (by rw [h]; decide)]

/-- A written number is read back, if it is not too long, and no more than it is read. -/
theorem readNumber_padded {most width n : Nat} {rest : List Char}
    (hle : (padded width n).length ≤ most)
    (hrest : Stops (rest.take (most - (padded width n).length))) :
    readNumber most (padded width n ++ rest) = some (n, rest) := by
  have hdigits : ((padded width n ++ rest).take most).takeWhile Char.isDigit = padded width n := by
    rw [List.take_append, List.take_of_length_le hle,
      List.takeWhile_append_of_pos fun c hc => isDigit_of_mem_padded hc, hrest, List.append_nil]
  obtain ⟨c, tail, hcons, -⟩ := padded_eq_cons width n
  rw [readNumber, hdigits, digitsValue_padded, List.drop_left, hcons]
  rfl

/-- A field of two digits. -/
theorem readNumber_two {n : Nat} (rest : List Char) (h : n < 100) :
    readNumber 2 (padded 2 n ++ rest) = some (n, rest) := by
  have hlength : (padded 2 n).length = 2 := length_padded (by decide) h
  refine readNumber_padded (Nat.le_of_eq hlength) ?_
  rw [hlength]
  rfl

theorem isBlank_of_isDigit {c : Char} (h : c.isDigit = true) : isBlank c = false := by
  simp only [Char.isDigit, Bool.and_eq_true, decide_eq_true_eq, ge_iff_le] at h
  have hlow : 48 ≤ c.toNat := h.1
  have hhigh : c.toNat ≤ 57 := h.2
  simp only [isBlank, Bool.or_eq_false_iff, Bool.and_eq_false_iff, beq_eq_false_iff_ne,
    decide_eq_false_iff_not]
  omega

theorem trimStart_cons {c : Char} (s : List Char) (h : isBlank c = false) :
    trimStart (c :: s) = c :: s := by
  rw [trimStart, List.dropWhile_cons_of_neg (by rw [h]; decide)]

/-- A number is no blank. -/
theorem trimStart_padded (width n : Nat) (rest : List Char) :
    trimStart (padded width n ++ rest) = padded width n ++ rest := by
  obtain ⟨c, tail, hcons, hdigit⟩ := padded_eq_cons width n
  rw [hcons, List.cons_append, trimStart_cons _ (isBlank_of_isDigit hdigit)]

/-! ## Parts -/

private theorem readYear_of_isDigit {c : Char} {s : List Char} (h : c.isDigit = true) :
    readYear (c :: s) = (readNumber 4 (c :: s)).map fun (n, s) => ((n : Int), s) := by
  rw [readYear]
  · rintro rest ⟨⟩
    cases h
  · rintro rest ⟨⟩
    cases h

/-- A year is read back as it was written, with its sign. -/
theorem readYear_writeYear (year : Int) {rest : List Char} (hrest : Stops rest) :
    readYear (writeYear year ++ rest) = some (year, rest) := by
  rw [writeYear]
  split
  · next h =>
    obtain ⟨n, rfl⟩ := Int.eq_ofNat_of_zero_le h.1
    have hlength : (padded 4 n).length = 4 := length_padded (by decide) (show n < 10000 by omega)
    have hread : readNumber 4 (padded 4 n ++ rest) = some (n, rest) := by
      refine readNumber_padded (Nat.le_of_eq hlength) ?_
      rw [hlength]
      rfl
    obtain ⟨c, tail, hcons, hdigit⟩ := padded_eq_cons 4 n
    rw [hcons, List.cons_append] at hread
    rw [Int.toNat_natCast, hcons, List.cons_append, readYear_of_isDigit hdigit, hread]
    rfl
  · -- behind a sign any number of digits is read
    have hread : readNumber (padded 4 year.natAbs ++ rest).length (padded 4 year.natAbs ++ rest)
        = some (year.natAbs, rest) := by
      refine readNumber_padded (by simp) ?_
      rw [List.take_of_length_le (by simp)]
      exact hrest
    by_cases hneg : year < 0
    · have hyear : -(year.natAbs : Int) = year := by omega
      rw [if_pos hneg, List.cons_append, readYear, hread]
      exact congrArg (fun y => some (y, rest)) hyear
    · have hyear : (year.natAbs : Int) = year := by omega
      rw [if_neg hneg, List.cons_append, readYear, hread]
      exact congrArg (fun y => some (y, rest)) hyear

/-- A year is no blank. -/
theorem trimStart_writeYear (year : Int) (rest : List Char) :
    trimStart (writeYear year ++ rest) = writeYear year ++ rest := by
  rw [writeYear]
  split
  · exact trimStart_padded _ _ _
  · split
    · rfl
    · rfl

/-- A fraction of so many digits. -/
private theorem readFraction_padded {width n : Nat} (hw : 0 < width) (hle : width ≤ 9)
    (h : n < Nat.pow 10 width) :
    readFraction ('.' :: (padded width n ++ ['Z'])) = some (n * Nat.pow 10 (9 - width), ['Z']) := by
  have hlength : (padded width n).length = width := length_padded hw h
  have hdigits : ((padded width n ++ ['Z']).take 9).takeWhile Char.isDigit = padded width n := by
    rw [List.take_append, List.take_of_length_le (by omega),
      List.takeWhile_append_of_pos fun c hc => isDigit_of_mem_padded hc]
    cases 9 - (padded width n).length with
    | zero => exact List.append_nil _
    | succ k => exact List.append_nil _
  obtain ⟨c, tail, hcons, -⟩ := padded_eq_cons width n
  rw [readFraction, hdigits, digitsValue_padded, hlength,
    List.dropWhile_append_of_pos fun c hc => isDigit_of_mem_padded hc, hcons]
  rfl

/-- So is the fraction of a second. -/
theorem readFraction_writeFraction {nano : Nat} (h : nano < 1000000000) :
    readFraction (writeFraction nano ++ ['Z']) = some (nano, ['Z']) := by
  rw [writeFraction]
  split
  · next hzero =>
    rw [hzero]
    rfl
  · split
    · have hdigits : nano / 1000000 < 1000 := by omega
      have hnano : nano / 1000000 * 1000000 = nano := by omega
      rw [List.cons_append, readFraction_padded (by decide) (by decide) hdigits]
      exact congrArg (fun n => some (n, ['Z'])) hnano
    · split
      · have hdigits : nano / 1000 < 1000000 := by omega
        have hnano : nano / 1000 * 1000 = nano := by omega
        rw [List.cons_append, readFraction_padded (by decide) (by decide) hdigits]
        exact congrArg (fun n => some (n, ['Z'])) hnano
      · rw [List.cons_append, readFraction_padded (by decide) (by decide) h]
        exact congrArg (fun n => some (n, ['Z'])) (Nat.mul_one nano)

theorem readChar_self (c : Char) (s : List Char) : readChar c (c :: s) = some s := by
  rw [readChar, if_pos rfl]

/-! ## Instants -/

/-- A local time that is there, at no distance from universal time. -/
theorem ofLocal?_of_isDate {year number : Int} {month day hour minute second nano : Nat}
    (hdate : Calendar.IsDate year month day number)
    (hyear : Calendar.firstYear ≤ year ∧ year ≤ Calendar.lastYear) (hhour : hour < 24)
    (hminute : minute < 60) (hsecond : second ≤ 60) (universal : Int)
    (huniversal : universal = number * 86400 + hour * 3600 + minute * 60
      + (if second = 60 then 59 else second : Nat)) :
    ofLocal? year month day hour minute second nano 0
      = of? universal (nano + if second = 60 then 1000000000 else 0) := by
  have hthere : Calendar.dayNumber year month day * 86400 + hour * 3600 + minute * 60
      + (if second = 60 then 59 else second : Nat) - 0 = universal := by
    rw [hdate.number, huniversal, Int.sub_zero]
  simp only [ofLocal?]
  rw [if_pos ⟨hyear.1, hyear.2, hdate.month_pos, hdate.month_le, hdate.day_pos, hdate.day_le, hhour,
    hminute, hsecond, by decide, by decide⟩, hthere]

/-- The parts of an instant make it up. -/
theorem ofLocal?_parts {t : Instant} {year : Int} {month day : Nat}
    (hdate : Calendar.date (t.second / 86400) = (year, month, day)) :
    ofLocal? year month day ((t.second % 86400).toNat / 3600) ((t.second % 86400).toNat / 60 % 60)
      ((t.second % 86400).toNat % 60 + if t.nano ≥ 1000000000 then 1 else 0)
      (if t.nano ≥ 1000000000 then t.nano - 1000000000 else t.nano) 0 = some t := by
  obtain ⟨hcalendar, hnano⟩ := t.proper
  have hbounds : firstSecond ≤ t.second ∧ t.second ≤ lastSecond := by
    simpa only [inCalendar, Bool.and_eq_true, decide_eq_true_eq] using hcalendar
  rw [firstSecond, lastSecond] at hbounds
  have hyear := Calendar.year_of_date hdate (by omega) (by omega)
  have hd := Calendar.isDate_date hdate
  by_cases hleap : t.nano ≥ 1000000000
  · -- only the last second of a minute is longer
    have hlast : t.second % 60 = 59 := by omega
    have hsecond : (t.second % 86400).toNat % 60 + 1 = 60 := by omega
    rw [if_pos hleap, if_pos hleap, hsecond,
      ofLocal?_of_isDate hd hyear (by omega) (by omega) (by omega) t.second
        (by rw [if_pos rfl]; omega), if_pos rfl, Nat.sub_add_cancel hleap]
    exact of?_eq_some_iff.mpr ⟨rfl, rfl⟩
  · rw [if_neg hleap, if_neg hleap,
      ofLocal?_of_isDate hd hyear (by omega) (by omega) (by omega) t.second
        (by rw [if_neg (by omega)]; omega), if_neg (by omega), Nat.add_zero]
    exact of?_eq_some_iff.mpr ⟨rfl, rfl⟩

private theorem bind_of_eq_some {α β : Type} {o : Option α} {a : α} (f : α → Option β)
    (h : o = some a) : (o >>= f) = f a := by
  rw [h]
  rfl

/-- The parts of an instant are read back as they were written. -/
theorem readChars_written (year : Int) {month day hour minute second nano : Nat}
    (hmonth : month < 100) (hday : day < 100) (hhour : hour < 100) (hminute : minute < 100)
    (hsecond : second < 100) (hnano : nano < 1000000000) :
    readChars (writeYear year ++ '-' :: padded 2 month ++ '-' :: padded 2 day ++ 'T' :: padded 2 hour
      ++ ':' :: padded 2 minute ++ ':' :: padded 2 second ++ writeFraction nano ++ ['Z'])
      = ofLocal? year month day hour minute second nano 0 := by
  have hdash : isBlank '-' = false := rfl
  have hcolon : isBlank ':' = false := rfl
  have hsign {c : Char} (h : isBlank c = false) (rest : List Char) :
      readChar c (trimStart (c :: rest)) = some rest := by
    rw [trimStart_cons rest h, readChar_self]
  have hnumber {n : Nat} (h : n < 100) (rest : List Char) :
      readNumber 2 (trimStart (padded 2 n ++ rest)) = some (n, rest) := by
    rw [trimStart_padded, readNumber_two rest h]
  simp only [List.append_assoc, List.cons_append]
  -- part by part, each reader takes what was written for it
  rw [readChars, trimStart_writeYear]
  refine (bind_of_eq_some _ (readYear_writeYear year (stops_cons _ rfl))).trans ?_
  refine (bind_of_eq_some _ (hsign hdash _)).trans ?_
  refine (bind_of_eq_some _ (hnumber hmonth _)).trans ?_
  refine (bind_of_eq_some _ (hsign hdash _)).trans ?_
  refine (bind_of_eq_some _ (hnumber hday _)).trans ?_
  refine (bind_of_eq_some _ (hnumber hhour _)).trans ?_
  refine (bind_of_eq_some _ (hsign hcolon _)).trans ?_
  refine (bind_of_eq_some _ (hnumber hminute _)).trans ?_
  refine (bind_of_eq_some _ (hsign hcolon _)).trans ?_
  refine (bind_of_eq_some _ (hnumber hsecond _)).trans ?_
  exact bind_of_eq_some _ (readFraction_writeFraction hnano)

/-- A written instant is read back. -/
theorem read?_write (t : Instant) : read? t.write = some t := by
  obtain ⟨⟨year, month, day⟩, hdate⟩ : ∃ date, Calendar.date (t.second / 86400) = date := ⟨_, rfl⟩
  have hparts := ofLocal?_parts hdate
  have hd := Calendar.isDate_date hdate
  have hday : day < 100 := by
    have hle := hd.day_le
    rw [Calendar.daysInMonth] at hle
    split at hle
    · split at hle
      · omega
      · omega
    · split at hle
      · omega
      · omega
  have hmonth : month < 100 := Nat.lt_of_le_of_lt hd.month_le (by decide)
  have hhour : (t.second % 86400).toNat / 3600 < 100 := by omega
  have hminute : (t.second % 86400).toNat / 60 % 60 < 100 := by omega
  have hsecond : (t.second % 86400).toNat % 60 + (if t.nano ≥ 1000000000 then 1 else 0) < 100 := by
    split
    · omega
    · omega
  have hfraction : (if t.nano ≥ 1000000000 then t.nano - 1000000000 else t.nano) < 1000000000 := by
    have hnano := t.proper.2
    split
    · omega
    · omega
  rw [read?, write, hdate, String.toList_ofList]
  exact (readChars_written year hmonth hday hhour hminute hsecond hfraction).trans hparts

end AccessGate.Instant
