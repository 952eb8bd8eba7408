import Resilience.Proofs.Time.Calendar

/-!
# Reading what was written

The text of a point of time reads back as that point of time (`Timestamp.ofText?_text`). Each reader
of a part takes what the writer of that part has written, whatever text follows it that does not
begin with a digit.
-/

namespace Resilience.Timestamp

/-! ## Numbers -/

/-- Decimal digits that spell a number. -/
structure Spells (n : Nat) (cs : List Char) : Prop where
  digits : ∀ c ∈ cs, c.isDigit = true
  value : Text.digitsValue cs = n
  nonempty : cs ≠ []

theorem toList_padded (width n : Nat) : (padded width n).toList =
    List.replicate (width - (Nat.toDigits 10 n).length) '0' ++ Nat.toDigits 10 n := by
  simp [padded]

theorem spells_padded (width n : Nat) : Spells n (padded width n).toList := by
  rw [toList_padded]
  refine ⟨fun c hc => ?_, ?_, by simp⟩
  · rcases List.mem_append.1 hc with hzero | hdigit
    · rw [(List.mem_replicate.1 hzero).2]
      rfl
    · exact Nat.isDigit_of_mem_toDigits (by decide) (by decide) hdigit
  · calc Text.digitsValue _
      _ = Nat.ofDigitChars 10 (List.replicate _ '0' ++ Nat.toDigits 10 n) 0 := rfl
      _ = Nat.ofDigitChars 10 (Nat.toDigits 10 n) 0 := by
        rw [Nat.ofDigitChars_append, Nat.ofDigitChars_replicate_zero, Nat.mul_zero]
      _ = n := Nat.ofDigitChars_ten_toDigits

theorem length_padded {width n : Nat} (hw : 0 < width) (h : n < 10 ^ width) :
    (padded width n).toList.length = width := by
  have := (Nat.length_toDigits_le_iff (by decide) hw).2 h
  rw [toList_padded, List.length_append, List.length_replicate]
  omega

variable {n : Nat} {cs rest : List Char}

theorem Spells.takeWhile_append (h : Spells n cs) (hrest : rest.takeWhile Char.isDigit = []) :
    (cs ++ rest).takeWhile Char.isDigit = cs := by
  rw [List.takeWhile_append_of_pos h.digits, hrest, List.append_nil]

theorem Spells.zeros (h : Spells n cs) (k : Nat) :
    Text.digitsValue (cs ++ List.replicate k '0') = n * 10 ^ k := by
  calc Text.digitsValue (cs ++ List.replicate k '0')
    _ = Nat.ofDigitChars 10 (cs ++ List.replicate k '0') 0 := rfl
    _ = 10 ^ k * Nat.ofDigitChars 10 cs 0 := by
      rw [Nat.ofDigitChars_append, Nat.ofDigitChars_replicate_zero]
    _ = n * 10 ^ k := by rw [Nat.mul_comm, ← h.value]; rfl

theorem number?_of_spells (h : Spells n cs) {most : Nat} (hlen : cs.length ≤ most)
    (hrest : rest.takeWhile Char.isDigit = []) : number? most (cs ++ rest) = some (n, rest) := by
  simp [number?, h.takeWhile_append hrest, List.take_of_length_le hlen, h.nonempty,
    h.value]

theorem isBlank_of_isDigit {c : Char} (h : c.isDigit = true) : Text.isBlank c = false := by
  simp only [Char.isDigit, Bool.and_eq_true, decide_eq_true_eq] at h
  have : 48 ≤ c.toNat ∧ c.toNat ≤ 57 := h
  simp [Text.isBlank]
  omega

theorem skipBlanks_of_spells (h : Spells n cs) : skipBlanks (cs ++ rest) = cs ++ rest := by
  obtain ⟨c, cs, rfl⟩ := List.exists_cons_of_ne_nil h.nonempty
  simp [skipBlanks, isBlank_of_isDigit (h.digits c (by simp))]

/-! ## Parts -/

theorem part?_of_spells (h : Spells n cs) {least most : Nat} (hlen : cs.length ≤ 2)
    (hrest : rest.takeWhile Char.isDigit = []) (hleast : least ≤ n) (hmost : n ≤ most) :
    part? least most (cs ++ rest) = some (n, rest) := by
  simp [part?, skipBlanks_of_spells h, number?_of_spells h hlen hrest, hleast, hmost, guard]

theorem part?_padded {least most n : Nat} (hrest : rest.takeWhile Char.isDigit = [])
    (hleast : least ≤ n) (hmost : n ≤ most) (hn : n < 100) :
    part? least most ((padded 2 n).toList ++ rest) = some (n, rest) :=
  part?_of_spells (spells_padded 2 n) (length_padded (by decide) hn).le hrest hleast hmost

theorem mark?_cons {mark : Char} (h : Text.isBlank mark = false) :
    mark? mark (mark :: rest) = some rest := by
  simp [mark?, skipBlanks, h]

theorem year?_of_spells (h : Spells n cs) (hlen : cs.length ≤ 4)
    (hrest : rest.takeWhile Char.isDigit = []) : year? (cs ++ rest) = some ((n : Int), rest) := by
  obtain ⟨c, ds, hcs⟩ := List.exists_cons_of_ne_nil h.nonempty
  have hc : c.isDigit = true := h.digits c (by simp [hcs])
  rw [year?, skipBlanks_of_spells h]
  split
  · next heq =>
    simp only [hcs, List.cons_append, List.cons.injEq] at heq
    rw [heq.1] at hc
    contradiction
  · next heq =>
    simp only [hcs, List.cons_append, List.cons.injEq] at heq
    rw [heq.1] at hc
    contradiction
  · rw [number?_of_spells h hlen hrest, Option.map_some]

theorem year?_minus_of_spells (h : Spells n cs) (hrest : rest.takeWhile Char.isDigit = []) :
    year? ('-' :: (cs ++ rest)) = some (-(n : Int), rest) := by
  change (number? (cs ++ rest).length (cs ++ rest)).map _ = _
  rw [number?_of_spells h (by simp) hrest, Option.map_some]

theorem year?_plus_of_spells (h : Spells n cs) (hrest : rest.takeWhile Char.isDigit = []) :
    year? ('+' :: (cs ++ rest)) = some ((n : Int), rest) := by
  change (number? (cs ++ rest).length (cs ++ rest)).map _ = _
  rw [number?_of_spells h (by simp) hrest, Option.map_some]

theorem year?_yearText (year : Int) (hrest : rest.takeWhile Char.isDigit = []) :
    year? ((yearText year).toList ++ rest) = some (year, rest) := by
  by_cases hplain : 0 ≤ year ∧ year ≤ 9999
  · have hlen : (padded 4 year.toNat).toList.length = 4 := length_padded (by decide) (by omega)
    rw [yearText, if_pos hplain, year?_of_spells (spells_padded 4 year.toNat) hlen.le hrest,
      Int.toNat_of_nonneg hplain.1]
  · have h := spells_padded 4 year.natAbs
    rw [yearText, if_neg hplain, String.toList_append, List.append_assoc]
    by_cases hneg : year < 0
    · have hsign : "-".toList = ['-'] := rfl
      rw [if_pos hneg, hsign, List.singleton_append, year?_minus_of_spells h hrest,
        show -(year.natAbs : Int) = year by omega]
    · have hsign : "+".toList = ['+'] := rfl
      rw [if_neg hneg, hsign, List.singleton_append, year?_plus_of_spells h hrest,
        show (year.natAbs : Int) = year by omega]

theorem fraction?_padded {width : Nat} (hw : 0 < width) (hw9 : width ≤ 9) (hn : n < 10 ^ width)
    (hrest : rest.takeWhile Char.isDigit = []) :
    fraction? (("." ++ padded width n).toList ++ rest) = some (n * 10 ^ (9 - width), rest) := by
  have h := spells_padded width n
  have hlen := length_padded hw hn
  rw [String.toList_append]
  change fraction? ('.' :: ((padded width n).toList ++ rest)) = _
  rw [fraction?, h.takeWhile_append hrest, if_neg (by simpa using h.nonempty)]
  simp [List.take_of_length_le (hlen.trans_le hw9), hlen, h.zeros]

theorem fraction?_fractionText {nanos : Nat} (hn : nanos < 1000000000) :
    fraction? ((fractionText nanos).toList ++ ['Z']) = some (nanos, ['Z']) := by
  have hrest : ['Z'].takeWhile Char.isDigit = [] := rfl
  rw [fractionText]
  by_cases hzero : nanos = 0
  · rw [if_pos hzero, hzero]
    rfl
  rw [if_neg hzero]
  by_cases hmillis : nanos % 1000000 = 0
  · rw [if_pos hmillis, fraction?_padded (by decide) (by decide) (by omega) hrest]
    congr 2
    omega
  rw [if_neg hmillis]
  by_cases hmicros : nanos % 1000 = 0
  · rw [if_pos hmicros, fraction?_padded (by decide) (by decide) (by omega) hrest]
    congr 2
    omega
  · rw [if_neg hmicros, fraction?_padded (by decide) (by decide) (by omega) hrest]
    congr 2
    omega

/-! ## Dates and times of day -/

theorem date?_padded {year : Int} {month day : Nat} (h : IsDate (year, month, day))
    (hrest : rest.takeWhile Char.isDigit = []) :
    date? ((yearText year).toList ++ '-' :: ((padded 2 month).toList ++
      '-' :: ((padded 2 day).toList ++ rest))) = some ((year, month, day), rest) := by
  obtain ⟨hmonth, hmonth12, hday, hdayle⟩ := h
  dsimp only at hmonth hmonth12 hday hdayle
  have hday31 := hdayle.trans (daysInMonth_le year month)
  have hdash : Text.isBlank '-' = false := rfl
  rw [date?, year?_yearText year rfl]
  simp only [Option.bind_eq_bind, Option.bind_some, mark?_cons hdash]
  rw [part?_padded rfl hmonth hmonth12 (by omega)]
  simp only [Option.bind_some, mark?_cons hdash]
  rw [part?_padded hrest hday hday31 (by omega), Option.bind_some]

theorem takeWhile_fractionText (nanos : Nat) :
    ((fractionText nanos).toList ++ ['Z']).takeWhile Char.isDigit = [] := by
  unfold fractionText
  split_ifs <;> simp [String.toList_append]

theorem timeOfDay?_padded {hour minute second nanos : Nat} (hhour : hour < 24)
    (hminute : minute < 60) (hsecond : second ≤ 60) (hnanos : nanos < 1000000000) :
    timeOfDay? ((padded 2 hour).toList ++ ':' :: ((padded 2 minute).toList ++
      ':' :: ((padded 2 second).toList ++ ((fractionText nanos).toList ++ ['Z'])))) =
      some ((hour, minute, second, nanos), ['Z']) := by
  have hcolon : Text.isBlank ':' = false := rfl
  rw [timeOfDay?, part?_padded rfl (Nat.zero_le _) (by omega) (by omega)]
  simp only [Option.bind_eq_bind, Option.bind_some, mark?_cons hcolon]
  rw [part?_padded rfl (Nat.zero_le _) (by omega) (by omega)]
  simp only [Option.bind_some, mark?_cons hcolon]
  rw [part?_padded (takeWhile_fractionText nanos) (Nat.zero_le _) hsecond (by omega)]
  simp only [Option.bind_some, fraction?_fractionText hnanos]

/-! ## Points of time -/

theorem of?_seconds_nanos (t : Timestamp) : of? t.seconds t.nanos = some t := dif_pos t.valid

/-- The characters of the text of a time, part by part. -/
theorem toList_text {t : Timestamp} {year : Int} {month day inDay : Nat}
    (hdate : dateOfDays (t.seconds / 86400) = (year, month, day))
    (hinDay : t.seconds % 86400 = inDay) : t.text.toList =
      (yearText year).toList ++ '-' :: ((padded 2 month).toList ++ '-' :: ((padded 2 day).toList ++
        'T' :: ((padded 2 (inDay / 3600)).toList ++ ':' :: ((padded 2 (inDay / 60 % 60)).toList ++
          ':' :: ((padded 2 (inDay % 60 + t.nanos / 1000000000)).toList ++
            ((fractionText (t.nanos % 1000000000)).toList ++ ['Z'])))))) := by
  simp [text, hdate, hinDay]

/-- A time is read back from its text. In a leap second the text has the second 60, and the reader
takes it for the 59th with a thousand million nanoseconds more. -/
theorem ofText?_text (t : Timestamp) : ofText? t.text = some t := by
  obtain ⟨hfirst, hend, hnanos, hleap⟩ := t.valid
  obtain ⟨hdate, hdays⟩ := dateOfDays_spec (t.seconds / 86400)
  obtain ⟨inDay, hinDay⟩ : ∃ n : Nat, t.seconds % 86400 = n :=
    Int.eq_ofNat_of_zero_le (Int.emod_nonneg _ (by decide))
  have hlt : inDay < 86400 := by omega
  have hfirstDay : daysOfDate firstYear 1 1 * 86400 = firstSecond := by decide
  have hendDay : daysOfDate (lastYear + 1) 1 1 * 86400 = endSecond := by decide
  rcases hsplit : dateOfDays (t.seconds / 86400) with ⟨year, month, day⟩
  rw [hsplit] at hdate hdays
  dsimp only at hdays
  have hyear : firstYear ≤ year ∧ year ≤ lastYear := year_bounds hdate (by omega) (by omega)
  have hsecond : inDay % 60 + t.nanos / 1000000000 ≤ 60 := by omega
  have hbetween (cs : List Char) : between? ('T' :: cs) = some cs := rfl
  have hoffset : offset? (skipBlanks ['Z']) = some (0, []) := rfl
  rw [ofText?, toList_text hsplit hinDay, date?_padded hdate rfl]
  simp only [Option.bind_eq_bind, Option.bind_some, hbetween]
  rw [timeOfDay?_padded (by omega) (by omega) hsecond (by omega)]
  simp only [Option.bind_some, hoffset]
  have hseconds : daysOfDate year month day * 86400 + ((inDay / 3600 * 3600 +
      inDay / 60 % 60 * 60 + min (inDay % 60 + t.nanos / 1000000000) 59 : Nat) : Int) - 0 =
      t.seconds := by
    rw [hdays]
    omega
  have hnanos : (if inDay % 60 + t.nanos / 1000000000 = 60 then
      t.nanos % 1000000000 + 1000000000 else t.nanos % 1000000000) = t.nanos := by
    split <;> omega
  rw [hseconds, hnanos, of?_seconds_nanos]
  simp [guard, skipBlanks, hdate.day_le, hyear]

end Resilience.Timestamp
