import Mathlib
import DoubleEntry.Time.Text

/-!
# Timestamps are read as they are written

Every timestamp is read back from its text, whatever its year: the digits of each number are as many as the
reader takes, no digit follows where it could take more, and nothing that is written is white space. A text
that is read is therefore the normal form of itself once it is written again.
-/

namespace DoubleEntry

/-! ## Digits -/

namespace Text

theorem isSpace_of_isDigit {c : Char} (h : c.isDigit = true) : isSpace c = false := by
  have hrange : 48 ≤ c.toNat ∧ c.toNat ≤ 57 := by
    simpa [Char.isDigit, UInt32.le_iff_toNat_le] using h
  obtain ⟨hlow, hhigh⟩ := hrange
  simp only [isSpace, Bool.or_eq_false_iff, Bool.and_eq_false_iff, decide_eq_false_iff_not, beq_eq_false_iff_ne]
  omega

theorem trimLeft_cons {c : Char} (h : isSpace c = false) (rest : List Char) :
    trimLeft (c :: rest) = c :: rest :=
  List.dropWhile_cons_of_neg (by rw [h]; exact Bool.false_ne_true)

/-- Digits at the start of a text are no white space. -/
theorem trimLeft_digits {digits : List Char} (hne : digits ≠ []) (h : ∀ c ∈ digits, c.isDigit = true)
    (rest : List Char) : trimLeft (digits ++ rest) = digits ++ rest := by
  obtain ⟨c, others, rfl⟩ := List.exists_cons_of_ne_nil hne
  exact trimLeft_cons (isSpace_of_isDigit (h c List.mem_cons_self)) (others ++ rest)

theorem digit?_digitChar {d : Nat} (h : d < 10) : digit? (Nat.digitChar d) = some d := by
  interval_cases d <;> decide

theorem isDigit_digitChar {d : Nat} (h : d < 10) : (Nat.digitChar d).isDigit = true := by
  interval_cases d <;> decide

theorem digitsFrom?_append (acc : Nat) (as bs : List Char) :
    digitsFrom? acc (as ++ bs) = (digitsFrom? acc as).bind fun n => digitsFrom? n bs := by
  induction as generalizing acc with
  | nil => rfl
  | cons c rest ih =>
    rw [List.cons_append, digitsFrom?, digitsFrom?]
    cases digit? c with
    | none => rfl
    | some d => exact ih (acc * 10 + d)

theorem digitsFrom?_digitChar (acc : Nat) {d : Nat} (h : d < 10) :
    digitsFrom? acc [Nat.digitChar d] = some (acc * 10 + d) := by
  rw [digitsFrom?, digit?_digitChar h]
  rfl

theorem natural?_of_ne_nil {cs : List Char} (h : cs ≠ []) : natural? cs = digitsFrom? 0 cs := by
  cases cs with
  | nil => exact absurd rfl h
  | cons c rest => rfl

/-- The decimal form of a number is read as the number. -/
theorem digitsFrom?_toDigits (n : Nat) : digitsFrom? 0 (Nat.toDigits 10 n) = some n := by
  induction n using Nat.strong_induction_on with
  | _ n ih =>
    by_cases hn : n < 10
    · rw [Nat.toDigits_of_lt_base hn, digitsFrom?_digitChar 0 hn, Nat.zero_mul, Nat.zero_add]
    · have hsplit : 10 * (n / 10) + n % 10 = n := Nat.div_add_mod n 10
      have hlast : n % 10 < 10 := Nat.mod_lt n (by decide)
      have hdigits : Nat.toDigits 10 n = Nat.toDigits 10 (n / 10) ++ [Nat.digitChar (n % 10)] := by
        rw [← Nat.toDigits_of_lt_base hlast, Nat.toDigits_append_toDigits (by decide) (by omega) hlast,
          hsplit]
      rw [hdigits, digitsFrom?_append, ih (n / 10) (by omega), Option.bind_some,
        digitsFrom?_digitChar _ hlast, Nat.mul_comm, hsplit]

end Text

namespace Time

open DoubleEntry.Text

/-! ## Numbers of a fixed width -/

theorem padded_length (width n : Nat) : (padded width n).length = width := by
  induction width generalizing n with
  | zero => rfl
  | succ width ih => rw [padded, List.length_append, ih, List.length_singleton]

theorem padded_digits (width n : Nat) : ∀ c ∈ padded width n, c.isDigit = true := by
  induction width generalizing n with
  | zero => exact fun c hc => absurd hc List.not_mem_nil
  | succ width ih =>
    intro c hc
    rcases List.mem_append.mp hc with hc | hc
    · exact ih (n / 10) c hc
    · rw [List.mem_singleton.mp hc]
      exact isDigit_digitChar (Nat.mod_lt n (by decide))

theorem padded_ne_nil {width : Nat} (h : 0 < width) (n : Nat) : padded width n ≠ [] := by
  refine List.ne_nil_of_length_pos ?_
  rw [padded_length]
  exact h

theorem digitsFrom?_padded (acc width n : Nat) :
    digitsFrom? acc (padded width n) = some (acc * 10 ^ width + n % 10 ^ width) := by
  induction width generalizing n with
  | zero =>
    rw [padded, digitsFrom?, Nat.pow_zero, Nat.mod_one, Nat.mul_one, Nat.add_zero]
  | succ width ih =>
    have hlast : n % 10 < 10 := Nat.mod_lt n (by decide)
    have hmod : n % 10 ^ (width + 1) = n % 10 + 10 * (n / 10 % 10 ^ width) := by
      rw [Nat.pow_succ', Nat.mod_mul]
    rw [padded, digitsFrom?_append, ih, Option.bind_some, digitsFrom?_digitChar _ hlast, hmod,
      Nat.pow_succ]
    congr 1
    ring

/-- A number that the width has room for is read back from its digits. -/
theorem natural?_padded {width n : Nat} (hwidth : 0 < width) (hn : n < 10 ^ width) :
    natural? (padded width n) = some n := by
  rw [natural?_of_ne_nil (padded_ne_nil hwidth n), digitsFrom?_padded, Nat.zero_mul, Nat.zero_add,
    Nat.mod_eq_of_lt hn]

/-! ## Reading numbers -/

/-- A reader takes no digit from here. -/
def NoDigit (cs : List Char) : Prop := ∀ c ∈ cs.head?, c.isDigit = false

theorem noDigit_cons {c : Char} (h : c.isDigit = false) (rest : List Char) : NoDigit (c :: rest) := by
  intro d hd
  cases hd
  exact h

/-- Digits are taken to the last one if there is room for them, and then no further digit is. -/
theorem takeDigits_append {width : Nat} {digits rest : List Char}
    (hdigits : ∀ c ∈ digits, c.isDigit = true) (hwidth : digits.length ≤ width)
    (hrest : digits.length = width ∨ NoDigit rest) :
    takeDigits width (digits ++ rest) = (digits, rest) := by
  induction digits generalizing width with
  | nil =>
    cases width with
    | zero => rfl
    | succ width =>
      rcases hrest with hfull | hrest
      · exact absurd hfull (Nat.succ_ne_zero width).symm
      · cases rest with
        | nil => rfl
        | cons c rest =>
          rw [List.nil_append, takeDigits, hrest c rfl]
          rfl
  | cons c digits ih =>
    cases width with
    | zero => exact absurd hwidth (Nat.not_succ_le_zero _)
    | succ width =>
      have hothers : takeDigits width (digits ++ rest) = (digits, rest) :=
        ih (fun d hd => hdigits d (List.mem_cons_of_mem c hd)) (Nat.le_of_succ_le_succ hwidth)
          (hrest.imp_left Nat.succ.inj)
      rw [List.cons_append, takeDigits, hdigits c List.mem_cons_self, hothers]
      rfl

theorem readNumber_append {width n : Nat} {digits rest : List Char} (hn : natural? digits = some n)
    (hdigits : ∀ c ∈ digits, c.isDigit = true) (hwidth : digits.length ≤ width)
    (hrest : digits.length = width ∨ NoDigit rest) :
    readNumber width (digits ++ rest) = some (n, rest) := by
  rw [readNumber, takeDigits_append hdigits hwidth hrest]
  dsimp only
  rw [hn]
  rfl

theorem readField_padded {n : Nat} (h : n < 100) (rest : List Char) :
    readField (padded 2 n ++ rest) = some (n, rest) := by
  have hlength := padded_length 2 n
  rw [readField, trimLeft_digits (padded_ne_nil (by decide) n) (padded_digits 2 n)]
  exact readNumber_append (natural?_padded (by decide) h) (padded_digits 2 n) (Nat.le_of_eq hlength)
    (Or.inl hlength)

theorem readMark_self {mark : Char} (h : isSpace mark = false) (rest : List Char) :
    readMark mark (mark :: rest) = some rest := by
  rw [readMark, trimLeft_cons h]
  exact if_pos rfl

/-! ## Years -/

theorem readYear_unsigned {c : Char} (h : c.isDigit = true) (rest : List Char) :
    readYear (c :: rest) = (readNumber 4 (c :: rest)).map fun r => ((r.1 : Int), r.2) := by
  rw [readYear, trimLeft_cons (isSpace_of_isDigit h)]
  split
  · rename_i heq
    cases heq
    exact absurd h (by decide)
  · rename_i heq
    cases heq
    exact absurd h (by decide)
  · rfl

theorem readYear_minus (rest : List Char) :
    readYear ('-' :: rest) = (readNumber rest.length rest).map fun r => (-(r.1 : Int), r.2) := by
  rw [readYear, trimLeft_cons (by decide)]
  rfl

theorem readYear_plus (rest : List Char) :
    readYear ('+' :: rest) = (readNumber rest.length rest).map fun r => ((r.1 : Int), r.2) := by
  rw [readYear, trimLeft_cons (by decide)]
  rfl

/-- The digits of a year that stand after a sign. -/
def yearDigits (n : Nat) : List Char := if n < 10000 then padded 4 n else Nat.toDigits 10 n

theorem yearText_signed {year : Int} (h : ¬(0 ≤ year ∧ year ≤ 9999)) :
    yearText year = (if year < 0 then '-' else '+') :: yearDigits year.natAbs :=
  if_neg h

theorem yearDigits_digits (n : Nat) : ∀ c ∈ yearDigits n, c.isDigit = true := by
  unfold yearDigits
  split
  · exact padded_digits 4 n
  · exact fun c hc => Nat.isDigit_of_mem_toDigits (by decide) (by decide) hc

theorem natural?_yearDigits (n : Nat) : natural? (yearDigits n) = some n := by
  unfold yearDigits
  split
  · rename_i hn
    exact natural?_padded (by decide) hn
  · rw [natural?_of_ne_nil Nat.toDigits_ne_nil]
    exact digitsFrom?_toDigits n

theorem readNumber_yearDigits (n : Nat) {rest : List Char} (hrest : NoDigit rest) :
    readNumber (yearDigits n ++ rest).length (yearDigits n ++ rest) = some (n, rest) := by
  refine readNumber_append (natural?_yearDigits n) (yearDigits_digits n) ?_ (Or.inr hrest)
  rw [List.length_append]
  exact Nat.le_add_right _ _

/-- A year is read back, with or without a sign. -/
theorem readYear_yearText (year : Int) {rest : List Char} (hrest : NoDigit rest) :
    readYear (yearText year ++ rest) = some (year, rest) := by
  by_cases hfour : 0 ≤ year ∧ year ≤ 9999
  · have hlength := padded_length 4 year.toNat
    have hdigits := padded_digits 4 year.toNat
    have hread : readNumber 4 (padded 4 year.toNat ++ rest) = some (year.toNat, rest) :=
      readNumber_append (natural?_padded (by decide) (by omega)) hdigits (Nat.le_of_eq hlength)
        (Or.inl hlength)
    obtain ⟨c, others, hcs⟩ := List.exists_cons_of_ne_nil (padded_ne_nil (by decide : 0 < 4) year.toNat)
    rw [yearText, if_pos hfour, hcs]
    rw [hcs] at hread hdigits
    rw [List.cons_append, readYear_unsigned (hdigits c List.mem_cons_self), ← List.cons_append, hread]
    exact congrArg (fun n => some (n, rest)) (Int.toNat_of_nonneg hfour.1)
  · have hread := readNumber_yearDigits year.natAbs hrest
    rw [yearText_signed hfour, List.cons_append]
    by_cases hneg : year < 0
    · have hvalue : -(year.natAbs : Int) = year := by omega
      rw [if_pos hneg, readYear_minus, hread]
      exact congrArg (fun n => some (n, rest)) hvalue
    · have hvalue : (year.natAbs : Int) = year := by omega
      rw [if_neg hneg, readYear_plus, hread]
      exact congrArg (fun n => some (n, rest)) hvalue

/-! ## Fractions -/

theorem padded_zero (width : Nat) : padded width 0 = List.replicate width '0' := by
  induction width with
  | zero => rfl
  | succ width ih =>
    rw [padded, Nat.zero_div, ih, List.replicate_succ']
    rfl

/-- The digits of a fraction that are left out stand for zeros. -/
theorem fractionValue_padded {width n : Nat} (hwidth : 0 < width) (hn : n < 10 ^ width) :
    fractionValue (padded width n) = some (n * 10 ^ (9 - width)) := by
  have hne : padded width n ++ List.replicate (9 - (padded width n).length) '0' ≠ [] := by
    intro h
    exact padded_ne_nil hwidth n (List.append_eq_nil_iff.mp h).1
  rw [fractionValue, natural?_of_ne_nil hne, digitsFrom?_append, digitsFrom?_padded, Option.bind_some,
    ← padded_zero, digitsFrom?_padded, padded_length, Nat.zero_mul, Nat.zero_add, Nat.mod_eq_of_lt hn,
    Nat.zero_mod, Nat.add_zero]

theorem readFraction_padded {width n : Nat} (hwidth : 0 < width ∧ width ≤ 9) (hn : n < 10 ^ width)
    {rest : List Char} (hrest : NoDigit rest) :
    readFraction ('.' :: padded width n ++ rest) = some (n * 10 ^ (9 - width), rest) := by
  have htake : takeDigits 9 (padded width n ++ rest) = (padded width n, rest) :=
    takeDigits_append (padded_digits width n) (by rw [padded_length]; exact hwidth.2) (Or.inr hrest)
  have hleft : rest.dropWhile Char.isDigit = rest := by
    cases rest with
    | nil => rfl
    | cons c rest => exact List.dropWhile_cons_of_neg (by rw [hrest c rfl]; exact Bool.false_ne_true)
  rw [List.cons_append, readFraction, htake]
  dsimp only
  rw [if_neg (padded_ne_nil hwidth.1 n), fractionValue_padded hwidth.1 hn, hleft]
  rfl

/-- A fraction is read back whichever number of its digits is written. -/
theorem readFraction_fractionText {nano : Nat} (h : nano < 1000000000) (rest : List Char) :
    readFraction (fractionText nano ++ 'Z' :: rest) = some (nano, 'Z' :: rest) := by
  have hend : NoDigit ('Z' :: rest) := noDigit_cons (by decide) rest
  unfold fractionText
  split
  · rename_i hzero
    rw [hzero]
    rfl
  · split
    · rename_i hmillis
      rw [readFraction_padded (by decide) (by omega) hend]
      exact congrArg (fun n => some (n, 'Z' :: rest)) (by omega)
    · split
      · rename_i hmicros
        rw [readFraction_padded (by decide) (by omega) hend]
        exact congrArg (fun n => some (n, 'Z' :: rest)) (by omega)
      · rw [readFraction_padded (by decide) (by omega) hend]
        exact congrArg (fun n => some (n, 'Z' :: rest)) (by omega)

/-! ## Whole timestamps -/

theorem daysInMonth_le (year : Int) (month : Nat) : daysInMonth year month ≤ 31 := by
  have hfebruary : (if isLeapYear year then 29 else 28) ≤ 31 := by split <;> decide
  unfold daysInMonth
  split <;> first | exact hfebruary | decide

theorem Date.month_le (d : Date) : d.month ≤ 12 := by
  by_contra hmonth
  have hnone : daysInMonth d.year d.month = 0 := by
    unfold daysInMonth
    split <;> first | rfl | omega
  have hday := d.day_range
  omega

theorem Date.day_le (d : Date) : d.day ≤ 31 := Nat.le_trans d.day_range.2 (daysInMonth_le d.year d.month)

theorem readDate_text (d : Date) (rest : List Char) :
    readDate (yearText d.year ++ '-' :: (padded 2 d.month ++ '-' :: (padded 2 d.day ++ rest))) =
      some (d, rest) := by
  have hmonth : d.month < 100 := Nat.lt_of_le_of_lt d.month_le (by decide)
  have hday : d.day < 100 := Nat.lt_of_le_of_lt d.day_le (by decide)
  rw [readDate, readYear_yearText d.year (noDigit_cons (by decide) _)]
  simp only [Option.bind_eq_bind, Option.bind_some, readMark_self (by decide : isSpace '-' = false),
    readField_padded hmonth, readField_padded hday, Date.of?_self]

namespace Timestamp

theorem of?_self (t : Timestamp) : of? t.date t.hour t.minute t.second t.nano = some t :=
  dif_pos ⟨t.hour_lt, t.minute_lt, t.second_le, t.nano_lt⟩

theorem addMinutes?_zero (t : Timestamp) : t.addMinutes? 0 = some t := by
  have hhour := t.hour_lt
  have hminute := t.minute_lt
  have hhours : ((t.hour * 60 + t.minute + 0 : Int) / 60).toNat = t.hour := by omega
  have hminutes : ((t.hour * 60 + t.minute + 0 : Int) % 60).toNat = t.minute := by omega
  rw [addMinutes?, if_neg (by omega), if_pos (by omega), hhours, hminutes]
  exact t.of?_self

/-- **A timestamp is read back from its text**, whatever its year, its fraction and its leap second. -/
theorem ofText?_text (t : Timestamp) : ofText? t.text = some t := by
  have hcolon : isSpace ':' = false := by decide
  have hhour : t.hour < 100 := Nat.lt_trans t.hour_lt (by decide)
  have hminute : t.minute < 100 := Nat.lt_trans t.minute_lt (by decide)
  have hsecond : t.second < 100 := Nat.lt_of_le_of_lt t.second_le (by decide)
  have hoffset : readOffset (trimLeft ['Z']) = some (0, []) := by decide
  rw [ofText?, text, String.toList_ofList, chars, ofChars?]
  simp only [List.append_assoc, List.cons_append, readDate_text, readDivider, Option.bind_eq_bind,
    Option.bind_some, readField_padded hhour, readField_padded hminute, readField_padded hsecond,
    readMark_self hcolon, readFraction_fractionText t.nano_lt, hoffset, of?_self]
  rw [if_pos (by rfl), Int.neg_zero]
  exact t.addMinutes?_zero

/-- A leap second in another offset is written in universal time, with the digits its fraction needs. -/
example : (ofText? "2016-12-31 18:59:60.5000-05:00").map text = some "2016-12-31T23:59:60.500Z" := by
  rfl

end Timestamp

end Time

end DoubleEntry
