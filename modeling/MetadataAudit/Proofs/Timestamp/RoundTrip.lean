import MetadataAudit.Proofs.Text.Decimal
import MetadataAudit.Proofs.Text.Span
import MetadataAudit.Timestamp.Reader
import MetadataAudit.Timestamp.Writer

/-! # Timestamps written and read again

The lenient reader takes what is written for exactly the timestamp it was written from
(`Timestamp.ofText?_text`): every year of the calendar, leap seconds, and fractions of every length.
Each part of the text is read with whatever follows it left over; a part that may have any number of
digits needs something else than a digit after it (`NoDigit`).
-/
namespace MetadataAudit

namespace Text

theorem dropBlanks_cons {c : Char} (h : isBlankChar c = false) (cs : List Char) :
    dropBlanks (c :: cs) = c :: cs := by
  rw [dropBlanks, List.dropWhile_cons, h]
  rfl

end Text

namespace Timestamp

open Text (dropBlanks isBlankChar)
open Decimal (padded)

variable {rest : List Char} {n width : Nat}

/-- What stands here does not begin with a digit. -/
def NoDigit (rest : List Char) : Prop := ∀ c ∈ rest.head?, c.isDigit = false

theorem noDigit_take (hrest : NoDigit rest) (k : Nat) : NoDigit (rest.take k) := by
  cases k with
  | zero => exact fun c hc => by cases hc
  | succ k =>
    cases rest with
    | nil => exact fun c hc => by cases hc
    | cons d ds => exact fun c hc => hrest c hc

/-! ### Numbers -/

/-- The digits before anything else are read; so are as many digits as may be. -/
theorem number?_append {ds : List Char} (hne : ds ≠ []) (hd : ∀ c ∈ ds, c.isDigit = true)
    (hlen : ds.length ≤ width) (hrest : ds.length = width ∨ NoDigit rest) :
    number? width (ds ++ rest) = some (Decimal.value ds, rest) := by
  have htake : ((ds ++ rest).take width).takeWhile Char.isDigit = ds := by
    rw [List.take_append, List.take_of_length_le hlen]
    refine Text.takeWhile_span hd ?_
    rcases hrest with heq | hrest
    · rw [heq, Nat.sub_self, List.take_zero]
      exact fun c hc => by cases hc
    · exact noDigit_take hrest _
  rw [number?, htake, List.drop_left]
  simp [hne]

theorem exists_padded_eq_cons (width n : Nat) :
    ∃ c cs, (padded width n).toList = c :: cs ∧ c.isDigit = true := by
  obtain ⟨c, cs, heq⟩ := List.exists_cons_of_ne_nil (Decimal.padded_ne_nil width n)
  exact ⟨c, cs, heq, Decimal.isDigit_of_mem_padded (heq ▸ List.mem_cons_self)⟩

theorem dropBlanks_padded (width n : Nat) :
    dropBlanks ((padded width n).toList ++ rest) = (padded width n).toList ++ rest := by
  obtain ⟨c, cs, heq, hc⟩ := exists_padded_eq_cons width n
  rw [heq, List.cons_append, Text.dropBlanks_cons (Text.isBlankChar_of_isDigit hc)]

theorem number?_padded (hw : 0 < width) (hn : n < 10 ^ width) :
    number? width ((padded width n).toList ++ rest) = some (n, rest) := by
  have hlen := Decimal.length_padded_of_lt hw hn
  rw [number?_append (Decimal.padded_ne_nil width n)
    (fun c hc => Decimal.isDigit_of_mem_padded hc) (Nat.le_of_eq hlen) (Or.inl hlen),
    Decimal.value_padded]

theorem pair?_padded (hn : n < 100) :
    pair? ((padded 2 n).toList ++ rest) = some (n, rest) := by
  rw [pair?, dropBlanks_padded]
  exact number?_padded (by decide) hn

theorem mark?_cons {c : Char} (h : isBlankChar c = false) : mark? c (c :: rest) = some rest := by
  simp [mark?, Text.dropBlanks_cons h]

/-! ### Years -/

/-- Digits of any number are read up to what is none. -/
theorem number?_all (hrest : NoDigit rest) :
    number? ((padded width n).toList ++ rest).length ((padded width n).toList ++ rest) =
      some (n, rest) := by
  rw [number?_append (Decimal.padded_ne_nil width n)
    (fun c hc => Decimal.isDigit_of_mem_padded hc) (by rw [List.length_append]; omega)
    (Or.inr hrest), Decimal.value_padded]

theorem year?_yearText (year : Int) (hrest : NoDigit rest) :
    year? ((yearText year).toList ++ rest) = some (year, rest) := by
  rw [yearText]
  split
  · rename_i hyear
    obtain ⟨c, cs, heq, hc⟩ := exists_padded_eq_cons 4 year.toNat
    have hnum : number? 4 ((padded 4 year.toNat).toList ++ rest) = some (year.toNat, rest) :=
      number?_padded (by decide) (by omega)
    have hback : ((year.toNat : Nat) : Int) = year := Int.toNat_of_nonneg hyear.1
    rw [year?, dropBlanks_padded]
    rw [heq, List.cons_append] at hnum ⊢
    -- a digit is no sign
    split
    · rename_i hcons
      obtain ⟨rfl, -⟩ := List.cons.inj hcons
      cases hc
    · rename_i hcons
      obtain ⟨rfl, -⟩ := List.cons.inj hcons
      cases hc
    · simp only [hnum, Option.map_some, hback]
  · rename_i hyear
    rw [String.toList_append, List.append_assoc]
    split
    · rename_i hneg
      have hback : -((year.natAbs : Nat) : Int) = year := by omega
      have hsign : "-".toList = ['-'] := rfl
      rw [year?, hsign, List.singleton_append, Text.dropBlanks_cons (by decide)]
      simp only [number?_all hrest, Option.map_some, hback]
    · rename_i hneg
      have hback : ((year.natAbs : Nat) : Int) = year := by omega
      have hsign : "+".toList = ['+'] := rfl
      rw [year?, hsign, List.singleton_append, Text.dropBlanks_cons (by decide)]
      simp only [number?_all hrest, Option.map_some, hback]

/-! ### Fractions -/

theorem value_append_zeros (ds : List Char) (k : Nat) :
    Decimal.value (ds ++ List.replicate k '0') = Decimal.value ds * 10 ^ k := by
  rw [Decimal.value, List.foldl_append, ← Decimal.value]
  generalize Decimal.value ds = v
  induction k generalizing v with
  | zero => simp
  | succ k ih =>
    rw [List.replicate_succ, List.foldl_cons, ih, Nat.pow_succ]
    have hzero : v * 10 + ('0'.toNat - 48) = v * 10 := rfl
    rw [hzero, Nat.mul_assoc, Nat.mul_comm 10]

/-- A fraction of at most nine digits counts nanoseconds. -/
theorem fraction?_padded (hw : 0 < width) (hle : width ≤ 9) (hn : n < 10 ^ width)
    (hrest : NoDigit rest) :
    fraction? ('.' :: ((padded width n).toList ++ rest)) = some (n * 10 ^ (9 - width), rest) := by
  have hlen := Decimal.length_padded_of_lt hw hn
  have hd : ∀ c ∈ (padded width n).toList, c.isDigit = true :=
    fun c hc => Decimal.isDigit_of_mem_padded hc
  have htake : (((padded width n).toList ++ rest).take 9).takeWhile Char.isDigit =
      (padded width n).toList := by
    rw [List.take_append, List.take_of_length_le (by omega)]
    exact Text.takeWhile_span hd (noDigit_take hrest _)
  have hdrop : rest.dropWhile Char.isDigit = rest :=
    @Text.dropWhile_span _ [] rest (by simp) hrest
  have hne : (padded width n).toList.isEmpty = false :=
    List.isEmpty_eq_false_iff.mpr (Decimal.padded_ne_nil width n)
  rw [fraction?, htake, List.drop_left, hlen, value_append_zeros, Decimal.value_padded, hdrop, hne]
  rfl

theorem fraction?_fractionText {nano : Nat} (hnano : nano < 1000000000) (hrest : NoDigit rest)
    (hpoint : ∀ c ∈ rest.head?, c ≠ '.') :
    fraction? ((fractionText nano).toList ++ rest) = some (nano, rest) := by
  have hdot : ".".toList = ['.'] := rfl
  have key {width n : Nat} (hw : 0 < width) (hle : width ≤ 9) (hn : n < 10 ^ width)
      (hval : n * 10 ^ (9 - width) = nano) :
      fraction? (("." ++ padded width n).toList ++ rest) = some (nano, rest) := by
    rw [String.toList_append, hdot, List.append_assoc, List.singleton_append,
      fraction?_padded hw hle hn hrest, hval]
  rw [fractionText]
  split
  · rename_i hzero
    subst hzero
    have hnone : "".toList ++ rest = rest := rfl
    rw [hnone, fraction?.eq_def]
    split
    · exact absurd rfl (hpoint '.' rfl)
    · rfl
  · split
    · exact key (by decide) (by decide) (by omega) (by omega)
    · split
      · exact key (by decide) (by decide) (by omega) (by omega)
      · exact key (by decide) (by decide) (by omega) (by omega)

/-! ### Whole timestamps -/

theorem toList_text (t : Timestamp) :
    t.text.toList = (yearText t.date.year).toList ++ '-' :: ((padded 2 t.date.month).toList ++
      '-' :: ((padded 2 t.date.day).toList ++ 'T' :: ((padded 2 t.hour).toList ++
        ':' :: ((padded 2 t.minute).toList ++ ':' :: ((padded 2 t.second).toList ++
          ((fractionText t.nano).toList ++ ['Z'])))))) := by
  simp [text, base]

theorem of?_parts (t : Timestamp) : of? t.date t.hour t.minute t.second t.nano = some t := by
  rw [of?, dif_pos ⟨t.date_valid, t.hour_lt, t.minute_lt, t.second_le, t.nano_lt⟩]

theorem ofLocal?_parts (t : Timestamp) :
    ofLocal? t.date t.hour t.minute t.second t.nano 0 = some t := by
  have hhour := t.hour_lt
  have hminute := t.minute_lt
  have h1 : ¬ ((t.hour * 60 + t.minute : Int) - 0 < 0) := by omega
  have h2 : ¬ (1440 ≤ (t.hour * 60 + t.minute : Int) - 0) := by omega
  have h3 : (((t.hour * 60 + t.minute : Int) - 0) % 1440).toNat = t.hour * 60 + t.minute := by
    omega
  have h4 : (t.hour * 60 + t.minute) / 60 = t.hour := by omega
  have h5 : (t.hour * 60 + t.minute) % 60 = t.minute := by omega
  simp only [ofLocal?, h1, h2, if_false, h3, h4, h5]
  exact of?_parts t

theorem month_day_lt (t : Timestamp) : t.date.month < 100 ∧ t.date.day < 100 := by
  have hvalid := t.date_valid
  simp only [Date.isValid, Bool.and_eq_true, decide_eq_true_eq] at hvalid
  have hdays : Date.daysIn t.date.year t.date.month ≤ 31 := by
    rw [Date.daysIn]
    split
    · split <;> omega
    · split <;> omega
  omega

/-- **A written timestamp is read as itself.** -/
theorem ofText?_text (t : Timestamp) : ofText? t.text = some t := by
  have hhour := t.hour_lt
  have hminute := t.minute_lt
  have hsecond := t.second_le
  obtain ⟨hmonth, hday⟩ := month_day_lt t
  rw [ofText?, toList_text, ofChars?, year?_yearText _ (by rintro c ⟨⟩; rfl)]
  simp only [Option.bind_eq_bind, Option.bind_some]
  rw [mark?_cons (by decide), Option.bind_some, pair?_padded hmonth, Option.bind_some,
    mark?_cons (by decide), Option.bind_some, pair?_padded hday, Option.bind_some]
  have hdivider (cs : List Char) : divider? ('T' :: cs) = some cs := rfl
  rw [hdivider, Option.bind_some, pair?_padded (by omega), Option.bind_some,
    mark?_cons (by decide), Option.bind_some, pair?_padded (by omega), Option.bind_some,
    mark?_cons (by decide), Option.bind_some, pair?_padded (by omega), Option.bind_some,
    fraction?_fractionText t.nano_lt (by rintro c ⟨⟩; rfl) (by rintro c ⟨⟩; decide),
    Option.bind_some]
  have hzone : zone? (dropBlanks ['Z']) = some (0, []) := by decide
  have hend : Int.natAbs 0 < 1440 ∧ (dropBlanks []).isEmpty = true := by decide
  rw [hzone, Option.bind_some, if_pos hend]
  rw [show (⟨t.date.year, t.date.month, t.date.day⟩ : Date) = t.date from rfl, of?_parts,
    Option.bind_some, ofLocal?_parts]

end Timestamp
end MetadataAudit
