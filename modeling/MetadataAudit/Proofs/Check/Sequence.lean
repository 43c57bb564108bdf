import Mathlib.Algebra.Group.Int.Defs
import MetadataAudit.Proofs.Check.Offer
import MetadataAudit.Proofs.Text.Span
import MetadataAudit.Text.Decimal

/-! # Sequences by their number

A numeral is an optional sign and one digit or more, however many zeros are in front (`Sequence.Denotes`).
Reading digit by digit, with a limit that must not be passed on the way, comes to the number of the whole
numeral and refuses exactly the numbers past the limit (`Sequence.magnitude_eq_ok_iff`), as further digits
never make a number smaller.  So a text is an integer of 64 bits exactly if it is a numeral of one
(`Sequence.integer_eq_ok_iff`), and what is reported of a cell depends on its number alone
(`Sequence.judged_by_number`).
-/
namespace MetadataAudit

namespace Sequence

variable {ctx : Context} {memo : Memo} {profile value : String} {g : Grid} {l : Location}
  {c : Char} {cs : List Char} {limit start m : Nat} {tooFar : NotInteger} {n : Int}

/-- The number that a text of digits with or without a sign stands for. -/
inductive Denotes : List Char → Int → Prop where
  | unsigned {cs : List Char} (h : Decimal.isDigits cs = true) : Denotes cs (Decimal.value cs)
  | plus {cs : List Char} (h : Decimal.isDigits cs = true) :
    Denotes ('+' :: cs) (Decimal.value cs)
  | minus {cs : List Char} (h : Decimal.isDigits cs = true) :
    Denotes ('-' :: cs) (-(Decimal.value cs : Int))

/-! ## Reading numerals -/

/-- The number that digits stand for behind others that stand for `start`. -/
def continued (start : Nat) (cs : List Char) : Nat :=
  cs.foldl (fun n c => n * 10 + (c.toNat - 48)) start

theorem le_continued (start : Nat) (cs : List Char) : start ≤ continued start cs := by
  induction cs generalizing start with
  | nil => exact Nat.le_refl start
  | cons c cs ih =>
    have hstep : start ≤ start * 10 + (c.toNat - 48) := by omega
    exact Nat.le_trans hstep (ih _)

/-- **Digits are read to the number they stand for**, unless that is past the limit. -/
theorem magnitude_eq_ok_iff (h : start ≤ limit) :
    magnitude limit tooFar start cs = .ok m ↔
      cs.all Char.isDigit = true ∧ continued start cs = m ∧ m ≤ limit := by
  induction cs generalizing start with
  | nil =>
    rw [magnitude, Except.ok.injEq]
    constructor
    · rintro rfl
      exact ⟨rfl, rfl, h⟩
    · rintro ⟨-, rfl, -⟩
      rfl
  | cons c cs ih =>
    have hcontinued : continued start (c :: cs) =
        continued (start * 10 + (c.toNat - 48)) cs := rfl
    rw [magnitude, List.all_cons, hcontinued]
    by_cases hdigit : c.isDigit = true
    · by_cases hlimit : limit < start * 10 + (c.toNat - 48)
      · -- no further digit leads back below the limit
        have hpast := le_continued (start * 10 + (c.toNat - 48)) cs
        simp only [hdigit, if_true, hlimit, Bool.true_and, reduceCtorEq, false_iff]
        rintro ⟨-, rfl, hle⟩
        omega
      · simp only [hdigit, if_true, hlimit, if_false, Bool.true_and]
        exact ih (Nat.le_of_not_lt hlimit)
    · simp [hdigit]

/-- Digits that stand for a number past the limit are refused for that. -/
theorem magnitude_of_limit_lt (hdigits : cs.all Char.isDigit = true) (hstart : start ≤ limit)
    (h : limit < continued start cs) : magnitude limit tooFar start cs = .error tooFar := by
  induction cs generalizing start with
  | nil => exact absurd h (Nat.not_lt.mpr hstart)
  | cons c cs ih =>
    obtain ⟨hdigit, hdigits⟩ := Bool.and_eq_true_iff.mp hdigits
    rw [magnitude, if_pos hdigit]
    by_cases hlimit : limit < start * 10 + (c.toNat - 48)
    · exact if_pos hlimit
    · show (if limit < start * 10 + (c.toNat - 48) then _ else _) = _
      rw [if_neg hlimit]
      exact ih hdigits (Nat.le_of_not_lt hlimit) h

theorem digits_eq_ok_iff : digits limit tooFar cs = .ok m ↔
    Decimal.isDigits cs = true ∧ Decimal.value cs = m ∧ m ≤ limit := by
  rw [digits, Decimal.isDigits]
  cases cs with
  | nil => simp
  | cons c cs =>
    rw [if_neg (by simp), magnitude_eq_ok_iff (Nat.zero_le limit)]
    exact Iff.rfl

/-- Digits after a sign, or without one, are read as an integer. -/
theorem signed_eq_ok_iff (sign : Int → Int) :
    Except.map sign (digits limit tooFar cs >>= fun m => pure (m : Int)) = .ok n ↔
      Decimal.isDigits cs = true ∧ sign (Decimal.value cs) = n ∧ Decimal.value cs ≤ limit := by
  rw [map_eq_ok_iff]
  constructor
  · rintro ⟨i, hread, rfl⟩
    obtain ⟨m, hdigits, hi⟩ := bind_eq_ok_iff.mp hread
    cases hi
    obtain ⟨hall, rfl, hle⟩ := digits_eq_ok_iff.mp hdigits
    exact ⟨hall, rfl, hle⟩
  · rintro ⟨hall, rfl, hle⟩
    have hdigits : digits limit tooFar cs = .ok (Decimal.value cs) :=
      digits_eq_ok_iff.mpr ⟨hall, rfl, hle⟩
    exact ⟨_, bind_eq_ok_iff.mpr ⟨_, hdigits, rfl⟩, rfl⟩

theorem signed_of_limit_lt (hdigits : Decimal.isDigits cs = true) (h : limit < Decimal.value cs)
    (sign : Int → Int) :
    Except.map sign (digits limit tooFar cs >>= fun m => pure (m : Int)) = .error tooFar := by
  obtain ⟨hne, hall⟩ := Bool.and_eq_true_iff.mp hdigits
  rw [digits, if_neg (by simpa using hne), magnitude_of_limit_lt hall (Nat.zero_le limit) h]
  rfl

/-- **A text is an integer of 64 bits exactly if it is a numeral of one.** -/
theorem integer_eq_ok_iff :
    integer cs = .ok n ↔ Denotes cs n ∧ -2 ^ 63 ≤ n ∧ n ≤ 2 ^ 63 - 1 := by
  have hlargest : largest = 2 ^ 63 - 1 := rfl
  unfold integer
  split
  · rw [signed_eq_ok_iff, hlargest]
    constructor
    · rintro ⟨hdigits, rfl, hle⟩
      exact ⟨.minus hdigits, by omega, by omega⟩
    · rintro ⟨h, hlow, hhigh⟩
      cases h with
      | unsigned h => cases h
      | minus h => exact ⟨h, rfl, by omega⟩
  · rw [signed_eq_ok_iff, hlargest]
    constructor
    · rintro ⟨hdigits, rfl, hle⟩
      exact ⟨.plus hdigits, by omega, by omega⟩
    · rintro ⟨h, hlow, hhigh⟩
      cases h with
      | unsigned h => cases h
      | plus h => exact ⟨h, rfl, by omega⟩
  · rename_i hminus hplus
    rw [signed_eq_ok_iff, hlargest]
    constructor
    · rintro ⟨hdigits, rfl, hle⟩
      exact ⟨.unsigned hdigits, by omega, by omega⟩
    · rintro ⟨h, hlow, hhigh⟩
      cases h with
      | unsigned h => exact ⟨h, rfl, by omega⟩
      | plus h => exact absurd rfl (hplus _)
      | minus h => exact absurd rfl (hminus _)

theorem integer_of_too_large (hn : Denotes cs n) (h : 2 ^ 63 - 1 < n) :
    integer cs = .error .tooLarge := by
  have hlargest : largest = 2 ^ 63 - 1 := rfl
  unfold integer
  split
  · cases hn with
    | unsigned hn => cases hn
    | minus hn => omega
  · cases hn with
    | unsigned hn => cases hn
    | plus hn => exact signed_of_limit_lt hn (by omega) _
  · rename_i hminus hplus
    cases hn with
    | unsigned hn => exact signed_of_limit_lt hn (by omega) _
    | plus hn => exact absurd rfl (hplus _)
    | minus hn => exact absurd rfl (hminus _)

theorem integer_of_too_small (hn : Denotes cs n) (h : n < -2 ^ 63) :
    integer cs = .error .tooSmall := by
  have hlargest : largest = 2 ^ 63 - 1 := rfl
  -- only a numeral with a minus sign is below zero
  cases hn with
  | unsigned hn => omega
  | plus hn => omega
  | minus hn => exact signed_of_limit_lt hn (by omega) _

theorem digits_of_head (hdigit : c.isDigit = false) (limit : Nat) (tooFar : NotInteger) :
    digits limit tooFar (c :: cs) = .error .invalidDigit := by
  rw [digits, magnitude, hdigit]
  rfl

/-- A text that begins neither with a sign nor with a digit is no integer. -/
theorem integer_of_head (hdigit : c.isDigit = false) (hminus : c ≠ '-') (hplus : c ≠ '+') :
    integer (c :: cs) = .error .invalidDigit := by
  unfold integer
  split
  · rename_i heq
    exact absurd (List.cons.inj heq).1 hminus
  · rename_i heq
    exact absurd (List.cons.inj heq).1 hplus
  · rw [digits_of_head hdigit]
    rfl

theorem integer_of_isBlank (hblank : Text.isBlank value = true) (hne : value ≠ "") :
    integer value.toList = .error .invalidDigit := by
  obtain ⟨c, cs, hvalue⟩ := List.exists_cons_of_ne_nil (mt String.toList_eq_nil_iff.mp hne)
  have hc : Text.isBlankChar c = true := by
    rw [Text.isBlank, hvalue] at hblank
    exact List.all_eq_true.mp hblank c List.mem_cons_self
  rw [hvalue]
  refine integer_of_head (Bool.eq_false_iff.mpr fun hdigit => ?_) ?_ ?_
  · rw [Text.isBlankChar_of_isDigit hdigit] at hc
    cases hc
  · rintro rfl
    exact absurd hc (by decide)
  · rintro rfl
    exact absurd hc (by decide)

/-! ## Cells -/

/-- What a row owes that gives no sequence: pages must have one. -/
def owed (profile : String) (l : Location) (g : Grid) : Violations :=
  if g.rowText? l.row "Object Type" = some "Page" then [.ofProblem .pageWithoutSequence l profile]
  else []

theorem owed_ne_notInteger :
    owed profile l g ≠ [(Violation.ofProblem .sequenceNotInteger l profile).causedByText
      NotInteger.invalidDigit.text] := by
  rw [owed]
  split
  · intro heq
    have hmessage : Problem.pageWithoutSequence.text = Problem.sequenceNotInteger.text :=
      congrArg Violation.message (List.cons.inj heq).1
    exact absurd hmessage (by decide)
  · exact List.ne_cons_self

theorem isPage_iff (hget : g.get? l = some value) :
    isPage profile l g = true ↔ g.rowText? l.row "Object Type" = some "Page" := by
  have hfield : "Object Type" = Field.objectType := rfl
  rw [isPage, hfield]
  cases htype : g.rowText? l.row Field.objectType with
  | some text =>
    rw [Grid.rowValue_eq_ok hget htype]
    simp
  | none =>
    rw [Grid.rowValue_eq_error hget htype]
    simp

theorem violations_check_empty (hget : g.get? l = some "") (hrow : l.row ≠ 0)
    (hfield : g.headers[l.col]? = some "Item Sequence") :
    (check profile l g).violations = owed profile l g := by
  have hmem : "Item Sequence" ∈ [Field.itemSequence] := List.mem_singleton_self _
  rw [check, Check.onField_of_field hget hrow hfield hmem, if_pos rfl, owed]
  simp only [isPage_iff hget]
  split <;> rfl

/-- What is reported of a text that was read as an integer, or was not. -/
def verdict (profile : String) (l : Location) : Except NotInteger Int → Violations
  | .ok n => if 0 < n then [] else [.ofProblem .sequenceNotPositive l profile]
  | .error e => [(Violation.ofProblem .sequenceNotInteger l profile).causedByText e.text]

theorem verdict_eq_nil_iff {read : Except NotInteger Int} :
    verdict profile l read = [] ↔ ∃ n, read = .ok n ∧ 0 < n := by
  cases read with
  | error e => simp [verdict]
  | ok n => simp [verdict]

/-- Only what is no integer is reported with a cause. -/
theorem notPositive_ne_notInteger (e : NotInteger) :
    [Violation.ofProblem .sequenceNotPositive l profile] ≠
      [(Violation.ofProblem .sequenceNotInteger l profile).causedByText e.text] := by
  intro heq
  cases congrArg (List.map Violation.cause) heq

theorem verdict_eq_notPositive_iff {read : Except NotInteger Int} :
    verdict profile l read = [.ofProblem .sequenceNotPositive l profile] ↔
      ∃ n, read = .ok n ∧ n ≤ 0 := by
  cases read with
  | error e => simpa [verdict] using (notPositive_ne_notInteger e).symm
  | ok n => simp [verdict]

theorem verdict_eq_notInteger_iff {read : Except NotInteger Int} :
    (∃ e : NotInteger, verdict profile l read =
      [(Violation.ofProblem .sequenceNotInteger l profile).causedByText e.text]) ↔
        ¬ ∃ n, read = .ok n := by
  cases read with
  | error e => exact iff_of_true ⟨e, rfl⟩ (by simp)
  | ok n =>
    refine iff_of_false ?_ (fun hnone => hnone ⟨n, rfl⟩)
    rintro ⟨e, heq⟩
    rw [verdict] at heq
    split at heq
    · cases heq
    · exact notPositive_ne_notInteger e heq

theorem violations_check_of_ne (hget : g.get? l = some value) (hrow : l.row ≠ 0)
    (hfield : g.headers[l.col]? = some "Item Sequence") (hne : value ≠ "") :
    (check profile l g).violations = verdict profile l (integer value.toList) := by
  have hmem : "Item Sequence" ∈ [Field.itemSequence] := List.mem_singleton_self _
  rw [check, Check.onField_of_field hget hrow hfield hmem, if_neg hne]
  cases integer value.toList with
  | error e => rfl
  | ok n =>
    show Outcome.violations (if 0 < n then _ else _) = if 0 < n then _ else _
    split <;> rfl

theorem violations_check_blank (hget : g.get? l = some value) (hrow : l.row ≠ 0)
    (hfield : g.headers[l.col]? = some "Item Sequence") (hblank : Text.isBlank value = true)
    (hne : value ≠ "") :
    (check profile l g).violations =
      [(Violation.ofProblem .sequenceNotInteger l profile).causedByText
        NotInteger.invalidDigit.text] := by
  rw [violations_check_of_ne hget hrow hfield hne, integer_of_isBlank hblank hne, verdict]

/-- **A sequence is judged by its number.**  An empty cell is reported on a page and passed over
elsewhere.  Any other cell is passed over if it is a numeral of a positive integer of 64 bits, reported
as not positive if it is a numeral of another integer of 64 bits, and in every other case reported as no
integer: because it is too large or too small if it is a numeral at all. -/
theorem judged_by_number (hget : g.get? l = some value) (hrow : l.row ≠ 0)
    (hfield : g.headers[l.col]? = some "Item Sequence") :
    let found := (Kind.sequence.offer ctx memo ⟨profile, l, g⟩).1.violations
    let notInteger := Violation.ofProblem .sequenceNotInteger l profile
    (value = "" → found = owed profile l g) ∧
    (value ≠ "" →
      (found = [] ↔ ∃ n, Denotes value.toList n ∧ 1 ≤ n ∧ n ≤ 2 ^ 63 - 1) ∧
      (found = [.ofProblem .sequenceNotPositive l profile] ↔
        ∃ n, Denotes value.toList n ∧ -2 ^ 63 ≤ n ∧ n ≤ 0) ∧
      ((∃ e : NotInteger, found = [notInteger.causedByText e.text]) ↔
        ¬ ∃ n, Denotes value.toList n ∧ -2 ^ 63 ≤ n ∧ n ≤ 2 ^ 63 - 1) ∧
      ∀ n, Denotes value.toList n →
        (2 ^ 63 - 1 < n → found = [notInteger.causedByText NotInteger.tooLarge.text]) ∧
        (n < -2 ^ 63 → found = [notInteger.causedByText NotInteger.tooSmall.text])) := by
  intro found notInteger
  refine ⟨?_, fun hne => ?_⟩
  · rintro rfl
    exact violations_check_empty hget hrow hfield
  · have hfound : found = verdict profile l (integer value.toList) :=
      violations_check_of_ne hget hrow hfield hne
    rw [hfound, verdict_eq_nil_iff, verdict_eq_notPositive_iff, verdict_eq_notInteger_iff]
    simp only [integer_eq_ok_iff]
    refine ⟨?_, ?_, trivial, fun n hn => ⟨fun hlarge => ?_, fun hsmall => ?_⟩⟩
    · constructor
      · rintro ⟨n, ⟨hn, -, hhigh⟩, hpos⟩
        exact ⟨n, hn, hpos, hhigh⟩
      · rintro ⟨n, hn, hpos, hhigh⟩
        exact ⟨n, ⟨hn, by omega, hhigh⟩, hpos⟩
    · constructor
      · rintro ⟨n, ⟨hn, hlow, -⟩, hnonpos⟩
        exact ⟨n, hn, hlow, hnonpos⟩
      · rintro ⟨n, hn, hlow, hnonpos⟩
        exact ⟨n, ⟨hn, hlow, by omega⟩, hnonpos⟩
    · rw [integer_of_too_large hn hlarge]
      rfl
    · rw [integer_of_too_small hn hsmall]
      rfl

/-- The least integer of 64 bits, behind a zero. -/
theorem judged_by_number_least :
    let g : Grid := ⟨[["Object Type", "Item Sequence"], ["Page", "-09223372036854775808"]]⟩
    let ctx : Context := { store := .empty none .epoch, rules := .builtin }
    g.get? ⟨1, 1⟩ = some "-09223372036854775808" ∧ (1 : Nat) ≠ 0 ∧
    g.headers[1]? = some "Item Sequence" ∧
    (Kind.sequence.offer ctx {} ⟨"default", ⟨1, 1⟩, g⟩).1.violations =
      [.ofProblem .sequenceNotPositive ⟨1, 1⟩ "default"] := by
  intro g ctx
  have hget : g.get? ⟨1, 1⟩ = some "-09223372036854775808" := rfl
  have hdenotes : Denotes "-09223372036854775808".toList (-2 ^ 63) := .minus rfl
  obtain ⟨-, hjudged⟩ :=
    @judged_by_number ctx {} "default" _ g ⟨1, 1⟩ hget (by decide) rfl
  exact ⟨hget, by decide, rfl, (hjudged (by decide)).2.1.mpr ⟨_, hdenotes, by omega, by omega⟩⟩

end Sequence
end MetadataAudit
