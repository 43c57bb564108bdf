import Mathlib.Data.List.TakeWhile
import MetadataAudit.Text.Blank

/-! # Spans

A text is cut where characters of one class end.  If the class holds for all of one part and not for
the first character of the rest, then the text is cut between the two.  A text is blank exactly if
nothing is left of it once it is cut after the blanks at either end (`trim_eq_empty_iff`).
-/
namespace MetadataAudit
namespace Text

variable {p : Char → Bool} {cs rest : List Char}

theorem takeWhile_span (h : ∀ c ∈ cs, p c = true) (hrest : ∀ c ∈ rest.head?, p c = false) :
    (cs ++ rest).takeWhile p = cs := by
  rw [List.takeWhile_append_of_pos h]
  cases rest with
  | nil => simp
  | cons c rest => rw [List.takeWhile_cons, hrest c rfl]; simp

theorem dropWhile_span (h : ∀ c ∈ cs, p c = true) (hrest : ∀ c ∈ rest.head?, p c = false) :
    (cs ++ rest).dropWhile p = rest := by
  rw [List.dropWhile_append_of_pos h]
  cases rest with
  | nil => rfl
  | cons c rest => rw [List.dropWhile_cons, hrest c rfl]; simp

/-- What follows a span does not begin with a character of its class. -/
theorem head_dropWhile_span (p : Char → Bool) (cs : List Char) :
    ∀ c ∈ (cs.dropWhile p).head?, p c = false := by
  intro c hc
  have hhead := List.head?_dropWhile_not p cs
  rw [Option.mem_def.mp hc] at hhead
  simpa using hhead

theorem isBlankChar_of_isDigit {c : Char} (h : c.isDigit = true) : isBlankChar c = false := by
  simp only [Char.isDigit, Bool.and_eq_true, decide_eq_true_eq, UInt32.le_iff_toNat_le] at h
  have hc : c.val.toNat = c.toNat := rfl
  have hlow : 48 ≤ c.toNat := h.1
  have hhigh : c.toNat ≤ 57 := h.2
  simp only [isBlankChar, blankRanges, List.any_cons, List.any_nil, Bool.or_false]
  simp only [Bool.or_eq_false_iff, Bool.and_eq_false_iff, decide_eq_false_iff_not]
  omega

theorem dropBlanks_eq_nil_iff : dropBlanks cs = [] ↔ ∀ c ∈ cs, isBlankChar c = true :=
  List.dropWhile_eq_nil_iff

/-- Nothing is left of a blank text without the blanks around it, and of no other. -/
theorem trim_eq_empty_iff {s : String} : trim s = "" ↔ isBlank s = true := by
  rw [trim, isBlank, List.all_eq_true, String.ofList_eq_empty_iff, List.reverse_eq_nil_iff,
    dropBlanks_eq_nil_iff]
  simp only [List.mem_reverse]
  constructor
  · intro hrest
    by_contra hblank
    -- a text that is not blank has a first character that stays
    obtain ⟨c, cs, hdrop⟩ := List.exists_cons_of_ne_nil (mt dropBlanks_eq_nil_iff.mp hblank)
    have hfirst : isBlankChar c = false :=
      head_dropWhile_span isBlankChar s.toList c (congrArg List.head? hdrop)
    have hmem : c ∈ dropBlanks s.toList := by
      rw [hdrop]
      exact List.mem_cons_self
    rw [hrest c hmem] at hfirst
    cases hfirst
  · intro hblank c hc
    rw [dropBlanks_eq_nil_iff.mpr hblank] at hc
    cases hc

end Text
end MetadataAudit
