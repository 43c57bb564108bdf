import Mathlib.Data.List.Infix
import MetadataAudit.Text.Split

/-! # What replacing leaves

A piece of text that is replaced by a shorter one leaves alone exactly the texts in which it does not
occur (`Text.replaceChars_eq_self_iff`).  Where a character is written as a mark, replacing the mark by
the character takes the writing back.  It takes no more back and no less: nothing that was written makes
a mark together with what stood beside it (`Text.prefix_written_iff`), so the marks that were in the text
before are replaced as if nothing had been written (`Text.replaceChars_written`).
-/
namespace MetadataAudit
namespace Text

/-! ## Pieces in a text -/

section Pieces

variable {old new cs : List Char} {c : Char}

theorem replaceChars_nil (old new : List Char) : replaceChars old new [] = [] := by
  rw [replaceChars]

/-- A piece at the beginning is replaced, and what follows it is looked at by itself. -/
theorem replaceChars_append (hne : old ≠ []) (rest : List Char) :
    replaceChars old new (old ++ rest) = new ++ replaceChars old new rest := by
  obtain ⟨c, cs, rfl⟩ := List.exists_cons_of_ne_nil hne
  have hfirst : (c :: cs).isPrefixOf (c :: (cs ++ rest)) = true :=
    List.isPrefixOf_iff_prefix.mpr (List.prefix_append (c :: cs) rest)
  rw [List.cons_append, replaceChars, if_pos ⟨hfirst, hne⟩, List.length_cons, List.drop_succ_cons,
    List.drop_left]

/-- A character at which no piece begins stays. -/
theorem replaceChars_cons (h : ¬ old <+: c :: cs) :
    replaceChars old new (c :: cs) = c :: replaceChars old new cs := by
  have hfirst : ¬ (old.isPrefixOf (c :: cs) = true ∧ old ≠ []) := by
    rintro ⟨hstarts, -⟩
    exact h (List.isPrefixOf_iff_prefix.mp hstarts)
  rw [replaceChars, if_neg hfirst]

/-- A text is empty, begins with the piece, or begins with a character that stays. -/
theorem pieces_induction {motive : List Char → Prop} (hne : old ≠ []) (nil : motive [])
    (piece : ∀ rest, motive rest → motive (old ++ rest))
    (cons : ∀ c cs, ¬ old <+: c :: cs → motive cs → motive (c :: cs)) (cs : List Char) :
    motive cs := by
  generalize hlength : cs.length = n
  induction n using Nat.strongRecOn generalizing cs with
  | ind n ih =>
    by_cases hprefix : old <+: cs
    · obtain ⟨rest, rfl⟩ := hprefix
      have hpos : 0 < old.length := List.length_pos_iff.mpr hne
      rw [List.length_append] at hlength
      exact piece rest (ih rest.length (by omega) rest rfl)
    · cases cs with
      | nil => exact nil
      | cons c cs =>
        rw [List.length_cons] at hlength
        exact cons c cs hprefix (ih cs.length (by omega) cs rfl)

theorem length_replaceChars_le (hne : old ≠ []) (hle : new.length ≤ old.length) (cs : List Char) :
    (replaceChars old new cs).length ≤ cs.length := by
  induction cs using pieces_induction hne with
  | nil => rw [replaceChars_nil]
  | piece rest ih =>
    rw [replaceChars_append hne, List.length_append, List.length_append]
    omega
  | cons c cs hstays ih =>
    rw [replaceChars_cons hstays, List.length_cons, List.length_cons]
    omega

/-- **A text is left alone if the piece does not occur in it**, and only then if the piece gets shorter. -/
theorem replaceChars_eq_self_iff (hlt : new.length < old.length) :
    replaceChars old new cs = cs ↔ ¬ old <:+: cs := by
  have hne : old ≠ [] := List.ne_nil_of_length_pos (Nat.zero_lt_of_lt hlt)
  induction cs using pieces_induction hne with
  | nil => simp [replaceChars_nil, hne]
  | piece rest ih =>
    have hoccurs : old <:+: old ++ rest := (List.prefix_append old rest).isInfix
    refine iff_of_false ?_ (not_not_intro hoccurs)
    intro heq
    have hle := length_replaceChars_le hne hlt.le rest
    have hlength := congrArg List.length heq
    rw [replaceChars_append hne, List.length_append, List.length_append] at hlength
    omega
  | cons c cs hstays ih =>
    rw [replaceChars_cons hstays, List.infix_cons_iff, or_iff_right hstays]
    exact (List.cons_inj_right c).trans ih

/-- To replace a single character everywhere, each character can be looked at by itself. -/
theorem replaceChars_singleton (c : Char) (new cs : List Char) :
    replaceChars [c] new cs = cs.flatMap fun d => if d = c then new else [d] := by
  induction cs using pieces_induction (List.cons_ne_nil c []) with
  | nil => rw [replaceChars_nil, List.flatMap_nil]
  | piece rest ih =>
    rw [replaceChars_append (List.cons_ne_nil c []), ih, List.singleton_append, List.flatMap_cons,
      if_pos rfl]
  | cons d cs hstays ih =>
    have hd : d ≠ c := by
      rintro rfl
      exact hstays (List.prefix_append [d] cs)
    rw [replaceChars_cons hstays, ih, List.flatMap_cons, if_neg hd, List.singleton_append]

end Pieces

/-! ## A character written as a mark -/

/-- The text with a mark in place of every `c`. -/
def written (c : Char) (mark cs : List Char) : List Char :=
  cs.flatMap fun d => if d = c then mark else [d]

section Written

variable {c first : Char} {mark rest cs u : List Char}

theorem written_cons_self (c : Char) (mark cs : List Char) :
    written c mark (c :: cs) = mark ++ written c mark cs := by
  rw [written, List.flatMap_cons, if_pos rfl]
  rfl

theorem written_cons_of_ne {d : Char} (hd : d ≠ c) (mark cs : List Char) :
    written c mark (d :: cs) = d :: written c mark cs := by
  rw [written, List.flatMap_cons, if_neg hd]
  rfl

theorem written_of_notMem (h : c ∉ cs) (mark : List Char) : written c mark cs = cs := by
  induction cs with
  | nil => rfl
  | cons d cs ih =>
    rw [List.mem_cons, not_or] at h
    rw [written_cons_of_ne (Ne.symm h.1), ih h.2]

theorem written_append (c : Char) (mark cs ds : List Char) :
    written c mark (cs ++ ds) = written c mark cs ++ written c mark ds :=
  List.flatMap_append

/-- **What was written does not continue what stood before it.**  A text without the first character of
the mark can not reach into a mark. -/
theorem prefix_written_iff (hfirst : first ∉ u) (hc : c ∉ u) :
    u <+: written c (first :: rest) cs ↔ u <+: cs := by
  induction u generalizing cs with
  | nil => exact iff_of_true List.nil_prefix List.nil_prefix
  | cons d u ih =>
    rw [List.mem_cons, not_or] at hfirst hc
    cases cs with
    | nil => rfl
    | cons e cs =>
      by_cases he : e = c
      · subst he
        rw [written_cons_self, List.cons_append, List.cons_prefix_cons, List.cons_prefix_cons]
        exact iff_of_false (fun h => hfirst.1 h.1.symm) (fun h => hc.1 h.1.symm)
      · rw [written_cons_of_ne he, List.cons_prefix_cons, List.cons_prefix_cons,
          ih hfirst.2 hc.2]

/-- **The writing is taken back**, and nothing else: marks that were in the text before are replaced as
they would be without any writing. -/
theorem replaceChars_written (hfirst : first ∉ rest) (hc : c ∉ first :: rest) (cs : List Char) :
    replaceChars (first :: rest) [c] (written c (first :: rest) cs) =
      replaceChars (first :: rest) [c] cs := by
  have hne : first :: rest ≠ [] := List.cons_ne_nil first rest
  induction cs using pieces_induction hne with
  | nil => rfl
  | piece cs ih =>
    rw [written_append, written_of_notMem hc, replaceChars_append hne, replaceChars_append hne, ih]
  | cons d cs hstays ih =>
    by_cases hd : d = c
    · subst hd
      rw [written_cons_self, replaceChars_append hne, replaceChars_cons hstays, ih,
        List.singleton_append]
    · have hrest : c ∉ rest := fun hmem => hc (List.mem_cons_of_mem first hmem)
      have hstill : ¬ first :: rest <+: d :: written c (first :: rest) cs := by
        rw [List.cons_prefix_cons, prefix_written_iff hfirst hrest, ← List.cons_prefix_cons]
        exact hstays
      rw [written_cons_of_ne hd, replaceChars_cons hstill, replaceChars_cons hstays, ih]

end Written

/-! ## Lines -/

/-- The pieces between the marks make the text again. -/
theorem intercalate_splitChars (mark : Char) (cs : List Char) :
    [mark].intercalate (splitChars mark cs) = cs := by
  induction cs with
  | nil => rfl
  | cons c cs ih =>
    obtain ⟨piece, pieces, hpieces⟩ := List.exists_cons_of_ne_nil (splitChars_ne_nil mark cs)
    rw [hpieces] at ih
    rw [splitChars, hpieces]
    by_cases hc : c = mark
    · rw [if_pos hc, List.intercalate_cons_cons, ih, hc]
      rfl
    · rw [if_neg hc]
      cases pieces with
      | nil => simpa using ih
      | cons next pieces =>
        rw [List.intercalate_cons_cons] at ih ⊢
        rw [List.cons_append, List.cons_append, ← ih]

/-- The lines of a text, joined, are the text. -/
theorem intercalate_lines (s : String) : "\n".intercalate (lines s) = s := by
  rw [← String.toList_inj, String.toList_intercalate, lines, split, List.map_map]
  have hid : String.toList ∘ String.ofList = id := funext fun cs => String.toList_ofList
  rw [hid, List.map_id]
  exact intercalate_splitChars '\n' s.toList

end Text
end MetadataAudit
