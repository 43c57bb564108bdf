import Mathlib.Data.Finset.Card
import MetadataAudit.Proofs.Check.Scan

/-! # Replacement characters over a run

The check remembers exactly the texts with a replacement character that came up
(`Replacement.remembers_visit`), so that looking a text up before it is judged makes no difference to
whether it is reported, only to how.  Of a run this leaves what does not depend on the order of the offers:
how many cells are reported, how many of them as new, and which (`Replacement.marks_of_run`).
-/
namespace MetadataAudit

namespace Replacement

variable {flagged past : List String} {text : String} {o : Offer} {os : List Offer} {l : Location}
  {profile : String} {g : Grid} {v : Violation}

/-- What is reported of a text, when those of `past` came up before. -/
def finding (past : List String) (text : String) (l : Location) (profile : String) : Violations :=
  if isMarked text then
    [.ofProblem (if text ∈ past then .replacementRepeated else .replacementCharacter) l profile]
  else []

/-- What is remembered are the texts with a replacement character that came up. -/
def Remembers (past flagged : List String) : Prop :=
  ∀ text, text ∈ flagged ↔ text ∈ past ∧ isMarked text = true

/-! ## One offer -/

/-- An offer of a cell is answered as the texts that came up before demand, and its text is remembered
with them. -/
theorem check_of_text (hs : Remembers past flagged) (h : o.grid.get? o.location = some text) :
    (check flagged o.profile o.location o.grid).1.violations =
        finding past text o.location o.profile ∧
      Remembers (past ++ [text]) (check flagged o.profile o.location o.grid).2 := by
  rw [check, Grid.cell_of_get?_eq_some h, finding]
  by_cases hknown : text ∈ flagged
  · obtain ⟨hpast, hmarked⟩ := (hs text).mp hknown
    simp only [List.contains_iff_mem.mpr hknown, hmarked, hpast, if_true]
    refine ⟨rfl, fun other => ?_⟩
    grind [hs other]
  · have hnew : ¬ flagged.contains text = true := fun hc => hknown (List.contains_iff_mem.mp hc)
    by_cases hmarked : isMarked text = true
    · have hpast : text ∉ past := fun hpast => hknown ((hs text).mpr ⟨hpast, hmarked⟩)
      simp only [hnew, hmarked, hpast, if_true, if_false]
      refine ⟨rfl, fun other => ?_⟩
      grind [hs other]
    · simp only [hnew, hmarked]
      refine ⟨rfl, fun other => ?_⟩
      grind [hs other]

/-- An offer of no cell is not remembered. -/
theorem check_of_none (h : o.grid.get? o.location = none) (flagged : List String) :
    (check flagged o.profile o.location o.grid).2 = flagged := by
  obtain ⟨v, hv, -⟩ := Grid.exists_check_eq_error h o.profile
  rw [check, Grid.cell_of_check_eq_error hv]

/-! ## A run of offers -/

/-- The texts of the cells that are offered. -/
def texts (os : List Offer) : List String := os.filterMap fun o => o.grid.get? o.location

/-- What comes of a run of offers to one check. -/
def visit (ctx : Context) (os : List Offer) : Outcome := .join (Kind.replacement.offerAll ctx {} os).1

theorem texts_append_singleton (os : List Offer) (o : Offer) :
    texts (os ++ [o]) = texts os ++ (o.grid.get? o.location).toList := by
  rw [texts, List.filterMap_append]
  cases h : o.grid.get? o.location <;> simp [texts, h]

/-- **A run remembers the texts with a replacement character** that came up in it. -/
theorem remembers_offerAll (ctx : Context) (os : List Offer) :
    Remembers (texts os) (Kind.replacement.offerAll ctx {} os).2.flagged := by
  induction os using List.reverseRecOn with
  | nil => simp [Remembers, texts, Kind.offerAll]
  | append_singleton os o ih =>
    rw [Kind.offerAll_append_singleton, texts_append_singleton]
    cases h : o.grid.get? o.location with
    | none =>
      rw [Option.toList_none, List.append_nil]
      have hflagged := check_of_none h (Kind.replacement.offerAll ctx {} os).2.flagged
      show Remembers (texts os) (check _ o.profile o.location o.grid).2
      rw [hflagged]
      exact ih
    | some text => exact (check_of_text ih h).2

theorem violations_offer (ctx : Context) (before : List Offer)
    (h : o.grid.get? o.location = some text) :
    (Kind.replacement.offer ctx (Kind.replacement.offerAll ctx {} before).2 o).1.violations =
      finding (texts before) text o.location o.profile :=
  (check_of_text (remembers_offerAll ctx before) h).1

theorem violations_visit_append (ctx : Context) (os : List Offer)
    (h : o.grid.get? o.location = some text) :
    (visit ctx (os ++ [o])).violations =
      (visit ctx os).violations ++ finding (texts os) text o.location o.profile := by
  rw [visit, Kind.offerAll_append_singleton, Outcome.violations_join, List.flatMap_append,
    ← violations_offer ctx os h]
  simp [visit]

/-! ## Runs over cells -/

/-- The violations that report a text as new. -/
def news (vs : Violations) : Violations :=
  vs.filter fun v => v.message = Problem.replacementCharacter.text

theorem news_finding : news (finding past text l profile) =
    if isMarked text ∧ text ∉ past then [.ofProblem .replacementCharacter l profile] else [] := by
  have hother : Problem.replacementRepeated.text ≠ Problem.replacementCharacter.text := by decide
  rw [finding]
  by_cases hmarked : isMarked text = true
  · by_cases hpast : text ∈ past
    · simp [news, hmarked, hpast, Violation.ofProblem, Violation.of, hother]
    · simp [news, hmarked, hpast, Violation.ofProblem, Violation.of]
  · simp [news, hmarked]

theorem mem_finding (hv : v ∈ finding past text l profile) :
    v.location = l ∧ v.profile = profile ∧ isMarked text = true := by
  rw [finding] at hv
  obtain ⟨hmarked, hv⟩ := List.mem_ite_nil_right.mp hv
  rw [List.mem_singleton.mp hv]
  exact ⟨rfl, rfl, hmarked⟩

theorem exists_mem_finding (past : List String) (h : isMarked text = true) (l : Location)
    (profile : String) :
    ∃ v ∈ finding past text l profile, v.location = l ∧ v.profile = profile := by
  rw [finding, if_pos h]
  exact ⟨_, List.mem_singleton_self _, rfl, rfl⟩

/-- What is reported of offers of cells: each text with a replacement character each time that it comes
up, and as new once, and of the cells exactly those that hold one. -/
structure Marks (os : List Offer) (vs : Violations) : Prop where
  all : vs.length = (texts os).countP isMarked
  news : (news vs).length = ((texts os).filter isMarked).toFinset.card
  cells : ∀ l profile, (∃ v ∈ vs, v.location = l ∧ v.profile = profile) ↔
    ∃ o ∈ os, (∃ text, o.grid.get? o.location = some text ∧ isMarked text = true) ∧
      o.location = l ∧ o.profile = profile

/-- The next cell adds what is found of its text. -/
theorem Marks.append {vs : Violations} (hm : Marks os vs) (h : o.grid.get? o.location = some text) :
    Marks (os ++ [o]) (vs ++ finding (texts os) text o.location o.profile) where
  all := by
    rw [texts_append_singleton, h, Option.toList_some, List.length_append, List.countP_append, hm.all,
      finding]
    by_cases hmarked : isMarked text = true <;> simp [hmarked]
  news := by
    rw [Replacement.news, List.filter_append, List.length_append, ← Replacement.news,
      ← Replacement.news, hm.news, news_finding, texts_append_singleton, h, Option.toList_some,
      List.filter_append, List.toFinset_append]
    by_cases hmarked : isMarked text = true
    · by_cases hpast : text ∈ texts os
      · simp [hmarked, hpast]
      · have hnew : text ∉ ((texts os).filter isMarked).toFinset := by simp [hpast]
        rw [if_pos ⟨hmarked, hpast⟩, List.filter_cons_of_pos hmarked, List.filter_nil,
          List.toFinset_cons, List.toFinset_nil, Finset.union_insert, Finset.union_empty,
          Finset.card_insert_of_notMem hnew]
        rfl
    · simp [hmarked]
  cells l profile := by
    simp only [List.mem_append, or_and_right, exists_or, hm.cells l profile, List.mem_singleton]
    refine or_congr Iff.rfl ?_
    constructor
    · rintro ⟨v, hv, hl, hprofile⟩
      obtain ⟨hvl, hvprofile, hmarked⟩ := mem_finding hv
      exact ⟨o, rfl, ⟨text, h, hmarked⟩, hvl ▸ hl, hvprofile ▸ hprofile⟩
    · rintro ⟨_, rfl, ⟨other, hother, hmarked⟩, rfl, rfl⟩
      rw [h] at hother
      cases hother
      exact exists_mem_finding (texts os) hmarked _ _

/-- **A run over cells** reports the texts with a replacement character. -/
theorem marks_visit (ctx : Context) (h : ∀ o ∈ os, ∃ text, o.grid.get? o.location = some text) :
    Marks os (visit ctx os).violations := by
  induction os using List.reverseRecOn with
  | nil => exact ⟨rfl, rfl, fun l profile => by simp [visit, Kind.offerAll, Outcome.join]⟩
  | append_singleton os o ih =>
    rw [List.forall_mem_append] at h
    obtain ⟨text, htext⟩ := h.2 o (List.mem_singleton_self o)
    rw [violations_visit_append ctx os htext]
    exact (ih h.1).append htext

/-! ## Scans -/

/-- What is reported of the cells of a grid, whatever the order in which they are visited. -/
structure MarksOf (g : Grid) (vs : Violations) : Prop where
  all : vs.length = g.rows.flatten.countP isMarked
  news : (Replacement.news vs).length = (g.rows.flatten.filter isMarked).toFinset.card
  cells : ∀ l, (∃ v ∈ vs, v.location = l) ↔ ∃ text, g.get? l = some text ∧ isMarked text = true

theorem texts_ofGrid (profile : String) (g : Grid) :
    texts (Offer.ofGrid profile g) = g.rows.flatten := by
  rw [texts, Offer.ofGrid, List.filterMap_map]
  exact g.filterMap_get?_locations

theorem mem_ofGrid_iff : o ∈ Offer.ofGrid profile g ↔
    o.profile = profile ∧ o.grid = g ∧ ∃ text, g.get? o.location = some text := by
  rw [Offer.ofGrid, List.mem_map]
  constructor
  · rintro ⟨l, hl, rfl⟩
    exact ⟨rfl, rfl, Grid.mem_locations_iff.mp hl⟩
  · rintro ⟨rfl, rfl, hcell⟩
    exact ⟨o.location, Grid.mem_locations_iff.mpr hcell, rfl⟩

theorem marksOf_visit (ctx : Context) (h : os.Perm (Offer.ofGrid profile g)) :
    MarksOf g (visit ctx os).violations := by
  have hmem : ∀ o, o ∈ os ↔ o.profile = profile ∧ o.grid = g ∧
      ∃ text, g.get? o.location = some text := fun o => h.mem_iff.trans mem_ofGrid_iff
  have hcells : ∀ o ∈ os, ∃ text, o.grid.get? o.location = some text := by
    intro o ho
    obtain ⟨-, hgrid, hcell⟩ := (hmem o).mp ho
    rw [hgrid]
    exact hcell
  have htexts : (texts os).Perm g.rows.flatten := texts_ofGrid profile g ▸ h.filterMap _
  have hm := marks_visit ctx hcells
  refine ⟨?_, ?_, fun l => ?_⟩
  · rw [hm.all, htexts.countP_eq]
  · rw [hm.news, List.toFinset_eq_of_perm _ _ (htexts.filter isMarked)]
  · constructor
    · rintro ⟨v, hv, rfl⟩
      obtain ⟨o, ho, hmarked, hl, -⟩ := (hm.cells _ _).mp ⟨v, hv, rfl, rfl⟩
      rw [← hl, ← ((hmem o).mp ho).2.1]
      exact hmarked
    · rintro ⟨text, hget, hmarked⟩
      have ho : (⟨profile, l, g⟩ : Offer) ∈ os := (hmem _).mpr ⟨rfl, rfl, text, hget⟩
      obtain ⟨v, hv, hl, -⟩ :=
        (hm.cells l profile).mpr ⟨_, ho, ⟨text, hget, hmarked⟩, rfl, rfl⟩
      exact ⟨v, hv, hl⟩

/-- **Replacement characters over a whole run.**  An offer of a cell is answered by one violation if the
text of the cell holds a replacement character, and by none otherwise; the violation reports the text as
new the first time it comes up, and as repeated from then on.  So a visit of all cells of a grid, in any
order, reports as many violations as there are such cells, as many of them as new as there are different
such texts, and the same cells. -/
theorem marks_of_run (ctx : Context) :
    (∀ before o after text, o.grid.get? o.location = some text → ∃ outcome,
      (Kind.replacement.offerAll ctx {} (before ++ o :: after)).1[before.length]? = some outcome ∧
      outcome.violations =
        if '\uFFFD' ∈ text.toList then
          [.ofProblem (if text ∈ texts before then .replacementRepeated else .replacementCharacter)
            o.location o.profile]
        else []) ∧
    (∀ profile g os, os.Perm (Offer.ofGrid profile g) → MarksOf g (visit ctx os).violations) ∧
    ∀ profile g, MarksOf g (Kind.replacement.scan ctx profile g).violations := by
  refine ⟨?_, fun profile g os h => marksOf_visit ctx h, fun profile g => ?_⟩
  · intro before o after text h
    refine ⟨_, Kind.replacement.getElem?_offerAll ctx {} before o after, ?_⟩
    rw [violations_offer ctx before h, finding]
    simp only [isMarked, List.contains_iff_mem]
  · exact marksOf_visit ctx (List.Perm.refl (Offer.ofGrid profile g))

end Replacement
end MetadataAudit
