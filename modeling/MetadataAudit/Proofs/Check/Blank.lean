import MetadataAudit.Proofs.Check.RequiredField
import MetadataAudit.Proofs.Check.Sequence

/-! # Blank cells

A cell that must be filled in counts as missing if its text is blank, that is empty or made of blank
characters only.  The checks of keys, of host files and of licenses pass over these cells whatever they
remember (`Kind.passes_of_isBlank`), so that no scan reports one.  The check of sequences passes over the
empty text alone: any other blank text is to it a number that cannot be read, also on a page
(`Kind.blanks_of_data`).
-/
namespace MetadataAudit

variable {ctx : Context} {memo : Memo} {profile value : String} {g : Grid} {l : Location}

namespace Kind

/-- A check passes over a cell: it reports nothing, asks for nothing and remembers nothing new, whatever
it remembers. -/
def Passes (k : Kind) (ctx : Context) (o : Offer) : Prop :=
  ∀ memo, k.offer ctx memo o = (.clean, memo)

theorem passes_ark (hget : g.get? l = some value) (hblank : Text.isBlank value = true) :
    ark.Passes ctx ⟨profile, l, g⟩ := by
  intro memo
  rw [offer, Ark.check, Check.onField_of_clean hget (if_pos hblank)]

theorem passes_hostFile (hget : g.get? l = some value) (hblank : Text.isBlank value = true) :
    hostFile.Passes ctx ⟨profile, l, g⟩ := by
  intro memo
  rw [offer, HostFile.check, Check.onField_of_clean hget (if_pos hblank)]

theorem passes_license (hget : g.get? l = some value) (hblank : Text.isBlank value = true) :
    license.Passes ctx ⟨profile, l, g⟩ := by
  intro memo
  rw [offer, License.check]
  rcases Grid.dataCell_eq_none_or_some hget profile [Field.license] with hnone | hsome
  · rw [hnone]
  · simp only [hsome, hblank, Bool.true_or, if_true]

theorem passes_sequence (hget : g.get? l = some value)
    (hfield : g.headers[l.col]? ≠ some "Item Sequence") :
    sequence.Passes ctx ⟨profile, l, g⟩ := by
  intro memo
  have hother : ¬ (l.row ≠ 0 ∧ g.headers[l.col]? = some Field.itemSequence) :=
    fun h => hfield h.2
  rw [offer, Sequence.check, Check.onField, Grid.dataCell_of_get? hget, if_neg hother]

/-- The kinds of checks that leave blank cells to the check of required fields. -/
def leavesBlanks : List Kind := [ark, hostFile, license]

theorem passes_of_isBlank {k : Kind} (hk : k ∈ leavesBlanks) (hget : g.get? l = some value)
    (hblank : Text.isBlank value = true) : k.Passes ctx ⟨profile, l, g⟩ := by
  simp only [leavesBlanks, List.mem_cons, List.not_mem_nil, or_false] at hk
  rcases hk with rfl | rfl | rfl
  · exact passes_ark hget hblank
  · exact passes_hostFile hget hblank
  · exact passes_license hget hblank

/-- What a scan reports of the kinds that leave blanks is about a cell that is not blank. -/
theorem not_isBlank_of_mem_scan {k : Kind} (hk : k ∈ leavesBlanks) {v : Violation}
    (hv : v ∈ (k.scan ctx profile g).violations) :
    ∃ value, g.get? v.location = some value ∧ Text.isBlank value = false := by
  obtain ⟨l, hcell, memo, hvo⟩ := exists_offer_of_mem_scan hv
  obtain ⟨value, hget⟩ := Grid.check_eq_ok_iff.mp hcell
  have hlocation : v.location = l := (about_offer k ctx memo ⟨profile, l, g⟩ v hvo).1
  rw [hlocation]
  refine ⟨value, hget, Bool.eq_false_iff.mpr fun hblank => ?_⟩
  rw [passes_of_isBlank hk hget hblank memo] at hvo
  cases hvo

/-- **Blank cells.**  A data cell with blank text counts as missing where it must be filled in; the
checks of keys, of host files and of licenses pass over it, and so does the check of sequences under any
other name than its own.  Under `Item Sequence` this check reports what the row owes if the text is
empty, and only then: any other blank text is reported as no integer, whatever the row describes. -/
theorem blanks_of_data (hget : g.get? l = some value) (hrow : l.row ≠ 0)
    (hblank : Text.isBlank value = true) :
    (∀ name, (RequiredField.filled name profile l g).violations =
      [.ofProblem (.dataMissing name) l profile]) ∧
    (∀ k ∈ leavesBlanks, k.Passes ctx ⟨profile, l, g⟩) ∧
    (g.headers[l.col]? ≠ some "Item Sequence" → sequence.Passes ctx ⟨profile, l, g⟩) ∧
    (g.headers[l.col]? = some "Item Sequence" →
      ((sequence.offer ctx memo ⟨profile, l, g⟩).1.violations = Sequence.owed profile l g ↔
        value = "") ∧
      (value ≠ "" → (sequence.offer ctx memo ⟨profile, l, g⟩).1.violations =
        [(Violation.ofProblem .sequenceNotInteger l profile).causedByText
          "invalid digit found in string"])) := by
  refine ⟨fun name => ?_, fun k hk => passes_of_isBlank hk hget hblank, passes_sequence hget,
    fun hfield => ⟨⟨fun howed => ?_, ?_⟩, ?_⟩⟩
  · rw [RequiredField.violations_filled hget, if_pos hblank]
  · by_contra hne
    rw [offer, Sequence.violations_check_blank hget hrow hfield hblank hne] at howed
    exact Sequence.owed_ne_notInteger howed.symm
  · rintro rfl
    exact Sequence.violations_check_empty hget hrow hfield
  · intro hne
    exact Sequence.violations_check_blank hget hrow hfield hblank hne

/-- A page gives an ideographic space and a tab for its place. -/
theorem blanks_of_data_page :
    let ctx : Context := { store := .empty none .epoch, rules := .builtin }
    let g : Grid := ⟨[["Object Type", "Item Sequence"], ["Page", "\u3000\t"]]⟩
    let o : Offer := ⟨"p", ⟨1, 1⟩, g⟩
    let found := (sequence.offer ctx {} o).1.violations
    g.get? ⟨1, 1⟩ = some "\u3000\t" ∧ Text.isBlank "\u3000\t" = true ∧
    (RequiredField.filled "Item Sequence" "p" ⟨1, 1⟩ g).violations =
      [.ofProblem (.dataMissing "Item Sequence") ⟨1, 1⟩ "p"] ∧
    ark.Passes ctx o ∧ hostFile.Passes ctx o ∧ license.Passes ctx o ∧
    found ≠ Sequence.owed "p" ⟨1, 1⟩ g ∧
    found = [(Violation.ofProblem .sequenceNotInteger ⟨1, 1⟩ "p").causedByText
      "invalid digit found in string"] := by
  intro ctx g o found
  have hget : g.get? ⟨1, 1⟩ = some "\u3000\t" := rfl
  have hblank : Text.isBlank "\u3000\t" = true := by decide
  obtain ⟨hmissing, hpasses, -, hsequence⟩ :=
    @blanks_of_data ctx {} "p" _ g ⟨1, 1⟩ hget (by decide) hblank
  obtain ⟨howed, hfound⟩ := hsequence rfl
  exact ⟨hget, hblank, hmissing "Item Sequence", hpasses ark (by decide), hpasses hostFile (by decide),
    hpasses license (by decide), mt howed.mp (by decide), hfound (by decide)⟩

/-- A blank outside of pages is reported. -/
theorem not_owed_of_blank :
    ¬ ∀ (ctx : Context) (memo : Memo) (profile : String) (g : Grid) (l : Location) (value : String),
      g.get? l = some value → l.row ≠ 0 → g.headers[l.col]? = some "Item Sequence" →
        Text.isBlank value = true →
          (sequence.offer ctx memo ⟨profile, l, g⟩).1.violations = Sequence.owed profile l g := by
  intro hall
  have howed := hall { store := .empty none .epoch, rules := .builtin } {} "default"
    ⟨[["Object Type", "Item Sequence"], ["Work", " "]]⟩ ⟨1, 1⟩ _ rfl (by decide) rfl (by decide)
  exact absurd howed (by decide)

end Kind
end MetadataAudit
