import MetadataAudit.Check.Kind
import MetadataAudit.Proofs.Grid.Cells

/-! # What a check answers to an offer

Where there is no cell, every check answers with the refusal of the grid, consults nothing and
remembers what it remembered (`Kind.offer_of_refused`).  Where there is one, all it reports are problems
of its own kind (`Problem.reporters`) with that cell and under the profile of the offer
(`Kind.reports_offer`).  Cells of the header row are reported by few checks
(`Kind.judgesHeader_of_offer`).
-/
namespace MetadataAudit

/-- The kinds that report a problem. -/
def Problem.reporters : Problem → List Kind
  | lineBreak => [.lineBreak]
  | noArkScheme | naanTooShort | naanNotAllowed | noObjectId | invalidObjectId => [.ark]
  | blankCharacter => [.objectType, .visibility, .fileName]
  | unknownObjectType => [.objectType]
  | unknownVisibility => [.visibility]
  | pageWithoutSequence | sequenceNotInteger | sequenceNotPositive => [.sequence]
  | noHostDirectory | fileMissing _ => [.hostFile]
  | urlMalformed | urlUnreachable | urlUnreadable | urlBlank | urlKnownBad => [.license]
  | replacementCharacter | replacementRepeated => [.replacement]
  | noMediaFields | mediaColumnMissing _ | mediaFieldEmpty _ => [.media]
  | headerUnavailable _ | fieldMissing _ | dataMissing _ | profileUnknown _ => [.requiredField]

/-- A violation is a problem of a kind with a cell under a profile, whatever led to it. -/
def Violation.OfKind (k : Kind) (profile : String) (l : Location) (v : Violation) : Prop :=
  ∃ p : Problem, k ∈ p.reporters ∧ v.finding = ⟨p.text, l, profile⟩

theorem Violation.OfKind.address {k : Kind} {profile : String} {l : Location} {v : Violation}
    (h : v.OfKind k profile l) : v.location = l ∧ v.profile = profile := by
  obtain ⟨p, -, hfinding⟩ := h
  rw [location, Violation.profile, hfinding]
  exact ⟨rfl, rfl⟩

namespace Outcome

variable {k : Kind} {profile : String} {l : Location} {p : Problem}

/-- All that is reported are problems of a kind with one cell. -/
def Reports (k : Kind) (profile : String) (l : Location) (o : Outcome) : Prop :=
  ∀ v ∈ o.violations, v.OfKind k profile l

theorem reports_clean : Reports k profile l .clean := by
  intro v hv
  cases hv

theorem reports_violation {v : Violation} (h : v.OfKind k profile l) :
    Reports k profile l (.violation v) := by
  intro w hw
  cases List.mem_singleton.mp hw
  exact h

theorem reports_reject (h : k ∈ p.reporters) : Reports k profile l (.reject p l profile) :=
  reports_violation ⟨p, h, rfl⟩

end Outcome

namespace Grid

variable {g : Grid} {l : Location} {profile : String} {fields : List String} {v : Violation}

theorem dataCell_of_check_eq_error (h : g.check l profile = .error v) :
    g.dataCell l profile fields = .error v := by
  rw [dataCell, cell_of_check_eq_error h]
  rfl

/-- A cell of the header row holds no data. -/
theorem dataCell_of_header (h : g.check l profile = .ok ()) (hrow : l.row = 0) :
    g.dataCell l profile fields = .ok none := by
  obtain ⟨value, hget⟩ := check_eq_ok_iff.mp h
  rw [dataCell, cell_of_get?_eq_some hget]
  simp only [bind, Except.bind, Location.isHeader_eq_true.mpr hrow, if_true]
  rfl

/-- A cell below the header row holds data of the field whose name it stands under. -/
theorem dataCell_of_field {value field : String} (hget : g.get? l = some value) (hrow : l.row ≠ 0)
    (hfield : g.headers[l.col]? = some field) (hmem : field ∈ fields) :
    g.dataCell l profile fields = .ok (some value) := by
  have hdata : l.isHeader = false := Bool.eq_false_iff.mpr (mt Location.isHeader_eq_true.mp hrow)
  rw [dataCell, cell_of_get?_eq_some hget]
  simp only [bind, Except.bind, hdata, Bool.false_eq_true, if_false, hfield,
    List.contains_iff_mem.mpr hmem, if_true]
  rfl

/-- A cell that is there holds data of a field if it stands below the name of the field. -/
theorem dataCell_of_get? {value : String} (h : g.get? l = some value) (profile field : String) :
    g.dataCell l profile [field] =
      .ok (if l.row ≠ 0 ∧ g.headers[l.col]? = some field then some value else none) := by
  rw [dataCell, cell_of_get?_eq_some h]
  simp only [bind, Except.bind, pure, Except.pure, Location.isHeader_eq_true, ne_eq]
  by_cases hrow : l.row = 0
  · simp [hrow]
  · cases hname : g.headers[l.col]? with
    | none => simp [hrow]
    | some name => by_cases hfield : name = field <;> simp [hrow, hfield]

/-- What a cell holds of any fields is nothing or its text. -/
theorem dataCell_eq_none_or_some {value : String} (h : g.get? l = some value) (profile : String)
    (fields : List String) :
    g.dataCell l profile fields = .ok none ∨ g.dataCell l profile fields = .ok (some value) := by
  rw [dataCell, cell_of_get?_eq_some h]
  simp only [bind, Except.bind, pure, Except.pure]
  split
  · exact Or.inl rfl
  · split
    · split
      · exact Or.inr rfl
      · exact Or.inl rfl
    · exact Or.inl rfl

/-- Looking for data fails only where there is no cell. -/
theorem dataCell_eq_error_iff :
    g.dataCell l profile fields = .error v ↔ g.check l profile = .error v := by
  constructor
  · intro h
    rw [dataCell] at h
    cases hcell : g.cell l profile with
    | error w =>
      rw [hcell] at h
      cases h
      exact cell_eq_error_iff.mp hcell
    | ok value =>
      rw [hcell] at h
      simp only [bind, Except.bind, pure, Except.pure] at h
      split at h
      · cases h
      · split at h <;> cases h
  · exact dataCell_of_check_eq_error

theorem exists_dataCell_eq_ok (h : g.check l profile = .ok ()) (fields : List String) :
    ∃ value?, g.dataCell l profile fields = .ok value? := by
  cases hdata : g.dataCell l profile fields with
  | ok value? => exact ⟨value?, rfl⟩
  | error v =>
    rw [dataCell_eq_error_iff.mp hdata] at h
    cases h

end Grid

section Checks

variable {k : Kind} {g : Grid} {l : Location} {profile : String} {v : Violation}

open Outcome

theorem Check.onField_of_refused {fields : List String} {judge : String → Outcome}
    (h : g.check l profile = .error v) : onField fields profile l g judge = .violation v := by
  rw [onField, Grid.dataCell_of_check_eq_error h]

theorem Check.onField_of_header {fields : List String} {judge : String → Outcome}
    (h : g.check l profile = .ok ()) (hrow : l.row = 0) :
    onField fields profile l g judge = .clean := by
  rw [onField, Grid.dataCell_of_header h hrow]

/-- A check of fields passes over a cell to whose text it has nothing to say. -/
theorem Check.onField_of_clean {fields : List String} {judge : String → Outcome} {value : String}
    (hget : g.get? l = some value) (hclean : judge value = .clean) :
    onField fields profile l g judge = .clean := by
  rw [onField]
  rcases Grid.dataCell_eq_none_or_some hget profile fields with hnone | hsome
  · rw [hnone]
  · rw [hsome]
    exact hclean

theorem Check.onField_of_field {fields : List String} {judge : String → Outcome}
    {value field : String} (hget : g.get? l = some value) (hrow : l.row ≠ 0)
    (hfield : g.headers[l.col]? = some field) (hmem : field ∈ fields) :
    onField fields profile l g judge = judge value := by
  rw [onField, Grid.dataCell_of_field hget hrow hfield hmem]

/-! ### Problems of each kind -/

theorem Check.reports_onField (h : g.check l profile = .ok ()) {fields : List String}
    {judge : String → Outcome} (hjudge : ∀ value, Reports k profile l (judge value)) :
    Reports k profile l (onField fields profile l g judge) := by
  obtain ⟨value?, hdata⟩ := Grid.exists_dataCell_eq_ok h fields
  rw [onField, hdata]
  cases value? with
  | none => exact reports_clean
  | some value => exact hjudge value

theorem Check.reports_lineBreak (h : g.check l profile = .ok ()) :
    Reports .lineBreak profile l (lineBreak profile l g) := by
  obtain ⟨value, hget⟩ := Grid.check_eq_ok_iff.mp h
  rw [lineBreak, Grid.cell_of_get?_eq_some hget]
  dsimp only
  split
  · exact reports_reject (by decide)
  · exact reports_clean

theorem Check.reports_fileName (h : g.check l profile = .ok ()) :
    Reports .fileName profile l (fileName profile l g) := by
  refine reports_onField h fun value => ?_
  split
  · exact reports_reject (by decide)
  · exact reports_clean

theorem Check.reports_vocabulary (h : g.check l profile = .ok ()) {voc : Vocabulary}
    (hblank : k ∈ Problem.blankCharacter.reporters) (hunknown : k ∈ voc.unknown.reporters) :
    Reports k profile l (vocabulary voc profile l g) := by
  refine reports_onField h fun value => ?_
  split
  · exact reports_reject hblank
  · split
    · exact reports_reject hunknown
    · exact reports_clean

theorem Ark.reporters_of_mem_problems {rules : Rulebook} {key : List Char} {p : Problem}
    (h : p ∈ problems rules profile key) : Kind.ark ∈ p.reporters := by
  have hall : (problems rules profile key).all fun p => Kind.ark ∈ p.reporters := by
    rw [problems]
    split
    · simp only [List.all_append, Bool.and_eq_true]
      refine ⟨⟨?_, ?_⟩, ?_⟩
      · split <;> decide
      · split <;> decide
      · split
        · decide
        · split <;> decide
    · decide
  exact of_decide_eq_true (List.all_eq_true.mp hall p h)

theorem Ark.reports_check (h : g.check l profile = .ok ()) (rules : Rulebook) :
    Reports .ark profile l (check rules profile l g) := by
  refine Check.reports_onField h fun value => ?_
  split
  · exact reports_clean
  · intro v hv
    dsimp only at hv
    obtain ⟨p, hp, rfl⟩ := List.mem_map.mp hv
    exact ⟨p, reporters_of_mem_problems hp, rfl⟩

theorem HostFile.reports_check (h : g.check l profile = .ok ()) (ctx : Context) :
    Reports .hostFile profile l (check ctx profile l g) := by
  refine Check.reports_onField h fun value => ?_
  split
  · exact reports_clean
  · split
    · exact reports_reject (by decide)
    · rename_i hostDir _
      have hmissing : Kind.hostFile ∈ (Problem.fileMissing (resolve hostDir value)).reporters :=
        List.mem_singleton_self _
      dsimp only
      split
      · exact reports_clean
      · exact reports_reject hmissing
      · exact reports_violation ⟨_, hmissing, rfl⟩

theorem Sequence.reports_check (h : g.check l profile = .ok ()) :
    Reports .sequence profile l (check profile l g) := by
  refine Check.reports_onField h fun value => ?_
  split
  · split
    · exact reports_reject (by decide)
    · exact reports_clean
  · split
    · split
      · exact reports_clean
      · exact reports_reject (by decide)
    · exact reports_violation ⟨.sequenceNotInteger, by decide, rfl⟩

theorem RequiredField.reports_filled (name : String) :
    Reports .requiredField profile l (filled name profile l g) := by
  intro v hv
  rw [filled] at hv
  dsimp only at hv
  split at hv
  · cases List.mem_singleton.mp hv
    exact ⟨.dataMissing name, List.mem_singleton_self _, rfl⟩
  · cases hv

theorem RequiredField.reports_data (name : String) (condition : Condition) :
    Reports .requiredField profile l (data name condition profile l g) := by
  rw [data]
  split
  · split
    · split
      · exact reports_filled name
      · exact reports_clean
    · exact reports_violation ⟨.headerUnavailable name, List.mem_singleton_self _, rfl⟩
  · exact reports_filled name

theorem RequiredField.reports_dataCell (table : FieldTable) :
    Reports .requiredField profile l (dataCell table profile l g) := by
  rw [dataCell]
  split
  · exact reports_violation ⟨.headerUnavailable _, List.mem_singleton_self _, rfl⟩
  · split
    · split
      · exact reports_data _ _
      · exact reports_clean
    · exact reports_clean

theorem RequiredField.reports_check (h : g.check l profile = .ok ()) (rules : Rulebook) :
    Reports .requiredField profile l (check rules profile l g) := by
  rw [check, h]
  dsimp only
  split
  · split
    · exact reports_reject (List.mem_singleton_self _)
    · exact reports_clean
  · split
    · intro v hv
      obtain ⟨field, -, rfl⟩ := List.mem_map.mp hv
      exact ⟨.fieldMissing field, List.mem_singleton_self _, rfl⟩
    · split
      · exact reports_clean
      · exact reports_dataCell _

/-- Beyond the first cell, the header row is not judged. -/
theorem RequiredField.check_of_header (rules : Rulebook) (h : g.check l profile = .ok ())
    (hrow : l.row = 0) (hne : l ≠ .origin) : check rules profile l g = .clean := by
  rw [check, h]
  simp only [hne, if_false, Location.isHeader_eq_true.mpr hrow, if_true]
  cases rules.table? profile <;> rfl

theorem License.ofKind_of_verdict {result : Except FetchError Page}
    (h : verdict result l profile = some v) : v.OfKind .license profile l := by
  unfold verdict at h
  split at h
  · cases h
  · cases h
    exact ⟨.urlBlank, by decide, rfl⟩
  · rename_i e
    cases h
    cases e with
    | read page => exact ⟨.urlUnreadable, by decide, rfl⟩
    | client | connect page | timeout page nanos => exact ⟨.urlUnreachable, by decide, rfl⟩

theorem License.reports_judge (fetch : Fetch) (seen : Seen) (url : String) :
    Reports .license profile l (judge fetch seen url l profile).1 := by
  rw [judge]
  split
  · dsimp only
    split
    · exact reports_clean
    · rename_i v hv
      exact reports_violation (ofKind_of_verdict hv)
  · exact reports_violation ⟨.urlMalformed, by decide, rfl⟩

theorem License.reports_check (h : g.check l profile = .ok ()) (rules : Rulebook) (fetch : Fetch)
    (seen : Seen) : Reports .license profile l (check rules fetch seen profile l g).1 := by
  obtain ⟨value?, hdata⟩ := Grid.exists_dataCell_eq_ok h [Field.license]
  rw [check, hdata]
  cases value? with
  | none => exact reports_clean
  | some url =>
    dsimp only
    split
    · exact reports_clean
    · split
      · exact reports_clean
      · split
        · exact reports_reject (by decide)
        · exact reports_judge _ _ _

theorem Media.ofKind_of_emptyField {column : String × Nat}
    (h : emptyField profile l g column = some v) : v.OfKind .media profile l := by
  unfold emptyField at h
  split at h
  · split at h
    · cases h
      exact ⟨.mediaFieldEmpty _, List.mem_singleton_self _, rfl⟩
    · cases h
  · cases h
    exact ⟨.mediaFieldEmpty _, List.mem_singleton_self _, rfl⟩

theorem Media.ofKind_of_mem_missingColumns {found : Columns}
    (h : v ∈ missingColumns found profile l) : v.OfKind .media profile l := by
  rw [missingColumns] at h
  split at h
  · cases List.mem_singleton.mp h
    exact ⟨.noMediaFields, by decide, rfl⟩
  · obtain ⟨field, -, rfl⟩ := List.mem_map.mp h
    exact ⟨.mediaColumnMissing field, List.mem_singleton_self _, rfl⟩

theorem Media.reports_check (h : g.check l profile = .ok ()) (rules : Rulebook)
    (known : Option Columns) : Reports .media profile l (check rules known profile l g).1 := by
  have hempty {found : Columns} : ∀ v ∈ found.filterMap (emptyField profile l g),
      v.OfKind .media profile l := by
    intro v hv
    obtain ⟨column, -, hcolumn⟩ := List.mem_filterMap.mp hv
    exact ofKind_of_emptyField hcolumn
  obtain ⟨value?, hdata⟩ := Grid.exists_dataCell_eq_ok h [Field.resourceType]
  unfold check
  rw [hdata]
  cases value? with
  | none => exact reports_clean
  | some value =>
    dsimp only
    split
    · split
      · exact hempty
      · intro v hv
        rcases List.mem_append.mp hv with hmissing | hfound
        · exact ofKind_of_mem_missingColumns hmissing
        · exact hempty v hfound
    · exact reports_clean

theorem Replacement.reports_check (h : g.check l profile = .ok ()) (flagged : List String) :
    Reports .replacement profile l (check flagged profile l g).1 := by
  obtain ⟨value, hget⟩ := Grid.check_eq_ok_iff.mp h
  rw [check, Grid.cell_of_get?_eq_some hget]
  dsimp only
  split
  · exact reports_reject (by decide)
  · split
    · exact reports_reject (by decide)
    · exact reports_clean

end Checks

namespace Kind

variable {k : Kind} {ctx : Context} {memo : Memo} {o : Offer}

/-- Where there is no cell, the refusal of the grid is the answer and nothing is remembered of it. -/
theorem offer_of_refused {v : Violation} (h : o.grid.check o.location o.profile = .error v) :
    k.offer ctx memo o = (.violation v, memo) := by
  cases k with
  | lineBreak => rw [offer, Check.lineBreak, Grid.cell_of_check_eq_error h]
  | ark => rw [offer, Ark.check, Check.onField_of_refused h]
  | requiredField => rw [offer, RequiredField.check, h]
  | objectType => rw [offer, Check.vocabulary, Check.onField_of_refused h]
  | visibility => rw [offer, Check.vocabulary, Check.onField_of_refused h]
  | sequence => rw [offer, Sequence.check, Check.onField_of_refused h]
  | hostFile => rw [offer, HostFile.check, Check.onField_of_refused h]
  | fileName => rw [offer, Check.fileName, Check.onField_of_refused h]
  | license => rw [offer, License.check, Grid.dataCell_of_check_eq_error h]
  | media =>
    unfold offer Media.check
    simp only [Grid.dataCell_of_check_eq_error h]
  | replacement => rw [offer, Replacement.check, Grid.cell_of_check_eq_error h]

/-- **Where there is a cell, a check reports problems of its kind with that cell**, whatever it
remembers. -/
theorem reports_offer (k : Kind) (ctx : Context) (memo : Memo)
    (h : o.grid.check o.location o.profile = .ok ()) :
    (k.offer ctx memo o).1.Reports k o.profile o.location := by
  cases k with
  | lineBreak => exact Check.reports_lineBreak h
  | ark => exact Ark.reports_check h _
  | requiredField => exact RequiredField.reports_check h _
  | objectType => exact Check.reports_vocabulary h (by decide) (by decide)
  | visibility => exact Check.reports_vocabulary h (by decide) (by decide)
  | sequence => exact Sequence.reports_check h
  | hostFile => exact HostFile.reports_check h _
  | fileName => exact Check.reports_fileName h
  | license => exact License.reports_check h _ _ _
  | media => exact Media.reports_check h _ _
  | replacement => exact Replacement.reports_check h _

/-- All that is reported is about the cell and the profile of the offer. -/
theorem about_offer (k : Kind) (ctx : Context) (memo : Memo) (o : Offer) :
    ∀ v ∈ (k.offer ctx memo o).1.violations,
      v.location = o.location ∧ v.profile = o.profile := by
  intro v hv
  cases h : o.grid.check o.location o.profile with
  | ok _ => exact (reports_offer k ctx memo h v hv).address
  | error w =>
    rw [offer_of_refused h] at hv
    cases List.mem_singleton.mp hv
    exact Grid.address_of_check_eq_error h

/-- Whether a kind has anything to say on a cell of the header row: on the characters of any, or on
the fields that the row lacks, at the first one. -/
def JudgesHeader (k : Kind) (l : Location) : Prop :=
  k = .lineBreak ∨ k = .replacement ∨ (k = .requiredField ∧ l = .origin)

theorem judgesHeader_of_offer (h : o.grid.check o.location o.profile = .ok ())
    (hrow : o.location.row = 0) {v : Violation} (hv : v ∈ (k.offer ctx memo o).1.violations) :
    k.JudgesHeader o.location := by
  have passed {judged : Outcome × Memo} (hclean : judged.1 = .clean)
      (hmem : v ∈ judged.1.violations) : False := by
    rw [hclean] at hmem
    cases hmem
  cases k with
  | lineBreak => exact Or.inl rfl
  | replacement => exact Or.inr (Or.inl rfl)
  | requiredField =>
    by_cases horigin : o.location = .origin
    · exact Or.inr (Or.inr ⟨rfl, horigin⟩)
    · exact (passed (RequiredField.check_of_header _ h hrow horigin) hv).elim
  | ark | objectType | visibility | sequence | hostFile | fileName =>
    exact (passed (Check.onField_of_header h hrow) hv).elim
  | license =>
    refine (passed ?_ hv).elim
    rw [offer, License.check, Grid.dataCell_of_header h hrow]
  | media =>
    refine (passed ?_ hv).elim
    unfold offer Media.check
    simp only [Grid.dataCell_of_header h hrow]

/-- **What any check answers to any offer**, whatever it remembers.  Where there is no cell, it
reports the refusal of the grid alone, opens no page, looks up no file and remembers nothing new;
where there is one, all it reports is about that cell and the profile of the offer. -/
theorem answer_of_offer (k : Kind) (ctx : Context) (memo : Memo) (o : Offer) :
    (o.grid.get? o.location = none → ∃ v, o.grid.check o.location o.profile = .error v ∧
      v.location = o.location ∧ v.profile = o.profile ∧
      (k.offer ctx memo o).1.violations = [v] ∧ (k.offer ctx memo o).1.fetched = [] ∧
      (k.offer ctx memo o).1.looked = [] ∧ (k.offer ctx memo o).2 = memo) ∧
    (∀ value, o.grid.get? o.location = some value →
      ∀ v ∈ (k.offer ctx memo o).1.violations, v.location = o.location ∧ v.profile = o.profile) := by
  constructor
  · intro hget
    obtain ⟨v, hv, hl, hp⟩ := Grid.exists_check_eq_error hget o.profile
    rw [offer_of_refused hv]
    exact ⟨v, hv, hl, hp, rfl, rfl, rfl, rfl⟩
  · intro value _
    exact about_offer k ctx memo o

/-- A check that remembers an address is offered a cell that a short row lacks, and the address. -/
theorem answer_of_offer_short_row :
    let ctx : Context := {
      store := .empty none .epoch
      rules := .builtin
      fetch := some .unreachable }
    let g : Grid := ⟨[["License", "Title"], ["http://a"]]⟩
    let memo := (license.offer ctx {} ⟨"p", ⟨1, 0⟩, g⟩).2
    let absent : Offer := ⟨"p", ⟨1, 1⟩, g⟩
    let present : Offer := ⟨"p", ⟨1, 0⟩, g⟩
    (g.get? ⟨1, 1⟩ = none ∧ ∃ v, g.check ⟨1, 1⟩ "p" = .error v ∧ v.location = ⟨1, 1⟩ ∧
      v.profile = "p" ∧ (license.offer ctx memo absent).1.violations = [v] ∧
      (license.offer ctx memo absent).1.fetched = [] ∧
      (license.offer ctx memo absent).1.looked = [] ∧ (license.offer ctx memo absent).2 = memo) ∧
    (g.get? ⟨1, 0⟩ = some "http://a" ∧ ∀ v ∈ (license.offer ctx memo present).1.violations,
      v.location = ⟨1, 0⟩ ∧ v.profile = "p") := by
  intro ctx g memo absent present
  have habsent : g.get? ⟨1, 1⟩ = none := rfl
  have hpresent : g.get? ⟨1, 0⟩ = some "http://a" := rfl
  exact ⟨⟨habsent, (answer_of_offer license ctx memo absent).1 habsent⟩, hpresent,
    (answer_of_offer license ctx memo present).2 _ hpresent⟩

end Kind
end MetadataAudit
