import MetadataAudit.Proofs.Check.Scan

/-! # Media fields over a grid

A cell that tells of audio or video (`Media.Tells`) makes the check look at the media fields of its row;
any other is passed over.  The check remembers the columns of the header row from the first such cell on
and nothing else, so what it reports of a cell depends on the past only in whether there was one before
(`Media.answer_of_tells`).  A scan therefore reports the missing columns once, and the fields that are
not filled in with every cell that tells of media (`Media.scan_by_cells`).
-/
namespace MetadataAudit
namespace Media

variable {rules : Rulebook} {ctx : Context} {profile value field : String} {g : Grid} {l : Location}
  {cells : List Location} {known : Option Columns}

/-- A cell tells that its row describes audio or video. -/
def Tells (g : Grid) (l : Location) : Prop :=
  l.row ≠ 0 ∧ g.headers[l.col]? = some "Type.typeOfResource" ∧
    ∃ value ∈ g.get? l, Text.trim value ∈ ["mov", "aud", "aum", "aun"]

instance (g : Grid) (l : Location) : Decidable (Tells g l) := by
  unfold Tells
  infer_instance

/-- The media fields that the header row names. -/
def present (g : Grid) : List String :=
  ["media.width", "media.height", "media.duration", "media.format"].filter fun field =>
    field ∈ g.headers

/-- The media fields that the header row does not name. -/
def absent (g : Grid) : List String :=
  ["media.width", "media.height", "media.duration", "media.format"].filter fun field =>
    field ∉ g.headers

/-- The violations for media fields without a column. -/
def absentColumns (g : Grid) (profile : String) (l : Location) : Violations :=
  if present g = [] then [.ofProblem .noMediaFields l profile]
  else (absent g).map fun field => .ofProblem (.mediaColumnMissing field) l profile

/-- The violation for a field that the row of a location does not fill in, or is too short for. -/
def unfilled? (g : Grid) (profile : String) (l : Location) (field : String) : Option Violation :=
  let empty := Violation.ofProblem (.mediaFieldEmpty field) l profile
  match g.rowText? l.row field with
  | some text => if Text.isBlank text then some empty else none
  | none => some (empty.causedBy (g.noRowText l profile field))

/-- The violations for the media fields that the row of a location does not fill in. -/
def unfilled (g : Grid) (profile : String) (l : Location) : Violations :=
  (present g).filterMap (unfilled? g profile l)

/-- What there is to report of the cells that tell of media: missing columns with the first one, and
with each one the fields that its row does not fill in. -/
def reports (g : Grid) (profile : String) : List Location → Violations
  | [] => []
  | first :: later =>
    absentColumns g profile first ++ unfilled g profile first ++
      later.flatMap (unfilled g profile)

/-! ## Columns of the header row -/

theorem map_fst_columns (g : Grid) : (columns g.headers).map Prod.fst = present g := by
  rw [columns, fields, present, List.map_filterMap, ← List.filterMap_eq_filter]
  refine List.filterMap_congr fun field _ => ?_
  cases hcol : g.headers.idxOf? field with
  | none => simp [Option.guard, List.idxOf?_eq_none_iff.mp hcol]
  | some col =>
    have hmem : field ∈ g.headers := List.isSome_idxOf?.mp (Option.isSome_of_mem hcol)
    simp [Option.guard, hmem]

theorem missing_columns (g : Grid) : missing (columns g.headers) = absent g := by
  rw [missing, fields, absent, map_fst_columns]
  refine List.filter_congr fun field hfield => ?_
  have hiff : field ∈ present g ↔ field ∈ g.headers := by
    rw [present, List.mem_filter, decide_eq_true_eq]
    exact and_iff_right hfield
  simp [hiff]

theorem missingColumns_columns (g : Grid) (profile : String) (l : Location) :
    missingColumns (columns g.headers) profile l = absentColumns g profile l := by
  have hempty : (columns g.headers).isEmpty = true ↔ present g = [] := by
    rw [List.isEmpty_iff, ← map_fst_columns, List.map_eq_nil_iff]
  rw [missingColumns, absentColumns, missing_columns]
  simp only [hempty]

/-- A media field is empty in the row of a cell if the row does not fill it in. -/
theorem emptyField_eq_unfilled? (hget : g.get? l = some value) {col : Nat}
    (hcol : g.headers.idxOf? field = some col) :
    emptyField profile l g (field, col) = unfilled? g profile l field := by
  have htext : g.rowText? l.row field = g.get? (l.withCol col) := by
    rw [Grid.rowText?, hcol]
    rfl
  rw [emptyField, unfilled?, htext]
  cases hcell : g.get? (l.withCol col) with
  | some text => rw [Grid.cell_of_get?_eq_some hcell]
  | none =>
    have hrow : g.rowText? l.row field = none := htext.trans hcell
    have hvalue : g.rowValue l profile field = .error (g.noRowText l profile field) :=
      Grid.rowValue_eq_error hget hrow
    rw [Grid.rowValue, Grid.headerIndex, Grid.check_of_get?_eq_some hget, hcol] at hvalue
    dsimp only [bind, Except.bind, pure, Except.pure] at hvalue
    rw [hvalue]

theorem filterMap_emptyField (hget : g.get? l = some value) :
    (columns g.headers).filterMap (emptyField profile l g) = unfilled g profile l := by
  rw [columns, fields, unfilled, present, List.filterMap_filterMap, List.filterMap_filter]
  refine List.filterMap_congr fun field _ => ?_
  cases hcol : g.headers.idxOf? field with
  | none => simp [List.idxOf?_eq_none_iff.mp hcol]
  | some col =>
    have hmem : field ∈ g.headers := List.isSome_idxOf?.mp (Option.isSome_of_mem hcol)
    simp [hmem, emptyField_eq_unfilled? hget hcol]

/-! ## One cell -/

/-- The columns are known from the first cell on that tells of media. -/
def Known (g : Grid) (cells : List Location) (known : Option Columns) : Prop :=
  known = if cells = [] then none else some (columns g.headers)

theorem check_of_not_tells (hget : g.get? l = some value)
    (h : ¬ (rules.checksMedia profile = true ∧ Tells g l)) (known : Option Columns) :
    check rules known profile l g = (.clean, known) := by
  unfold check
  rw [Grid.dataCell_of_get? hget]
  by_cases hdata : l.row ≠ 0 ∧ g.headers[l.col]? = some Field.resourceType
  · have hpassed : (rules.checksMedia profile && resourceTypes.contains (Text.trim value)) = false := by
      rw [Bool.eq_false_iff]
      intro hjudged
      rw [Bool.and_eq_true, List.contains_iff_mem] at hjudged
      exact h ⟨hjudged.1, hdata.1, hdata.2, value, hget, hjudged.2⟩
    simp only [hdata, ne_eq, not_false_eq_true, and_self, if_true, hpassed, Bool.false_eq_true,
      if_false]
  · simp only [if_neg hdata]

/-- **One cell that tells of media** is answered by its row, and by whether there was one before. -/
theorem answer_of_tells (hmedia : rules.checksMedia profile = true) (htells : Tells g l)
    (hknown : Known g cells known) :
    (check rules known profile l g).1.violations =
        (if cells = [] then absentColumns g profile l else []) ++ unfilled g profile l ∧
      (check rules known profile l g).2 = some (columns g.headers) := by
  obtain ⟨hrow, hfield, value, hget, htype⟩ := htells
  have hjudged : resourceTypes.contains (Text.trim value) = true := List.contains_iff_mem.mpr htype
  have hdata : g.dataCell l profile [Field.resourceType] = .ok (some value) :=
    Grid.dataCell_of_field hget hrow hfield (List.mem_singleton_self _)
  unfold check
  rw [hdata, hknown]
  by_cases hcells : cells = []
  · simp only [hcells, hmedia, hjudged, Bool.and_self, if_true, missingColumns_columns,
      filterMap_emptyField hget, and_self]
  · simp only [hcells, hmedia, hjudged, Bool.and_self, if_true, if_false,
      filterMap_emptyField hget, List.nil_append, and_self]

/-! ## A scan -/

theorem reports_append_singleton (g : Grid) (profile : String) (cells : List Location)
    (l : Location) :
    reports g profile (cells ++ [l]) = reports g profile cells ++
      ((if cells = [] then absentColumns g profile l else []) ++ unfilled g profile l) := by
  cases cells with
  | nil => simp [reports]
  | cons first later => simp [reports, List.append_assoc]

/-- What comes of the cells of a grid that are offered one after another. -/
def answers (ctx : Context) (profile : String) (g : Grid) (ls : List Location) :
    List Outcome × Memo :=
  Kind.media.offerAll ctx {} (ls.map fun l => ⟨profile, l, g⟩)

theorem answers_append_singleton (ctx : Context) (profile : String) (g : Grid) (ls : List Location)
    (l : Location) :
    let before := answers ctx profile g ls
    let answer := check ctx.rules before.2.columns profile l g
    answers ctx profile g (ls ++ [l]) =
      (before.1 ++ [answer.1], { before.2 with columns := answer.2 }) := by
  intro before answer
  rw [answers, List.map_append]
  exact Kind.media.offerAll_append_singleton _ _ _ _

/-- **A run knows the columns once a cell told of media**, and has reported what there is to report of
those that did. -/
theorem reports_answers (hmedia : ctx.rules.checksMedia profile = true) (ls : List Location)
    (hls : ∀ l ∈ ls, ∃ value, g.get? l = some value) :
    (answers ctx profile g ls).1.flatMap Outcome.violations =
        reports g profile (ls.filter fun l => Tells g l) ∧
      Known g (ls.filter fun l => Tells g l) (answers ctx profile g ls).2.columns := by
  induction ls using List.reverseRecOn with
  | nil => exact ⟨rfl, rfl⟩
  | append_singleton ls l ih =>
    rw [List.forall_mem_append] at hls
    obtain ⟨hviolations, hknown⟩ := ih hls.1
    obtain ⟨value, hget⟩ := hls.2 l (List.mem_singleton_self l)
    rw [answers_append_singleton, List.flatMap_append, hviolations, List.filter_append]
    by_cases htells : Tells g l
    · obtain ⟨hanswer, hcolumns⟩ := answer_of_tells hmedia htells hknown
      rw [hcolumns, List.filter_cons_of_pos (by simpa using htells), List.filter_nil,
        reports_append_singleton, List.flatMap_singleton, hanswer]
      exact ⟨rfl, by simp [Known]⟩
    · rw [check_of_not_tells hget (fun h => htells h.2), List.filter_cons_of_neg (by simpa using htells),
        List.filter_nil, List.append_nil]
      exact ⟨List.append_nil _, hknown⟩

/-- Only cells that tell of media are reported, and only where the profile asks for it. -/
theorem tells_of_mem_scan {v : Violation} (hv : v ∈ (Kind.media.scan ctx profile g).violations) :
    ctx.rules.checksMedia profile = true ∧ Tells g v.location := by
  obtain ⟨l, hcell, memo, hvo⟩ := Kind.exists_offer_of_mem_scan hv
  obtain ⟨value, hget⟩ := Grid.check_eq_ok_iff.mp hcell
  have hlocation : v.location = l := (Kind.about_offer .media ctx memo ⟨profile, l, g⟩ v hvo).1
  rw [hlocation]
  by_contra h
  have hclean : (Kind.media.offer ctx memo ⟨profile, l, g⟩).1 = .clean :=
    congrArg Prod.fst (check_of_not_tells hget h memo.columns)
  rw [hclean] at hvo
  cases hvo

/-- **Media fields over a whole scan.**  The cells that tell of media are taken row by row.  With the
first one, either the lack of all media fields is reported or that of each absent one; with each one,
the present fields that its row leaves blank or does not get as far as, in the order of the fields.  If
the profile does not ask for media fields, nothing is reported. -/
theorem scan_by_cells (ctx : Context) (profile : String) (g : Grid) :
    ∃ cells : List Location, cells.Pairwise Location.Before ∧ (∀ l, l ∈ cells ↔ Tells g l) ∧
      (Kind.media.scan ctx profile g).violations =
        (if ctx.rules.checksMedia profile then reports g profile cells else []) ∧
      ∀ v ∈ (Kind.media.scan ctx profile g).violations, v.location ∈ cells ∧ v.profile = profile := by
  have hmem (l : Location) : l ∈ g.locations.filter (fun l => Tells g l) ↔ Tells g l := by
    rw [List.mem_filter, Grid.mem_locations_iff, decide_eq_true_eq]
    exact ⟨And.right, fun h => ⟨h.2.2.imp fun _ hvalue => hvalue.1, h⟩⟩
  refine ⟨_, g.pairwise_locations.filter _, hmem, ?_, fun v hv => ?_⟩
  · cases hmedia : ctx.rules.checksMedia profile with
    | true =>
      rw [Kind.violations_scan]
      exact (reports_answers hmedia g.locations fun l hl => Grid.mem_locations_iff.mp hl).1
    | false =>
      refine List.eq_nil_iff_forall_not_mem.mpr fun v hv => ?_
      rw [(tells_of_mem_scan hv).1] at hmedia
      cases hmedia
  · exact ⟨(hmem _).mpr (tells_of_mem_scan hv).2, (Kind.address_of_mem_scan hv).2.1⟩

/-- The image is passed over; the film lacks two columns and a width, the short row of the song both
fields that there are. -/
example :
    (Kind.media.scan { store := .empty none .epoch, rules := .builtin } "fester"
      ⟨[["Type.typeOfResource", "media.format", "media.width"], ["still image", "", ""],
        ["mov", "video/mp4", " "], [" aud "]]⟩).violations.map
          (fun v => (v.location, v.message)) =
      [(⟨2, 0⟩, "media column `media.height` is missing"),
       (⟨2, 0⟩, "media column `media.duration` is missing"),
       (⟨2, 0⟩, "media field `media.width` is empty"),
       (⟨3, 0⟩, "media field `media.width` is empty"),
       (⟨3, 0⟩, "media field `media.format` is empty")] := by decide

end Media
end MetadataAudit
