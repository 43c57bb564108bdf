import MetadataAudit.Proofs.Audit.Groups
import MetadataAudit.Proofs.Audit.Union
import MetadataAudit.Proofs.Check.RequiredField

/-! # Fields that the header row lacks

Only a check for required fields reports that a field was not found, since no other problem is worded
like that (`Problem.text_eq_fieldMissing_iff`), and it does so at the first cell of the header row.  An
audit that runs it reports each field that the row lacks once, and of a grid without such a cell none
(`Audit.fieldMissing_of_run`).
-/
namespace MetadataAudit

/-! ## The wording -/

/-- The first byte of a text. -/
def Text.firstByte? (s : String) : Option UInt8 := s.toByteArray.data.toList.head?

theorem Text.firstByte?_append {s : String} {b : UInt8} (t : String) (h : firstByte? s = some b) :
    firstByte? (s ++ t) = some b := by
  rw [firstByte?, String.toByteArray_append, ByteArray.data_append, Array.toList_append,
    List.head?_append, ← firstByte?, h]
  rfl

/-- No other problem is worded with an `r`, the byte 114, in front. -/
theorem Problem.firstByte?_text (p : Problem) :
    (∃ field, p = .fieldMissing field) ∨ ∃ b, b ≠ 114 ∧ Text.firstByte? p.text = some b := by
  cases p with
  | fieldMissing field => exact Or.inl ⟨field, rfl⟩
  | fileMissing | headerUnavailable =>
    exact Or.inr ⟨_, by decide, Text.firstByte?_append _ rfl⟩
  | mediaColumnMissing | mediaFieldEmpty | dataMissing | profileUnknown =>
    exact Or.inr ⟨_, by decide, Text.firstByte?_append _ (Text.firstByte?_append _ rfl)⟩
  | _ => exact Or.inr ⟨_, by decide, rfl⟩

theorem Problem.text_fieldMissing (field : String) :
    (fieldMissing field).text = "required field `" ++ field ++ "` was not found" := rfl

/-- The wording of a missing field tells which one it is. -/
theorem Problem.text_eq_fieldMissing_iff {p : Problem} {field : String} :
    p.text = (fieldMissing field).text ↔ p = .fieldMissing field := by
  constructor
  · intro h
    rw [text_fieldMissing] at h
    rcases p.firstByte?_text with ⟨other, hp⟩ | ⟨b, hb, hfirst⟩
    · rw [hp, text_fieldMissing] at h
      have hlist := congrArg String.toList h
      simp only [String.toList_append, List.append_cancel_left_eq, List.append_cancel_right_eq]
        at hlist
      rw [hp, String.toList_injective hlist]
    · rw [h, Text.firstByte?_append _ (Text.firstByte?_append _ rfl)] at hfirst
      exact absurd (Option.some.inj hfirst).symm hb
  · rintro rfl
    rfl

namespace Violations

variable {vs : Violations} {p : Problem}

/-- The violations that are worded as a problem. -/
def reporting (vs : Violations) (p : Problem) : Violations := vs.filter fun v => v.message = p.text

theorem reporting_eq_nil (h : ∀ v ∈ vs, v.message ≠ p.text) : vs.reporting p = [] :=
  List.filter_eq_nil_iff.mpr fun v hv => by simpa using h v hv

theorem reporting_append (vs ws : Violations) (p : Problem) :
    Violations.reporting (vs ++ ws) p = vs.reporting p ++ ws.reporting p :=
  List.filter_append vs ws

theorem reporting_flatMap {α : Type} (xs : List α) (f : α → Violations) (p : Problem) :
    Violations.reporting (xs.flatMap f) p = xs.flatMap fun x => (f x).reporting p :=
  List.filter_flatMap

/-- Among fields that are each reported as missing once, a field is reported once or not at all. -/
theorem reporting_fieldMissing {fields : List String} (hnodup : fields.Nodup) (l : Location)
    (profile field : String) :
    Violations.reporting (fields.map fun f => .ofProblem (.fieldMissing f) l profile)
        (.fieldMissing field) =
      if field ∈ fields then [.ofProblem (.fieldMissing field) l profile] else [] := by
  have hworded : (fun v : Violation => decide (v.message = (Problem.fieldMissing field).text)) ∘
      (fun f => Violation.ofProblem (.fieldMissing f) l profile) = fun f => decide (f = field) := by
    funext f
    have hiff : (Problem.fieldMissing f).text = (Problem.fieldMissing field).text ↔ f = field := by
      rw [Problem.text_eq_fieldMissing_iff, Problem.fieldMissing.injEq]
    exact decide_eq_decide.mpr hiff
  rw [reporting, List.filter_map, hworded, List.filter_eq, hnodup.count]
  split <;> rfl

end Violations

/-! ## Scans -/

variable {ctx : Context} {profile field : String} {g : Grid} {table : FieldTable}

/-- No other check reports a field as missing. -/
theorem Kind.reporting_scan_of_ne {k : Kind} (hk : k ≠ .requiredField) :
    (k.scan ctx profile g).violations.reporting (.fieldMissing field) = [] := by
  refine Violations.reporting_eq_nil fun v hv heq => ?_
  obtain ⟨p, hkind, hfinding⟩ := ofKind_of_mem_scan hv
  rw [Violation.message, hfinding] at heq
  rw [Problem.text_eq_fieldMissing_iff.mp heq] at hkind
  exact hk (List.mem_singleton.mp hkind)

namespace RequiredField

/-- Of a data cell, a table says other things. -/
theorem message_of_verdict {l : Location} {v : Violation}
    (h : verdict? table profile g l = some v) : v.message ≠ (Problem.fieldMissing field).text := by
  have hmessage : ∃ p : Problem, v.message = p.text ∧ p ≠ .fieldMissing field := by
    unfold verdict? at h
    split at h
    · cases h
      exact ⟨.headerUnavailable _, rfl, by simp⟩
    · split at h
      · cases h
      · split at h
        · cases h
        · split at h
          · cases h
            exact ⟨.headerUnavailable _, rfl, by simp⟩
          · split at h <;> cases h
            exact ⟨.dataMissing _, rfl, by simp⟩
  obtain ⟨p, htext, hp⟩ := hmessage
  rw [htext]
  exact mt Problem.text_eq_fieldMissing_iff.mp hp

/-- A required field is reported as missing once if the header row lacks it, and not otherwise. -/
theorem reporting_scan (htable : ctx.rules.table? profile = some table)
    (hfield : field ∈ table.headerOnlyFields) (g : Grid) :
    (Kind.requiredField.scan ctx profile g).violations.reporting (.fieldMissing field) =
      if g.headers ≠ [] ∧ field ∉ g.headers then [.ofProblem (.fieldMissing field) .origin profile]
      else [] := by
  have hdata : Violations.reporting ((Grid.dataLocations g.rows.tail).filterMap
      (verdict? table profile g)) (.fieldMissing field) = [] := by
    refine Violations.reporting_eq_nil fun v hv => ?_
    obtain ⟨l, -, hverdict⟩ := List.mem_filterMap.mp hv
    exact message_of_verdict hverdict
  rw [scan_of_table htable, Violations.reporting_append, hdata, List.append_nil]
  by_cases hheaders : g.headers = []
  · rw [if_pos hheaders, if_neg fun h => h.1 hheaders]
    rfl
  · have hnodup : (table.headerOnlyFields.filter fun f => !g.headers.contains f).Nodup :=
      (table.ascending_headerOnlyFields.filter _).imp fun hlt => String.ne_of_lt hlt
    rw [if_neg hheaders, Violations.reporting_fieldMissing hnodup]
    simp [hfield, hheaders]

end RequiredField

/-! ## Audits -/

namespace Audit

theorem canRun_requiredField (ctx : Context) : canRun ctx .requiredField = true := by
  rw [canRun, Kind.setup, if_neg fun h => nomatch h.1]
  rfl

/-- **How an audit reports a required field that the header row lacks.**  An audit that checks required
fields reports the field once, at the first cell of the header row.  It does not report the field if the
row has it, nor if the grid has no such cell. -/
theorem fieldMissing_of_run {p : Profile} {rule : FieldRule}
    (hstored : ctx.store.get? profile = some p)
    (hnamed : Kind.requiredField.name ∈ p.validationNames)
    (htable : ctx.rules.table? profile = some table) (hfield : table.get? field = some rule)
    (hrule : rule.dataRequired = false) (g : Grid) :
    ∃ a, run ctx profile g = .ok a ∧ a.violations.reporting (.fieldMissing field) =
      if g.headers ≠ [] ∧ field ∉ g.headers then [.ofProblem (.fieldMissing field) .origin profile]
      else [] := by
  have hruns : Kind.requiredField ∈ resolve ctx p.validationNames :=
    (mem_resolve_iff (List.ne_nil_of_mem hnamed)).mpr ⟨hnamed, canRun_requiredField ctx⟩
  have hkinds : kinds ctx profile = .ok (resolve ctx p.validationNames) := by
    rw [kinds_of_stored hstored]
    exact resolveSome_eq_ok_iff.mpr ⟨List.ne_nil_of_mem hruns, rfl⟩
  have hnodup : (resolve ctx p.validationNames).Nodup :=
    nodup_resolve p.checks.ascending.nodup_names
  refine ⟨_, run_eq_ok_iff.mpr ⟨_, hkinds, rfl⟩, ?_⟩
  rw [violations, List.flatMap_map, Violations.reporting_flatMap,
    flatMap_eq_of_alone hnodup hruns fun k _ hk => Kind.reporting_scan_of_ne hk]
  exact RequiredField.reporting_scan htable
    (FieldTable.mem_headerOnlyFields_iff.mpr ⟨rule, hfield, hrule⟩) g

/-- Files must be named, and the grid has no column for them. -/
theorem fieldMissing_of_run_file_name :
    let p : Profile :=
      ⟨"default", .epoch, (Dictionary.empty.insert "ARKCheck" "").insert "ReqFieldCheck" ""⟩
    let ctx : Context := {
      store := ⟨none, [p], Dictionary.empty.insert "default" 0, .epoch⟩
      rules := .builtin }
    let g : Grid := ⟨[["Title", "Item ARK"], ["A map", "21198"]]⟩
    ctx.store.get? "default" = some p ∧ Kind.requiredField.name ∈ p.validationNames ∧
    ctx.rules.table? "default" = some Rulebook.fullTable ∧
    Rulebook.fullTable.get? "File Name" = some ⟨false, .exceptFor (.ofNames ["Collection"])⟩ ∧
    ∃ a, run ctx "default" g = .ok a ∧ a.violations.reporting (.fieldMissing "File Name") =
      [.ofProblem (.fieldMissing "File Name") .origin "default"] := by
  intro p ctx g
  have hstored : ctx.store.get? "default" = some p := rfl
  have hnamed : Kind.requiredField.name ∈ p.validationNames := by decide
  have htable : ctx.rules.table? "default" = some Rulebook.fullTable := by decide
  have hfield : Rulebook.fullTable.get? "File Name" =
      some ⟨false, .exceptFor (.ofNames ["Collection"])⟩ := by decide
  obtain ⟨a, ha, hmissing⟩ := fieldMissing_of_run hstored hnamed htable hfield rfl g
  rw [if_pos (by decide)] at hmissing
  exact ⟨hstored, hnamed, htable, hfield, a, ha, hmissing⟩

/-- Of a grid without rows, no field is reported as missing. -/
theorem not_fieldMissing_of_run_empty :
    ¬ ∀ (ctx : Context) (profile : String) (p : Profile) (table : FieldTable) (field : String)
      (rule : FieldRule) (g : Grid), ctx.store.get? profile = some p →
        Kind.requiredField.name ∈ p.validationNames → ctx.rules.table? profile = some table →
          table.get? field = some rule → rule.dataRequired = false →
            ∃ a, run ctx profile g = .ok a ∧
              (field ∉ g.headers → ∃ v, a.violations.reporting (.fieldMissing field) = [v]) ∧
              (field ∈ g.headers → a.violations.reporting (.fieldMissing field) = []) := by
  intro hall
  let ctx : Context := {
    store := ⟨none, [⟨"default", .epoch, Dictionary.empty.insert "ReqFieldCheck" ""⟩],
      Dictionary.empty.insert "default" 0, .epoch⟩
    rules := .builtin }
  obtain ⟨a, ha, hmissing, -⟩ := hall ctx "default" _ Rulebook.fullTable "File Name" _ ⟨[]⟩ rfl
    (by decide) (by decide) rfl rfl
  obtain ⟨v, hv⟩ := hmissing List.not_mem_nil
  cases ha
  cases hv

end Audit
end MetadataAudit
