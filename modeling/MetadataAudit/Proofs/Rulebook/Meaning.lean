import MetadataAudit.Proofs.Check.RequiredField
import MetadataAudit.Proofs.Rulebook.Decoding

/-! # What a rule book means

A document is turned into a rule book profile by profile and field by field, in the order of the
names, and a field that lists both kinds of object types stops this.  So the conflict that is reported
is the first one (`Rulebook.ofDocument_eq_error_iff`).  Where there is none, the rule book decides as
the document says (`Rulebook.Means`).
-/
namespace MetadataAudit

/-! ## One field -/

/-- A field lists object types to require and object types to exempt. -/
def FieldRuleDocument.Conflicting (d : FieldRuleDocument) : Prop :=
  (∃ t, d.objectTypes.contains t = true) ∧ ∃ t, d.notObjectTypes.contains t = true

/-- A rule asks of a row what the document says of the field. -/
structure FieldRule.Means (rule : FieldRule) (d : FieldRuleDocument) : Prop where
  dataRequired : rule.dataRequired = d.dataRequired
  decides : ∀ t, (rule.dataRequired && rule.condition.appliesTo t) = true ↔
    d.dataRequired = true ∧
      ((∀ u, d.objectTypes.contains u = false) ∨ d.objectTypes.contains t = true) ∧
      d.notObjectTypes.contains t = false
  needsObjectType : rule.condition.needsObjectType = true ↔
    (∃ t, d.objectTypes.contains t = true) ∨ ∃ t, d.notObjectTypes.contains t = true

namespace FieldRule

variable {profile field : String} {d : FieldRuleDocument} {rule : FieldRule}

theorem ofDocument_eq_error_iff {e : RulebookError} :
    ofDocument profile field d = .error e ↔ d.Conflicting ∧ e = .conflicting profile field := by
  have hnone : d.condition? = none ↔ d.Conflicting := by
    rw [FieldRuleDocument.Conflicting, ← Dictionary.size_ne_zero_iff, ← Dictionary.size_ne_zero_iff,
      FieldRuleDocument.condition?]
    split <;> split <;> simp [*]
  rw [ofDocument, ← hnone]
  cases d.condition? with
  | none => simp [eq_comm]
  | some condition => simp

theorem exists_ofDocument_iff :
    (∃ rule, ofDocument profile field d = .ok rule) ↔ ¬ d.Conflicting := by
  simp [exists_ok_iff, ofDocument_eq_error_iff]

/-- A list of object types that is empty requires none and exempts none. -/
theorem means_of_document (h : ofDocument profile field d = .ok rule) : rule.Means d := by
  have hnone {s : NameSet} (hs : s.size = 0) (t : String) : s.contains t = false := by
    rw [Dictionary.size_eq_zero_iff.mp hs]
    rfl
  have hsome {s : NameSet} : s.size ≠ 0 → ∃ t, s.contains t = true := Dictionary.size_ne_zero_iff.mp
  rw [ofDocument, FieldRuleDocument.condition?] at h
  by_cases hrequired : d.objectTypes.size = 0
  · by_cases hexempt : d.notObjectTypes.size = 0
    · simp only [hrequired, hexempt, if_true, Except.ok.injEq] at h
      subst h
      refine ⟨rfl, fun t => ?_, ?_⟩
      · simp [Condition.appliesTo, hnone hrequired, hnone hexempt]
      · simp [Condition.needsObjectType, hnone hrequired, hnone hexempt]
    · simp only [hrequired, hexempt, if_true, if_false, Except.ok.injEq] at h
      subst h
      refine ⟨rfl, fun t => ?_, ?_⟩
      · simp [Condition.appliesTo, hnone hrequired]
      · simp [Condition.needsObjectType, hsome hexempt]
  · by_cases hexempt : d.notObjectTypes.size = 0
    · simp only [hrequired, hexempt, if_true, if_false, Except.ok.injEq] at h
      subst h
      obtain ⟨u, hu⟩ := hsome hrequired
      have hgiven : ¬ ∀ u, d.objectTypes.contains u = false := fun hall => by simp [hall u] at hu
      refine ⟨rfl, fun t => ?_, ?_⟩
      · simp [Condition.appliesTo, hnone hexempt, hgiven]
      · simp [Condition.needsObjectType, hsome hrequired]
    · simp [hrequired, hexempt] at h

end FieldRule

/-! ## One profile -/

/-- A table asks of each field of a profile what the document says of it. -/
structure FieldTable.Means (table : FieldTable) (fields : Dictionary FieldRuleDocument) : Prop where
  field_iff : ∀ f, (∃ rule, table.get? f = some rule) ↔ ∃ d, fields.get? f = some d
  rule : ∀ {f rule d}, table.get? f = some rule → fields.get? f = some d → rule.Means d
  mem_headerOnlyFields : ∀ f, f ∈ table.headerOnlyFields ↔
    ∃ d, fields.get? f = some d ∧ d.dataRequired = false
  ascending : table.headerOnlyFields.Pairwise (· < ·)

namespace FieldTable

variable {profile : String} {fields : Dictionary FieldRuleDocument} {table : FieldTable}

/-- The conflict under the least name is reported. -/
theorem ofDocument_eq_error_iff {e : RulebookError} :
    ofDocument profile fields = .error e ↔
      ∃ f d, fields.get? f = some d ∧ (d.Conflicting ∧ e = .conflicting profile f) ∧
        ∀ g c, fields.get? g = some c → g < f → ¬ c.Conflicting := by
  simp only [ofDocument, Dictionary.mapM_eq_error_iff, FieldRule.ofDocument_eq_error_iff,
    FieldRule.exists_ofDocument_iff]

theorem exists_ofDocument_iff : (∃ table, ofDocument profile fields = .ok table) ↔
    ∀ f d, fields.get? f = some d → ¬ d.Conflicting := by
  simp only [ofDocument, Dictionary.exists_mapM_iff, FieldRule.exists_ofDocument_iff]

theorem means_of_document (h : ofDocument profile fields = .ok table) : table.Means fields := by
  have hmade := Dictionary.madeBy_of_mapM_eq_ok h
  have hrule {f rule d} (hr : table.get? f = some rule) (hd : fields.get? f = some d) :
      rule.Means d := FieldRule.means_of_document (hmade.made hd hr)
  refine ⟨fun f => hmade.get?_iff, hrule, fun f => ?_, table.ascending_headerOnlyFields⟩
  rw [mem_headerOnlyFields_iff]
  constructor
  · rintro ⟨rule, hr, hblank⟩
    obtain ⟨d, hd, -⟩ := hmade.source f rule hr
    exact ⟨d, hd, (hrule hr hd).dataRequired ▸ hblank⟩
  · rintro ⟨d, hd, hblank⟩
    obtain ⟨rule, hr, -⟩ := hmade.value f d hd
    exact ⟨rule, hr, (hrule hr hd).dataRequired ▸ hblank⟩

end FieldTable

/-! ## All profiles -/

namespace RulebookDocument

/-- A field of a profile conflicts. -/
def Conflict (d : RulebookDocument) (profile field : String) : Prop :=
  ∃ fields rule, d.requiredFields.get? profile = some fields ∧ fields.get? field = some rule ∧
    rule.Conflicting

/-- A conflict that no other one comes before, by profile and then by field. -/
def FirstConflict (d : RulebookDocument) (profile field : String) : Prop :=
  d.Conflict profile field ∧
    ∀ p f, p < profile ∨ p = profile ∧ f < field → ¬ d.Conflict p f

end RulebookDocument

/-- A rule book answers what the document says. -/
structure Rulebook.Means (r : Rulebook) (d : RulebookDocument) : Prop where
  profile_iff : ∀ p, (∃ table, r.table? p = some table) ↔
    ∃ fields, d.requiredFields.get? p = some fields
  table : ∀ {p table fields}, r.table? p = some table → d.requiredFields.get? p = some fields →
    table.Means fields
  mem_profiles : ∀ p, p ∈ r.profiles ↔ ∃ fields, d.requiredFields.get? p = some fields
  ascending : r.profiles.Pairwise (· < ·)
  naanAllowed_iff : ∀ p n, r.naanAllowed p n = true ↔
    ∃ allowed, d.naans.get? p = some allowed ∧ allowed.contains n = true
  checksMedia_iff : ∀ p, r.checksMedia p = true ↔ d.mediaProfiles.contains p = true
  licenseExempt_iff : ∀ p, r.licenseExempt p = true ↔ d.licenseExemptProfiles.contains p = true

namespace Rulebook

variable {d : RulebookDocument}

/-- **The conflict that is reported is the first one.** -/
theorem ofDocument_eq_error_iff {e : RulebookError} :
    ofDocument d = .error e ↔ ∃ p f, d.FirstConflict p f ∧ e = .conflicting p f := by
  rw [ofDocument, bind_pure_eq_error_iff]
  simp only [Dictionary.mapM_eq_error_iff, FieldTable.ofDocument_eq_error_iff,
    FieldTable.exists_ofDocument_iff]
  constructor
  · rintro ⟨p, fields, hfields, ⟨f, rule, hrule, ⟨hconflict, he⟩, hlesser⟩, hbefore⟩
    refine ⟨p, f, ⟨⟨fields, rule, hfields, hrule, hconflict⟩, ?_⟩, he⟩
    rintro q g (hlt | ⟨rfl, hlt⟩) ⟨fields', rule', hfields', hrule', hconflict'⟩
    · exact hbefore q fields' hfields' hlt g rule' hrule' hconflict'
    · cases hfields.symm.trans hfields'
      exact hlesser g rule' hrule' hlt hconflict'
  · rintro ⟨p, f, ⟨⟨fields, rule, hfields, hrule, hconflict⟩, hfirst⟩, he⟩
    refine ⟨p, fields, hfields, ⟨f, rule, hrule, ⟨hconflict, he⟩, ?_⟩, ?_⟩
    · intro g rule' hrule' hlt hconflict'
      exact hfirst p g (Or.inr ⟨rfl, hlt⟩) ⟨fields, rule', hfields, hrule', hconflict'⟩
    · intro q fields' hfields' hlt g rule' hrule' hconflict'
      exact hfirst q g (Or.inl hlt) ⟨fields', rule', hfields', hrule', hconflict'⟩

theorem exists_ofDocument_iff : (∃ r, ofDocument d = .ok r) ↔ ∀ p f, ¬ d.Conflict p f := by
  have htables : (∃ r, ofDocument d = .ok r) ↔
      ∃ tables, d.requiredFields.mapM FieldTable.ofDocument = .ok tables := by
    simp only [exists_ok_iff, ofDocument, ne_eq, bind_pure_eq_error_iff]
  rw [htables, Dictionary.exists_mapM_iff]
  simp only [FieldTable.exists_ofDocument_iff]
  constructor
  · rintro h p f ⟨fields, rule, hfields, hrule, hconflict⟩
    exact h p fields hfields f rule hrule hconflict
  · intro h p fields hfields f rule hrule hconflict
    exact h p f ⟨fields, rule, hfields, hrule, hconflict⟩

theorem means_of_document {r : Rulebook} (h : ofDocument d = .ok r) : r.Means d := by
  obtain ⟨tables, htables, hr⟩ := bind_eq_ok_iff.mp h
  cases hr
  have hmade := Dictionary.madeBy_of_mapM_eq_ok htables
  exact {
    profile_iff := fun p => hmade.get?_iff
    table := fun ht hf => FieldTable.means_of_document (hmade.made hf ht)
    mem_profiles := fun p => Dictionary.mem_names_iff.trans hmade.get?_iff
    ascending := tables.ascending_names
    naanAllowed_iff := by
      intro p n
      rw [naanAllowed]
      cases d.naans.get? p <;> simp
    checksMedia_iff := fun p => Iff.rfl
    licenseExempt_iff := fun p => Iff.rfl }

/-- **A rule book means what its document says.**  The document holds what the text says; the rule
book is refused where a field conflicts, and at the first such field; otherwise it answers what the
document says. -/
theorem ofText_of_decoded {text origin : String}
    (h : Parsed.ofText? text >>= RulebookDocument.decode? = some d) :
    (∃ v, Parsed.ofText? text = some v ∧ d.ReadFrom v) ∧
      ((∃ e, ofText text origin = .error e) ↔ ∃ p f, d.Conflict p f) ∧
      (∀ e, ofText text origin = .error e ↔ ∃ p f, d.FirstConflict p f ∧ e = .conflicting p f) ∧
      ((∀ p f, ¬ d.Conflict p f) → ∃ r, ofText text origin = .ok r ∧ r.Means d) := by
  have htext : ofText text origin = ofDocument d := by
    rw [ofText, h]
  rw [htext]
  refine ⟨?_, ?_, fun e => ofDocument_eq_error_iff, fun hnone => ?_⟩
  · obtain ⟨v, hv, hdecode⟩ := Option.bind_eq_some_iff.mp h
    exact ⟨v, hv, RulebookDocument.readFrom_of_decode? hdecode⟩
  · rw [← not_iff_not]
    simpa [exists_ok_iff] using exists_ofDocument_iff (d := d)
  · obtain ⟨r, hr⟩ := exists_ofDocument_iff.mpr hnone
    exact ⟨r, hr, means_of_document hr⟩

/-- Of two tables for one profile the last one counts, also where the first one conflicts. -/
theorem ofText_of_decoded_repeated :
    let text := "\x7b\"requiredFields\":\x7b\"p\":\x7b\"f\":\x7b\"dataRequired\":true," ++
      "\"objectTypes\":[\"A\"],\"notObjectTypes\":[\"B\"]\x7d\x7d," ++
      "\"p\":\x7b\"g\":\x7b\"dataRequired\":true,\"objectTypes\":[\"B\",\"A\",\"B\"]\x7d," ++
      "\"f\":\x7b\"dataRequired\":false\x7d\x7d\x7d,\"naans\":\x7b\"q\":[\"21198\"]\x7d\x7d"
    let table : Dictionary FieldRuleDocument :=
      .ofList [("f", ⟨false, .empty, .empty⟩), ("g", ⟨true, .ofNames ["A", "B"], .empty⟩)]
    let d : RulebookDocument :=
      ⟨.ofList [("p", table)], .ofList [("q", .ofNames ["21198"])], .empty, .empty⟩
    ∃ r, ofText text "rules" = .ok r ∧ r.Means d := by
  intro text table d
  have hdecode : (Parsed.ofText? text >>= RulebookDocument.decode?) = some d := by decide +kernel
  have hexempt : ∀ e ∈ d.requiredFields.entries, ∀ e' ∈ e.2.entries,
      e'.2.notObjectTypes = .empty := by
    decide +kernel
  have hnone : ∀ p f, ¬ d.Conflict p f := by
    rintro p f ⟨fields, rule, hfields, hrule, -, t, ht⟩
    rw [hexempt _ (Dictionary.get?_eq_some_iff.mp hfields) _
      (Dictionary.get?_eq_some_iff.mp hrule)] at ht
    cases ht
  exact (ofText_of_decoded hdecode).2.2.2 hnone

end Rulebook
end MetadataAudit
