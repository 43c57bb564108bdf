import MetadataAudit.Proofs.Profile.Decoding
import MetadataAudit.Rulebook.Document

/-! # What a rule book document says

A document is read off a value field by field (`RulebookDocument.readFrom_of_decode?`).  What it leaves
out is empty, a list of names is a set, and of the values that a record gives one name, be it a profile
or a field of one, the last stays.
-/
namespace MetadataAudit

theorem NameSet.contains_ofNames {names : List String} {n : String} :
    (NameSet.ofNames names).contains n = true ↔ n ∈ names := by
  rw [ofNames, Dictionary.contains_ofList, List.map_map]
  exact iff_of_eq (congrArg (n ∈ ·) (List.map_id names))

namespace Parsed

variable {α : Type} {reads : Parsed → α → Prop} {decode : Parsed → Option α} {v : Parsed}

/-- A set holds the texts of a list. -/
def Lists (v : Parsed) (s : NameSet) : Prop :=
  ∃ names : List String, v = .list (names.map .text) ∧ ∀ n, s.contains n = true ↔ n ∈ names

/-- A dictionary holds what is read off the last value under each name of a record. -/
def Records (reads : Parsed → α → Prop) (v : Parsed) (d : Dictionary α) : Prop :=
  ∃ fields, v = .record fields ∧ LastOfEach reads fields d

/-- A dictionary is read off a value that is given, and is empty otherwise. -/
def OrEmpty (reads : Parsed → Dictionary α → Prop) (v : Option Parsed) (d : Dictionary α) : Prop :=
  (v = none ∧ d = .empty) ∨ ∃ w, v = some w ∧ reads w d

theorem eq_map_text_of_mapM {items : List Parsed} {names : List String}
    (h : items.mapM text? = some names) : items = names.map .text := by
  induction items generalizing names with
  | nil =>
    cases h
    rfl
  | cons item items ih =>
    simp only [List.mapM_cons, Option.bind_eq_bind, Option.bind_eq_some_iff, Option.pure_def,
      Option.some.injEq] at h
    obtain ⟨name, hname, rest, hrest, rfl⟩ := h
    rw [ih hrest, List.map_cons]
    cases item with
    | text s =>
      cases hname
      rfl
    | _ => cases hname

theorem lists_of_nameSet? {s : NameSet} (h : v.nameSet? = some s) : Lists v s := by
  obtain ⟨names, hnames, rfl⟩ := Option.map_eq_some_iff.mp h
  cases v with
  | list items =>
    exact ⟨names, congrArg list (eq_map_text_of_mapM hnames), fun n => NameSet.contains_ofNames⟩
  | _ => cases hnames

theorem records_of_dictionary? {d : Dictionary α} (h : v.dictionary? decode = some d)
    (hreads : ∀ w x, decode w = some x → reads w x) : Records reads v d := by
  cases v with
  | record fields =>
    have hlast := lastOfEach_of_dictionary? h
    refine ⟨fields, rfl, fun hfield => ?_, fun hentry => ?_⟩
    · obtain ⟨x, hx, hdecode⟩ := hlast.field hfield
      exact ⟨x, hx, hreads _ x hdecode⟩
    · obtain ⟨w, hw, hdecode⟩ := hlast.entry hentry
      exact ⟨w, hw, hreads w _ hdecode⟩
  | _ => cases h

theorem orEmpty_of_optional {reads : Parsed → Dictionary α → Prop}
    {decode : Parsed → Option (Dictionary α)} {fields : List (String × Parsed)} {name : String}
    {d : Dictionary α} (h : optional fields name decode .empty = some d)
    (hreads : ∀ w x, decode w = some x → reads w x) : OrEmpty reads (fields.lookup name) d := by
  rw [optional] at h
  cases hlookup : fields.lookup name with
  | none =>
    rw [hlookup] at h
    cases h
    exact Or.inl ⟨rfl, rfl⟩
  | some w =>
    rw [hlookup] at h
    exact Or.inr ⟨w, rfl, hreads w d h⟩

end Parsed

variable {v : Parsed}

/-- The value of what is said of a field, if it is given. -/
def FieldRuleDocument.field? (v : Parsed) (name : String) : Option Parsed :=
  v.member? ["dataRequired", "objectTypes", "notObjectTypes"] name

/-- The value of a part of a rule book, if it is given. -/
def RulebookDocument.field? (v : Parsed) (name : String) : Option Parsed :=
  v.member? ["requiredFields", "naans", "mediaProfiles", "licenseExemptProfiles"] name

/-- What is said of a field: whether it must be filled in, and two lists of object types. -/
structure FieldRuleDocument.ReadFrom (v : Parsed) (d : FieldRuleDocument) : Prop where
  dataRequired : field? v "dataRequired" >>= Parsed.bool? = some d.dataRequired
  objectTypes : Parsed.OrEmpty Parsed.Lists (field? v "objectTypes") d.objectTypes
  notObjectTypes : Parsed.OrEmpty Parsed.Lists (field? v "notObjectTypes") d.notObjectTypes

/-- What is said of all profiles: a record of fields for each, a list of authorities for each, and two
lists of profiles. -/
structure RulebookDocument.ReadFrom (v : Parsed) (d : RulebookDocument) : Prop where
  requiredFields : Parsed.OrEmpty (Parsed.Records (Parsed.Records FieldRuleDocument.ReadFrom))
    (field? v "requiredFields") d.requiredFields
  naans : Parsed.OrEmpty (Parsed.Records Parsed.Lists) (field? v "naans") d.naans
  mediaProfiles : Parsed.OrEmpty Parsed.Lists (field? v "mediaProfiles") d.mediaProfiles
  licenseExemptProfiles :
    Parsed.OrEmpty Parsed.Lists (field? v "licenseExemptProfiles") d.licenseExemptProfiles

theorem FieldRuleDocument.readFrom_of_decode? {d : FieldRuleDocument} (h : decode? v = some d) :
    d.ReadFrom v := by
  simp only [decode?, Parsed.required, Option.bind_eq_bind, Option.bind_eq_some_iff, Option.pure_def,
    Option.some.injEq] at h
  obtain ⟨fields, hfields, required, ⟨w, hw, hrequired⟩, types, htypes, exempt, hexempt, rfl⟩ := h
  have hmember (n : String) : field? v n = fields.lookup n := by
    rw [field?, Parsed.member?, hfields]
    rfl
  refine ⟨?_, ?_, ?_⟩
  · rw [hmember, hw]
    exact hrequired
  · rw [hmember]
    exact Parsed.orEmpty_of_optional htypes fun _ _ => Parsed.lists_of_nameSet?
  · rw [hmember]
    exact Parsed.orEmpty_of_optional hexempt fun _ _ => Parsed.lists_of_nameSet?

/-- **A document holds what its text says.** -/
theorem RulebookDocument.readFrom_of_decode? {d : RulebookDocument} (h : decode? v = some d) :
    d.ReadFrom v := by
  simp only [decode?, Option.bind_eq_bind, Option.bind_eq_some_iff, Option.pure_def,
    Option.some.injEq] at h
  obtain ⟨fields, hfields, tables, htables, naans, hnaans, media, hmedia, exempt, hexempt, rfl⟩ := h
  have hmember (n : String) : field? v n = fields.lookup n := by
    rw [field?, Parsed.member?, hfields]
    rfl
  refine ⟨?_, ?_, ?_, ?_⟩
  · rw [hmember]
    refine Parsed.orEmpty_of_optional htables fun _ _ htable => ?_
    refine Parsed.records_of_dictionary? htable fun _ _ hfield => ?_
    exact Parsed.records_of_dictionary? hfield fun _ _ => FieldRuleDocument.readFrom_of_decode?
  · rw [hmember]
    refine Parsed.orEmpty_of_optional hnaans fun _ _ hlists => ?_
    exact Parsed.records_of_dictionary? hlists fun _ _ => Parsed.lists_of_nameSet?
  · rw [hmember]
    exact Parsed.orEmpty_of_optional hmedia fun _ _ => Parsed.lists_of_nameSet?
  · rw [hmember]
    exact Parsed.orEmpty_of_optional hexempt fun _ _ => Parsed.lists_of_nameSet?

end MetadataAudit
