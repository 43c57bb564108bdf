import Mathlib.Data.List.Induction
import MetadataAudit.Proofs.Profile.Document

/-! # What a document says

A profile and a collection of profiles are read off a value field by field
(`ProfileDocument.ReadFrom`, `StoreDocument.ReadFrom`).  None of their fields may be repeated.  The
keys of a collection may: the last value under a key stays, and no key is lost
(`Parsed.lastOfEach_of_dictionary?`).
-/
namespace MetadataAudit

namespace Parsed

variable {α : Type} {decode : Parsed → Option α} {fields : List (Option String × Parsed)}
  {name : String} {v : Parsed}

/-- The value of one of the fields with the given names, if it is given. -/
def member? (v : Parsed) (names : List String) (name : String) : Option Parsed :=
  v.fields? names >>= (·.lookup name)

/-- A value that a record gives a name, and gives it last. -/
def LastUnder (fields : List (Option String × Parsed)) (name : String) (v : Parsed) : Prop :=
  ∃ before after, fields = before ++ (some name, v) :: after ∧ ∀ f ∈ after, f.1 ≠ some name

/-- A dictionary holds what is read off the last value under each name of a record. -/
structure LastOfEach (reads : Parsed → α → Prop) (fields : List (Option String × Parsed))
    (d : Dictionary α) : Prop where
  field : ∀ {name v}, LastUnder fields name v → ∃ x, d.get? name = some x ∧ reads v x
  entry : ∀ {name x}, d.get? name = some x → ∃ v, LastUnder fields name v ∧ reads v x

theorem lastUnder_append_singleton {n : String} {w : Parsed} :
    LastUnder (fields ++ [(some n, w)]) name v ↔
      if name = n then v = w else LastUnder fields name v := by
  constructor
  · rintro ⟨before, after, hsplit, hafter⟩
    rcases List.eq_nil_or_concat after with rfl | ⟨after, f, rfl⟩
    · obtain ⟨-, heq⟩ := List.append_inj' hsplit rfl
      cases heq
      simp
    · have hsplit' : fields ++ [(some n, w)] = (before ++ (some name, v) :: after) ++ [f] := by
        rw [hsplit]
        simp
      obtain ⟨rfl, heq⟩ := List.append_inj' hsplit' rfl
      cases heq
      have hne : name ≠ n := fun h => hafter (some n, w) (by simp) (by rw [h])
      rw [if_neg hne]
      exact ⟨before, after, rfl, fun f hf => hafter f (by simp [hf])⟩
  · split
    · rename_i hn
      rintro rfl
      exact ⟨fields, [], by rw [hn], by simp⟩
    · rename_i hn
      rintro ⟨before, after, rfl, hafter⟩
      refine ⟨before, after ++ [(some n, w)], by simp, fun f hf => ?_⟩
      rcases List.mem_append.mp hf with hf | hf
      · exact hafter f hf
      · rw [List.mem_singleton.mp hf]
        simpa using Ne.symm hn

/-- A record is decoded from its front, and a later field is put over the earlier ones. -/
theorem dictionary?_append_singleton {d : Dictionary α} {n : Option String} {w : Parsed}
    (h : (record (fields ++ [(n, w)])).dictionary? decode = some d) :
    ∃ k y d', n = some k ∧ decode w = some y ∧ (record fields).dictionary? decode = some d' ∧
      d = d'.insert k y := by
  simp only [dictionary?, List.mapM_append, List.mapM_cons, List.mapM_nil, Option.bind_eq_bind,
    Option.bind_eq_some_iff, Option.pure_def, Option.some.injEq] at h
  obtain ⟨es, ⟨es', hes', last, ⟨e, ⟨k, rfl, y, hy, rfl⟩, -, rfl, rfl⟩, rfl⟩, rfl⟩ := h
  refine ⟨k, y, .ofList es', rfl, hy, ?_, ?_⟩
  · simp only [dictionary?, Option.bind_eq_bind, Option.bind_eq_some_iff, Option.pure_def]
    exact ⟨es', hes', rfl⟩
  · simp [Dictionary.ofList]

/-- **Of a repeated name the last value stays**, and no name is lost. -/
theorem lastOfEach_of_dictionary? {d : Dictionary α}
    (h : (record fields).dictionary? decode = some d) :
    LastOfEach (fun v x => decode v = some x) fields d := by
  induction fields using List.reverseRecOn generalizing d with
  | nil =>
    cases h
    exact ⟨fun ⟨before, after, hsplit, _⟩ => by simp at hsplit, fun hget => by cases hget⟩
  | append_singleton fields f ih =>
    obtain ⟨n, w⟩ := f
    obtain ⟨k, y, d', rfl, hw, hd', rfl⟩ := dictionary?_append_singleton h
    constructor
    · intro name v hlast
      rw [lastUnder_append_singleton] at hlast
      rw [Dictionary.get?_insert]
      split
      · rename_i hn
        rw [if_pos hn] at hlast
        exact ⟨y, rfl, hlast ▸ hw⟩
      · rename_i hn
        rw [if_neg hn] at hlast
        exact (ih hd').field hlast
    · intro name x hget
      simp only [lastUnder_append_singleton]
      rw [Dictionary.get?_insert] at hget
      split at hget
      · rename_i hn
        cases hget
        exact ⟨w, if_pos hn ▸ rfl, hw⟩
      · rename_i hn
        simp only [if_neg hn]
        exact (ih hd').entry hget

end Parsed

variable {now : Timestamp} {v : Parsed}

/-- The value of a field of a profile, if it is given. -/
def ProfileDocument.field? (v : Parsed) (name : String) : Option Parsed :=
  v.member? ["name", "lastUpdate", "validations"] name

/-- The value of a field of a collection, if it is given. -/
def StoreDocument.field? (v : Parsed) (name : String) : Option Parsed :=
  v.member? ["profiles", "lastUpdate"] name

/-- A profile says what its fields say: its name, its time of last update or else the present one,
and its validations or else none. -/
structure ProfileDocument.ReadFrom (now : Timestamp) (v : Parsed) (d : ProfileDocument) : Prop where
  name : field? v "name" >>= Parsed.text? = some d.name
  lastUpdate : (field? v "lastUpdate").elim (some now) Parsed.timestamp? = some d.lastUpdate
  validations : (field? v "validations").elim (some []) (Parsed.list? Validation.decode?) =
    some d.validations

/-- A collection has a profile under each key that is given one, the last one that is given, and a
time of last update or else the present one. -/
structure StoreDocument.ReadFrom (now : Timestamp) (v : Parsed) (d : StoreDocument) : Prop where
  profiles : (field? v "profiles" = none ∧ d.profiles = .empty) ∨
    ∃ fields, field? v "profiles" = some (.record fields) ∧
      Parsed.LastOfEach (fun w e => ProfileDocument.ReadFrom now w e) fields d.profiles
  lastUpdate : (field? v "lastUpdate").elim (some now) Parsed.timestamp? = some d.lastUpdate

theorem Parsed.optional_eq_elim {α : Type} (fields : List (String × Parsed)) (name : String)
    (decode : Parsed → Option α) (default : α) :
    optional fields name decode default = (fields.lookup name).elim (some default) decode := by
  rw [optional]
  cases fields.lookup name <;> rfl

theorem ProfileDocument.decode?_eq_some_iff {d : ProfileDocument} :
    decode? now v = some d ↔ d.ReadFrom now v := by
  rw [decode?]
  cases hfields : v.fields? ["name", "lastUpdate", "validations"] with
  | none =>
    simp only [Option.bind_eq_bind, Option.bind_none, reduceCtorEq, false_iff]
    rintro ⟨hname, -, -⟩
    simp [field?, Parsed.member?, hfields] at hname
  | some fields =>
    have hmember (n : String) : field? v n = fields.lookup n := by
      rw [field?, Parsed.member?, hfields]
      rfl
    simp only [Option.bind_eq_bind, Option.bind_some, Option.bind_eq_some_iff, Parsed.required,
      Parsed.optional_eq_elim, Option.pure_def, Option.some.injEq]
    constructor
    · rintro ⟨name, ⟨w, hw, hname⟩, time, htime, validations, hvalidations, rfl⟩
      refine ⟨?_, ?_, ?_⟩
      · rw [hmember, hw]
        exact hname
      · rw [hmember]
        exact htime
      · rw [hmember]
        exact hvalidations
    · rintro ⟨hname, htime, hvalidations⟩
      rw [hmember] at hname htime hvalidations
      obtain ⟨w, hw, hname⟩ := Option.bind_eq_some_iff.mp hname
      exact ⟨_, ⟨w, hw, hname⟩, _, htime, _, hvalidations, rfl⟩

theorem StoreDocument.readFrom_of_decode? {d : StoreDocument} (h : decode? now v = some d) :
    d.ReadFrom now v := by
  rw [decode?] at h
  simp only [Option.bind_eq_bind, Option.bind_eq_some_iff, Parsed.optional_eq_elim,
    Option.pure_def, Option.some.injEq] at h
  obtain ⟨fields, hfields, profiles, hprofiles, time, htime, rfl⟩ := h
  have hmember (n : String) : field? v n = fields.lookup n := by
    rw [field?, Parsed.member?, hfields]
    rfl
  refine ⟨?_, by rw [hmember]; exact htime⟩
  rw [hmember]
  cases hw : fields.lookup "profiles" with
  | none =>
    rw [hw] at hprofiles
    cases hprofiles
    exact Or.inl ⟨rfl, rfl⟩
  | some w =>
    rw [hw, Option.elim_some] at hprofiles
    -- only a record decodes to a dictionary
    cases w with
    | record entries =>
      have hlast := Parsed.lastOfEach_of_dictionary? hprofiles
      simp only [ProfileDocument.decode?_eq_some_iff] at hlast
      exact Or.inr ⟨entries, rfl, hlast⟩
    | _ => cases hprofiles

end MetadataAudit
