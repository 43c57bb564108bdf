import Mathlib.Data.String.Basic
import MetadataAudit.Profile.Listed
import MetadataAudit.Proofs.Search
import MetadataAudit.Proofs.Store.Acceptance

/-! # Validations all at once and one by one

A profile in use lists what a profile of a store holds under names, and each operation on the list does
what it does there (`Profile.listed_create`, `Profile.listed_addValidation` and their like).  So a list that
is given all at once and one whose validations are added one by one end the same, as the first validations
of each name in the order of the names (`ListedProfile.list_by_either_way`).
-/
namespace MetadataAudit

/-! ## One validation -/

namespace ListedProfile

variable {p : ListedProfile} {n description : String} {now : Timestamp}

/-- The names of the validations ascend. -/
def Ascending (p : ListedProfile) : Prop := p.validationNames.Pairwise (· < ·)

theorem Ascending.ascends (h : p.Ascending) (n : String) :
    Search.Ascends (fun v => compare v.name n) p.validations := by
  rw [Ascending, validationNames, List.pairwise_map] at h
  refine h.imp ?_
  intro v w hvw hv
  have hle : n ≤ v.name := String.not_lt.mp fun hlt => hv (compare_lt_iff_lt.mpr hlt)
  exact compare_gt_iff_gt.mpr (lt_of_le_of_lt hle hvw)

/-- **A validation is added at the one place** where the names still ascend, unless its name is there. -/
theorem Ascending.addValidation_cases (h : p.Ascending) (n description : String) (now : Timestamp) :
    (n ∈ p.validationNames ∧ p.addValidation n description now = (false, p)) ∨
    (n ∉ p.validationNames ∧ ∃ before after, p.validations = before ++ after ∧
      (∀ v ∈ before, v.name < n) ∧ (∀ v ∈ after, n < v.name) ∧ p.addValidation n description now =
        (true, { p with validations := before ++ ⟨n, description⟩ :: after, lastUpdate := now })) := by
  rw [addValidation]
  cases hlocate : Search.locate (fun v => compare v.name n) p.validations with
  | found i =>
    obtain ⟨v, hv, heq⟩ := Search.exists_mem_of_locate (h.ascends n) hlocate
    have hname : v.name = n := Std.compare_eq_iff_eq.mp heq
    exact Or.inl ⟨List.mem_map.mpr ⟨v, hv, hname⟩, rfl⟩
  | missing i =>
    obtain ⟨before, after, hcut, hlength, hless, hgreater⟩ :=
      Search.exists_cut_of_locate (h.ascends n) hlocate
    have hbefore : ∀ v ∈ before, v.name < n := fun v hv => compare_lt_iff_lt.mp (hless v hv)
    have hafter : ∀ v ∈ after, n < v.name := fun v hv => compare_gt_iff_gt.mp (hgreater v hv)
    refine Or.inr ⟨fun hmem => ?_, before, after, hcut, hbefore, hafter, ?_⟩
    · obtain ⟨v, hv, rfl⟩ := List.mem_map.mp hmem
      rcases List.mem_append.mp (hcut ▸ hv) with hv | hv
      · exact String.lt_irrefl _ (hbefore v hv)
      · exact String.lt_irrefl _ (hafter v hv)
    · simp only [hcut, ← hlength, insertIdx_length_append]

end ListedProfile

/-! ## Lists and what they list -/

namespace Profile

variable {p : Profile} {vs : List Validation} {n : String}

/-- The profile with its validations listed. -/
def listed (p : Profile) : ListedProfile := ⟨p.name, p.lastUpdate, p.validations⟩

theorem ascending_listed (p : Profile) : p.listed.Ascending := p.validations_ascending

/-- The first validations of each name are those of a profile that holds what is gathered. -/
theorem normalize_eq (h : p.checks = gather vs) : ListedProfile.normalize vs = p.validations := by
  have hwhole : vs.foldl (fun d v => d.insertNew v.name v) Dictionary.empty =
      p.checks.map fun n x => (⟨n, x⟩ : Validation) := by
    refine Dictionary.ext_get? fun n => ?_
    have hget := get?_foldl_insertNew_name (fun v => v) vs n
    rw [hget, h, Dictionary.get?_map, get?_gather, Option.map_map, Option.map_id']
    cases hfind : vs.find? fun w => w.name = n with
    | none => rfl
    | some v =>
      have hname : v.name = n := by simpa using List.find?_some hfind
      rw [← hname]
      rfl
  rw [ListedProfile.normalize, hwhole, Dictionary.values, Dictionary.map, List.map_map]
  rfl

theorem exists_gathered (vs : List Validation) :
    ∃ q : Profile, q.checks = gather vs ∧ ListedProfile.normalize vs = q.validations :=
  ⟨⟨"", .epoch, gather vs⟩, rfl, normalize_eq rfl⟩

theorem validationNames_listed (p : Profile) : p.listed.validationNames = p.checks.names := by
  rw [ListedProfile.validationNames, listed, validations, List.map_map]
  rfl

theorem contains_checks_iff : p.checks.contains n = true ↔ n ∈ p.listed.validationNames := by
  rw [validationNames_listed, Dictionary.contains_eq_true_iff, Dictionary.mem_names_iff]

theorem listed_create (name : String) (vs : List Validation) (now : Timestamp) :
    ListedProfile.create name vs now = (create name vs now).map listed := by
  rw [ListedProfile.create, create]
  split
  · rfl
  · rw [normalize_eq (p := ⟨name, now, gather vs⟩) rfl]
    rfl

theorem listed_ofDocument (d : ProfileDocument) (now : Timestamp) :
    ListedProfile.ofDocument d now = (ofDocument d).map listed := by
  rw [ListedProfile.ofDocument, listed_create, ofDocument, create, create]
  split <;> rfl

theorem listed_rename (p : Profile) (name : String) (now : Timestamp) :
    p.listed.rename name now = (p.rename name now).listed := rfl

theorem listed_setValidations (p : Profile) (vs : List Validation) (now : Timestamp) :
    p.listed.setValidations vs now = (p.setValidations vs now).listed := by
  rw [ListedProfile.setValidations, normalize_eq (p := p.setValidations vs now) rfl]
  rfl

/-- **To search the list is to look the name up**, and to insert in the list is to insert under the name. -/
theorem listed_addValidation (p : Profile) (n description : String) (now : Timestamp) :
    p.listed.addValidation n description now =
      ((p.addValidation n description now).1, (p.addValidation n description now).2.listed) := by
  rcases p.ascending_listed.addValidation_cases n description now with
    ⟨hmem, hadd⟩ | ⟨hout, before, after, hcut, hless, hgreater, hadd⟩
  · rw [hadd, addValidation, if_pos (contains_checks_iff.mpr hmem)]
  -- where the list is cut, the entries are
  · obtain ⟨lesser, greater, hsplit, rfl, rfl⟩ := List.map_eq_append_iff.mp hcut
    rw [List.forall_mem_map] at hless hgreater
    have hinsert : (p.checks.insert n description).entries = lesser ++ (n, description) :: greater := by
      rw [← Entries.put_append hless hgreater, ← hsplit]
      rfl
    rw [hadd, addValidation, if_neg (mt contains_checks_iff.mp hout)]
    simp only [listed, validations, hinsert, List.map_append, List.map_cons]

end Profile

/-! ## Many validations -/

namespace ListedProfile

variable {p blank : ListedProfile} {vs : List Validation} {added : List (Validation × Timestamp)}
  {name n description : String} {now : Timestamp}

/-- Adds validations one after the other, each at its time. -/
def addAll (p : ListedProfile) (added : List (Validation × Timestamp)) : ListedProfile :=
  added.foldl (fun p a => (p.addValidation a.1.name a.1.description a.2).2) p

/-- What a profile can become from the way it was made. -/
inductive Reachable : ListedProfile → Prop where
  | create {name : String} {vs : List Validation} {now : Timestamp} {p : ListedProfile}
      (h : create name vs now = .ok p) : Reachable p
  | ofDocument {d : ProfileDocument} {now : Timestamp} {p : ListedProfile}
      (h : ofDocument d now = .ok p) : Reachable p
  | rename {p : ListedProfile} (h : Reachable p) (name : String) (now : Timestamp) :
      Reachable (p.rename name now)
  | addValidation {p : ListedProfile} (h : Reachable p) (n description : String) (now : Timestamp) :
      Reachable (p.addValidation n description now).2
  | setValidations {p : ListedProfile} (h : Reachable p) (vs : List Validation) (now : Timestamp) :
      Reachable (p.setValidations vs now)

/-- Every profile in use lists what some profile holds. -/
theorem Reachable.exists_listed (h : p.Reachable) : ∃ q : Profile, p = q.listed := by
  induction h with
  | create h =>
    rw [Profile.listed_create] at h
    obtain ⟨q, -, hq⟩ := map_eq_ok_iff.mp h
    exact ⟨q, hq.symm⟩
  | ofDocument h =>
    rw [Profile.listed_ofDocument] at h
    obtain ⟨q, -, hq⟩ := map_eq_ok_iff.mp h
    exact ⟨q, hq.symm⟩
  | rename _ name now ih =>
    obtain ⟨q, rfl⟩ := ih
    exact ⟨q.rename name now, q.listed_rename name now⟩
  | addValidation _ n description now ih =>
    obtain ⟨q, rfl⟩ := ih
    exact ⟨(q.addValidation n description now).2, by rw [q.listed_addValidation]⟩
  | setValidations _ vs now ih =>
    obtain ⟨q, rfl⟩ := ih
    exact ⟨q.setValidations vs now, q.listed_setValidations vs now⟩

theorem Reachable.ascending (h : p.Reachable) : p.Ascending := by
  obtain ⟨q, rfl⟩ := h.exists_listed
  exact q.ascending_listed

/-- To add validations one by one is to insert each under its name unless there is one. -/
theorem addAll_listed (q : Profile) (added : List (Validation × Timestamp)) :
    ∃ r : Profile, q.listed.addAll added = r.listed ∧
      r.checks = added.foldl (fun d a => d.insertNew a.1.name a.1.description) q.checks := by
  induction added generalizing q with
  | nil => exact ⟨q, rfl, rfl⟩
  | cons a added ih =>
    obtain ⟨r, hr, hchecks⟩ := ih (q.addValidation a.1.name a.1.description a.2).2
    rw [Store.checks_addValidation] at hchecks
    refine ⟨r, ?_, hchecks⟩
    rw [addAll, List.foldl_cons, q.listed_addValidation]
    exact hr

/-- **Added one by one to no validations, a list is brought into its normal form.** -/
theorem validations_addAll (hblank : blank.validations = []) (added : List (Validation × Timestamp)) :
    (blank.addAll added).validations = normalize (added.map Prod.fst) := by
  -- no validations are those of a profile without checks
  have hlisted : blank = Profile.listed ⟨blank.name, blank.lastUpdate, .empty⟩ := by
    cases blank
    cases hblank
    rfl
  rw [hlisted]
  obtain ⟨r, hr, hchecks⟩ := addAll_listed ⟨blank.name, blank.lastUpdate, .empty⟩ added
  have hgather : r.checks = Profile.gather (added.map Prod.fst) := by
    rw [hchecks, Profile.gather, List.foldl_map]
  rw [hr, Profile.normalize_eq hgather]
  rfl

/-- A list holds the first validation of each name of another, in the order of the names. -/
structure FirstOfEach (vs listed : List Validation) : Prop where
  ascending : (listed.map Validation.name).Pairwise (· < ·)
  names : ∀ n, n ∈ listed.map Validation.name ↔ n ∈ vs.map Validation.name
  first : ∀ v, v ∈ listed ↔ vs.find? (fun w => w.name = v.name) = some v

theorem firstOfEach_normalize (vs : List Validation) : FirstOfEach vs (normalize vs) := by
  obtain ⟨q, hq, hnormalize⟩ := Profile.exists_gathered vs
  rw [hnormalize]
  refine ⟨q.validations_ascending, fun n => ?_, Profile.checks_eq_gather_iff.mp hq⟩
  have hnames : q.validations.map Validation.name = q.checks.names := q.validationNames_listed
  rw [hnames, hq, Profile.mem_names_gather]

theorem normalize_normalize (vs : List Validation) : normalize (normalize vs) = normalize vs := by
  obtain ⟨q, -, hnormalize⟩ := Profile.exists_gathered vs
  rw [hnormalize, Profile.normalize_eq q.gather_validations.symm]

/-- What it is for a profile to be given a validation: it takes one whose name it lacks, between the lesser
names and the greater ones, and no other. -/
structure Takes (p : ListedProfile) (n description : String) (now : Timestamp) : Prop where
  added_iff : (p.addValidation n description now).1 = true ↔ n ∉ p.validationNames
  kept : n ∈ p.validationNames → (p.addValidation n description now).2 = p
  placed : n ∉ p.validationNames → ∃ before after, p.validations = before ++ after ∧
    (∀ v ∈ before, v.name < n) ∧ (∀ v ∈ after, n < v.name) ∧
    (p.addValidation n description now).2 =
      { p with validations := before ++ ⟨n, description⟩ :: after, lastUpdate := now }

theorem Ascending.takes (h : p.Ascending) (n description : String) (now : Timestamp) :
    p.Takes n description now := by
  rcases h.addValidation_cases n description now with
    ⟨hmem, hadd⟩ | ⟨hout, before, after, hcut, hless, hgreater, hadd⟩
  · refine ⟨?_, fun _ => by rw [hadd], fun hout => absurd hmem hout⟩
    simp [hadd, hmem]
  · refine ⟨?_, fun hmem => absurd hmem hout, fun _ => ?_⟩
    · simp [hadd, hout]
    · exact ⟨before, after, hcut, hless, hgreater, by rw [hadd]⟩

/-- **A list comes out the same, given at once or one by one.**  A new profile is given a list, another one
has its list replaced by it, and to a third one that has no validations they are added in the order of the
list, at whatever times: all three then list the first validation of each name, in the order of the names,
and to bring that list into its form once more changes nothing.  Every profile that can be reached takes a
validation if and only if it has none of its name, and then in its place. -/
theorem list_by_either_way (hname : name ≠ "") (hblank : blank.validations = [])
    (hadded : added.map Prod.fst = vs) (other : ListedProfile) (now : Timestamp) :
    (∃ p, create name vs now = .ok p ∧ p.validations = (blank.addAll added).validations) ∧
    (other.setValidations vs now).validations = (blank.addAll added).validations ∧
    FirstOfEach vs (blank.addAll added).validations ∧
    normalize (blank.addAll added).validations = (blank.addAll added).validations ∧
    ∀ p : ListedProfile, p.Reachable → ∀ n description now, p.Takes n description now := by
  subst hadded
  rw [validations_addAll hblank]
  refine ⟨⟨_, by rw [create, if_neg hname], rfl⟩, rfl, firstOfEach_normalize _,
    normalize_normalize _, fun p h => h.ascending.takes⟩

/-- Two descriptions of one check, and the checks out of order. -/
theorem list_by_either_way_repeated :
    let blank : ListedProfile := ⟨"blank", .epoch, []⟩
    let vs : List Validation := [⟨"EOLCheck", "first"⟩, ⟨"ARKCheck", ""⟩, ⟨"EOLCheck", "second"⟩]
    let listed : List Validation := [⟨"ARKCheck", ""⟩, ⟨"EOLCheck", "first"⟩]
    (blank.addAll (vs.map (·, .epoch))).validations = listed ∧
    ∃ p, create "default" vs .epoch = .ok p ∧ p.validations = listed ∧
      (p.addValidation "EOLCheck" "third" .epoch).2 = p := by
  intro blank vs listed
  have hvalidations : (blank.addAll (vs.map (·, .epoch))).validations = listed := by
    rw [validations_addAll rfl]
    decide +kernel
  have hname : "default" ≠ "" := by decide
  have hblank : blank.validations = [] := rfl
  have hadded : (vs.map fun v => (v, Timestamp.epoch)).map Prod.fst = vs := rfl
  obtain ⟨⟨p, hp, heq⟩, -, -, -, htakes⟩ := list_by_either_way hname hblank hadded blank .epoch
  rw [hvalidations] at heq
  refine ⟨hvalidations, p, hp, heq, (htakes p (.create hp) "EOLCheck" "third" .epoch).kept ?_⟩
  rw [validationNames, heq]
  decide

end ListedProfile
end MetadataAudit
