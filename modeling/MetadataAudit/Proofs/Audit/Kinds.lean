import MetadataAudit.Audit
import MetadataAudit.Proofs.Outcome
import MetadataAudit.Proofs.Store.View

/-! # The kinds that a profile runs

A list of names runs the kinds it names that can be run (`mem_resolve_iff`), but the empty list runs
every kind.  A check that is added to a profile therefore adds its kind to those that are run, unless
the profile named no check before: then it is the only one that is named afterwards
(`kinds_addValidation`).
-/
namespace MetadataAudit

theorem Kind.ofName?_eq_some_iff {name : String} {k : Kind} :
    ofName? name = some k ↔ name = k.name := by
  constructor
  · intro h
    have hname := List.find?_some (p := fun k : Kind => decide (k.name = name)) h
    exact (of_decide_eq_true hname).symm
  · rintro rfl
    cases k <;> rfl

theorem Kind.name_injective {j k : Kind} (h : j.name = k.name) : j = k := by
  have hj := Kind.ofName?_eq_some_iff.mpr h
  rw [Kind.ofName?_eq_some_iff.mpr rfl] at hj
  cases hj
  rfl

theorem Profile.mem_validationNames_addValidation {p : Profile} {check description n : String}
    {now : Timestamp} : n ∈ (p.addValidation check description now).2.validationNames ↔
      n = check ∨ n ∈ p.validationNames := by
  rw [addValidation, validationNames, validationNames]
  split
  · rename_i hc
    have hmem := Dictionary.mem_names_iff.mpr (Dictionary.contains_eq_true_iff.mp hc)
    constructor
    · exact Or.inr
    · rintro (rfl | h)
      · exact hmem
      · exact h
  · simp only [Dictionary.mem_names_iff, Dictionary.get?_insert]
    by_cases hn : n = check
    · simp [hn]
    · simp [hn]

theorem Profile.checks_of_validations_nil {p : Profile} (h : p.validations = []) :
    p.checks = .empty := by
  have hentries : p.checks.entries = [] := List.map_eq_nil_iff.mp h
  cases hp : p.checks
  rw [hp] at hentries
  cases hentries
  rfl

theorem Profile.validationNames_ne_nil {p : Profile} (h : p.validations ≠ []) :
    p.validationNames ≠ [] := by
  intro hnil
  have hentries : p.checks.entries = [] := List.map_eq_nil_iff.mp hnil
  exact h (List.map_eq_nil_iff.mpr hentries)

/-- The context in which a check was added through a handle. -/
def Context.addValidation (ctx : Context) (h : Handle) (check description : String)
    (now : Timestamp) : Context :=
  { ctx with store := (ctx.store.addValidation h check description now).2 }

namespace Audit

variable {ctx : Context} {profile : String} {h : Handle} {p : Profile} {before : List Kind}

theorem named_of_ne_nil {names : List String} (hne : names ≠ []) :
    named names = names.filterMap Kind.ofName? := by
  rw [named, if_neg (by simpa using hne)]

/-- A kind is run for a list of names that has its name, if it can be run. -/
theorem mem_resolve_iff {names : List String} (hne : names ≠ []) {k : Kind} :
    k ∈ resolve ctx names ↔ k.name ∈ names ∧ canRun ctx k = true := by
  rw [resolve, List.mem_filter, named_of_ne_nil hne, List.mem_filterMap]
  refine and_congr_left fun _ => ?_
  constructor
  · rintro ⟨n, hn, hk⟩
    exact Kind.ofName?_eq_some_iff.mp hk ▸ hn
  · intro hn
    exact ⟨k.name, hn, Kind.ofName?_eq_some_iff.mpr rfl⟩

/-- Beside other names, a further one adds its kind and takes none away. -/
theorem mem_resolve_addValidation (ctx : Context) (hlisted : p.validations ≠ []) (k : Kind)
    (description : String) (now : Timestamp) (j : Kind) :
    j ∈ resolve ctx (p.addValidation k.name description now).2.validationNames ↔
      j ∈ resolve ctx p.validationNames ∨ (j = k ∧ canRun ctx k = true) := by
  have hnew : (p.addValidation k.name description now).2.validationNames ≠ [] :=
    List.ne_nil_of_mem (Profile.mem_validationNames_addValidation.mpr (Or.inl rfl))
  rw [mem_resolve_iff (Profile.validationNames_ne_nil hlisted), mem_resolve_iff hnew,
    Profile.mem_validationNames_addValidation]
  constructor
  · rintro ⟨hname | hname, hrun⟩
    · cases Kind.name_injective hname
      exact Or.inr ⟨rfl, hrun⟩
    · exact Or.inl ⟨hname, hrun⟩
  · rintro (⟨hname, hrun⟩ | ⟨rfl, hrun⟩)
    · exact ⟨Or.inr hname, hrun⟩
    · exact ⟨Or.inl rfl, hrun⟩

theorem resolve_singleton (ctx : Context) (k : Kind) :
    resolve ctx [k.name] = [k].filter (canRun ctx) := by
  rw [resolve, named_of_ne_nil (by simp), List.filterMap_cons, Kind.ofName?_eq_some_iff.mpr rfl,
    List.filterMap_nil]

theorem resolveSome_eq_ok_iff {names : List String} {ks : List Kind} :
    resolveSome ctx profile names = .ok ks ↔ resolve ctx names ≠ [] ∧ ks = resolve ctx names := by
  rw [resolveSome]
  by_cases hnil : resolve ctx names = []
  · simp [hnil]
  · simp only [List.isEmpty_iff, hnil, if_false, Except.ok.injEq, ne_eq, not_false_eq_true,
      true_and]
    exact eq_comm

theorem kinds_of_stored (hstored : ctx.store.get? profile = some p) :
    kinds ctx profile = resolveSome ctx profile p.validationNames := by
  rw [kinds, checkNames, hstored]
  rfl

theorem kinds_eq_resolveSome (hfind : ctx.store.find? profile = some h)
    (hobj : ctx.store.object? h = some p) :
    kinds ctx profile = resolveSome ctx profile p.validationNames := by
  refine kinds_of_stored ?_
  rw [Store.get?, hfind, Option.bind_eq_bind, Option.bind_some, hobj]

/-- A profile to which a check was added runs the kinds of its new names. -/
theorem kinds_addValidation_eq (hfind : ctx.store.find? profile = some h)
    (hobj : ctx.store.object? h = some p) (check description : String) (now : Timestamp) :
    kinds (ctx.addValidation h check description now) profile =
      resolveSome ctx profile (p.addValidation check description now).2.validationNames := by
  have hstore : (ctx.addValidation h check description now).store =
      ctx.store.modify h fun p => (p.addValidation check description now).2 :=
    Store.addValidation_eq ctx.store h check description now
  have hobj' : (ctx.addValidation h check description now).store.object? h =
      some (p.addValidation check description now).2 := by
    rw [hstore, Store.object?_modify, if_pos rfl, hobj]
    rfl
  have hfind' : (ctx.addValidation h check description now).store.find? profile = some h := by
    rw [hstore]
    exact hfind
  rw [kinds_eq_resolveSome hfind' hobj']
  rfl

/-- **What a further check does to the checks that run.**  If a profile names a check, then adding
one keeps every check that was run and adds at most the new one, which it does if that can be run.
If a profile names none, every check that can be run was, and now the new one alone is. -/
theorem kinds_addValidation (hfind : ctx.store.find? profile = some h)
    (hobj : ctx.store.object? h = some p) (hbefore : kinds ctx profile = .ok before) (k : Kind)
    (description : String) (now : Timestamp) :
    (p.validations ≠ [] → ∃ later,
      kinds (ctx.addValidation h k.name description now) profile = .ok later ∧
        before.map Kind.name ⊆ later.map Kind.name ∧
          ∀ j, j ∈ later ↔ j ∈ before ∨ (j = k ∧ canRun ctx k = true)) ∧
    (p.validations = [] → before = Kind.all.filter (canRun ctx) ∧
      kinds (ctx.addValidation h k.name description now) profile =
        if canRun ctx k then .ok [k] else .error (.noChecks profile)) := by
  rw [kinds_addValidation_eq hfind hobj]
  rw [kinds_eq_resolveSome hfind hobj] at hbefore
  obtain ⟨hsome, rfl⟩ := resolveSome_eq_ok_iff.mp hbefore
  constructor
  · intro hlisted
    have hmem := mem_resolve_addValidation ctx hlisted k description now
    -- some kind was run before, hence one is run now
    obtain ⟨j, hj⟩ := List.exists_mem_of_ne_nil _ hsome
    have hlater := List.ne_nil_of_mem ((hmem j).mpr (Or.inl hj))
    refine ⟨_, resolveSome_eq_ok_iff.mpr ⟨hlater, rfl⟩, ?_, hmem⟩
    exact List.map_subset _ fun j hj => (hmem j).mpr (Or.inl hj)
  · intro hempty
    have hchecks := Profile.checks_of_validations_nil hempty
    have hnames : (p.addValidation k.name description now).2.validationNames = [k.name] := by
      rw [Profile.addValidation, hchecks]
      rfl
    refine ⟨by rw [Profile.validationNames, hchecks]; rfl, ?_⟩
    rw [hnames, resolveSome, resolve_singleton, List.filter_cons]
    by_cases hrun : canRun ctx k = true
    · simp [hrun]
    · simp [hrun]

/-- A profile that names a check for line breaks is given one for lost characters. -/
theorem kinds_addValidation_second :
    let ctx : Context := {
      store := ⟨none, [⟨"p", .epoch, Dictionary.empty.insert "EOLCheck" ""⟩],
        Dictionary.empty.insert "p" 0, .epoch⟩
      rules := .builtin }
    ∃ later, kinds (ctx.addValidation 0 "UnicodeCheck" "" .epoch) "p" = .ok later ∧
      ["EOLCheck"] ⊆ later.map Kind.name := by
  intro ctx
  have hfind : ctx.store.find? "p" = some 0 := rfl
  have hbefore : kinds ctx "p" = .ok [.lineBreak] := rfl
  obtain ⟨later, hlater, hsub, -⟩ :=
    (kinds_addValidation hfind rfl hbefore .replacement "" .epoch).1 (by decide)
  exact ⟨later, hlater, hsub⟩

/-- A profile that names no check is given one, which is then the only one that runs. -/
theorem not_kinds_subset_of_addValidation :
    ¬ ∀ (ctx : Context) (profile : String) (h : Handle) (k : Kind) (description : String)
      (now : Timestamp) (before : List Kind), ctx.store.find? profile = some h →
        (ctx.store.object? h).isSome → kinds ctx profile = .ok before →
          ∃ later, kinds (ctx.addValidation h k.name description now) profile = .ok later ∧
            before.map Kind.name ⊆ later.map Kind.name := by
  intro hall
  obtain ⟨later, hlater, hsub⟩ := hall {
      store := ⟨none, [⟨"p", .epoch, .empty⟩], Dictionary.empty.insert "p" 0, .epoch⟩
      rules := .builtin } "p" 0 .lineBreak "" .epoch _ rfl rfl rfl
  have hone : later = [.lineBreak] := by
    cases hlater
    rfl
  have hark : "ARKCheck" ∈ later.map Kind.name := hsub (by decide)
  rw [hone] at hark
  exact absurd hark (by decide)

end Audit
end MetadataAudit
