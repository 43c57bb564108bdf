import MetadataAudit.Proofs.Audit.Union

/-! # Lineups

A lineup keeps its checks and their names in two lists.  A check that is added is added to both or to
neither, so the lists stay in step (`Lineup.InStep`), and what is left out of the one is left out of
the other: names that no check has, and checks that lack what they need (`Audit.Offers`).  The kinds
that a profile runs are the checks of such a lineup, and there are two ways in which there may be none:
the profile is not stored, or nothing is left of its names (`Audit.lineup_and_kinds`).
-/
namespace MetadataAudit

/-- A list in which every name is there once is left as it is. -/
theorem eraseDups_of_nodup {names : List String} (h : names.Nodup) : names.eraseDups = names := by
  induction names with
  | nil => rfl
  | cons name names ih =>
    rw [List.nodup_cons] at h
    have hfilter : names.filter (fun n => !n == name) = names := by
      refine List.filter_eq_self.mpr fun n hn => ?_
      have hne : n ≠ name := fun heq => h.1 (heq ▸ hn)
      simpa using hne
    rw [List.eraseDups_cons, hfilter, ih h.2]

namespace Lineup

variable {ctx : Context} {l : Lineup}

/-- At each place stands the name of the check that stands there. -/
def InStep (l : Lineup) : Prop := l.names = l.checks.map Kind.name

theorem add_eq (ctx : Context) (l : Lineup) (k : Kind) :
    l.add ctx k = if Audit.canRun ctx k = true then ⟨l.names ++ [k.name], l.checks ++ [k]⟩ else l := by
  rw [add, Audit.canRun]
  cases k.setup ctx <;> rfl

/-- A check is added to both lists or to neither. -/
theorem InStep.add (h : l.InStep) (k : Kind) : (l.add ctx k).InStep := by
  rw [add_eq]
  split
  · rw [InStep, List.map_append, ← h]
    rfl
  · exact h

theorem InStep.foldl (h : l.InStep) (ks : List Kind) : (ks.foldl (Lineup.add ctx) l).InStep := by
  induction ks generalizing l with
  | nil => exact h
  | cons k ks ih => exact ih (h.add k)

theorem checks_foldl (ctx : Context) (ks : List Kind) (l : Lineup) :
    (ks.foldl (Lineup.add ctx) l).checks = l.checks ++ ks.filter (Audit.canRun ctx) := by
  induction ks generalizing l with
  | nil => exact (List.append_nil _).symm
  | cons k ks ih =>
    rw [List.foldl_cons, ih, add_eq, List.filter_cons]
    split
    · rw [List.append_assoc]
      rfl
    · rfl

theorem InStep.length (h : l.InStep) : l.names.length = l.checks.length := by
  rw [h, List.length_map]

theorem InStep.getElem? (h : l.InStep) (i : Nat) : l.names[i]? = l.checks[i]?.map Kind.name := by
  rw [h, List.getElem?_map]

end Lineup

namespace Audit

variable {ctx : Context} {profile : String} {profiles : List String} {p : Profile} {ks : List Kind}

/-! ### What a list of names stands for -/

theorem inStep_lineup (ctx : Context) (names : List String) : (lineup ctx names).InStep := by
  have hempty : ({} : Lineup).InStep := rfl
  exact hempty.foldl (named names)

theorem checks_lineup (ctx : Context) (names : List String) :
    (lineup ctx names).checks = resolve ctx names :=
  Lineup.checks_foldl ctx (named names) {}

/-- The names of a list, no names at all standing for those of every kind. -/
def asked (names : List String) : List String :=
  if names = [] then Kind.all.map Kind.name else names

/-- There is a check of this name and it can be run: one that opens pages needs a way to do so. -/
def Offers (ctx : Context) (name : String) : Prop :=
  name ∈ Kind.all.map Kind.name ∧ (name = Kind.license.name → ctx.fetch.isSome = true)

instance (ctx : Context) : DecidablePred (Offers ctx) := fun name => by
  unfold Offers
  infer_instance

theorem canRun_iff {k : Kind} : canRun ctx k = true ↔ (k = .license → ctx.fetch.isSome = true) := by
  rw [canRun, Kind.setup]
  cases hfetch : ctx.fetch <;> by_cases hk : k = .license <;> simp [hk, Except.toBool]

theorem offers_name_iff {k : Kind} : Offers ctx k.name ↔ canRun ctx k = true := by
  have hall : k ∈ Kind.all := by cases k <;> decide
  rw [canRun_iff, Offers]
  constructor
  · rintro ⟨-, hfetch⟩ rfl
    exact hfetch rfl
  · intro hfetch
    refine ⟨List.mem_map_of_mem hall, fun hname => hfetch (Kind.name_injective hname)⟩

theorem not_offers_of_unknown {name : String} (h : Kind.ofName? name = none) : ¬ Offers ctx name := by
  rintro ⟨hname, -⟩
  obtain ⟨k, -, rfl⟩ := List.mem_map.mp hname
  rw [Kind.ofName?_eq_some_iff.mpr rfl] at h
  cases h

/-- Of the names of kinds, those are offered whose kinds can be run. -/
theorem filter_offers_map (ctx : Context) (ks : List Kind) :
    (ks.map Kind.name).filter (Offers ctx ·) = (ks.filter (canRun ctx)).map Kind.name := by
  have hsame : (fun n => decide (Offers ctx n)) ∘ Kind.name = canRun ctx := by
    funext k
    rw [Function.comp_apply, Bool.eq_iff_iff, decide_eq_true_iff]
    exact offers_name_iff
  rw [List.filter_map, hsame]

/-- Of any names, those are offered whose kinds are known and can be run. -/
theorem filter_offers (ctx : Context) (names : List String) :
    names.filter (Offers ctx ·) = ((names.filterMap Kind.ofName?).filter (canRun ctx)).map Kind.name := by
  rw [← filter_offers_map]
  induction names with
  | nil => rfl
  | cons name names ih =>
    rw [List.filterMap_cons, List.filter_cons]
    cases hname : Kind.ofName? name with
    | none => rw [if_neg (by simpa using not_offers_of_unknown hname), ih]
    | some k =>
      rw [Kind.ofName?_eq_some_iff.mp hname, List.map_cons, List.filter_cons, ih]

theorem names_lineup (ctx : Context) (names : List String) :
    (lineup ctx names).names = (asked names).filter (Offers ctx ·) := by
  rw [inStep_lineup ctx names, checks_lineup, resolve, asked]
  by_cases hnil : names = []
  · rw [if_pos hnil, filter_offers_map, hnil]
    rfl
  · rw [if_neg hnil, filter_offers, named_of_ne_nil hnil]

/-! ### What a profile runs -/

theorem kinds_of_not_stored (h : ctx.store.get? profile = none) :
    kinds ctx profile = .error (.unknownProfile profile) := by
  rw [kinds, checkNames, h]
  rfl

theorem kinds_of_nothing_left (h : ctx.store.get? profile = some p)
    (hnone : (lineup ctx p.validationNames).checks = []) :
    kinds ctx profile = .error (.noChecks profile) := by
  rw [checks_lineup] at hnone
  rw [kinds_of_stored h, resolveSome, hnone]
  rfl

theorem kinds_of_some_left (h : ctx.store.get? profile = some p)
    (hsome : (lineup ctx p.validationNames).checks ≠ []) :
    kinds ctx profile = .ok (lineup ctx p.validationNames).checks := by
  rw [checks_lineup] at hsome ⊢
  rw [kinds_of_stored h]
  exact resolveSome_eq_ok_iff.mpr ⟨hsome, rfl⟩

theorem kinds_eq_unknownProfile_iff :
    kinds ctx profile = .error (.unknownProfile profile) ↔ ctx.store.get? profile = none := by
  constructor
  · intro h
    cases hp : ctx.store.get? profile with
    | none => rfl
    | some p =>
      by_cases hnone : (lineup ctx p.validationNames).checks = []
      · cases (kinds_of_nothing_left hp hnone).symm.trans h
      · cases (kinds_of_some_left hp hnone).symm.trans h
  · exact kinds_of_not_stored

theorem kinds_eq_noChecks_iff :
    kinds ctx profile = .error (.noChecks profile) ↔
      ∃ p, ctx.store.get? profile = some p ∧ (lineup ctx p.validationNames).checks = [] := by
  constructor
  · intro h
    cases hp : ctx.store.get? profile with
    | none => cases (kinds_of_not_stored hp).symm.trans h
    | some p =>
      refine ⟨p, rfl, Classical.byContradiction fun hsome => ?_⟩
      cases (kinds_of_some_left hp hsome).symm.trans h
  · rintro ⟨p, hp, hnone⟩
    exact kinds_of_nothing_left hp hnone

theorem kinds_eq_ok_iff :
    kinds ctx profile = .ok ks ↔ ∃ p, ctx.store.get? profile = some p ∧
      ks = (lineup ctx p.validationNames).checks ∧ ks ≠ [] := by
  constructor
  · intro h
    cases hp : ctx.store.get? profile with
    | none => cases (kinds_of_not_stored hp).symm.trans h
    | some p =>
      by_cases hnone : (lineup ctx p.validationNames).checks = []
      · cases (kinds_of_nothing_left hp hnone).symm.trans h
      · cases (kinds_of_some_left hp hnone).symm.trans h
        exact ⟨p, rfl, rfl, hnone⟩
  · rintro ⟨p, hp, rfl, hne⟩
    exact kinds_of_some_left hp hne

/-! ### What several profiles run -/

/-- A single profile runs the same whether it is asked for alone or as one of several. -/
theorem unionKinds_singleton (ctx : Context) (profile : String) :
    unionKinds ctx [profile] = kinds ctx profile := by
  cases hp : ctx.store.get? profile with
  | none =>
    rw [kinds_of_not_stored hp, unionKinds, List.mapM_cons, checkNames, hp]
    rfl
  | some p =>
    have hnames : checkNames ctx profile = .ok p.validationNames := by
      rw [checkNames, hp]
    have hflat : [p.validationNames].flatten.eraseDups = p.validationNames := by
      rw [List.flatten_singleton]
      exact eraseDups_of_nodup p.checks.ascending.nodup_names
    rw [kinds_of_stored hp, unionKinds, List.mapM_cons, hnames]
    change resolveSome ctx (", ".intercalate [profile]) [p.validationNames].flatten.eraseDups = _
    rw [hflat]
    rfl

theorem checkNames_eq_error_iff {e : AuditError} : checkNames ctx profile = .error e ↔
    ctx.store.get? profile = none ∧ e = .unknownProfile profile := by
  rw [checkNames]
  cases ctx.store.get? profile with
  | none => simp [eq_comm]
  | some p => simp

theorem exists_checkNames_iff :
    (∃ names, checkNames ctx profile = .ok names) ↔ ∃ p, ctx.store.get? profile = some p := by
  rw [checkNames]
  cases ctx.store.get? profile <;> simp

/-- The first profile that is not stored decides, whatever the others name. -/
theorem unionKinds_eq_unknownProfile_iff :
    unionKinds ctx profiles = .error (.unknownProfile profile) ↔
      ∃ before after, profiles = before ++ profile :: after ∧
        (∀ q ∈ before, ∃ p, ctx.store.get? q = some p) ∧ ctx.store.get? profile = none := by
  have hresolve (names : List String) :
      resolveSome ctx (", ".intercalate profiles) names ≠ .error (.unknownProfile profile) := by
    intro h
    rw [resolveSome] at h
    split at h <;> cases h
  rw [unionKinds, bind_eq_error_iff, mapM_eq_error_iff]
  constructor
  · rintro (⟨before, q, after, hsplit, hbefore, hq⟩ | ⟨names, -, hnone⟩)
    · obtain ⟨hnone, heq⟩ := checkNames_eq_error_iff.mp hq
      cases heq
      exact ⟨before, after, hsplit, fun r hr => exists_checkNames_iff.mp (hbefore r hr), hnone⟩
    · exact absurd hnone (hresolve _)
  · rintro ⟨before, after, hsplit, hbefore, hnone⟩
    refine Or.inl ⟨before, profile, after, hsplit, ?_, checkNames_eq_error_iff.mpr ⟨hnone, rfl⟩⟩
    exact fun r hr => exists_checkNames_iff.mpr (hbefore r hr)

/-- **How names are resolved, and when nothing can be run.**  The lineup of a list of names has the names
that are offered, in the order of the list and as often as they stand there; no names stand for those of
every kind.  Its checks are as many, each at the place of its name.  A profile runs the checks of the
lineup of its names, unless it is not stored or that lineup is empty; alone it runs the same as a list of
one profile does, and of a list of profiles the first one that is not stored decides. -/
theorem lineup_and_kinds (ctx : Context) :
    (∀ names, (lineup ctx names).names = (asked names).filter (Offers ctx ·) ∧
      (lineup ctx names).names.length = (lineup ctx names).checks.length ∧
      ∀ i : Nat, (lineup ctx names).names[i]? = (lineup ctx names).checks[i]?.map Kind.name) ∧
    (∀ profile,
      (kinds ctx profile = .error (.unknownProfile profile) ↔ ctx.store.get? profile = none) ∧
      (kinds ctx profile = .error (.noChecks profile) ↔
        ∃ p, ctx.store.get? profile = some p ∧ (lineup ctx p.validationNames).checks = []) ∧
      (∀ ks, kinds ctx profile = .ok ks ↔ ∃ p, ctx.store.get? profile = some p ∧
        ks = (lineup ctx p.validationNames).checks ∧ ks ≠ []) ∧
      unionKinds ctx [profile] = kinds ctx profile) ∧
    ∀ profiles profile, unionKinds ctx profiles = .error (.unknownProfile profile) ↔
      ∃ before after, profiles = before ++ profile :: after ∧
        (∀ q ∈ before, ∃ p, ctx.store.get? q = some p) ∧ ctx.store.get? profile = none := by
  refine ⟨fun names => ?_, fun profile => ?_, fun profiles profile => unionKinds_eq_unknownProfile_iff⟩
  · have hstep := inStep_lineup ctx names
    exact ⟨names_lineup ctx names, hstep.length, hstep.getElem?⟩
  · exact ⟨kinds_eq_unknownProfile_iff, kinds_eq_noChecks_iff, fun ks => kinds_eq_ok_iff,
      unionKinds_singleton ctx profile⟩

end Audit
end MetadataAudit
