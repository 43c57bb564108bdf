import Mathlib.Data.List.Nodup
import MetadataAudit.Proofs.Audit.Kinds

/-! # The kinds that several profiles run together

Profiles that can each be audited can be audited together, and no kind is then run twice.  What is run
is what the profiles that name checks run; a profile that names none stands for every kind by itself,
but adds nothing to others that name some (`unionKinds_of_kinds`).
-/
namespace MetadataAudit
namespace Audit

variable {ctx : Context} {profile : String} {profiles names : List String} {ks : List Kind}

/-- The checks that a stored profile names. -/
def namesOf (ctx : Context) (profile : String) : List String :=
  ((ctx.store.get? profile).map Profile.validationNames).getD []

/-- What a profile runs is what the names of its checks resolve to, and that is something. -/
theorem eq_resolve_of_kinds (h : kinds ctx profile = .ok ks) :
    checkNames ctx profile = .ok (namesOf ctx profile) ∧ ks = resolve ctx (namesOf ctx profile) ∧
      ks ≠ [] := by
  obtain ⟨ns, hns, hsome⟩ := bind_eq_ok_iff.mp h
  have hnames : ns = namesOf ctx profile := by
    rw [checkNames] at hns
    split at hns
    · rename_i p hp
      cases hns
      rw [namesOf, hp]
      rfl
    · cases hns
  subst hnames
  obtain ⟨hne, rfl⟩ := resolveSome_eq_ok_iff.mp hsome
  exact ⟨hns, rfl, hne⟩

theorem nodup_resolve (h : names.Nodup) : (resolve ctx names).Nodup := by
  rw [resolve]
  refine List.Nodup.filter _ ?_
  rw [named]
  split
  · decide
  · refine List.Nodup.filterMap ?_ h
    intro n m k hn hm
    rw [Kind.ofName?_eq_some_iff.mp hn, Kind.ofName?_eq_some_iff.mp hm]

/-- Every kind that can be run is run for no names at all, and there always is one. -/
theorem lineBreak_mem_resolve_nil (ctx : Context) : Kind.lineBreak ∈ resolve ctx [] := by
  rw [resolve, List.mem_filter]
  exact ⟨by decide, rfl⟩

/-- Several profiles run what all their names together resolve to. -/
theorem unionKinds_eq_resolveSome (h : ∀ p ∈ profiles, ∃ ks, kinds ctx p = .ok ks) :
    unionKinds ctx profiles = resolveSome ctx (", ".intercalate profiles)
      (profiles.flatMap (namesOf ctx)).eraseDups := by
  have hnames : profiles.mapM (checkNames ctx) = .ok (profiles.map (namesOf ctx)) := by
    refine mapM_eq_ok_of_forall fun p hp => ?_
    obtain ⟨ks, hks⟩ := h p hp
    exact (eq_resolve_of_kinds hks).1
  rw [unionKinds, hnames, List.flatMap_def]
  rfl

theorem eraseDups_eq_nil_iff : names.eraseDups = [] ↔ names = [] := by
  cases names with
  | nil => rfl
  | cons name names => simp [List.eraseDups_cons]

/-- A kind is run for several profiles if one of those that name checks runs it. -/
theorem mem_resolve_flatMap_iff (hnamed : ∃ p ∈ profiles, namesOf ctx p ≠ []) {k : Kind} :
    k ∈ resolve ctx (profiles.flatMap (namesOf ctx)).eraseDups ↔
      ∃ p ∈ profiles, namesOf ctx p ≠ [] ∧ k ∈ resolve ctx (namesOf ctx p) := by
  have hne : (profiles.flatMap (namesOf ctx)).eraseDups ≠ [] := by
    intro hnil
    obtain ⟨p, hp, hnames⟩ := hnamed
    exact hnames (List.flatMap_eq_nil_iff.mp (eraseDups_eq_nil_iff.mp hnil) p hp)
  rw [mem_resolve_iff hne, List.mem_eraseDups, List.mem_flatMap]
  constructor
  · rintro ⟨⟨p, hp, hname⟩, hrun⟩
    have hnames := List.ne_nil_of_mem hname
    exact ⟨p, hp, hnames, (mem_resolve_iff hnames).mpr ⟨hname, hrun⟩⟩
  · rintro ⟨p, hp, hnames, hmem⟩
    obtain ⟨hname, hrun⟩ := (mem_resolve_iff hnames).mp hmem
    exact ⟨⟨p, hp, hname⟩, hrun⟩

/-- **What several profiles run together.**  If each of them can be audited, then they can be together,
and no kind is run twice.  What is run is what those that name checks run; if none does, it is every
kind that can be run, as for each of them. -/
theorem unionKinds_of_kinds (h : ∀ p ∈ profiles, ∃ ks, kinds ctx p = .ok ks) :
    ∃ ks, unionKinds ctx profiles = .ok ks ∧ (ks.map Kind.name).Nodup ∧
      ((∃ p ∈ profiles, namesOf ctx p ≠ []) → ∀ n, n ∈ ks.map Kind.name ↔
        ∃ p ∈ profiles, namesOf ctx p ≠ [] ∧ ∃ js, kinds ctx p = .ok js ∧ n ∈ js.map Kind.name) ∧
      ((∀ p ∈ profiles, namesOf ctx p = []) →
        ks = Kind.all.filter (canRun ctx) ∧ ∀ p ∈ profiles, kinds ctx p = .ok ks) := by
  have hkinds : ∀ p ∈ profiles, kinds ctx p = .ok (resolve ctx (namesOf ctx p)) := by
    intro p hp
    obtain ⟨ks, hks⟩ := h p hp
    rw [hks, (eq_resolve_of_kinds hks).2.1]
  have hempty (hnone : ∀ p ∈ profiles, namesOf ctx p = []) :
      (profiles.flatMap (namesOf ctx)).eraseDups = [] :=
    eraseDups_eq_nil_iff.mpr (List.flatMap_eq_nil_iff.mpr hnone)
  refine ⟨resolve ctx (profiles.flatMap (namesOf ctx)).eraseDups, ?_, ?_, ?_, ?_⟩
  · rw [unionKinds_eq_resolveSome h]
    refine resolveSome_eq_ok_iff.mpr ⟨?_, rfl⟩
    by_cases hnamed : ∃ p ∈ profiles, namesOf ctx p ≠ []
    · obtain ⟨p, hp, hnames⟩ := hnamed
      -- a profile that can be audited runs some kind
      obtain ⟨js, hjs⟩ := h p hp
      obtain ⟨-, rfl, hne⟩ := eq_resolve_of_kinds hjs
      obtain ⟨k, hk⟩ := List.exists_mem_of_ne_nil _ hne
      exact List.ne_nil_of_mem
        ((mem_resolve_flatMap_iff ⟨p, hp, hnames⟩).mpr ⟨p, hp, hnames, hk⟩)
    · rw [hempty fun p hp => Classical.byContradiction fun hne => hnamed ⟨p, hp, hne⟩]
      exact List.ne_nil_of_mem (lineBreak_mem_resolve_nil ctx)
  · exact (nodup_resolve (nodup_eraseDups _)).map fun _ _ => Kind.name_injective
  · intro hnamed n
    constructor
    · intro hn
      obtain ⟨k, hk, rfl⟩ := List.mem_map.mp hn
      obtain ⟨p, hp, hnames, hmem⟩ := (mem_resolve_flatMap_iff hnamed).mp hk
      exact ⟨p, hp, hnames, _, hkinds p hp, List.mem_map_of_mem hmem⟩
    · rintro ⟨p, hp, hnames, js, hjs, hn⟩
      obtain ⟨k, hk, rfl⟩ := List.mem_map.mp hn
      rw [(eq_resolve_of_kinds hjs).2.1] at hk
      exact List.mem_map_of_mem ((mem_resolve_flatMap_iff hnamed).mpr ⟨p, hp, hnames, hk⟩)
  · intro hnone
    rw [hempty hnone]
    refine ⟨rfl, fun p hp => ?_⟩
    rw [hkinds p hp, hnone p hp]

/-- Two profiles share a check, one of them names a check that there is not, and a third names none. -/
theorem unionKinds_of_kinds_three :
    let ctx : Context := {
      store := ⟨none, [⟨"a", .epoch, (Dictionary.empty.insert "EOLCheck" "").insert "ARKCheck" ""⟩,
          ⟨"b", .epoch, (Dictionary.empty.insert "ARKCheck" "").insert "NotACheck" ""⟩,
          ⟨"c", .epoch, .empty⟩],
        ((Dictionary.empty.insert "a" 0).insert "b" 1).insert "c" 2, .epoch⟩
      rules := .builtin }
    ∃ ks, unionKinds ctx ["a", "b", "c"] = .ok ks ∧ (ks.map Kind.name).Nodup ∧
      (∃ p ∈ ["a", "b", "c"], namesOf ctx p ≠ []) ∧
      ∀ n, n ∈ ks.map Kind.name ↔ ∃ p ∈ ["a", "b", "c"], namesOf ctx p ≠ [] ∧
        ∃ js, kinds ctx p = .ok js ∧ n ∈ js.map Kind.name := by
  intro ctx
  have hkinds : ∀ p ∈ ["a", "b", "c"], ∃ ks, kinds ctx p = .ok ks := by
    simp only [List.forall_mem_cons]
    exact ⟨⟨_, rfl⟩, ⟨_, rfl⟩, ⟨_, rfl⟩, by simp⟩
  have hnamed : ∃ p ∈ ["a", "b", "c"], namesOf ctx p ≠ [] := ⟨"a", by decide, by decide⟩
  obtain ⟨ks, hks, hnodup, hunion, -⟩ := unionKinds_of_kinds hkinds
  exact ⟨ks, hks, hnodup, hnamed, hunion hnamed⟩

/-- A profile that names no check runs every kind, but beside one that names a check it adds none. -/
theorem not_unionKinds_eq_union :
    ¬ ∀ (ctx : Context) (profiles : List String), profiles ≠ [] →
      (∀ p ∈ profiles, ∃ ks, kinds ctx p = .ok ks) →
        ∃ ks, unionKinds ctx profiles = .ok ks ∧ (ks.map Kind.name).Nodup ∧
          ∀ n, n ∈ ks.map Kind.name ↔
            ∃ p ∈ profiles, ∃ js, kinds ctx p = .ok js ∧ n ∈ js.map Kind.name := by
  intro hall
  let ctx : Context := {
    store := ⟨none, [⟨"every", .epoch, .empty⟩,
        ⟨"one", .epoch, Dictionary.empty.insert "EOLCheck" ""⟩],
      (Dictionary.empty.insert "every" 0).insert "one" 1, .epoch⟩
    rules := .builtin }
  have hkinds : ∀ p ∈ ["every", "one"], ∃ ks, kinds ctx p = .ok ks := by
    simp only [List.forall_mem_cons]
    exact ⟨⟨_, rfl⟩, ⟨_, rfl⟩, by simp⟩
  obtain ⟨ks, hks, -, hunion⟩ := hall ctx ["every", "one"] (by decide) hkinds
  have hone : ks = [.lineBreak] := by
    cases hks
    rfl
  have hark : "ARKCheck" ∈ ks.map Kind.name :=
    (hunion "ARKCheck").mpr ⟨"every", by decide, _, rfl, by decide⟩
  rw [hone] at hark
  exact absurd hark (by decide)

end Audit
end MetadataAudit
