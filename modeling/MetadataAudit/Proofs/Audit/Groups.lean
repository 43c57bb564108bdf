import MetadataAudit.Audit
import MetadataAudit.Proofs.Check.Scan
import MetadataAudit.Proofs.Outcome

/-! # The shape of an audit

An audit reports in groups, one for each kind that it runs and in the order of these
(`groups_of_run`).
-/
namespace MetadataAudit
namespace Audit

variable {ctx : Context} {profile : String} {g : Grid} {a : Audit}

/-- What one kind reports in an audit of a grid. -/
structure Group (ctx : Context) (profile : String) (g : Grid) (k : Kind) (group : Violations) :
    Prop where
  /-- A check without memory is offered every cell once and row by row. -/
  answers : ∃ cells : List Location, cells.Pairwise Location.Before ∧
    (∀ l, l ∈ cells ↔ ∃ value, g.get? l = some value) ∧
    group = (k.offerAll ctx {} (cells.map fun l => ⟨profile, l, g⟩)).1.flatMap Outcome.violations
  ordered : group.Pairwise fun v w => v.location.le w.location = true
  addressed : ∀ v ∈ group, (∃ value, g.get? v.location = some value) ∧ v.profile = profile
  /-- Few checks have anything to say on the header row. -/
  header : ∀ v ∈ group, v.location.row = 0 →
    k = .lineBreak ∨ k = .replacement ∨ (k = .requiredField ∧ v.location = .origin)

theorem group_scan (k : Kind) (ctx : Context) (profile : String) (g : Grid) :
    Group ctx profile g k (k.scan ctx profile g).violations where
  answers := ⟨g.locations, g.pairwise_locations, fun _ => Grid.mem_locations_iff,
    Kind.violations_scan⟩
  ordered := k.pairwise_scan ctx profile g
  addressed _ hv := ⟨(Kind.address_of_mem_scan hv).1, (Kind.address_of_mem_scan hv).2.1⟩
  header _ hv := (Kind.address_of_mem_scan hv).2.2

theorem run_eq_ok_iff : run ctx profile g = .ok a ↔ ∃ ks, kinds ctx profile = .ok ks ∧
    a = ⟨ks.map fun k => (k, k.scan ctx profile g)⟩ := by
  rw [run, bind_eq_ok_iff]
  refine exists_congr fun ks => and_congr_right fun _ => ?_
  simp only [pure, Except.pure, Except.ok.injEq]
  exact eq_comm

/-- Everything an audit reports is about a cell of its grid and under its profile. -/
theorem address_of_run (h : run ctx profile g = .ok a) {v : Violation} (hv : v ∈ a.violations) :
    (∃ value, g.get? v.location = some value) ∧ v.profile = profile := by
  obtain ⟨ks, -, rfl⟩ := run_eq_ok_iff.mp h
  obtain ⟨r, hr, hvr⟩ := List.mem_flatMap.mp hv
  obtain ⟨k, -, rfl⟩ := List.mem_map.mp hr
  exact (group_scan k ctx profile g).addressed v hvr

/-- **The shape of an audit.**  It runs the kinds of its profile, and what it reports is one group for
each of them, in their order. -/
theorem groups_of_run (h : run ctx profile g = .ok a) :
    ∃ ks groups, kinds ctx profile = .ok ks ∧ a.checks = ks ∧ a.violations = groups.flatten ∧
      List.Forall₂ (Group ctx profile g) ks groups := by
  obtain ⟨ks, hks, rfl⟩ := run_eq_ok_iff.mp h
  refine ⟨ks, ks.map fun k => (k.scan ctx profile g).violations, hks, ?_, ?_, ?_⟩
  · simp [checks, Function.comp_def]
  · rw [violations, List.flatMap_map, List.flatMap_def]
  · rw [List.forall₂_map_right_iff, List.forall₂_same]
    exact fun k _ => group_scan k ctx profile g

/-- Two checks report in the header row and below it. -/
theorem groups_of_run_characters :
    let ctx : Context := {
      store := ⟨none, [⟨"p", .epoch, (Dictionary.empty.insert "EOLCheck" "").insert
        "UnicodeCheck" ""⟩], Dictionary.empty.insert "p" 0, .epoch⟩
      rules := .builtin }
    let g : Grid := ⟨[["Title\n"], [], ["a\nb", "\uFFFD"]]⟩
    ∃ a, run ctx "p" g = .ok a ∧ a.violations.map Violation.location = [⟨0, 0⟩, ⟨2, 0⟩, ⟨2, 1⟩] ∧
      ∃ ks groups, kinds ctx "p" = .ok ks ∧ a.checks = ks ∧ a.violations = groups.flatten ∧
        List.Forall₂ (Group ctx "p" g) ks groups :=
  ⟨_, rfl, by decide, groups_of_run rfl⟩

end Audit
end MetadataAudit
