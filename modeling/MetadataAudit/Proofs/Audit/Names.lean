import MetadataAudit.Proofs.Audit.Groups
import MetadataAudit.Proofs.Audit.Lineup
import MetadataAudit.Proofs.Store.Acceptance

/-! # Audits by the names of checks

A profile can come to its validations in many ways: all at once, one by one, with repeats and whatever
descriptions.  What it ends with are the names that it was given (`Draft.mem_validationNames_iff`), and
profiles that end with the same names list them in the same order.  A check reads everything in its
context but the store (`Kind.scan_withStore`), so an audit finds the same in both, and it runs the checks
in the order of their names (`Audit.run_of_same_names`).
-/
namespace MetadataAudit

variable {profile : String} {p q : Profile} {s u : Store}

/-! ### The names of a profile -/

/-- Dictionaries with the same names list them in the same order. -/
theorem Dictionary.names_eq_of_mem_iff {α β : Type} {d : Dictionary α} {d' : Dictionary β}
    (h : ∀ n, n ∈ d.names ↔ n ∈ d'.names) : d.names = d'.names := by
  have hperm : d.names.Perm d'.names :=
    (List.perm_ext_iff_of_nodup d.ascending.nodup_names d'.ascending.nodup_names).mpr h
  refine hperm.eq_of_pairwise ?_ d.ascending_names d'.ascending_names
  intro m n _ _ hmn hnm
  exact absurd (String.lt_trans hmn hnm) (String.lt_irrefl m)

/-- The names that a profile was given since all its validations were given together. -/
def Draft.given : Draft → List String
  | create _ vs _ | setValidations _ vs _ => vs.map Validation.name
  | ofDocument d => d.validations.map Validation.name
  | addValidation draft check _ _ => check :: draft.given

/-- A profile ends with the names that it was given. -/
theorem Draft.mem_validationNames_iff {draft : Draft} (hb : draft.build = .ok p) {n : String} :
    n ∈ p.validationNames ↔ n ∈ draft.given := by
  induction draft generalizing p with
  | create name vs now =>
    obtain ⟨-, rfl⟩ := (Profile.ofDocument_eq_ok_iff (d := ⟨name, now, vs⟩)).mp hb
    exact Profile.mem_names_gather
  | ofDocument d =>
    obtain ⟨-, rfl⟩ := Profile.ofDocument_eq_ok_iff.mp hb
    exact Profile.mem_names_gather
  | addValidation draft check description now ih =>
    obtain ⟨q, hq, rfl⟩ := map_eq_ok_iff.mp hb
    rw [Profile.mem_validationNames_addValidation, ih hq, given, List.mem_cons]
  | setValidations draft vs now ih =>
    obtain ⟨q, -, rfl⟩ := map_eq_ok_iff.mp hb
    exact Profile.mem_names_gather

/-! ### What a check reads -/

/-- The context with another store. -/
def Context.withStore (ctx : Context) (s : Store) : Context := { ctx with store := s }

theorem Kind.offer_withStore (k : Kind) (ctx : Context) (s : Store) (memo : Memo) (o : Offer) :
    k.offer (ctx.withStore s) memo o = k.offer ctx memo o := by
  cases k <;> rfl

theorem Kind.offerAll_withStore (k : Kind) (ctx : Context) (s : Store) (memo : Memo)
    (os : List Offer) : k.offerAll (ctx.withStore s) memo os = k.offerAll ctx memo os := by
  induction os generalizing memo with
  | nil => rfl
  | cons o os ih => rw [offerAll_cons, offerAll_cons, offer_withStore, ih]

/-- A check finds the same whatever the store of its context is. -/
theorem Kind.scan_withStore (k : Kind) (ctx : Context) (s : Store) (profile : String) (g : Grid) :
    k.scan (ctx.withStore s) profile g = k.scan ctx profile g := by
  rw [scan, offerAll_withStore]
  rfl

namespace Audit

variable {ctx : Context} {g : Grid} {a : Audit}

theorem resolve_withStore (ctx : Context) (s : Store) (names : List String) :
    resolve (ctx.withStore s) names = resolve ctx names := rfl

theorem kinds_withStore (hs : s.get? profile = some p) :
    kinds (ctx.withStore s) profile = resolveSome ctx profile p.validationNames := by
  have hs' : (ctx.withStore s).store.get? profile = some p := hs
  rw [kinds_of_stored hs', resolveSome, resolve_withStore]
  rfl

/-- What an audit finds is decided by the names of the checks, in the order in which they are listed. -/
theorem run_withStore (hs : s.get? profile = some p) (g : Grid) :
    run (ctx.withStore s) profile g =
      (resolveSome ctx profile p.validationNames).map fun ks =>
        ⟨ks.map fun k => (k, k.scan ctx profile g)⟩ := by
  have hscan : (fun k : Kind => (k, k.scan (ctx.withStore s) profile g)) =
      fun k => (k, k.scan ctx profile g) := by
    funext k
    rw [Kind.scan_withStore]
  rw [run, kinds_withStore hs, hscan]
  rfl

/-- The checks of a list of names run in the order of the list. -/
theorem map_name_resolve {names : List String} (hne : names ≠ []) :
    (resolve ctx names).map Kind.name = names.filter (Offers ctx ·) := by
  rw [resolve, named_of_ne_nil hne, filter_offers]

/-- A profile that names a check runs its checks in the order of their names. -/
theorem ascending_checks_of_run (hp : ctx.store.get? profile = some p) (hne : p.validationNames ≠ [])
    (h : run ctx profile g = .ok a) : (a.checks.map Kind.name).Pairwise (· < ·) := by
  obtain ⟨ks, hks, rfl⟩ := run_eq_ok_iff.mp h
  rw [kinds_of_stored hp] at hks
  obtain ⟨-, rfl⟩ := resolveSome_eq_ok_iff.mp hks
  have hchecks (ks : List Kind) :
      (⟨ks.map fun k => (k, k.scan ctx profile g)⟩ : Audit).checks = ks := by
    simp [checks, Function.comp_def]
  rw [hchecks, map_name_resolve hne]
  exact p.checks.ascending_names.filter _

/-- **An audit depends on the set of names that a profile ends with.**  Two profiles may have come to their
validations in any way, with any descriptions; if they end with the same set of names, then an audit
under the one comes to the same end as an audit under the other: the same error, or the same checks with
the same violations, pages and paths in the same order.  The names are those that the profiles were given,
and if there are any then the checks run in their order. -/
theorem run_of_same_names (ctx : Context) (g : Grid) {first second : Draft}
    (hfirst : first.build = .ok p) (hsecond : second.build = .ok q)
    (hsame : ∀ n, n ∈ p.validationNames ↔ n ∈ q.validationNames)
    (hs : s.get? profile = some p) (hu : u.get? profile = some q) :
    run (ctx.withStore s) profile g = run (ctx.withStore u) profile g ∧
    (∀ n, n ∈ p.validationNames ↔ n ∈ first.given) ∧
    (∀ n, n ∈ q.validationNames ↔ n ∈ second.given) ∧
    (p.validationNames ≠ [] → ∀ a, run (ctx.withStore s) profile g = .ok a →
      (a.checks.map Kind.name).Pairwise (· < ·)) := by
  have hnames : p.validationNames = q.validationNames := Dictionary.names_eq_of_mem_iff hsame
  refine ⟨?_, fun n => Draft.mem_validationNames_iff hfirst,
    fun n => Draft.mem_validationNames_iff hsecond, ?_⟩
  · rw [run_withStore hs, run_withStore hu, hnames]
  · intro hne a ha
    have hs' : (ctx.withStore s).store.get? profile = some p := hs
    exact ascending_checks_of_run hs' hne ha

/-- One profile is made with three names, one of them twice; the other is given them one by one. -/
theorem run_of_same_names_reordered :
    let first : Draft := .create "p" [⟨"UnicodeCheck", "a"⟩, ⟨"NotACheck", ""⟩, ⟨"EOLCheck", ""⟩,
      ⟨"UnicodeCheck", "b"⟩] .epoch
    let second : Draft := .addValidation (.addValidation (.setValidations
      (.create "p" [⟨"ARKCheck", ""⟩] .epoch) [⟨"EOLCheck", "x"⟩] .epoch)
        "UnicodeCheck" "y" .epoch) "NotACheck" "z" .epoch
    let p : Profile :=
      ⟨"p", .epoch, .ofList [("EOLCheck", ""), ("NotACheck", ""), ("UnicodeCheck", "a")]⟩
    let q : Profile :=
      ⟨"p", .epoch, .ofList [("EOLCheck", "x"), ("NotACheck", "z"), ("UnicodeCheck", "y")]⟩
    let s : Store := ⟨none, [p], .ofList [("p", 0)], .epoch⟩
    let u : Store := ⟨none, [q], .ofList [("p", 0)], .epoch⟩
    let ctx : Context := { store := .empty none .epoch, rules := .builtin }
    let g : Grid := ⟨[["Title\n"], ["a\nb", "\uFFFD"]]⟩
    first.build = .ok p ∧ second.build = .ok q ∧
      (∀ n, n ∈ p.validationNames ↔ n ∈ q.validationNames) ∧
      s.get? "p" = some p ∧ u.get? "p" = some q ∧
      run (ctx.withStore s) "p" g = run (ctx.withStore u) "p" g ∧
      ∃ a, run (ctx.withStore s) "p" g = .ok a ∧
        a.violations.map Violation.location = [⟨0, 0⟩, ⟨1, 0⟩, ⟨1, 1⟩] ∧
        (a.checks.map Kind.name).Pairwise (· < ·) := by
  intro first second p q s u ctx g
  have hfirst : first.build = .ok p := rfl
  have hsecond : second.build = .ok q := rfl
  have hsame : ∀ n, n ∈ p.validationNames ↔ n ∈ q.validationNames := fun _ => Iff.rfl
  have hs : s.get? "p" = some p := rfl
  have hu : u.get? "p" = some q := rfl
  obtain ⟨hrun, -, -, hascending⟩ := run_of_same_names ctx g hfirst hsecond hsame hs hu
  have hnamed : p.validationNames ≠ [] := by decide
  exact ⟨hfirst, hsecond, hsame, hs, hu, hrun, _, rfl, by decide, hascending hnamed _ rfl⟩

end Audit
end MetadataAudit
