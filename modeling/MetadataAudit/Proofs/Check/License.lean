import MetadataAudit.Proofs.Check.Scan
import MetadataAudit.Proofs.Dictionary

/-! # Licenses over a run

An offer asks about an address when its cell is a data cell under the field of licenses, holds more
than blanks, and the profile is not exempt (`License.asked?`).  Over a run the check remembers exactly
the addresses it was asked about, the good ones apart from the others (`License.remembers_answers`).
So every page is opened at most once, when its address first comes up, and what is reported of an
address depends on nothing of the past but whether it came up before
(`License.fetches_and_reports_of_run`).
-/
namespace MetadataAudit

namespace License

variable {rules : Rulebook} {fetch : Fetch} {seen : Seen} {past : List String}
  {url profile : String} {l : Location} {o : Offer}

/-- The address that an offer asks about, if it asks about any. -/
def asked? (rules : Rulebook) (o : Offer) : Option String :=
  if o.location.row ≠ 0 ∧ o.grid.headers[o.location.col]? = some Field.license ∧
      rules.licenseExempt o.profile = false then
    (o.grid.get? o.location).filter fun url => !Text.isBlank url
  else none

theorem asked?_eq_some_iff : asked? rules o = some url ↔
    o.grid.get? o.location = some url ∧ o.location.row ≠ 0 ∧
      o.grid.headers[o.location.col]? = some Field.license ∧ Text.isBlank url = false ∧
        rules.licenseExempt o.profile = false := by
  rw [asked?]
  split
  · rename_i hdata
    simp [Option.filter_eq_some_iff, hdata.1, hdata.2.1, hdata.2.2]
  · rename_i hdata
    simp only [reduceCtorEq, false_iff]
    rintro ⟨-, hrow, hfield, -, hexempt⟩
    exact hdata ⟨hrow, hfield, hexempt⟩

/-- An address of a page that is there and holds more than blanks. -/
def Good (fetch : Fetch) (url : String) : Prop :=
  isAddress url.toList = true ∧ fetch url = .ok .content

/-- What is reported of an address that is not good when it first comes up. -/
inductive FirstReport (fetch : Fetch) (url : String) (l : Location) (profile : String) :
    Violation → Prop where
  | malformed (h : isAddress url.toList = false) :
    FirstReport fetch url l profile (.ofProblem .urlMalformed l profile)
  | blank (h : isAddress url.toList = true) (hpage : fetch url = .ok .blank) :
    FirstReport fetch url l profile (.ofProblem .urlBlank l profile)
  | unreadable (h : isAddress url.toList = true) {page : String}
    (hpage : fetch url = .error (.read page)) :
    FirstReport fetch url l profile
      ((Violation.ofProblem .urlUnreadable l profile).causedByText (FetchError.read page).message)
  | unreachable (h : isAddress url.toList = true) {e : FetchError} (hpage : fetch url = .error e)
    (hread : ∀ page, e ≠ .read page) :
    FirstReport fetch url l profile
      ((Violation.ofProblem .urlUnreachable l profile).causedByText e.message)

/-- What comes of an offer that asks about an address, when those of `past` came up before. -/
structure Answered (fetch : Fetch) (past : List String) (url : String) (l : Location)
    (profile : String) (outcome : Outcome) : Prop where
  clean : outcome.violations = [] ↔ Good fetch url
  first : ¬ Good fetch url → url ∉ past →
    ∃ v, FirstReport fetch url l profile v ∧ outcome.violations = [v]
  again : ¬ Good fetch url → url ∈ past →
    outcome.violations = [.ofProblem .urlKnownBad l profile]
  fetched : outcome.fetched = if url ∉ past ∧ isAddress url.toList = true then [url] else []

/-- What is remembered are the addresses that came up, the good ones apart from the others. -/
structure Remembers (fetch : Fetch) (past : List String) (seen : Seen) : Prop where
  good : ∀ url, url ∈ seen.good ↔ url ∈ past ∧ Good fetch url
  bad : ∀ url, url ∈ seen.bad ↔ url ∈ past ∧ ¬ Good fetch url

/-! ## One offer -/

theorem check_of_asked (h : asked? rules o = some url) (fetch : Fetch) (seen : Seen) :
    check rules fetch seen o.profile o.location o.grid =
      if seen.good.contains url then (.clean, seen)
      else if seen.bad.contains url then (.reject .urlKnownBad o.location o.profile, seen)
      else judge fetch seen url o.location o.profile := by
  obtain ⟨hget, hrow, hfield, hblank, hexempt⟩ := asked?_eq_some_iff.mp h
  rw [check, Grid.dataCell_of_get? hget, if_pos ⟨hrow, hfield⟩]
  simp only [hblank, hexempt, Bool.or_self, Bool.false_eq_true, if_false]

/-- A cell that asks about nothing is passed over. -/
theorem check_of_not_asked (h : asked? rules o = none) {value : String}
    (hget : o.grid.get? o.location = some value) (fetch : Fetch) (seen : Seen) :
    check rules fetch seen o.profile o.location o.grid = (.clean, seen) := by
  rw [check, Grid.dataCell_of_get? hget]
  by_cases hdata : o.location.row ≠ 0 ∧ o.grid.headers[o.location.col]? = some Field.license
  · rw [if_pos hdata]
    -- it is data of the field, so it is blank or nobody asks for it
    have hpassed : (Text.isBlank value || rules.licenseExempt o.profile) = true := by
      by_contra hjudged
      rw [Bool.not_eq_true, Bool.or_eq_false_iff] at hjudged
      have hasked := asked?_eq_some_iff.mpr ⟨hget, hdata.1, hdata.2, hjudged⟩
      rw [h] at hasked
      cases hasked
    simp only [hpassed, if_true]
  · rw [if_neg hdata]

/-- Where nothing is asked about, no page is opened and nothing is remembered. -/
theorem unchanged_of_not_asked (h : asked? rules o = none) (fetch : Fetch) (seen : Seen) :
    (check rules fetch seen o.profile o.location o.grid).1.fetched = [] ∧
      (check rules fetch seen o.profile o.location o.grid).2 = seen := by
  cases hget : o.grid.get? o.location with
  | some value =>
    rw [check_of_not_asked h hget]
    exact ⟨rfl, rfl⟩
  | none =>
    obtain ⟨v, hv, -⟩ := Grid.exists_check_eq_error hget o.profile
    rw [check, Grid.dataCell_of_check_eq_error hv]
    exact ⟨rfl, rfl⟩

theorem verdict_eq_none_iff {result : Except FetchError Page} :
    verdict result l profile = none ↔ result = .ok .content := by
  cases result with
  | error e => simp [verdict]
  | ok page => cases page <;> simp [verdict]

theorem judge_of_good (h : Good fetch url) (seen : Seen) (l : Location) (profile : String) :
    (judge fetch seen url l profile).1.violations = [] ∧
      (judge fetch seen url l profile).1.fetched = [url] ∧
        (judge fetch seen url l profile).2 = { seen with good := url :: seen.good } := by
  have hverdict : verdict (fetch url) l profile = none := verdict_eq_none_iff.mpr h.2
  simp only [judge, h.1, if_true, hverdict, and_self]

theorem judge_of_not_good (h : ¬ Good fetch url) (seen : Seen) (l : Location)
    (profile : String) :
    (∃ v, FirstReport fetch url l profile v ∧
      (judge fetch seen url l profile).1.violations = [v]) ∧
      (judge fetch seen url l profile).1.fetched =
        (if isAddress url.toList = true then [url] else []) ∧
          (judge fetch seen url l profile).2 = { seen with bad := url :: seen.bad } := by
  cases haddress : isAddress url.toList with
  | false =>
    simp only [judge, haddress, Bool.false_eq_true, if_false, and_true]
    exact ⟨_, .malformed haddress, rfl⟩
  | true =>
    -- the page is opened, and what comes of that is anything but a page with content
    cases hpage : fetch url with
    | ok page =>
      cases page with
      | content => exact absurd ⟨haddress, hpage⟩ h
      | blank =>
        simp only [judge, haddress, if_true, hpage, verdict, and_true]
        exact ⟨_, .blank haddress hpage, rfl⟩
    | error e =>
      simp only [judge, haddress, if_true, hpage, verdict, and_true]
      cases e with
      | read page => exact ⟨_, .unreadable haddress hpage, rfl⟩
      | client => exact ⟨_, .unreachable haddress hpage (by simp), rfl⟩
      | connect page => exact ⟨_, .unreachable haddress hpage (by simp), rfl⟩
      | timeout page nanos => exact ⟨_, .unreachable haddress hpage (by simp), rfl⟩

/-! ## What is remembered -/

theorem Remembers.empty (fetch : Fetch) : Remembers fetch [] {} where
  good url := by simp
  bad url := by simp

/-- An address that came up before is remembered already. -/
theorem Remembers.again (hs : Remembers fetch past seen) (h : url ∈ past) :
    Remembers fetch (past ++ [url]) seen where
  good other := by grind [hs.good other]
  bad other := by grind [hs.bad other]

theorem Remembers.good_cons (hs : Remembers fetch past seen) (h : Good fetch url) :
    Remembers fetch (past ++ [url]) { seen with good := url :: seen.good } where
  good other := by grind [hs.good other]
  bad other := by grind [hs.bad other]

theorem Remembers.bad_cons (hs : Remembers fetch past seen) (h : ¬ Good fetch url) :
    Remembers fetch (past ++ [url]) { seen with bad := url :: seen.bad } where
  good other := by grind [hs.good other]
  bad other := by grind [hs.bad other]

/-- **One offer that asks about an address** is answered as the addresses that came up before
demand, and its address is remembered with them. -/
theorem answered_of_asked (hs : Remembers fetch past seen) (h : asked? rules o = some url) :
    Answered fetch past url o.location o.profile
        (check rules fetch seen o.profile o.location o.grid).1 ∧
      Remembers fetch (past ++ [url]) (check rules fetch seen o.profile o.location o.grid).2 := by
  rw [check_of_asked h]
  by_cases hgood : Good fetch url
  · by_cases hpast : url ∈ past
    · have hknown : seen.good.contains url = true :=
        List.contains_iff_mem.mpr ((hs.good url).mpr ⟨hpast, hgood⟩)
      rw [if_pos hknown]
      refine ⟨⟨by simp [Outcome.clean, hgood], absurd hgood, absurd hgood, ?_⟩, hs.again hpast⟩
      simp [Outcome.clean, hpast]
    · have hnew : ¬ seen.good.contains url = true := fun hc =>
        hpast ((hs.good url).mp (List.contains_iff_mem.mp hc)).1
      have hnotBad : ¬ seen.bad.contains url = true := fun hc =>
        hpast ((hs.bad url).mp (List.contains_iff_mem.mp hc)).1
      obtain ⟨hviolations, hfetched, hseen⟩ := judge_of_good hgood seen o.location o.profile
      rw [if_neg hnew, if_neg hnotBad, hseen]
      refine ⟨⟨by simp [hviolations, hgood], absurd hgood, absurd hgood, ?_⟩, hs.good_cons hgood⟩
      simp [hfetched, hpast, hgood.1]
  · have hnotGood : ¬ seen.good.contains url = true := fun hc =>
      hgood ((hs.good url).mp (List.contains_iff_mem.mp hc)).2
    rw [if_neg hnotGood]
    by_cases hpast : url ∈ past
    · have hknown : seen.bad.contains url = true :=
        List.contains_iff_mem.mpr ((hs.bad url).mpr ⟨hpast, hgood⟩)
      rw [if_pos hknown]
      refine ⟨⟨?_, fun _ hnew => absurd hpast hnew, fun _ _ => rfl, ?_⟩, hs.again hpast⟩
      · simp [Outcome.reject, Outcome.violation, hgood]
      · simp [Outcome.reject, Outcome.violation, hpast]
    · have hnew : ¬ seen.bad.contains url = true := fun hc =>
        hpast ((hs.bad url).mp (List.contains_iff_mem.mp hc)).1
      obtain ⟨⟨v, hv, hviolations⟩, hfetched, hseen⟩ :=
        judge_of_not_good hgood seen o.location o.profile
      rw [if_neg hnew, hseen]
      refine ⟨⟨by simp [hviolations, hgood], fun _ _ => ⟨v, hv, hviolations⟩,
        fun _ hold => absurd hold hpast, ?_⟩, hs.bad_cons hgood⟩
      simp [hfetched, hpast]

/-! ## A run of offers -/

/-- What one check of licenses answers to offers, and what it remembers of them in the end. -/
def answers (ctx : Context) (fetch : Fetch) (os : List Offer) : List Outcome × Memo :=
  Kind.license.offerAll { ctx with fetch := some fetch } {} os

/-- The addresses that come up in offers, in order. -/
def askedAll (ctx : Context) (os : List Offer) : List String :=
  os.filterMap (asked? ctx.rules)

/-- What comes of an offer that is made after others, and what is remembered then. -/
def answerAfter (ctx : Context) (fetch : Fetch) (before : List Offer) (o : Offer) :
    Outcome × Seen :=
  check ctx.rules fetch (answers ctx fetch before).2.seen o.profile o.location o.grid

theorem answers_append_singleton (ctx : Context) (fetch : Fetch) (os : List Offer) (o : Offer) :
    answers ctx fetch (os ++ [o]) =
      ((answers ctx fetch os).1 ++ [(answerAfter ctx fetch os o).1],
        { (answers ctx fetch os).2 with seen := (answerAfter ctx fetch os o).2 }) :=
  Kind.license.offerAll_append_singleton _ _ os o

theorem askedAll_append_singleton (ctx : Context) (os : List Offer) (o : Offer) :
    askedAll ctx (os ++ [o]) = askedAll ctx os ++ (asked? ctx.rules o).toList := by
  rw [askedAll, List.filterMap_append]
  cases h : asked? ctx.rules o <;> simp [askedAll, h]

theorem getElem?_answers (ctx : Context) (fetch : Fetch) (before : List Offer) (o : Offer)
    (after : List Offer) :
    (answers ctx fetch (before ++ o :: after)).1[before.length]? =
      some (answerAfter ctx fetch before o).1 :=
  Kind.license.getElem?_offerAll _ _ before o after

/-- **A run remembers what came up in it.** -/
theorem remembers_answers (ctx : Context) (fetch : Fetch) (os : List Offer) :
    Remembers fetch (askedAll ctx os) (answers ctx fetch os).2.seen := by
  induction os using List.reverseRecOn with
  | nil => exact .empty fetch
  | append_singleton os o ih =>
    rw [answers_append_singleton, askedAll_append_singleton]
    cases h : asked? ctx.rules o with
    | none =>
      rw [Option.toList_none, List.append_nil, answerAfter, (unchanged_of_not_asked h fetch _).2]
      exact ih
    | some url => exact (answered_of_asked ih h).2

/-- **The pages that a run opens** are those of the addresses that come up in it, each once and in
the order in which they first come up. -/
theorem fetched_answers (ctx : Context) (fetch : Fetch) (os : List Offer) :
    (Outcome.join (answers ctx fetch os).1).fetched =
      ((askedAll ctx os).filter fun url => isAddress url.toList).eraseDups := by
  induction os using List.reverseRecOn with
  | nil => rfl
  | append_singleton os o ih =>
    have hlast : (Outcome.join (answers ctx fetch (os ++ [o])).1).fetched =
        (Outcome.join (answers ctx fetch os).1).fetched ++
          (answerAfter ctx fetch os o).1.fetched := by
      rw [answers_append_singleton]
      simp
    rw [hlast, ih, askedAll_append_singleton]
    cases h : asked? ctx.rules o with
    | none =>
      rw [answerAfter, (unchanged_of_not_asked h fetch _).1]
      simp
    | some url =>
      have hanswer := (answered_of_asked (remembers_answers ctx fetch os) h).1.fetched
      rw [answerAfter, hanswer, Option.toList_some, List.filter_append, List.eraseDups_append]
      -- the address is opened now exactly if it is not among those that were opened before
      cases haddress : isAddress url.toList with
      | false => simp [haddress]
      | true =>
        by_cases hpast : url ∈ askedAll ctx os <;>
          simp [haddress, hpast, List.removeAll, List.eraseDups_cons]

/-- **Licenses over a whole run.**  The pages that are opened are those of the addresses that come up,
each once and in the order in which they first come up.  What comes of an offer depends on whether it
asks about an address and on the addresses that came up before it; an offer of a cell that asks about
none is passed over and changes nothing. -/
theorem fetches_and_reports_of_run (ctx : Context) (fetch : Fetch) (os : List Offer) :
    (Outcome.join (answers ctx fetch os).1).fetched =
        ((askedAll ctx os).filter fun url => isAddress url.toList).eraseDups ∧
      (Outcome.join (answers ctx fetch os).1).fetched.Nodup ∧
      ∀ before o after, os = before ++ o :: after → ∃ outcome,
        (answers ctx fetch os).1[before.length]? = some outcome ∧
        (∀ url, asked? ctx.rules o = some url →
          Answered fetch (askedAll ctx before) url o.location o.profile outcome) ∧
        (asked? ctx.rules o = none → (∃ value, o.grid.get? o.location = some value) →
          outcome.violations = [] ∧ outcome.fetched = [] ∧
            (answers ctx fetch (before ++ [o])).2 = (answers ctx fetch before).2) := by
  refine ⟨fetched_answers ctx fetch os, ?_, ?_⟩
  · rw [fetched_answers]
    exact nodup_eraseDups _
  · rintro before o after rfl
    refine ⟨_, getElem?_answers ctx fetch before o after, fun url h => ?_, ?_⟩
    · exact (answered_of_asked (remembers_answers ctx fetch before) h).1
    · rintro h ⟨value, hget⟩
      have hanswer : answerAfter ctx fetch before o =
          (.clean, (answers ctx fetch before).2.seen) := check_of_not_asked h hget _ _
      rw [answers_append_singleton, hanswer]
      exact ⟨rfl, rfl, rfl⟩

end License
end MetadataAudit
