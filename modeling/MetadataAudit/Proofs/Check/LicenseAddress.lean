import MetadataAudit.Proofs.Check.License
import MetadataAudit.Proofs.Text.Pattern

/-! # Addresses of licenses

The pattern of addresses nests one repetition in another and goes on with parts that may be left out, so
that most addresses match it in many ways.  But all that may follow the first character of the host is
made of characters of the last part, which may itself be any text of these, so that the parts in between
add nothing (`License.language_rest`): the pattern describes a scheme, a letter or digit, and any text of
such characters.  No page of any other address is opened (`License.opened_is_address`).
-/
namespace MetadataAudit
namespace License

open scoped Computability

variable {c : Char} {cs : List Char} {url profile : String} {l : Location}

/-! ## Characters of addresses -/

/-- A character that may stand behind the host. -/
def IsTailChar (c : Char) : Prop :=
  c.isAlphanum = true ∨ c ∈ "-.?,'/\\+&%$#_=~:;@!*()".toList

theorem isAlphanum_iff_toNat : c.isAlphanum = true ↔
    (48 ≤ c.toNat ∧ c.toNat ≤ 57) ∨ (97 ≤ c.toNat ∧ c.toNat ≤ 122) ∨
      (65 ≤ c.toNat ∧ c.toNat ≤ 90) := by
  delta Char.isAlphanum Char.isAlpha Char.isUpper Char.isLower Char.isDigit
  simp only [Bool.or_eq_true, Bool.and_eq_true, decide_eq_true_eq, ge_iff_le,
    UInt32.le_iff_toNat_le]
  show ((65 ≤ c.toNat ∧ c.toNat ≤ 90) ∨ (97 ≤ c.toNat ∧ c.toNat ≤ 122)) ∨
    (48 ≤ c.toNat ∧ c.toNat ≤ 57) ↔ _
  omega

theorem contains_alphanumeric : alphanumeric.contains c = true ↔ c.isAlphanum = true := by
  simp only [isAlphanum_iff_toNat, alphanumeric, CharClass.contains, Bool.or_eq_true,
    Bool.and_eq_true, decide_eq_true_eq]
  exact Iff.rfl

theorem contains_tailClass : tailClass.contains c = true ↔ IsTailChar c := by
  rw [tailClass, CharClass.contains_adding, contains_alphanumeric, IsTailChar]

theorem isTailChar_of_hostClass (h : hostClass.contains c = true) : IsTailChar c := by
  rcases CharClass.contains_adding.mp h with halphanumeric | hmem
  · exact Or.inl (contains_alphanumeric.mp halphanumeric)
  · have hall : ∀ d ∈ "-._".toList, d ∈ "-.?,'/\\+&%$#_=~:;@!*()".toList := by simp
    exact Or.inr (hall c hmem)

theorem isTailChar_of_digit (h : (CharClass.range '0' '9').contains c = true) : IsTailChar c :=
  Or.inl (contains_alphanumeric.mp (Bool.or_eq_true_iff.mpr (Or.inl h)))

/-- What is never part of an address. -/
theorem IsTailChar.plain (h : IsTailChar c) :
    c.toNat < 128 ∧ Text.isBlankChar c = false ∧ c ∉ "\"<>[]".toList := by
  rcases h with halphanum | hmem
  · rw [isAlphanum_iff_toNat] at halphanum
    refine ⟨by omega, ?_, ?_⟩
    · rw [Bool.eq_false_iff]
      intro hblank
      simp only [Text.isBlankChar, Text.blankRanges, List.any_cons, List.any_nil, Bool.or_eq_true,
        Bool.and_eq_true, decide_eq_true_eq, Bool.or_false] at hblank
      omega
    · intro hmem
      have hall : ∀ d ∈ "\"<>[]".toList, d.isAlphanum = false := by simp
      have hnot := hall c hmem
      rw [Bool.eq_false_iff] at hnot
      exact hnot (isAlphanum_iff_toNat.mpr halphanum)
  · have hall : ("-.?,'/\\+&%$#_=~:;@!*()".toList.all fun d =>
        d.toNat < 128 ∧ Text.isBlankChar d = false ∧ d ∉ "\"<>[]".toList) = true := by decide
    simpa using List.all_eq_true.mp hall c hmem

/-! ## The language of the pattern -/

/-- The texts of characters that may stand behind the host. -/
abbrev tailTexts : Language Char := tailClass.language∗

theorem mul_le_tailTexts {L M : Language Char} (hL : L ≤ tailTexts) (hM : M ≤ tailTexts) :
    L * M ≤ tailTexts := by
  calc L * M ≤ tailTexts * tailTexts := mul_le_mul' hL hM
    _ = tailTexts := kstar_mul_kstar tailClass.language

theorem language_one_le_tailTexts {k : CharClass}
    (h : ∀ c, k.contains c = true → IsTailChar c) : k.language ≤ tailTexts :=
  (CharClass.language_mono fun c hc => contains_tailClass.mpr (h c hc)).trans le_kstar

theorem kstar_le_tailTexts {L : Language Char} (h : L ≤ tailTexts) : L∗ ≤ tailTexts := by
  calc L∗ ≤ tailTexts∗ := kstar_mono h
    _ = tailTexts := kstar_idem tailClass.language

theorem optional_le_tailTexts {L : Language Char} (h : L ≤ tailTexts) : L + 1 ≤ tailTexts :=
  add_le h one_le_kstar

theorem language_host_le : host.language ≤ tailTexts := by
  have hrun : hostClass.language∗ ≤ tailTexts :=
    kstar_le_tailTexts (language_one_le_tailTexts fun c hc => isTailChar_of_hostClass hc)
  have hlast : alphanumeric.language ≤ tailTexts :=
    language_one_le_tailTexts fun c hc => Or.inl (contains_alphanumeric.mp hc)
  exact kstar_le_tailTexts (mul_le_tailTexts hrun hlast)

theorem language_port_le : port.language ≤ tailTexts := by
  have hcolon : (CharClass.only ':').language ≤ tailTexts := by
    refine language_one_le_tailTexts fun c hc => ?_
    rw [CharClass.contains_only.mp hc]
    exact Or.inr (by decide)
  have hdigit : (CharClass.range '0' '9').language ≤ tailTexts :=
    language_one_le_tailTexts fun c hc => isTailChar_of_digit hc
  have hdigits := mul_le_tailTexts hdigit (kstar_le_tailTexts hdigit)
  exact optional_le_tailTexts (mul_le_tailTexts hcolon hdigits)

theorem language_slash_le : slash.language ≤ tailTexts := by
  refine optional_le_tailTexts (language_one_le_tailTexts fun c hc => ?_)
  rw [CharClass.contains_only.mp hc]
  exact Or.inr (by decide)

/-- **Behind the first character of the host** stands any text of characters of the last part. -/
theorem language_rest :
    (Pattern.followed host (.followed port (.followed slash tail))).language = tailTexts := by
  have htail : tail.language = tailTexts + 1 := rfl
  show host.language * (port.language * (slash.language * tail.language)) = tailTexts
  refine le_antisymm ?_ ?_
  · have hlast : tail.language ≤ tailTexts := optional_le_tailTexts le_rfl
    exact mul_le_tailTexts language_host_le
      (mul_le_tailTexts language_port_le (mul_le_tailTexts language_slash_le hlast))
  · -- all parts but the last may be left out
    have hhost : (1 : Language Char) ≤ host.language := one_le_kstar
    have hport : (1 : Language Char) ≤ port.language := le_add_self
    have hslash : (1 : Language Char) ≤ slash.language := le_add_self
    calc tailTexts = 1 * (1 * (1 * tailTexts)) := by simp only [one_mul]
      _ ≤ host.language * (port.language * (slash.language * tail.language)) :=
        mul_le_mul' hhost (mul_le_mul' hport (mul_le_mul' hslash (htail ▸ le_self_add)))

theorem mem_language_scheme_iff :
    cs ∈ scheme.language ↔ cs = "http://".toList ∨ cs = "https://".toList := by
  have hparts : scheme.language = (Pattern.exactly "http".toList).language *
      (((CharClass.only 's').language + 1) * (Pattern.exactly "://".toList).language) := rfl
  rw [hparts, Language.mem_mul]
  simp only [Language.mem_mul, Language.mem_add, Pattern.mem_language_exactly]
  constructor
  · rintro ⟨_, rfl, _, ⟨u, ⟨c, hc, rfl⟩ | hu, _, rfl, rfl⟩, rfl⟩
    · rw [CharClass.contains_only.mp hc]
      exact Or.inr rfl
    · rw [(Language.mem_one u).mp hu]
      exact Or.inl rfl
  · rintro (rfl | rfl)
    · exact ⟨_, rfl, _, ⟨[], Or.inr Language.nil_mem_one, _, rfl, rfl⟩, rfl⟩
    · exact ⟨_, rfl, _, ⟨['s'], Or.inl ⟨'s', CharClass.contains_only.mpr rfl, rfl⟩, _, rfl, rfl⟩, rfl⟩

/-- A scheme, a letter or digit, and characters that may stand behind the host. -/
def IsPlainAddress (cs : List Char) : Prop :=
  ∃ scheme ∈ ["http://", "https://"], ∃ c rest, cs = scheme.toList ++ c :: rest ∧
    c.isAlphanum = true ∧ ∀ d ∈ rest, IsTailChar d

/-- **The pattern of addresses describes plain addresses.** -/
theorem mem_language_address_iff : cs ∈ address.language ↔ IsPlainAddress cs := by
  have hparts : address.language = scheme.language * (alphanumeric.language *
      (Pattern.followed host (.followed port (.followed slash tail))).language) := rfl
  rw [hparts, language_rest, Language.mem_mul]
  simp only [Language.mem_mul, mem_language_scheme_iff, CharClass.mem_kstar_language_iff,
    contains_tailClass]
  constructor
  · rintro ⟨u, hu, _, ⟨_, ⟨c, hc, rfl⟩, rest, hrest, rfl⟩, rfl⟩
    have hfirst := contains_alphanumeric.mp hc
    rcases hu with rfl | rfl
    · exact ⟨"http://", by decide, c, rest, rfl, hfirst, hrest⟩
    · exact ⟨"https://", by decide, c, rest, rfl, hfirst, hrest⟩
  · rintro ⟨s, hs, c, rest, rfl, hc, hrest⟩
    refine ⟨s.toList, ?_, c :: rest,
      ⟨[c], ⟨c, contains_alphanumeric.mpr hc, rfl⟩, rest, hrest, rfl⟩, rfl⟩
    rcases List.mem_cons.mp hs with rfl | hs
    · exact Or.inl rfl
    · rw [List.mem_singleton.mp hs]
      exact Or.inr rfl

theorem isAddress_iff_mem_language : isAddress cs = true ↔ cs ∈ address.language :=
  Pattern.matchesAny_anchored rfl

theorem IsPlainAddress.isTailChar (h : IsPlainAddress cs) : ∀ c ∈ cs, IsTailChar c := by
  obtain ⟨s, hs, c, rest, rfl, hc, hrest⟩ := h
  have hscheme : ∀ s ∈ ["http://", "https://"], ∀ d ∈ s.toList,
      d.isAlphanum = true ∨ d ∈ "-.?,'/\\+&%$#_=~:;@!*()".toList := by simp
  intro d hd
  rcases List.mem_append.mp hd with hd | hd
  · exact hscheme s hs d hd
  · rcases List.mem_cons.mp hd with rfl | hd
    · exact Or.inl hc
    · exact hrest d hd

/-! ## Pages that are opened -/

theorem isAddress_of_mem_fetched {rules : Rulebook} {fetch : Fetch} {seen : Seen} {o : Offer}
    (h : url ∈ (check rules fetch seen o.profile o.location o.grid).1.fetched) :
    isAddress url.toList = true := by
  cases hasked : asked? rules o with
  | none =>
    rw [(unchanged_of_not_asked hasked fetch seen).1] at h
    cases h
  | some other =>
    rw [check_of_asked hasked] at h
    split at h
    · cases h
    · split at h
      · cases h
      · -- the address is judged for the first time
        by_cases hgood : Good fetch other
        · rw [(judge_of_good hgood seen o.location o.profile).2.1, List.mem_singleton] at h
          rw [h]
          exact hgood.1
        · rw [(judge_of_not_good hgood seen o.location o.profile).2.1] at h
          obtain ⟨haddress, hmem⟩ := List.mem_ite_nil_right.mp h
          rw [List.mem_singleton.mp hmem]
          exact haddress

/-- **Addresses of pages.** -/
theorem opened_is_address (url : String) :
    (url.toList ∈ address.language ↔ IsPlainAddress url.toList) ∧
    (isAddress url.toList = true ↔ url.toList ∈ address.language) ∧
    ∀ ctx memo o, url ∈ (Kind.license.offer ctx memo o).1.fetched →
      url.toList ∈ address.language ∧
        ∀ c ∈ url.toList, c.toNat < 128 ∧ Text.isBlankChar c = false ∧ c ∉ "\"<>[]".toList := by
  refine ⟨mem_language_address_iff, isAddress_iff_mem_language, ?_⟩
  intro ctx memo o hfetched
  have haddress := isAddress_iff_mem_language.mp (isAddress_of_mem_fetched hfetched)
  refine ⟨haddress, fun c hc => ?_⟩
  exact ((mem_language_address_iff.mp haddress).isTailChar c hc).plain

end License
end MetadataAudit
