import MetadataAudit.Check.Kind
import MetadataAudit.Proofs.Check.Offer
import MetadataAudit.Proofs.Text.Span

/-! # Keys that are passed

A key is spelled as scheme, authority, slash, object and qualifier (`Ark.IsKey`).  The check of keys
passes every key, and besides any text that only lacks the slash after the digits of its authority
(`Ark.RunsOn`); nothing else is passed (`Ark.passed_iff`).
-/
namespace MetadataAudit
namespace Ark

variable {rules : Rulebook} {profile : String} {separator text naan obj qualifier rest : List Char}

/-- Nothing, or a question mark and the text of one line. -/
def IsQualifier (cs : List Char) : Prop := cs = [] ∨ ∃ line, cs = '?' :: line ∧ '\n' ∉ line

/-- A text is spelled as scheme, authority, separator, object and qualifier. -/
structure Spells (rules : Rulebook) (profile : String)
    (separator text naan obj qualifier : List Char) : Prop where
  text_eq : text = "ark:/".toList ++ (naan ++ (separator ++ (obj ++ qualifier)))
  digits : ∀ c ∈ naan, c.isDigit = true
  enough : 5 ≤ naan.length
  allowed : rules.naanAllowed profile (String.ofList naan) = true
  object_ne_nil : obj ≠ []
  object_chars : ∀ c ∈ obj, c.isAlphanum = true ∨ c ∈ ['_', '-', '.', '/']
  qualified : IsQualifier qualifier

/-- A text is a key that a profile may use. -/
def IsKey (rules : Rulebook) (profile : String) (text : List Char) : Prop :=
  ∃ naan obj qualifier, Spells rules profile ['/'] text naan obj qualifier

/-- A text would be a key that a profile may use if there were a slash after the digits of its
authority. -/
def RunsOn (rules : Rulebook) (profile : String) (text : List Char) : Prop :=
  ∃ naan obj qualifier, Spells rules profile [] text naan obj qualifier ∧
    ∀ c ∈ obj.head?, c.isDigit = false ∧ c ≠ '/'

/-! ## Objects and their qualifiers -/

theorem isObjectChar_iff {c : Char} :
    isObjectChar c = true ↔ c.isAlphanum = true ∨ c ∈ ['_', '-', '.', '/'] := by
  simp [isObjectChar, or_assoc]

/-- A qualifier begins where the characters of objects end. -/
theorem head_qualifier (h : IsQualifier qualifier) :
    ∀ c ∈ qualifier.head?, isObjectChar c = false := by
  rcases h with rfl | ⟨line, rfl, -⟩
  · simp
  · rintro c hc
    cases hc
    decide

/-- An object identifier is an object, and a qualifier if need be. -/
theorem isObjectId_iff {cs : List Char} : isObjectId cs = true ↔
    ∃ obj qualifier, cs = obj ++ qualifier ∧ obj ≠ [] ∧ (∀ c ∈ obj, isObjectChar c = true) ∧
      IsQualifier qualifier := by
  constructor
  · intro h
    refine ⟨cs.takeWhile isObjectChar, cs.dropWhile isObjectChar,
      List.takeWhile_append_dropWhile.symm, ?_, fun c hc => List.mem_takeWhile_imp hc, ?_⟩
    · cases cs with
      | nil => cases h
      | cons c cs =>
        have hc : isObjectChar c = true := by
          by_contra hc
          rw [isObjectId, List.dropWhile_cons_of_neg hc] at h
          simp [hc] at h
        simp [List.takeWhile_cons_of_pos hc]
    · rw [isObjectId] at h
      split at h
      · rename_i hdrop
        exact Or.inl hdrop
      · rename_i c line hdrop
        simp only [Bool.and_eq_true, decide_eq_true_eq, Bool.not_eq_true',
          List.contains_eq_mem, decide_eq_false_iff_not] at h
        exact Or.inr ⟨line, by rw [hdrop, h.1.2], h.2⟩
  · rintro ⟨obj, qualifier, rfl, hne, hchars, hqualifier⟩
    rw [isObjectId, Text.dropWhile_span hchars (head_qualifier hqualifier)]
    obtain ⟨c, rest, rfl⟩ := List.exists_cons_of_ne_nil hne
    rcases hqualifier with rfl | ⟨line, rfl, hline⟩
    · rfl
    · simp [hchars c List.mem_cons_self, hline]

/-! ## Where the authority ends -/

theorem authority_append (hdigits : ∀ c ∈ naan, c.isDigit = true)
    (hrest : ∀ c ∈ rest.head?, c.isDigit = false) : authority (naan ++ rest) = naan :=
  Text.takeWhile_span hdigits hrest

/-- The digits of an authority end before a slash. -/
theorem head_slash (rest : List Char) : ∀ c ∈ ('/' :: rest).head?, c.isDigit = false := by
  rintro c hc
  cases hc
  decide

theorem object_append_slash (hdigits : ∀ c ∈ naan, c.isDigit = true) :
    object (naan ++ '/' :: rest) = rest := by
  rw [object, Text.dropWhile_span hdigits (head_slash rest)]
  rfl

/-- The slash need not be there. -/
theorem object_append (hdigits : ∀ c ∈ naan, c.isDigit = true)
    (hrest : ∀ c ∈ rest.head?, c.isDigit = false ∧ c ≠ '/') : object (naan ++ rest) = rest := by
  rw [object, Text.dropWhile_span hdigits fun c hc => (hrest c hc).1]
  split
  · exact absurd rfl (hrest '/' rfl).2
  · rfl

/-- An object begins after a slash, or where the digits of the authority end. -/
theorem dropWhile_isDigit (body : List Char) :
    body.dropWhile Char.isDigit = '/' :: object body ∨
      (body.dropWhile Char.isDigit = object body ∧
        ∀ c ∈ (object body).head?, c.isDigit = false ∧ c ≠ '/') := by
  have hstop := Text.head_dropWhile_span Char.isDigit body
  rw [object]
  split
  · rename_i rest h
    exact Or.inl h
  · rename_i hslash
    refine Or.inr ⟨rfl, fun c hc => ⟨hstop c hc, ?_⟩⟩
    rintro rfl
    obtain ⟨rest, hrest⟩ := List.head?_eq_some_iff.mp hc
    exact hslash rest hrest

/-! ## Problems of a key -/

theorem problems_eq_nil_iff : problems rules profile text = [] ↔
    ∃ body, text = scheme ++ body ∧ minDigits ≤ (authority body).length ∧
      rules.naanAllowed profile (String.ofList (authority body)) = true ∧
        isObjectId (object body) = true := by
  rw [problems]
  split
  · rename_i hscheme
    obtain ⟨body, rfl⟩ := List.isPrefixOf_iff_prefix.mp hscheme
    have hempty : (object body).isEmpty = true → isObjectId (object body) = false := by
      intro hnil
      rw [List.isEmpty_iff.mp hnil]
      rfl
    simp only [List.drop_left, List.append_eq_nil_iff, List.append_cancel_left_eq, exists_eq_left']
    grind
  · rename_i hscheme
    simp only [List.cons_ne_nil, false_iff]
    rintro ⟨body, rfl, -⟩
    exact hscheme (List.isPrefixOf_iff_prefix.mpr ⟨body, rfl⟩)

theorem problems_of_spells (h : Spells rules profile separator text naan obj qualifier)
    (hstop : ∀ c ∈ (separator ++ (obj ++ qualifier)).head?, c.isDigit = false)
    (hobject : object (naan ++ (separator ++ (obj ++ qualifier))) = obj ++ qualifier) :
    problems rules profile text = [] := by
  refine problems_eq_nil_iff.mpr ⟨_, h.text_eq, ?_, ?_, ?_⟩
  · rw [authority_append h.digits hstop]
    exact h.enough
  · rw [authority_append h.digits hstop]
    exact h.allowed
  · rw [hobject]
    exact isObjectId_iff.mpr ⟨obj, qualifier, rfl, h.object_ne_nil,
      fun c hc => isObjectChar_iff.mpr (h.object_chars c hc), h.qualified⟩

/-- The first character of an object is the first of what it begins. -/
theorem head?_append_qualifier (h : obj ≠ []) (qualifier : List Char) :
    (obj ++ qualifier).head? = obj.head? := by
  obtain ⟨c, cs, rfl⟩ := List.exists_cons_of_ne_nil h
  rfl

/-- **A text without problems** is a key, or lacks no more than a slash for being one. -/
theorem problems_eq_nil_iff_spelled :
    problems rules profile text = [] ↔ IsKey rules profile text ∨ RunsOn rules profile text := by
  constructor
  · intro h
    obtain ⟨body, rfl, henough, hallowed, hid⟩ := problems_eq_nil_iff.mp h
    obtain ⟨obj, qualifier, hobject, hne, hchars, hqualifier⟩ := isObjectId_iff.mp hid
    have hbody : authority body ++ body.dropWhile Char.isDigit = body :=
      List.takeWhile_append_dropWhile
    have hdigits : ∀ c ∈ authority body, c.isDigit = true := fun c hc => List.mem_takeWhile_imp hc
    have hspelled : ∀ c ∈ obj, c.isAlphanum = true ∨ c ∈ ['_', '-', '.', '/'] :=
      fun c hc => isObjectChar_iff.mp (hchars c hc)
    rcases dropWhile_isDigit body with hslash | ⟨hnone, hhead⟩
    · refine Or.inl ⟨authority body, obj, qualifier, ?_, hdigits, henough, hallowed, hne, hspelled,
        hqualifier⟩
      rw [← hobject, List.singleton_append, ← hslash, hbody]
      rfl
    · refine Or.inr ⟨authority body, obj, qualifier,
        ⟨?_, hdigits, henough, hallowed, hne, hspelled, hqualifier⟩, ?_⟩
      · rw [← hobject, List.nil_append, ← hnone, hbody]
        rfl
      · rw [hobject, head?_append_qualifier hne] at hhead
        exact hhead
  · rintro (⟨naan, obj, qualifier, h⟩ | ⟨naan, obj, qualifier, h, hhead⟩)
    · exact problems_of_spells h (head_slash _) (object_append_slash h.digits)
    · rw [← head?_append_qualifier h.object_ne_nil qualifier] at hhead
      exact problems_of_spells h (fun c hc => (hhead c hc).1) (object_append h.digits hhead)

/-- What lacks the slash is no key. -/
theorem not_isKey_of_runsOn (h : RunsOn rules profile text) : ¬ IsKey rules profile text := by
  rintro ⟨naan', obj', qualifier', hkey⟩
  obtain ⟨naan, obj, qualifier, hrun, hhead⟩ := h
  rw [← head?_append_qualifier hrun.object_ne_nil qualifier] at hhead
  -- what follows the digits is a slash in the one spelling and is none in the other
  have hbody : naan' ++ '/' :: (obj' ++ qualifier') = naan ++ (obj ++ qualifier) :=
    List.append_cancel_left (hkey.text_eq.symm.trans hrun.text_eq)
  have hrest : '/' :: (obj' ++ qualifier') = obj ++ qualifier := by
    rw [← Text.dropWhile_span hkey.digits (head_slash _), hbody]
    exact Text.dropWhile_span hrun.digits fun c hc => (hhead c hc).1
  exact (hhead '/' (by rw [← hrest]; rfl)).2 rfl

/-! ## Cells that hold keys -/

variable {ctx : Context} {memo : Memo} {g : Grid} {l : Location} {field value : String}

theorem violations_offer (hget : g.get? l = some value) (hrow : l.row ≠ 0)
    (hfield : g.headers[l.col]? = some field) (hark : field ∈ [Field.itemArk, Field.parentArk])
    (hblank : Text.isBlank value = false) :
    (Kind.ark.offer ctx memo ⟨profile, l, g⟩).1.violations =
      (problems ctx.rules profile (Text.trim value).toList).map
        fun p => .ofProblem p l profile := by
  rw [Kind.offer, check, Check.onField_of_field hget hrow hfield hark]
  simp only [hblank, Bool.false_eq_true, if_false]

/-- **What the check of keys passes.**  A cell that is to hold a key is passed if its text without the
blanks around it is a key that the profile may use, or only lacks the slash after the digits of its
authority.  These are apart: what lacks the slash is no key. -/
theorem passed_iff (hget : g.get? l = some value) (hrow : l.row ≠ 0)
    (hfield : g.headers[l.col]? = some field) (hark : field = "Item ARK" ∨ field = "Parent ARK")
    (hblank : Text.isBlank value = false) :
    ((Kind.ark.offer ctx memo ⟨profile, l, g⟩).1.violations = [] ↔
      IsKey ctx.rules profile (Text.trim value).toList ∨
        RunsOn ctx.rules profile (Text.trim value).toList) ∧
    (RunsOn ctx.rules profile (Text.trim value).toList →
      ¬ IsKey ctx.rules profile (Text.trim value).toList) := by
  have hmem : field ∈ [Field.itemArk, Field.parentArk] := by
    rcases hark with rfl | rfl
    · exact List.mem_cons_self
    · exact List.mem_cons_of_mem _ List.mem_cons_self
  refine ⟨?_, not_isKey_of_runsOn⟩
  rw [violations_offer hget hrow hfield hmem hblank, List.map_eq_nil_iff]
  exact problems_eq_nil_iff_spelled

/-- A key with a qualifier stands between blanks. -/
theorem passed_iff_qualified :
    let ctx : Context := { store := .empty none .epoch, rules := .builtin }
    let g : Grid := ⟨[["Title", "Parent ARK"], ["x", " ark:/21198/z1/p.2?a b\t"]]⟩
    let key := "ark:/21198/z1/p.2?a b".toList
    g.get? ⟨1, 1⟩ = some " ark:/21198/z1/p.2?a b\t" ∧ g.headers[1]? = some "Parent ARK" ∧
    Text.isBlank " ark:/21198/z1/p.2?a b\t" = false ∧
    (Kind.ark.offer ctx {} ⟨"default", ⟨1, 1⟩, g⟩).1.violations = [] ∧
    ((Kind.ark.offer ctx {} ⟨"default", ⟨1, 1⟩, g⟩).1.violations = [] ↔
      IsKey .builtin "default" key ∨ RunsOn .builtin "default" key) := by
  intro ctx g key
  have hget : g.get? ⟨1, 1⟩ = some " ark:/21198/z1/p.2?a b\t" := rfl
  have hfield : g.headers[1]? = some "Parent ARK" := rfl
  have hblank : Text.isBlank " ark:/21198/z1/p.2?a b\t" = false := by decide
  have hiff : (Kind.ark.offer ctx {} ⟨"default", ⟨1, 1⟩, g⟩).1.violations = [] ↔ _ :=
    (passed_iff hget (by decide) hfield (Or.inr rfl) hblank).1
  have htrim : (Text.trim " ark:/21198/z1/p.2?a b\t").toList = key := by decide
  rw [htrim] at hiff
  exact ⟨hget, hfield, hblank, by decide, hiff⟩

/-- A text that lacks the slash is passed, and it is no key. -/
theorem not_passed_iff_isKey :
    ¬ ∀ (ctx : Context) (memo : Memo) (profile : String) (g : Grid) (l : Location)
      (value field : String), g.get? l = some value → l.row ≠ 0 →
        g.headers[l.col]? = some field → field = "Item ARK" ∨ field = "Parent ARK" →
          Text.isBlank value = false →
            ((Kind.ark.offer ctx memo ⟨profile, l, g⟩).1.violations = [] ↔
              IsKey ctx.rules profile (Text.trim value).toList) := by
  intro hall
  have hiff := hall { store := .empty none .epoch, rules := .builtin } {} "default"
    ⟨[["Item ARK"], ["ark:/21198abc"]]⟩ ⟨1, 0⟩ _ _ rfl (by decide) rfl (Or.inl rfl) (by decide)
  have htrim : (Text.trim "ark:/21198abc").toList = "ark:/21198abc".toList := by decide
  rw [htrim] at hiff
  have hruns : RunsOn .builtin "default" "ark:/21198abc".toList :=
    ⟨"21198".toList, "abc".toList, [],
      { text_eq := by simp
        digits := by simp
        enough := by decide
        allowed := by decide
        object_ne_nil := by simp
        object_chars := by simp
        qualified := Or.inl rfl },
      by simp⟩
  exact not_isKey_of_runsOn hruns (hiff.mp (by decide))

end Ark
end MetadataAudit
