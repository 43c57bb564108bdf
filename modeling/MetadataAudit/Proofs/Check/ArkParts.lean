import MetadataAudit.Proofs.Check.Ark
import MetadataAudit.Proofs.Dictionary
import MetadataAudit.Proofs.Text.Utf8

/-! # The parts of a key

What follows the scheme of a key is cut after the digits it begins with, and one slash behind these is
passed over (`Ark.Cut`).  Every text has one such cut (`Ark.exists_cut`), which never goes through the
bytes of a character (`Ark.Cut.bytes`).  The check of keys judges each part by itself and reports its
problems in the order of the parts (`Ark.violations_by_parts`).
-/
namespace MetadataAudit

/-- A digit is written as one byte. -/
theorem Utf8.length_encode_of_digits {cs : List Char} (h : ∀ c ∈ cs, c.isDigit = true) :
    (encode (String.ofList cs)).length = cs.length := by
  rw [encode_ofList]
  induction cs with
  | nil => rfl
  | cons c cs ih =>
    rw [List.forall_mem_cons] at h
    have hdigit : c.toNat ≤ '9'.toNat := (Char.isDigit_iff_toNat.mp h.1).2
    have hsize : c.utf8Size = 1 := by
      refine Char.utf8Size_eq_one_iff.mpr (UInt32.le_iff_toNat_le.mpr ?_)
      exact hdigit.trans (by decide)
    rw [List.flatMap_cons, List.length_append, String.length_utf8EncodeChar, hsize, ih h.2,
      List.length_cons, Nat.add_comm]

namespace Ark

variable {rules : Rulebook} {profile : String} {body naan rest obj : List Char}

/-- A text is an object, with a qualifier if need be. -/
def IsObject (cs : List Char) : Prop :=
  ∃ obj qualifier, cs = obj ++ qualifier ∧ obj ≠ [] ∧
    (∀ c ∈ obj, c.isAlphanum = true ∨ c ∈ ['_', '-', '.', '/']) ∧ IsQualifier qualifier

theorem isObjectId_iff_isObject {cs : List Char} : isObjectId cs = true ↔ IsObject cs := by
  rw [isObjectId_iff]
  simp only [isObjectChar_iff, IsObject]

instance (cs : List Char) : Decidable (IsObject cs) :=
  decidable_of_iff (isObjectId cs = true) isObjectId_iff_isObject

/-- An authority is on the list of a profile. -/
def IsListed (rules : Rulebook) (profile : String) (naan : List Char) : Prop :=
  ∃ allowed, rules.naans.get? profile = some allowed ∧ String.ofList naan ∈ allowed.names

theorem naanAllowed_iff_isListed :
    rules.naanAllowed profile (String.ofList naan) = true ↔ IsListed rules profile naan := by
  rw [Rulebook.naanAllowed, IsListed]
  cases rules.naans.get? profile with
  | none => simp
  | some allowed =>
    simp only [Option.some.injEq, exists_eq_left', Dictionary.contains_eq_true_iff,
      Dictionary.mem_names_iff]

instance (rules : Rulebook) (profile : String) (naan : List Char) :
    Decidable (IsListed rules profile naan) :=
  decidable_of_iff (rules.naanAllowed profile (String.ofList naan) = true) naanAllowed_iff_isListed

/-! ## Where the parts begin -/

/-- A text is cut into the longest run of digits that it begins with and the rest of it.  The object is
the rest, without the slash that it may begin with. -/
structure Cut (body naan rest obj : List Char) : Prop where
  body_eq : body = naan ++ rest
  digits : ∀ c ∈ naan, c.isDigit = true
  longest : ∀ c ∈ rest.head?, c.isDigit = false
  slash : rest = '/' :: obj ∨ (rest = obj ∧ obj.head? ≠ some '/')

theorem exists_cut (body : List Char) : ∃ naan rest obj, Cut body naan rest obj := by
  refine ⟨authority body, body.dropWhile Char.isDigit, object body,
    List.takeWhile_append_dropWhile.symm, fun c hc => List.mem_takeWhile_imp hc,
    Text.head_dropWhile_span Char.isDigit body, ?_⟩
  rcases dropWhile_isDigit body with hslash | ⟨hnone, hhead⟩
  · exact Or.inl hslash
  · exact Or.inr ⟨hnone, fun hfirst => (hhead '/' hfirst).2 rfl⟩

namespace Cut

theorem authority_eq (h : Cut body naan rest obj) : authority body = naan := by
  rw [h.body_eq]
  exact authority_append h.digits h.longest

theorem object_eq (h : Cut body naan rest obj) : object body = obj := by
  rw [h.body_eq]
  rcases h.slash with rfl | ⟨rfl, hhead⟩
  · exact object_append_slash h.digits
  · refine object_append h.digits fun c hc => ⟨h.longest c hc, ?_⟩
    rintro rfl
    exact hhead hc

/-- The authority has as many bytes as digits, and behind these bytes begins a character. -/
theorem bytes (h : Cut body naan rest obj) :
    (Utf8.encode (String.ofList naan)).length = naan.length ∧
      (Utf8.encode (String.ofList body)).drop naan.length = Utf8.encode (String.ofList rest) := by
  have hlength := Utf8.length_encode_of_digits h.digits
  refine ⟨hlength, ?_⟩
  rw [Utf8.encode_ofList] at hlength
  rw [Utf8.encode_ofList, Utf8.encode_ofList, h.body_eq, List.flatMap_append]
  exact List.drop_left' hlength

end Cut

/-! ## What each part is reported for -/

/-- The problems of the parts, in their order. -/
def partProblems (rules : Rulebook) (profile : String) (naan obj : List Char) : List Problem :=
  (if naan.length < 5 then [.naanTooShort] else []) ++
  (if IsListed rules profile naan then [] else [.naanNotAllowed]) ++
  (if obj = [] then [.noObjectId] else if IsObject obj then [] else [.invalidObjectId])

theorem problems_of_not_scheme {key : List Char} (h : ¬ scheme <+: key) :
    problems rules profile key = [.noArkScheme] := by
  rw [problems, if_neg (mt List.isPrefixOf_iff_prefix.mp h)]

theorem problems_of_cut (h : Cut body naan rest obj) :
    problems rules profile (scheme ++ body) = partProblems rules profile naan obj := by
  have hscheme : scheme.isPrefixOf (scheme ++ body) = true :=
    List.isPrefixOf_iff_prefix.mpr (List.prefix_append _ _)
  simp only [problems, hscheme, if_true, List.drop_left, h.authority_eq, h.object_eq, minDigits,
    naanAllowed_iff_isListed, isObjectId_iff_isObject, List.isEmpty_iff, partProblems]

variable {ctx : Context} {memo : Memo} {g : Grid} {l : Location} {field value : String}

/-- **What the check of keys reports.**  A text that does not begin with the scheme is reported for that
alone.  In any other, the authority is too short if it has less than five digits, and is not allowed if
it is not on the list of the profile; then the object is missing if nothing is left for it, and else
invalid if it is none.  The cut behind the authority is one between characters. -/
theorem violations_by_parts (hget : g.get? l = some value) (hrow : l.row ≠ 0)
    (hfield : g.headers[l.col]? = some field) (hark : field = "Item ARK" ∨ field = "Parent ARK")
    (htrim : Text.trim value ≠ "") :
    (¬ "ark:/".toList <+: (Text.trim value).toList →
      (Kind.ark.offer ctx memo ⟨profile, l, g⟩).1.violations = [.ofProblem .noArkScheme l profile]) ∧
    ∀ body, (Text.trim value).toList = "ark:/".toList ++ body →
      ∃ naan rest obj, Cut body naan rest obj ∧
        (Kind.ark.offer ctx memo ⟨profile, l, g⟩).1.violations =
          (partProblems ctx.rules profile naan obj).map (fun p => .ofProblem p l profile) ∧
        (Utf8.encode (String.ofList naan)).length = naan.length ∧
        (Utf8.encode (String.ofList body)).drop naan.length = Utf8.encode (String.ofList rest) := by
  have hmem : field ∈ [Field.itemArk, Field.parentArk] := by
    rcases hark with rfl | rfl
    · exact List.mem_cons_self
    · exact List.mem_cons_of_mem _ List.mem_cons_self
  have hblank : Text.isBlank value = false :=
    Bool.eq_false_iff.mpr (mt Text.trim_eq_empty_iff.mpr htrim)
  rw [violations_offer hget hrow hfield hmem hblank]
  constructor
  · intro hscheme
    rw [problems_of_not_scheme hscheme]
    rfl
  · intro body hbody
    obtain ⟨naan, rest, obj, hcut⟩ := exists_cut body
    refine ⟨naan, rest, obj, hcut, ?_, hcut.bytes⟩
    have hproblems : problems ctx.rules profile ("ark:/".toList ++ body) =
        partProblems ctx.rules profile naan obj := problems_of_cut hcut
    rw [hbody, hproblems]

/-- Behind three digits, an accented letter and a blank stand where the slash and the object should. -/
theorem violations_by_parts_accented :
    let ctx : Context := { store := .empty none .epoch, rules := .builtin }
    let value := "\tark:/123é x "
    let g : Grid := ⟨[["Title", "Item ARK"], ["x", value]]⟩
    let reported := (Kind.ark.offer ctx {} ⟨"default", ⟨1, 1⟩, g⟩).1.violations
    g.get? ⟨1, 1⟩ = some value ∧ g.headers[1]? = some "Item ARK" ∧ Text.trim value ≠ "" ∧
    reported.map Violation.message = [Problem.naanTooShort.text, Problem.naanNotAllowed.text,
      Problem.invalidObjectId.text] ∧
    (Text.trim value).toList = "ark:/".toList ++ "123é x".toList ∧
    ∃ naan rest obj, Cut "123é x".toList naan rest obj ∧
      reported = (partProblems ctx.rules "default" naan obj).map
        (fun p => .ofProblem p ⟨1, 1⟩ "default") ∧
      (Utf8.encode (String.ofList naan)).length = naan.length ∧
      (Utf8.encode "123é x").drop naan.length = Utf8.encode (String.ofList rest) := by
  intro ctx value g reported
  have hget : g.get? ⟨1, 1⟩ = some value := rfl
  have hfield : g.headers[1]? = some "Item ARK" := rfl
  have htrim : Text.trim value ≠ "" := by decide
  have hbody : (Text.trim value).toList = "ark:/".toList ++ "123é x".toList := by decide
  exact ⟨hget, hfield, htrim, by decide, hbody,
    (violations_by_parts hget (by decide) hfield (Or.inl rfl) htrim).2 _ hbody⟩

end Ark
end MetadataAudit
