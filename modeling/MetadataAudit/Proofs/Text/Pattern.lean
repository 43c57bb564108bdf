import Mathlib.Computability.Language
import Mathlib.Data.List.TakeWhile
import Mathlib.Order.CompletePartialOrder
import MetadataAudit.Text.Pattern

/-! # What patterns describe

A pattern describes a language: classes are its letters, and the ways of putting patterns together are
product, sum and star (`Pattern.language`).  The ways on from a pattern take its language apart by the
first character (`Pattern.cons_mem_language_iff`).  A pattern that is to match up to the end of the text
comes to its end there only, so that no way is given up before, and matching decides the language
(`Pattern.matchesAny_anchored`).
-/
namespace MetadataAudit

open scoped Computability

/-! ## Languages by the first character -/

section Language

variable {L M : Language Char} {c : Char} {cs : List Char}

theorem nil_mem_mul_iff : [] ∈ L * M ↔ [] ∈ L ∧ [] ∈ M := by
  rw [Language.mem_mul]
  constructor
  · rintro ⟨u, hu, v, hv, happend⟩
    obtain ⟨rfl, rfl⟩ := List.append_eq_nil_iff.mp happend
    exact ⟨hu, hv⟩
  · rintro ⟨hL, hM⟩
    exact ⟨[], hL, [], hM, rfl⟩

theorem cons_mem_mul_iff : c :: cs ∈ L * M ↔
    ([] ∈ L ∧ c :: cs ∈ M) ∨ ∃ u v, c :: u ∈ L ∧ v ∈ M ∧ u ++ v = cs := by
  rw [Language.mem_mul]
  constructor
  · rintro ⟨u, hu, v, hv, happend⟩
    cases u with
    | nil => exact Or.inl ⟨hu, happend ▸ hv⟩
    | cons d u =>
      obtain ⟨rfl, htail⟩ := List.cons.inj happend
      exact Or.inr ⟨u, v, hu, hv, htail⟩
  · rintro (⟨hnil, hcons⟩ | ⟨u, v, hu, hv, rfl⟩)
    · exact ⟨[], hnil, c :: cs, hcons, rfl⟩
    · exact ⟨c :: u, hu, v, hv, rfl⟩

theorem cons_mem_kstar_iff : c :: cs ∈ L∗ ↔ ∃ u v, c :: u ∈ L ∧ v ∈ L∗ ∧ u ++ v = cs := by
  constructor
  · intro hstar
    -- the first of the parts that are not empty begins with the first character
    obtain ⟨parts, hparts, hall⟩ := Language.mem_kstar_iff_exists_nonempty.mp hstar
    cases parts with
    | nil => cases hparts
    | cons part parts =>
      rw [List.forall_mem_cons] at hall
      obtain ⟨⟨hpart, hne⟩, hrest⟩ := hall
      obtain ⟨d, u, rfl⟩ := List.exists_cons_of_ne_nil hne
      obtain ⟨rfl, rfl⟩ := List.cons.inj hparts
      exact ⟨u, parts.flatten, hpart, Language.join_mem_kstar fun p hp => (hrest p hp).1, rfl⟩
  · rintro ⟨u, v, hu, hv, rfl⟩
    obtain ⟨parts, rfl, hall⟩ := Language.mem_kstar.mp hv
    refine Language.mem_kstar.mpr ⟨(c :: u) :: parts, rfl, ?_⟩
    exact List.forall_mem_cons.mpr ⟨hu, hall⟩

end Language

/-! ## The language of a pattern -/

/-- The texts of one character of a class. -/
def CharClass.language (k : CharClass) : Language Char :=
  {cs | ∃ c, k.contains c = true ∧ cs = [c]}

namespace CharClass

variable {k l : CharClass} {c d : Char} {cs : List Char}

theorem mem_language_iff : cs ∈ k.language ↔ ∃ c, k.contains c = true ∧ cs = [c] := Iff.rfl

theorem contains_only : (only c).contains d = true ↔ d = c := by
  rw [only, contains, Bool.and_eq_true, decide_eq_true_eq, decide_eq_true_eq]
  constructor
  · rintro ⟨hle, hge⟩
    exact Char.toNat_inj.mp (Nat.le_antisymm hge hle)
  · rintro rfl
    exact ⟨Nat.le_refl _, Nat.le_refl _⟩

theorem contains_adding : (k.adding cs).contains d = true ↔ k.contains d = true ∨ d ∈ cs := by
  rw [adding]
  induction cs generalizing k with
  | nil => simp
  | cons c cs ih =>
    rw [List.foldl_cons, ih, contains, Bool.or_eq_true, contains_only, List.mem_cons, or_assoc]

theorem language_mono (h : ∀ c, k.contains c = true → l.contains c = true) :
    k.language ≤ l.language := by
  rintro cs ⟨c, hc, rfl⟩
  exact ⟨c, h c hc, rfl⟩

theorem mem_kstar_language_iff :
    cs ∈ k.language∗ ↔ ∀ c ∈ cs, k.contains c = true := by
  induction cs with
  | nil => simp [Language.nil_mem_kstar]
  | cons c cs ih =>
    rw [cons_mem_kstar_iff, List.forall_mem_cons]
    constructor
    · rintro ⟨u, v, ⟨d, hd, hcons⟩, hv, rfl⟩
      obtain ⟨rfl, rfl⟩ := List.cons.inj hcons
      exact ⟨hd, ih.mp hv⟩
    · rintro ⟨hc, hcs⟩
      exact ⟨[], cs, ⟨c, hc, rfl⟩, ih.mpr hcs, rfl⟩

end CharClass

namespace Pattern

variable {p q r : Pattern} {k : CharClass} {c : Char} {cs : List Char} {first last : Bool}

/-- The texts that a pattern describes.  The beginning and the end of the text are described as empty
texts, which is right where they stand at the ends of a pattern. -/
def language : Pattern → Language Char
  | empty => 1
  | one k => k.language
  | followed p q => p.language * q.language
  | either p q => p.language + q.language
  | many _ p => p.language∗
  | atStart => 1
  | atEnd => 1

/-- Whether a pattern mentions neither the beginning nor the end of the text. -/
def isInner : Pattern → Bool
  | empty => true
  | one _ => true
  | followed p q => p.isInner && q.isInner
  | either p q => p.isInner && q.isInner
  | many _ p => p.isInner
  | atStart => false
  | atEnd => false

theorem language_andThen (p q : Pattern) :
    (p.andThen q).language = p.language * q.language := by
  cases p with
  | empty => exact (one_mul _).symm
  | _ => rfl

theorem isInner_andThen (hp : p.isInner = true) (hq : q.isInner = true) :
    (p.andThen q).isInner = true := by
  cases p with
  | empty => exact hq
  | _ => exact Bool.and_eq_true_iff.mpr ⟨hp, hq⟩

theorem mem_language_exactly {text : List Char} : cs ∈ (exactly text).language ↔ cs = text := by
  induction text generalizing cs with
  | nil => exact Language.mem_one cs
  | cons c text ih =>
    have hcons : (exactly (c :: text)).language =
        (CharClass.only c).language * (exactly text).language := rfl
    rw [hcons, Language.mem_mul]
    constructor
    · rintro ⟨u, ⟨d, hd, rfl⟩, v, hv, rfl⟩
      rw [CharClass.contains_only.mp hd, ih.mp hv]
      rfl
    · rintro rfl
      exact ⟨[c], ⟨c, CharClass.contains_only.mpr rfl, rfl⟩, text, ih.mpr rfl, rfl⟩

/-! ## The ways on from a pattern -/

-- the equations of `ways` are made here, once for all the proofs behind
attribute [local simp] ways

/-- Where a way on through two patterns leads to. -/
theorem mem_ways_followed {way : Option (CharClass × Pattern)} :
    way ∈ ways first last (followed p q) ↔
      (none ∈ ways first last p ∧ way ∈ ways first last q) ∨
        ∃ k r, some (k, r) ∈ ways first last p ∧ way = some (k, r.andThen q) := by
  rw [ways, List.mem_flatMap]
  constructor
  · rintro ⟨step, hstep, hway⟩
    cases step with
    | none => exact Or.inl ⟨hstep, hway⟩
    | some next => exact Or.inr ⟨next.1, next.2, hstep, List.mem_singleton.mp hway⟩
  · rintro (⟨hnone, hway⟩ | ⟨k, r, hstep, rfl⟩)
    · exact ⟨none, hnone, hway⟩
    · exact ⟨some (k, r), hstep, List.mem_singleton_self _⟩

theorem ways_andThen (first last : Bool) (p q : Pattern) :
    ways first last (p.andThen q) = ways first last (followed p q) := by
  cases p with
  | empty => simp [andThen]
  | _ => rfl

/-- What comes of those that are there. -/
theorem mem_filterMap_map_iff {α β : Type} {f : α → β} {options : List (Option α)} {b : β} :
    b ∈ options.filterMap (fun o => o.map f) ↔ ∃ a, some a ∈ options ∧ b = f a := by
  rw [List.mem_filterMap]
  constructor
  · rintro ⟨o, ho, hb⟩
    obtain ⟨a, rfl, rfl⟩ := Option.map_eq_some_iff.mp hb
    exact ⟨a, ho, rfl⟩
  · rintro ⟨a, ha, rfl⟩
    exact ⟨some a, ha, rfl⟩

/-- Repetition begins with a way on through one round, or ends. -/
theorem mem_ways_many {greedy : Bool} {way : Option (CharClass × Pattern)} :
    way ∈ ways first last (many greedy p) ↔
      way = none ∨ ∃ k r, some (k, r) ∈ ways first last p ∧
        way = some (k, r.andThen (many greedy p)) := by
  rw [ways]
  cases greedy with
  | true =>
    rw [if_pos rfl, List.mem_append, List.mem_singleton, mem_filterMap_map_iff, Prod.exists]
    exact or_comm
  | false =>
    rw [if_neg Bool.false_ne_true, List.mem_cons, mem_filterMap_map_iff, Prod.exists]

theorem isInner_of_mem_ways (h : p.isInner = true) (hway : some (k, r) ∈ ways first last p) :
    r.isInner = true := by
  induction p generalizing k r with
  | empty => simp at hway
  | one l =>
    simp only [ways, List.mem_singleton, Option.some.injEq, Prod.mk.injEq] at hway
    rw [hway.2]
    rfl
  | followed p q ihp ihq =>
    obtain ⟨hp, hq⟩ := Bool.and_eq_true_iff.mp h
    rcases mem_ways_followed.mp hway with ⟨-, hway⟩ | ⟨l, s, hstep, heq⟩
    · exact ihq hq hway
    · cases heq
      exact isInner_andThen (ihp hp hstep) hq
  | either p q ihp ihq =>
    obtain ⟨hp, hq⟩ := Bool.and_eq_true_iff.mp h
    rw [ways, List.mem_append] at hway
    rcases hway with hway | hway
    · exact ihp hp hway
    · exact ihq hq hway
  | many greedy p ih =>
    rcases mem_ways_many.mp hway with hnone | ⟨l, s, hstep, heq⟩
    · cases hnone
    · cases heq
      exact isInner_andThen (ih h hstep) h
  | atStart => cases h
  | atEnd => cases h

/-- A pattern comes to its end exactly where it describes the empty text. -/
theorem none_mem_ways_iff (h : p.isInner = true) (first last : Bool) :
    none ∈ ways first last p ↔ [] ∈ p.language := by
  induction p with
  | empty => simp [language]
  | one k => simp [language, CharClass.mem_language_iff]
  | followed p q ihp ihq =>
    obtain ⟨hp, hq⟩ := Bool.and_eq_true_iff.mp h
    rw [language, nil_mem_mul_iff, ← ihp hp, ← ihq hq, mem_ways_followed]
    simp
  | either p q ihp ihq =>
    obtain ⟨hp, hq⟩ := Bool.and_eq_true_iff.mp h
    rw [language, Language.mem_add, ← ihp hp, ← ihq hq, ways, List.mem_append]
  | many greedy p ih =>
    rw [mem_ways_many]
    simp [language, Language.nil_mem_kstar]
  | atStart => cases h
  | atEnd => cases h

/-- **The ways on take the language apart by the first character.** -/
theorem cons_mem_language_iff (h : p.isInner = true) (first last : Bool) :
    c :: cs ∈ p.language ↔
      ∃ k r, some (k, r) ∈ ways first last p ∧ k.contains c = true ∧ cs ∈ r.language := by
  induction p generalizing cs with
  | empty => simp [language]
  | one k =>
    rw [language, CharClass.mem_language_iff]
    constructor
    · rintro ⟨d, hd, hcons⟩
      obtain ⟨rfl, rfl⟩ := List.cons.inj hcons
      exact ⟨k, empty, List.mem_singleton_self _, hd, Language.nil_mem_one⟩
    · rintro ⟨l, r, hway, hc, hcs⟩
      cases List.mem_singleton.mp hway
      have hnil : cs = [] := (Language.mem_one cs).mp hcs
      exact ⟨c, hc, congrArg (c :: ·) hnil⟩
  | followed p q ihp ihq =>
    obtain ⟨hp, hq⟩ := Bool.and_eq_true_iff.mp h
    rw [language, cons_mem_mul_iff, ← none_mem_ways_iff hp first last, ihq hq]
    constructor
    · rintro (⟨hnone, k, r, hway, hc, hcs⟩ | ⟨u, v, hu, hv, rfl⟩)
      · exact ⟨k, r, mem_ways_followed.mpr (Or.inl ⟨hnone, hway⟩), hc, hcs⟩
      · obtain ⟨k, r, hway, hc, hu⟩ := (ihp hp).mp hu
        refine ⟨k, r.andThen q, mem_ways_followed.mpr (Or.inr ⟨k, r, hway, rfl⟩), hc, ?_⟩
        rw [language_andThen]
        exact Language.append_mem_mul hu hv
    · rintro ⟨k, r, hway, hc, hcs⟩
      rcases mem_ways_followed.mp hway with ⟨hnone, hway⟩ | ⟨l, s, hstep, heq⟩
      · exact Or.inl ⟨hnone, k, r, hway, hc, hcs⟩
      · cases heq
        rw [language_andThen, Language.mem_mul] at hcs
        obtain ⟨u, hu, v, hv, happend⟩ := hcs
        exact Or.inr ⟨u, v, (ihp hp).mpr ⟨k, s, hstep, hc, hu⟩, hv, happend⟩
  | either p q ihp ihq =>
    obtain ⟨hp, hq⟩ := Bool.and_eq_true_iff.mp h
    rw [language, Language.mem_add, ihp hp, ihq hq]
    simp only [ways, List.mem_append, or_and_right, exists_or]
  | many greedy p ih =>
    rw [language, cons_mem_kstar_iff]
    constructor
    · rintro ⟨u, v, hu, hv, rfl⟩
      obtain ⟨k, r, hway, hc, hu⟩ := (ih h).mp hu
      refine ⟨k, _, mem_ways_many.mpr (Or.inr ⟨k, r, hway, rfl⟩), hc, ?_⟩
      rw [language_andThen]
      exact Language.append_mem_mul hu hv
    · rintro ⟨k, r, hway, hc, hcs⟩
      rcases mem_ways_many.mp hway with hnone | ⟨l, s, hstep, heq⟩
      · cases hnone
      · cases heq
        rw [language_andThen, Language.mem_mul] at hcs
        obtain ⟨u, hu, v, hv, happend⟩ := hcs
        exact ⟨u, v, (ih h).mpr ⟨k, s, hstep, hc, hu⟩, hv, happend⟩
  | atStart => cases h
  | atEnd => cases h

/-! ## Matching up to the end of a text -/

/-- A pattern that matches up to the end of the text, and mentions the ends nowhere else. -/
def IsEnded (q : Pattern) : Prop := ∃ p : Pattern, p.isInner = true ∧ q = p.andThen atEnd

theorem none_mem_ways_of_isEnded (h : q.IsEnded) (first : Bool) :
    none ∈ ways first true q ↔ [] ∈ q.language := by
  obtain ⟨p, hp, rfl⟩ := h
  rw [ways_andThen, mem_ways_followed, language_andThen, nil_mem_mul_iff,
    ← none_mem_ways_iff hp first true]
  simp [language]

/-- Such a pattern does not come to its end before the text does. -/
theorem none_notMem_ways_of_isEnded (h : q.IsEnded) (first : Bool) :
    none ∉ ways first false q := by
  obtain ⟨p, hp, rfl⟩ := h
  rw [ways_andThen, mem_ways_followed]
  simp

theorem cons_mem_language_iff_of_isEnded (h : q.IsEnded) (first : Bool) :
    c :: cs ∈ q.language ↔
      ∃ k r, some (k, r) ∈ ways first false q ∧ k.contains c = true ∧ cs ∈ r.language := by
  obtain ⟨p, hp, rfl⟩ := h
  have hlanguage : ∀ r : Pattern, (r.andThen atEnd).language = r.language := fun r =>
    (language_andThen r atEnd).trans (mul_one _)
  rw [hlanguage, cons_mem_language_iff hp first false, ways_andThen]
  constructor
  · rintro ⟨k, r, hway, hc, hcs⟩
    refine ⟨k, r.andThen atEnd, mem_ways_followed.mpr (Or.inr ⟨k, r, hway, rfl⟩), hc, ?_⟩
    rw [hlanguage]
    exact hcs
  · rintro ⟨k, r, hway, hc, hcs⟩
    rcases mem_ways_followed.mp hway with ⟨-, hway⟩ | ⟨l, s, hstep, heq⟩
    · cases hway
    · cases heq
      rw [hlanguage] at hcs
      exact ⟨k, s, hstep, hc, hcs⟩

theorem isEnded_of_mem_ways (h : q.IsEnded) (hway : some (k, r) ∈ ways first false q) :
    r.IsEnded := by
  obtain ⟨p, hp, rfl⟩ := h
  rw [ways_andThen] at hway
  rcases mem_ways_followed.mp hway with ⟨-, hway⟩ | ⟨l, s, hstep, heq⟩
  · cases hway
  · cases heq
    exact ⟨s, isInner_of_mem_ways hp hstep, rfl⟩

/-- As no pattern comes to its end, none of the ways on is given up. -/
theorem mem_advance_iff {qs : List Pattern} (h : ∀ q ∈ qs, q.IsEnded) :
    r ∈ advance first c qs ↔
      ∃ q ∈ qs, ∃ k, some (k, r) ∈ ways first false q ∧ k.contains c = true := by
  have hkept : (qs.flatMap (ways first false)).takeWhile Option.isSome =
      qs.flatMap (ways first false) := by
    rw [List.takeWhile_eq_self_iff]
    intro way hway
    obtain ⟨q, hq, hway⟩ := List.mem_flatMap.mp hway
    cases way with
    | none => exact absurd hway (none_notMem_ways_of_isEnded (h q hq) first)
    | some next => rfl
  rw [advance, hkept, List.mem_eraseDups]
  simp only [List.mem_filterMap, List.mem_flatMap, id]
  constructor
  · rintro ⟨⟨k, s⟩, ⟨way, ⟨q, hq, hway⟩, rfl⟩, hnext⟩
    obtain ⟨hc, heq⟩ := Option.ite_none_right_eq_some.mp hnext
    cases heq
    exact ⟨q, hq, k, hway, hc⟩
  · rintro ⟨q, hq, k, hway, hc⟩
    exact ⟨(k, r), ⟨some (k, r), ⟨q, hq, hway⟩, rfl⟩, if_pos hc⟩

/-- **Matching decides the language** of patterns that match up to the end. -/
theorem matchesAny_iff {qs : List Pattern} (h : ∀ q ∈ qs, q.IsEnded) :
    matchesAny first qs cs = true ↔ ∃ q ∈ qs, cs ∈ q.language := by
  induction cs generalizing first qs with
  | nil =>
    rw [matchesAny, List.any_eq_true]
    constructor
    · rintro ⟨way, hway, hnone⟩
      obtain ⟨q, hq, hway⟩ := List.mem_flatMap.mp hway
      rw [Option.isNone_iff_eq_none.mp hnone] at hway
      exact ⟨q, hq, (none_mem_ways_of_isEnded (h q hq) first).mp hway⟩
    · rintro ⟨q, hq, hnil⟩
      have hnone := (none_mem_ways_of_isEnded (h q hq) first).mpr hnil
      exact ⟨none, List.mem_flatMap.mpr ⟨q, hq, hnone⟩, rfl⟩
  | cons c cs ih =>
    have hnext : ∀ r ∈ advance first c qs, r.IsEnded := by
      intro r hr
      obtain ⟨q, hq, k, hway, -⟩ := (mem_advance_iff h).mp hr
      exact isEnded_of_mem_ways (h q hq) hway
    rw [matchesAny, ih hnext]
    constructor
    · rintro ⟨r, hr, hcs⟩
      obtain ⟨q, hq, k, hway, hc⟩ := (mem_advance_iff h).mp hr
      exact ⟨q, hq, (cons_mem_language_iff_of_isEnded (h q hq) first).mpr ⟨k, r, hway, hc, hcs⟩⟩
    · rintro ⟨q, hq, hcons⟩
      obtain ⟨k, r, hway, hc, hcs⟩ := (cons_mem_language_iff_of_isEnded (h q hq) first).mp hcons
      exact ⟨r, (mem_advance_iff h).mpr ⟨q, hq, k, hway, hc⟩, hcs⟩

/-- **Between the beginning and the end of a text**, matching decides the language of a pattern that
mentions neither. -/
theorem matchesAny_anchored (h : p.isInner = true) :
    matchesAny true [p.anchored] cs = true ↔ cs ∈ p.language := by
  have hended : (p.andThen atEnd).IsEnded := ⟨p, h, rfl⟩
  have hstart : matchesAny true [p.anchored] cs = matchesAny true [p.andThen atEnd] cs := by
    cases cs <;> simp [matchesAny, advance, anchored]
  have hlanguage : (p.andThen atEnd).language = p.language :=
    (language_andThen p atEnd).trans (mul_one _)
  rw [hstart, matchesAny_iff (by simpa using hended)]
  simp [hlanguage]

end Pattern
end MetadataAudit
