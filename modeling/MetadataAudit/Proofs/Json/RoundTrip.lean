import MetadataAudit.Json.Reader
import MetadataAudit.Json.Writer
import MetadataAudit.Proofs.Text.Decimal
import MetadataAudit.Proofs.Text.Utf8

/-! # JSON written and read again

A document that was written in the indented layout is read as the value it was written from
(`Json.ofText?_toPretty`).  The reader is followed through the text piece by piece: each lemma says
that the machine, with a piece of text before it, ends up where it would be with the value of that
piece already read.  Only a number needs to know what comes next, since a further digit would belong
to it (`Delimited`).  After any other document nothing but gaps may follow (`Machine.Done`).
-/
namespace MetadataAudit

namespace Json

mutual

/-- The value as it is read. -/
def parsed : Json → Parsed
  | .natural n => .natural n
  | .text s => .text s
  | .list vs => .list (parsedItems vs)
  | .record fs => .record (parsedFields fs)

/-- The items of a list as they are read. -/
def parsedItems : List Json → List Parsed
  | [] => []
  | v :: vs => parsed v :: parsedItems vs

/-- The fields of a record as they are read. -/
def parsedFields : List (String × Json) → List (Option String × Parsed)
  | [] => []
  | (k, v) :: fs => (some k, parsed v) :: parsedFields fs

end

theorem parsedItems_eq_map (vs : List Json) : parsedItems vs = vs.map parsed := by
  induction vs with
  | nil => rfl
  | cons v vs ih => rw [parsedItems, ih, List.map_cons]

theorem parsedFields_eq_map (fs : List (String × Json)) :
    parsedFields fs = fs.map fun f => (some f.1, f.2.parsed) := by
  induction fs with
  | nil => rfl
  | cons f fs ih => rw [parsedFields, ih, List.map_cons]

end Json

namespace Parsed
namespace Machine

/-- The document that ends with some further characters. -/
def read? (m : Machine) (cs : List Char) : Option Parsed :=
  m.run? (cs.map some) >>= finish?

variable {m : Machine} {stack : List Frame} {c : Char} {rest : List Char}

theorem read?_of_step (m' : Machine) (h : m.step? (some c) = some m') :
    m.read? (c :: rest) = m'.read? rest := by
  rw [read?, List.map_cons, run?, h]
  rfl

/-- Two machines that take the same step read the same. -/
theorem read?_congr {m' : Machine} (hend : m.finish? = m'.finish?)
    (hstep : ∀ c ∈ rest.head?, m.step? (some c) = m'.step? (some c)) :
    m.read? rest = m'.read? rest := by
  cases rest with
  | nil => exact hend
  | cons c cs =>
    rw [read?, List.map_cons, run?, hstep c rfl]
    rfl

/-! ### Single steps -/

theorem step?_value (stack : List Frame) (c : Char) :
    (⟨stack, .value⟩ : Machine).step? (some c) =
      if isGap c then some ⟨stack, .value⟩ else begin? stack c := rfl

theorem step?_firstItem (stack : List Frame) (c : Char) :
    (⟨stack, .firstItem⟩ : Machine).step? (some c) =
      if isGap c then some ⟨stack, .firstItem⟩
      else if c = ']' then
        match stack with
        | .list _ :: stack => some ⟨stack, .after (.list [])⟩
        | _ => none
      else begin? stack c := rfl

theorem step?_name (stack : List Frame) (fields : List (Option String × Parsed)) (c : Char) :
    (⟨stack, .name fields⟩ : Machine).step? (some c) =
      if isGap c then some ⟨stack, .name fields⟩
      else if c = '\"' then some ⟨stack, .text (some fields) {}⟩
      else none := rfl

theorem step?_firstName (stack : List Frame) (c : Char) :
    (⟨stack, .firstName⟩ : Machine).step? (some c) =
      if isGap c then some ⟨stack, .firstName⟩
      else if c = '\x7d' then some ⟨stack, .after (.record [])⟩
      else if c = '\"' then some ⟨stack, .text (some []) {}⟩
      else none := rfl

theorem step?_number (stack : List Frame) (n : Numeral) (c : Char) :
    (⟨stack, .number n⟩ : Machine).step? (some c) =
      match n.part.next? c with
      | some part => some ⟨stack, .number ⟨n.negative, n.value * 10 + (c.toNat - 48), part⟩⟩
      | none => n.finish? >>= fun v => follow? stack v c := rfl

theorem step?_text (stack : List Frame) (fields : Option (List (Option String × Parsed)))
    (s : Scrap) (c : Char) :
    (⟨stack, .text fields s⟩ : Machine).step? (some c) =
      if c = '\"' then some (finishText stack fields s)
      else if c = '\\' then some ⟨stack, .escape fields s⟩
      else if c.toNat < 32 then none
      else some ⟨stack, .text fields (s.push c)⟩ := rfl

theorem step?_unit (stack : List Frame) (fields : Option (List (Option String × Parsed)))
    (s : Scrap) (left value : Nat) (c : Char) :
    (⟨stack, .unit fields s left value⟩ : Machine).step? (some c) =
      (Hex.value? c).bind fun digit =>
        if left ≤ 1 then some ⟨stack, .text fields (s.pushUnit (value * 16 + digit))⟩
        else some ⟨stack, .unit fields s (left - 1) (value * 16 + digit)⟩ := rfl

/-! ### Gaps -/

theorem read?_newline (hm : ∀ c, isGap c = true → m.step? (some c) = some m) (depth : Nat) :
    m.read? (Json.newline depth ++ rest) = m.read? rest := by
  rw [Json.newline, List.cons_append, read?_of_step _ (hm '\n' rfl)]
  induction 2 * depth with
  | zero => rfl
  | succ n ih => rw [List.replicate_succ, List.cons_append, read?_of_step _ (hm ' ' rfl), ih]

theorem value_gap (h : isGap c = true) :
    (⟨stack, .value⟩ : Machine).step? (some c) = some ⟨stack, .value⟩ := by
  rw [step?_value, if_pos h]

theorem firstItem_gap (h : isGap c = true) :
    (⟨stack, .firstItem⟩ : Machine).step? (some c) = some ⟨stack, .firstItem⟩ := by
  rw [step?_firstItem, if_pos h]

theorem name_gap {fields : List (Option String × Parsed)} (h : isGap c = true) :
    (⟨stack, .name fields⟩ : Machine).step? (some c) = some ⟨stack, .name fields⟩ := by
  rw [step?_name, if_pos h]

theorem firstName_gap (h : isGap c = true) :
    (⟨stack, .firstName⟩ : Machine).step? (some c) = some ⟨stack, .firstName⟩ := by
  rw [step?_firstName, if_pos h]

theorem after_gap {v : Parsed} (h : isGap c = true) :
    (⟨stack, .after v⟩ : Machine).step? (some c) = some ⟨stack, .after v⟩ :=
  if_pos h

/-! ### Texts -/

variable {fields : Option (List (Option String × Parsed))} {cs : List Char}

theorem value?_digit {n : Nat} (h : n < 16) : Hex.value? (Hex.digit n) = some n := by
  revert h
  revert n
  decide

/-- A character is read back from its escaped form. -/
theorem read?_escapeChar (c : Char) :
    (⟨stack, .text fields ⟨some cs, none⟩⟩ : Machine).read? (Json.escapeChar c ++ rest) =
      (⟨stack, .text fields ⟨some (c :: cs), none⟩⟩ : Machine).read? rest := by
  rw [Json.escapeChar.eq_def]
  split
  iterate 7
    · rfl
  · rename_i hquote hslash _ _ _ _ _
    split
    · rename_i hlow
      -- the four digits give the number of the character, which is no half of a pair
      have hhigh := value?_digit (n := c.toNat / 16) (by omega)
      have hlast := value?_digit (n := c.toNat % 16) (by omega)
      have hnum : (0 * 16 + c.toNat / 16) * 16 + c.toNat % 16 = c.toNat := by omega
      have hunit : (⟨some cs, none⟩ : Scrap).pushUnit c.toNat = ⟨some (c :: cs), none⟩ := by
        have h1 : ¬ (0xD800 ≤ c.toNat ∧ c.toNat ≤ 0xDBFF) := by omega
        have h2 : ¬ (0xDC00 ≤ c.toNat ∧ c.toNat ≤ 0xDFFF) := by omega
        simp [Scrap.pushUnit, Scrap.push, h1, h2, Char.ofNat_toNat]
      simp only [List.cons_append, List.nil_append]
      rw [read?_of_step ⟨stack, .escape fields ⟨some cs, none⟩⟩ rfl,
        read?_of_step ⟨stack, .unit fields ⟨some cs, none⟩ 4 0⟩ rfl,
        read?_of_step ⟨stack, .unit fields ⟨some cs, none⟩ 3 0⟩ rfl,
        read?_of_step ⟨stack, .unit fields ⟨some cs, none⟩ 2 0⟩ rfl,
        read?_of_step ⟨stack, .unit fields ⟨some cs, none⟩ 1 (0 * 16 + c.toNat / 16)⟩
          (by rw [step?_unit, hhigh]; rfl),
        read?_of_step ⟨stack, .text fields ⟨some (c :: cs), none⟩⟩]
      rw [step?_unit, hlast, Option.bind_some, if_pos (Nat.le_refl 1), hnum, hunit]
    · rename_i hhigh
      refine read?_of_step _ ?_
      have h1 : c ≠ '\"' := fun h => hquote h
      have h2 : c ≠ '\\' := fun h => hslash h
      rw [step?_text, if_neg h1, if_neg h2, if_neg hhigh]
      rfl

theorem read?_escaped (s : List Char) :
    (⟨stack, .text fields ⟨some cs, none⟩⟩ : Machine).read?
        (s.flatMap Json.escapeChar ++ '\"' :: rest) =
      (finishText stack fields ⟨some (s.reverse ++ cs), none⟩).read? rest := by
  induction s generalizing cs with
  | nil => exact read?_of_step _ rfl
  | cons c s ih =>
    rw [List.flatMap_cons, List.append_assoc, read?_escapeChar, ih, List.reverse_cons,
      List.append_assoc]
    rfl

theorem finish_reverse (s : String) :
    (⟨some (s.toList.reverse ++ []), none⟩ : Scrap).finish = some s := by
  simp [Scrap.finish]

/-- A quoted text is read by a machine that begins a text at a quote. -/
theorem read?_quote (fields : Option (List (Option String × Parsed)))
    (hm : m.step? (some '\"') = some ⟨stack, .text fields ⟨some [], none⟩⟩) (s : String) :
    m.read? (Json.quote s ++ rest) =
      (finishText stack fields ⟨some (s.toList.reverse ++ []), none⟩).read? rest := by
  rw [Json.quote, List.cons_append, List.cons_append, List.append_assoc, read?_of_step _ hm,
    List.singleton_append, read?_escaped]

theorem read?_quote_value (s : String) :
    (⟨stack, .value⟩ : Machine).read? (Json.quote s ++ rest) =
      (⟨stack, .after (.text s)⟩ : Machine).read? rest := by
  refine (read?_quote none rfl s).trans ?_
  rw [finishText, finish_reverse]

theorem read?_quote_name (fields : List (Option String × Parsed)) (k : String) :
    (⟨stack, .name fields⟩ : Machine).read? (Json.quote k ++ rest) =
      (⟨.record fields (some k) :: stack, .colon⟩ : Machine).read? rest := by
  refine (read?_quote (some fields) rfl k).trans ?_
  rw [finishText, finish_reverse]

theorem read?_quote_firstName (k : String) :
    (⟨stack, .firstName⟩ : Machine).read? (Json.quote k ++ rest) =
      (⟨.record [] (some k) :: stack, .colon⟩ : Machine).read? rest := by
  refine (read?_quote (some []) rfl k).trans ?_
  rw [finishText, finish_reverse]

theorem read?_colon :
    (⟨stack, .colon⟩ : Machine).read? (':' :: ' ' :: rest) =
      (⟨stack, .value⟩ : Machine).read? rest := by
  rw [read?_of_step ⟨stack, .value⟩ rfl, read?_of_step _ (value_gap rfl)]

/-! ### Numbers -/

/-- What stands here does not go on with a number before it. -/
def Delimited (rest : List Char) : Prop :=
  ∀ c ∈ rest.head?, NumberPart.next? .zero c = none ∧ NumberPart.next? .whole c = none

theorem read?_digits {ds : List Char} (hd : ∀ c ∈ ds, c.isDigit = true) (n : Nat) :
    (⟨stack, .number ⟨false, n, .whole⟩⟩ : Machine).read? (ds ++ rest) =
      (⟨stack, .number ⟨false, ds.foldl (fun n c => n * 10 + (c.toNat - 48)) n, .whole⟩⟩ :
        Machine).read? rest := by
  induction ds generalizing n with
  | nil => rfl
  | cons d ds ih =>
    rw [List.forall_mem_cons] at hd
    have hnext : NumberPart.next? .whole d = some .whole := if_pos hd.1
    rw [List.cons_append, read?_of_step ⟨stack, .number ⟨false, n * 10 + (d.toNat - 48), .whole⟩⟩
      (by rw [step?_number, hnext]), ih hd.2]
    rfl

/-- A number has ended where something else follows. -/
theorem read?_endOfNumber {n : Nat} {part : NumberPart} (hpart : part = .zero ∨ part = .whole)
    (hrest : Delimited rest) :
    (⟨stack, .number ⟨false, n, part⟩⟩ : Machine).read? rest =
      (⟨stack, .after (.natural n)⟩ : Machine).read? rest := by
  have hfin : Numeral.finish? ⟨false, n, part⟩ = some (.natural n) := by
    rcases hpart with rfl | rfl <;> rfl
  refine read?_congr ?_ fun c hc => ?_
  · cases stack with
    | nil => exact hfin
    | cons f stack => rfl
  · have hnext : part.next? c = none := by
      rcases hpart with rfl | rfl
      · exact (hrest c hc).1
      · exact (hrest c hc).2
    rw [step?_number, hnext, hfin]
    rfl

theorem begin?_digit (hd : c.isDigit = true) (h0 : c ≠ '0') :
    begin? stack c = some ⟨stack, .number ⟨false, c.toNat - 48, .whole⟩⟩ := by
  rw [begin?.eq_def]
  split
  iterate 7
    · cases hd
  · exact absurd rfl h0
  · rw [if_pos hd]

theorem isGap_digit (hd : c.isDigit = true) : isGap c = false := by
  rw [Bool.eq_false_iff]
  intro hgap
  simp only [isGap, Bool.or_eq_true, decide_eq_true_eq] at hgap
  rcases hgap with ((rfl | rfl) | rfl) | rfl <;> cases hd

theorem read?_repr (n : Nat) (hrest : Delimited rest) :
    (⟨stack, .value⟩ : Machine).read? ((Nat.repr n).toList ++ rest) =
      (⟨stack, .after (.natural n)⟩ : Machine).read? rest := by
  by_cases hn : n = 0
  · subst hn
    exact (read?_of_step _ rfl).trans (read?_endOfNumber (Or.inl rfl) hrest)
  · have hvalue := Decimal.value_repr n
    have hdigits : ∀ c ∈ (Nat.repr n).toList, c.isDigit = true :=
      fun c hc => Decimal.isDigit_of_mem_repr hc
    obtain ⟨d, ds, heq, h0⟩ := Decimal.exists_repr_eq_cons hn
    rw [heq] at hvalue hdigits ⊢
    rw [List.forall_mem_cons] at hdigits
    have hstep : (⟨stack, .value⟩ : Machine).step? (some d) =
        some ⟨stack, .number ⟨false, d.toNat - 48, .whole⟩⟩ := by
      rw [step?_value, if_neg (by simp [isGap_digit hdigits.1]), begin?_digit hdigits.1 h0]
    have hall : ds.foldl (fun n c => n * 10 + (c.toNat - 48)) (d.toNat - 48) = n := by
      rw [Decimal.value, List.foldl_cons, Nat.zero_mul, Nat.zero_add] at hvalue
      exact hvalue
    rw [List.cons_append, read?_of_step _ hstep, read?_digits hdigits.2, hall]
    exact read?_endOfNumber (Or.inr rfl) hrest

/-! ### Values -/

theorem delimited_nil : Delimited [] := fun _ hc => by cases hc

theorem delimited_newline (depth : Nat) : Delimited (Json.newline depth ++ rest) := by
  rintro c ⟨⟩
  exact ⟨rfl, rfl⟩

theorem delimited_indentedItems (depth inner : Nat) (vs : List Json) :
    Delimited (Json.indentedItems inner vs ++ (Json.newline depth ++ rest)) := by
  cases vs with
  | nil =>
    rw [Json.indentedItems]
    exact delimited_newline depth
  | cons v vs =>
    rw [Json.indentedItems]
    rintro c ⟨⟩
    exact ⟨rfl, rfl⟩

theorem delimited_indentedFields (depth inner : Nat) (fs : List (String × Json)) :
    Delimited (Json.indentedFields inner fs ++ (Json.newline depth ++ rest)) := by
  cases fs with
  | nil =>
    rw [Json.indentedFields]
    exact delimited_newline depth
  | cons f fs =>
    rw [Json.indentedFields]
    rintro c ⟨⟩
    exact ⟨rfl, rfl⟩

theorem exists_indented_eq_cons (depth : Nat) (v : Json) :
    ∃ c cs, v.indented depth = c :: cs ∧ isGap c = false ∧ c ≠ ']' := by
  cases v with
  | natural n =>
    obtain ⟨c, cs, heq⟩ := List.exists_cons_of_ne_nil
      (show (Nat.repr n).toList ≠ [] from Nat.toList_repr ▸ Nat.toDigits_ne_nil)
    have hd : c.isDigit = true := Decimal.isDigit_of_mem_repr (heq ▸ List.mem_cons_self)
    refine ⟨c, cs, by rw [Json.indented, heq], isGap_digit hd, ?_⟩
    rintro rfl
    cases hd
  | text s => exact ⟨_, _, by rw [Json.indented, Json.quote]; rfl, rfl, by decide⟩
  | list vs => cases vs <;> exact ⟨_, _, by rw [Json.indented] <;> rfl, rfl, by decide⟩
  | record fs => cases fs <;> exact ⟨_, _, by rw [Json.indented] <;> rfl, rfl, by decide⟩

/-- A list that has just been opened and does not end at once waits for a value. -/
theorem read?_firstItem (depth : Nat) (v : Json) :
    (⟨stack, .firstItem⟩ : Machine).read? (v.indented depth ++ rest) =
      (⟨stack, .value⟩ : Machine).read? (v.indented depth ++ rest) := by
  obtain ⟨c, cs, heq, hgap, hend⟩ := exists_indented_eq_cons depth v
  rw [heq]
  refine read?_congr (by cases stack <;> rfl) ?_
  rintro d ⟨⟩
  rw [step?_firstItem, step?_value, if_neg (by simp [hgap]), if_neg hend,
    if_neg (by simp [hgap])]

mutual

/-- **A written value is read as that value**, whatever else is open around it. -/
theorem read?_indented (stack : List Frame) (rest : List Char) (depth : Nat) (v : Json)
    (hrest : Delimited rest) :
    (⟨stack, .value⟩ : Machine).read? (v.indented depth ++ rest) =
      (⟨stack, .after v.parsed⟩ : Machine).read? rest := by
  match v with
  | .natural n =>
    rw [Json.indented, Json.parsed]
    exact read?_repr n hrest
  | .text s =>
    rw [Json.indented, Json.parsed]
    exact read?_quote_value s
  | .list [] =>
    rw [Json.indented, Json.parsed, Json.parsedItems]
    exact (read?_of_step _ rfl).trans (read?_of_step _ rfl)
  | .list (v :: vs) =>
    rw [Json.indented, Json.parsed, Json.parsedItems]
    simp only [List.cons_append, List.append_assoc, List.nil_append]
    rw [read?_of_step ⟨.list [] :: stack, .firstItem⟩ rfl,
      read?_newline (fun _ => firstItem_gap), read?_firstItem,
      read?_indented _ _ _ v (delimited_indentedItems _ _ vs), read?_indentedItems]
    rfl
  | .record [] =>
    rw [Json.indented, Json.parsed, Json.parsedFields]
    exact (read?_of_step _ rfl).trans (read?_of_step _ rfl)
  | .record ((k, v) :: fs) =>
    rw [Json.indented, Json.parsed, Json.parsedFields]
    simp only [List.cons_append, List.append_assoc, List.nil_append]
    rw [read?_of_step ⟨stack, .firstName⟩ rfl, read?_newline (fun _ => firstName_gap),
      read?_quote_firstName, read?_colon,
      read?_indented _ _ _ v (delimited_indentedFields _ _ fs), read?_indentedFields]
    rfl

theorem read?_indentedItems (stack : List Frame) (rest : List Char) (depth inner : Nat)
    (items : List Parsed) (p : Parsed) (vs : List Json) :
    (⟨.list items :: stack, .after p⟩ : Machine).read?
        (Json.indentedItems inner vs ++ (Json.newline depth ++ ']' :: rest)) =
      (⟨stack, .after (.list ((p :: items).reverse ++ Json.parsedItems vs))⟩ : Machine).read?
        rest := by
  match vs with
  | [] =>
    rw [Json.indentedItems, List.nil_append, read?_newline (fun _ => after_gap), Json.parsedItems,
      List.append_nil]
    exact read?_of_step _ rfl
  | v :: vs =>
    rw [Json.indentedItems, Json.parsedItems]
    simp only [List.cons_append, List.append_assoc]
    rw [read?_of_step ⟨.list (p :: items) :: stack, .value⟩ rfl,
      read?_newline (fun _ => value_gap), read?_indented _ _ _ v (delimited_indentedItems _ _ vs),
      read?_indentedItems]
    simp

theorem read?_indentedFields (stack : List Frame) (rest : List Char) (depth inner : Nat)
    (fields : List (Option String × Parsed)) (name : Option String) (p : Parsed)
    (fs : List (String × Json)) :
    (⟨.record fields name :: stack, .after p⟩ : Machine).read?
        (Json.indentedFields inner fs ++ (Json.newline depth ++ '\x7d' :: rest)) =
      (⟨stack, .after (.record (((name, p) :: fields).reverse ++ Json.parsedFields fs))⟩ :
        Machine).read? rest := by
  match fs with
  | [] =>
    rw [Json.indentedFields, List.nil_append, read?_newline (fun _ => after_gap),
      Json.parsedFields, List.append_nil]
    exact read?_of_step _ rfl
  | (k, v) :: fs =>
    rw [Json.indentedFields, Json.parsedFields]
    simp only [List.cons_append, List.append_assoc, List.nil_append]
    rw [read?_of_step ⟨stack, .name ((name, p) :: fields)⟩ rfl,
      read?_newline (fun _ => name_gap), read?_quote_name, read?_colon,
      read?_indented _ _ _ v (delimited_indentedFields _ _ fs), read?_indentedFields]
    simp

end

/-! ### After the document -/

theorem run?_append (m : Machine) (a b : List Symbol) :
    m.run? (a ++ b) = m.run? a >>= fun m => m.run? b := by
  induction a generalizing m with
  | nil => rfl
  | cons s a ih =>
    rw [List.cons_append, run?, run?]
    cases m.step? s with
    | none => rfl
    | some m => exact ih m

/-- The machine has read a whole value that is no number. -/
def Done (m : Machine) (v : Parsed) : Prop := m = ⟨[], .after v⟩ ∨ m = ⟨[], .word [] v⟩

theorem Done.finish {v : Parsed} (h : m.Done v) : m.finish? = some v := by
  rcases h with rfl | rfl <;> rfl

/-- Once a value is read only gaps may follow. -/
theorem Done.step {v : Parsed} {m' : Machine} {s : Symbol} (h : m.Done v)
    (hs : m.step? s = some m') : m'.Done v := by
  -- with nothing open any more, only a gap can follow a value
  have follow {c : Char} (hc : follow? [] v c = some m') : m'.Done v := by
    rw [follow?] at hc
    split at hc
    · cases hc
      exact Or.inl rfl
    · cases hc
  cases s with
  | none => rcases h with rfl | rfl <;> cases hs
  | some c => rcases h with rfl | rfl <;> exact follow hs

theorem Done.run {v : Parsed} {m' : Machine} {ss : List Symbol} (h : m.Done v)
    (hr : m.run? ss = some m') : m'.Done v := by
  induction ss generalizing m with
  | nil =>
    cases hr
    exact h
  | cons s ss ih =>
    obtain ⟨next, hnext, hrest⟩ := Option.bind_eq_some_iff.mp hr
    exact ih (h.step hnext) hrest

theorem done_of_finish {v : Parsed} (h : m.finish? = some v) (hn : ∀ n, v ≠ .natural n)
    (ho : v ≠ .otherNumber) : m.Done v := by
  obtain ⟨stack, mode⟩ := m
  rw [finish?.eq_def] at h
  split at h
  · rename_i hstack hmode
    cases hstack
    cases hmode
    cases h
    exact Or.inl rfl
  · rename_i hstack hmode
    cases hstack
    cases hmode
    cases h
    exact Or.inr rfl
  · rename_i n _ _
    rw [Numeral.finish?] at h
    split at h
    · split at h
      · cases h
        exact absurd rfl (hn n.value)
      · cases h
        exact absurd rfl ho
    · cases h
  · cases h

end Machine

/-- What follows a document that is no number cannot make another document of it. -/
theorem ofSymbols?_append {a b : List Symbol} {v w : Parsed} (hv : ofSymbols? a = some v)
    (hn : ∀ n, v ≠ .natural n) (ho : v ≠ .otherNumber) (hw : ofSymbols? (a ++ b) = some w) :
    w = v := by
  obtain ⟨m, hm, hfin⟩ := Option.bind_eq_some_iff.mp hv
  obtain ⟨m', hm', hfin'⟩ := Option.bind_eq_some_iff.mp hw
  rw [Machine.run?_append, hm] at hm'
  have hdone := (Machine.done_of_finish hfin hn ho).run hm'
  rw [hdone.finish] at hfin'
  cases hfin'
  rfl

end Parsed

namespace Json

/-- **A written document is read as what was written.** -/
theorem ofText?_toPretty (v : Json) : Parsed.ofText? v.toPretty = some v.parsed := by
  have h := Parsed.Machine.read?_indented [] [] 0 v Parsed.Machine.delimited_nil
  rw [List.append_nil] at h
  rw [toPretty, Parsed.ofText?, String.toList_ofList]
  exact h

/-- A written record with anything after it is read as that record or not at all. -/
theorem eq_parsed_of_ofBytes?_append {fs : List (String × Json)} {rest : Bytes} {w : Parsed}
    (h : Parsed.ofBytes? (Utf8.encode (toPretty (.record fs)) ++ rest) = some w) :
    w = parsed (.record fs) := by
  rw [Parsed.ofBytes?, Utf8.decode_encode_append] at h
  refine Parsed.ofSymbols?_append (ofText?_toPretty _) (fun n hn => ?_) (fun ho => ?_) h
  · rw [parsed] at hn
    cases hn
  · rw [parsed] at ho
    cases ho

/-- The bytes of a written document are read as what was written. -/
theorem ofBytes?_encode_toPretty (v : Json) :
    Parsed.ofBytes? (Utf8.encode v.toPretty) = some v.parsed := by
  rw [Parsed.ofBytes?, Utf8.decode_encode]
  exact ofText?_toPretty v

end Json
end MetadataAudit
