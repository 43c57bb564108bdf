/-! # Dictionaries

A dictionary keeps one value per name, with the names strictly ascending, so that two dictionaries
with the same content are equal and every listing comes out in the order of the names.
-/
namespace MetadataAudit

namespace Entries

variable {α : Type}

/-- The entries with `value` under `name`: a new entry in its sorted place, or in place of the one
that was there. -/
def put (name : String) (value : α) : List (String × α) → List (String × α)
  | [] => [(name, value)]
  | e :: es =>
    if name < e.1 then (name, value) :: e :: es
    else if name = e.1 then (name, value) :: es
    else e :: put name value es

/-- The names strictly ascend. -/
def Ascending (es : List (String × α)) : Prop :=
  es.Pairwise fun a b => a.1 < b.1

theorem mem_put {name : String} {value : α} {es : List (String × α)} {x : String × α} :
    x ∈ put name value es → x = (name, value) ∨ x ∈ es := by
  induction es with
  | nil => simp [put]
  | cons e es ih =>
    rw [put]
    split
    · simp
    · split
      · simp only [List.mem_cons]; rintro (h | h) <;> simp [h]
      · simp only [List.mem_cons]
        rintro (h | h)
        · simp [h]
        · rcases ih h with h | h <;> simp [h]

theorem ascending_put (name : String) (value : α) {es : List (String × α)}
    (h : Ascending es) : Ascending (put name value es) := by
  induction es with
  | nil => simp [put, Ascending]
  | cons e es ih =>
    have hcons := List.pairwise_cons.mp h
    rw [put]
    split
    · rename_i hlt
      refine List.pairwise_cons.mpr ⟨?_, h⟩
      intro x hx
      rcases List.mem_cons.mp hx with rfl | hx
      · exact hlt
      · exact String.lt_trans hlt (hcons.1 x hx)
    · split
      · rename_i _ heq
        refine List.pairwise_cons.mpr ⟨?_, hcons.2⟩
        intro x hx
        exact heq ▸ hcons.1 x hx
      · rename_i hlt hne
        refine List.pairwise_cons.mpr ⟨?_, ih hcons.2⟩
        intro x hx
        rcases mem_put hx with rfl | hx
        · rcases Decidable.em (e.1 < name) with h' | h'
          · exact h'
          · exact absurd (String.le_antisymm (String.not_lt.mp h') (String.not_lt.mp hlt)) hne
        · exact hcons.1 x hx

theorem ascending_filter {p : String × α → Bool} {es : List (String × α)}
    (h : Ascending es) : Ascending (es.filter p) :=
  List.Pairwise.filter p h

theorem ascending_map {β : Type} (f : String → α → β) {es : List (String × α)}
    (h : Ascending es) : Ascending (es.map fun e => (e.1, f e.1 e.2)) :=
  List.Pairwise.map _ (fun _ _ h => h) h

theorem lookup_put (name : String) (value : α) (es : List (String × α)) (n : String) :
    (put name value es).lookup n = if n = name then some value else es.lookup n := by
  induction es with
  | nil => rw [put]; grind
  | cons e es ih => rw [put]; grind

theorem lookup_filter_ne (name : String) (es : List (String × α)) (n : String) :
    (es.filter fun e => e.1 != name).lookup n = if n = name then none else es.lookup n := by
  induction es with
  | nil => simp
  | cons e es ih => grind

end Entries

/-- One value per name, names strictly ascending. -/
structure Dictionary (α : Type) where
  entries : List (String × α)
  ascending : Entries.Ascending entries

namespace Dictionary

variable {α β : Type}

instance [DecidableEq α] : DecidableEq (Dictionary α) := fun a b =>
  if h : a.entries = b.entries then
    isTrue (by cases a; cases b; cases h; rfl)
  else
    isFalse fun hab => h (hab ▸ rfl)

/-- The dictionary without entries. -/
def empty : Dictionary α := ⟨[], List.Pairwise.nil⟩

instance : Inhabited (Dictionary α) := ⟨empty⟩

/-- Puts `value` under `name`, in place of what was there. -/
def insert (d : Dictionary α) (name : String) (value : α) : Dictionary α :=
  ⟨Entries.put name value d.entries, Entries.ascending_put name value d.ascending⟩

/-- The value under a name. -/
def get? (d : Dictionary α) (name : String) : Option α :=
  d.entries.lookup name

/-- Whether there is a value under a name. -/
def contains (d : Dictionary α) (name : String) : Bool :=
  (d.get? name).isSome

/-- Puts `value` under `name` unless there is one already. -/
def insertNew (d : Dictionary α) (name : String) (value : α) : Dictionary α :=
  if d.contains name then d else d.insert name value

/-- The dictionary without the entry under a name. -/
def erase (d : Dictionary α) (name : String) : Dictionary α :=
  ⟨d.entries.filter fun e => e.1 != name, Entries.ascending_filter d.ascending⟩

/-- The names, ascending. -/
def names (d : Dictionary α) : List String := d.entries.map Prod.fst

/-- The values in the order of their names. -/
def values (d : Dictionary α) : List α := d.entries.map Prod.snd

/-- How many entries there are. -/
def size (d : Dictionary α) : Nat := d.entries.length

/-- The same names with other values. -/
def map (f : String → α → β) (d : Dictionary α) : Dictionary β :=
  ⟨d.entries.map fun e => (e.1, f e.1 e.2), Entries.ascending_map f d.ascending⟩

@[simp] theorem get?_empty (name : String) : (empty : Dictionary α).get? name = none := rfl

@[simp] theorem get?_insert (d : Dictionary α) (name : String) (value : α) (n : String) :
    (d.insert name value).get? n = if n = name then some value else d.get? n :=
  Entries.lookup_put name value d.entries n

@[simp] theorem get?_erase (d : Dictionary α) (name n : String) :
    (d.erase name).get? n = if n = name then none else d.get? n :=
  Entries.lookup_filter_ne name d.entries n

/-- The entries of a list; of two under one name the later one stays. -/
def ofList (es : List (String × α)) : Dictionary α :=
  es.foldl (fun d e => d.insert e.1 e.2) empty

/-- The same names with values that may fail to be made; they are made in the order of the names, and
the first failure is the outcome. -/
def mapM {ε : Type} (f : String → α → Except ε β) (d : Dictionary α) : Except ε (Dictionary β) := do
  let entries ← d.entries.mapM fun (name, value) => do return (name, ← f name value)
  return .ofList entries

end Dictionary

/-- A set of names, listed in ascending order. -/
abbrev NameSet := Dictionary Unit

namespace NameSet

/-- The set of the names in a list. -/
def ofNames (names : List String) : NameSet :=
  Dictionary.ofList (names.map fun n => (n, ()))

end NameSet
end MetadataAudit
