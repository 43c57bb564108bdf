/-! # Search by halving

In a list that ascends, something is looked for by asking how the element in the middle stands to it and
going on in one half, until a single element is left.  That one is what was looked for, or it tells where
that belongs.
-/
namespace MetadataAudit
namespace Search

/-- Where something stands in a list, or before which index it belongs if it is not there. -/
inductive Position where
  | found (index : Nat)
  | missing (index : Nat)
deriving DecidableEq

variable {α : Type} (order : α → Ordering)

/-- The index that is left of the `size` elements from `base` on. -/
def narrow (xs : List α) (base size : Nat) (hpos : 0 < size) (hfits : base + size ≤ xs.length) :
    Fin xs.length :=
  if hone : size = 1 then ⟨base, by omega⟩
  else
    have hmiddle : base + size / 2 < xs.length := by omega
    if order xs[base + size / 2] = .gt then
      narrow xs base (size - size / 2) (by omega) (by omega)
    else narrow xs (base + size / 2) (size - size / 2) (by omega) (by omega)
termination_by size

/-- What is known when one element is left: it is equal, or what is looked for belongs beside it. -/
def settle (xs : List α) (i : Fin xs.length) : Position :=
  match order (xs.get i) with
  | .eq => .found i
  | .lt => .missing (i + 1)
  | .gt => .missing i

/-- Where in a list the element stands that compares as equal. -/
def locate (xs : List α) : Position :=
  if hempty : xs = [] then .missing 0
  else
    settle order xs
      (narrow order xs 0 xs.length (List.length_pos_iff.mpr hempty) (Nat.le_of_eq (Nat.zero_add _)))

end Search
end MetadataAudit
