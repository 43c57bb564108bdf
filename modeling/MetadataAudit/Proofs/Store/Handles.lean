import MetadataAudit.Proofs.Store.Run

/-! # Handles in a run

A handle leads to an object, and a name leads to a handle.  While the entry that a handle was got
from is there, under whatever name it was moved to (`Store.follow`), what is done through the handle
shows in that entry.  Once another profile was stored over the entry, or it was removed, or the
store took over a document, the handle leads to an object of its own: the store shows nothing of
what is done to it, and nothing that is done to the store reaches it.
-/
namespace MetadataAudit

namespace Store

variable {s s' : Store} {now : Timestamp} {o : Operation} {ops : List (Timestamp × Operation)}
  {h : Handle} {key name : String} {p : Profile}

namespace Operation

/-- What an operation makes of the object of a handle, if it is an operation on it. -/
def edit (h : Handle) (now : Timestamp) (p : Profile) : Operation → Profile
  | .addValidation k check description =>
    if k = h then (p.addValidation check description now).2 else p
  | .setValidations k vs => if k = h then p.setValidations vs now else p
  | _ => p

end Operation

/-- A profile after those of some operations that go through a handle. -/
def edited (h : Handle) (ops : List (Timestamp × Operation)) (p : Profile) : Profile :=
  ops.foldl (fun p o => o.2.edit h o.1 p) p

/-- The key of an entry after an operation, if that succeeds; `none` if the entry is replaced,
removed or swept. -/
def Operation.moved (key : String) : Operation → Option String
  | .set draft => if draft.build.toOption.map Profile.name = some key then none else some key
  | .remove name => if name = key then none else some key
  | .rename old new => if old = key then some new else some key
  | .refresh _ => none
  | _ => some key

/-- The key of an entry after an operation, whether it succeeds or fails. -/
def keyAfter (s : Store) (now : Timestamp) (key : String) (o : Operation) : Option String :=
  match s.perform now o with
  | .ok _ => o.moved key
  | .error _ => some key

/-- The key of an entry after operations, through all its renames; `none` once the entry is gone. -/
def follow (s : Store) (key : String) : List (Timestamp × Operation) → Option String
  | [] => some key
  | o :: ops => s.keyAfter o.1 key o.2 >>= fun k => (s.after o.1 o.2).follow k ops

/-- A handle leads to the entry under a key: the object bears the key for its name, and the store
shows it there. -/
structure Shows (s : Store) (h : Handle) (key : String) (p : Profile) : Prop where
  find? : s.find? key = some h
  object? : s.object? h = some p
  name : p.name = key
  get? : s.get? key = some p
  document : s.toDocument.profiles.get? key = some p.toDocument

end Store
end MetadataAudit
