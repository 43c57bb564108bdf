import MetadataAudit.Store.Persist

/-! # Changes made in place

Callers hold on to the objects of a store while it changes, so a store in use is not made anew by an
operation but written to, one thing after another.  These are the operations in that form, with
their steps in the order in which they are made.  What was written before a step fails stays
written.
-/
namespace MetadataAudit

/-- A store in use, and the files. -/
structure World where
  store : Store
  files : FileTree

/-- A change that is made step by step and may fail on the way. -/
abbrev Change (α : Type) := ExceptT ProfileError (StateM World) α

namespace Change

variable {α : Type}

/-- Takes something from the store as it stands. -/
def look (f : Store → α) : Change α := fun w => (.ok (f w.store), w)

/-- Writes to the store. -/
def write (f : Store → Store) : Change Unit := fun w => (.ok (), { w with store := f w.store })

/-- Takes something from the files as they stand, which may fail. -/
def consult (f : FileTree → Except ProfileError α) : Change α := fun w => (f w.files, w)

/-- Goes on with what was made elsewhere, unless that failed. -/
def accept (x : Except ProfileError α) : Change α := fun w => (x, w)

/-- Makes a profile an object. -/
def allocate (p : Profile) : Change Handle := do
  let h ← look fun s => s.objects.length
  write fun s => { s with objects := s.objects ++ [p] }
  return h

/-- Takes the entry under a name out of the store, if there is one. -/
def takeOut (name : String) : Change (Option Handle) := do
  let found ← look (·.find? name)
  write fun s => { s with index := s.index.erase name }
  return found

/-- Puts an object under a name, in place of what was there. -/
def putIn (name : String) (h : Handle) : Change Unit :=
  write fun s => { s with index := s.index.insert name h }

/-- Notes the time of a change to the store. -/
def touch (now : Timestamp) : Change Unit :=
  write fun s => { s with lastUpdate := now }

/-- Notes the time of a change to an object. -/
def stamp (h : Handle) (now : Timestamp) : Change Unit :=
  write (·.modify h fun p => { p with lastUpdate := now })

/-- Stores a profile as a new object under its name. -/
def set (p : Profile) (now : Timestamp) : Change Unit := do
  if p.name = "" then throw .emptyName
  else
    let h ← allocate p
    putIn p.name h
    touch now

/-- Lets go of the profile under a name; gives its handle, or `none` when there is none. -/
def remove (name : String) (now : Timestamp) : Change (Option Handle) := do
  match ← takeOut name with
  | some h =>
    touch now
    return some h
  | none => return none

/-- Moves the profile under `old` to the name `new`. -/
def rename (old new : String) (now : Timestamp) : Change Unit := do
  if new = "" then throw .emptyName
  else if old = new then
    if ← look (·.index.contains old) then return () else throw (.notFound old)
  else if ← look (·.index.contains new) then throw (.duplicate new)
  else
    match ← takeOut old with
    | none => throw (.notFound old)
    | some h =>
      write (·.modify h fun p => { p with name := new })
      stamp h now
      putIn new h
      touch now

/-- Adds a validation through a handle; says whether it was added. -/
def addValidation (h : Handle) (name description : String) (now : Timestamp) : Change Bool := do
  match ← look (·.object? h) with
  | none => return false
  | some p =>
    if p.checks.contains name then return false
    else
      write (·.modify h fun p => { p with checks := p.checks.insert name description })
      stamp h now
      return true

/-- Replaces all validations through a handle. -/
def setValidations (h : Handle) (vs : List Validation) (now : Timestamp) : Change Unit := do
  write (·.modify h fun p => { p with checks := Profile.gather vs })
  stamp h now

/-- Makes an object of each profile of a document, under the name that it says. -/
def allocateAll (ds : List ProfileDocument) : Change (Dictionary Handle) :=
  ds.foldlM (fun index d => do
    let p ← accept (Profile.ofDocument d)
    let h ← allocate p
    return index.insert p.name h) .empty

/-- Takes over the document in the store's file. -/
def refresh (now : Timestamp) : Change Unit := do
  match ← look Store.path with
  | none => throw .pathNotConfigured
  | some path =>
    let d ← consult fun t => StoreDocument.load t path now
    let index ← allocateAll d.profiles.values
    write fun s => { s with index }
    touch d.lastUpdate

/-- Writes the store to its file. -/
def save : Change Unit := do
  match ← look Store.path with
  | none => throw .pathNotConfigured
  | some path =>
    let text ← look Store.text
    fun w => match Store.writeAtomically w.files path text with
      | (r, files) => (r, { w with files })

end Change
end MetadataAudit
