import MetadataAudit.Check.Kind
import MetadataAudit.Store.Persist

/-! # Editing the store

The edits that a person makes to a store: checks are added to a profile, which is made if there is
none, or a profile is removed.  An edit is refused before anything of it is done.
-/
namespace MetadataAudit

/-- A change to the store. -/
inductive Edit where
  /-- Adds checks to the profile of a name. -/
  | add (profile : String) (checks : List String)
  /-- Removes the profile of a name. -/
  | remove (profile : String)
deriving DecidableEq

/-- Why an edit was refused. -/
inductive EditError where
  | unknownCheck (check : String)
  | notCreated (profile : String) (cause : ProfileError)
  | profileMissing (profile : String)
  | notSaved (cause : ProfileError)
deriving DecidableEq

/-- A store after an edit, with what the log is told of it. -/
structure Edited where
  store : Store
  events : List Log.Event := []

namespace Edit

/-- The kinds of a list of names, each of which must be known. -/
def kinds : List String → Except EditError (List Kind)
  | [] => .ok []
  | name :: names =>
    match Kind.ofName? name with
    | some k => (kinds names).map (k :: ·)
    | none => .error (.unknownCheck name)

/-- Adds a check through a handle, unless it is there. -/
def addKind (profile : String) (h : Handle) (now : Timestamp) (e : Edited) (k : Kind) : Edited :=
  match e.store.addValidation h k.name k.description now with
  | (true, store) => { e with store }
  | (false, store) =>
    { store, events := e.events ++ [⟨.info, .command, "Check already in profile",
        [("profile", .plain profile), ("check", .quoted k.name)]⟩] }

/-- Adds checks to the profile of a name. -/
def addKinds (profile : String) (ks : List Kind) (s : Store) (now : Timestamp) :
    Except EditError Edited :=
  match s.find? profile with
  | some h => .ok (ks.foldl (addKind profile h now) { store := s })
  | none =>
    match Profile.create profile (ks.map Kind.toValidation) now >>= fun p => s.set p now with
    | .error e => .error (.notCreated profile e)
    | .ok store =>
      .ok { store, events := [⟨.info, .command, "Created profile", [("profile", .plain profile)]⟩] }

/-- The store after an edit. -/
def apply (edit : Edit) (s : Store) (now : Timestamp) : Except EditError Edited :=
  match edit with
  | add profile checks => kinds checks >>= fun ks => addKinds profile ks s now
  | remove profile =>
    match s.remove profile now with
    | (some _, store) => .ok { store }
    | (none, _) => .error (.profileMissing profile)

/-- What the log is told once the edit is saved. -/
def farewell : Edit → List Log.Event
  | add _ _ => []
  | remove profile => [⟨.info, .command, "Removed profile", [("profile", .plain profile)]⟩]

end Edit

namespace EditError

/-- What went wrong, in words, and the failure behind it. -/
def messages : EditError → List String
  | unknownCheck check => [s!"unknown check '{check}'; run `checks` to list them"]
  | notCreated profile cause => [s!"create profile '{profile}'", cause.message]
  | profileMissing profile => [s!"profile '{profile}' not found"]
  | notSaved cause => ["save profiles", cause.message] ++ cause.cause?.toList

/-- What a person may do about it. -/
def suggestion? : EditError → Option String
  | notCreated _ cause | notSaved cause => cause.suggestion?
  | _ => none

end EditError
end MetadataAudit
