import MetadataAudit.Text.Split

/-! # Paths

A path is a text of names separated by slashes.  Its parent is what stands before the last name;
slashes and lone dots at the end of a path mean nothing.
-/
namespace MetadataAudit

/-- The path of a file or directory. -/
abbrev Path := String

namespace Path

/-- Drops slashes and lone dots from the end of a path that is given last character first; the
slash of the root stays. -/
def trimEnd : List Char → List Char
  | '/' :: rest => if rest.isEmpty then ['/'] else trimEnd rest
  | '.' :: '/' :: rest => if rest.isEmpty then ['/'] else trimEnd rest
  | cs => cs

/-- The path before the last name.  The root and the empty path have none. -/
def parent? (p : Path) : Option Path :=
  match trimEnd p.toList.reverse with
  | [] => none
  | ['/'] => none
  | cs =>
    let rest := cs.dropWhile (· ≠ '/')
    some (String.ofList (trimEnd rest).reverse)

/-- The directory that a file of this path lies in; a lone name lies in the current one. -/
def directory (p : Path) : Path :=
  match parent? p with
  | some d => if d.isEmpty then "." else d
  | none => "."

/-- The path itself, its parent, the parent of that, and so on, up to a path without a name. -/
def lineage (p : Path) : List Path :=
  go (p.length + 1) p
where
  go : Nat → Path → List Path
    | 0, _ => []
    | fuel + 1, p =>
      if p.isEmpty then []
      else p :: match parent? p with
        | some d => go fuel d
        | none => []

/-- A path below a directory: a slash is put between them unless the directory ends in one or is
empty.  A path that begins with a slash stands for itself. -/
def join (directory p : Path) : Path :=
  if p.toList.head? = some '/' then p
  else if directory.isEmpty || directory.toList.getLast? = some '/' then directory ++ p
  else directory ++ "/" ++ p

/-- The names of a path, with the empty ones that slashes leave. -/
def names (p : Path) : List String :=
  Text.split '/' p

end Path
end MetadataAudit
