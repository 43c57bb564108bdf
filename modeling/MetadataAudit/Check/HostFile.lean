import MetadataAudit.Check.Basic

/-! # Host files

Every file name leads to a file under the host directory.  The name of the mount point that the
host directory and the spreadsheet share is dropped, and so are slashes in front.
-/
namespace MetadataAudit
namespace HostFile

/-- The mount point that a file name may begin with. -/
def mountPoint : List Char := "Masters/".toList

/-- The part of a file name below the host directory. -/
def relative (value : String) : String :=
  let cs := value.toList
  let cs := if mountPoint.isPrefixOf cs then cs.drop mountPoint.length else cs
  String.ofList (cs.dropWhile (· = '/'))

/-- Where the file of a file name is kept. -/
def resolve (hostDir : Path) (value : String) : Path :=
  Path.join hostDir (relative value)

/-- A file name leads to something under the host directory. -/
def check (ctx : Context) (profile : String) (l : Location) (g : Grid) : Outcome :=
  Check.onField [Field.fileName] profile l g fun value =>
    if Text.isBlank value then .clean
    else
      match ctx.hostDir with
      | none => .reject .noHostDirectory l profile
      | some hostDir =>
        let path := resolve hostDir value
        let missing := Violation.ofProblem (.fileMissing path) l profile
        match ctx.fileExists path with
        | .ok true => { looked := [path] }
        | .ok false => { violations := [missing], looked := [path] }
        | .error e => { violations := [missing.causedByText e.text], looked := [path] }

end HostFile
end MetadataAudit
