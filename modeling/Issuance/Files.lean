/-! # A tree of files

What a program sees through relative paths: a file with its text, a
directory, nothing, or a path through a file. -/
namespace Issuance

/-- Files and directories relative to a working directory: each file with
its text, and the directories made apart from those holding files. -/
structure Files where
  files : List (String × String) := []
  dirs : List String := []

inductive Entry where
  | missing
  | throughFile
  | file (text : String)
  | directory
  deriving DecidableEq, Repr

namespace Files

def parts (path : String) : List String := (path.splitOn "/").filter (fun p => !p.isEmpty && p ≠ ".")

def fileAt? (fs : Files) (ps : List String) : Option String :=
  (fs.files.find? (fun (p, _) => parts p = ps)).map (·.2)

/-- Whether a path, as its parts, is a directory: the working directory, one
made, or one holding a file or directory. -/
def isDir (fs : Files) (ps : List String) : Bool :=
  ps.isEmpty || fs.dirs.any (fun d => ps.isPrefixOf (parts d)) ||
    fs.files.any (fun (p, _) => ps.isPrefixOf (parts p) && parts p ≠ ps)

/-- What a relative path names; `..` is taken as written, a step up. -/
def lookup (fs : Files) (path : String) : Entry :=
  let ps := parts path
  let rec walk (seen : List String) : List String → Entry
    | [] => if fs.isDir seen then .directory else .missing
    | [last] =>
      let here := if last = ".." then seen.dropLast else seen ++ [last]
      match fs.fileAt? here with
      | some text => if path.endsWith "/" then .throughFile else .file text
      | none => if fs.isDir here then .directory else .missing
    | p :: rest =>
      let here := if p = ".." then seen.dropLast else seen ++ [p]
      if (fs.fileAt? here).isSome then .throughFile
      else if fs.isDir here then walk here rest
      else .missing
  if path.startsWith "/" then .missing else walk [] ps

def samePath (a b : String) : Bool := parts a == parts b

def withDir (fs : Files) (path : String) : Files := { fs with dirs := fs.dirs ++ [path] }

/-- The files with a file written, replacing one at the same path. -/
def withFile (fs : Files) (path text : String) : Files :=
  { fs with files := (fs.files.filter fun (p, _) => !samePath p path) ++ [(path, text)] }

/-- Whether the directory a path lies in is there: everything up to its
last slash, or the working directory. -/
def parentThere (fs : Files) (path : String) : Bool :=
  fs.isDir (parts path).dropLast

end Files

end Issuance
