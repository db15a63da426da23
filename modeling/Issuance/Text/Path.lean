/-! # Slash-separated paths

Cleaning drops empty and `.` elements and lets `..` remove the one before;
an empty result is `.`. Joining cleans the parts put together, and a
directory is what precedes the last slash. -/
namespace Issuance.Text.Path

/-- The elements of a path after `.` and `..` are resolved; `rooted` says
whether a `..` at the front is dropped (it is, above the root). -/
def resolve (rooted : Bool) (parts : List String) : List String :=
  (parts.foldl (fun acc p =>
    if p.isEmpty || p = "." then acc
    else if p = ".." then
      match acc with
      | q :: rest => if q = ".." then p :: acc else rest
      | [] => if rooted then [] else [p]
    else p :: acc) []).reverse

def clean (path : String) : String :=
  if path.isEmpty then "." else
  let rooted := path.startsWith "/"
  let parts := resolve rooted (path.splitOn "/")
  let body := "/".intercalate parts
  if rooted then "/" ++ body else if body.isEmpty then "." else body

/-- The non-empty parts joined with slashes and cleaned; no such parts give
the empty path. -/
def join (parts : List String) : String :=
  match parts.filter (!·.isEmpty) with
  | [] => ""
  | ps => clean ("/".intercalate ps)

def dir (path : String) : String :=
  let cs := path.toList
  let before := (cs.reverse.dropWhile (· ≠ '/')).reverse
  clean (String.ofList before)

end Issuance.Text.Path
