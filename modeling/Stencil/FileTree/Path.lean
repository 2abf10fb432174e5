/-! # Paths

A `Path` is a row of names, each of which leads one step further.  A dot stays in place, and two dots
lead one step up; what is above a name that is no directory is not reached that way, so these names
stay in the path until it is followed.

* `names_ofText_name`  a name without a slash is a path of its own. -/

namespace Stencil

/-- A way through a file tree. -/
structure Path where
  /-- The path starts at the root. -/
  absolute : Bool := false
  names : List String
  /-- The path ends with a slash, so that it leads to a directory. -/
  slashed : Bool := false
  deriving DecidableEq, Repr

namespace Path

/-- The pieces of a text between its slashes. -/
def pieces : List Char → List (List Char)
  | [] => [[]]
  | c :: cs =>
    if c = '/' then [] :: pieces cs
    else
      match pieces cs with
      | [] => [[c]]
      | p :: ps => (c :: p) :: ps

/-- The path of a text.  Several slashes in a row are one. -/
def ofText (s : String) : Path where
  absolute := s.toList.head? == some '/'
  names := ((pieces s.toList).filter (!·.isEmpty)).map String.ofList
  slashed := s.toList.getLast? == some '/'

/-- Put the text of a path behind that of a directory, unless it starts at the root. -/
def join (directory path : String) : String :=
  if path.toList.head? = some '/' then path
  else if directory.isEmpty || directory.toList.getLast? = some '/' then directory ++ path
  else directory ++ "/" ++ path

/-- The last name that does not stay in place, if it does not lead up. -/
def fileName? (p : Path) : Option String :=
  (p.names.reverse.dropWhile (· == ".")).head?.filter (· != "..")

/-- The part of a file's name behind the last dot that has something in front of it. -/
def extension? (p : Path) : Option String :=
  p.fileName?.bind fun name =>
    let cs := name.toList.reverse
    match cs.dropWhile (· != '.') with
    | _ :: _ :: _ => some (String.ofList (cs.takeWhile (· != '.')).reverse)
    | _ => none

/-- The rows of names that lead to what is above the end of a reversed row, the nearest first. -/
def above : List String → List (List String)
  | [] => []
  | name :: names =>
    if name = "." then above names else (names.dropWhile (· == ".")).reverse :: above names

/-- Text without slashes is one piece. -/
theorem pieces_name {cs : List Char} (h : '/' ∉ cs) : pieces cs = [cs] := by
  induction cs with
  | nil => rfl
  | cons c cs ih =>
    rw [pieces, if_neg fun e => h (by simp [e]), ih fun m => h (List.mem_cons_of_mem _ m)]

/-- So a name without slashes is the only name of its path. -/
theorem names_ofText_name {s : String} (h : '/' ∉ s.toList) (h' : s ≠ "") :
    (ofText s).names = [s] := by
  have hs : s.toList ≠ [] := fun e => h' (by simpa using e)
  simp [ofText, pieces_name h, hs]

end Path
end Stencil
