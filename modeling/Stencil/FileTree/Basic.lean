import Stencil.FileTree.Path

/-! # File trees

A `FileTree` holds files and directories at `Place`s.  Relative paths are followed from its working
directory.  A path is followed name by name, and each name but the last has to lead to a directory.

A tree has no links, neither symbolic nor hard ones: an entry is at one place, and what is written to
a place can be read there and nowhere else.

* `find?_insert`  putting an entry at a place changes what is found there and nothing else. -/

namespace Stencil

/-! ## Faults -/

/-- Why a file cannot be read or written. -/
inductive FileFault where
  | notFound
  | isDirectory
  | notDirectory
  | alreadyExists
  /-- The file does not hold text. -/
  | notText
  /-- A path with a NUL. -/
  | invalidPath
  | nameTooLong
  /-- Any other reason, in the words of the system. -/
  | other (reason : String)
  deriving DecidableEq, Repr

/-- The wording of a fault. -/
def FileFault.message : FileFault → String
  | .notFound => "No such file or directory (os error 2)"
  | .isDirectory => "Is a directory (os error 21)"
  | .notDirectory => "Not a directory (os error 20)"
  | .alreadyExists => "File exists (os error 17)"
  | .notText => "stream did not contain valid UTF-8"
  | .invalidPath => "file name contained an unexpected NUL byte"
  | .nameTooLong => "File name too long (os error 36)"
  | .other reason => reason

/-! ## Trees -/

/-- The names that lead from the root to a place. -/
abbrev Place := List String

/-- What can be at a place. -/
inductive Entry where
  | file (content : ByteArray)
  | directory

/-- Whether there is a directory. -/
def Entry.isDirectory : Entry → Bool
  | .file _ => false
  | .directory => true

/-- Files and directories, and where paths start. -/
structure FileTree where
  home : Place
  entries : List (Place × Entry)

namespace FileTree

/-! ## Places -/

/-- What is at a place.  The root is always there. -/
def find? (t : FileTree) (place : Place) : Option Entry :=
  if place = [] then some .directory else (t.entries.find? (·.1 == place)).map (·.2)

/-- Put an entry at a place. -/
def insert (t : FileTree) (place : Place) (e : Entry) : FileTree :=
  { t with entries := (place, e) :: t.entries.filter (·.1 != place) }

/-- An entry is at its place, and all others are where they were. -/
theorem find?_insert (t : FileTree) (place place' : Place) (e : Entry) (h : place ≠ []) :
    (t.insert place e).find? place' = if place' = place then some e else t.find? place' := by
  unfold find? insert
  by_cases hp : place' = place
  · simp [hp, h]
  · have hpp : (place == place') = false := by simpa using fun e => hp e.symm
    -- Taking out what was at the place does not concern another place.
    have hfind : (t.entries.filter (·.1 != place)).find? (·.1 == place') =
        t.entries.find? (·.1 == place') := by
      induction t.entries with
      | nil => rfl
      | cons q qs ih => by_cases hq : q.1 = place <;> by_cases hq' : q.1 = place' <;> simp_all
    simp [hp, hpp, hfind]

/-- An empty tree with a working directory. -/
def withHome (home : Place) : FileTree :=
  { home, entries := (List.range home.length).map fun i => (home.take (i + 1), .directory) }

/-- The files in the working directory and below, in the order of their places. -/
def homeFiles (t : FileTree) : List (List String × ByteArray) :=
  let files := t.entries.filterMap fun
    | (place, .file content) =>
      if t.home.isPrefixOf place then some (place.drop t.home.length, content) else none
    | (_, .directory) => none
  files.mergeSort fun f g => !decide (g.1 < f.1)

/-! ## Following paths -/

/-- The number of bytes of the longest name. -/
def maxNameBytes : Nat := 255

/-- The number of bytes of the longest path. -/
def maxPathBytes : Nat := 4095

/-- Follow names from a directory. -/
def follow (t : FileTree) (place : Place) : List String → Except FileFault Place
  | [] => .ok place
  | name :: names =>
    let next := if name = "." then place else if name = ".." then place.dropLast else place ++ [name]
    if maxNameBytes < name.utf8ByteSize then .error .nameTooLong
    -- The last name need not lead anywhere: it may be a file that is still to be made.
    else if names.isEmpty then .ok next
    else
      match t.find? next with
      | some .directory => t.follow next names
      | some (.file _) => .error .notDirectory
      | none => .error .notFound

/-- The place of a path. -/
def locate (t : FileTree) (p : Path) : Except FileFault Place :=
  t.follow (if p.absolute then [] else t.home) p.names

/-- The path of a text, if the text is fit to be one. -/
def path (s : String) : Except FileFault Path :=
  if s.toList.contains '\x00' then .error .invalidPath
  else if s.isEmpty then .error .notFound
  else if maxPathBytes < s.utf8ByteSize then .error .nameTooLong
  else .ok (Path.ofText s)

/-! ## Reading and writing -/

/-- The text of a file. -/
def readText (t : FileTree) (file : String) : Except FileFault String := do
  let p ← path file
  match t.find? (← t.locate p) with
  | none => .error .notFound
  | some .directory => .error .isDirectory
  | some (.file content) =>
    if p.slashed then .error .notDirectory
    else
      match String.fromUTF8? content with
      | some s => .ok s
      | none => .error .notText

/-- Write a text to a file, which need not be there. -/
def writeText (t : FileTree) (file content : String) : Except FileFault FileTree := do
  let p ← path file
  let place ← t.locate p
  if p.slashed || (t.find? place).any Entry.isDirectory then .error .isDirectory
  else .ok (t.insert place (.file content.toUTF8))

/-- Make a directory. -/
def makeDirectory (t : FileTree) (p : Path) : Except FileFault FileTree := do
  let place ← t.locate p
  match t.find? place with
  | some _ => .error .alreadyExists
  | none => .ok (t.insert place .directory)

/-- Whether a path leads to a directory. -/
def isDirectory (t : FileTree) (p : Path) : Bool :=
  match t.locate p with
  | .ok place => (t.find? place).any Entry.isDirectory
  | .error _ => false

/-- Make a directory unless it is there.  The paths are that of the directory and those above it, the
nearest first: where a directory is missing, the one above it is made first.  What has been made
stays even if there is a fault. -/
def makeDirectories (t : FileTree) : List Path → Except FileFault Unit × FileTree
  | [] => (.ok (), t)
  | p :: ps =>
    let make (t : FileTree) : Except FileFault Unit × FileTree :=
      match t.makeDirectory p with
      | .ok t => (.ok (), t)
      | .error fault => (if t.isDirectory p then .ok () else .error fault, t)
    match t.makeDirectory p with
    | .error .notFound =>
      match t.makeDirectories ps with
      | (.ok (), t) => make t
      | (.error fault, t) => (.error fault, t)
    | _ => make t

/-- Make a directory and all that are missing above it. -/
def createDirectories (t : FileTree) (directory : String) : Except FileFault Unit × FileTree :=
  if directory.isEmpty then (.ok (), t)
  else
    match path directory with
    | .error fault => (.error fault, t)
    | .ok p =>
      let above := (Path.above p.names.reverse).filter (!·.isEmpty)
      t.makeDirectories (p :: above.map fun names => { p with names, slashed := false })

end FileTree
end Stencil
