import Stencil.FileTree.Basic
import Stencil.Problem

/-! # Access to files

`FileAccess` is what a program asks of files, whether they are those of a `FileTree` or those of the
system. -/

namespace Stencil

/-- What can be asked of files. -/
class FileAccess (m : Type → Type) where
  /-- The text of a file. -/
  readText : String → m (Except FileFault String)
  /-- Make a directory and all that are missing above it. -/
  createDirectories : String → m (Except FileFault Unit)
  /-- Write a text to a file. -/
  writeText (path content : String) : m (Except FileFault Unit)

instance : FileAccess (StateM FileTree) where
  readText path := fun t => (t.readText path, t)
  createDirectories path := fun t => t.createDirectories path
  writeText path content := fun t =>
    match t.writeText path content with
    | .ok t' => (.ok (), t')
    | .error fault => (.error fault, t)

/-- The problem that a missing or faulty input file is. -/
def Problem.ofInput (path : String) : FileFault → Problem
  | .notFound => .fileNotFound path
  | fault => .file fault

/-- Read the text of a file, and report a fault as a problem. -/
def readFile {m : Type → Type} [Monad m] [FileAccess m] (problem : FileFault → Problem)
    (path : String) : ExceptT Problem m String :=
  ExceptT.mk do
    let r ← FileAccess.readText path
    return r.mapError problem

/-- Report a fault of a file as a problem. -/
def settle {m : Type → Type} [Monad m] {α : Type} (act : m (Except FileFault α)) : ExceptT Problem m α :=
  ExceptT.mk do
    let r ← act
    return r.mapError .file

end Stencil
