import Stencil.FileTree.Access
import Stencil.Profile.Registry
import Stencil.Profile.Codec
import Stencil.Yaml.Tree

/-! # Profiles of files

A profile of one's own is a text in YAML, of which JSON is a part.  Where a file is asked for, the code
of a built-in profile stands for that profile. -/

namespace Stencil

namespace Profile

/-- The profile of a text in YAML. -/
def ofYaml (s : String) : Except Problem Profile := do
  let p ← (decoder.run (Yaml.ofText s)).mapError fun _ => Problem.unfitProfile
  p.check
  return p.resolved

/-- The problem that a missing or faulty profile file is. -/
def problemOf (path : String) : FileFault → Problem
  | .notFound => .profileNotFound path (builtin.map (·.code))
  | fault => .unreadableProfile path fault

variable {m : Type → Type} [Monad m] [FileAccess m]

/-- The built-in profile of a code, or else the profile of a file. -/
def load (path : String) : ExceptT Problem m Profile := do
  match builtin.find? (·.code == path) with
  | some p => return p
  | none =>
    let s ← readFile (problemOf path) path
    MonadExcept.ofExcept (ofYaml s)

end Profile

/-- The registry of the built-in profiles and those of files. -/
def Registry.load {m : Type → Type} [Monad m] [FileAccess m] (paths : List String) :
    ExceptT Problem m Registry :=
  paths.foldlM (fun r path => do MonadExcept.ofExcept (r.register (← Profile.load path))) Registry.builtin

end Stencil
