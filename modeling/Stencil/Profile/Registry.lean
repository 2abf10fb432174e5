import Stencil.Profile.Builtin

/-! # Registries of profiles

A `Registry` holds profiles in the order of their registration.  Each has passed its check and says what
types stand in comments; registering a profile replaces the one with the same code. -/

namespace Stencil

open Text

/-- The profiles that can be asked for. -/
structure Registry where
  profiles : List Profile
  deriving DecidableEq, Repr

namespace Registry

/-- A registry without profiles. -/
def empty : Registry := ⟨[]⟩

/-- The registry of the built-in profiles. -/
def builtin : Registry := ⟨Profile.builtin⟩

/-- The codes of the profiles. -/
def codes (r : Registry) : List String := r.profiles.map (·.code)

/-- Put a profile in the place of the first one with its code, or at the end. -/
def place (p : Profile) : List Profile → List Profile
  | [] => [p]
  | q :: qs => if q.code = p.code then p :: qs else q :: place p qs

/-- Register a profile, unless its check fails. -/
def register (r : Registry) (p : Profile) : Except Problem Registry := do
  p.check
  return ⟨place p.resolved r.profiles⟩

/-- Register profiles in order. -/
def registerAll (r : Registry) (ps : List Profile) : Except Problem Registry := ps.foldlM register r

/-- The profile with a code or name; letter case matters only if one fits exactly. -/
def get? (r : Registry) (lang : String) : Option Profile :=
  -- An exact match anywhere wins over an earlier one that differs in letter case.
  r.profiles.find? (fun p => p.code == lang || p.name == lang) <|>
    r.profiles.find? fun p => sameIgnoringCase p.code lang || sameIgnoringCase p.name lang

/-- The profile with a code or name. -/
def require (r : Registry) (lang : String) : Except Problem Profile :=
  match r.get? lang with
  | some p => .ok p
  | none => .error (.unknownLanguage lang r.codes)

/-- The profiles with a code and a name, each of which may be left open. -/
def list (r : Registry) (code name : Option String) : List Profile :=
  r.profiles.filter fun p => code.all (sameIgnoringCase p.code) && name.all (sameIgnoringCase p.name)

end Registry
end Stencil
