import Mathlib.Data.List.Find
import Mathlib.Data.List.TakeWhile
import Stencil.CommandLine.Run
import Stencil.Proofs.Profile.Registration

/-!
# Looking registered profiles up

A profile is asked for by its code, but a name will do as well, and the first profile that fits is
taken. So a profile that has been registered can be found by its code, unless a profile in front of it
has that code for a name.

## Key results

- `get?_register`: which profile is found by the code of one that has just been registered
- `generate_eq_of_profile`: what a request needs of its configuration
- `lookup_registered`: when that is the profile that has been registered, and what is then generated
-/

namespace Stencil

namespace Registry

variable {p : Profile} {r r' : Registry}

/-- The first profile in front of the place of a profile that has its code for a name. -/
def namesake? (r : Registry) (p : Profile) : Option Profile :=
  (r.profiles.takeWhile (·.code != p.code)).find? (·.name == p.code)

/-- A namesake is found instead of the profile itself. -/
theorem get?_register (h : r.register p = .ok r') :
    r'.get? p.code = some ((r.namesake? p).getD p.resolved) := by
  obtain ⟨-, rfl⟩ := register_eq_ok_iff.1 h
  have hcode : p.resolved.code = p.code := rfl
  -- In front of the place nobody has the code, so just names count there.
  have hfront : ∀ q ∈ r.profiles.takeWhile (·.code != p.code),
      (q.code == p.code || q.name == p.code) = (q.name == p.code) := by
    intro q hq
    have hne := List.mem_takeWhile_imp hq
    simp only [bne_iff_ne] at hne
    rw [beq_false_of_ne hne, Bool.false_or]
  have hself : ∀ qs : List Profile,
      (p.resolved :: qs).find? (fun q => q.code == p.code || q.name == p.code) = some p.resolved :=
    fun qs => List.find?_cons_of_pos (by rw [hcode, beq_self_eq_true, Bool.true_or])
  have hfind : (place p.resolved r.profiles).find? (fun q => q.code == p.code || q.name == p.code) =
      some ((r.namesake? p).getD p.resolved) := by
    rw [place_eq, List.find?_append, hcode, List.find?_congr hfront, hself, namesake?,
      Option.or_some]
  -- There is an exact match, so letter case does not come into it.
  rw [get?, hfind]
  rfl

/-- A profile is found by its code exactly if it has no namesake. -/
theorem get?_register_iff (h : r.register p = .ok r') :
    r'.get? p.code = some p.resolved ↔ r.namesake? p = none := by
  rw [get?_register h, Option.some.injEq]
  -- A namesake has another code, so it is another profile.
  cases hq : r.namesake? p with
  | none => exact ⟨fun _ => rfl, fun _ => rfl⟩
  | some q =>
    have hne := List.mem_takeWhile_imp (List.mem_of_find?_eq_some hq)
    simp only [bne_iff_ne] at hne
    exact ⟨fun hself => absurd (congrArg Profile.code hself) hne, fun h => (by cases h)⟩

/-- In the built-in registry, just the names of the built-in profiles are taken. -/
theorem namesake?_builtin_eq_none_iff (p : Profile) :
    builtin.namesake? p = none ↔ p.code ∉ Profile.builtin.map (·.name) := by
  constructor
  · intro h hmem
    -- No built-in profile has one of these names for its code, so the search comes to the name.
    have hfound : ∀ name ∈ Profile.builtin.map (·.name),
        ((Profile.builtin.takeWhile (·.code != name)).find? (·.name == name)).isSome = true := by
      decide +kernel
    have hsome := hfound _ hmem
    rw [← Option.ne_none_iff_isSome] at hsome
    exact hsome h
  · intro h
    rw [namesake?, List.find?_eq_none]
    intro q hq hname
    refine h (List.mem_map.2 ⟨q, (List.takeWhile_sublist _).subset hq, ?_⟩)
    simpa using hname

end Registry

/-! ## Requests -/

/-- A language that is named is looked up. -/
theorem Config.profile_of_lang {c : Config} {lang : String} (h : c.lang = some lang)
    (hblank : Text.isBlank lang = false) (r : Registry) : c.profile r = r.require lang := by
  rw [profile, h]
  simp only [Option.filter, hblank, Bool.not_false, if_true]

/-- Without a language that is named, the profile of the configuration is used once it has been
checked. -/
theorem Config.profile_of_settings {c : Config} {p : Profile} (hlang : c.lang = none)
    (h : c.langSettings = some p) (hcheck : p.check = .ok ()) (r : Registry) :
    c.profile r = .ok p.resolved := by
  rw [profile, hlang, h]
  show (p.check >>= fun _ => pure p.resolved) = _
  rw [hcheck]
  rfl

/-- Of its configuration, a request needs the profile and what does not depend on the language. -/
theorem generate_eq_of_profile {r r' : Registry} {c c' : Config}
    (hprofile : c.profile r = c'.profile r') (hoptions : c.options = c'.options)
    (hformat : c.dataFormat = c'.dataFormat)
    (hsubtypes : c.detectStringSubtypes = c'.detectStringSubtypes) (template data : String) :
    generate r { template, data, config := c } = generate r' { template, data, config := c' } := by
  simp only [generate, formattedTree, hprofile, hoptions, hformat, hsubtypes]

namespace Registry

variable {p : Profile} {r r' : Registry}

/-- A language that is named by the code of a profile just registered is that profile, unless the
profile has a namesake. -/
theorem profile_register (h : r.register p = .ok r') (hp : r.namesake? p = none) {c : Config}
    (hlang : c.lang = some p.code) : c.profile r' = .ok p.resolved := by
  have hcode := (Profile.check_eq_ok_iff.1 (register_eq_ok_iff.1 h).1).code
  rw [Config.profile_of_lang hlang hcode, require, (get?_register_iff h).2 hp]

/-- A request that names the code generates what it would with the profile in its configuration. -/
theorem generate_register (h : r.register p = .ok r') (hp : r.namesake? p = none) {o : Overrides}
    (ho : o.lang = none) (c : Config) (template data : String) :
    generate r'
        { template, data, config := c.override { o with lang := o.lang <|> some p.code } } =
      generate r
        { template, data, config := { c.override o with lang := none, langSettings := some p } } := by
  -- With its settings in the configuration, the profile is checked and resolved as it is when
  -- registered.
  have hown : Config.profile { c.override o with lang := none, langSettings := some p } r =
      .ok p.resolved :=
    Config.profile_of_settings rfl rfl (register_eq_ok_iff.1 h).1 r
  have hlang : (c.override { o with lang := o.lang <|> some p.code }).lang = some p.code := by
    rw [ho]
    rfl
  exact generate_eq_of_profile ((profile_register h hp hlang).trans hown.symm) rfl rfl rfl template
    data

end Registry

/-! ## Jobs -/

namespace CommandLine

/-- Run a job with a registry and a way to complete the configuration. -/
def GenerateJob.runWith {m : Type → Type} [Monad m] [FileAccess m] (job : GenerateJob)
    (registry : Registry) (complete : Config → Config) : ExceptT Problem m Output := do
  let config ←
    match job.configFile? with
    | none => pure {}
    | some path => Config.load path
  let fs ← generateFromFiles registry
    { templateFile := job.templateFile, dataFile := job.dataFile, config := complete config }
  match job.out? with
  | none => return .files fs
  | some directory => return .written (← writeFiles directory fs)

section

variable {m : Type → Type} [Monad m] [LawfulMonad m] [FileAccess m] {job : GenerateJob}

/-- A profile of one's own is registered next to the built-in ones. -/
theorem GenerateJob.run_of_profile {path : String} (h : job.profile? = some path) :
    (job.run : ExceptT Problem m Output) = (do
      let p ← Profile.load path
      let registry ← MonadExcept.ofExcept (Registry.builtin.register p)
      job.runWith registry fun c =>
        c.override { job.overrides with lang := job.overrides.lang <|> some p.code }) := by
  rw [GenerateJob.run, h]
  refine bind_congr fun p => bind_congr fun registry => ?_
  -- Both sides are the same in each case, but for the way in which the cases are told apart.
  cases hconfig : job.configFile? <;> cases hout : job.out? <;>
    simp only [pure_bind, runWith, hconfig, hout]

/-- Of the registry and the configuration, a job needs no more than its request does. -/
theorem GenerateJob.runWith_congr {r r' : Registry} {f g : Config → Config}
    (h : ∀ c template data,
      generate r { template, data, config := f c } = generate r' { template, data, config := g c }) :
    (job.runWith r f : ExceptT Problem m Output) = job.runWith r' g := by
  have hfiles : ∀ c, (generateFromFiles r
      { templateFile := job.templateFile, dataFile := job.dataFile, config := f c } :
        ExceptT Problem m (List RenderedFile)) =
      generateFromFiles r'
        { templateFile := job.templateFile, dataFile := job.dataFile, config := g c } := by
    intro c
    simp only [generateFromFiles, FileRequest.resolve, bind_assoc, pure_bind, h]
  simp only [runWith, hfiles]

end

/-- A first part that succeeds hands its result and its state on. -/
private theorem run_bind {α β : Type} {x : ExceptT Problem (StateM FileTree) α}
    {f : α → ExceptT Problem (StateM FileTree) β} {a : α} {t t' : FileTree}
    (h : x.run t = (.ok a, t')) : (x >>= f).run t = (f a).run t' := by
  rw [ExceptT.run_bind]
  simp only [bind, StateT.bind, h]

end CommandLine

namespace Registry

open CommandLine

variable {p : Profile} {r r' : Registry}

/-- After a profile has been registered, its code stands for it, or else for the first profile in
front of it that has this code for a name. In the built-in registry there is such a profile for just
four codes. With any other code, a job for which no language is named does what it would with the
profile in its configuration. -/
theorem lookup_registered (h : r.register p = .ok r') :
    r'.get? p.code = some ((r.namesake? p).getD p.resolved) ∧
    (r'.get? p.code = some p.resolved ↔ r.namesake? p = none) ∧
    (r = builtin →
      (r.namesake? p = none ↔ p.code ∉ ["Common", "Go", "Go 1.20+", "PHP"]) ∧
      ∀ (job : GenerateJob) (path : String) (t t' : FileTree),
        job.profile? = some path → job.overrides.lang = none →
        (Profile.load path : ExceptT Problem (StateM FileTree) Profile).run t = (.ok p, t') →
        r.namesake? p = none →
        (job.run : ExceptT Problem (StateM FileTree) Output).run t =
          (job.runWith builtin fun c =>
            { c.override job.overrides with lang := none, langSettings := some p } :
              ExceptT Problem (StateM FileTree) Output).run t') := by
  refine ⟨get?_register h, get?_register_iff h, ?_⟩
  rintro rfl
  refine ⟨namesake?_builtin_eq_none_iff p, fun job path t t' hpath hlang hload hp => ?_⟩
  -- The job loads the profile and registers it; from there on only its requests matter.
  rw [GenerateJob.run_of_profile hpath, run_bind hload, h]
  show ((job.runWith r' _ : ExceptT Problem (StateM FileTree) Output)).run t' = _
  rw [GenerateJob.runWith_congr fun c template data =>
    generate_register h hp hlang c template data]

/-- A profile with a code that is no name can be found. -/
theorem lookup_registered_new :
    let p : Profile := { code := "kt", name := "Kotlin", types := .uniform "t" }
    ∃ r', builtin.register p = .ok r' ∧ r'.get? "kt" = some p.resolved := by
  intro p
  have hcheck : p.check = .ok () := by decide +kernel
  have hregister := register_eq_ok_iff.2 ⟨hcheck, @rfl Registry ⟨place p.resolved builtin.profiles⟩⟩
  obtain ⟨-, hiff, hbuiltin⟩ := lookup_registered hregister
  exact ⟨_, hregister, hiff.2 ((hbuiltin rfl).1.2 (by decide))⟩

/-- With the code `Go`, the built-in profile of that name is found instead. -/
theorem exists_namesake :
    let p : Profile := { code := "Go", name := "Mine", types := .uniform "t" }
    ∃ r', builtin.register p = .ok r' ∧ r'.get? p.code = some .go ∧
      r'.get? p.code ≠ some p.resolved ∧
      (Config.override {} { lang := some p.code }).profile r' = .ok .go := by
  intro p
  have hcheck : p.check = .ok () := by decide +kernel
  have hregister := register_eq_ok_iff.2 ⟨hcheck, @rfl Registry ⟨place p.resolved builtin.profiles⟩⟩
  -- The built-in profile stands in front, and its name fits exactly.
  have hget : (⟨place p.resolved builtin.profiles⟩ : Registry).get? p.code = some .go := by
    rw [get?_register hregister]
    rfl
  refine ⟨_, hregister, hget, ?_, ?_⟩
  · rw [hget]
    decide
  · rw [Config.profile_of_lang rfl (by decide +kernel), require, hget]

end Registry

end Stencil
