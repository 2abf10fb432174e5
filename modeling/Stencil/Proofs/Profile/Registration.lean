import Mathlib.Data.List.Nodup
import Stencil.Config.Basic
import Stencil.Proofs.Lists
import Stencil.Proofs.Profile.Builtin

/-!
# Registering profiles

A registry is changed by attempts to register a profile. An attempt checks the profile first, and only
then puts it in its place: that of the profile with the same code, or the last one.

## Key results

- `run_attempt`: an attempt registers the profile, or leaves the registry as it is
- `map_code_place`, `mem_place`: what putting a profile in its place does to a registry
- `Registered`: what a registry has to do with the profiles that have been registered, and
  `registered_attempt`, `registered_attemptAll`: that this holds at all times
- `profile_of_registered`: what a configuration takes from a registry
- `registry_attemptAll`: the whole of it, for runs from the empty or the built-in registry
-/

namespace Stencil

namespace Registry

variable {p q : Profile} {qs : List Profile} {r r' : Registry}

/-! ## The place of a profile -/

/-- Those in front stay in front. -/
theorem place_eq (p : Profile) (qs : List Profile) :
    place p qs =
      qs.takeWhile (·.code != p.code) ++ p :: (qs.dropWhile (·.code != p.code)).tail := by
  induction qs with
  | nil => rfl
  | cons q qs ih =>
    rw [place]
    split
    · next h => simp [h]
    · next h => simp [h, ih]

/-- The codes stay as they are, or the new one comes last. -/
theorem map_code_place (p : Profile) (qs : List Profile) :
    (place p qs).map (·.code) =
      if p.code ∈ qs.map (·.code) then qs.map (·.code) else qs.map (·.code) ++ [p.code] := by
  induction qs with
  | nil => rfl
  | cons q qs ih =>
    rw [place]
    split
    · next h => simp [h]
    · next h =>
      have hne : p.code ≠ q.code := Ne.symm h
      simp only [List.map_cons, List.mem_cons, ih, or_iff_right hne]
      split <;> rfl

/-- Where codes are distinct, a profile takes the place of the one with its code. -/
theorem mem_place (h : (qs.map (·.code)).Nodup) :
    q ∈ place p qs ↔ q = p ∨ q ∈ qs ∧ q.code ≠ p.code := by
  induction qs with
  | nil => simp [place]
  | cons a qs ih =>
    rw [List.map_cons, List.nodup_cons] at h
    rw [place]
    -- The profile in front is the one with the code, or it stays.
    split
    · next ha =>
      have hother : ∀ b ∈ qs, b.code ≠ p.code := fun b hb hcode =>
        h.1 (ha ▸ hcode ▸ List.mem_map_of_mem hb)
      simp only [List.mem_cons]
      refine or_congr_right ⟨fun hq => ⟨.inr hq, hother q hq⟩, ?_⟩
      rintro ⟨rfl | hq, hne⟩
      · exact absurd ha hne
      · exact hq
    · next ha =>
      simp only [List.mem_cons, ih h.2]
      constructor
      · rintro (rfl | rfl | ⟨hq, hne⟩)
        · exact .inr ⟨.inl rfl, ha⟩
        · exact .inl rfl
        · exact .inr ⟨.inr hq, hne⟩
      · rintro (rfl | ⟨rfl | hq, hne⟩)
        · exact .inr (.inl rfl)
        · exact .inl rfl
        · exact .inr (.inr ⟨hq, hne⟩)

/-! ## Attempts -/

/-- Registering succeeds iff the check does, and then the profile is in its place. -/
theorem register_eq_ok_iff :
    r.register p = .ok r' ↔ p.check = .ok () ∧ r' = ⟨place p.resolved r.profiles⟩ := by
  rw [register, bind_unit_eq_ok_iff]
  exact and_congr_right fun _ => ⟨fun h => (Except.ok.inj h).symm, fun h => h ▸ rfl⟩

/-- An attempt to register a profile: the registry is changed once the check has been passed. -/
def attempt (p : Profile) : ExceptT Problem (StateM Registry) Unit := do
  MonadExcept.ofExcept p.check
  modify fun r => ⟨place p.resolved r.profiles⟩

/-- An attempt registers the profile, or fails and leaves the registry as it is. -/
theorem run_attempt (p : Profile) (r : Registry) :
    (attempt p).run r =
      match r.register p with
      | .ok r' => (.ok (), r')
      | .error e => (.error e, r) := by
  rw [attempt, register]
  cases p.check <;> rfl

/-- An attempt succeeds iff the profile can be registered. -/
theorem attempt_eq_ok_iff : (attempt p).run r = (.ok (), r') ↔ r.register p = .ok r' := by
  rw [run_attempt]
  cases r.register p with
  | error e => exact ⟨fun h => (by cases (Prod.mk.inj h).1), fun h => (by cases h)⟩
  | ok r₁ => exact ⟨fun h => congrArg Except.ok (Prod.mk.inj h).2, fun h => by rw [Except.ok.inj h]⟩

/-- An attempt that fails changes nothing. -/
theorem attempt_error {e : Problem} (h : (attempt p).run r = (.error e, r')) :
    r' = r ∧ p.check = .error e := by
  rw [run_attempt, register] at h
  cases hcheck : p.check with
  | ok _ =>
    rw [hcheck] at h
    cases (Prod.mk.inj h).1
  | error e' =>
    rw [hcheck] at h
    obtain ⟨he, hr⟩ := Prod.mk.inj h
    exact ⟨hr.symm, he⟩

/-- Attempt to register profiles in order: those that have been registered, and the registry that is
left. -/
def attemptAll : List Profile → Registry → List Profile × Registry
  | [], r => ([], r)
  | p :: ps, r =>
    match (attempt p).run r with
    | (.ok (), r') =>
      let (accepted, last) := attemptAll ps r'
      (p :: accepted, last)
    | (.error _, r') => attemptAll ps r'

/-- A profile that passes the check is registered before the rest. -/
theorem attemptAll_cons (h : p.check = .ok ()) (ps : List Profile) (r : Registry) :
    attemptAll (p :: ps) r =
      (p :: (attemptAll ps ⟨place p.resolved r.profiles⟩).1,
        (attemptAll ps ⟨place p.resolved r.profiles⟩).2) := by
  rw [attemptAll, attempt_eq_ok_iff.2 (register_eq_ok_iff.2 ⟨h, rfl⟩)]

/-! ## What has been registered -/

/-- The profiles have been registered, in this order, and the registry is what they have left. -/
structure Registered (accepted : List Profile) (r : Registry) : Prop where
  /-- A code stands where it has been registered first. -/
  codes : r.codes = (accepted.map (·.code)).eraseDups
  distinct : r.codes.Nodup
  checked : ∀ q ∈ r.profiles, q.check = .ok ()
  /-- Each profile is the last one of its code, with the types in comments filled in. -/
  last : ∀ q ∈ r.profiles, ∃ p, accepted.reverse.find? (·.code == q.code) = some p ∧ q = p.resolved

/-- Nothing has been registered in the empty registry. -/
theorem registered_empty : Registered [] empty where
  codes := rfl
  distinct := List.nodup_nil
  checked _ hq := absurd hq List.not_mem_nil
  last _ hq := absurd hq List.not_mem_nil

/-- A profile that is registered joins those before it. -/
theorem registered_attempt {accepted : List Profile} (h : Registered accepted r)
    (hp : (attempt p).run r = (.ok (), r')) : Registered (accepted ++ [p]) r' := by
  obtain ⟨hcheck, rfl⟩ := register_eq_ok_iff.1 (attempt_eq_ok_iff.1 hp)
  have hcodes : (⟨place p.resolved r.profiles⟩ : Registry).codes =
      if p.code ∈ r.codes then r.codes else r.codes ++ [p.code] := map_code_place _ _
  -- All others that are left have another code.
  have hmem : ∀ q ∈ place p.resolved r.profiles,
      q = p.resolved ∨ q ∈ r.profiles ∧ q.code ≠ p.code :=
    fun q hq => (mem_place h.distinct).1 hq
  constructor
  case codes => rw [hcodes, List.map_append, List.map_singleton,
      List.eraseDups_append_singleton, ← h.codes]
  case distinct =>
    rw [hcodes]
    split
    · exact h.distinct
    · next hnew =>
      rw [← List.concat_eq_append]
      exact h.distinct.concat hnew
  case checked =>
    intro q hq
    rcases hmem q hq with rfl | ⟨hq, -⟩
    · exact Profile.check_resolved.2 hcheck
    · exact h.checked q hq
  case last =>
    intro q hq
    rw [List.reverse_append, List.reverse_singleton, List.singleton_append]
    rcases hmem q hq with rfl | ⟨hq, hne⟩
    · exact ⟨p, List.find?_cons_of_pos (beq_self_eq_true _), rfl⟩
    · -- The new profile has another code, so it does not come between.
      obtain ⟨p', hfind, heq⟩ := h.last q hq
      refine ⟨p', ?_, heq⟩
      rw [List.find?_cons_of_neg (by simpa using Ne.symm hne), hfind]

/-- The registry holds what has been registered after all attempts. -/
theorem registered_attemptAll {accepted : List Profile} (ps : List Profile)
    (h : Registered accepted r) :
    Registered (accepted ++ (attemptAll ps r).1) (attemptAll ps r).2 := by
  induction ps generalizing accepted r with
  | nil => simpa [attemptAll] using h
  | cons p ps ih =>
    rw [attemptAll]
    -- An attempt that fails leaves both sides as they were.
    split
    · next r' hp =>
      have hrest := ih (registered_attempt h hp)
      rwa [List.append_assoc, List.singleton_append] at hrest
    · next e r' hp =>
      obtain ⟨rfl, -⟩ := attempt_error hp
      exact ih h

/-- The check alone decides which attempts succeed. -/
theorem attemptAll_fst (ps : List Profile) (r : Registry) :
    (attemptAll ps r).1 = ps.filter fun p => p.check.isOk := by
  induction ps generalizing r with
  | nil => rfl
  | cons p ps ih =>
    rw [attemptAll]
    split
    · next r' hp =>
      have hcheck := (register_eq_ok_iff.1 (attempt_eq_ok_iff.1 hp)).1
      rw [List.filter_cons_of_pos (by rw [hcheck]; rfl), ← ih r']
    · next e r' hp =>
      have hcheck := (attempt_error hp).2
      rw [List.filter_cons_of_neg (by rw [hcheck]; exact Bool.false_ne_true), ih r']

/-- The built-in profiles have been registered in an empty registry. -/
theorem registered_builtin : Registered Profile.builtin builtin := by
  have hcheck := Profile.check_builtin
  simp only [Profile.builtin, List.forall_mem_cons] at hcheck
  obtain ⟨hcommon, hgo, hgo120, hphp, -⟩ := hcheck
  have hrun : attemptAll Profile.builtin empty = (Profile.builtin, builtin) := by
    simp only [Profile.builtin, attemptAll_cons hcommon, attemptAll_cons hgo, attemptAll_cons hgo120,
      attemptAll_cons hphp]
    rfl
  have h := registered_attemptAll Profile.builtin registered_empty
  rwa [hrun] at h

/-! ## Configurations -/

/-- A lookup finds a profile of the registry, by an exact match or up to letter case. -/
theorem mem_of_get? {lang : String} (h : r.get? lang = some q) : q ∈ r.profiles := by
  rw [get?, Option.orElse_eq_orElse, Option.orElse_eq_or, Option.or_eq_some_iff] at h
  rcases h with h | ⟨-, h⟩
  · exact List.mem_of_find?_eq_some h
  · exact List.mem_of_find?_eq_some h

/-- A configuration takes a profile of the registry, or its own one once it has been checked. -/
theorem profile_of_registered {accepted : List Profile} (h : Registered accepted r) {c : Config}
    (hq : c.profile r = .ok q) : q.check = .ok () ∧ q.docTypes?.isSome = true := by
  rw [Config.profile] at hq
  -- A language that is named, settings of its own, or neither.
  split at hq
  · rw [require] at hq
    split at hq
    · next lang _ _ _ p hget =>
      obtain rfl := Except.ok.inj hq
      have hmem := mem_of_get? hget
      obtain ⟨p', -, heq⟩ := h.last _ hmem
      exact ⟨h.checked _ hmem, by rw [heq]; rfl⟩
    · cases hq
  · obtain ⟨hcheck, hq⟩ := bind_unit_eq_ok_iff.1 hq
    obtain rfl := Except.ok.inj hq
    exact ⟨Profile.check_resolved.2 hcheck, rfl⟩
  · cases hq

/-- Whatever has been attempted, the codes are distinct and stand in the order in which they have been
registered first, all profiles have passed their check and tell the types in comments, and attempts
that fail change nothing. So configurations get nothing but checked profiles. -/
theorem registry_attemptAll {start : Registry} (hstart : start ∈ [empty, builtin])
    (ps : List Profile) :
    let accepted := ps.filter fun p => p.check.isOk
    let r := (attemptAll ps start).2
    (attemptAll ps start).1 = accepted ∧
    r.codes.Nodup ∧ r.codes = (start.codes ++ accepted.map (·.code)).eraseDups ∧
    (∀ q ∈ r.profiles, q.check = .ok () ∧ q.docTypes?.isSome = true) ∧
    (∀ p e r', (attempt p).run r = (.error e, r') → r' = r) ∧
    (∀ (c : Config) (q : Profile), c.profile r = .ok q →
      q.check = .ok () ∧ q.docTypes?.isSome = true) := by
  intro accepted r
  -- Both registries to start from hold what has been registered in them.
  have hstart : Registered start.profiles start := by
    simp only [List.mem_cons, List.not_mem_nil, or_false] at hstart
    rcases hstart with rfl | rfl
    · exact registered_empty
    · exact registered_builtin
  have h : Registered (start.profiles ++ accepted) r := by
    have hrun := registered_attemptAll ps hstart
    rwa [attemptAll_fst] at hrun
  refine ⟨attemptAll_fst ps start, h.distinct, ?_, fun q hq => ?_,
    fun p e r' hp => (attempt_error hp).1, fun c q hq => profile_of_registered h hq⟩
  · rw [h.codes, List.map_append]
    rfl
  · obtain ⟨p, -, heq⟩ := h.last q hq
    exact ⟨h.checked q hq, by rw [heq]; rfl⟩

/-- A profile with a new code comes last, one without a code is refused, and one with the code of a
built-in profile takes its place. -/
theorem registry_attemptAll_builtin :
    let ps : List Profile :=
      [{ code := "kt", types := .uniform "t" }, { code := "", types := .uniform "t" },
        { code := "go", types := .uniform "t" }]
    builtin ∈ [empty, builtin] ∧
    (attemptAll ps builtin).2.codes = ["common", "go", "go1.20", "php", "kt"] ∧
    (attemptAll ps builtin).2.codes.Nodup := by
  intro ps
  have hmem : builtin ∈ [empty, builtin] := List.mem_cons_of_mem _ List.mem_cons_self
  obtain ⟨-, hdistinct, hcodes, -⟩ := registry_attemptAll hmem ps
  refine ⟨hmem, ?_, hdistinct⟩
  rw [hcodes]
  decide +kernel

end Registry

end Stencil
