import Stencil.Proofs.Profile.Registration

/-!
# Lookups that are left alone

To look a profile up is to search the registry twice, for an exact match and then for one up to letter
case. Registering a profile changes one place of the registry, so neither search can end elsewhere than
before unless it could end at that place: with the profile that is registered, or with the one that it
replaces.

## Key results

- `find?_place`: a search that fits neither of the two ends where it did
- `get?_register_of_unrelated`: a lookup that neither of the two answers has the same result
- `get?_attemptAll_of_unrelated`: the same for a run of attempts
-/

namespace Stencil

open Text

/-- The profile can be asked for by the text: it is the code or the name, up to letter case. -/
def Profile.Answers (p : Profile) (lang : String) : Prop :=
  sameIgnoringCase p.code lang = true ∨ sameIgnoringCase p.name lang = true

instance (p : Profile) (lang : String) : Decidable (p.Answers lang) :=
  inferInstanceAs (Decidable (_ ∨ _))

namespace Registry

variable {p : Profile} {qs : List Profile} {r r' : Registry} {lang : String}

/-- The profile whose place another one takes when it is registered. -/
def replaced? (r : Registry) (p : Profile) : Option Profile := r.profiles.find? (·.code == p.code)

/-! ## Searching -/

/-- A search that fits neither a profile nor the one that it replaces ends where it did. -/
theorem find?_place {f : Profile → Bool} (hp : f p = false)
    (hold : ∀ q ∈ qs.find? (·.code == p.code), f q = false) : (place p qs).find? f = qs.find? f := by
  induction qs with
  | nil => simp [place, hp]
  | cons q qs ih =>
    rw [place]
    -- The profile in front is replaced, or the search goes on behind it on both sides.
    split
    · next hcode =>
      have hq : f q = false := hold q (List.find?_cons_of_pos (by simpa using hcode))
      rw [List.find?_cons_of_neg (by simp [hp]), List.find?_cons_of_neg (by simp [hq])]
    · next hcode =>
      rw [List.find?_cons_of_neg (by simpa using hcode)] at hold
      rw [List.find?_cons, List.find?_cons, ih hold]

theorem not_answers_iff : ¬p.Answers lang ↔
    sameIgnoringCase p.code lang = false ∧ sameIgnoringCase p.name lang = false := by
  rw [Profile.Answers, not_or, Bool.not_eq_true, Bool.not_eq_true]

/-- What is equal is equal up to letter case. -/
theorem ne_of_sameIgnoringCase {s t : String} (h : sameIgnoringCase s t = false) : s ≠ t := by
  rintro rfl
  rw [sameIgnoringCase, beq_self_eq_true] at h
  cases h

/-- A lookup ends where it did if neither the profile nor the one that it replaces answers it. -/
theorem get?_place (hp : ¬p.Answers lang) (hold : ∀ q ∈ r.replaced? p, ¬q.Answers lang) :
    get? ⟨place p r.profiles⟩ lang = r.get? lang := by
  -- Neither search ends with a profile that does not answer.
  have hexact : ∀ {q : Profile}, ¬q.Answers lang → (q.code == lang || q.name == lang) = false := by
    intro q hq
    obtain ⟨hcode, hname⟩ := not_answers_iff.1 hq
    simp [ne_of_sameIgnoringCase hcode, ne_of_sameIgnoringCase hname]
  have hcase : ∀ {q : Profile}, ¬q.Answers lang →
      (sameIgnoringCase q.code lang || sameIgnoringCase q.name lang) = false := by
    intro q hq
    obtain ⟨hcode, hname⟩ := not_answers_iff.1 hq
    rw [hcode, hname, Bool.or_false]
  rw [get?, get?, find?_place (hexact hp) fun q hq => hexact (hold q hq),
    find?_place (hcase hp) fun q hq => hcase (hold q hq)]

/-! ## Registering -/

/-- Registering a profile changes no lookup but those that it answers itself, or the one that it
replaces. -/
theorem get?_register_of_unrelated (h : r.register p = .ok r') (hp : ¬p.Answers lang)
    (hold : ∀ q ∈ r.replaced? p, ¬q.Answers lang) : r'.get? lang = r.get? lang := by
  obtain ⟨-, rfl⟩ := register_eq_ok_iff.1 h
  -- Filling in the types in comments changes neither code nor name.
  exact get?_place (p := p.resolved) hp hold

/-- What is in the registry was there or has been put there. -/
theorem mem_of_mem_place {q : Profile} (h : q ∈ place p qs) : q = p ∨ q ∈ qs := by
  rw [place_eq, List.mem_append, List.mem_cons] at h
  rcases h with h | rfl | h
  · exact .inr ((List.takeWhile_sublist _).subset h)
  · exact .inl rfl
  · exact .inr ((List.dropWhile_sublist _).subset (List.mem_of_mem_tail h))

/-- Attempts change no lookup but those that the profiles answer that they register, or that are there
already under one of their codes. -/
theorem get?_attemptAll_of_unrelated (ps : List Profile)
    (hps : ∀ p ∈ ps, p.check = .ok () → ¬p.Answers lang)
    (hold : ∀ q ∈ r.profiles, (∃ p ∈ ps, p.check = .ok () ∧ p.code = q.code) → ¬q.Answers lang) :
    (attemptAll ps r).2.get? lang = r.get? lang := by
  induction ps generalizing r with
  | nil => rfl
  | cons p ps ih =>
    obtain ⟨hp, hps⟩ := List.forall_mem_cons.1 hps
    -- The attempts that are still to be made concern fewer codes.
    have hless : ∀ q ∈ r.profiles, (∃ p ∈ ps, p.check = .ok () ∧ p.code = q.code) →
        ¬q.Answers lang :=
      fun q hq ⟨p', hp', h⟩ => hold q hq ⟨p', List.mem_cons_of_mem p hp', h⟩
    rw [attemptAll]
    split
    · next r' hattempt =>
      have hregister := attempt_eq_ok_iff.1 hattempt
      obtain ⟨hcheck, rfl⟩ := register_eq_ok_iff.1 hregister
      have hstep : get? ⟨place p.resolved r.profiles⟩ lang = r.get? lang := by
        refine get?_register_of_unrelated hregister (hp hcheck) fun q hq => ?_
        have hcode : q.code = p.code := by simpa using List.find?_some hq
        exact hold q (List.mem_of_find?_eq_some hq) ⟨p, List.mem_cons_self, hcheck, hcode.symm⟩
      rw [← hstep]
      refine ih hps fun q hq hcodes => ?_
      -- The profile that has just been registered may be replaced by a later one.
      rcases mem_of_mem_place hq with rfl | hq
      · exact hp hcheck
      · exact hless q hq hcodes
    · next hattempt =>
      obtain ⟨rfl, -⟩ := attempt_error hattempt
      exact ih hps hless

/-- A lookup has the result that it had, if neither the profile that has been registered answers it nor
the one that it replaces, and also if all attempts that succeed are of that kind. -/
theorem lookup_unrelated (r : Registry) (lang : String) :
    (∀ p r', r.register p = .ok r' → ¬p.Answers lang →
      (∀ q ∈ r.replaced? p, ¬q.Answers lang) → r'.get? lang = r.get? lang) ∧
    ∀ ps, (∀ p ∈ ps, p.check = .ok () → ¬p.Answers lang) →
      (∀ q ∈ r.profiles, (∃ p ∈ ps, p.check = .ok () ∧ p.code = q.code) → ¬q.Answers lang) →
      (attemptAll ps r).2.get? lang = r.get? lang :=
  ⟨fun _ _ => get?_register_of_unrelated, get?_attemptAll_of_unrelated⟩

/-- Go is replaced by a profile of another name, and a language is added that is new. PHP is found
under its name in other letters before and after. -/
theorem lookup_unrelated_go :
    let p : Profile := { code := "go", name := "Golang", types := .uniform "t" }
    let ps : List Profile := [p, { code := "", types := .uniform "t" },
      { code := "kt", name := "Kotlin", types := .uniform "t" }]
    ¬p.Answers "Php" ∧ builtin.replaced? p = some .go ∧ ¬Profile.Answers .go "Php" ∧
    (∃ r', builtin.register p = .ok r' ∧ r'.get? "Php" = some .php) ∧
    (attemptAll ps builtin).2.get? "Php" = some .php := by
  intro p ps
  -- Neither the profile nor the one that it replaces goes by that name.
  have hp : ¬p.Answers "Php" := by decide +kernel
  have hold : builtin.replaced? p = some .go := rfl
  have hgo : ¬Profile.Answers .go "Php" := by decide +kernel
  have hcheck : p.check = .ok () := by decide +kernel
  have hregister := register_eq_ok_iff.2 ⟨hcheck, @rfl Registry ⟨place p.resolved builtin.profiles⟩⟩
  have hfound : builtin.get? "Php" = some .php := by decide +kernel
  obtain ⟨hstep, hrun⟩ := lookup_unrelated builtin "Php"
  refine ⟨hp, hold, hgo, ⟨_, hregister, ?_⟩, ?_⟩
  · rw [hstep p _ hregister hp fun q hq => ?_, hfound]
    rw [hold] at hq
    obtain rfl := Option.some.inj hq
    exact hgo
  · have hps : ∀ p ∈ ps, ¬p.Answers "Php" := by decide +kernel
    -- Of the built-in profiles, only Go has one of the codes.
    have hcodes : ∀ q ∈ builtin.profiles, q.code ∈ ps.map (·.code) → ¬q.Answers "Php" := by
      decide +kernel
    rw [hrun ps (fun p hp _ => hps p hp) fun q hq ⟨p, hp, _, hcode⟩ => ?_, hfound]
    exact hcodes q hq (hcode ▸ List.mem_map_of_mem hp)

end Registry

end Stencil
