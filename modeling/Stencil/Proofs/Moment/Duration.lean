import Mathlib.Data.List.TakeWhile
import Stencil.Proofs.Lists
import Stencil.Schema.Infer

/-!
# The grammar of lengths of time

A length of time is a sign, if there is one, and a row of amounts with their units. The reader takes
all digits that it finds and the first unit that fits, and never goes back. The grammar leaves open
where a number ends and which of `m` and `ms` is meant, but there is only one way: no unit starts with
a digit or a point, and a component starts with nothing else.

## Key results

- `number?_append`, `unit?_append`: the reader finds the number and the unit that the grammar has
- `isComponents_iff`: it accepts exactly the rows of components
- `kindOf_eq_duration_iff`: the texts that are tagged as lengths of time
-/

namespace Stencil

open Text

namespace Moment

/-! ## The grammar -/

/-- Nothing but decimal digits, of any script. -/
def DecimalDigits (cs : List Char) : Prop := ∀ c ∈ cs, isDecimalDigit c = true

/-- A number without a sign: digits, which may go on with a point and further digits, or a point and
digits. -/
inductive Amount : List Char → Prop
  | whole {digits : List Char} (hne : digits ≠ []) (hdigits : DecimalDigits digits) : Amount digits
  | pointed {digits fraction : List Char} (hne : digits ≠ []) (hdigits : DecimalDigits digits)
    (hfraction : DecimalDigits fraction) : Amount (digits ++ '.' :: fraction)
  | fraction {fraction : List Char} (hne : fraction ≠ []) (hfraction : DecimalDigits fraction) :
    Amount ('.' :: fraction)

/-- The units from the hour down to the nanosecond. There is a micro sign, and a Greek letter that
looks like it. -/
def unitNames : List String := ["h", "m", "s", "ms", "\u00b5s", "\u03bcs", "us", "ns"]

/-- One amount with its unit or more. -/
inductive Components : List Char → Prop
  | last {amount : List Char} {unit : String} (hamount : Amount amount) (hunit : unit ∈ unitNames) :
    Components (amount ++ unit.toList)
  | cons {amount cs : List Char} {unit : String} (hamount : Amount amount)
    (hunit : unit ∈ unitNames) (hcs : Components cs) : Components (amount ++ unit.toList ++ cs)

/-- The text is a sign, or none, and one component or more. -/
def DenotesDuration (s : String) : Prop :=
  ∃ sign cs : List Char, (sign = [] ∨ sign = ['+'] ∨ sign = ['-']) ∧ Components cs ∧
    s.toList = sign ++ cs

/-! ## Numbers -/

/-- The characters of numbers. -/
def InNumber (c : Char) : Prop := isDecimalDigit c = true ∨ c = '.'

instance : DecidablePred InNumber := fun _ => inferInstanceAs (Decidable (_ ∨ _))

/-- The text does not go on with what could belong to a number. -/
def EndsNumber (cs : List Char) : Prop := ∀ c ∈ cs.head?, ¬InNumber c

/-- Then it does not go on with a digit. -/
theorem EndsNumber.stops {cs : List Char} (h : EndsNumber cs) :
    ∀ c ∈ cs.head?, isDecimalDigit c = false :=
  fun c hc => eq_false_of_ne_true fun hdigit => h c hc (.inl hdigit)

/-- A number starts with a digit or a point. -/
theorem Amount.exists_cons {amount : List Char} (h : Amount amount) :
    ∃ c cs, amount = c :: cs ∧ InNumber c := by
  cases h with
  | whole hne hdigits =>
    obtain ⟨d, ds, rfl⟩ := List.exists_cons_of_ne_nil hne
    exact ⟨d, ds, rfl, .inl (hdigits d List.mem_cons_self)⟩
  | pointed hne hdigits _ =>
    obtain ⟨d, ds, rfl⟩ := List.exists_cons_of_ne_nil hne
    exact ⟨d, _, rfl, .inl (hdigits d List.mem_cons_self)⟩
  | fraction _ _ => exact ⟨'.', _, rfl, .inr rfl⟩

/-- A point is no digit. -/
private theorem isDecimalDigit_point : isDecimalDigit '.' = false := by decide +kernel

private theorem decimalDigits_takeWhile (cs : List Char) :
    DecimalDigits (cs.takeWhile isDecimalDigit) :=
  fun _ hc => List.mem_takeWhile_imp hc

/-- What is read is a number. -/
theorem exists_amount {cs rest : List Char} (h : number? cs = some rest) :
    ∃ amount, Amount amount ∧ cs = amount ++ rest := by
  have hcs := (List.takeWhile_append_dropWhile (p := isDecimalDigit) (l := cs)).symm
  have hdigits := decimalDigits_takeWhile cs
  unfold number? at h
  -- Whether there are digits, and whether a point follows, decides about the form of the number.
  split at h
  · next behind htake hdrop =>
    rw [htake, hdrop] at hcs
    split at h
    · cases h
    · next hne =>
      obtain rfl := Option.some.inj h
      refine ⟨'.' :: behind.takeWhile isDecimalDigit,
        .fraction (by simpa using hne) (decimalDigits_takeWhile behind), ?_⟩
      rw [hcs, List.cons_append, List.takeWhile_append_dropWhile, List.nil_append]
  · cases h
  · next d ds behind htake hdrop =>
    rw [htake] at hdigits
    rw [htake, hdrop] at hcs
    obtain rfl := Option.some.inj h
    refine ⟨(d :: ds) ++ '.' :: behind.takeWhile isDecimalDigit,
      .pointed (List.cons_ne_nil d ds) hdigits (decimalDigits_takeWhile behind), ?_⟩
    simp only [hcs, List.cons_append, List.append_assoc, List.takeWhile_append_dropWhile]
  · next d ds htake _ =>
    rw [htake] at hdigits
    rw [htake] at hcs
    obtain rfl := Option.some.inj h
    exact ⟨d :: ds, .whole (List.cons_ne_nil d ds) hdigits, hcs⟩

/-- Digits are read up to what is neither a digit nor a point. -/
private theorem number?_whole {digits rest : List Char} (hne : digits ≠ [])
    (hdigits : DecimalDigits digits) (hrest : EndsNumber rest) :
    number? (digits ++ rest) = some rest := by
  obtain ⟨d, ds, rfl⟩ := List.exists_cons_of_ne_nil hne
  obtain ⟨htake, hdrop⟩ := List.span_append_of_stop hdigits hrest.stops
  rw [number?, htake, hdrop]
  cases rest with
  | nil => rfl
  | cons c cs =>
    have hc : c ≠ '.' := fun heq => hrest c rfl (.inr heq)
    simp [hc]

/-- Behind digits and a point, further digits are read, or none. -/
private theorem number?_pointed {digits : List Char} (hne : digits ≠ [])
    (hdigits : DecimalDigits digits) (cs : List Char) :
    number? (digits ++ '.' :: cs) = some (cs.dropWhile isDecimalDigit) := by
  obtain ⟨d, ds, rfl⟩ := List.exists_cons_of_ne_nil hne
  have hpoint : ∀ c ∈ ('.' :: cs).head?, isDecimalDigit c = false := by
    simpa using isDecimalDigit_point
  obtain ⟨htake, hdrop⟩ := List.span_append_of_stop hdigits hpoint
  rw [number?, htake, hdrop]
  rfl

/-- A point without digits on either side is no number. -/
private theorem number?_fraction (cs : List Char) :
    number? ('.' :: cs) =
      if (cs.takeWhile isDecimalDigit).isEmpty then none else some (cs.dropWhile isDecimalDigit) := by
  rw [number?, List.takeWhile_cons_of_neg (by simp [isDecimalDigit_point]),
    List.dropWhile_cons_of_neg (by simp [isDecimalDigit_point])]
  rfl

/-- A number is read up to its end. -/
theorem number?_append {amount rest : List Char} (h : Amount amount) (hrest : EndsNumber rest) :
    number? (amount ++ rest) = some rest := by
  cases h with
  | whole hne hdigits => exact number?_whole hne hdigits hrest
  | pointed hne hdigits hfraction =>
    rw [List.append_assoc, List.cons_append, number?_pointed hne hdigits,
      (List.span_append_of_stop hfraction hrest.stops).2]
  | fraction hne hfraction =>
    obtain ⟨htake, hdrop⟩ := List.span_append_of_stop hfraction hrest.stops
    rw [List.cons_append, number?_fraction, htake, hdrop,
      if_neg (by rwa [List.isEmpty_iff])]

/-! ## Units -/

/-- The units of the reader are those of the grammar. -/
theorem mem_units_iff {u : List Char} : u ∈ units ↔ String.ofList u ∈ unitNames := by
  constructor
  · have hall : ∀ v ∈ units, String.ofList v ∈ unitNames := by decide
    exact hall u
  · have hall : ∀ name ∈ unitNames, name.toList ∈ units := by decide
    intro h
    have hmem := hall _ h
    rwa [String.toList_ofList] at hmem

/-- What is read is a unit. -/
theorem exists_unit {cs rest : List Char} (h : unit? cs = some rest) :
    ∃ unit ∈ unitNames, cs = unit.toList ++ rest := by
  obtain ⟨u, hfind, rfl⟩ := Option.map_eq_some_iff.1 h
  have hprefix : u.isPrefixOf cs = true := by simpa using List.find?_some hfind
  obtain ⟨tail, rfl⟩ := List.isPrefixOf_iff_prefix.1 hprefix
  refine ⟨String.ofList u, mem_units_iff.1 (List.mem_of_find?_eq_some hfind), ?_⟩
  rw [String.toList_ofList, List.drop_left]

/-- A unit is read up to its end, unless it is taken for another one because an `s` follows. -/
theorem unit?_append {unit : String} (h : unit ∈ unitNames) {rest : List Char}
    (hrest : rest.head? ≠ some 's') : unit? (unit.toList ++ rest) = some rest := by
  -- Only the minute can be taken for something else.
  have hs : ['s'].isPrefixOf rest = false := by
    cases rest with
    | nil => rfl
    | cons c cs =>
      have hc : 's' ≠ c := fun hc => hrest (congrArg some hc.symm)
      simp [List.isPrefixOf, hc]
  simp only [unitNames, List.mem_cons, List.not_mem_nil, or_false] at h
  rcases h with rfl | rfl | rfl | rfl | rfl | rfl | rfl | rfl <;>
    simp [unit?, units, List.find?, List.isPrefixOf, hs]

/-- A unit starts with nothing that could belong to a number. -/
theorem endsNumber_unit {unit : String} (h : unit ∈ unitNames) (cs : List Char) :
    EndsNumber (unit.toList ++ cs) := by
  -- There are only so many units.
  have hall : ∀ name ∈ unitNames, name.toList.head?.any (fun c => decide ¬InNumber c) = true := by
    decide +kernel
  obtain ⟨c, hc, hnumber⟩ := (Option.any_eq_true ..).1 (hall unit h)
  obtain ⟨rest, hname⟩ := List.head?_eq_some_iff.1 hc
  rw [hname]
  rintro _ ⟨rfl⟩
  exact of_decide_eq_true hnumber

/-! ## Components -/

/-- What is read is an amount with its unit. -/
theorem exists_component {cs rest : List Char} (h : component? cs = some rest) :
    ∃ amount, Amount amount ∧ ∃ unit ∈ unitNames, cs = amount ++ unit.toList ++ rest := by
  obtain ⟨behind, hnumber, hunit⟩ := Option.bind_eq_some_iff.1 h
  obtain ⟨amount, hamount, rfl⟩ := exists_amount hnumber
  obtain ⟨unit, hmem, rfl⟩ := exists_unit hunit
  exact ⟨amount, hamount, unit, hmem, (List.append_assoc ..).symm⟩

/-- An amount with its unit is read, unless an `s` follows. -/
theorem component?_append {amount rest : List Char} {unit : String} (hamount : Amount amount)
    (hunit : unit ∈ unitNames) (hrest : rest.head? ≠ some 's') :
    component? (amount ++ unit.toList ++ rest) = some rest := by
  rw [component?, List.append_assoc, number?_append hamount (endsNumber_unit hunit rest),
    Option.bind_some, unit?_append hunit hrest]

/-- A row of components starts with a digit or a point. -/
theorem Components.exists_cons {cs : List Char} (h : Components cs) :
    ∃ c rest, cs = c :: rest ∧ InNumber c := by
  cases h with
  | last hamount _ =>
    obtain ⟨c, rest, rfl, hc⟩ := hamount.exists_cons
    exact ⟨c, _, rfl, hc⟩
  | cons hamount _ _ =>
    obtain ⟨c, rest, rfl, hc⟩ := hamount.exists_cons
    exact ⟨c, _, rfl, hc⟩

/-- So it starts with no other character. -/
theorem Components.head?_ne {cs : List Char} (h : Components cs) {c : Char} (hc : ¬InNumber c) :
    cs.head? ≠ some c := by
  obtain ⟨d, rest, rfl, hd⟩ := h.exists_cons
  rintro ⟨rfl⟩
  exact hc hd

/-- One component is read, and the rest of them behind it. -/
theorem isComponents_eq {cs rest : List Char} (h : component? cs = some rest) :
    isComponents cs = (rest.isEmpty || isComponents rest) := by
  rw [isComponents]
  split
  · next hnone => rw [h] at hnone; cases hnone
  · next rest' hsome =>
    rw [h] at hsome
    obtain rfl := Option.some.inj hsome
    rfl

/-- The reader accepts exactly the rows of components. -/
theorem isComponents_iff {cs : List Char} : isComponents cs = true ↔ Components cs := by
  constructor
  · intro h
    -- The induction follows the reader, which takes one component at a time.
    fun_induction isComponents cs with
    | case1 => cases h
    | case2 cs rest hcomponent ih =>
      obtain ⟨amount, hamount, unit, hunit, rfl⟩ := exists_component hcomponent
      cases rest with
      | nil =>
        rw [List.append_nil]
        exact .last hamount hunit
      | cons c rest => exact .cons hamount hunit (ih h)
  · intro h
    -- And the other way round it follows the grammar.
    induction h with
    | @last amount unit hamount hunit =>
      have hcomponent : component? (amount ++ unit.toList ++ []) = some [] :=
        component?_append hamount hunit (by decide)
      rw [List.append_nil] at hcomponent
      rw [isComponents_eq hcomponent]
      rfl
    | cons hamount hunit hcs ih =>
      -- What follows a unit is another component, and that does not start with an `s`.
      have hs : ¬InNumber 's' := by decide +kernel
      rw [isComponents_eq (component?_append hamount hunit (hcs.head?_ne hs)), ih, Bool.or_true]

/-! ## Signs -/

/-- A component does not start with a sign, so a sign is read as one. -/
theorem isDuration_iff {s : String} : isDuration s = true ↔ DenotesDuration s := by
  constructor
  · intro h
    rw [isDuration] at h
    split at h
    · next cs hs => exact ⟨['+'], cs, .inr (.inl rfl), isComponents_iff.1 h, hs⟩
    · next cs hs => exact ⟨['-'], cs, .inr (.inr rfl), isComponents_iff.1 h, hs⟩
    · exact ⟨[], s.toList, .inl rfl, isComponents_iff.1 h, rfl⟩
  · rintro ⟨sign, cs, hsign, hcs, hs⟩
    have hread := isComponents_iff.2 hcs
    rw [isDuration, hs]
    rcases hsign with rfl | rfl | rfl
    · obtain ⟨c, rest, rfl, hc⟩ := hcs.exists_cons
      -- Without a sign, the first character belongs to a number.
      have hplus : c ≠ '+' := by rintro rfl; revert hc; decide +kernel
      have hminus : c ≠ '-' := by rintro rfl; revert hc; decide +kernel
      simpa [hplus, hminus] using hread
    · exact hread
    · exact hread

/-- Digits may be missing at either side of the point, but not at both. -/
example : DenotesDuration "-1.h.5ms" ∧ ¬DenotesDuration "1h.s" := by
  rw [← isDuration_iff, ← isDuration_iff]
  decide +kernel

/-- No other text is refined to a length of time. -/
theorem refine?_eq_duration_iff {s : String} :
    refine? s = some .duration ↔ isDuration s = true := by
  refine ⟨fun h => ?_, refine?_of_isDuration⟩
  rw [refine?] at h
  -- All other ways of refining a text give other tags.
  split at h
  · assumption
  · split at h
    · cases h
    · split at h
      · split at h <;> cases h
      · split at h <;> cases h

end Moment

namespace Schema

/-- With texts refined, a text is tagged as a length of time exactly if it is a sign, or none, and one
or more numbers, each with its unit. -/
theorem kindOf_eq_duration_iff (s : String) :
    kindOf true (.string s) = .duration ↔ Moment.DenotesDuration s := by
  rw [← Moment.isDuration_iff, ← Moment.refine?_eq_duration_iff, kindOf, if_pos rfl]
  cases Moment.refine? s with
  | none => exact ⟨fun h => (by cases h), fun h => (by cases h)⟩
  | some tag => exact ⟨fun h => congrArg some h, fun h => Option.some.inj h⟩

end Schema

end Stencil
