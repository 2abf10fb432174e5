import Mathlib.Data.List.Flatten
import Mathlib.Order.Bounds.Basic

/-!
# Lists

Facts about lists that are not those of anything in particular.

## Key results

- `findSome?_eq_of_mem`: a search that only one item can answer
- `eraseDups_append_singleton`: an item at the end of a list without repetitions
- `flatMap_eq_iff_of_sublist`: lists that are equal part by part
- `eq_or_exists_of_mem_intercalate`: what is in joined lists
- `span_append_of_stop`: a list is cut where a property fails first
- `Pairwise.head?_eq_some_iff_isLeast`, `Pairwise.getElem?_one_eq_some_iff`,
  `Pairwise.getLast?_eq_some_iff_isGreatest`: the first item of an ascending list, the second and
  the last, in terms of order
-/

namespace List

variable {α β : Type}

/-- If only one item of a list can answer a search, then the search has the answer of that item. -/
theorem findSome?_eq_of_mem {f : α → Option β} {l : List α} {a : α} (ha : a ∈ l)
    (h : ∀ b ∈ l, f b ≠ none → b = a) : l.findSome? f = f a := by
  cases hs : l.findSome? f with
  | none => exact (findSome?_eq_none_iff.1 hs a ha).symm
  | some c =>
    obtain ⟨b, hb, hc⟩ := exists_of_findSome?_eq_some hs
    rw [← h b hb (by simp [hc]), hc]

/-- An item at the end stays there if it is new. -/
theorem eraseDups_append_singleton [DecidableEq α] (as : List α) (a : α) :
    (as ++ [a]).eraseDups = if a ∈ as.eraseDups then as.eraseDups else as.eraseDups ++ [a] := by
  rw [eraseDups_append, removeAll]
  -- The item is removed from the rest iff it occurs in front.
  by_cases h : a ∈ as
  · simp [h]
  · simp [h, eraseDups_cons]

/-- If each part of a list is a sublist of its counterpart, then the whole lists are equal iff all
parts are. -/
theorem flatMap_eq_iff_of_sublist {f g : α → List β} {as : List α}
    (h : ∀ a ∈ as, (f a).Sublist (g a)) : as.flatMap f = as.flatMap g ↔ ∀ a ∈ as, f a = g a := by
  induction as with
  | nil => simp
  | cons a as ih =>
    obtain ⟨ha, has⟩ := forall_mem_cons.1 h
    rw [flatMap_cons, flatMap_cons, forall_mem_cons, ← ih has]
    constructor
    · intro heq
      -- Neither part can be shorter than its counterpart, or the whole would be.
      have hlength := congrArg length heq
      rw [length_append, length_append] at hlength
      have hle := ha.length_le
      have hles := (Sublist.flatMap_right as has).length_le
      exact append_inj heq (by omega)
    · rintro ⟨ha, has⟩
      rw [ha, has]

/-- A list whose items have a property is cut off in front of one that does not have it. -/
theorem span_append_of_stop {p : α → Bool} {as bs : List α} (has : ∀ a ∈ as, p a = true)
    (hbs : ∀ b ∈ bs.head?, p b = false) :
    (as ++ bs).takeWhile p = as ∧ (as ++ bs).dropWhile p = bs := by
  rw [takeWhile_append_of_pos has, dropWhile_append_of_pos has]
  cases bs with
  | nil => simp
  | cons b bs => simp [hbs b rfl]

/-- Joined lists hold what they did before, and the separator. -/
theorem eq_or_exists_of_mem_intercalate {sep a : α} {ls : List (List α)}
    (h : a ∈ [sep].intercalate ls) : a = sep ∨ ∃ l ∈ ls, a ∈ l := by
  induction ls with
  | nil => cases h
  | cons l ls ih =>
    cases ls with
    | nil =>
      rw [intercalate_singleton] at h
      exact .inr ⟨l, mem_cons_self, h⟩
    | cons k ks =>
      rw [intercalate_cons_cons, append_assoc, singleton_append, mem_append, mem_cons] at h
      -- In the first list, the separator behind it, or further on.
      rcases h with h | h | h
      · exact .inr ⟨l, mem_cons_self, h⟩
      · exact .inl h
      · exact (ih h).imp_right fun ⟨k', hk', h⟩ => ⟨k', mem_cons_of_mem l hk', h⟩

/-! ## Ascending lists -/

section Ascending

variable [PartialOrder α] {l : List α} {a : α}

/-- The first item of an ascending list is the least. -/
theorem Pairwise.head?_eq_some_iff_isLeast (h : l.Pairwise (· < ·)) :
    l.head? = some a ↔ IsLeast {b | b ∈ l} a := by
  cases l with
  | nil => simp [IsLeast]
  | cons c l =>
    have hleast : IsLeast {b | b ∈ c :: l} c := by
      refine ⟨mem_cons_self, fun b hb => ?_⟩
      rcases mem_cons.1 hb with rfl | hb
      · exact le_rfl
      · exact (rel_of_pairwise_cons h hb).le
    rw [head?_cons, Option.some_inj]
    exact ⟨fun heq => heq ▸ hleast, hleast.unique⟩

/-- The last item of an ascending list is the greatest. -/
theorem Pairwise.getLast?_eq_some_iff_isGreatest (h : l.Pairwise (· < ·)) :
    l.getLast? = some a ↔ IsGreatest {b | b ∈ l} a := by
  have hgreatest : ∀ {c}, l.getLast? = some c → IsGreatest {b | b ∈ l} c := by
    intro c hc
    obtain ⟨front, rfl⟩ := getLast?_eq_some_iff.1 hc
    refine ⟨mem_append_right _ mem_cons_self, fun b hb => ?_⟩
    rcases mem_append.1 hb with hb | hb
    · exact ((pairwise_append.1 h).2.2 b hb c mem_cons_self).le
    · exact (mem_singleton.1 hb).le
  refine ⟨hgreatest, fun ha => ?_⟩
  obtain ⟨c, hc⟩ := Option.isSome_iff_exists.1 (getLast?_isSome.2 (ne_nil_of_mem ha.1))
  rw [hc, ha.unique (hgreatest hc)]

/-- The second item is the least but one. -/
theorem Pairwise.getElem?_one_eq_some_iff (h : l.Pairwise (· < ·)) :
    l[1]? = some a ↔
      ∃ first, IsLeast {b | b ∈ l} first ∧ IsLeast ({b | b ∈ l} \ {first}) a := by
  cases l with
  | nil => simp [IsLeast]
  | cons c l =>
    have hfirst : ∀ first, IsLeast {b | b ∈ c :: l} first ↔ c = first := by
      intro first
      rw [← h.head?_eq_some_iff_isLeast, head?_cons, Option.some_inj]
    -- The first item does not come again, so without it there are the items behind it.
    have hothers : {b | b ∈ c :: l} \ {c} = {b | b ∈ l} := by
      ext b
      have hne : b ∈ l → b ≠ c := fun hb => (rel_of_pairwise_cons h hb).ne'
      simp only [Set.mem_sdiff, Set.mem_ofPred_eq, mem_cons, Set.mem_singleton_iff]
      tauto
    simp only [hfirst, exists_eq_left', hothers]
    rw [getElem?_cons_succ, ← head?_eq_getElem?, h.of_cons.head?_eq_some_iff_isLeast]

end Ascending

end List
