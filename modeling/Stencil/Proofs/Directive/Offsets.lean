import Mathlib.Data.Set.Card
import Stencil.Proofs.Directive.Occurrence

/-!
# What an imbalance points at

The offsets of a directive are the places in a text, in bytes, where one of its spellings stands.
Hence balance is a matter of how many there are, and the imbalance that is reported can be found
without cutting the text: it is that of the first block that is opened and closed unequally often,
and points at the last directive of the kind that is too many.

## Key results

- `mem_offsets_iff`: the offsets of a directive are where its spellings start
- `pairwise_offsets`: the offsets of a directive are in order
- `imbalance?_eq_some_iff`: the imbalance that is found, said without the offsets
- `checkBalance_exact`: what the check answers on every text
-/

namespace Stencil

open Text (utf8Size)

/-! ## Places in a text -/

/-- The places in a text, in bytes, where a directive starts. -/
def Directive.starts (d : Directive) (cs : List Char) : Set Nat :=
  {n | ∃ (w : Spelling d) (xs ys : List Char), xs ++ (w.source ++ ys) = cs ∧ utf8Size xs = n}

/-- The offsets are those of the texts in front of the pieces that are the directive. -/
theorem mem_offsetsFrom_iff {d : Directive} {start n : Nat} {ps : List Piece} :
    n ∈ offsetsFrom d start ps ↔
      ∃ before s after, before ++ .directive d s :: after = ps ∧
        start + utf8Size (sourceOf before) = n := by
  constructor
  · intro h
    induction ps generalizing start with
    | nil => cases h
    | cons p ps ih =>
      -- An offset behind the first piece counts this piece in.
      have hrest : n ∈ offsetsFrom d (start + utf8Size p.source) ps →
          ∃ before s after, before ++ .directive d s :: after = p :: ps ∧
            start + utf8Size (sourceOf before) = n := by
        intro hn
        obtain ⟨before, s, after, rfl, rfl⟩ := ih hn
        exact ⟨p :: before, s, after, rfl, by simp [Nat.add_assoc]⟩
      rw [offsetsFrom] at h
      split at h
      · next his =>
        rcases List.mem_cons.1 h with rfl | h
        · cases p with
          | char c => cases his
          | directive e s =>
            obtain rfl := of_decide_eq_true his
            exact ⟨[], s, ps, rfl, rfl⟩
        · exact hrest h
      · exact hrest h
  · intro h
    obtain ⟨before, s, after, rfl, rfl⟩ := h
    -- The directive is behind some pieces, which are passed over one by one.
    induction before generalizing start with
    | nil => simp [offsetsFrom, Piece.is, utf8Size]
    | cons p before ih =>
      have hrest := @ih (start + utf8Size p.source)
      rw [List.cons_append, offsetsFrom, sourceOf_cons, Text.utf8Size_append, ← Nat.add_assoc]
      split
      · exact List.mem_cons_of_mem _ hrest
      · exact hrest

/-- The offsets of a directive are where its spellings start. -/
theorem mem_offsets_iff {d : Directive} {cs : List Char} {n : Nat} :
    n ∈ offsets d cs ↔ n ∈ d.starts cs := by
  rw [offsets, mem_offsetsFrom_iff]
  simp only [Nat.zero_add]
  constructor
  · intro h
    obtain ⟨before, s, after, hps, rfl⟩ := h
    have hmem : .directive d s ∈ pieces cs := by rw [← hps]; simp
    obtain ⟨w, l, rfl⟩ := (isCut_pieces cs).exists_spelling hmem
    refine ⟨w, sourceOf before, l ++ sourceOf after, ?_, rfl⟩
    rw [← source_pieces cs, ← hps]
    simp [Piece.source]
  · intro h
    obtain ⟨w, xs, ys, rfl, rfl⟩ := h
    -- A spelling opens with a mark, so that the text is cut apart in front of it.
    obtain ⟨l, zs, -, -, hcut⟩ := exists_pieces_spelling w ys
    refine ⟨pieces xs, w.source ++ l, pieces zs, ?_, by rw [source_pieces]⟩
    rw [pieces_append xs (Directive.startsMark_spelling w ys), hcut]

/-- The offsets of a directive, as a set of places. -/
theorem setOf_mem_offsets (d : Directive) (cs : List Char) : {n | n ∈ offsets d cs} = d.starts cs :=
  Set.ext fun _ => mem_offsets_iff

/-- Offsets are in order if no piece is empty. -/
private theorem pairwise_offsetsFrom {d : Directive} {start : Nat} {ps : List Piece}
    (h : ∀ p ∈ ps, 0 < utf8Size p.source) : (offsetsFrom d start ps).Pairwise (· < ·) := by
  induction ps generalizing start with
  | nil => exact .nil
  | cons p ps ih =>
    rw [List.forall_mem_cons] at h
    rw [offsetsFrom]
    split
    · -- Whatever comes behind the piece comes behind a byte of it.
      refine .cons (fun n hn => ?_) (ih h.2)
      obtain ⟨before, s, after, -, rfl⟩ := mem_offsetsFrom_iff.1 hn
      omega
    · exact ih h.2

/-- No piece of a text is empty. -/
private theorem utf8Size_pos_of_mem_pieces {cs : List Char} {p : Piece} (hp : p ∈ pieces cs) :
    0 < utf8Size p.source := by
  cases p with
  | char c => exact Nat.add_pos_left c.utf8Size_pos _
  | directive d s =>
    obtain ⟨w, l, rfl⟩ := (isCut_pieces cs).exists_spelling hp
    exact Nat.add_pos_left (Char.utf8Size_pos _) _

/-- The offsets of a directive are in order. -/
theorem pairwise_offsets (d : Directive) (cs : List Char) : (offsets d cs).Pairwise (· < ·) :=
  pairwise_offsetsFrom fun _ hp => utf8Size_pos_of_mem_pieces hp

/-- A directive is found as often as it stands in a text. -/
theorem ncard_starts (d : Directive) (cs : List Char) :
    (d.starts cs).ncard = (offsets d cs).length := by
  have hnodup : (offsets d cs).Nodup := (pairwise_offsets d cs).imp Nat.ne_of_lt
  rw [← setOf_mem_offsets, ← List.coe_toFinset, Set.ncard_coe_finset,
    List.toFinset_card_of_nodup hnodup]

/-- The last offset is the last place. -/
theorem getLast?_offsets_eq_some_iff {d : Directive} {cs : List Char} {n : Nat} :
    (offsets d cs).getLast? = some n ↔ IsGreatest (d.starts cs) n := by
  rw [(pairwise_offsets d cs).getLast?_eq_some_iff_isGreatest, setOf_mem_offsets]

/-- The second offset is the first place behind the first one. -/
theorem getElem?_one_offsets_eq_some_iff {d : Directive} {cs : List Char} {n : Nat} :
    (offsets d cs)[1]? = some n ↔
      ∃ first, IsLeast (d.starts cs) first ∧ IsLeast (d.starts cs \ {first}) n := by
  rw [(pairwise_offsets d cs).getElem?_one_eq_some_iff, setOf_mem_offsets]

/-! ## The imbalance of a text -/

/-- A block is closed as often as it is opened. -/
def Block.BalancedIn (b : Block) (cs : List Char) : Prop :=
  ((Directive.opening b).starts cs).ncard = ((Directive.closing b).starts cs).ncard

/-- A block is in balance iff no imbalance is found of it. -/
theorem Block.balancedIn_iff {b : Block} {cs : List Char} :
    b.BalancedIn cs ↔ blockImbalance? cs b = none := by
  rw [BalancedIn, ncard_starts, ncard_starts, length_offsets, length_offsets,
    blockImbalance?_eq_none_iff]

/-- A block is opened more often than closed, for the last time at an offset, or closed more often
than opened. -/
inductive Block.Excess (b : Block) (cs : List Char) : Imbalance → Prop
  | unclosed {n : Nat}
    (more : ((Directive.closing b).starts cs).ncard < ((Directive.opening b).starts cs).ncard)
    (last : IsGreatest ((Directive.opening b).starts cs) n) : Excess b cs (.unclosed b n)
  | unopened {n : Nat}
    (more : ((Directive.opening b).starts cs).ncard < ((Directive.closing b).starts cs).ncard)
    (last : IsGreatest ((Directive.closing b).starts cs) n) : Excess b cs (.unopened b n)

/-- The imbalance of a text that is reported, if there are several: that of the first block that is
not balanced, and if all of them are, that of the second split section. -/
inductive Imbalance.Reported (cs : List Char) : Imbalance → Prop
  | block {before after : List Block} {b : Block} {i : Imbalance}
    (order : Block.all = before ++ b :: after) (balanced : ∀ a ∈ before, a.BalancedIn cs)
    (excess : b.Excess cs i) : Reported cs i
  | repeated {first second : Nat} (balanced : ∀ b : Block, b.BalancedIn cs)
    (hfirst : IsLeast ((Directive.opening .split).starts cs) first)
    (hsecond : IsLeast ((Directive.opening .split).starts cs \ {first}) second) :
    Reported cs (.repeated (.opening .split) second)

/-- If something is outnumbered by the offsets, then there is a last one, which is not made up. -/
private theorem getLast?_getD_offsets {d : Directive} {cs : List Char} {k : Nat}
    (h : k < (offsets d cs).length) :
    IsGreatest (d.starts cs) ((offsets d cs).getLast?.getD 0) := by
  have hne : offsets d cs ≠ [] := List.ne_nil_of_length_pos (Nat.zero_lt_of_lt h)
  rw [← getLast?_offsets_eq_some_iff, List.getLast?_eq_some_getLast hne, Option.getD_some]

/-- The imbalance that is found of a block, said without cutting the text. -/
theorem blockImbalance?_eq_some_iff {cs : List Char} {b : Block} {i : Imbalance} :
    blockImbalance? cs b = some i ↔ b.Excess cs i := by
  constructor
  · intro h
    rw [blockImbalance?] at h
    -- More openings than closings, fewer of them, or as many.
    split at h
    · next hlt =>
      obtain rfl := Option.some.inj h
      refine .unclosed ?_ (getLast?_getD_offsets hlt)
      rwa [ncard_starts, ncard_starts]
    · split at h
      · next hlt =>
        obtain rfl := Option.some.inj h
        refine .unopened ?_ (getLast?_getD_offsets hlt)
        rwa [ncard_starts, ncard_starts]
      · cases h
  · intro h
    cases h with
    | unclosed more last =>
      rw [ncard_starts, ncard_starts] at more
      rw [blockImbalance?, if_pos more, getLast?_offsets_eq_some_iff.2 last, Option.getD_some]
    | unopened more last =>
      rw [ncard_starts, ncard_starts] at more
      rw [blockImbalance?, if_neg (by omega), if_pos more, getLast?_offsets_eq_some_iff.2 last,
        Option.getD_some]

/-- If the split section is closed as often as it is opened, its second opening decides. -/
private theorem findSome?_repetition? {cs : List Char} (h : Block.split.BalancedIn cs) :
    [Directive.opening .split, .closing .split].findSome? (repetition? cs) =
      repetition? cs (.opening .split) := by
  rw [Block.balancedIn_iff, blockImbalance?_eq_none_iff] at h
  rw [List.findSome?_cons]
  cases hopening : repetition? cs (.opening .split) with
  | some i => rfl
  | none =>
    -- There is one opening at most, so there is one closing at most.
    rw [repetition?_eq_none_iff, h, ← repetition?_eq_none_iff] at hopening
    simp [hopening]

/-- The imbalance that is found, said without cutting the text. -/
theorem imbalance?_eq_some_iff {cs : List Char} {i : Imbalance} :
    imbalance? cs = some i ↔ i.Reported cs := by
  rw [imbalance?, Option.orElse_eq_orElse, Option.orElse_eq_or, Option.or_eq_some_iff,
    List.findSome?_eq_some_iff]
  constructor
  · intro h
    -- A block is not balanced, or all of them are and a marker is repeated.
    rcases h with ⟨before, b, after, order, hb, hbefore⟩ | ⟨hblocks, hrep⟩
    · exact .block order (fun a ha => Block.balancedIn_iff.2 (hbefore a ha))
        (blockImbalance?_eq_some_iff.1 hb)
    · have balanced : ∀ b : Block, b.BalancedIn cs := fun b =>
        Block.balancedIn_iff.2 (List.findSome?_eq_none_iff.1 hblocks b b.mem_all)
      rw [findSome?_repetition? (balanced .split), repetition?, Option.map_eq_some_iff] at hrep
      obtain ⟨second, hrep, rfl⟩ := hrep
      obtain ⟨first, hfirst, hsecond⟩ := getElem?_one_offsets_eq_some_iff.1 hrep
      exact .repeated balanced hfirst hsecond
  · intro h
    cases h with
    | block order balanced excess =>
      exact .inl ⟨_, _, _, order, blockImbalance?_eq_some_iff.2 excess,
        fun a ha => Block.balancedIn_iff.1 (balanced a ha)⟩
    | repeated balanced hfirst hsecond =>
      refine .inr ⟨List.findSome?_eq_none_iff.2 fun b _ => Block.balancedIn_iff.1 (balanced b), ?_⟩
      rw [findSome?_repetition? (balanced .split), repetition?,
        getElem?_one_offsets_eq_some_iff.2 ⟨_, hfirst, hsecond⟩, Option.map_some]

/-- The check answers with the imbalance that is to be reported. -/
theorem checkBalance_eq_error_iff {cs : List Char} {i : Imbalance} :
    checkBalance cs = .error i ↔ i.Reported cs := by
  rw [← imbalance?_eq_some_iff, checkBalance]
  cases imbalance? cs with
  | none => simp
  | some j => simp

/-- What is reported points at a directive of the kind that is too many. -/
theorem Imbalance.Reported.offset_mem_starts {cs : List Char} {i : Imbalance} (h : i.Reported cs) :
    i.offset ∈ i.directive.starts cs := by
  cases h with
  | block _ _ excess =>
    cases excess with
    | unclosed _ last => exact last.1
    | unopened _ last => exact last.1
  | repeated _ _ hsecond => exact hsecond.1.1

/-- Directives are told apart by how they are usually written. -/
theorem Directive.spelling_inj {d e : Directive} (h : d.spelling = e.spelling) : d = e := by
  have hkeyword : d.keyword = e.keyword := by
    rwa [spelling, spelling, String.append_left_inj, String.append_right_inj] at h
  exact letters_inj (by rw [letters, letters, hkeyword])

/-- The check succeeds iff every block is closed as often as it is opened and neither marker of the
split section stands in the text twice. Otherwise it reports the last directive of the kind that is
too many, of the first block that is not balanced, or the second split section; and where the report
points, the directive stands that it names. -/
theorem checkBalance_exact (cs : List Char) :
    (checkBalance cs = .ok () ↔ (∀ b : Block, b.BalancedIn cs) ∧
      ((Directive.opening .split).starts cs).ncard ≤ 1 ∧
      ((Directive.closing .split).starts cs).ncard ≤ 1) ∧
    (∀ i, checkBalance cs = .error i ↔ i.Reported cs) ∧
    ∀ (i : Imbalance) (d : Directive), checkBalance cs = .error i →
      d.spelling = i.directive.spelling → i.offset ∈ d.starts cs := by
  refine ⟨?_, fun i => checkBalance_eq_error_iff, fun i d hi hd => ?_⟩
  · have hblocks : (∀ b : Block, b.BalancedIn cs) ↔
        ∀ b, directiveCount (.opening b) cs = directiveCount (.closing b) cs := by
      simp only [Block.BalancedIn, ncard_starts, length_offsets]
    rw [checkBalance_eq_ok_iff, imbalance?_eq_none_iff, hblocks, ncard_starts, ncard_starts,
      length_offsets, length_offsets]
    -- The markers of a balanced section are equally many, so nothing more is said of the closing one.
    refine and_congr_right fun h => ?_
    rw [← h .split, and_self]
  · rw [Directive.spelling_inj hd]
    exact (checkBalance_eq_error_iff.1 hi).offset_mem_starts

/-- Offsets count bytes, and the properties come before the split section that stands in front. -/
example : checkBalance "é\x7b\x7bSPLIT\x7d\x7d\x7b\x7b/properties \x7d\x7d".toList =
    .error (.unopened .properties 11) := by
  decide +kernel

end Stencil
