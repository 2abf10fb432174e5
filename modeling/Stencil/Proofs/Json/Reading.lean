import Stencil.Json.Draft
import Stencil.Proofs.Json.Same
import Stencil.Text.Classes

/-!
# Values read from a text

A draft keeps every key that the text has, also a key that comes again. Only when the draft is read
are members put under their keys, so no object of the value has a key twice, whatever the text says.

The reader goes through the lexemes with the arrays and objects that are open as its state. One
lexeme brings in nothing but a scalar or null, so all values in a draft are of that kind, and all
objects come from reading the members of a draft.

## Key results

- `Draft.leafy_step`: a lexeme adds only scalars and nulls to what has been read
- `Draft.leafy_ofText`: so all values in the draft of a text are scalars or null
- `Draft.Leafy.distinctKeys`: reading such a draft gives objects with distinct keys
- `distinctKeys_of_parse`: each value that a text denotes has distinct keys
- `isBlank_of_parse`: a text that denotes a value is not blank
-/

namespace Stencil.Json

/-- The value is a scalar or null. -/
def IsLeaf (v : Json) : Prop := v = .null ∨ v.isScalar = true

/-- A scalar or null holds no object. -/
theorem IsLeaf.distinctKeys {v : Json} (h : v.IsLeaf) : DistinctKeys v := by
  rcases h with rfl | h
  · exact .null
  · exact .scalar h

/-! ## Lexemes -/

/-- What the lexeme denotes on its own is a scalar or null. -/
def Lexeme.Leafy (l : Lexeme) : Prop := ∀ v, l = .scalar v → v.IsLeaf

/-- A lexeme that denotes no value on its own brings in none. -/
theorem Lexeme.leafy_of_ne {l : Lexeme} (h : ∀ v, l ≠ .scalar v) : l.Leafy :=
  fun v hv => absurd hv (h v)

/-- The words that denote a value are `true`, `false` and `null`. -/
theorem isLeaf_word {c : Char} {tail : List Char} {v : Json}
    (h : lexemesFrom.word c = some (tail, v)) : v.IsLeaf := by
  unfold lexemesFrom.word at h
  split at h
  · cases h; exact .inr rfl
  · cases h; exact .inr rfl
  · cases h; exact .inl rfl
  · cases h

/-- Reading on in a text adds only such lexemes. -/
theorem leafy_lexemesFrom {done : List Lexeme} (h : ∀ l ∈ done, l.Leafy) (cs : List Char) :
    ∀ l ∈ lexemesFrom done cs, l.Leafy := by
  -- A lexeme is put in front of those that have been read.
  have hadd : ∀ {done : List Lexeme} {l : Lexeme}, (∀ l ∈ done, l.Leafy) → l.Leafy →
      ∀ l' ∈ l :: done, l'.Leafy := fun h hl => List.forall_mem_cons.2 ⟨hl, h⟩
  -- What cannot be read ends the row, and denotes nothing.
  have hend : ∀ {done : List Lexeme} (quoted flaw), (∀ l ∈ done, l.Leafy) →
      ∀ l ∈ (Lexeme.broken quoted flaw :: done).reverse, l.Leafy := by
    intro done quoted flaw h l hl
    exact hadd h (Lexeme.leafy_of_ne (by simp)) l (List.mem_reverse.1 hl)
  fun_induction lexemesFrom done cs with
  | case1 done => exact fun l hl => h l (List.mem_reverse.1 hl)
  -- Blanks are skipped.
  | case2 _ _ ih | case3 _ _ ih | case4 _ _ ih | case5 _ _ ih => exact ih h
  -- Brackets, colons, commas and texts.
  | case6 _ _ ih | case7 _ _ ih | case8 _ _ ih | case9 _ _ ih | case10 _ _ ih | case11 _ _ ih =>
    exact ih (hadd h (Lexeme.leafy_of_ne (by simp)))
  | case12 _ _ _ _ _ ih => exact ih (hadd h (Lexeme.leafy_of_ne (by simp)))
  | case13 _ _ _ _ ih => exact ih (hadd h (Lexeme.leafy_of_ne (by simp)))
  | case14 => exact hend _ _ h
  -- Words and numerals.
  | case15 done c rest tail v hword hfault _ _ _ _ _ _ _ _ _ _ _ ih =>
    simp only [hword, hfault]
    exact ih (hadd h fun w hw => Lexeme.scalar.inj hw ▸ isLeaf_word hword)
  | case16 done c rest tail v hword fault hfault =>
    simp only [hword, hfault]
    exact hend _ _ h
  | case17 done c rest hword hdigit n width hnumeral lexeme _ _ _ _ _ _ _ _ _ _ _ ih =>
    simp only [hword, hdigit, if_true, hnumeral]
    refine ih (hadd h fun v hv => ?_)
    cases hn : n.value? with
    | some m =>
      have hlexeme : lexeme = .scalar (.number m) := by simp [lexeme, hn]
      rw [hlexeme] at hv
      exact Lexeme.scalar.inj hv ▸ .inr rfl
    | none =>
      have hlexeme : lexeme = .unreadable false := by simp [lexeme, hn]
      rw [hlexeme] at hv
      cases hv
  | case18 done c rest hword hdigit fault hnumeral =>
    simp only [hword, hdigit, if_true, hnumeral]
    exact hend _ _ h
  | case19 done c rest hword hdigit =>
    simp only [hword, hdigit]
    exact hend _ _ h

/-- All lexemes of a text are of that kind. -/
theorem leafy_lexemes (cs : List Char) : ∀ l ∈ lexemes cs, l.Leafy :=
  leafy_lexemesFrom (by simp) cs

namespace Draft

/-! ## Drafts -/

/-- All values in the draft are scalars or null. -/
inductive Leafy : Draft → Prop
  | scalar {v : Json} (h : v.IsLeaf) : Leafy (.scalar v)
  | unreadable : Leafy .unreadable
  | array {items : List Draft} (stop : Option Flaw) (h : ∀ d ∈ items, Leafy d) :
    Leafy (.array items stop)
  | object {members : List (Option String × Draft)} (stop : Option Flaw)
    (h : ∀ m ∈ members, Leafy m.2) : Leafy (.object members stop)
  | broken (flaw : Flaw) : Leafy (.broken flaw)

/-- All values in what has been read of an array or object are scalars or null. -/
def Frame.Leafy : Frame → Prop
  | .array items => ∀ d ∈ items, d.Leafy
  | .object members _ => ∀ m ∈ members, m.2.Leafy

/-- All values in what has been read of a text are scalars or null. -/
def Progress.Leafy : Progress → Prop
  | .within frames _ => ∀ f ∈ frames, f.Leafy
  | .finished v => v.Leafy

/-- A value is put into an array or object that is open. -/
theorem Frame.Leafy.place {f : Frame} (hf : f.Leafy) {v : Draft} (hv : v.Leafy) :
    (f.place v).Leafy := by
  cases f with
  | array items => exact List.forall_mem_cons.2 ⟨hv, hf⟩
  | object members key => exact List.forall_mem_cons.2 ⟨hv, hf⟩

/-- An array or object is closed. -/
theorem Frame.Leafy.finish {f : Frame} (hf : f.Leafy) (stop : Option Flaw) :
    (f.finish stop).Leafy := by
  cases f with
  | array items => exact .array stop fun d hd => hf d (List.mem_reverse.1 hd)
  | object members key => exact .object stop fun m hm => hf m (List.mem_reverse.1 hm)

section Step

variable {frames : List Frame}

/-- Breaking off closes all that is open, from the inside out. -/
theorem leafy_breakOff (h : ∀ f ∈ frames, f.Leafy) {v : Draft} (hv : v.Leafy) :
    (breakOff frames v).Leafy := by
  unfold breakOff
  induction frames generalizing v with
  | nil => exact hv
  | cons f frames ih =>
    obtain ⟨hf, hrest⟩ := List.forall_mem_cons.1 h
    exact ih hrest ((hf.place hv).finish none)

/-- A flaw is noted in the innermost array or object. -/
theorem leafy_stopAt (h : ∀ f ∈ frames, f.Leafy) (flaw : Flaw) : (stopAt frames flaw).Leafy := by
  cases frames with
  | nil => exact .broken flaw
  | cons f outer =>
    obtain ⟨hf, houter⟩ := List.forall_mem_cons.1 h
    exact leafy_breakOff houter (hf.finish _)

/-- A value belongs to the innermost array or object, or is the whole text. -/
theorem leafy_afterValue (h : ∀ f ∈ frames, f.Leafy) {v : Draft} (hv : v.Leafy) :
    (afterValue frames v).Leafy := by
  cases frames with
  | nil => exact hv
  | cons f outer =>
    obtain ⟨hf, houter⟩ := List.forall_mem_cons.1 h
    exact List.forall_mem_cons.2 ⟨hf.place hv, houter⟩

/-- Where a value is expected, a lexeme opens one, is one, or is a flaw. -/
theorem leafy_valueStep (h : ∀ f ∈ frames, f.Leafy) {l : Lexeme} (hl : l.Leafy) :
    (valueStep frames l).Leafy := by
  have hopen : ∀ f : Frame, f.Leafy → ∀ f' ∈ f :: frames, f'.Leafy := fun f hf =>
    List.forall_mem_cons.2 ⟨hf, h⟩
  cases l with
  | openArray => exact hopen (.array []) (by simp [Frame.Leafy])
  | openObject => exact hopen (.object [] none) (by simp [Frame.Leafy])
  | text s => exact leafy_afterValue h (.scalar (.inr rfl))
  | scalar v => exact leafy_afterValue h (.scalar (hl v rfl))
  | unreadable => exact leafy_afterValue h .unreadable
  | _ => exact leafy_breakOff h (.broken _)

/-- Where a key is expected, no value is read at all. -/
theorem leafy_keyStep {members : List (Option String × Draft)} (hm : ∀ m ∈ members, m.2.Leafy)
    (h : ∀ f ∈ frames, f.Leafy) (l : Lexeme) : (keyStep members frames l).Leafy := by
  have hopen : ∀ k, ∀ f ∈ Frame.object members k :: frames, f.Leafy := fun k =>
    List.forall_mem_cons.2 ⟨hm, h⟩
  unfold keyStep
  split
  · exact hopen _
  · exact hopen none
  · exact leafy_stopAt (hopen none) _
  · exact leafy_stopAt (hopen none) _

/-- The innermost array or object is closed. -/
theorem leafy_close {f : Frame} (h : ∀ f' ∈ f :: frames, f'.Leafy) :
    (afterValue frames (f.finish none)).Leafy := by
  obtain ⟨hf, houter⟩ := List.forall_mem_cons.1 h
  exact leafy_afterValue houter (hf.finish none)

/-- A lexeme adds only scalars and nulls to what has been read. -/
theorem leafy_step (h : ∀ f ∈ frames, f.Leafy) (expect : Expectation) {l : Lexeme} (hl : l.Leafy) :
    (step frames expect l).Leafy := by
  -- A key belongs to an object whose members have been read before.
  have hkey : ∀ {members key outer}, (∀ f ∈ Frame.object members key :: outer, f.Leafy) →
      (keyStep members outer l).Leafy := by
    intro members key outer h
    obtain ⟨hm, houter⟩ := List.forall_mem_cons.1 h
    exact leafy_keyStep hm houter l
  unfold step
  split
  · exact h
  · exact h
  · exact leafy_close h
  · exact leafy_close h
  · exact leafy_close h
  · exact leafy_close h
  · exact h
  · exact hkey h
  · exact hkey h
  · exact leafy_valueStep h hl
  · exact leafy_valueStep h hl
  · exact leafy_stopAt h _

/-- Likewise if the text ends before its time. -/
theorem leafy_cutShort (h : ∀ f ∈ frames, f.Leafy) (expect : Expectation) :
    (cutShort frames expect).Leafy := by
  unfold cutShort
  split
  · exact leafy_breakOff h (.broken _)
  · exact leafy_breakOff h (.broken _)
  · exact leafy_stopAt h _

end Step

/-- By induction on the lexemes, all values that have been read are scalars or null. -/
theorem leafy_ofLexemes {p : Progress} (hp : p.Leafy) {ls : List Lexeme}
    (hls : ∀ l ∈ ls, l.Leafy) : (ofLexemes p ls).1.Leafy := by
  induction ls generalizing p with
  | nil =>
    cases p with
    | finished v => exact hp
    -- A text may end while arrays and objects are open.
    | within frames expect => exact leafy_cutShort hp expect
  | cons l ls ih =>
    cases p with
    | finished v => exact hp
    | within frames expect =>
      obtain ⟨hl, hrest⟩ := List.forall_mem_cons.1 hls
      exact ih (leafy_step hp expect hl) hrest

/-- All values in the draft of a text are scalars or null. -/
theorem leafy_ofText (s : String) : (ofText s).1.Leafy :=
  leafy_ofLexemes (p := .within [] .value) (by simp [Progress.Leafy]) (leafy_lexemes s.toList)

/-! ## Reading a draft -/

/-- An array or object that has a flaw is no value. -/
private theorem eq_of_unlessStopped {stop : Option Flaw} {v w : Json}
    (h : unlessStopped stop v = .ok w) : v = w := by
  cases stop with
  | none => exact Except.ok.inj h
  | some flaw => cases h

/-- The items of an array are read one by one. -/
private theorem distinctKeys_readItems {room : Nat} {items : List Draft}
    (hitems : ∀ d ∈ items, ∀ {v}, read room d = .ok v → DistinctKeys v) {vs : List Json}
    (h : readItems room items = .ok vs) : ∀ v ∈ vs, DistinctKeys v := by
  induction items generalizing vs with
  | nil =>
    rw [readItems] at h
    cases h
    simp
  | cons d items ih =>
    obtain ⟨hd, hrest⟩ := List.forall_mem_cons.1 hitems
    rw [readItems] at h
    -- The first item that cannot be read ends the reading of the array.
    cases hv : read room d with
    | error e => simp [hv, bind, Except.bind] at h
    | ok v =>
      cases hvs : readItems room items with
      | error e => simp [hv, hvs, bind, Except.bind] at h
      | ok ws =>
        simp only [hv, hvs, bind, Except.bind, pure, Except.pure, Except.ok.injEq] at h
        subst h
        exact List.forall_mem_cons.2 ⟨hd hv, ih hrest hvs⟩

/-- A member with a key that is there already takes the place of the earlier one. -/
private theorem distinctKeys_readMembers {room : Nat} {members : List (Option String × Draft)}
    (hmembers : ∀ m ∈ members, ∀ {v}, read room m.2 = .ok v → DistinctKeys v) {before ms : Members}
    (hbefore : DistinctKeys (.object before)) (h : readMembers room before members = .ok ms) :
    DistinctKeys (.object ms) := by
  induction members generalizing before with
  | nil =>
    rw [readMembers] at h
    cases h
    exact hbefore
  | cons m members ih =>
    obtain ⟨hm, hrest⟩ := List.forall_mem_cons.1 hmembers
    obtain ⟨key, d⟩ := m
    -- A member without a key makes the whole object unreadable.
    cases key with
    | none => rw [readMembers] at h; cases h
    | some k =>
      rw [readMembers] at h
      cases hv : read room d with
      | error e => simp [hv, bind, Except.bind] at h
      | ok v =>
        simp only [hv, bind, Except.bind] at h
        obtain ⟨hkeys, hvalues⟩ := DistinctKeys.object_iff.1 hbefore
        refine ih hrest (.object (Members.nodup_keys_insert hkeys k v) fun m hmem => ?_) h
        rcases Members.mem_of_mem_insert hmem with rfl | hold
        · exact hm hv
        · exact hvalues m hold

/-- Reading a draft whose values are scalars or null gives objects with distinct keys. -/
theorem Leafy.distinctKeys {d : Draft} (hd : d.Leafy) {room : Nat} {v : Json}
    (h : read room d = .ok v) : DistinctKeys v := by
  induction hd generalizing room v with
  | scalar hleaf =>
    rw [read_scalar] at h
    exact Except.ok.inj h ▸ hleaf.distinctKeys
  | unreadable => rw [read] at h; cases h
  | broken flaw => rw [read] at h; cases h
  -- Each level of arrays and objects takes up some of the room that is left for nesting.
  | @array items stop _ ih =>
    cases room with
    | zero => rw [read] at h; cases h
    | succ room =>
      rw [read] at h
      cases hvs : readItems room items with
      | error e => simp [hvs, bind, Except.bind] at h
      | ok vs =>
        simp only [hvs, bind, Except.bind] at h
        exact eq_of_unlessStopped h ▸ .array (distinctKeys_readItems (fun d hd => ih d hd) hvs)
  | @object members stop _ ih =>
    cases room with
    | zero => rw [read] at h; cases h
    | succ room =>
      rw [read] at h
      cases hms : readMembers room [] members with
      | error e => simp [hms, bind, Except.bind] at h
      | ok ms =>
        simp only [hms, bind, Except.bind] at h
        have hempty : DistinctKeys (.object []) := .object (by simp) (by simp)
        exact eq_of_unlessStopped h ▸
          distinctKeys_readMembers (fun m hm => ih m hm) hempty hms

end Draft

/-- No object of a value that a text denotes has a key twice. -/
theorem distinctKeys_of_parse {s : String} {v : Json} (h : parse s = .ok v) : DistinctKeys v := by
  rw [parse] at h
  cases hv : (Draft.ofText s).1.read maxDepth with
  | error e => simp [hv, bind, Except.bind] at h
  | ok w =>
    simp only [hv, bind, Except.bind] at h
    split at h
    · exact Except.ok.inj h ▸ (Draft.leafy_ofText s).distinctKeys hv
    · cases h

/-! ## Blank texts -/

open Text

/-- ASCII characters behind the blank are no white space. -/
theorem isWhitespace_eq_false {c : Char} (h : 32 < c.toNat) (h' : c.toNat < 128) :
    isWhitespace c = false := by
  rw [isWhitespace, hasClass_ascii h', isAsciiWhitespace]
  have hblank : c ≠ ' ' := by
    rintro rfl
    exact absurd h (by decide)
  simp [hblank]
  omega

/-- No word starts with white space. -/
theorem word_eq_none {c : Char} (hc : isWhitespace c = true) : lexemesFrom.word c = none := by
  unfold lexemesFrom.word
  split <;> first | rfl | exact absurd hc (by decide)

/-- No numeral starts with white space. -/
theorem not_numeral {c : Char} (hc : isWhitespace c = true) : ¬ (c = '-' || c.isDigit) = true := by
  rw [Bool.or_eq_true, decide_eq_true_eq]
  rintro (rfl | hdigit)
  · exact absurd hc (by decide)
  · rw [Char.isDigit_iff_toNat] at hdigit
    have h0 : '0'.toNat = 48 := rfl
    have h9 : '9'.toNat = 57 := rfl
    rw [isWhitespace_eq_false (by omega) (by omega)] at hc
    cases hc

/-- No value starts with white space: it is skipped, or is not well formed. -/
theorem lexemesFrom_of_isWhitespace {done : List Lexeme} {cs : List Char}
    (h : ∀ c ∈ cs, isWhitespace c = true) :
    lexemesFrom done cs = done.reverse ∨
      lexemesFrom done cs = (.broken false (.plain .malformed) :: done).reverse := by
  -- The cases are those of the reader: blanks are skipped, and nothing else is white space.
  fun_induction lexemesFrom done cs with
  | case1 => exact .inl rfl
  | case2 _ _ ih | case3 _ _ ih | case4 _ _ ih | case5 _ _ ih =>
    exact ih fun c hc => h c (List.mem_cons_of_mem _ hc)
  | case6 | case7 | case8 | case9 | case10 | case11 | case12 | case13 | case14 =>
    exact absurd (h _ List.mem_cons_self) (by decide)
  | case15 done c rest tail v hword | case16 done c rest tail v hword =>
    rw [word_eq_none (h c List.mem_cons_self)] at hword
    cases hword
  | case17 done c rest _ hnumeral | case18 done c rest _ hnumeral =>
    exact absurd hnumeral (not_numeral (h c List.mem_cons_self))
  | case19 done c rest hword hnumeral =>
    simp only [hword, hnumeral]
    exact .inr rfl

/-- A text that denotes a value does not consist of white space. -/
theorem isBlank_of_parse {s : String} {v : Json} (h : parse s = .ok v) : isBlank s = false := by
  refine Bool.eq_false_iff.2 fun hblank => ?_
  have hlexemes : lexemes s.toList = [] ∨
      lexemes s.toList = [.broken false (.plain .malformed)] :=
    lexemesFrom_of_isWhitespace (List.all_eq_true.1 hblank)
  unfold parse Draft.ofText at h
  rcases hlexemes with hl | hl <;> rw [hl] at h <;> cases h

end Stencil.Json
