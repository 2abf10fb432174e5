import Stencil.FileTree.Path

/-!
# Names in a directory

A path is joined from the text of a directory and the name of something in it. A slash stands in
between, which may be there already, and the names of the parts follow each other: a plain name leads
one step down, wherever the directory is.

## Key results

- `pieces_append_slash`: what a slash separates
- `ofText_join`: a plain name joined to a directory
- `within_join`: a name that is plain or empty does not lead out of the directory
-/

namespace Stencil.Path

/-- A name that leads one step down, to something in a directory. -/
structure Plain (name : String) : Prop where
  ne_empty : name ≠ ""
  slash : '/' ∉ name.toList
  ne_here : name ≠ "."
  ne_above : name ≠ ".."

/-! ## Pieces -/

/-- Every text has a piece, if only an empty one. -/
theorem pieces_ne_nil (cs : List Char) : pieces cs ≠ [] := by
  cases cs with
  | nil => exact List.cons_ne_nil _ _
  | cons c cs =>
    rw [pieces]
    split
    · exact List.cons_ne_nil _ _
    · split <;> exact List.cons_ne_nil _ _

/-- A slash separates the pieces in front of it from those behind it. -/
theorem pieces_append_slash (cs ds : List Char) :
    pieces (cs ++ '/' :: ds) = pieces cs ++ pieces ds := by
  induction cs with
  | nil => rw [List.nil_append, pieces.eq_2, if_pos rfl, pieces.eq_1, List.singleton_append]
  | cons c cs ih =>
    rw [List.cons_append, pieces, pieces, ih]
    -- A slash in front ends a piece, any other character goes to the piece behind it.
    split
    · rfl
    · obtain ⟨p, ps, hps⟩ := List.exists_cons_of_ne_nil (pieces_ne_nil cs)
      rw [hps]
      rfl

/-- The names in a text that is followed as a path. -/
def namesIn (cs : List Char) : List String := ((pieces cs).filter (!·.isEmpty)).map String.ofList

/-- The names in front of a slash are followed by those behind it. -/
theorem namesIn_append_slash (cs ds : List Char) :
    namesIn (cs ++ '/' :: ds) = namesIn cs ++ namesIn ds := by
  rw [namesIn, pieces_append_slash, List.filter_append, List.map_append, namesIn, namesIn]

/-! ## Joining -/

/-- A name is put behind a slash, unless there is nothing in front of it. -/
theorem toList_join {directory name : String} (h : '/' ∉ name.toList) (hne : directory ≠ "") :
    ∃ cs, (directory.toList = cs ∨ directory.toList = cs ++ ['/']) ∧
      (join directory name).toList = cs ++ '/' :: name.toList := by
  have hhead : name.toList.head? ≠ some '/' := fun hhead => h (List.mem_of_mem_head? hhead)
  have hempty : directory.isEmpty = false := by simpa using hne
  rw [join, if_neg hhead, hempty, Bool.false_or]
  -- The slash is there already, or is put in between.
  by_cases hlast : directory.toList.getLast? = some '/'
  · obtain ⟨cs, hcs⟩ := List.getLast?_eq_some_iff.1 hlast
    refine ⟨cs, .inr hcs, ?_⟩
    rw [if_pos (decide_eq_true hlast), String.toList_append, hcs, List.append_assoc,
      List.singleton_append]
  · refine ⟨directory.toList, .inl rfl, ?_⟩
    rw [if_neg (by simpa using hlast), String.toList_append, String.toList_append, List.append_assoc]
    rfl

/-- The path of a directory goes on with the names of what is joined to it. -/
theorem ofText_join (directory : String) {name : String} (h : '/' ∉ name.toList) :
    (ofText (join directory name)).absolute = (ofText directory).absolute ∧
      (ofText (join directory name)).names = (ofText directory).names ++ (ofText name).names := by
  -- A name that is joined to nothing stays as it is.
  by_cases hne : directory = ""
  · have hhead : name.toList.head? ≠ some '/' := fun hhead => h (List.mem_of_mem_head? hhead)
    have hjoin : join directory name = name := by simp [join, hhead, hne]
    rw [hjoin, hne]
    exact ⟨by simp [ofText, hhead], rfl⟩
  · obtain ⟨cs, hcs, hjoin⟩ := toList_join h hne
    have hdirectory : directory.toList ≠ [] := by simpa using hne
    -- Whether a path is absolute is seen at its start, which belongs to the directory.
    constructor
    · show ((join directory name).toList.head? == _) = (directory.toList.head? == _)
      rw [hjoin]
      rcases hcs with hcs | hcs
      · obtain ⟨c, cs', rfl⟩ := List.exists_cons_of_ne_nil (hcs ▸ hdirectory)
        rw [hcs]
        rfl
      · rw [hcs]
        cases cs <;> rfl
    · show namesIn (join directory name).toList = namesIn directory.toList ++ namesIn name.toList
      rw [hjoin, namesIn_append_slash]
      rcases hcs with hcs | hcs
      · rw [hcs]
      · -- There is nothing behind the slash that the directory ends with.
        rw [hcs, namesIn_append_slash]
        simp [namesIn, pieces]

/-- As a path, a plain name leads one step down. -/
theorem Plain.names_ofText {name : String} (h : Plain name) : (ofText name).names = [name] :=
  names_ofText_name h.slash h.ne_empty

/-- A path that ends with a plain name does not end with a slash. -/
theorem Plain.slashed_join {directory name : String} (h : Plain name) :
    (ofText (join directory name)).slashed = false := by
  have hname : name.toList ≠ [] := by simpa using h.ne_empty
  obtain ⟨front, hjoin⟩ : ∃ front, (join directory name).toList = front ++ name.toList := by
    by_cases hne : directory = ""
    · exact ⟨[], by simp [join, hne]⟩
    · obtain ⟨cs, -, hjoin⟩ := toList_join h.slash hne
      exact ⟨cs ++ ['/'], by rw [hjoin, List.append_assoc, List.singleton_append]⟩
  have hlast : (front ++ name.toList).getLast? ≠ some '/' := by
    rw [List.getLast?_append, Option.or_of_isSome (List.getLast?_isSome.2 hname)]
    exact fun hlast => h.slash (List.mem_of_getLast? hlast)
  rw [ofText, hjoin]
  exact beq_false_of_ne hlast

/-- The second path leads to where the first one does, or to something in that directory. -/
def Within (p q : Path) : Prop :=
  q.absolute = p.absolute ∧ (q.names = p.names ∨ ∃ name, Plain name ∧ q.names = p.names ++ [name])

/-- Neither a plain name nor an empty one leads out of the directory. -/
theorem within_join {name : String} (h : name = "" ∨ Plain name) (directory : String) :
    Within (ofText directory) (ofText (join directory name)) := by
  -- An empty name leads to the directory itself.
  rcases h with rfl | h
  · have hslash : '/' ∉ "".toList := by decide
    obtain ⟨habsolute, hnames⟩ := ofText_join directory hslash
    exact ⟨habsolute, .inl (by rw [hnames]; exact List.append_nil _)⟩
  · obtain ⟨habsolute, hnames⟩ := ofText_join directory h.slash
    exact ⟨habsolute, .inr ⟨name, h, by rw [hnames, h.names_ofText]⟩⟩

end Stencil.Path
