import Stencil.FileTree.Basic
import Stencil.Proofs.Computation
import Stencil.Proofs.FileTree.Paths

/-!
# Changing a file tree

A file is written at the place that its path leads to, and a directory is made where there is nothing.
Paths lead through directories, and no operation takes a directory away, so a path that could be
followed once leads to the same place ever after.

## Key results

- `locate_of_keepsDirectories`: where a path leads stays the same
- `locate_join`: a plain name leads to a place in the directory that it is joined to
- `writeText_inv`, `readText_eq`: writing a file, and reading it again
- `grown_createDirectories`: making directories adds directories and changes nothing else
-/

namespace Stencil.FileTree

variable {t t' t'' : FileTree} {p : Path} {place q : Place}

/-! ## Where paths lead -/

/-- All directories of the first tree are directories of the second one, and paths start at the same
place. -/
structure KeepsDirectories (t t' : FileTree) : Prop where
  home : t'.home = t.home
  directory : ∀ place, t.find? place = some .directory → t'.find? place = some .directory

theorem KeepsDirectories.refl (t : FileTree) : t.KeepsDirectories t := ⟨rfl, fun _ h => h⟩

theorem KeepsDirectories.trans (h : t.KeepsDirectories t') (h' : t'.KeepsDirectories t'') :
    t.KeepsDirectories t'' :=
  ⟨h'.home.trans h.home, fun place hplace => h'.directory place (h.directory place hplace)⟩

/-- A row of names that can be followed leads to the same place as long as directories are kept. -/
theorem follow_of_keepsDirectories (h : t.KeepsDirectories t') {names : List String}
    (hfollow : t.follow place names = .ok q) : t'.follow place names = .ok q := by
  induction names generalizing place with
  | nil => exact hfollow
  | cons name names ih =>
    rw [follow] at hfollow ⊢
    -- A name is too long, or leads to the end of the path, or on through a directory.
    split at hfollow
    · cases hfollow
    · next hlength =>
      rw [if_neg hlength]
      split at hfollow
      · next hlast => rw [if_pos hlast]; exact hfollow
      · next hmore =>
        rw [if_neg hmore]
        split at hfollow
        · next hdirectory => rw [h.directory _ hdirectory]; exact ih hfollow
        · cases hfollow
        · cases hfollow

/-- A path leads to the same place as long as directories are kept. -/
theorem locate_of_keepsDirectories (h : t.KeepsDirectories t') (hlocate : t.locate p = .ok q) :
    t'.locate p = .ok q := by
  rw [locate, h.home]
  exact follow_of_keepsDirectories h hlocate

/-- A plain name at the end leads one step down. -/
theorem follow_append_plain {name : String} (hname : Path.Plain name) {names : List String}
    (h : t.follow place (names ++ [name]) = .ok q) :
    ∃ d, t.follow place names = .ok d ∧ q = d ++ [name] := by
  induction names generalizing place with
  | nil =>
    rw [List.nil_append, follow] at h
    split at h
    · cases h
    · rw [if_neg hname.ne_here, if_neg hname.ne_above] at h
      exact ⟨place, rfl, (Except.ok.inj h).symm⟩
  | cons n names ih =>
    -- There is another name behind this one, so it has to lead through a directory.
    have hmore : (names ++ [name]).isEmpty = false := by simp
    rw [List.cons_append, follow, hmore] at h
    rw [follow]
    split at h
    · cases h
    · next hlength =>
      rw [if_neg hlength]
      rw [if_neg Bool.false_ne_true] at h
      split at h
      · obtain ⟨d, hd, rfl⟩ := ih h
        -- Without the name at the end, this one may be the last.
        cases names with
        | nil => exact ⟨d, hd, rfl⟩
        | cons => exact ⟨d, by rw [if_neg (by simp)]; exact hd, rfl⟩
      · cases h
      · cases h

/-- A plain name joined to a directory leads to a place in it. -/
theorem locate_join {directory name : String} (hname : Path.Plain name)
    (h : t.locate (Path.ofText (Path.join directory name)) = .ok q) :
    ∃ d, t.locate (Path.ofText directory) = .ok d ∧ q = d ++ [name] := by
  obtain ⟨habsolute, hnames⟩ := Path.ofText_join directory hname.slash
  rw [locate, habsolute, hnames, hname.names_ofText] at h
  exact follow_append_plain hname h

/-! ## Writing and reading a file -/

/-- A text that can be followed is followed as its path. -/
theorem path_eq_ok {s : String} (h : path s = .ok p) : p = Path.ofText s := by
  rw [path] at h
  -- Each of the ways in which a text is no path is a fault.
  split at h
  · cases h
  · split at h
    · cases h
    · split at h
      · cases h
      · exact (Except.ok.inj h).symm

/-- The place where paths start is a directory. -/
theorem ne_nil_of_find?_ne (h : t.find? place ≠ some .directory) : place ≠ [] := by
  rintro rfl
  exact h rfl

/-- A file is written at the place that its path leads to, unless there is a directory. -/
theorem writeText_inv {file content : String} (h : t.writeText file content = .ok t') :
    path file = .ok (Path.ofText file) ∧ (Path.ofText file).slashed = false ∧
    ∃ place, t.locate (Path.ofText file) = .ok place ∧ t.find? place ≠ some .directory ∧
      t' = t.insert place (.file content.toUTF8) := by
  obtain ⟨p, hp, h⟩ := bind_eq_ok_iff.1 h
  obtain rfl := path_eq_ok hp
  obtain ⟨place, hplace, h⟩ := bind_eq_ok_iff.1 h
  -- A path that ends with a slash or leads to a directory is a fault.
  split at h
  · cases h
  · next hfile =>
    rw [Bool.or_eq_true, not_or, Bool.not_eq_true] at hfile
    refine ⟨hp, hfile.1, place, hplace, fun hdirectory => hfile.2 ?_, (Except.ok.inj h).symm⟩
    rw [hdirectory]
    rfl

/-- A file can be read at the place that its path leads to. -/
theorem readText_eq {file content : String} (hp : path file = .ok (Path.ofText file))
    (hslashed : (Path.ofText file).slashed = false)
    (hplace : t.locate (Path.ofText file) = .ok place)
    (hfind : t.find? place = some (.file content.toUTF8)) : t.readText file = .ok content := by
  have htext : String.fromUTF8? content.toUTF8 = some content := dif_pos content.isValidUTF8
  simp only [readText, hp, hplace, hfind, hslashed, htext, bind, Except.bind, Bool.false_eq_true,
    if_false]

/-- Writing a file keeps all directories. -/
theorem keepsDirectories_insert (h : t.find? place ≠ some .directory) (e : Entry) :
    t.KeepsDirectories (t.insert place e) := by
  refine ⟨rfl, fun q hq => ?_⟩
  rw [find?_insert _ _ _ _ (ne_nil_of_find?_ne h), if_neg, hq]
  -- The file is put where there was no directory.
  rintro rfl
  exact h hq

/-! ## Making directories -/

/-- The second tree is the first one with more directories. -/
structure Grown (t t' : FileTree) : Prop where
  home : t'.home = t.home
  find? : ∀ place, t'.find? place = t.find? place ∨
    t.find? place = none ∧ t'.find? place = some .directory

namespace Grown

theorem refl (t : FileTree) : t.Grown t := ⟨rfl, fun _ => .inl rfl⟩

/-- Directories may be added in two steps. -/
theorem trans (h : t.Grown t') (h' : t'.Grown t'') : t.Grown t'' := by
  refine ⟨h'.home.trans h.home, fun place => ?_⟩
  -- A place is as it was, or has become a directory in one of the steps.
  rcases h'.find? place with heq' | ⟨hnone', hnew'⟩
  · rw [heq']
    exact h.find? place
  · rcases h.find? place with heq | ⟨-, hnew⟩
    · exact .inr ⟨heq ▸ hnone', hnew'⟩
    · rw [hnew] at hnone'
      cases hnone'

/-- Where directories are added, none is lost. -/
theorem keepsDirectories (h : t.Grown t') : t.KeepsDirectories t' := by
  refine ⟨h.home, fun place hplace => ?_⟩
  rcases h.find? place with heq | ⟨-, hnew⟩
  · rw [heq, hplace]
  · exact hnew

end Grown

/-- A directory is made where there is nothing. -/
theorem makeDirectory_inv (h : t.makeDirectory p = .ok t') :
    t.Grown t' ∧ t'.isDirectory p = true := by
  obtain ⟨place, hplace, h⟩ := bind_eq_ok_iff.1 h
  split at h
  · cases h
  · next hnone =>
    obtain rfl := Except.ok.inj h
    have hne : place ≠ [] := ne_nil_of_find?_ne (by rw [hnone]; nofun)
    -- There was nothing at the place, so all that is new is the directory.
    have hgrown : t.Grown (t.insert place .directory) := by
      refine ⟨rfl, fun q => ?_⟩
      rw [find?_insert _ _ _ _ hne]
      split
      · next hq => exact .inr ⟨hq ▸ hnone, rfl⟩
      · exact .inl rfl
    refine ⟨hgrown, ?_⟩
    rw [isDirectory, locate_of_keepsDirectories hgrown.keepsDirectories hplace]
    dsimp only
    rw [find?_insert _ _ _ _ hne, if_pos rfl]
    rfl

/-- The last step of making directories: those above are there. -/
def makeLast (p : Path) (t : FileTree) : Except FileFault Unit × FileTree :=
  match t.makeDirectory p with
  | .ok t' => (.ok (), t')
  | .error fault => (if t.isDirectory p then .ok () else .error fault, t)

/-- If the one above is missing, it is made first. -/
theorem makeDirectories_cons (t : FileTree) (p : Path) (ps : List Path) :
    t.makeDirectories (p :: ps) =
      match t.makeDirectory p with
      | .error .notFound =>
        match t.makeDirectories ps with
        | (.ok (), t') => makeLast p t'
        | (.error fault, t') => (.error fault, t')
      | _ => makeLast p t := rfl

/-- A directory that is already there will do. -/
theorem makeLast_inv (p : Path) (t : FileTree) :
    t.Grown (makeLast p t).2 ∧ ((makeLast p t).1 = .ok () → (makeLast p t).2.isDirectory p = true) := by
  rw [makeLast]
  split
  · next t' h => exact ⟨(makeDirectory_inv h).1, fun _ => (makeDirectory_inv h).2⟩
  · refine ⟨.refl t, fun h => ?_⟩
    dsimp only at h ⊢
    split at h
    · assumption
    · cases h

/-- Directories that are missing are made, and nothing else is changed, whether there is a fault or
not. -/
theorem grown_makeDirectories (t : FileTree) (ps : List Path) : t.Grown (t.makeDirectories ps).2 := by
  induction ps with
  | nil => exact .refl t
  | cons p ps ih =>
    -- Those above are made by the hypothesis, and the last one is made or is there already.
    rw [makeDirectories_cons]
    split
    · split
      · next t' h =>
        rw [h] at ih
        exact ih.trans (makeLast_inv p t').1
      · next t' h =>
        rw [h] at ih
        exact ih
    · exact (makeLast_inv p t).1

/-- If there is no fault, the directory is there. -/
theorem isDirectory_makeDirectories {ps : List Path}
    (h : t.makeDirectories (p :: ps) = (.ok (), t')) : t'.isDirectory p = true := by
  have hlast : ∀ {t : FileTree}, makeLast p t = (.ok (), t') → t'.isDirectory p = true := by
    intro t h
    have hmake := (makeLast_inv p t).2
    rw [h] at hmake
    exact hmake rfl
  rw [makeDirectories_cons] at h
  split at h
  · split at h
    · exact hlast h
    · cases (Prod.mk.inj h).1
  · exact hlast h

/-- Making a directory adds directories and changes nothing else. -/
theorem grown_createDirectories (t : FileTree) (directory : String) :
    t.Grown (t.createDirectories directory).2 := by
  rw [createDirectories]
  split
  · exact .refl t
  · split
    · exact .refl t
    · exact grown_makeDirectories t _

/-- If there is no fault, the directory can be found. -/
theorem exists_locate_of_createDirectories {directory : String}
    (h : t.createDirectories directory = (.ok (), t')) :
    ∃ place, t'.locate (Path.ofText directory) = .ok place := by
  rw [createDirectories] at h
  split at h
  · next hempty =>
    -- Nothing has to be made for the directory in which paths start.
    have hdirectory : directory = "" := by simpa using hempty
    rw [hdirectory]
    exact ⟨_, rfl⟩
  · split at h
    · cases (Prod.mk.inj h).1
    · next p hp =>
      have hthere := isDirectory_makeDirectories h
      obtain rfl := path_eq_ok hp
      rw [isDirectory] at hthere
      split at hthere
      · next place hplace => exact ⟨place, hplace⟩
      · cases hthere

end Stencil.FileTree
