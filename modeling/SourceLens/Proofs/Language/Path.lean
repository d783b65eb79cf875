import SourceLens.Language.Path
import SourceLens.Proofs.Text.Parts

/-! # The language of a path

A path is that of a Python file if its name, which only slashes and points that stand alone may
follow, has a stem and one of three extensions. -/
namespace SourceLens

open Text

variable {path name stem ext : List Char}

namespace Path

/-- Slashes and points that stand alone: they say nothing more about the name before them. -/
inductive Idle : List Char → Prop
  | nil : Idle []
  | slash {s : List Char} (tail : Idle s) : Idle ('/' :: s)
  | point {s : List Char} (ends : ∀ c ∈ s.head?, c = '/') (tail : Idle s) : Idle ('/' :: '.' :: s)

/-- A directory in front of a name: nothing, or a text that ends with a slash. -/
def IsDirectory (dir : List Char) : Prop := dir = [] ∨ ∃ d, dir = d ++ ['/']

theorem isDirectory_iff :
    IsDirectory name ↔ ∃ before : List (List Char),
      (∀ part ∈ before, '/' ∉ part) ∧ name = before.flatMap (· ++ ['/']) := by
  constructor
  · rintro (rfl | ⟨d, rfl⟩)
    · exact ⟨[], by simp, rfl⟩
    · have hparts := List.splitOn_append_cons_self (a := '/') d []
      rw [List.splitOn_nil, splitOn_eq_append_cons_iff] at hparts
      refine ⟨d.splitOn '/', fun part h => notMem_of_mem_splitOn h, ?_⟩
      simpa using hparts.1
  · rintro ⟨before, -, rfl⟩
    rcases List.eq_nil_or_concat before with rfl | ⟨before, part, rfl⟩
    · exact .inl rfl
    · exact .inr ⟨before.flatMap (· ++ ['/']) ++ part, by simp⟩

theorem idle_iff {tail : List Char} :
    Idle tail ↔ ∃ after : List (List Char),
      (∀ part ∈ after, part = [] ∨ part = ['.']) ∧ tail = after.flatMap ('/' :: ·) := by
  constructor
  · intro h
    induction h with
    | nil => exact ⟨[], by simp, rfl⟩
    | slash _ ih =>
      obtain ⟨after, hafter, rfl⟩ := ih
      exact ⟨[] :: after, List.forall_mem_cons.2 ⟨.inl rfl, hafter⟩, rfl⟩
    | point _ _ ih =>
      obtain ⟨after, hafter, rfl⟩ := ih
      exact ⟨['.'] :: after, List.forall_mem_cons.2 ⟨.inr rfl, hafter⟩, rfl⟩
  · rintro ⟨after, hafter, rfl⟩
    induction after with
    | nil => exact .nil
    | cons part after ih =>
      obtain ⟨hpart, hothers⟩ := List.forall_mem_cons.1 hafter
      have htail := ih hothers
      rcases hpart with rfl | rfl
      · exact .slash htail
      · refine .point ?_ htail
        cases after <;> simp

/-! ## The name at the end -/

theorem fileName_eq_iff_splitOn (h : name ≠ []) :
    fileName path = name ↔ name ≠ ['.'] ∧ ∃ before after : List (List Char),
      path.splitOn '/' = before ++ name :: after ∧
        ∀ part ∈ after, part = [] ∨ part = ['.'] := by
  have hget : ∀ found : Option (List Char), found.getD [] = name ↔ found = some name := by
    intro found
    cases found <;> simp [h.symm]
  rw [fileName, hget, parts_eq_splitOn, List.find?_eq_some_iff_append]
  simp only [bne_iff_ne, Bool.and_eq_true, Bool.not_and, Bool.or_eq_true, Bool.not_eq_eq_eq_not,
    Bool.not_true, bne_eq_false_iff_eq]
  constructor
  · rintro ⟨⟨-, hname⟩, after, before, hs, hafter⟩
    refine ⟨hname, before.reverse, after.reverse, ?_, fun part hpart => ?_⟩
    · rw [← List.reverse_reverse (path.splitOn '/'), hs]
      simp
    · exact hafter part (List.mem_reverse.1 hpart)
  · rintro ⟨hname, before, after, hs, hafter⟩
    refine ⟨⟨h, hname⟩, after.reverse, before.reverse, ?_, fun part hpart => ?_⟩
    · rw [hs]
      simp
    · exact hafter part (List.mem_reverse.1 hpart)

/-- The name of a path stands behind a directory, and idle characters at most follow it. -/
theorem fileName_eq_iff (h : name ≠ []) :
    fileName path = name ↔ name ≠ ['.'] ∧ '/' ∉ name ∧
      ∃ dir tail, path = dir ++ name ++ tail ∧ IsDirectory dir ∧ Idle tail := by
  rw [fileName_eq_iff_splitOn h]
  refine and_congr_right fun _ => ?_
  simp only [splitOn_eq_append_cons_iff, List.forall_mem_append, List.forall_mem_cons]
  constructor
  · rintro ⟨before, after, ⟨hs, hbefore, hname, -⟩, hafter⟩
    exact ⟨hname, _, _, hs, isDirectory_iff.2 ⟨before, hbefore, rfl⟩,
      idle_iff.2 ⟨after, hafter, rfl⟩⟩
  · rintro ⟨hname, dir, tail, rfl, hdir, htail⟩
    obtain ⟨before, hbefore, rfl⟩ := isDirectory_iff.1 hdir
    obtain ⟨after, hafter, rfl⟩ := idle_iff.1 htail
    refine ⟨before, after, ⟨rfl, hbefore, hname, ?_⟩, hafter⟩
    intro part hpart
    rcases hafter part hpart with rfl | rfl <;> decide

/-! ## The extension -/

theorem extension?_of_notMem (h : '.' ∉ name) : extension? name = none := by
  have hstem : dropTrailing (· != '.') name = [] := by
    refine List.rdropWhile_eq_nil_iff.2 fun c hc => bne_iff_ne.2 ?_
    rintro rfl
    exact h hc
  rw [extension?, hstem]
  rfl

theorem extension?_append (h : '.' ∉ ext) (stem : List Char) :
    extension? (stem ++ '.' :: ext) = if stem = [] then none else some ext := by
  have hext : ∀ c ∈ ext.reverse, (c != '.') = true := by
    intro c hc
    rw [bne_iff_ne]
    rintro rfl
    exact h (List.mem_reverse.1 hc)
  have hstem : dropTrailing (· != '.') (stem ++ '.' :: ext) = stem ++ ['.'] := by
    rw [dropTrailing, List.reverse_append, List.reverse_cons, List.append_assoc,
      List.dropWhile_append_of_pos hext]
    simp
  have hdrop : (stem ++ '.' :: ext).drop (stem ++ ['.']).length = ext := by
    rw [show stem ++ '.' :: ext = stem ++ ['.'] ++ ext from List.append_cons stem '.' ext,
      List.drop_left]
  simp only [extension?, hstem, hdrop]
  cases stem <;> simp

/-- The extension stands behind the last point, which is not the first character of the name. -/
theorem extension?_eq_some_iff :
    extension? name = some ext ↔ ∃ stem, name = stem ++ '.' :: ext ∧ stem ≠ [] ∧ '.' ∉ ext := by
  constructor
  · intro h
    have hpoint : '.' ∈ name.reverse := by
      by_contra hn
      rw [extension?_of_notMem (mt List.mem_reverse.2 hn)] at h
      cases h
    obtain ⟨x, y, hname, hx⟩ := List.eq_append_cons_of_mem hpoint
    obtain rfl : name = y.reverse ++ '.' :: x.reverse := by
      rw [← List.reverse_reverse name, hname]
      simp
    have hext : '.' ∉ x.reverse := mt List.mem_reverse.1 hx
    rw [extension?_append hext, ite_eq_iff] at h
    rcases h with ⟨-, h⟩ | ⟨hstem, h⟩
    · cases h
    · obtain rfl := Option.some.inj h
      exact ⟨y.reverse, rfl, hstem, hext⟩
  · rintro ⟨stem, rfl, hstem, hext⟩
    rw [extension?_append hext, if_neg hstem]

theorem extension?_fileName_eq_some_iff (hslash : '/' ∉ ext) :
    extension? (fileName path) = some ext ↔
      ∃ dir stem tail, path = dir ++ stem ++ ['.'] ++ ext ++ tail ∧ IsDirectory dir ∧
        (stem ≠ [] ∧ '/' ∉ stem) ∧ '.' ∉ ext ∧ Idle tail := by
  rw [extension?_eq_some_iff]
  constructor
  · rintro ⟨stem, hname, hstem, hext⟩
    obtain ⟨-, hslash, dir, tail, rfl, hdir, htail⟩ := (fileName_eq_iff (by simp)).1 hname
    refine ⟨dir, stem, tail, by simp, hdir, ⟨hstem, ?_⟩, hext, htail⟩
    exact fun h => hslash (List.mem_append_left _ h)
  · rintro ⟨dir, stem, tail, rfl, hdir, ⟨hstem, hs⟩, hext, htail⟩
    refine ⟨stem, (fileName_eq_iff (by simp)).2 ⟨?_, ?_, dir, tail, by simp, hdir, htail⟩,
      hstem, hext⟩
    · intro h
      have hlength := congrArg List.length h
      have hpos := List.length_pos_iff.2 hstem
      simp only [List.length_append, List.length_cons, List.length_nil] at hlength
      omega
    · simp [hs, hslash]

/-- The extensions of Python files. -/
def pythonExtensions : List String := ["py", "pyw", "pyi"]

theorem notMem_of_mem_pythonExtensions {ext : String} (h : ext ∈ pythonExtensions) :
    '/' ∉ ext.toList ∧ '.' ∉ ext.toList := by
  simp only [pythonExtensions, List.mem_cons, List.not_mem_nil, or_false] at h
  rcases h with rfl | rfl | rfl <;> decide

/-- A directory, a stem, a point and an extension of Python files, and behind them idle characters
at most. -/
def NamesPython (path : String) : Prop :=
  ∃ dir stem ext tail : String, path = dir ++ stem ++ "." ++ ext ++ tail ∧
    IsDirectory dir.toList ∧ (stem ≠ "" ∧ '/' ∉ stem.toList) ∧ ext ∈ pythonExtensions ∧
    Idle tail.toList

theorem namesPython_iff {path : String} :
    NamesPython path ↔
      ∃ ext ∈ pythonExtensions, extension? (fileName path.toList) = some ext.toList := by
  constructor
  · rintro ⟨dir, stem, ext, tail, rfl, hdir, ⟨hstem, hs⟩, hext, htail⟩
    obtain ⟨hslash, hpoint⟩ := notMem_of_mem_pythonExtensions hext
    refine ⟨ext, hext, (extension?_fileName_eq_some_iff hslash).2
      ⟨dir.toList, stem.toList, tail.toList, ?_, hdir, ⟨?_, hs⟩, hpoint, htail⟩⟩
    · simp only [String.toList_append]
      rfl
    · rwa [Ne, String.toList_eq_nil_iff]
  · rintro ⟨ext, hext, h⟩
    obtain ⟨hslash, -⟩ := notMem_of_mem_pythonExtensions hext
    obtain ⟨dir, stem, tail, hpath, hdir, ⟨hstem, hs⟩, -, htail⟩ :=
      (extension?_fileName_eq_some_iff hslash).1 h
    refine ⟨String.ofList dir, String.ofList stem, ext, String.ofList tail, ?_, ?_, ⟨?_, ?_⟩, hext,
      ?_⟩
    · rw [← String.toList_inj, hpath]
      simp only [String.toList_append, String.toList_ofList]
      rfl
    · rwa [String.toList_ofList]
    · rwa [Ne, ← String.toList_eq_nil_iff, String.toList_ofList]
    · rwa [String.toList_ofList]
    · rwa [String.toList_ofList]

end Path

namespace Language

theorem ofPath_eq_python_iff {path : String} : ofPath path = .python ↔ Path.NamesPython path := by
  rw [Path.namesPython_iff, ofPath]
  cases Path.extension? (Path.fileName path.toList) with
  | none => simp
  | some ext =>
    simp only [Option.some.injEq]
    split
    · next h => exact iff_of_true rfl ⟨_, h, String.toList_ofList.symm⟩
    · next h =>
      refine iff_of_false Language.noConfusion ?_
      rintro ⟨word, hword, rfl⟩
      exact h (by rwa [String.ofList_toList])

/-- The language of a path is Python if the path names a Python file, and C-like otherwise. -/
theorem ofPath_by_name (path : String) :
    (ofPath path = .python ↔ Path.NamesPython path) ∧
      (ofPath path = .cLike ↔ ¬Path.NamesPython path) := by
  refine ⟨ofPath_eq_python_iff, ?_⟩
  rw [← ofPath_eq_python_iff]
  cases ofPath path <;> simp

example : ofPath "src/..py/./" = .python ∧ ofPath "a.py/.." = .cLike := by decide

end Language

end SourceLens
