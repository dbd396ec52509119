import CodexAcp.Lib.Split
import Mathlib.Data.Prod.Lex
import Mathlib.Data.String.Basic

/-!
# Unix paths

A path is a text; what it means is its components: the root, the current
directory in first place, parent directories and names. Repeated slashes, a
slash at the end and `.` anywhere else are not seen. A path starts with another
one when its components do, so `/a/bc` does not start with `/a/b`.

> `components_of_first`: a path whose first piece is a name has it as its first
> component.
> `isAbsolute_join`: what is below an absolute path is absolute, and nothing else is.
-/

namespace CodexAcp.Lib.Path

open CodexAcp.Lib

inductive Component where
  | rootDir
  | curDir
  | parentDir
  | normal (name : String)
  deriving DecidableEq, Repr

/-- The component a piece between two slashes stands for. -/
def bodyComponent (piece : List Char) : Option Component :=
  if piece = [] || piece = ['.'] then none
  else if piece = ['.', '.'] then some .parentDir
  else some (.normal (String.ofList piece))

/-- The path begins at the root. -/
def isAbsolute (path : String) : Bool := path.toList.head? = some '/'

/-- The components of a path. -/
def components (path : String) : List Component :=
  match path.toList.splitOn '/' with
  | [] => []
  | first :: pieces =>
    let body := pieces.filterMap bodyComponent
    if isAbsolute path then .rootDir :: body
    else if first = ['.'] then .curDir :: body
    else (bodyComponent first).toList ++ body

/-- Where a component stands among others: by what it is, and then by its name. -/
def Component.sortKey : Component → Nat ×ₗ String
  | rootDir => toLex (0, "")
  | curDir => toLex (1, "")
  | parentDir => toLex (2, "")
  | normal name => toLex (3, name)

/-- Paths are in the order of their components. -/
def sortKey (path : String) : List (Nat ×ₗ String) := (components path).map Component.sortKey

/-- The components of the one path are the first of the other. -/
def startsWith (base path : String) : Bool := (components base).isPrefixOf (components path)

/-- The last component, if it is a name. -/
def fileName (path : String) : Option String :=
  match (components path).getLast? with
  | some (.normal name) => some name
  | _ => none

/-- What follows the last dot of the file name, unless the name begins with it. -/
def extension (path : String) : Option String :=
  (fileName path).bind fun name =>
    match Text.rsplitOnce '.' name with
    | some (before, after) => if before = "" then none else some after
    | none => none

/-- A path below another one; an absolute path stays as it is. -/
def join (base path : String) : String :=
  if isAbsolute path then path
  else if base.toList.getLast? = none || base.toList.getLast? = some '/' then base ++ path
  else base ++ "/" ++ path

/-! ## Below another path -/

theorem join_of_isAbsolute {path : String} (h : isAbsolute path = true) (base : String) :
    join base path = path := if_pos h

theorem isAbsolute_append {base path : String} (hbase : base.toList ≠ []) :
    isAbsolute (base ++ path) = isAbsolute base := by
  unfold isAbsolute
  rw [String.toList_append]
  cases hchars : base.toList with
  | nil => exact absurd hchars hbase
  | cons c chars => rfl

theorem isAbsolute_join (base path : String) :
    isAbsolute (join base path) = (isAbsolute path || isAbsolute base) := by
  unfold join
  cases hpath : isAbsolute path with
  | true => rw [if_pos rfl, hpath, Bool.true_or]
  | false =>
    rw [if_neg Bool.false_ne_true, Bool.false_or]
    by_cases hbase : base.toList = []
    · -- below the empty path, a path stays as it is
      have hrelative : isAbsolute base = false := by
        unfold isAbsolute
        rw [hbase]
        rfl
      have hempty : base = "" := String.toList_inj.mp hbase
      rw [hbase, hrelative, hempty, String.empty_append]
      exact hpath
    · split
      · exact isAbsolute_append hbase
      · rw [String.append_assoc]
        exact isAbsolute_append hbase

/-! ## Components -/

/-- A path whose first piece is a name. -/
theorem components_of_first {path : String} {first : List Char} {pieces : List (List Char)}
    {name : String} (hpieces : path.toList.splitOn '/' = first :: pieces)
    (hfirst : bodyComponent first = some (.normal name)) :
    components path = .normal name :: pieces.filterMap bodyComponent := by
  unfold bodyComponent at hfirst
  have hne : first ≠ [] ∧ first ≠ ['.'] := by
    constructor <;> rintro rfl <;> simp at hfirst
  have hrelative : isAbsolute path = false := by
    unfold isAbsolute
    cases hpath : path.toList with
    | nil => rfl
    | cons c cs =>
      rw [hpath, List.splitOn_cons_eq_if_modifyHead] at hpieces
      -- after a slash the first piece would be empty
      by_cases hc : c = '/'
      · rw [if_pos (beq_iff_eq.mpr hc)] at hpieces
        exact absurd (List.cons.inj hpieces).1.symm hne.1
      · simpa using hc
  unfold components
  rw [hpieces]
  dsimp only
  rw [hrelative, if_neg Bool.false_ne_true, if_neg hne.2]
  unfold bodyComponent
  rw [hfirst]
  rfl

end CodexAcp.Lib.Path
