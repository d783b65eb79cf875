import SourceLens.Language

/-! # The language of a file, by its path -/
namespace SourceLens

namespace Path

/-- The last part of a path between slashes that is neither empty nor a single dot; the empty text
if there is none. -/
def fileName (path : List Char) : List Char :=
  ((Text.parts '/' path).reverse.find? fun part => part != [] && part != ['.']).getD []

/-- What stands behind the last dot of a file name, if something stands before the dot. -/
def extension? (name : List Char) : Option (List Char) :=
  let stem := Text.dropTrailing (· != '.') name
  if stem.length ≤ 1 then none else some (name.drop stem.length)

end Path

def Language.ofPath (path : String) : Language :=
  match Path.extension? (Path.fileName path.toList) with
  | some extension =>
    if String.ofList extension ∈ ["py", "pyw", "pyi"] then .python else .cLike
  | none => .cLike

end SourceLens
