import SourceLens.Text.ByteOrder

/-! # Tables of function and variable names -/
namespace SourceLens

/-- A list without any entry that equals the one before it. -/
def dropRepeats : List String → List String
  | [] => []
  | [a] => [a]
  | a :: b :: names => if a = b then dropRepeats (b :: names) else a :: dropRepeats (b :: names)

/-- Each name once, in the order of bytes. -/
def sortedNames (names : List String) : Array String :=
  (dropRepeats (names.mergeSort Text.atMost)).toArray

/-- Looks a name up between two places of a sorted array, halving the distance each time. -/
def holdsBetween (names : Array String) (name : String) (low high : Nat) : Bool :=
  if low < high then
    match names[(low + high) / 2]? with
    | none => false
    | some found =>
      match Text.byteOrder found name with
      | .eq => true
      | .lt => holdsBetween names name ((low + high) / 2 + 1) high
      | .gt => holdsBetween names name low ((low + high) / 2)
  else false
termination_by high - low

/-- The function names and the variable names of a source text, each list sorted and without
repeats. -/
structure SymbolTable where
  functionNames : Array String
  variableNames : Array String
deriving DecidableEq, Repr

namespace SymbolTable

def ofNames (functionNames variableNames : List String) : SymbolTable :=
  ⟨sortedNames functionNames, sortedNames variableNames⟩

def isEmpty (table : SymbolTable) : Bool :=
  table.functionNames.isEmpty && table.variableNames.isEmpty

def hasFunction (table : SymbolTable) (name : String) : Bool :=
  holdsBetween table.functionNames name 0 table.functionNames.size

def hasVariable (table : SymbolTable) (name : String) : Bool :=
  holdsBetween table.variableNames name 0 table.variableNames.size

def longest (table : SymbolTable) : Nat := max table.functionNames.size table.variableNames.size

end SymbolTable

end SourceLens
