/-! # Filling a text up to a width -/
namespace SourceLens.Text

def spaces (count : Nat) : String := String.ofList (List.replicate count ' ')

def padRight (width : Nat) (s : String) : String := s ++ spaces (width - s.length)

def padLeft (width : Nat) (s : String) : String := spaces (width - s.length) ++ s

end SourceLens.Text
