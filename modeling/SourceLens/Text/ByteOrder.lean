/-! # The order of texts by their bytes -/
namespace SourceLens.Text

def utf8 (s : String) : List UInt8 := s.toList.flatMap String.utf8EncodeChar

/-- Compares byte by byte; a proper beginning comes first. -/
def compareBytes : List UInt8 → List UInt8 → Ordering
  | [], [] => .eq
  | [], _ :: _ => .lt
  | _ :: _, [] => .gt
  | a :: s, b :: t => if a < b then .lt else if b < a then .gt else compareBytes s t

def byteOrder (s t : String) : Ordering := compareBytes (utf8 s) (utf8 t)

def atMost (s t : String) : Bool := byteOrder s t != .gt

end SourceLens.Text
