import SourceLens.Text.JoinClass

/-! # Clusters: what a reader takes for one character

A text is cut by the rules of Unicode's extended grapheme clusters. -/
namespace SourceLens.Text

/-- What a cluster ends with, as far as it tells whether the next character belongs to it. -/
inductive ClusterEnd
  | nothing
  | carriageReturn | control | prepended
  | leadingJamo | vowelJamo | trailingJamo
  | regional
  | pictograph
  /-- A pictograph, its extenders and a joiner. -/
  | joinedPictograph
  | consonant
  /-- A consonant and its extenders, a linker among them. -/
  | linkedConsonant
  | other
deriving DecidableEq, Repr

namespace JoinClass

/-- Stands apart from what is before it. -/
def isApart : JoinClass → Bool
  | carriageReturn | lineFeed | control => true
  | _ => false

/-- Belongs to whatever is before it. -/
def isTrailer : JoinClass → Bool
  | extender | nonJoiner | joiner | linker | spacing => true
  | _ => false

end JoinClass

namespace ClusterEnd

def isApart : ClusterEnd → Bool
  | nothing | carriageReturn | control => true
  | _ => false

/-- The two belong together as parts of one thing: a line end, a syllable, a flag, a picture, a
conjunct. -/
def pairs : ClusterEnd → JoinClass → Bool
  | carriageReturn, .lineFeed => true
  | leadingJamo, .leadingJamo | leadingJamo, .vowelJamo => true
  | leadingJamo, .openSyllable | leadingJamo, .closedSyllable => true
  | vowelJamo, .vowelJamo | vowelJamo, .trailingJamo => true
  | trailingJamo, .trailingJamo => true
  | regional, .regional => true
  | joinedPictograph, .pictograph => true
  | linkedConsonant, .consonant => true
  | _, _ => false

def takes (e : ClusterEnd) (k : JoinClass) : Bool :=
  e.pairs k || (!e.isApart && !k.isApart && (k.isTrailer || e == prepended))

def followedBy : ClusterEnd → JoinClass → ClusterEnd
  | _, .carriageReturn => carriageReturn
  | _, .lineFeed | _, .control => control
  | _, .prepended => prepended
  | _, .leadingJamo => leadingJamo
  | _, .vowelJamo | _, .openSyllable => vowelJamo
  | _, .trailingJamo | _, .closedSyllable => trailingJamo
  | regional, .regional => other
  | _, .regional => regional
  | _, .pictograph => pictograph
  | _, .consonant => consonant
  | pictograph, .extender | pictograph, .nonJoiner | pictograph, .linker => pictograph
  | pictograph, .joiner => joinedPictograph
  | consonant, .extender | consonant, .joiner => consonant
  | linkedConsonant, .extender | linkedConsonant, .joiner => linkedConsonant
  | consonant, .linker | linkedConsonant, .linker => linkedConsonant
  | _, _ => other

end ClusterEnd

/-- The clusters of a text behind an unfinished cluster, this one included. -/
def clustersFrom (e : ClusterEnd) (cluster : List Char) : List Char → List (List Char)
  | [] => [cluster]
  | c :: s =>
    if e.takes (joinClass c) then clustersFrom (e.followedBy (joinClass c)) (cluster ++ [c]) s
    else cluster :: clustersFrom (ClusterEnd.nothing.followedBy (joinClass c)) [c] s

def clusters : List Char → List (List Char)
  | [] => []
  | c :: s => clustersFrom (ClusterEnd.nothing.followedBy (joinClass c)) [c] s

end SourceLens.Text
