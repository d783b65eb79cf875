import SourceLens.TokenStream
import SourceLens.Symbol.Sighting

/-! # The analysis of a source text -/
namespace SourceLens

structure Analysis where
  language : Language
  tokens : List Token
  symbols : SymbolTable
deriving DecidableEq, Repr

def analyze (source : String) (language : Language) : Analysis :=
  let tokens := tokenize source language
  ⟨language, tokens, SymbolTable.ofTokens tokens language⟩

end SourceLens
