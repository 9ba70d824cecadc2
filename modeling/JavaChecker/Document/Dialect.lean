import JavaChecker.Number.Format

/-!
# JavaChecker.Document.Dialect

The two formats that documents are written in. They share the model of a document, and differ in
details of decoding and in how numbers look.
-/

namespace JavaChecker

/-- Which format a document was written in. -/
inductive Dialect where
  | json
  | toml
deriving DecidableEq, Inhabited

/-- How floating-point numbers look. In JSON, numbers from `0.00001` up to and without ten
quadrillion are written without exponent, the others with one. In TOML no number has an
exponent. -/
def Dialect.numbers : Dialect → NumberFormat
  | .json => { tie := .toEven, plain := some (-5, 16) }
  | .toml => { tie := .up, plain := none }

end JavaChecker
