import JavaChecker.Log.Event
import JavaChecker.Text.Pieces

/-!
# JavaChecker.Log.FilterLanguage

Texts that say which events are logged. Such a text is a list of directives separated by commas.
What a directive is, and which events a filter made of directives lets pass, is up to a language of
directives; all else is written for any such language.

A piece between commas is read on its own. It is a directive, or it is none, or its reading breaks
off, and then nothing is read at all. `FilterLanguage.parse` accepts a text when every piece that is
not empty is a directive, so whether a piece is accepted never depends on its neighbours. The first
piece that is not accepted says why the text is not, and the pieces after it are not looked at.
-/

namespace JavaChecker.Log

/-- Why a text is not read as a filter. -/
inductive FilterError where
  /-- A piece is not a directive. -/
  | notDirective
  /-- The reading of a piece breaks off. -/
  | brokenOff
deriving DecidableEq, Inhabited

/-- A language of directives `δ` and of the filters `φ` that they make up. -/
structure FilterLanguage (δ φ : Type) where
  /-- What a piece of a text stands for. -/
  read : List Char → Except FilterError δ
  /-- The filter of directives in the order in which they are given. -/
  build : List δ → φ
  /-- The filter that lets through events of a level and the more severe ones. -/
  ofLevel : Level → φ
  /-- Whether an event passes. -/
  passes : φ → Event → Bool

namespace FilterLanguage

variable {δ φ : Type}

/-- The directives of a text, provided that every piece which is not empty is one. -/
def parseDirectives (lang : FilterLanguage δ φ) (s : String) : Except FilterError (List δ) :=
  ((Text.pieces ',' s.toList).filter (!·.isEmpty)).mapM lang.read

/-- The filter that a text stands for. -/
def parse (lang : FilterLanguage δ φ) (s : String) : Except FilterError φ :=
  (lang.parseDirectives s).map lang.build

/-- The filter that a text stands for, or another if a piece of it is not a directive. Nothing
stands in for a text whose reading breaks off. -/
def parseOr (lang : FilterLanguage δ φ) (s : String) (other : Except FilterError φ) :
    Except FilterError φ :=
  match lang.parse s with
  | .error .notDirective => other
  | r => r

end FilterLanguage

end JavaChecker.Log
