import PubSubTrials.Shell.Pattern
import PubSubTrials.Shell.Syntax

/-!
# Expanded text

What a word is expanded to before it is cut into fields. Each character tells where it comes
from: what was written as it is takes part in patterns, what was quoted stands for itself, and
what comes from an expansion is cut at separators as well.
-/

namespace PubSubTrials.Shell

/-- Where a character of expanded text comes from. -/
inductive Origin where
  | typed
  | quoted
  | expanded
  deriving DecidableEq, Repr

/-- A piece of expanded text. -/
inductive Glyph where
  | char (origin : Origin) (c : Char)
  /-- Quotes stood here, so there is a field even if it is empty. -/
  | mark
  /-- The place between two arguments, at which fields are always cut. -/
  | cut
  /-- The place between two arguments that counts as a blank. -/
  | gap
  deriving DecidableEq, Repr

namespace Glyph

/-- Text of a given origin. -/
def ofText (origin : Origin) (text : Octets) : List Glyph := text.map (char origin)

/-- The characters of expanded text. -/
def text (glyphs : List Glyph) : Octets :=
  glyphs.filterMap (fun glyph =>
    match glyph with
    | char _ c => some c
    | _ => none)

/-- Expanded text as a pattern. -/
def pattern (glyphs : List Glyph) : List PatternChar :=
  glyphs.filterMap (fun glyph =>
    match glyph with
    | char origin c => some ⟨origin ≠ .quoted, c⟩
    | _ => none)

/-- Fields of expanded text: `field` holds the current one in reverse, and `afterBlank` tells
that it follows blanks which have ended the field before it. -/
def fieldsFrom (separators : Octets) (field : List Glyph) (afterBlank : Bool) :
    List Glyph → List (List Glyph)
  | [] => if field.isEmpty then [] else [field.reverse]
  | .cut :: rest => field.reverse :: fieldsFrom separators [] false rest
  | .gap :: rest =>
    if field.isEmpty then fieldsFrom separators [] afterBlank rest
    else field.reverse :: fieldsFrom separators [] true rest
  | .char .expanded c :: rest =>
    if separators.contains c then
      if Octets.isBlankOrEnd c then
        if field.isEmpty then fieldsFrom separators [] afterBlank rest
        else field.reverse :: fieldsFrom separators [] true rest
      else if field.isEmpty ∧ afterBlank then fieldsFrom separators [] false rest
      else field.reverse :: fieldsFrom separators [] false rest
    else fieldsFrom separators (.char .expanded c :: field) false rest
  | glyph :: rest => fieldsFrom separators (glyph :: field) false rest

/-- The fields of expanded text. -/
def fields (separators : Octets) (glyphs : List Glyph) : List (List Glyph) :=
  fieldsFrom separators [] false glyphs

end Glyph

end PubSubTrials.Shell
