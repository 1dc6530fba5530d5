import GeneratedContent.Injection.Basic
import GeneratedContent.Rule.Remainder

/-!
# Conversion

A page and its stylesheet are converted together: the rules for generated content are carried out in
the page and taken out of the stylesheet. Conversions follow one another in a series, in which each
begins with the page, and unless told otherwise with the stylesheet, that the one before ended with.
Any page is converted here, as far as it can be read: whether its markup is rejected, and whether what
comes of it can be written, is asked by whoever has it converted (`convertOrStop`).
-/

namespace GeneratedContent

/-- A page and a stylesheet after a conversion. -/
structure Converted where
  /-- The page. -/
  html : Text
  /-- The rest of the stylesheet. -/
  css : Text
  /-- The warnings, in order. -/
  warnings : List Warning := []
deriving DecidableEq

/-- Converts a page and its stylesheet. Without a stylesheet there is nothing to do. -/
def convert (settings : Settings) (html css : Text) : Except UnknownTree Converted :=
  if css = [] then .ok ⟨html, [], []⟩
  else
    match inject settings html (Rule.extract settings.containerClasses css) with
    | .error e => .error e
    | .ok r => .ok ⟨r.html, withoutPseudoBlocks css, r.warnings⟩

/-- One conversion of a series. -/
structure Step where
  /-- The stylesheet, unless it is the one that the step before ended with. -/
  css : Option Text := none
  /-- The settings. -/
  settings : Settings := {}

/-- The results of a series of conversions that begins with a page and a stylesheet. -/
def convertSeries (html css : Text) : List Step → Except UnknownTree (List Converted)
  | [] => .ok []
  | step :: steps => do
    let r ← convert step.settings html (step.css.getD css)
    let rs ← convertSeries r.html r.css steps
    return r :: rs

end GeneratedContent
