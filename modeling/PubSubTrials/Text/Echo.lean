import PubSubTrials.Text.Format

/-!
# Echoes

What is printed by commands that print their arguments: with blanks between them and a line end
after them. Options say whether the line end is left out and whether escapes are replaced.
-/

namespace PubSubTrials.Echo

/-- Options of an echo. -/
structure Options where
  endsLine : Bool
  replacesEscapes : Bool
  deriving DecidableEq, Repr

/-- The options that a word sets, if it is made of their letters. -/
def Options.ofWord? (options : Options) : Octets → Option Options
  | '-' :: c :: letters =>
    (c :: letters).foldlM (fun options c =>
      match c with
      | 'n' => some { options with endsLine := false }
      | 'e' => some { options with replacesEscapes := true }
      | 'E' => some { options with replacesEscapes := false }
      | _ => none) options
  | _ => none

/-- The options at the start of words, and the other words. -/
def Options.ofWords (options : Options) : List Octets → Options × List Octets
  | [] => (options, [])
  | word :: rest =>
    match options.ofWord? word with
    | some options => options.ofWords rest
    | none => (options, word :: rest)

/-- Words with their escapes replaced, up to an escape that ends all output. -/
def unescaped (style : Format.Style) : List Octets → Octets × Bool
  | [] => ([], false)
  | [word] => Format.unescape style.inEcho (word.length + 1) word
  | word :: rest =>
    match Format.unescape style.inEcho (word.length + 1) word with
    | (shown, true) => (shown, true)
    | (shown, false) =>
      let (more, ends) := unescaped style rest
      (shown ++ ' ' :: more, ends)

/-- What is printed of words. -/
def render (style : Format.Style) (words : List Octets) : Octets :=
  let (options, words) : Options × List Octets :=
    match style, words with
    | .plain, ['-', 'n'] :: rest => (⟨false, true⟩, rest)
    | .plain, words => (⟨true, true⟩, words)
    | _, words => Options.ofWords ⟨true, false⟩ words
  let (shown, ends) :=
    if options.replacesEscapes then unescaped style words
    else (Octets.joined [' '] words, false)
  if ends ∨ !options.endsLine then shown else shown ++ [Octets.lineEnd]

end PubSubTrials.Echo
