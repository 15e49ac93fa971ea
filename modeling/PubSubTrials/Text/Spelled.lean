import PubSubTrials.Text.Octets

/-!
# Texts as scripts spell them

A text can be written such that a script reads it back as one word that means it: within quotes,
with backslashes before the characters that mean something, or with named control characters. The
spellings differ in which characters they leave as they are.
-/

namespace PubSubTrials.Spelled

/-- Whether a character can be shown. -/
def isShown (c : Char) : Bool := ' ' ≤ c && c ≤ '~'

/-- The three octal digits of a byte. -/
def octalDigits (c : Char) : Octets :=
  let digit (n : Nat) : Char := Char.ofNat ('0'.toNat + n % 8)
  [digit (c.toNat / 64), digit (c.toNat / 8), digit c.toNat]

/-- Letters for control characters. -/
def controlLetters : List (Char × Char) :=
  [('\x07', 'a'), ('\x08', 'b'), ('\t', 't'), ('\n', 'n'), ('\x0b', 'v'), ('\x0c', 'f'),
   ('\r', 'r')]

/-! ## In quotes -/

/-- A text in quotes, where a row of single quotes is put into double ones; `fuel` bounds the
number of rows. -/
def rowsQuoted : Nat → Octets → Octets
  | 0, _ => []
  | fuel + 1, text =>
    let plain := text.takeWhile (· ≠ '\'')
    let rest := text.drop plain.length
    let quotes := rest.takeWhile (· = '\'')
    let after := rest.drop quotes.length
    ['\''] ++ plain ++ ['\''] ++
      (if quotes.isEmpty then [] else ['"'] ++ quotes ++ ['"']) ++
      (if after.isEmpty then [] else rowsQuoted fuel after)

/-- A text in quotes, as the plain dialect writes it. -/
def quoted (text : Octets) : Octets := rowsQuoted (text.length + 1) text

/-- A text in quotes, where a quote leaves them for a moment. -/
def singleQuoted (text : Octets) : Octets :=
  if text = ['\''] then ['\\', '\'']
  else
    ['\''] ++ text.flatMap (fun c => if c = '\'' then "'\\''".toList else [c]) ++ ['\'']

/-- A text in double quotes. -/
def doubleQuoted (text : Octets) : Octets :=
  ['"'] ++ text.flatMap (fun c =>
    if ['"', '$', '\x60', '\\'].contains c then ['\\', c] else [c]) ++ ['"']

/-- A text with named control characters. -/
def controlQuoted (text : Octets) : Octets :=
  ['$', '\''] ++ text.flatMap (fun c =>
    match controlLetters.lookup c with
    | some letter => ['\\', letter]
    | none =>
      if c = '\x1b' then ['\\', 'E']
      else if c = '\\' ∨ c = '\'' then ['\\', c]
      else if isShown c then [c]
      else '\\' :: octalDigits c) ++ ['\'']

/-! ## As the extended dialect spells values -/

/-- A text that always is in quotes of a kind. -/
def reusable (text : Octets) : Octets :=
  if text.all isShown then singleQuoted text else controlQuoted text

/-- Whether some character of a text satisfies a condition, which is told the one before it. -/
def anyAfter (p : Option Char → Char → Bool) : Option Char → Octets → Bool
  | _, [] => false
  | before, c :: rest => p before c || anyAfter p (some c) rest

/-- Whether a character after another one means something to a script. -/
def isMeaningful (before : Option Char) (c : Char) : Bool :=
  " '\"\\|&;()<>!\x7b\x7d*[?]^$\x60\t\n".toList.contains c ||
    (c = '~' && before.all (fun b => b = '=' || b = ':')) ||
    (c = '#' && before.all (fun b => b = ' ' || b = '\t'))

/-- A text that is in quotes if something in it means something. -/
def asNeeded (text : Octets) : Octets :=
  if !text.all isShown then controlQuoted text
  else if anyAfter isMeaningful none text then singleQuoted text
  else text

/-- A word as a trace shows it. -/
def traced (text : Octets) : Octets :=
  if text.isEmpty then ['\'', '\'']
  else if anyAfter isMeaningful none text then singleQuoted text
  else if text.all isShown then text
  else controlQuoted text

/-- A text with backslashes before characters that mean something. -/
def withBackslashes : Option Char → Octets → Octets
  | _, [] => []
  | before, c :: rest =>
    (if isMeaningful before c || c = ',' then ['\\', c] else [c]) ++ withBackslashes (some c) rest

/-- A text as one word of the extended dialect. -/
def word (text : Octets) : Octets :=
  if text.isEmpty then ['\'', '\'']
  else if text.all isShown then withBackslashes none text
  else controlQuoted text

/-! ## As programs spell operands -/

/-- Characters that mean something to some shell wherever they stand. -/
def isSuspect (c : Char) : Bool := " !\"$&()*;<=>[^\x60|?\\'".toList.contains c

/-- Whether a text may stand in double quotes that only hide single ones. -/
def fitsDoubleQuotes (text : Octets) : Bool :=
  text.contains '\'' && text.all (fun c => c.isAlphanum || " '%+,-./:]_".toList.contains c)

/-- Text within quotes, where characters that cannot be shown leave them; `shown` tells what the
character before was. -/
def runs : Bool → Octets → Octets
  | _, [] => ['\'']
  | shown, c :: rest =>
    if isShown c then
      (if shown then [] else ['\'', '\'']) ++
        (if c = '\'' then "'\\''".toList else [c]) ++ runs true rest
    else
      let name := match controlLetters.lookup c with
        | some letter => ['\\', letter]
        | none => '\\' :: octalDigits c
      (if shown then ['\'', '$', '\''] else []) ++ name ++ runs false rest

/-- A text as a program spells one that others may copy into a script. -/
def operand (text : Octets) : Octets :=
  let isolated := text = ['\x7b'] || text = ['\x7d']
  let leads := text.head?.any (fun c => c = '~' || c = '#')
  if text.isEmpty then ['\'', '\'']
  else if text.all isShown && !text.any isSuspect && !isolated && !leads then text
  else if fitsDoubleQuotes text then ['"'] ++ text ++ ['"']
  else '\'' :: runs true text

end PubSubTrials.Spelled
