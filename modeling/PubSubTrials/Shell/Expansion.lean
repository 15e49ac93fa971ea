import PubSubTrials.Shell.Arithmetic
import PubSubTrials.Shell.Glyph
import PubSubTrials.Shell.Subshell
import PubSubTrials.Shell.Words

/-!
# Expansion of words

A word is expanded part by part: parameters, sums and the output of commands are put in their
places. Where a word may become several fields, the text is then cut at separators, and fields
that are patterns are replaced by the names of the files that they match.
-/

namespace PubSubTrials.Shell.Expansion

open Host (Course)

/-- How a word is expanded. -/
structure Manner where
  /-- Whether it may become several fields. -/
  isFull : Bool
  /-- Whether it stands within an unquoted expansion, so that all of it can be cut. -/
  isInner : Bool
  /-- Whether home directories are also named after colons. -/
  isAssignment : Bool
  deriving DecidableEq, Repr

namespace Manner

/-- For words that become fields. -/
def full : Manner := ⟨true, false, false⟩

/-- For words that stay one text. -/
def single : Manner := ⟨false, false, false⟩

/-- For the values of variables. -/
def assignment : Manner := ⟨false, false, true⟩

end Manner

/-! ## Home directories -/

/-- The directory that a name after a tilde stands for: the home directory of a user, or in the
extended dialect the working directory or the one before it. -/
def homeOf? (session : Session) (user : Octets) : Option Octets :=
  match String.ofList user with
  | "" => (session.lookup? "HOME").or (if session.isExtended then some "/root".toList else none)
  | "root" => some "/root".toList
  | "+" => if session.isExtended then session.lookup? "PWD" else none
  | "-" => if session.isExtended then session.lookup? "OLDPWD" else none
  | _ => none

/-- A text that starts with the name of a home directory, as a word. -/
def tilded (home : Octets → Option Octets) (ends : Char → Bool) (isWhole : Bool) (text : Octets) :
    Word :=
  match text with
  | '~' :: rest =>
    let (user, after) := Octets.cutAt ends rest
    if after.isEmpty ∧ !isWhole then [.text false text]
    else
      match home user with
      | some directory => [.text true directory, .text false after]
      | none => [.text false text]
  | _ => [.text false text]

/-- Texts with colons between them, each of which may start with the name of a home directory. -/
def tildedAll (home : Octets → Option Octets) (isWhole : Bool) : List Octets → Word
  | [] => []
  | [last] => tilded home (· = '/') isWhole last
  | text :: rest =>
    tilded home (· = '/') true text ++ .text false [':'] :: tildedAll home isWhole rest

/-- A word with home directories in the place of their names. -/
def withHomes (home : Octets → Option Octets) (isAssignment : Bool) : Word → Word
  | .text false chars :: rest =>
    if !chars.contains '~' then .text false chars :: rest
    else if isAssignment then tildedAll home rest.isEmpty (Octets.splitOn ':' chars) ++ rest
    else tilded home (· = '/') rest.isEmpty chars ++ rest
  | word => word

/-! ## Parameters -/

/-- What a parameter stands for. -/
inductive Meaning where
  | nothing
  | text (value : Octets)
  /-- Several values; the flag tells that they stay apart within quotes. -/
  | several (apart : Bool) (values : List Octets)
  deriving Repr

/-- The separator of arguments that are joined. -/
def joint (session : Session) : Octets :=
  match session.lookup? "IFS" with
  | some separators => separators.take 1
  | none => [' ']

/-- The letters of options that a script can see. -/
def optionLetters (session : Session) : Octets :=
  let order := match session.dialect with
    | .plain => session.dialect.optionOrder.reverse
    | .extended => session.dialect.optionOrder
  order.filter (fun letter => session.has letter && ' ' ≤ letter)

/-- What a value stands for, if there is one. -/
def Meaning.ofValue? : Option Octets → Meaning
  | some value => .text value
  | none => .nothing

/-- What an element or all elements of a variable stand for. -/
def elementMeaning (name : Octets) (index : Octets) : Scripting Meaning := do
  let content := (← get).contentOf name
  if index = ['@'] ∨ index = ['*'] then
    return .several (index = ['@']) (content.elements.map Prod.snd)
  else
    match content with
    | .table elements => return .ofValue? (elements.lookup index)
    | content =>
      let n ← Scripting.calculate index
      if content.nextNumber + n < 0 then Scripting.warn (name ++ ": bad array subscript".toList)
      return .ofValue? (Session.elementAt? content n)

/-- What a parameter without an index stands for. -/
def meaning (session : Session) (name : Octets) : Meaning :=
  match name with
  | ['?'] => .text (Octets.ofNat session.status)
  | ['#'] => .text (Octets.ofNat session.arguments.length)
  | ['$'] => .text (Octets.ofNat session.number)
  | ['-'] => .text (optionLetters session)
  | ['!'] =>
    match session.background with
    | some number => .text (Octets.ofNat number)
    | none => .nothing
  | ['@'] => .several true session.arguments
  | ['*'] => .several false session.arguments
  | c :: _ =>
    if c.isDigit then
      match Arithmetic.digitsValue 10 name with
      | 0 => .text session.title
      | n + 1 =>
        match session.arguments[n]? with
        | some value => .text value
        | none => .nothing
    else .ofValue? (session.valueOf? name)
  | [] => .nothing

/-- The text of a meaning, with several values joined. -/
def joinedText (session : Session) : Meaning → Octets
  | .nothing => []
  | .text value => value
  | .several _ values => Octets.joined (joint session) values

/-- Whether a meaning counts as missing. -/
def isMissing (session : Session) (emptyToo : Bool) : Meaning → Bool
  | .nothing => true
  | .several _ [] => emptyToo || session.isExtended
  | found => emptyToo && (joinedText session found).isEmpty

/-- The expanded text of a meaning. -/
def shown (session : Session) (isFull quoted : Bool) : Meaning → List Glyph
  | .nothing => []
  | .text value => Glyph.ofText (if quoted then .quoted else .expanded) value
  | .several apart values =>
    if !isFull ∨ (quoted ∧ !apart) then
      Glyph.ofText (if quoted then .quoted else .expanded)
        (Octets.joined (joint session) values)
    else if quoted then
      [Glyph.cut].intercalate
        (values.map (fun value => .mark :: Glyph.ofText .quoted value))
    else [Glyph.gap].intercalate (values.map (Glyph.ofText .expanded))

/-- A text with other ones in the places of what a pattern matches. Unless all places count only the
first one does; `fuel` bounds the number of matches. -/
def replaced (all : Bool) (pattern : List Pattern.Element) (replacement : Octets → Octets)
    (text : Array Char) : Nat → Nat → Octets
  | 0, _ => []
  | fuel + 1, place =>
    match text[place]?, (Pattern.reached text pattern place).getLast? with
    | none, _ => []
    | some c, none => c :: replaced all pattern replacement text fuel (place + 1)
    | some c, some stop =>
      if stop ≤ place then c :: replaced all pattern replacement text fuel (place + 1)
      else
        replacement (text.extract place stop).toList ++
          if all then replaced all pattern replacement text fuel stop
          else (text.extract stop text.size).toList

/-- A text with another one in the place of what a pattern matches at a place of it. -/
def replacedAt (place : Option Char) (pattern : List Pattern.Element)
    (replacement : Octets → Octets) (text : Octets) : Octets :=
  match place with
  | some '#' =>
    match (Pattern.startLengths pattern text).getLast? with
    | some n => replacement (text.take n) ++ text.drop n
    | none => text
  | some '%' =>
    match (Pattern.endStarts pattern text).getLast? with
    | some n => text.take n ++ replacement (text.drop n)
    | none => text
  | place =>
    replaced (place = some '/') pattern replacement text.toArray (text.length + 1) 0

/-- What is put in the place of a match, which an unquoted ampersand stands for. -/
def replacing (glyphs : List Glyph) (found : Octets) : Octets :=
  glyphs.flatMap (fun glyph =>
    match glyph with
    | .char .quoted c => [c]
    | .char _ '&' => found
    | .char _ c => [c]
    | _ => [])

/-- A part of a list from an offset on, which is counted from the end if it is negative. -/
def sliced {α : Type} (offset : Int) (length : Option Int) (items : List α) : List α :=
  let start := if offset < 0 then (items.length + offset).toNat else offset.toNat
  if offset < 0 ∧ (items.length : Int) + offset < 0 then []
  else
    match length with
    | none => items.drop start
    | some n =>
      if n < 0 then (items.take (items.length + n).toNat).drop start
      else (items.drop start).take n.toNat

/-- The first letter or all letters of a text changed, of those that a pattern matches. -/
def recased (goal : LetterCase) (all : Bool) (pattern : List Pattern.Element) (text : Octets) :
    Octets :=
  let change (c : Char) : Octets :=
    if pattern.isEmpty ∨ Pattern.matchesAll pattern [c] then goal.change [c] else [c]
  if all then text.flatMap change
  else
    match text with
    | c :: rest => change c ++ rest
    | [] => []

/-- A meaning with each text changed. -/
def Meaning.map (f : Octets → Octets) : Meaning → Meaning
  | .nothing => .text (f [])
  | .text value => .text (f value)
  | .several apart values => .several apart (values.map f)

/-- A meaning with the texts that it has changed. -/
def Meaning.each (meaning : Meaning) (f : Octets → Octets) : Meaning :=
  match meaning with
  | .nothing => .nothing
  | meaning => meaning.map f

/-- A meaning with another text in the place of each one, of which there is one in any case. -/
def Meaning.constantly (meaning : Meaning) (text : Octets) : Meaning :=
  meaning.map (fun _ => text)

/-! ## Parts -/

/-- Expansion of the words within a word. -/
abbrev Expander := Manner → Word → Scripting (List Glyph)

/-- The text of an inner word. -/
def innerText (expand : Expander) (word : Word) : Scripting Octets :=
  return Glyph.text (← expand .single word)

/-- The patterns that a session knows. -/
def known (session : Session) : Pattern.Known :=
  ⟨if session.isExtended then ['!', '^'] else ['!'], session.hasFeature "extglob"⟩

/-- An inner word as a pattern. -/
def innerPattern (expand : Expander) (word : Word) : Scripting (List Pattern.Element) := do
  let chars := Glyph.pattern (← expand .single word)
  return Pattern.ofChars (known (← get)) chars

/-- The name and the index of what a parameter stands for, which may be another one. -/
def located (expand : Expander) (name : Octets) (index : Option Word) :
    Scripting (Octets × Option Octets) := do
  let target := (← get).targetOf name
  match index with
  | some index => return (target, some (← innerText expand index))
  | none =>
    match elementName? target with
    | some (name, index) => return (name, some index)
    | none => return (target, none)

/-- What a parameter stands for, perhaps with an index. -/
def meaningOf (expand : Expander) (name : Octets) (index : Option Word) : Scripting Meaning := do
  Scripting.seeTime name
  let (name, index) ← located expand name index
  match index with
  | none =>
    let found := meaning (← get) name
    Scripting.draw name
    return found
  | some index => elementMeaning name index

/-- Complain that a parameter is missing. -/
def complainMissing {α : Type} (name : Octets) (emptyToo : Bool) (message : Octets) :
    Scripting α := do
  let session ← get
  let usual :=
    if !emptyToo then "parameter not set"
    else if session.isExtended then "parameter null or not set"
    else "parameter not set or null"
  Scripting.abandon (name ++ [':', ' '] ++ (if message.isEmpty then usual.toList else message))

/-- A parameter about as a script names it. -/
def spelledName (name : Octets) (index : Option Word) : Octets :=
  let sign : Octets := match name with
    | [c] => if c.isDigit || isSpecial c then ['$'] else []
    | _ => []
  let place : Octets := match index with
    | some index => '[' :: Word.source index ++ [']']
    | none => []
  sign ++ name ++ place

/-- Complain if a parameter is missing and scripts are told of that. -/
def demand (name : Octets) (index : Option Word) (meaning : Meaning) : Scripting Unit := do
  match meaning with
  | .nothing =>
    let session ← get
    if session.has 'u' then
      if session.isExtended then
        Scripting.abandon (spelledName name index ++ ": unbound variable".toList)
      else Scripting.abandon (name ++ ": parameter not set".toList)
  | _ => return ()

/-- The parameter that the value of another one names, with its index. -/
def named (expand : Expander) (name : Octets) (index : Option Word) :
    Scripting (Octets × Option Word) := do
  let meaning ← meaningOf expand name index
  match meaning with
  | .nothing => Scripting.failAbout name "invalid indirect expansion"
  | meaning =>
    let text := joinedText (← get) meaning
    match elementName? text with
    | some (name, index) => return (name, some (Word.ofText index))
    | none =>
      let isNumber := !text.isEmpty && text.all Char.isDigit
      let isSign : Bool := match text with
        | [c] => isSpecial c
        | _ => false
      if isName text ∨ isNumber ∨ isSign then return (text, none)
      else Scripting.failAbout text "invalid variable name"

/-- The name to which a variable refers that stands for another one. -/
def reference? (session : Session) (name : Octets) : Option Octets :=
  let known := session.binding name
  if known.isReference then known.content.element? 0 else none

/-- The names of the variables that start with a text. -/
def namesFrom (session : Session) (start : Octets) : List Octets :=
  let names := (session.bindings.map Prod.fst).filter (fun name =>
    start.isPrefixOf name && session.contentOf name ≠ .nothing)
  names.mergeSort Pattern.precedes

/-- Another form of what a parameter stands for. -/
def formOf (letter : Char) (name : Octets) (index : Option Octets) (meaning : Meaning) :
    Scripting Meaning := do
  let session ← get
  let known := session.binding name
  let isWhole := index = some ['@'] || index = some ['*']
  match letter with
  | 'Q' => return meaning.each Spelled.reusable
  | 'U' => return meaning.each LetterCase.upper.change
  | 'L' => return meaning.each LetterCase.lower.change
  | 'u' => return meaning.each (recased .upper false [])
  | 'E' =>
    return meaning.each (fun text =>
      (Format.unescape (Format.Style.inFormat .extended) (text.length + 1) text).1)
  | 'a' =>
    return if known = .absent then .nothing else meaning.constantly known.letters
  | 'A' =>
    if known = .absent then return .nothing
    else if isWhole ∨ known.content = .nothing then return .text (known.declaration name)
    else
      let letters := known.letters
      let start := if letters.isEmpty then [] else "declare -".toList ++ letters ++ [' ']
      return meaning.each (fun value => start ++ name ++ '=' :: Spelled.reusable value)
  | 'K' | 'k' =>
    if !isWhole then return meaning.each Spelled.reusable
    else
      let pairs := (session.contentOf name).elements
      if letter = 'k' then return .several true (pairs.flatMap (fun (n, value) => [n, value]))
      else
        return .text (Octets.joined [' '] (pairs.map (fun (n, value) =>
          n ++ ' ' :: Spelled.doubleQuoted value)))
  | _ => return meaning
/-- The part of a meaning from an offset on. -/
def slicedMeaning (meaning : Meaning) (isArguments : Bool) (offset : Int) (length : Option Int) :
    Scripting Meaning := do
  let session ← get
  let complain (n : Int) : Scripting Meaning :=
    Scripting.failAbout (Octets.ofInt n) "substring expression < 0"
  match meaning, length with
  | .several apart values, length =>
    if length.any (· < 0) then complain (length.getD 0)
    else
      let values := if isArguments then session.title :: values else values
      return .several apart (sliced offset length values)
  | meaning, length =>
    let text := joinedText session meaning
    let start : Int := if offset < 0 then text.length + offset else offset
    match length with
    | some n =>
      if n < 0 ∧ 0 ≤ start ∧ start ≤ text.length ∧ (text.length : Int) + n < start then complain n
      else return .text (sliced offset length text)
    | none => return .text (sliced offset length text)

/-- The number of characters or values that a meaning has. -/
def sizeOf (session : Session) : Meaning → Nat
  | .several apart values =>
    if session.isExtended then values.length
    else (joinedText session (.several apart values)).length
  | meaning => (joinedText session meaning).length

/-- Give a parameter a value if it is a variable or an element. -/
def assignParameter (expand : Expander) (name : Octets) (index : Option Word) (value : Octets) :
    Scripting Meaning := do
  if isName name then
    match index with
    | some index =>
      Scripting.assignElement name (← innerText expand index) value
      meaningOf expand name (some index)
    | none =>
      Scripting.assign name value
      return meaning (← get) name
  else if (← get).isExtended then
    Scripting.fail ('$' :: name ++ ": cannot assign in this way".toList)
  else Scripting.failAbout name "bad variable name"

/-- A change of what a parameter stands for. -/
def changed (expand : Expander) (manner : Manner) (quoted : Bool) (name : Octets)
    (index : Option Word) (change : Change) : Scripting (List Glyph) := do
  let glyphsOf (meaning : Meaning) : Scripting (List Glyph) :=
    return shown (← get) manner.isFull quoted meaning
  let inner (word : Word) : Scripting (List Glyph) :=
    expand { manner with isInner := !quoted, isAssignment := false } word
  let withEach (f : Octets → Octets) : Scripting (List Glyph) := do
    let meaning ← meaningOf expand name index
    demand name index meaning
    if (← get).isExtended then glyphsOf (meaning.map f)
    else glyphsOf (.text (f (joinedText (← get) meaning)))
  match change with
  | .plain =>
    let meaning ← meaningOf expand name index
    demand name index meaning
    glyphsOf meaning
  | .length =>
    let meaning ← meaningOf expand name index
    demand name index meaning
    glyphsOf (.text (Octets.ofNat (sizeOf (← get) meaning)))
  | .otherwise kind emptyToo word =>
    let meaning ← meaningOf expand name index
    let missing := isMissing (← get) emptyToo meaning
    match kind with
    | '+' => if missing then return [] else inner word
    | '=' =>
      if missing then glyphsOf (← assignParameter expand name index (← innerText expand word))
      else glyphsOf meaning
    | '?' =>
      if missing then complainMissing name emptyToo (← innerText expand word)
      else glyphsOf meaning
    | _ => if missing then inner word else glyphsOf meaning
  | .cut atEnd longest word =>
    withEach (Pattern.cut atEnd longest (← innerPattern expand word))
  | .replace place word replacement =>
    let pattern ← innerPattern expand word
    withEach (replacedAt place pattern (replacing (← expand .single replacement)))
  | .slice offset length =>
    let meaning ← meaningOf expand name index
    demand name index meaning
    let offset ← Scripting.calculate (← innerText expand offset)
    let length ← length.mapM (fun word => do Scripting.calculate (← innerText expand word))
    glyphsOf (← slicedMeaning meaning index.isNone offset length)
  | .letters goal all word => withEach (recased goal all (← innerPattern expand word))
  | .indices =>
    let (name, index) ← located expand name index
    glyphsOf (.several (index = some ['@'])
      (((← get).contentOf name).elements.map Prod.fst))
  | .names apart => glyphsOf (.several apart (namesFrom (← get) name))
  | .form letter =>
    let (target, place) ← located expand name index
    let meaning ← meaningOf expand name index
    demand name index meaning
    glyphsOf (← formOf letter target place meaning)
  | .through _ => Scripting.failWith "bad substitution"
  | .bad source =>
    if (← get).isExtended then
      Scripting.fail ("$\x7b".toList ++ name ++ source ++ "\x7d: bad substitution".toList)
    else Scripting.failWith "Bad substitution"

/-- The expansion of a parameter. -/
def parameter (expand : Expander) (manner : Manner) (quoted : Bool) (name : Octets)
    (index : Option Word) (change : Change) : Scripting (List Glyph) := do
  match change with
  | .through change =>
    match reference? (← get) name with
    | some target => return shown (← get) manner.isFull quoted (.text target)
    | none =>
      let (name, index) ← named expand name index
      changed expand manner quoted name index change
  | change => changed expand manner quoted name index change

/-- The expansion of a part of a word. -/
def part (perform : Performer) (expand : Expander) (manner : Manner) :
    Part → Scripting (List Glyph)
  | .text true [] => return [.mark]
  | .text true chars => return Glyph.ofText .quoted chars
  | .text false chars =>
    return Glyph.ofText (if manner.isInner then .expanded else .typed) chars
  | .parameter quoted name index change => parameter expand manner quoted name index change
  | .sum quoted expression => do
    let value ← Scripting.calculate (← innerText expand expression)
    return Glyph.ofText (if quoted then .quoted else .expanded) (Octets.ofInt value)
  | .output quoted command => do
    let text ← Subshell.outputOf perform command
    return Glyph.ofText (if quoted then .quoted else .expanded) text
  | .channel isRead command => do
    let path ← Subshell.channelOf perform isRead command
    return Glyph.ofText .quoted path

/-- The expansion of a word; `fuel` bounds the depth of words within words. -/
def expandWithin (perform : Performer) : Nat → Expander
  | 0 => fun _ _ => return []
  | fuel + 1 => fun manner word => do
    let home := homeOf? (← get)
    let parts ← (withHomes home manner.isAssignment word).mapM
      (part perform (fun manner word => expandWithin perform fuel manner word) manner)
    return parts.flatten

/-- Bound on the depth of words within words. -/
def maxDepth : Nat := 1000000

/-- The expansion of a word. -/
def expand (perform : Performer) : Expander := expandWithin perform maxDepth

/-! ## Words as texts, fields and patterns -/

/-- A word as one text. -/
def single (perform : Performer) (word : Word) : Scripting Octets :=
  return Glyph.text (← expand perform .single word)

/-- A word as the value of a variable. -/
def value (perform : Performer) (word : Word) : Scripting Octets :=
  return Glyph.text (← expand perform .assignment word)

/-- A word as a pattern; groups are known in any case if `groups` says so. -/
def pattern (perform : Performer) (groups : Bool) (word : Word) :
    Scripting (List PatternChar × Pattern.Known) := do
  let chars := Glyph.pattern (← expand perform .single word)
  let known := known (← get)
  return (chars, { known with hasGroups := known.hasGroups || groups })

/-- Whether a pattern matches a text, perhaps whatever the case of letters is. -/
def fits (pattern : List PatternChar × Pattern.Known) (text : Octets) : Scripting Bool := do
  let (chars, known) := pattern
  if (← get).hasFeature "nocasematch" then
    let small := chars.map (fun c => { c with char := c.char.toLower })
    return Pattern.matchesAll (Pattern.ofChars known small) (text.map Char.toLower)
  else return Pattern.matchesAll (Pattern.ofChars known chars) text

/-- How a session looks for files. -/
def search (session : Session) : Pattern.Search :=
  ⟨known session, !session.isExtended, session.hasFeature "dotglob"⟩

/-- The texts that a field stands for. -/
def matched (field : List Glyph) : Scripting (List Octets) := do
  let pattern := Glyph.pattern field
  let session ← get
  if Pattern.isActive (known session) pattern ∧ !session.has 'f' then
    let find (files : FileTree) : List Octets := Pattern.find (search session) files pattern
    match ← Scripting.ask (Course.look find) with
    | [] =>
      if session.hasFeature "failglob" then
        Scripting.fail ("no match: ".toList ++ Glyph.text field)
      else if session.hasFeature "nullglob" then return []
      else return [Glyph.text field]
    | found => return found
  else return [Glyph.text field]

/-! ## Alternatives of the extended dialect -/

/-- A character of a word, or a part of it that is no plain text. -/
abbrev Atom := Char ⊕ Part

/-- The characters and other parts of a word. -/
def atoms (word : Word) : List Atom :=
  word.flatMap (fun part =>
    match part with
    | .text false chars => chars.map Sum.inl
    | part => [Sum.inr part])

/-- The word of characters and other parts. -/
def ofAtoms (atoms : List Atom) : Word :=
  Word.condense (atoms.map (fun atom =>
    match atom with
    | .inl c => .text false [c]
    | .inr part => part))

/-- Pieces between commas up to a closing brace of the same depth, and what comes after it. -/
def pieces : Nat → List Atom → List (List Atom) → List Atom →
    Option (List (List Atom) × List Atom)
  | _, _, _, [] => none
  | depth, piece, done, atom :: rest =>
    match atom, depth with
    | .inl '\x7d', 0 => some ((piece.reverse :: done).reverse, rest)
    | .inl ',', 0 => pieces 0 [] (piece.reverse :: done) rest
    | .inl '\x7b', depth => pieces (depth + 1) (atom :: piece) done rest
    | .inl '\x7d', depth + 1 => pieces depth (atom :: piece) done rest
    | _, depth => pieces depth (atom :: piece) done rest

/-- A plain text of characters. -/
def plainText? (atoms : List Atom) : Option Octets :=
  atoms.mapM (fun atom =>
    match atom with
    | .inl c => some c
    | .inr _ => none)

/-- Numbers from one to another, in steps. -/
def stepsBetween (first last : Int) (step : Nat) : List Int :=
  let step := max 1 step
  let count := (last - first).natAbs / step + 1
  (List.range count).map (fun n =>
    if first ≤ last then first + (n * step : Nat) else first - (n * step : Nat))

/-- A number with at least so many digits. -/
def padded (width : Nat) (n : Int) : Octets :=
  let digits := Octets.ofNat n.natAbs
  let zeros := List.replicate (width - digits.length - (if n < 0 then 1 else 0)) '0'
  (if n < 0 then ['-'] else []) ++ zeros ++ digits

/-- The texts of a row such as `1..3`. -/
def row? (text : Octets) : Option (List Octets) :=
  let parts := (String.ofList text).splitOn ".."
  let step := match parts with
    | [_, _, step] => step.toInt?.map Int.natAbs
    | _ => some 1
  match parts, step with
  | first :: last :: rest, some step =>
    if 1 < rest.length then none
    else
      match first.toInt?, last.toInt?, first.toList, last.toList with
      | some a, some b, _, _ =>
        let isPadded (s : String) : Bool :=
          let digits := s.toList.filter Char.isDigit
          digits.head? = some '0' && 1 < digits.length
        let width := if isPadded first ∨ isPadded last then max first.length last.length else 0
        some ((stepsBetween a b step).map (padded width))
      | _, _, [a], [b] =>
        if a.isAlpha ∧ b.isAlpha then
          some ((stepsBetween a.toNat b.toNat step).map (fun n => [Char.ofNat n.toNat]))
        else none
      | _, _, _, _ => none
  | _, _ => none

/-- The words that a row of characters and parts stands for. -/
def alternatives : Nat → List Atom → List (List Atom)
  | 0, atoms => [atoms]
  | fuel + 1, atoms =>
    match atoms with
    | [] => [[]]
    | .inl '\x7b' :: rest =>
      let literal (_ : Unit) := (alternatives fuel rest).map (.inl '\x7b' :: ·)
      match pieces 0 [] [] rest with
      | some ([piece], after) =>
        match (plainText? piece).bind row? with
        | some texts =>
          let tails := alternatives fuel after
          texts.flatMap (fun text => tails.map (text.map Sum.inl ++ ·))
        | none => literal ()
      | some (pieces, after) =>
        let tails := alternatives fuel after
        (pieces.flatMap (alternatives fuel)).flatMap (fun piece => tails.map (piece ++ ·))
      | none => literal ()
    | atom :: rest => (alternatives fuel rest).map (atom :: ·)

/-- The words that a word stands for. -/
def wordsOf (session : Session) (word : Word) : List Word :=
  if session.isExtended then
    let atoms := atoms word
    (alternatives (atoms.length + 1) atoms).map ofAtoms
  else [word]

/-- The fields of a word. -/
def fields (perform : Performer) (word : Word) : Scripting (List Octets) := do
  let words := wordsOf (← get) word
  let texts ← words.mapM (fun word => do
    let glyphs ← expand perform .full word
    let fields := Glyph.fields (← get).separators glyphs
    return (← fields.mapM matched).flatten)
  return texts.flatten

/-- The fields of several words. -/
def allFields (perform : Performer) (words : List Word) : Scripting (List Octets) :=
  return (← words.mapM (fields perform)).flatten

end PubSubTrials.Shell.Expansion
