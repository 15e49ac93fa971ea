import PubSubTrials.Programs.Input

/-!
# Programs that pass lines on

Programs that copy their inputs, keep a part of the lines, number, count, turn around or fold
them.
-/

namespace PubSubTrials.Programs

open Host (Course)

/-! ## Copying -/

/-- How a character is shown that cannot be printed. -/
def visible (keepsTabs : Bool) (c : Char) : Octets :=
  let n := c.toNat
  let low (n : Nat) : Octets :=
    if n < 32 then ['^', Char.ofNat (n + 64)]
    else if n = 127 then ['^', '?']
    else [Char.ofNat n]
  if c = '\t' ∧ keepsTabs then [c]
  else if n < 128 then low n
  else 'M' :: '-' :: low (n - 128)

/-- A number in a column. -/
def inColumn (width n : Nat) : Octets :=
  let digits := Octets.ofNat n
  List.replicate (width - digits.length) ' ' ++ digits

/-- Copy what comes until the end; `fuel` bounds the number of pieces. -/
def copyAll (name : Octets) (descriptor : Nat) : Nat → Running Unit
  | 0 => return ()
  | fuel + 1 => do
    match ← Running.ask (Course.read (.atMost Course.readAtOnce) descriptor) with
    | .ok [] => return ()
    | .ok text =>
      Running.writeOut text
      if (← get).trouble.isNone then copyAll name descriptor fuel
    | .error error => complainInput name error

/-- Copy inputs. -/
def cat (arguments : List Octets) : Running Unit := do
  let table : OptionTable :=
    ⟨"AbeEnstTuv", [("show-all", .never, 'A'), ("number-nonblank", .never, 'b'),
      ("show-ends", .never, 'E'), ("number", .never, 'n'), ("squeeze-blank", .never, 's'),
      ("show-tabs", .never, 'T'), ("show-nonprinting", .never, 'v')], true⟩
  let chosen ← table.read arguments 1
  let any (letters : List Char) : Bool := letters.any chosen.has
  let ends := any ['A', 'e', 'E']
  let tabs := any ['A', 't', 'T']
  let others := any ['A', 'e', 't', 'v']
  let skipsBlank := chosen.has 'b'
  let numbers := chosen.has 'n' || skipsBlank
  let squeezes := chosen.has 's'
  if !ends ∧ !tabs ∧ !others ∧ !numbers ∧ !squeezes then
    for name in inputsOf chosen.operands do
      withSource name (complainInput name)
        (fun source => copyAll name source.descriptor Course.manyTimes)
    if (inputsOf chosen.operands).contains ['-'] ∧
        (← Running.ask (Course.handle? 0)).isNone then
      Running.complain "closing standard input: Bad file descriptor".toList 1
  else
    let _ ← foldInputs '\n' complainInput (fun (number, wasBlank) line => do
      let isBlank := line.text.isEmpty
      if squeezes ∧ isBlank ∧ wasBlank then return .next (number, true)
      else
        let counted := numbers && !(skipsBlank && isBlank)
        let lead := if counted then inColumn 6 (number + 1) ++ ['\t'] else []
        let text :=
          if others then line.text.flatMap (visible (!tabs))
          else if tabs then line.text.flatMap (fun c => if c = '\t' then ['^', 'I'] else [c])
          else line.text
        let ending := if ends then ['$', '\n'] else ['\n']
        Running.put (lead ++ text ++ (if line.isEnded then ending else []))
        return .next (if counted then number + 1 else number, isBlank))
      (inputsOf chosen.operands) ((0, false) : Nat × Bool)

/-- Copy the input to the output and to files. -/
def tee (arguments : List Octets) : Running Unit := do
  let table : OptionTable :=
    ⟨"aip", [("append", .never, 'a'), ("ignore-interrupts", .never, 'i')], true⟩
  let chosen ← table.read arguments 1
  let mode : Host.Mode := if chosen.has 'a' then .append else .overwrite
  let descriptors ← chosen.operands.filterMapM (fun name => do
    match ← Running.ask (Course.openFile ⟨Octets.toText name⟩ mode) with
    | .ok handle => return some (← Running.ask (Course.keep handle))
    | .error error =>
      complainInput name error
      return none)
  copy descriptors Course.manyTimes
where
  /-- Copy what comes until the end. -/
  copy (descriptors : List Nat) : Nat → Running Unit
    | 0 => return ()
    | fuel + 1 => do
      match ← Running.ask (Course.read (.atMost Course.readAtOnce) 0) with
      | .ok [] => return ()
      | .ok text =>
        Running.writeOut text
        for descriptor in descriptors do
          let _ ← Running.ask (Course.write descriptor text)
        copy descriptors fuel
      | .error _ => return ()

/-! ## Parts -/

/-- Which part of an input is kept. -/
structure Extent where
  count : Nat
  /-- Whether it is counted from the other end. -/
  turned : Bool
  bytes : Bool

/-- The extent that a value of an option stands for; `sign` is the one that turns it. -/
def extentOf (sign : Char) (bytes : Bool) (text : Octets) : Running Extent := do
  let (turned, digits) := match text with
    | c :: rest => if c = sign then (true, rest) else if c = '-' ∨ c = '+' then (false, rest)
      else (false, text)
    | [] => (false, text)
  match count? digits with
  | some count => return ⟨count, turned, bytes⟩
  | none =>
    Running.fail ("invalid number of ".toList ++ (if bytes then "bytes" else "lines").toList ++
      [':', ' '] ++ Running.quoted text) 1

/-- Arguments in which a count directly after a dash stands as the value of an option. -/
def withCount (sign : Char) : List Octets → List Octets
  | (c :: digits) :: rest =>
    if c = sign ∧ !digits.isEmpty ∧ digits.all Char.isDigit then
      "-n".toList :: (if sign = '+' then '+' :: digits else digits) :: rest
    else (c :: digits) :: rest
  | arguments => arguments

/-- The extent that options ask for. -/
def chosenExtent (sign : Char) (chosen : Chosen) : Running Extent := do
  match (chosen.options.filter (fun entry => entry.1 = 'n' || entry.1 = 'c')).getLast? with
  | some (letter, text) => extentOf sign (letter = 'c') (text.getD [])
  | none => return ⟨10, false, false⟩

/-- Print parts of inputs, with their names if there are several. -/
def printParts (chosen : Chosen) (part : Octets → Source → Running Unit) : Running Unit := do
  let names := inputsOf chosen.operands
  let titled := (1 < names.length && !chosen.has 'q') || chosen.has 'v'
  let _ ← names.foldlM (fun (isFirst : Bool) name => do
    withSource name
      (fun error => do
        Running.complain ("cannot open ".toList ++ Running.quoted name ++ " for reading: ".toList ++
          error.reason.toList) 1
        return isFirst)
      (fun source => do
        if titled then
          let shown := if name = ['-'] then "standard input".toList else name
          Running.put ((if isFirst then [] else ['\n']) ++ "==> ".toList ++ shown ++
            " <==\n".toList)
        part name source
        return false)) true

/-- Complain about an input that cannot be read. -/
def complainReading (name : Octets) (error : SystemError) : Running Unit :=
  Running.complain ("error reading ".toList ++ Running.quoted name ++ [':', ' '] ++
    error.reason.toList) 1

/-- Print so many octets from an input. -/
def printOctets (name : Octets) (descriptor : Nat) : Nat → Nat → Running Unit
  | 0, _ => return ()
  | fuel + 1, left => do
    if 0 < left then
      match ← Running.ask (Course.read (.atMost (min left Course.readAtOnce)) descriptor) with
      | .ok [] => return ()
      | .ok text =>
        Running.put text
        printOctets name descriptor fuel (left - text.length)
      | .error error => complainReading name error

/-- Print so many lines from an input. -/
def printLines (name : Octets) (source : Source) (separator : Char) (count : Nat) :
    Running Unit := do
  if 0 < count then
    let isFile ← Running.ask (Course.handle? source.descriptor)
    let frugal := match isFile with
      | some (.file _) => true
      | _ => false
    let _ ← foldLines separator (complainReading name) { source with frugal } count
      (fun left line => do
        Running.put (line.source separator)
        return if left ≤ 1 then .enough 0 else .next (left - 1))

/-- The separator of lines. -/
def separatorOf (chosen : Chosen) : Char := if chosen.has 'z' then '\x00' else '\n'

/-- Print the first part of inputs. -/
def head (arguments : List Octets) : Running Unit := do
  let table : OptionTable :=
    ⟨"c:n:qvz", [("bytes", .always, 'c'), ("lines", .always, 'n'), ("quiet", .never, 'q'),
      ("silent", .never, 'q'), ("verbose", .never, 'v'), ("zero-terminated", .never, 'z')], true⟩
  let chosen ← table.read (withCount '-' arguments) 1
  let extent ← chosenExtent '-' chosen
  let separator := separatorOf chosen
  printParts chosen (fun name source => do
    match extent.turned, extent.bytes with
    | false, true => printOctets name source.descriptor Course.manyTimes extent.count
    | false, false => printLines name source separator extent.count
    | true, bytes =>
      let text ← match ← Running.ask (Course.readAll source.descriptor) with
        | .ok text => pure text
        | .error error =>
          complainReading name error
          pure []
      if bytes then Running.put (text.take (text.length - extent.count))
      else
        let lines := linesOf separator text
        for line in lines.take (lines.length - extent.count) do
          Running.put (line.source separator))

/-- Print the last part of inputs. -/
def tail (arguments : List Octets) : Running Unit := do
  let table : OptionTable :=
    ⟨"c:fFn:qs:vz", [("bytes", .always, 'c'), ("follow", .perhaps, 'f'), ("lines", .always, 'n'),
      ("quiet", .never, 'q'), ("silent", .never, 'q'), ("sleep-interval", .always, 's'),
      ("verbose", .never, 'v'), ("zero-terminated", .never, 'z'), ("pid", .always, 'p'),
      ("retry", .never, 'r')], true⟩
  let chosen ← table.read (withCount '+' (withCount '-' arguments)) 1
  let extent ← chosenExtent '+' chosen
  let separator := separatorOf chosen
  printParts chosen (fun name source => do
    let text ← match ← Running.ask (Course.readAll source.descriptor) with
      | .ok text => pure text
      | .error error =>
        complainReading name error
        pure []
    match extent.turned, extent.bytes with
    | true, true => Running.put (text.drop (extent.count - 1))
    | false, true => Running.put (text.drop (text.length - extent.count))
    | turned, false =>
      let lines := linesOf separator text
      let first := if turned then extent.count - 1 else lines.length - extent.count
      for line in lines.drop first do
        Running.put (line.source separator)
    if chosen.has 'f' ∨ chosen.has 'F' then
      Running.flush
      follow source.descriptor Course.manyTimes)
where
  /-- Print what is added to an input. -/
  follow (descriptor : Nat) : Nat → Running Unit
    | 0 => return ()
    | fuel + 1 => do
      Running.ask (Course.sleep (.ofSeconds 1))
      match ← Running.ask (Course.readAll descriptor) with
      | .ok text =>
        Running.writeOut text
        follow descriptor fuel
      | .error _ => return ()

/-! ## Order and direction -/

/-- Print lines from the last one to the first one. -/
def tac (arguments : List Octets) : Running Unit := do
  let table : OptionTable :=
    ⟨"brs:", [("before", .never, 'b'), ("regex", .never, 'r'), ("separator", .always, 's')], true⟩
  let chosen ← table.read arguments 1
  for name in inputsOf chosen.operands do
    let text ← textOf name (fun name error =>
      Running.complain ("failed to open ".toList ++ Running.quoted name ++
        " for reading: ".toList ++ error.reason.toList) 1)
    for line in (linesOf '\n' text).reverse do
      Running.put (line.source '\n')

/-- Print lines from their last character to their first one. -/
def rev (arguments : List Octets) : Running Unit := do
  let chosen ← OptionTable.read (.ofLetters "") arguments 1
  let _ ← foldInputs '\n'
    (fun name error =>
      Running.complain ("cannot open ".toList ++ name ++ [':', ' '] ++ error.reason.toList) 1)
    (fun () line => do
      Running.put ({ line with text := line.text.reverse }.source '\n')
      return .next ()) (inputsOf chosen.operands) ()

/-! ## Numbers -/

/-- Number lines. -/
def nl (arguments : List Octets) : Running Unit := do
  let table : OptionTable :=
    ⟨"b:d:f:h:i:l:n:ps:v:w:", [("body-numbering", .always, 'b'),
      ("line-increment", .always, 'i'), ("number-format", .always, 'n'),
      ("number-separator", .always, 's'), ("starting-line-number", .always, 'v'),
      ("number-width", .always, 'w')], true⟩
  let chosen ← table.read arguments 1
  let number (letter : Char) (usual : Int) : Int :=
    ((chosen.value? letter).bind (fun text => (String.ofList text).toInt?)).getD usual
  let width := (number 'w' 6).toNat
  let separator := (chosen.value? 's').getD ['\t']
  let style := (chosen.value? 'b').getD ['t']
  let shown (n : Int) : Octets :=
    let digits := Octets.ofInt n
    match chosen.value? 'n' with
    | some ['l', 'n'] => digits ++ List.replicate (width - digits.length) ' '
    | some ['r', 'z'] => List.replicate (width - digits.length) '0' ++ digits
    | _ => List.replicate (width - digits.length) ' ' ++ digits
  let _ ← foldInputs '\n' complainInput (fun (n : Int) line => do
    if style = ['a'] ∨ (style = ['t'] ∧ !line.text.isEmpty) then
      Running.put (shown n ++ separator ++ line.text ++ ['\n'])
      return .next (n + number 'i' 1)
    else
      Running.put (List.replicate (width + separator.length) ' ' ++ line.text ++ ['\n'])
      return .next n) (inputsOf chosen.operands) (number 'v' 1)

/-- What is counted of a text. -/
structure Counts where
  lines : Nat
  words : Nat
  octets : Nat
  longest : Nat
  deriving Repr

namespace Counts

/-- The counts of a text. -/
def ofText (text : Octets) : Counts where
  lines := text.count '\n'
  words :=
    (text.foldl (fun (inside, n) c =>
      if Octets.isSpace c then (false, n) else (true, if inside then n else n + 1))
      ((false, 0) : Bool × Nat)).2
  octets := text.length
  longest := (Octets.splitOn '\n' text).foldl (fun n line => max n line.length) 0

/-- The counts of two texts together. -/
def add (a b : Counts) : Counts :=
  ⟨a.lines + b.lines, a.words + b.words, a.octets + b.octets, max a.longest b.longest⟩

end Counts

/-- Count lines, words and octets. -/
def wc (arguments : List Octets) : Running Unit := do
  let table : OptionTable :=
    ⟨"clLmw", [("bytes", .never, 'c'), ("chars", .never, 'm'), ("lines", .never, 'l'),
      ("max-line-length", .never, 'L'), ("words", .never, 'w')], true⟩
  let chosen ← table.read arguments 1
  let plain := chosen.options.isEmpty
  let columns (counts : Counts) : List Nat :=
    [(plain || chosen.has 'l', counts.lines), (plain || chosen.has 'w', counts.words),
      (chosen.has 'm', counts.octets), (plain || chosen.has 'c', counts.octets),
      (chosen.has 'L', counts.longest)].filterMap (fun (wanted, n) =>
        if wanted then some n else none)
  let names := inputsOf chosen.operands
  let found ← names.mapM (fun name =>
    withSource name
      (fun error => do
        complainInput name error
        return ((none, 0) : Option Counts × Nat))
      (fun source => do
        let size : Option Nat ← Running.ask (Course.learn (fun process host =>
          match process.handle? source.descriptor with
          | some (.file number) =>
            (host.opened[number]?).map (fun file => (host.bytesOf file.names).length)
          | _ => none))
        let text ← match ← Running.ask (Course.readAll source.descriptor) with
          | .ok text => pure text
          | .error error =>
            complainInput name error
            pure []
        return (some (.ofText text), size.getD 0)))
  let single := names.length = 1 && (columns ⟨0, 0, 0, 0⟩).length = 1
  let isPlain ← names.allM (fun name => do
    if name = ['-'] then
      match ← Running.ask (Course.handle? 0) with
      | some (.file _) => return true
      | _ => return false
    else return true)
  let width :=
    if single then 1
    else
      let digits := (Octets.ofNat (found.foldl (fun n entry => n + entry.2) 0)).length
      if isPlain then digits else max 7 digits
  let show' (counts : Counts) (name : Octets) : Running Unit :=
    let shown := (columns counts).map (inColumn width)
    Running.putLine (Octets.joined [' '] shown ++ (if name.isEmpty then [] else ' ' :: name))
  for (name, counts?, _) in names.zip found do
    match counts? with
    | some counts => show' counts (if chosen.operands.isEmpty then [] else name)
    | none => pure ()
  if 1 < names.length then
    show' (found.foldl (fun total entry => total.add (entry.1.getD ⟨0, 0, 0, 0⟩)) ⟨0, 0, 0, 0⟩)
      "total".toList

/-! ## Folding -/

/-- The column after a character. -/
def columnAfter (byOctets : Bool) (column : Nat) (c : Char) : Nat :=
  if byOctets then column + 1
  else
    match c with
    | '\x08' => column - 1
    | '\r' => 0
    | '\t' => column + 8 - column % 8
    | _ => column + 1

/-- The width of a text. -/
def widthOf (byOctets : Bool) (text : Octets) : Nat := text.foldl (columnAfter byOctets) 0

/-- A line in pieces of at most a width; `current` holds the piece so far in reverse. -/
def foldedFrom (width : Nat) (atBlanks byOctets : Bool) : Nat → Octets → Octets → Octets
  | 0, current, text => current.reverse ++ text
  | _ + 1, current, [] => current.reverse
  | fuel + 1, current, c :: rest =>
    let column := columnAfter byOctets (widthOf byOctets current.reverse) c
    if column ≤ width ∨ current.isEmpty then
      foldedFrom width atBlanks byOctets fuel (c :: current) rest
    else
      let kept := current.takeWhile (fun d => d ≠ ' ' && d ≠ '\t')
      if atBlanks ∧ kept.length < current.length then
        (current.drop kept.length).reverse ++ '\n' ::
          foldedFrom width atBlanks byOctets fuel kept (c :: rest)
      else
        current.reverse ++ '\n' :: foldedFrom width atBlanks byOctets fuel [] (c :: rest)

/-- Fold lines. -/
def fold (arguments : List Octets) : Running Unit := do
  let table : OptionTable :=
    ⟨"bsw:", [("bytes", .never, 'b'), ("spaces", .never, 's'), ("width", .always, 'w')], true⟩
  let arguments := arguments.map (fun word =>
    match word with
    | '-' :: digits =>
      if !digits.isEmpty ∧ digits.all Char.isDigit then "-w".toList ++ digits else word
    | word => word)
  let chosen ← table.read arguments 1
  let width ← match chosen.value? 'w' with
    | none => pure 80
    | some text =>
      match (String.ofList text).toNat? with
      | some (n + 1) => pure (n + 1)
      | _ => Running.fail ("invalid number of columns: ".toList ++ Running.quoted text) 1
  let _ ← foldInputs '\n' complainInput (fun () line => do
    let text := foldedFrom width (chosen.has 's') (chosen.has 'b')
      (3 * line.text.length + 3) [] line.text
    Running.put ({ line with text }.source '\n')
    return .next ()) (inputsOf chosen.operands) ()

/-- Programs that pass lines on. -/
def aboutLines : List Program :=
  [.plain "cat" cat, .plain "tee" tee, .plain "head" head, .plain "tail" tail, .plain "tac" tac,
   .plain "rev" rev, .plain "nl" nl, .plain "wc" wc, .plain "fold" fold]

end PubSubTrials.Programs
