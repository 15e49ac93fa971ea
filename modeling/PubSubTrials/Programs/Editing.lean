import PubSubTrials.Programs.Editing.Run

/-!
# The program that edits lines

The script is the first operand unless options give it. Its parts are put together as lines of one
script, and what is wrong with it is told by the part and the number of characters up to there.
-/

namespace PubSubTrials.Programs

open Host (Course)
open Editing (Plan Desk)

namespace Sed

/-- A part of a script. -/
structure Part where
  text : Octets
  /-- The name of the file that holds it. -/
  file : Option Octets

/-- Complain about a script. -/
def complainScript (parts : List Part) (fault : Editing.Fault) : Running Unit := do
  let title (number : Nat) : Octets := "-e expression #".toList ++ Octets.ofNat number
  let rec find (number place : Nat) : List Part → Octets
    | [] => title (max 1 (number - 1)) ++ ", char 0".toList
    | part :: rest =>
      if place ≤ part.text.length + 1 ∨ rest.isEmpty then
        match part.file with
        | some name =>
          let passed := part.text.take (place - 1)
          "file ".toList ++ name ++ " line ".toList ++ Octets.ofNat (passed.count '\n' + 1)
        | none => title number ++ ", char ".toList ++ Octets.ofNat place
      else find (number + (if part.file.isNone then 1 else 0)) (place - part.text.length - 1) rest
  Running.fail (find 1 fault.place parts ++ [':', ' '] ++ fault.message) 1

/-- The files that commands write to, in the order of the commands. -/
def filesOf (commands : List Editing.Command) : List Octets :=
  (commands.filterMap (fun command =>
    match command.operation with
    | .writeFile name _ => some name
    | .substitute what => what.file
    | _ => none)).eraseDups

/-- The first label that commands go to and that is not in the script. -/
def missingLabel? (commands : List Editing.Command) : Option Octets :=
  let known := commands.toArray
  commands.findSome? (fun command =>
    match command.operation with
    | .branch name | .branchIf name | .branchUnless name =>
      if (Editing.labelPlace? known name).isNone then some name else none
    | _ => none)

/-- Where a row of lines of a command stands before the first line. -/
def stretchOf (command : Editing.Command) : Editing.Stretch :=
  if command.choice.fromZero then .open else .outside

/-- Options that are written as words. -/
def words : List (String × Arity × Char) :=
  [("quiet", .never, 'n'), ("silent", .never, 'n'), ("expression", .always, 'e'),
    ("file", .always, 'f'), ("in-place", .perhaps, 'i'), ("line-length", .always, 'l'),
    ("posix", .never, 'p'), ("regexp-extended", .never, 'E'), ("separate", .never, 's'),
    ("unbuffered", .never, 'u'), ("null-data", .never, 'z'), ("zero-terminated", .never, 'z')]

/-- Say how the program is called, and end. -/
def failUsage : Running Unit := do
  Running.tell ("Usage: ".toList ++ (← Running.name) ++
    " [OPTION]... \x7bscript-only-if-no-other-script\x7d [input-file]...\n".toList)
  throw 1

/-- The part of a script that an option gives. -/
def partOf (letter : Char) (value : Octets) : Running Part := do
  if letter = 'e' then return ⟨value, none⟩
  else
    let text ← textOf value (fun name error =>
      Running.fail ("couldn't open file ".toList ++ name ++ [':', ' '] ++
        error.reason.toList) 1)
    return ⟨if text.getLast? = some '\n' then text.dropLast else text, some value⟩

end Sed

open Sed in
/-- Edit lines as a script says. -/
def sed (arguments : List Octets) : Running Unit := do
  let table : OptionTable := ⟨"nre:f:Ei::l:suz", words, true⟩
  let chosen ← table.read arguments 1
  let given := chosen.options.filter (fun entry => entry.1 = 'e' || entry.1 = 'f')
  let (parts, operands) ←
    if given.isEmpty then
      match chosen.operands with
      | [] => do
        failUsage
        pure ([], [])
      | script :: operands => pure ([⟨script, none⟩], operands)
    else do
      let parts ← given.mapM (fun (letter, value) => partOf letter (value.getD []))
      pure (parts, chosen.operands)
  let flavor : Regex.Flavor := if chosen.has 'E' || chosen.has 'r' then .extended else .basic
  let script := Octets.joined ['\n'] (parts.map Part.text)
  match Editing.parse flavor script with
  | .error fault => complainScript parts fault
  | .ok (isQuiet, commands) =>
    match missingLabel? commands with
    | some name =>
      Running.fail ("can't find label for jump to \x60".toList ++ name ++ ['\'']) 1
    | none => pure ()
    let files ← ((filesOf commands).filter (· ≠ "/dev/stdout".toList)).mapM (fun name => do
      match ← Running.ask (Course.openFile ⟨Octets.toText name⟩ .overwrite) with
      | .ok handle => return (name, ← Running.ask (Course.keep handle))
      | .error error =>
        Running.fail ("couldn't open file ".toList ++ name ++ [':', ' '] ++
          error.reason.toList) 4)
    let inPlace := chosen.has 'i'
    let plan : Plan :=
      { commands := commands.toArray
        prints := !(chosen.has 'n' || isQuiet)
        separates := inPlace || chosen.has 's'
        inPlace
        separator := if chosen.has 'z' then '\x00' else '\n'
        isUnbuffered := chosen.has 'u'
        files }
    let desk : Desk :=
      { inputs := inputsOf operands, reading := none, number := 0, pattern := [], isEnded := true
        held := [], later := [], replaced := false
        stretches := (commands.map stretchOf).toArray
        lastPattern := none, lacksEnd := false, collected := [] }
    let (status?, _) ← (do
      let status? ← Editing.cycles plan Course.manyTimes true
      Editing.finishInput plan
      return status?).run desk
    match status? with
    | some status => Running.setStatus status
    | none => pure ()

/-- Programs that edit. -/
def editing : List Program := [.plain "sed" sed]

end PubSubTrials.Programs
