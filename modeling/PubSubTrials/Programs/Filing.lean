import PubSubTrials.Files.Branch
import PubSubTrials.Programs.Input
import PubSubTrials.Shell.Pattern

/-!
# Programs that keep files

Programs that make, remove, copy, move and list files and directories.
-/

namespace PubSubTrials.Programs

open Host (Course)

/-- A text as a path. -/
def pathOf (name : Octets) : Path := ⟨Octets.toText name⟩

/-- Do something for every operand, of which there have to be some. -/
def forOperands (missing : String) (operands : List Octets) (f : Octets → Running Unit) :
    Running Unit :=
  if operands.isEmpty then Running.failUsage missing.toList 1 else operands.forM f

/-- Complain that something could not be done with a file. -/
def complainFile (action : String) (name : Octets) (error : SystemError) : Running Unit :=
  Running.complain (action.toList ++ [' '] ++ Running.quoted name ++ [':', ' '] ++
    error.reason.toList) 1

/-- Change the files, or complain. -/
def changeOrComplain (action : String) (name : Octets)
    (change : FileTree → Except SystemError FileTree) : Running Bool := do
  match ← Running.ask (Course.changeFiles change) with
  | .ok () => return true
  | .error error =>
    complainFile action name error
    return false

/-! ## Directories -/

/-- All paths that lead to a path, the path included. -/
def leading (name : Octets) : List Octets :=
  let parts := (Octets.splitOn '/' name).filter (!·.isEmpty)
  let start : Octets := if name.head? = some '/' then ['/'] else []
  (List.range parts.length).map (fun i => start ++ Octets.joined ['/'] (parts.take (i + 1)))

/-- Make directories. -/
def mkdir (arguments : List Octets) : Running Unit := do
  let table : OptionTable :=
    ⟨"m:pvZ", [("mode", .always, 'm'), ("parents", .never, 'p'), ("verbose", .never, 'v')], true⟩
  let chosen ← table.read arguments 1
  let tell (name : Octets) : Running Unit := do
    if chosen.has 'v' then
      Running.putLine ((← Running.name) ++ ": created directory ".toList ++ Running.quoted name)
  let make (name : Octets) : Running Bool := do
    let made ← changeOrComplain "cannot create directory" name (fun files =>
      files.makeOne (pathOf name))
    if made then tell name
    return made
  forOperands "missing operand" chosen.operands (fun name => do
    if chosen.has 'p' then
      let _ ← (leading name).foldlM (fun goesOn step => do
        if !goesOn then return false
        else
          match ← Running.ask (Course.look (fun files => files.resolve (pathOf step))) with
          | .ok (_, .directory) => return true
          | .ok _ =>
            complainFile "cannot create directory" step
              (if step.length < name.length then .notDirectory else .alreadyExists)
            return false
          | .error _ => make step) true
    else
      let _ ← make name)

/-- Remove a directory that has no entries. -/
def removeEmpty (name : Octets) (files : FileTree) : Except SystemError FileTree := do
  match ← files.resolve (pathOf name) with
  | (names, .directory) =>
    if (Octets.splitOn '/' name).getLast? = some ['.'] then throw .invalidArgument
    else if files.hasEntries names then throw .notEmpty
    else return files.erase names
  | _ => throw .notDirectory

/-- Remove directories. -/
def rmdir (arguments : List Octets) : Running Unit := do
  let table : OptionTable :=
    ⟨"pv", [("ignore-fail-on-non-empty", .never, 'i'), ("parents", .never, 'p'),
      ("verbose", .never, 'v')], true⟩
  let chosen ← table.read arguments 1
  forOperands "missing operand" chosen.operands (fun name => do
    let names := if chosen.has 'p' then (leading name).reverse else [name]
    let _ ← names.foldlM (fun goesOn name => do
      if !goesOn then return false
      else
        if chosen.has 'v' then
          Running.putLine ((← Running.name) ++ ": removing directory, ".toList ++
            Running.quoted name)
        match ← Running.ask (Course.changeFiles (removeEmpty name)) with
        | .ok () => return true
        | .error error =>
          if !(chosen.has 'i' ∧ error = .notEmpty) then
            complainFile "failed to remove" name error
          return false) true)

/-! ## Files -/

/-- Remove a file, or a directory with all that is in it. -/
def remove (recursive emptyToo : Bool) (name : Octets) (files : FileTree) :
    Except SystemError FileTree := do
  match ← files.resolve (pathOf name) with
  | (names, .directory) =>
    if recursive then return files.eraseBranch names
    else if emptyToo then
      if files.hasEntries names then throw .notEmpty else return files.erase names
    else throw .isDirectory
  | (names, _) => return files.erase names

/-- Remove files. -/
def rm (arguments : List Octets) : Running Unit := do
  let table : OptionTable :=
    ⟨"dfiIrRv", [("force", .never, 'f'), ("recursive", .never, 'r'), ("dir", .never, 'd'),
      ("verbose", .never, 'v'), ("no-preserve-root", .never, 'N'),
      ("preserve-root", .perhaps, 'P'), ("interactive", .perhaps, 'i')], true⟩
  let chosen ← table.read arguments 1
  let recursive := chosen.has 'r' || chosen.has 'R'
  if chosen.operands.isEmpty ∧ chosen.has 'f' then return ()
  else
    forOperands "missing operand" chosen.operands (fun name => do
      let last := ((Octets.splitOn '/' name).filter (!·.isEmpty)).getLast?
      if recursive ∧ (last = some ['.'] ∨ last = some ['.', '.']) then
        Running.complain ("refusing to remove '.' or '..' directory: skipping ".toList ++
          Running.quoted name) 1
      else
        let isDirectory ← Running.ask (Course.look (fun files => files.isDirectory (pathOf name)))
        match ← Running.ask (Course.changeFiles (remove recursive (chosen.has 'd') name)) with
        | .ok () =>
          if chosen.has 'v' then
            Running.putLine ((if isDirectory then "removed directory ".toList
              else "removed ".toList) ++ Running.quoted name)
        | .error error =>
          let isAbsent := error = .noEntry || error = .notDirectory
          if !(chosen.has 'f' ∧ isAbsent) then complainFile "cannot remove" name error)

/-- Make files that are missing. -/
def touch (arguments : List Octets) : Running Unit := do
  let table : OptionTable :=
    ⟨"acd:fhmr:t:", [("no-create", .never, 'c'), ("date", .always, 'd'),
      ("reference", .always, 'r'), ("time", .always, 't'), ("no-dereference", .never, 'h')], true⟩
  let chosen ← table.read arguments 1
  forOperands "missing file operand" chosen.operands (fun name => do
    let change (files : FileTree) : Except SystemError FileTree := do
      match ← files.target (pathOf name) with
      | (_, some _) => return files
      | (names, none) =>
        if chosen.has 'c' then return files
        else if (pathOf name).endsInSlash then throw .noEntry
        else return files.set names (.file [])
    match ← Running.ask (Course.changeFiles change) with
    | .ok () => return ()
    | .error error =>
      if !(chosen.has 'c' ∧ error = .noEntry) then complainFile "cannot touch" name error)

/-- The place of a file in a target that may be a directory. -/
def placeIn (files : FileTree) (source target : Octets) (isDirectory : Bool) : Octets :=
  if isDirectory ∧ files.isDirectory (pathOf target) then
    let last := ((Octets.splitOn '/' source).filter (!·.isEmpty)).getLast?.getD []
    if last = ['.'] ∨ last = ['.', '.'] then target
    else target ++ (if target.getLast? = some '/' then [] else ['/']) ++ last
  else target

/-- Copy or move one file. -/
def transfer (moves recursive verbose keeps : Bool) (source target : Octets) : Running Unit := do
  let files ← Running.ask (Course.look id)
  match files.resolve (pathOf source) with
  | .error error => complainFile "cannot stat" source error
  | .ok (names, node) =>
    let target := placeIn files source target true
    if node = .directory ∧ !moves ∧ !recursive then
      Running.complain ("-r not specified; omitting directory ".toList ++
        Running.quoted source) 1
    else
      match files.target (pathOf target) with
      | .error error =>
        if moves then
          Running.complain ("cannot move ".toList ++ Running.quoted source ++ " to ".toList ++
            Running.quoted target ++ [':', ' '] ++ error.reason.toList) 1
        else complainFile (if node = .directory then "cannot create directory"
          else "cannot create regular file") target error
      | .ok (place, old) =>
        if place = names then
          Running.complain (Running.quoted source ++ " and ".toList ++ Running.quoted target ++
            " are the same file".toList) 1
        else if node = .directory ∧ names.isPrefixOf place then
          let verb := if moves then "cannot move ".toList else "cannot copy a directory, ".toList
          let rest := if moves then " to a subdirectory of itself, ".toList
            else ", into itself, ".toList
          Running.complain (verb ++ Running.quoted source ++ rest ++ Running.quoted target) 1
        else if node = .directory ∧ old.any (· ≠ .directory) then
          Running.complain ((if moves then "cannot overwrite non-directory ".toList
            else "cannot overwrite non-directory ".toList) ++ Running.quoted target ++
            " with directory ".toList ++ Running.quoted source) 1
        else if node ≠ .directory ∧ old = some .directory then
          Running.complain ("cannot overwrite directory ".toList ++ Running.quoted target ++
            " with non-directory".toList) 1
        else if keeps ∧ old.isSome then return ()
        else if moves ∧ node = .directory ∧ files.hasEntries place then
          Running.complain ("cannot move ".toList ++ Running.quoted source ++ " to ".toList ++
            Running.quoted target ++ ": Directory not empty".toList) 1
        else
          let _ ← Running.ask (Course.changeFiles (fun files => .ok
            (if moves then files.moveBranch names place else files.copyBranch names place)))
          let _ ← Running.ask (Course.carryOut (fun _ host =>
            ((), { host with
              executables :=
                if host.executables.contains names then place :: host.executables
                else host.executables })))
          if verbose then
            Running.putLine ((if moves then "renamed ".toList else []) ++ Running.quoted source ++
              " -> ".toList ++ Running.quoted target)

/-- Copy or move files. -/
def transferAll (moves : Bool) (arguments : List Octets) : Running Unit := do
  let table : OptionTable :=
    ⟨if moves then "finuvt:TS:" else "adfHilLnpPrRsuvt:TxS:",
      [("recursive", .never, 'r'), ("archive", .never, 'a'), ("force", .never, 'f'),
        ("no-clobber", .never, 'n'), ("verbose", .never, 'v'), ("target-directory", .always, 't'),
        ("no-target-directory", .never, 'T')], true⟩
  let chosen ← table.read arguments 1
  let recursive := ['r', 'R', 'a'].any chosen.has
  let run (sources : List Octets) (target : Octets) : Running Unit :=
    sources.forM (fun source =>
      transfer moves recursive (chosen.has 'v') (chosen.has 'n') source target)
  match chosen.value? 't', chosen.operands.reverse with
  | _, [] => Running.failUsage "missing file operand".toList 1
  | some target, _ => run chosen.operands target
  | none, [only] =>
    Running.failUsage ("missing destination file operand after ".toList ++
      Running.quoted only) 1
  | none, [target, source] => run [source] target
  | none, target :: sources =>
    match ← Running.ask (Course.look (fun files => files.resolve (pathOf target))) with
    | .ok (_, .directory) => run sources.reverse target
    | .ok _ =>
      Running.fail ("target ".toList ++ Running.quoted target ++ ": Not a directory".toList) 1
    | .error error =>
      Running.fail ("target ".toList ++ Running.quoted target ++ [':', ' '] ++
        error.reason.toList) 1

/-! ## Permissions -/

/-- Permissions after a change of them, if a text is one. -/
def permissionsAfter? (permissions : Permissions) (mode : Octets) : Option Permissions :=
  match Permissions.octal? mode with
  | some n => if n < 4096 then some (Nat.land n Permissions.all) else none
  | none => (Permissions.afterClauses true permissions mode).toOption

/-- The permissions of a file, which may be run or not. -/
def permissionsOf (isExecutable : Bool) : Permissions := if isExecutable then 493 else 420

/-- Change what may be done with files. -/
def chmod (arguments : List Octets) : Running Unit := do
  let isMode (word : Octets) : Bool :=
    match word with
    | '-' :: rest => !rest.isEmpty && rest.all "rwxXst".toList.contains
    | _ => false
  let (modes, others) := arguments.partition isMode
  let table : OptionTable :=
    ⟨"cfRv", [("recursive", .never, 'R'), ("verbose", .never, 'v'), ("silent", .never, 'f')], true⟩
  let chosen ← table.read others 1
  match modes ++ chosen.operands with
  | [] => Running.failUsage "missing operand".toList 1
  | [mode] => Running.failUsage ("missing operand after ".toList ++ Running.quoted mode) 1
  | mode :: operands =>
    if (permissionsAfter? 0 mode).isNone then
      Running.failUsage ("invalid mode: ".toList ++ Running.quoted mode) 1
    else
      operands.forM (fun name => do
        match ← Running.ask (Course.look (fun files => files.resolve (pathOf name))) with
        | .error error => complainFile "cannot access" name error
        | .ok (names, _) =>
          Running.ask (Course.carryOut (fun _ host =>
            let before := permissionsOf (host.executables.contains names)
            let after := (permissionsAfter? before mode).getD before
            let others := host.executables.filter (· ≠ names)
            ((), { host with
              executables := if Nat.land after 73 ≠ 0 then names :: others else others }))))

/-! ## Names -/

/-- The width of a terminal. -/
def terminalWidth : Nat := 80

/-- Names in as few rows as fit into a terminal. -/
def inColumns (names : List Octets) : List Octets :=
  let count := names.length
  let table (rows : Nat) : List (List Octets) :=
    (List.range ((count + rows - 1) / rows)).map (fun i => (names.drop (i * rows)).take rows)
  let widths (columns : List (List Octets)) : List Nat :=
    columns.map (fun column => column.foldl (fun n name => max n name.length) 0)
  let fits (rows : Nat) : Bool :=
    let widths := widths (table rows)
    widths.foldl (fun n width => n + width + 2) 0 < terminalWidth + 3
  let rows := ((List.range count).map (· + 1)).find? fits |>.getD (max 1 count)
  let columns := table rows
  let widths := widths columns
  (List.range (if count = 0 then 0 else rows)).map (fun row =>
    let cells := columns.filterMap (fun column => column[row]?)
    let padded := (cells.zip widths).dropLast.map (fun (name, width) =>
      name ++ List.replicate (width + 2 - name.length) ' ')
    padded.flatten ++ cells.getLast?.getD [])

/-- List files and the names in directories. -/
def ls (arguments : List Octets) : Running Unit := do
  let table : OptionTable :=
    ⟨"1aAcCdfFghiklmnopqrRsStuUvwxXZ", [("all", .never, 'a'), ("almost-all", .never, 'A'),
      ("directory", .never, 'd'), ("reverse", .never, 'r'), ("color", .perhaps, 'Y'),
      ("classify", .perhaps, 'F')], true⟩
  let chosen ← table.read arguments 2
  let operands := if chosen.operands.isEmpty then [['.']] else chosen.operands
  let files ← Running.ask (Course.look id)
  let sorted (names : List Octets) : List Octets :=
    let sorted := names.mergeSort (fun a b => String.ofList a ≤ String.ofList b)
    if chosen.has 'r' then sorted.reverse else sorted
  let isTerminal := (← get).isTerminal && !chosen.has '1'
  let put (names : List Octets) : Running Unit :=
    ((if isTerminal ∨ chosen.has 'C' then inColumns names
      else if chosen.has 'm' then [Octets.joined [',', ' '] names] else names)).forM
      Running.putLine
  let marked (names : List String) (name : Octets) : Octets :=
    if (chosen.has 'F' || chosen.has 'p') ∧ files.get? names = some .directory then name ++ ['/']
    else name
  let found ← operands.filterMapM (fun name => do
    match files.resolve (pathOf name) with
    | .ok (names, node) => return some (name, names, node)
    | .error error =>
      Running.complain ("cannot access ".toList ++ Running.quoted name ++ [':', ' '] ++
        error.reason.toList) 2
      return none)
  let isShown (node : TreeNode) : Bool := node = .directory && !chosen.has 'd'
  let plain := found.filter (fun entry => !isShown entry.2.2)
  let directories := found.filter (fun entry => isShown entry.2.2)
  if !plain.isEmpty then
    put (sorted (plain.map (fun (name, names, _) => marked names name)))
  let order := sorted (directories.map Prod.fst)
  let titled := 1 < operands.length
  let _ ← order.foldlM (fun isFirst name => do
    match directories.find? (fun entry => entry.1 = name) with
    | none => return isFirst
    | some (_, names, _) =>
      if titled then
        if !isFirst then Running.put ['\n']
        Running.putLine (name ++ [':'])
      let inner := (files.namesIn names).filter (fun entry =>
        chosen.has 'a' || chosen.has 'A' || !entry.startsWith ".")
      let own := inner.map (fun entry =>
        marked (names ++ [entry]) (Octets.ofString entry))
      put (sorted ((if chosen.has 'a' then [['.'], ['.', '.']] else []) ++ own))
      return false) plain.isEmpty

/-- The path of names from the top. -/
def fromTop (names : List String) : Octets :=
  if names.isEmpty then ['/'] else names.flatMap (fun name => '/' :: Octets.ofString name)

/-- Print paths from the top. -/
def realpath (arguments : List Octets) : Running Unit := do
  let table : OptionTable :=
    ⟨"eLmPqsz", [("canonicalize-existing", .never, 'e'), ("canonicalize-missing", .never, 'm'),
      ("quiet", .never, 'q'), ("no-symlinks", .never, 's'), ("zero", .never, 'z')], true⟩
  let chosen ← table.read arguments 1
  forOperands "missing operand" chosen.operands (fun name => do
    match ← Running.ask (Course.look (fun files => files.target (pathOf name))) with
    | .ok (names, node) =>
      if node.isNone ∧ chosen.has 'e' then complainInput name .noEntry
      else Running.putLine (fromTop names)
    | .error error => if chosen.has 'q' then Running.setStatus 1 else complainInput name error)

/-- Print where paths lead to; no file leads to another one. -/
def readlink (arguments : List Octets) : Running Unit := do
  let table : OptionTable :=
    ⟨"efmnqsvz", [("canonicalize", .never, 'f'), ("canonicalize-existing", .never, 'e'),
      ("canonicalize-missing", .never, 'm'), ("no-newline", .never, 'n')], true⟩
  let chosen ← table.read arguments 1
  forOperands "missing operand" chosen.operands (fun name => do
    match ← Running.ask (Course.look (fun files => files.target (pathOf name))) with
    | .ok (names, node) =>
      if ['f', 'm'].any chosen.has ∨ (chosen.has 'e' ∧ node.isSome) then
        Running.put (fromTop names ++ (if chosen.has 'n' then [] else ['\n']))
      else Running.setStatus 1
    | .error _ => Running.setStatus 1)

/-- Make a file or a directory with a name of its own. -/
def mktemp (arguments : List Octets) : Running Unit := do
  let table : OptionTable :=
    ⟨"dp:qtu", [("directory", .never, 'd'), ("dry-run", .never, 'u'), ("quiet", .never, 'q'),
      ("tmpdir", .perhaps, 'p')], true⟩
  let chosen ← table.read arguments 1
  let template := chosen.operands.head?.getD "tmp.XXXXXXXXXX".toList
  let marks := (template.reverse.takeWhile (· = 'X')).length
  if marks < 3 then
    Running.fail ("too few X's in template ".toList ++ Running.quoted template) 1
  let stem := template.take (template.length - marks)
  let stem := if chosen.operands.isEmpty ∨ chosen.has 't' ∨ chosen.has 'p' then
      (chosen.value? 'p').getD "/tmp".toList ++ '/' :: stem
    else stem
  let files ← Running.ask (Course.look id)
  let name (i : Nat) : Octets :=
    let digits := Octets.ofNat i
    stem ++ List.replicate (marks - digits.length) 'A' ++ digits
  let free := (List.range (files.entries.length + 1)).find? (fun i =>
    (files.resolve (pathOf (name i))).toOption.isNone)
  let name := name (free.getD 0)
  let done ← changeOrComplain
    (if chosen.has 'd' then "failed to create directory via template"
      else "failed to create file via template") template (fun files =>
      if chosen.has 'd' then files.makeOne (pathOf name) else files.writeInPlace (pathOf name) [])
  if done then Running.putLine name

/-! ## Looking for files -/

/-- What files are looked for. -/
structure Search where
  name : Option Octets
  kind : Option Char
  least : Nat
  most : Option Nat

/-- What the words after the paths ask for; `fuel` bounds their number. -/
def searchOf : Nat → Search → List Octets → Running Search
  | 0, known, _ => return known
  | fuel + 1, known, words => do
    let number (text : Octets) : Nat := (String.ofList text).toNat?.getD 0
    match words with
    | [] => return known
    | word :: rest =>
      match String.ofList word, rest with
      | "-name", pattern :: rest => searchOf fuel { known with name := some pattern } rest
      | "-type", kind :: rest => searchOf fuel { known with kind := kind.head? } rest
      | "-maxdepth", n :: rest => searchOf fuel { known with most := some (number n) } rest
      | "-mindepth", n :: rest => searchOf fuel { known with least := number n } rest
      | "-print", rest => searchOf fuel known rest
      | _, _ => Running.fail ("unknown predicate \x60".toList ++ word ++ ['\'']) 1

/-- Print the paths of files that are looked for. -/
def find (arguments : List Octets) : Running Unit := do
  let (paths, words) := arguments.span (fun word => word.head? ≠ some '-')
  let search ← searchOf (words.length + 1) ⟨none, none, 0, none⟩ words
  let files ← Running.ask (Course.look id)
  (if paths.isEmpty then [['.']] else paths).forM (fun path => do
    match files.resolve (pathOf path) with
    | .error error =>
      Running.complain (Running.quoted path ++ [':', ' '] ++ error.reason.toList) 1
    | .ok (names, node) =>
      let entries := (names, node) :: (files.branch names).filter (fun entry => entry.1 ≠ names)
      entries.forM (fun (entry, node) => do
        let inner := entry.drop names.length
        let shown := path ++ inner.flatMap (fun name =>
          (if path.getLast? = some '/' ∧ inner.head? = some name then [] else ['/']) ++
            Octets.ofString name)
        let last := ((Octets.splitOn '/' shown).filter (!·.isEmpty)).getLast?.getD []
        let hasKind := search.kind.all (fun kind => (kind = 'd') = (node = .directory))
        let hasName := search.name.all (fun pattern =>
          Shell.Pattern.matchesAll
            (Shell.Pattern.ofChars ⟨['!', '^'], false⟩ (pattern.map (fun c => ⟨true, c⟩))) last)
        let depth := inner.length
        if hasKind ∧ hasName ∧ search.least ≤ depth ∧ search.most.all (depth ≤ ·) then
          Running.putLine shown))

/-- Programs that keep files. -/
def filing : List Program :=
  [.plain "mkdir" mkdir, .plain "rmdir" rmdir, .plain "rm" rm, .plain "touch" touch,
   .plain "cp" (transferAll false), .plain "mv" (transferAll true), .plain "chmod" chmod,
   .plain "ls" ls, .plain "realpath" realpath, .plain "readlink" readlink,
   .plain "mktemp" mktemp, .plain "find" find]

end PubSubTrials.Programs
