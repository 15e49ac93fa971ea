import PubSubTrials.Host.Course

/-!
# Executable files

A file can be run if it holds a program, or if it was made executable and starts with a line that
names the program that reads it. A name without slashes is looked for in several directories.
-/

namespace PubSubTrials.Host

/-- What is run when a file is executed. -/
inductive Image where
  | program (name : String)
  /-- A file that another program reads, perhaps with an argument in front. -/
  | script (interpreter : Octets) (argument : Option Octets)
  /-- A file that may be executed but does not say what it is. -/
  | text
  deriving DecidableEq, Repr

namespace Image

/-- What every file starts with that holds a program. -/
def mark : List UInt8 := [127, 69, 76, 70]

/-- The content of a file that holds a program. -/
def fileOf (name : String) : TreeNode := .file (mark ++ Text.encode name.toList)

/-- The program that a content holds. -/
def programOf? (bytes : List UInt8) : Option String :=
  if mark.isPrefixOf bytes then
    some (String.ofList (Text.decodeLossy (bytes.drop mark.length)))
  else none

/-- The program that reads a file, from its first line. -/
def interpreterOf? (bytes : List UInt8) : Option Image :=
  match Octets.ofBytes (bytes.take 256) with
  | '#' :: '!' :: rest =>
    let trim (text : Octets) : Octets :=
      ((text.dropWhile Octets.isBlank).reverse.dropWhile Octets.isBlank).reverse
    let line := trim (Octets.cutAt (· = Octets.lineEnd) rest).1
    let (interpreter, argument) := Octets.cutAt Octets.isBlank line
    if interpreter.isEmpty then none
    else
      let argument := trim argument
      some (.script interpreter (if argument.isEmpty then none else some argument))
  | _ => none

/-- What a content is. -/
def ofBytes (bytes : List UInt8) : Image :=
  match programOf? bytes with
  | some name => .program name
  | none => (interpreterOf? bytes).getD .text

end Image

/-- Whether the file of given names may be executed. -/
def isExecutable (files : FileTree) (executables : List (List String)) (names : List String) :
    Bool :=
  match files.get? names with
  | some (.file bytes) => executables.contains names || Image.mark.isPrefixOf bytes
  | _ => false

/-- What is run when the file of a path is executed. -/
def image (files : FileTree) (executables : List (List String)) (path : Octets) :
    Except SystemError Image :=
  match files.resolve ⟨Octets.toText path⟩ with
  | .error error => .error error
  | .ok (_, .directory) => .error .permissionDenied
  | .ok (names, .file bytes) =>
    if isExecutable files executables names then .ok (.ofBytes bytes)
    else .error .permissionDenied

/-- Whether a name is a path by itself. -/
def isPath (name : Octets) : Bool := name.contains '/'

/-- A name in a directory. -/
def inDirectory (directory name : Octets) : Octets :=
  if directory.isEmpty then name
  else if directory.getLast? = some '/' then directory ++ name
  else directory ++ '/' :: name

/-- The directories in which programs are looked for if nothing else is said. -/
def usualPlaces : Octets :=
  "/usr/local/sbin:/usr/local/bin:/usr/sbin:/usr/bin:/sbin:/bin".toList

/-- The path of the first plain file of a name in several directories. -/
def findFile? (files : FileTree) (places name : Octets) : Option Octets :=
  ((Octets.splitOn ':' places).map (inDirectory · name)).find? (fun path =>
    match files.resolve ⟨Octets.toText path⟩ with
    | .ok (_, .file _) => true
    | _ => false)

/-- The path of a program of a name, or why it cannot be run: the first one in several directories
that may be executed counts. -/
def findProgram (files : FileTree) (executables : List (List String)) (places name : Octets) :
    Except SystemError Octets :=
  if isPath name then (image files executables name).map (fun _ => name)
  else if name.isEmpty then .error .noEntry
  else
    let paths := (Octets.splitOn ':' places).map (inDirectory · name)
    let outcomes := paths.map (fun path => (path, image files executables path))
    match outcomes.find? (fun entry => entry.2.toOption.isSome) with
    | some (path, _) => .ok path
    | none =>
      let errors := outcomes.filterMap (fun entry =>
        match entry.2 with
        | .error error => some error
        | .ok _ => none)
      if errors.contains .permissionDenied then .error .permissionDenied
      else if errors.contains .nameTooLong then .error .nameTooLong
      else .error .noEntry

namespace Course

/-- What is run when the file of a path is executed. -/
def image (path : Octets) : Course (Except SystemError Image) :=
  learn (fun process host => Host.image (host.view process) host.executables path)

/-- The path of a program of a name. -/
def findProgram (places name : Octets) : Course (Except SystemError Octets) :=
  learn (fun process host => Host.findProgram (host.view process) host.executables places name)

end Course

end PubSubTrials.Host
