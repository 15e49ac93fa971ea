import PubSubTrials.Shell.Expansion

/-!
# Redirections

A command can have its inputs and outputs lead elsewhere. What a descriptor led to before is kept
under another descriptor, and put back after the command.
-/

namespace PubSubTrials.Shell.Redirection

open Host (Course Handle Mode)

/-- Where a descriptor is to lead. -/
inductive Destination where
  | file (path : Octets) (mode : Mode)
  /-- A file that must not lose what it holds. -/
  | newFile (path : Octets)
  | document (text : Octets)
  | descriptor (number : Nat)
  | closed
  deriving Repr

/-- Which descriptor is redirected. -/
inductive Place where
  | fixed (descriptor : Nat)
  /-- One that a variable holds, or gets if it has to be a new one. -/
  | held (name : Octets)
  deriving Repr

/-- A descriptor with what it led to before: where that is kept, if it led anywhere. -/
abbrev Kept := Nat × Option Nat

/-- The descriptor that a text names. -/
def descriptor? (dialect : Dialect) (text : Octets) : Option Destination :=
  if text = ['-'] then some .closed
  else if !text.isEmpty ∧ text.all Char.isDigit ∧ (text.length = 1 ∨ dialect = .extended) then
    some (.descriptor (Arithmetic.digitsValue 10 text))
  else none

/-- Where a target leads, with what else is redirected then. -/
def destinationsOf (perform : Performer) (place : Place) (target : Target) :
    Scripting (List (Place × Destination)) := do
  let path (word : Word) : Scripting Octets := Expansion.single perform word
  let andDiagnostics (first : Place × Destination) : List (Place × Destination) :=
    [first, (.fixed 2, .descriptor 1)]
  match target with
  | .fromFile word => return [(place, .file (← path word) .read)]
  | .toFile force word =>
    let path ← path word
    if !force ∧ (← Scripting.has 'C') then return [(place, .newFile path)]
    else return [(place, .file path .overwrite)]
  | .appendTo word => return [(place, .file (← path word) .append)]
  | .withFile word => return [(place, .file (← path word) .update)]
  | .both append word =>
    let mode : Mode := if append then .append else .overwrite
    return andDiagnostics (.fixed 1, .file (← path word) mode)
  | .line word => return [(place, .document ((← path word) ++ [Octets.lineEnd]))]
  | .document number =>
    let word := (← get).documents[number]?.getD []
    return [(place, .document (← path word))]
  | .same word =>
    let text ← path word
    match descriptor? (← get).dialect text with
    | some destination => return [(place, destination)]
    | none =>
      if (← get).isExtended then return andDiagnostics (place, .file text .overwrite)
      else
        modify (fun session => { session with line := session.readLine })
        Scripting.failWith ("Syntax error: " ++ Complaint.badDescriptor.message)

/-- Where redirections lead, in their order. -/
def destinations (perform : Performer) : Redirection → Scripting (List (Place × Destination))
  | .mk descriptor target => destinationsOf perform (.fixed descriptor) target
  | .held name _ target => destinationsOf perform (.held name) target

/-- Complain that a file cannot be opened. -/
def complain {α : Type} (path : Octets) (mode : Mode) (error : SystemError) : Scripting α := do
  let reads := mode = .read
  if (← get).isExtended then Scripting.failAbout path error.reason
  else
    let reason :=
      if error = .noEntry ∨ error = .notDirectory then
        if reads then "No such file" else "Directory nonexistent"
      else error.reason
    Scripting.failAbout ((if reads then "cannot open " else "cannot create ").toList ++ path) reason

/-- Open a file. -/
def opened (path : Octets) (mode : Mode) : Scripting Handle := do
  match ← Scripting.ask (Course.openFile ⟨Octets.toText path⟩ mode) with
  | .ok handle => return handle
  | .error error => complain path mode error

/-- Whether a path leads to a plain file. -/
def isPlainFile (files : FileTree) (path : Octets) : Bool :=
  match files.resolve ⟨Octets.toText path⟩ with
  | .ok (names, .file _) => (Host.device? names).isNone
  | _ => false

/-- What a destination is now, or nothing if the descriptor is to be closed. -/
def handleOf : Destination → Scripting (Option Handle)
  | .file path mode => return some (← opened path mode)
  | .newFile path => do
    if ← Scripting.ask (Course.look (fun files => isPlainFile files path)) then
      if (← get).isExtended then Scripting.failAbout path "cannot overwrite existing file"
      else complain path .overwrite .alreadyExists
    else return some (← opened path .overwrite)
  | .document text => return some (← Scripting.ask (Course.document text))
  | .descriptor number => do
    match ← Scripting.ask (Course.handle? number) with
    | some handle => return some handle
    | none => Scripting.failAbout (Octets.ofNat number) SystemError.badDescriptor.reason
  | .closed => return none

/-- Keep what a descriptor leads to. -/
def keep (descriptor : Nat) : Scripting Kept := do
  match ← Scripting.ask (Course.handle? descriptor) with
  | some handle => return (descriptor, some (← Scripting.ask (Course.keep handle)))
  | none => return (descriptor, none)

/-- Put back what descriptors led to. -/
def restore (kept : List Kept) : Scripting Unit := do
  for (descriptor, place?) in kept do
    match place? with
    | some place =>
      let handle ← Scripting.ask (Course.handle? place)
      Scripting.ask (Course.redirect descriptor handle)
      Scripting.ask (Course.redirect place none)
    | none => Scripting.ask (Course.redirect descriptor none)

/-- Forget what descriptors led to. -/
def forget (kept : List Kept) : Scripting Unit := do
  for (_, place?) in kept do
    match place? with
    | some place => Scripting.ask (Course.redirect place none)
    | none => pure ()

/-- Let descriptors lead to their destinations; the answer is what has been kept, and whether all
went well. What fails is told. -/
def applyAll : List (Place × Destination) → List Kept → Scripting (List Kept × Bool)
  | [], kept => return (kept, true)
  | (place, destination) :: rest, kept => do
    match ← Scripting.attempt (handleOf destination) with
    | .error _ => return (kept, false)
    | .ok handle? =>
      match place, handle? with
      | .fixed descriptor, handle? =>
        let kept ←
          if kept.any (fun entry => entry.1 = descriptor) then pure kept
          else do pure ((← keep descriptor) :: kept)
        Scripting.ask (Course.redirect descriptor handle?)
        applyAll rest kept
      | .held name, some handle =>
        Scripting.assign name (Octets.ofNat (← Scripting.ask (Course.keep handle)))
        applyAll rest kept
      | .held name, none =>
        let text := ((← get).valueOf? name).getD []
        Scripting.ask (Course.redirect (Arithmetic.digitsValue 10 text) none)
        applyAll rest kept

/-- The status of a command whose redirections fail. -/
def failureStatus : Scripting Nat := return if (← get).isExtended then 1 else 2

/-- Carry out steps with redirections; `failing` says what to do if these fail, and `lasting`
whether they stay in force after the steps. -/
def within {α : Type} (perform : Performer) (redirections : List Redirection)
    (failing : Scripting α) (lasting : Bool) (steps : Scripting α) : Scripting α := do
  if redirections.isEmpty then steps
  else
    let destinations ← redirections.mapM (destinations perform)
    let (kept, done) ← applyAll destinations.flatten []
    if done then
      let finish := if lasting then forget kept else restore kept
      Scripting.ensuring steps finish
    else
      restore kept
      failing

end PubSubTrials.Shell.Redirection
