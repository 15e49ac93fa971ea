import PubSubTrials.Files.Path
import PubSubTrials.Text.Utf8

/-!
# File stores

What a run needs of a file system: reading a file as text, writing one as a whole, and making a
directory with all that lead to it. An action that fails may have changed the store.
-/

namespace PubSubTrials

/-- Refusals of an operating system. -/
inductive SystemError where
  | notPermitted
  | noEntry
  | noProcess
  | inputOutput
  | noDevice
  | tooLong
  | notExecutable
  | badDescriptor
  | permissionDenied
  | busy
  | alreadyExists
  | notDirectory
  | isDirectory
  | invalidArgument
  | noSpace
  | brokenPipe
  | nameTooLong
  | notEmpty
  deriving DecidableEq, Repr

namespace SystemError

/-- What the operating system says. -/
def reason : SystemError → String
  | notPermitted => "Operation not permitted"
  | noEntry => "No such file or directory"
  | noProcess => "No such process"
  | inputOutput => "Input/output error"
  | noDevice => "No such device or address"
  | tooLong => "Argument list too long"
  | notExecutable => "Exec format error"
  | badDescriptor => "Bad file descriptor"
  | permissionDenied => "Permission denied"
  | busy => "Device or resource busy"
  | alreadyExists => "File exists"
  | notDirectory => "Not a directory"
  | isDirectory => "Is a directory"
  | invalidArgument => "Invalid argument"
  | noSpace => "No space left on device"
  | brokenPipe => "Broken pipe"
  | nameTooLong => "File name too long"
  | notEmpty => "Directory not empty"

/-- The number of a refusal. -/
def code : SystemError → Nat
  | notPermitted => 1
  | noEntry => 2
  | noProcess => 3
  | inputOutput => 5
  | noDevice => 6
  | tooLong => 7
  | notExecutable => 8
  | badDescriptor => 9
  | permissionDenied => 13
  | busy => 16
  | alreadyExists => 17
  | notDirectory => 20
  | isDirectory => 21
  | invalidArgument => 22
  | noSpace => 28
  | brokenPipe => 32
  | nameTooLong => 36
  | notEmpty => 39

/-- How a refusal reads. -/
def message (error : SystemError) : String :=
  error.reason ++ " (os error " ++ toString error.code ++ ")"

end SystemError

/-- Why an action on files fails. -/
inductive FileError where
  | system (error : SystemError)
  /-- A store in memory has no such file. -/
  | absent (path : Path)
  /-- A file on disk is no text. -/
  | notText
  /-- A path on disk holds a null character. -/
  | nullInPath
  /-- A file in memory is no text. -/
  | undecodable (fault : Text.Fault)
  /-- A path that names no file cannot be written. -/
  | noFileName (path : Path)
  /-- The store takes no changes of this kind. -/
  | refused (reason : String)
  deriving DecidableEq, Repr

namespace FileError

/-- Whether the error is about the path, rather than about input and output. -/
def isAboutPath : FileError → Bool
  | undecodable _ | noFileName _ | refused _ => true
  | _ => false

/-- What went wrong. -/
def detail : FileError → String
  | system error => error.message
  | absent path => "file not found: " ++ path.text
  | notText => "stream did not contain valid UTF-8"
  | nullInPath => "file name contained an unexpected NUL byte"
  | undecodable fault => "invalid utf8: " ++ fault.message
  | noFileName path => "no file name in " ++ path.text
  | refused reason => reason

/-- How the error reads. -/
def message (error : FileError) : String :=
  (if error.isAboutPath then "path error: " else "IO error: ") ++ error.detail

end FileError

/-- A store of files. -/
class FileStore (σ : Type) where
  /-- The text of a file. -/
  read : σ → Path → Except FileError String
  /-- Write a file as a whole. -/
  write : Path → List UInt8 → σ → Except FileError Unit × σ
  /-- Make a directory and all that lead to it. -/
  makeDirectory : Path → σ → Except FileError Unit × σ
  /-- Whether there is a file or directory. -/
  contains : σ → Path → Bool

end PubSubTrials
