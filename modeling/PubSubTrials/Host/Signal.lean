/-!
# Signals

Messages without content that processes send each other, known by numbers and names. Most of
them end a process that has not said what else to do.
-/

namespace PubSubTrials.Host

/-- A signal, by its number. -/
abbrev Signal := Nat

namespace Signal

/-- The signals with their names and what is said of a process that one of them has ended. -/
def table : List (Signal × String × String) :=
  [(1, "HUP", "Hangup"), (2, "INT", "Interrupt"), (3, "QUIT", "Quit"),
   (4, "ILL", "Illegal instruction"), (5, "TRAP", "Trace/breakpoint trap"),
   (6, "ABRT", "Aborted"), (7, "BUS", "Bus error"), (8, "FPE", "Floating point exception"),
   (9, "KILL", "Killed"), (10, "USR1", "User defined signal 1"), (11, "SEGV", "Segmentation fault"),
   (12, "USR2", "User defined signal 2"), (13, "PIPE", "Broken pipe"), (14, "ALRM", "Alarm clock"),
   (15, "TERM", "Terminated"), (16, "STKFLT", "Stack fault"), (17, "CHLD", "Child exited"),
   (18, "CONT", "Continued"), (19, "STOP", "Stopped (signal)"), (20, "TSTP", "Stopped"),
   (21, "TTIN", "Stopped (tty input)"), (22, "TTOU", "Stopped (tty output)"),
   (23, "URG", "Urgent I/O condition"), (24, "XCPU", "CPU time limit exceeded"),
   (25, "XFSZ", "File size limit exceeded"), (26, "VTALRM", "Virtual timer expired"),
   (27, "PROF", "Profiling timer expired"), (28, "WINCH", "Window changed"),
   (29, "IO", "I/O possible"), (30, "PWR", "Power failure"), (31, "SYS", "Bad system call")]

/-- Asks a process to end. -/
def terminate : Signal := 15

/-- Ends a process whatever it has said. -/
def kill : Signal := 9

/-- Comes to a process that writes what nobody reads. -/
def brokenPipe : Signal := 13

/-- Comes to a process that is interrupted from a terminal. -/
def interrupt : Signal := 2

/-- The first signal that nobody has given a meaning. -/
def firstFree : Signal := 34

/-- The last signal. -/
def last : Signal := 64

/-- The name of a signal that nobody has given a meaning; it is counted from the nearer end. -/
def freeName (signal : Signal) : String :=
  let (up, down) := (signal - firstFree, last - signal)
  if signal < 50 then if up = 0 then "RTMIN" else "RTMIN+" ++ toString up
  else if down = 0 then "RTMAX"
  else "RTMAX-" ++ toString down

/-- The name of a signal. -/
def name? (signal : Signal) : Option String :=
  if firstFree ≤ signal ∧ signal ≤ last then some (freeName signal)
  else (table.lookup signal).map Prod.fst

/-- What is said of a process that a signal has ended. -/
def description (signal : Signal) : String :=
  match table.lookup signal with
  | some (_, text) => text
  | none => "Unknown signal " ++ toString signal

/-- The signal of a name, which may start with `SIG`. -/
def ofName? (name : String) : Option Signal :=
  let bare := if name.startsWith "SIG" then (name.drop 3).toString else name
  (List.range (last + 1)).find? (fun signal => name? signal = some bare)

/-- Whether a process ends by a signal about which it has said nothing. -/
def isFatal (signal : Signal) : Bool :=
  !([0, 17, 18, 19, 20, 21, 22, 23, 28].contains signal)

/-- Whether a process can have a say in what a signal does. -/
def isNegotiable (signal : Signal) : Bool :=
  signal ≠ kill && signal ≠ 19

end Signal

end PubSubTrials.Host
