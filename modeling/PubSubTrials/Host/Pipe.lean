import PubSubTrials.Text.Octets

/-!
# Pipes

What was written into a pipe and not yet read from it, in the order of writing. A pipe takes no
more once it holds as much as it has room for.
-/

namespace PubSubTrials.Host

/-- The pieces that stand in a pipe. -/
structure Pipe where
  /-- Pieces to be read next. -/
  front : List Octets
  /-- Pieces after those, the last one first. -/
  back : List Octets
  size : Nat
  deriving Repr

namespace Pipe

/-- A pipe that was never written to. -/
def empty : Pipe := ⟨[], [], 0⟩

/-- Number of octets for which a pipe has room. -/
def capacity : Nat := 65536

/-- Whether a pipe takes more. -/
def hasRoom (pipe : Pipe) : Bool := pipe.size < capacity

/-- All that stands in a pipe. -/
def content (pipe : Pipe) : Octets :=
  (pipe.front ++ pipe.back.reverse).flatten

/-- Write a piece. -/
def push (pipe : Pipe) (text : Octets) : Pipe :=
  { pipe with back := text :: pipe.back, size := pipe.size + text.length }

/-- Bring a piece to the front, if there is one. -/
def settle (pipe : Pipe) : Pipe :=
  if pipe.front.isEmpty then { pipe with front := pipe.back.reverse, back := [] } else pipe

/-- Read at most `most` octets of the first piece. -/
def take (most : Nat) (pipe : Pipe) : Octets × Pipe :=
  match pipe.settle with
  | ⟨[], back, size⟩ => ([], ⟨[], back, size⟩)
  | ⟨piece :: rest, back, size⟩ =>
    let left := piece.drop most
    let read := piece.take most
    (read, ⟨if left.isEmpty then rest else left :: rest, back, size - read.length⟩)

/-- Read up to the first line end in a piece that stands in front of others, if there is one. -/
def takeLineOf (piece : Octets) (front back : List Octets) (size : Nat) :
    Option (Octets × Pipe) :=
  match Octets.cutAt (· = Octets.lineEnd) piece with
  | (line, c :: rest) =>
    let front := if rest.isEmpty then front else rest :: front
    some (line ++ [c], ⟨front, back, size - line.length - 1⟩)
  | (_, []) => none

/-- Read up to the first line end, if there is one. -/
def takeLine? (pipe : Pipe) : Option (Octets × Pipe) :=
  let pipe := pipe.settle
  match pipe.front with
  | [] => none
  | piece :: rest =>
    (takeLineOf piece rest pipe.back pipe.size).or (takeLineOf pipe.content [] [] pipe.size)

end Pipe

end PubSubTrials.Host
