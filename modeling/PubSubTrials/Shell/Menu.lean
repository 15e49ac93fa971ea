import PubSubTrials.Text.Octets

/-!
# Menus

A menu shows numbered items, one below the other, in as many columns as a line has room for. If
there would be one row only, the items stand in one column.
-/

namespace PubSubTrials.Shell.Menu

/-- The places between two stops of a tabulator. -/
def stop : Nat := 8

/-- What leads from one place of a line to another one. -/
def gap (start goal : Nat) : Octets :=
  let tabs := goal / stop - start / stop
  let reached := if tabs = 0 then start else goal / stop * stop
  List.replicate tabs '\t' ++ List.replicate (goal - reached) ' '

/-- A numbered item; the number takes so many places. -/
def numbered (width : Nat) (entry : Nat × Octets) : Octets :=
  let digits := Octets.ofNat entry.1
  List.replicate (width - digits.length) ' ' ++ digits ++ [')', ' '] ++ entry.2

/-- A row of items in columns of one width; `start` is the place of the first one, and `first` and
`others` are the places that numbers take. -/
def row (width first others start : Nat) : List (Nat × Octets) → Octets
  | [] => []
  | entry :: rest =>
    let text := numbered first entry
    let between := if rest.isEmpty then [] else gap (start + text.length) (start + width)
    text ++ between ++ row width others others (start + width) rest

/-- The lines of a menu of items for lines of a given length. -/
def lines (room : Nat) (items : List Octets) : List Octets :=
  let count := items.length
  let places (n : Nat) : Nat := (Octets.ofNat n).length
  let width := (items.map List.length).foldl max 0 + places count + 4
  let columns := max 1 (room / width)
  let rows := (count + columns - 1) / columns
  let rows := if rows = 1 then count else rows
  (List.range rows).map (fun n =>
    let entries := items.zipIdx.filter (fun entry => entry.2 % rows = n)
    row width (places rows) (places count) 0 (entries.map (fun (text, n) => (n + 1, text))))

/-- The item that an answer chooses; nothing is chosen by an answer that is no number of an
item. -/
def chosen (items : List Octets) (answer : Octets) : Octets :=
  match (String.ofList answer).toNat? with
  | some (n + 1) => items.getD n []
  | _ => []

end PubSubTrials.Shell.Menu
