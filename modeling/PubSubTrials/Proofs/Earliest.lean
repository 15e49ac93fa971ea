import Mathlib.Data.List.MinMax
import PubSubTrials.Proofs.Waiting

/-!
# The earliest hit

`scan` goes through a text place by place and asks at each of them for the first pattern that
stands there. The rule by which a hit is chosen is simpler to say pattern by pattern: every pattern
has its leftmost occurrence, and the one that starts first wins, that of the pattern listed first if
several start together (`earliest`). Both are the same (`scan_eq_earliest`).

`Console.seek` waits for patterns by this rule alone: after every line it looks through all of the
pending text from its start. `expect_eq_seek` says that a console, which passes over most of what it
has searched, gives the same answers, leaves the same text and receives as many lines.
-/

namespace PubSubTrials

namespace Text

/-- The size of a text is that of the string of its characters. -/
theorem utf8ByteSize_ofList (text : List Char) :
    (String.ofList text).utf8ByteSize = byteLength text := by
  induction text with
  | nil => rfl
  | cons c rest ih =>
    rw [String.ofList_cons, String.utf8ByteSize_append, String.utf8ByteSize_singleton, ih,
      byteLength_cons]

theorem byteLength_toList (text : String) :
    byteLength text.toList = text.utf8ByteSize := by
  rw [← utf8ByteSize_ofList, String.ofList_toList]

/-- The end of a part of a text is a boundary of characters. -/
theorem isValid_byteLength (front rest : List Char) :
    (⟨byteLength front⟩ : String.Pos.Raw).IsValid (String.ofList (front ++ rest)) := by
  rw [String.Pos.Raw.isValid_iff_exists_append]
  refine ⟨String.ofList front, String.ofList rest, String.ofList_append, ?_⟩
  rw [String.rawEndPos, utf8ByteSize_ofList]

/-- The boundaries of a text are the valid positions of its string. -/
theorem isBoundary_iff_isValid {text : List Char} {position : String.Pos.Raw} :
    isBoundary text position.byteIdx = true ↔ position.IsValid (String.ofList text) := by
  rw [isBoundary_iff]
  constructor
  · rintro ⟨front, back, rfl, hfront⟩
    obtain rfl : position = ⟨byteLength front⟩ := String.Pos.Raw.ext hfront.symm
    exact isValid_byteLength front back
  · intro h
    obtain ⟨front, back, htext, rfl⟩ := String.Pos.Raw.isValid_iff_exists_append.mp h
    refine ⟨front.toList, back.toList, ?_, byteLength_toList front⟩
    rw [← String.toList_append, ← htext, String.toList_ofList]

end Text

namespace Output

/-! ## The leftmost occurrence of one pattern -/

/-- Where a pattern stands first in a text, and how many characters it covers there. -/
def Pattern.first? (pattern : Pattern) (text : List Char) : Option (Nat × Nat) := do
  let start ← (List.range (text.length + 1)).find? fun start =>
    (pattern.lengthAt? (text.drop start)).isSome
  let size ← pattern.lengthAt? (text.drop start)
  return (start, size)

theorem Pattern.first?_of_forall {pattern : Pattern} {text : List Char}
    (h : ∀ i ≤ text.length, pattern.lengthAt? (text.drop i) = none) :
    pattern.first? text = none := by
  have hrange : (List.range (text.length + 1)).find? (fun start =>
      (pattern.lengthAt? (text.drop start)).isSome) = none := by
    rw [List.find?_range_eq_none]
    intro i hi
    rw [h i (Nat.le_of_lt_succ hi)]
    rfl
  rw [first?, hrange]
  rfl

/-- A pattern is found where it stands first. -/
theorem Pattern.first?_of_lengthAt? {pattern : Pattern} {text : List Char} {start size : Nat}
    (hle : start ≤ text.length) (hstands : pattern.lengthAt? (text.drop start) = some size)
    (hleast : ∀ i < start, pattern.lengthAt? (text.drop i) = none) :
    pattern.first? text = some (start, size) := by
  have hrange : (List.range (text.length + 1)).find? (fun start =>
      (pattern.lengthAt? (text.drop start)).isSome) = some start := by
    rw [List.find?_range_eq_some]
    refine ⟨by rw [hstands]; rfl, List.mem_range.mpr (Nat.lt_succ_of_le hle), fun i hi => ?_⟩
    rw [hleast i hi]
    rfl
  rw [first?, hrange, Option.bind_eq_bind, Option.bind_some, hstands]
  rfl

/-- A pattern has a leftmost occurrence, or it stands nowhere. -/
theorem Pattern.first?_cases (pattern : Pattern) (text : List Char) :
    (pattern.first? text = none ∧ ∀ i ≤ text.length, pattern.lengthAt? (text.drop i) = none) ∨
      ∃ start size, pattern.first? text = some (start, size) ∧ start ≤ text.length ∧
        pattern.lengthAt? (text.drop start) = some size ∧
        ∀ i < start, pattern.lengthAt? (text.drop i) = none := by
  cases hfind : (List.range (text.length + 1)).find? (fun start =>
      (pattern.lengthAt? (text.drop start)).isSome) with
  | none =>
    have hnone : ∀ i ≤ text.length, pattern.lengthAt? (text.drop i) = none := by
      intro i hi
      have hi' := List.find?_range_eq_none.mp hfind i (Nat.lt_succ_of_le hi)
      simpa using hi'
    exact .inl ⟨first?_of_forall hnone, hnone⟩
  | some start =>
    obtain ⟨hsome, hmem, hleast⟩ := List.find?_range_eq_some.mp hfind
    obtain ⟨size, hsize⟩ := Option.isSome_iff_exists.mp hsome
    have hle : start ≤ text.length := Nat.le_of_lt_succ (List.mem_range.mp hmem)
    have hbefore : ∀ i < start, pattern.lengthAt? (text.drop i) = none := by
      intro i hi
      simpa using hleast i hi
    exact .inr ⟨start, size, first?_of_lengthAt? hle hsize hbefore, hle, hsize, hbefore⟩

/-! ## The earliest of several patterns -/

/-- An occurrence of one of several patterns in a text. -/
structure Occurrence where
  /-- The position of the pattern among the patterns. -/
  index : Nat
  start : Nat
  size : Nat

/-- The leftmost occurrence of every pattern that stands in a text, in the order of the patterns,
which are counted from `index`. -/
def occurrencesFrom (text : List Char) : Nat → List Pattern → List Occurrence
  | _, [] => []
  | index, pattern :: rest =>
    ((pattern.first? text).map fun (start, size) => ⟨index, start, size⟩).toList ++
      occurrencesFrom text (index + 1) rest

/-- The occurrence that starts first; of several the one of the pattern that is listed first. -/
def earliest (patterns : List Pattern) (text : List Char) : Option Occurrence :=
  (occurrencesFrom text 0 patterns).argmin Occurrence.start

/-- What an occurrence makes of the text that it stands in. -/
def Occurrence.hit (occurrence : Occurrence) (text : List Char) : Hit where
  index := occurrence.index
  before := text.take occurrence.start
  matched := (text.drop occurrence.start).take occurrence.size
  rest := (text.drop occurrence.start).drop occurrence.size

/-- Where the earliest occurrence starts a pattern is found, and none is found before. -/
theorem firstAt?_of_argmin (text : List Char) (patterns : List Pattern) (index : Nat) :
    match (occurrencesFrom text index patterns).argmin Occurrence.start with
    | none => ∀ i ≤ text.length, Pattern.firstAt? index patterns (text.drop i) = none
    | some found => found.start ≤ text.length ∧
        Pattern.firstAt? index patterns (text.drop found.start) =
          some (found.index, found.size) ∧
        ∀ i < found.start, Pattern.firstAt? index patterns (text.drop i) = none := by
  induction patterns generalizing index with
  | nil => exact fun i _ => rfl
  | cons pattern rest ih =>
    have hrest := ih (index + 1)
    -- where the first pattern does not stand, the others decide
    have hskip : ∀ i, pattern.lengthAt? (text.drop i) = none →
        Pattern.firstAt? index (pattern :: rest) (text.drop i) =
          Pattern.firstAt? (index + 1) rest (text.drop i) := by
      intro i hi
      rw [Pattern.firstAt?, hi]
    have hhere : ∀ i size, pattern.lengthAt? (text.drop i) = some size →
        Pattern.firstAt? index (pattern :: rest) (text.drop i) = some (index, size) := by
      intro i size hi
      rw [Pattern.firstAt?, hi]
    rw [occurrencesFrom]
    obtain ⟨hfirst, hnowhere⟩ | ⟨start, size, hfirst, hle, hstands, hleast⟩ :=
      pattern.first?_cases text
    · rw [hfirst, Option.map_none, Option.toList_none, List.nil_append]
      cases hmin : (occurrencesFrom text (index + 1) rest).argmin Occurrence.start with
      | none =>
        rw [hmin] at hrest
        exact fun i hi => (hskip i (hnowhere i hi)).trans (hrest i hi)
      | some found =>
        rw [hmin] at hrest
        obtain ⟨hfound, hthere, hbefore⟩ := hrest
        refine ⟨hfound, (hskip _ (hnowhere _ hfound)).trans hthere, fun i hi => ?_⟩
        exact (hskip i (hnowhere i (by omega))).trans (hbefore i hi)
    · rw [hfirst, Option.map_some, Option.toList_some, List.singleton_append, List.argmin_cons]
      cases hmin : (occurrencesFrom text (index + 1) rest).argmin Occurrence.start with
      | none =>
        rw [hmin] at hrest
        refine ⟨hle, hhere _ _ hstands, fun i hi => ?_⟩
        have hi' : i < start := hi
        exact (hskip i (hleast i hi)).trans (hrest i (by omega))
      | some found =>
        rw [hmin] at hrest
        obtain ⟨hfound, hthere, hbefore⟩ := hrest
        dsimp only
        by_cases hlt : found.start < start
        · rw [if_pos hlt]
          refine ⟨hfound, (hskip _ (hleast _ hlt)).trans hthere, fun i hi => ?_⟩
          exact (hskip i (hleast i (by omega))).trans (hbefore i hi)
        · -- the first pattern wins, also when another one starts at the same place
          rw [if_neg hlt]
          refine ⟨hle, hhere _ _ hstands, fun i hi => ?_⟩
          have hi' : i < start := hi
          exact (hskip i (hleast i hi)).trans (hbefore i (by omega))

/-- A scan that is decided where it stands cuts the text there. -/
theorem scan_of_firstAt? {patterns : List Pattern} {text : List Char} {index size : Nat}
    (h : Pattern.firstAt? 0 patterns text = some (index, size)) (passed : List Char) :
    scan patterns passed text =
      some ⟨index, passed.reverse, text.take size, text.drop size⟩ := by
  cases text with
  | nil =>
    rw [scan, h, List.take_nil, List.drop_nil]
    rfl
  | cons c rest => rw [scan, h]

/-- Scanning a text finds its earliest occurrence. -/
theorem scan_eq_earliest (patterns : List Pattern) (text : List Char) :
    scan patterns [] text = (earliest patterns text).map (·.hit text) := by
  have hfirst := firstAt?_of_argmin text patterns 0
  rw [← earliest] at hfirst
  cases hearliest : earliest patterns text with
  | none =>
    rw [hearliest] at hfirst
    exact scan_eq_none_iff.mpr hfirst
  | some found =>
    rw [hearliest] at hfirst
    obtain ⟨hle, hthere, hbefore⟩ := hfirst
    have hskip := @scan_skip patterns (text.take found.start) (text.drop found.start) []
    rw [List.take_append_drop, List.length_take, Nat.min_eq_left hle, List.append_nil] at hskip
    rw [hskip hbefore, scan_of_firstAt? hthere, List.reverse_reverse]
    rfl

/-! ## Where a search goes on -/

/-- The last boundary of a character at an offset or in front of it. -/
structure IsLastBoundary (text : String) (offset : Nat) (boundary : String.Pos.Raw) : Prop where
  isValid : boundary.IsValid text
  inside : boundary.byteIdx ≤ text.utf8ByteSize
  notBehind : boundary.byteIdx ≤ offset
  last : ∀ other : String.Pos.Raw, other.IsValid text → other.byteIdx ≤ offset →
    other.byteIdx ≤ boundary.byteIdx

/-- Rounding down ends at the last boundary, and the string's own positions agree on what a boundary
is. -/
theorem isLastBoundary_boundaryUpTo {text : List Char} {offset : Nat}
    (h : offset ≤ Text.byteLength text) :
    IsLastBoundary (String.ofList text) offset ⟨Text.boundaryUpTo text offset⟩ where
  isValid := Text.isBoundary_iff_isValid.mp (Text.isBoundary_boundaryUpTo text offset)
  inside := by
    rw [Text.utf8ByteSize_ofList]
    exact Nat.le_trans (Text.boundaryUpTo_le text offset) h
  notBehind := Text.boundaryUpTo_le text offset
  last _ hvalid hle := Text.le_boundaryUpTo (Text.isBoundary_iff_isValid.mpr hvalid) hle

namespace Window

theorem byteLength_take_le (text : List Char) (n : Nat) :
    Text.byteLength (text.take n) ≤ Text.byteLength text := by
  have hsplit := congrArg Text.byteLength (List.take_append_drop n text)
  rw [Text.byteLength_append] at hsplit
  omega

/-- A search goes on at the last boundary that leaves as many bytes behind it as the overlap, or at
the start of a text that has fewer. -/
theorem isLastBoundary_resumePoint (text : List Char) :
    IsLastBoundary (String.ofList text) ((String.ofList text).utf8ByteSize - overlap)
      ⟨resumePoint text⟩ := by
  rw [Text.utf8ByteSize_ofList]
  exact isLastBoundary_boundaryUpTo (Nat.sub_le _ _)

/-- Of a text that was searched little more than the overlap is searched again. -/
theorem utf8ByteSize_le_resumePoint (text : List Char) :
    (String.ofList text).utf8ByteSize ≤ resumePoint text + (overlap + 3) := by
  have hnear := Text.le_boundaryUpTo_add (Nat.sub_le (Text.byteLength text) overlap)
  rw [Text.utf8ByteSize_ofList]
  have hpoint : Text.byteLength text - overlap ≤ resumePoint text + 3 := hnear
  omega

/-- What is passed over ends where the search goes on. -/
theorem byteLength_passed_advance (window : Window) :
    Text.byteLength window.advance.passed = resumePoint window.text := by
  obtain ⟨front, back, -, hfront, hadvance⟩ := window.exists_advance
  rw [hadvance, Text.byteLength_reverse, hfront]

end Window

namespace Console

/-! ## Waiting by the rule -/

/-- Wait for patterns, receiving from the given lines: all of the pending text is looked through
from its start, and when there is no hit one more line is received. -/
def seekFrom (patterns : List Pattern) (console : Console) (pending : List Char)
    (lines : List (List Char)) : Reply × Console :=
  match earliest patterns pending with
  | some found =>
    (.found found.index,
      { console with
        incoming := lines
        before := pending.take found.start
        after := (pending.drop found.start).take found.size
        pending := pending.drop (found.start + found.size) })
  | none =>
    match lines with
    | line :: rest =>
      seekFrom patterns { console with transcript := console.transcript.push line }
        (pending ++ (line ++ ['\n'])) rest
    | [] =>
      if console.isOpen then (.timeout, { console with incoming := [], pending })
      else
        (.endOfOutput, { console with
          incoming := [], before := pending, after := [], pending := [] })

/-- Wait for patterns among what has arrived, looking through all of it. -/
def seek (console : Console) (patterns : List Pattern) : Reply × Console :=
  seekFrom patterns console console.pending console.incoming

theorem rescanFrom_of_earliest {patterns : List Pattern} {pending : List Char}
    {found : Occurrence} (h : earliest patterns pending = some found) (console : Console)
    (lines : List (List Char)) :
    rescanFrom patterns console pending lines =
      (.found found.index,
        { console with
          incoming := lines
          before := pending.take found.start
          after := (pending.drop found.start).take found.size
          pending := pending.drop (found.start + found.size) }) := by
  have hscan : scan patterns [] pending = some (found.hit pending) := by
    rw [scan_eq_earliest, h, Option.map_some]
  rw [rescanFrom_of_some hscan, consume, Occurrence.hit, List.drop_drop]

/-- Searching again from the start at each line and searching on from the resume point come to the
same, by induction over the lines. -/
theorem rescanFrom_eq_seekFrom (patterns : List Pattern) (console : Console)
    (pending : List Char) (lines : List (List Char)) :
    rescanFrom patterns console pending lines = seekFrom patterns console pending lines := by
  have hnone : ∀ pending, earliest patterns pending = none → scan patterns [] pending = none := by
    intro pending h
    rw [scan_eq_earliest, h, Option.map_none]
  induction lines generalizing console pending with
  | nil =>
    rw [seekFrom]
    cases hfound : earliest patterns pending with
    | none => exact rescanFrom_nil_of_none (hnone _ hfound) console
    | some found => exact rescanFrom_of_earliest hfound console []
  | cons line rest ih =>
    rw [seekFrom]
    cases hfound : earliest patterns pending with
    | none => exact (rescanFrom_cons_of_none (hnone _ hfound) console line rest).trans (ih _ _)
    | some found => exact rescanFrom_of_earliest hfound console (line :: rest)

/-- Passing over searched text changes nothing, as long as the patterns are markers and literals of
at most one byte more than the overlap: the answer, the text before the hit, the hit, the text that
stays pending, the transcript and the lines not received yet are as if everything were looked
through again. After a search in vain the next one passes over the text up to its resume point,
which is the overlap before its end, rounded down to the boundary of a character: it lies inside the
text, and rounding takes it three bytes back at most. -/
theorem expect_eq_seek {patterns : List Pattern}
    (h : ∀ text, Pattern.literal text ∈ patterns → text.utf8ByteSize ≤ Window.overlap + 1)
    (console : Console) :
    console.expect patterns = console.seek patterns ∧
      ∀ window : Window, window.advance.text = window.text ∧
        Text.byteLength window.advance.passed = Window.resumePoint window.text ∧
        IsLastBoundary (String.ofList window.text)
          ((String.ofList window.text).utf8ByteSize - Window.overlap)
          ⟨Window.resumePoint window.text⟩ ∧
        (String.ofList window.text).utf8ByteSize ≤
          Window.resumePoint window.text + (Window.overlap + 3) := by
  -- no pattern is longer than what is searched again, the literals by assumption
  have hbrief : ∀ pattern ∈ patterns, pattern.Brief := by
    intro pattern hpattern
    cases pattern with
    | marker m => exact Pattern.brief_marker m
    | literal text =>
      apply Pattern.brief_literal
      rw [Text.byteLength_toList]
      exact h text hpattern
  refine ⟨?_, fun window => ⟨window.text_advance, window.byteLength_passed_advance, ?_, ?_⟩⟩
  · rw [expect_eq_rescan hbrief, rescanFrom_eq_seekFrom, seek]
  · exact Window.isLastBoundary_resumePoint window.text
  · exact Window.utf8ByteSize_le_resumePoint window.text

/-- A long line of characters of two bytes, in the last of which a literal begins that the next line
completes before any marker stands there. The search goes on where such a character begins, one byte
in front of the overlap. -/
theorem expect_eq_seek_across_lines :
    let line := 'a' :: List.replicate 600 'é'
    let console := Console.ofLines [line, "ü [20]".toList] true
    console.expect [.marker .data, .literal "é\nü"] =
        console.seek [.marker .data, .literal "é\nü"] ∧
      (console.expect [.marker .data, .literal "é\nü"]).1 = .found 1 ∧
      Text.byteLength (line ++ ['\n']) - Window.overlap = 178 ∧
      Window.resumePoint (line ++ ['\n']) = 177 := by
  refine ⟨(expect_eq_seek (fun text htext => ?_) _).1, ?_, ?_, ?_⟩
  · obtain rfl : text = "é\nü" := by simpa using htext
    decide +kernel
  · decide +kernel
  · decide +kernel
  · decide +kernel

end Console

end Output

end PubSubTrials
