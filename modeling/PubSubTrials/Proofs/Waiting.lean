import PubSubTrials.Output.Console
import PubSubTrials.Proofs.Scanning

/-!
# Waiting for patterns

`Console.expect` searches the pending text line by line and passes over what it has searched.
Two facts say what this comes to.

* For patterns of few bytes it is the same as to search all of the pending text again after each
  line (`expect_eq_rescan`). What is passed over is followed by as much searched text as the overlap
  holds (`Window.overlap_le_advance`), so a pattern that begins there would have ended there too:
  nothing begins in it that a further line completes, which is the invariant `Window.Sound`.
* For markers it is the same as to search at once all that has arrived (`expect_found`,
  `expect_vain`). A marker has no line feed, and pending text ends with one, so no marker
  stands across the place where the next line begins.

Patterns that all have the same width need no such lines (`expect_uniform`).
-/

namespace PubSubTrials

namespace Text

theorem foldl_utf8Size (text : List Char) (n : Nat) :
    text.foldl (fun n c => n + c.utf8Size) n = n + byteLength text := by
  rw [byteLength]
  induction text generalizing n with
  | nil => rfl
  | cons c rest ih =>
    rw [List.foldl_cons, List.foldl_cons, ih (n + c.utf8Size), ih (0 + c.utf8Size)]
    omega

@[simp] theorem byteLength_nil : byteLength [] = 0 := rfl

@[simp] theorem byteLength_cons (c : Char) (text : List Char) :
    byteLength (c :: text) = c.utf8Size + byteLength text := by
  rw [byteLength, List.foldl_cons, foldl_utf8Size, Nat.zero_add]

@[simp] theorem byteLength_append (a b : List Char) :
    byteLength (a ++ b) = byteLength a + byteLength b := by
  induction a with
  | nil => simp
  | cons c rest ih => rw [List.cons_append, byteLength_cons, byteLength_cons, ih, Nat.add_assoc]

@[simp] theorem byteLength_reverse (text : List Char) :
    byteLength text.reverse = byteLength text := by
  induction text with
  | nil => rfl
  | cons c rest ih =>
    rw [List.reverse_cons, byteLength_append, ih, byteLength_cons, byteLength_cons,
      byteLength_nil]
    omega

theorem byteLength_pos {text : List Char} (h : text ≠ []) : 0 < byteLength text := by
  cases text with
  | nil => exact absurd rfl h
  | cons c rest =>
    have hc := c.utf8Size_pos
    rw [byteLength_cons]
    omega

/-! ## Boundaries of characters -/

/-- A boundary is where a text can be cut in two. -/
theorem isBoundary_iff {text : List Char} {offset : Nat} :
    isBoundary text offset = true ↔
      ∃ front back, text = front ++ back ∧ byteLength front = offset := by
  constructor
  · intro h
    -- a boundary is reached by taking whole characters off the front
    fun_induction isBoundary text offset with
    | case1 text => exact ⟨[], text, rfl, rfl⟩
    | case2 => exact absurd h Bool.false_ne_true
    | case3 c rest offset ih =>
      obtain ⟨hsize, hrest⟩ := Bool.and_eq_true_iff.mp h
      have hsize : c.utf8Size ≤ offset + 1 := of_decide_eq_true hsize
      obtain ⟨front, back, rfl, hfront⟩ := ih hrest
      refine ⟨c :: front, back, rfl, ?_⟩
      rw [byteLength_cons, hfront]
      omega
  · rintro ⟨front, back, rfl, rfl⟩
    induction front with
    | nil => rw [byteLength_nil, isBoundary]
    | cons c rest ih =>
      have hc := c.utf8Size_pos
      obtain ⟨n, hn⟩ : ∃ n, c.utf8Size + byteLength rest = n + 1 :=
        Nat.exists_eq_add_one.mpr (by omega)
      have hrest : n + 1 - c.utf8Size = byteLength rest := by omega
      rw [byteLength_cons, hn, List.cons_append, isBoundary, hrest, ih, Bool.and_true,
        decide_eq_true_eq]
      omega

theorem boundaryUpTo_le (text : List Char) (offset : Nat) : boundaryUpTo text offset ≤ offset := by
  fun_induction boundaryUpTo text offset with
  | case1 => exact Nat.le_refl _
  | case2 => exact Nat.le_refl _
  | case3 offset _ ih => exact Nat.le_succ_of_le ih

theorem isBoundary_boundaryUpTo (text : List Char) (offset : Nat) :
    isBoundary text (boundaryUpTo text offset) = true := by
  fun_induction boundaryUpTo text offset with
  | case1 => rw [isBoundary]
  | case2 offset h => exact h
  | case3 offset _ ih => exact ih

/-- No boundary lies between an offset and the one that it is rounded down to. -/
theorem le_boundaryUpTo {text : List Char} {boundary offset : Nat}
    (h : isBoundary text boundary = true) (hle : boundary ≤ offset) :
    boundary ≤ boundaryUpTo text offset := by
  fun_induction boundaryUpTo text offset with
  | case1 => exact hle
  | case2 => exact hle
  | case3 offset hinside ih =>
    have hne : boundary ≠ offset + 1 := by
      rintro rfl
      exact hinside h
    exact ih (by omega)

/-- A character has four bytes at most, so some boundary lies at an offset or up to three bytes in
front of it. -/
theorem exists_isBoundary_near {text : List Char} {offset : Nat} (h : offset ≤ byteLength text) :
    ∃ boundary, isBoundary text boundary = true ∧ boundary ≤ offset ∧ offset ≤ boundary + 3 := by
  induction text generalizing offset with
  | nil => exact ⟨0, by rw [isBoundary], Nat.zero_le _, Nat.le_add_right_of_le h⟩
  | cons c rest ih =>
    have hc := c.utf8Size_le_four
    rw [byteLength_cons] at h
    by_cases hinside : offset < c.utf8Size
    · exact ⟨0, by rw [isBoundary], Nat.zero_le _, by omega⟩
    · obtain ⟨boundary, hboundary, hle, hnear⟩ := @ih (offset - c.utf8Size) (by omega)
      obtain ⟨front, back, rfl, rfl⟩ := isBoundary_iff.mp hboundary
      refine ⟨byteLength (c :: front), isBoundary_iff.mpr ⟨c :: front, back, rfl, rfl⟩, ?_, ?_⟩
      · rw [byteLength_cons]
        omega
      · rw [byteLength_cons]
        omega

/-- Rounding down takes three bytes off at most, as no character has more than four. -/
theorem le_boundaryUpTo_add {text : List Char} {offset : Nat} (h : offset ≤ byteLength text) :
    offset ≤ boundaryUpTo text offset + 3 := by
  obtain ⟨boundary, hboundary, hle, hnear⟩ := exists_isBoundary_near h
  have hlast := le_boundaryUpTo hboundary hle
  omega

end Text

namespace Output

/-! ## The size of patterns -/

/-- Number of bytes of the character in a cell. -/
def Cell.width : Cell → Nat
  | exactly c => c.utf8Size
  | digit => 1

/-- Number of bytes that a form covers. -/
def formWidth : List Cell → Nat
  | [] => 0
  | cell :: cells => cell.width + formWidth cells

theorem formWidth_exactly (text : List Char) :
    formWidth (text.map Cell.exactly) = Text.byteLength text := by
  induction text with
  | nil => rfl
  | cons c rest ih => rw [List.map_cons, formWidth, ih, Cell.width, Text.byteLength_cons]

/-- A cell accepts characters of its own width only. -/
theorem Cell.utf8Size_of_accepts {cell : Cell} {c : Char} (h : cell.accepts c = true) :
    c.utf8Size = cell.width := by
  cases cell with
  | exactly d =>
    have hd : d = c := by simpa [accepts] using h
    rw [hd, width]
  | digit =>
    simp only [accepts, Bool.and_eq_true, decide_eq_true_eq] at h
    -- a digit is one of the characters that take one byte
    have hc : c.val ≤ 57 := h.2
    have hsmall : c.val ≤ 127 := by
      have : (57 : UInt32) ≤ 127 := by decide
      exact UInt32.le_trans hc this
    simp [Char.utf8Size, hsmall, width]

/-- What a form covers has as many bytes as the form. -/
theorem byteLength_of_stands {form : List Cell} {text : List Char} (h : stands form text = true) :
    Text.byteLength (text.take form.length) = formWidth form := by
  induction form generalizing text with
  | nil => simp [formWidth]
  | cons cell cells ih =>
    cases text with
    | nil => simp [stands] at h
    | cons c rest =>
      simp only [stands, Bool.and_eq_true] at h
      simp [formWidth, Cell.utf8Size_of_accepts h.1, ih h.2]

/-- A form that reaches out of a text has more bytes than it. -/
theorem byteLength_lt_formWidth {form : List Cell} {text more : List Char}
    (h : stands form (text ++ more) = true) (hlong : text.length < form.length) :
    Text.byteLength text < formWidth form := by
  have hlen := length_le_of_stands h
  rw [List.length_append] at hlen
  have hmore : 0 < Text.byteLength (more.take (form.length - text.length)) := by
    apply Text.byteLength_pos
    apply List.ne_nil_of_length_pos
    rw [List.length_take]
    omega
  have hcover := byteLength_of_stands h
  rw [List.take_append, List.take_of_length_le (Nat.le_of_lt hlong), Text.byteLength_append]
    at hcover
  omega

namespace Pattern

/-- A pattern of which a hit that begins before the last `Window.overlap` bytes of a text is
complete with the next byte. -/
def Brief (pattern : Pattern) : Prop :=
  ∀ form ∈ pattern.forms, formWidth form ≤ Window.overlap + 1

theorem brief_marker (m : Marker) : (marker m).Brief := by
  unfold Brief forms
  cases m <;> decide

/-- A literal is brief if it has few bytes. -/
theorem brief_literal {text : String} (h : Text.byteLength text.toList ≤ Window.overlap + 1) :
    (literal text).Brief := by
  intro form hform
  obtain rfl : form = fixed text := by simpa [forms] using hform
  rw [fixed, formWidth_exactly]
  exact h

/-- No brief pattern begins before the end of a text and ends after it, if that end has as many
bytes as the overlap. -/
theorem within_of_overlap_le {patterns : List Pattern} {kept front : List Char}
    (hbrief : ∀ pattern ∈ patterns, pattern.Brief) (h : Window.overlap ≤ Text.byteLength kept)
    (hfront : front ≠ []) (more : List Char) : Within patterns (front ++ kept) more := by
  intro pattern hpattern form hform hstands
  refine Nat.le_of_not_lt fun hlong => ?_
  -- the form would cover the front, the kept text and at least one character more
  have hcover := byteLength_lt_formWidth hstands hlong
  rw [Text.byteLength_append] at hcover
  have hfrontBytes := Text.byteLength_pos hfront
  have hbytes := hbrief pattern hpattern form hform
  omega

end Pattern

/-! ## Passing over searched text -/

namespace Window

/-- As many characters as hold some bytes do hold them, unless there is no more text. -/
theorem le_byteLength_charsHolding (bytes : Nat) (text : List Char) :
    charsHolding bytes text = text.length ∨
      bytes ≤ Text.byteLength (text.take (charsHolding bytes text)) := by
  fun_induction charsHolding bytes text with
  | case1 => exact .inr (Nat.zero_le _)
  | case2 => exact .inl rfl
  | case3 bytes c rest ih =>
    rcases ih with ih | ih
    · left
      rw [List.length_cons, ih, Nat.add_comm]
    · right
      rw [Nat.add_comm 1, List.take_succ_cons, Text.byteLength_cons]
      omega

/-- As many characters as hold the bytes of a start are those of that start. -/
theorem charsHolding_byteLength (front back : List Char) :
    charsHolding (Text.byteLength front) (front ++ back) = front.length := by
  induction front with
  | nil => rw [Text.byteLength_nil, charsHolding, List.length_nil]
  | cons c rest ih =>
    have hc := c.utf8Size_pos
    obtain ⟨n, hn⟩ : ∃ n, c.utf8Size + Text.byteLength rest = n + 1 :=
      Nat.exists_eq_add_one.mpr (by omega)
    have hrest : n + 1 - c.utf8Size = Text.byteLength rest := by omega
    rw [Text.byteLength_cons, hn, List.cons_append, charsHolding, hrest, ih, List.length_cons,
      Nat.add_comm]

/-- A window that starts behind a front has passed over this front. -/
theorem startingAt_byteLength (front back : List Char) :
    startingAt (Text.byteLength front) (front ++ back) = ⟨front.reverse, back⟩ := by
  rw [startingAt, charsHolding_byteLength, List.take_left, List.drop_left]

/-- The place where the next search starts cuts the text in two. -/
theorem exists_advance (window : Window) :
    ∃ front back, window.text = front ++ back ∧
      Text.byteLength front = resumePoint window.text ∧
      window.advance = ⟨front.reverse, back⟩ := by
  obtain ⟨front, back, htext, hfront⟩ :=
    Text.isBoundary_iff.mp (Text.isBoundary_boundaryUpTo window.text _)
  refine ⟨front, back, htext, hfront, ?_⟩
  rw [advance, resumePoint, ← hfront, htext, startingAt_byteLength]

/-- What is searched again is the whole text, or has as many bytes as the overlap. -/
theorem overlap_le_advance (window : Window) :
    window.advance.passed = [] ∨ overlap ≤ Text.byteLength window.advance.live := by
  obtain ⟨front, back, htext, hfront, hadvance⟩ := window.exists_advance
  rw [hadvance]
  have hpoint : resumePoint window.text ≤ Text.byteLength window.text - overlap :=
    Text.boundaryUpTo_le _ _
  have hbytes := congrArg Text.byteLength htext
  rw [Text.byteLength_append] at hbytes
  by_cases hshort : front = []
  · exact .inl (by rw [hshort, List.reverse_nil])
  · have hpositive := Text.byteLength_pos hshort
    exact .inr (show overlap ≤ Text.byteLength back by omega)

/-- A window that was passed over only where no hit begins: a search of the rest finds what a search
of all of it would find. -/
structure Sound (patterns : List Pattern) (window : Window) : Prop where
  find_eq : window.find patterns = scan patterns [] window.text

theorem sound_ofText (patterns : List Pattern) (text : List Char) :
    (ofText text).Sound patterns :=
  ⟨rfl⟩

/-- After a search without a hit the window may be advanced and a line added. -/
theorem Sound.advance_add {patterns : List Pattern} {window : Window}
    (hbrief : ∀ pattern ∈ patterns, pattern.Brief) (h : window.Sound patterns)
    (hnone : window.find patterns = none) (line : List Char) :
    (window.advance.add line).Sound patterns := by
  have hkept := window.overlap_le_advance
  constructor
  -- so far nothing stands anywhere in the text
  have hdead : ∀ i ≤ window.text.length,
      Pattern.firstAt? 0 patterns (window.text.drop i) = none := by
    rw [h.find_eq] at hnone
    exact scan_eq_none_iff.mp hnone
  have htext := text_advance window
  rw [text] at htext
  rw [find, text]
  generalize window.advance = advanced at hkept htext ⊢
  obtain ⟨passed, live⟩ := advanced
  simp only [add] at hkept htext ⊢
  have hskip := @scan_skip patterns passed.reverse (live ++ (line ++ ['\n'])) []
  rw [List.reverse_reverse, List.append_nil] at hskip
  refine (hskip fun i hi => ?_).symm
  -- what begins in the passed text ends in it or in the live one, where nothing was found
  have hlt : i < passed.reverse.length := hi
  rw [← List.append_assoc, List.drop_append_of_le_length (by rw [List.length_append]; omega),
    List.drop_append_of_le_length (Nat.le_of_lt hlt)]
  have hfront : passed.reverse.drop i ≠ [] := fun hnil =>
    Nat.not_le.mpr hlt (List.drop_eq_nil_iff.mp hnil)
  rcases hkept with hnil | hkept
  · simp [hnil] at hlt
  · rw [Pattern.firstAt?_append (Pattern.within_of_overlap_le hbrief hkept hfront _)]
    have hold := hdead i (by rw [← htext, List.length_append]; omega)
    rwa [← htext, List.drop_append_of_le_length (Nat.le_of_lt hlt)] at hold

end Window

namespace Console

/-! ## Searching all again -/

/-- Wait for patterns, searching all of the pending text again after each line received. -/
def rescanFrom (patterns : List Pattern) (console : Console) (pending : List Char) :
    List (List Char) → Reply × Console
  | [] =>
    match scan patterns [] pending with
    | some hit => (.found hit.index, { console.consume hit with incoming := [] })
    | none =>
      if console.isOpen then (.timeout, { console with incoming := [], pending })
      else (.endOfOutput, { console.finish pending with incoming := [] })
  | line :: rest =>
    match scan patterns [] pending with
    | some hit => (.found hit.index, { console.consume hit with incoming := line :: rest })
    | none => rescanFrom patterns (console.record line) (pending ++ (line ++ ['\n'])) rest

/-- As long as a window is sound, searching on from its resume point finds what searching all of its
text finds, by induction over the lines. -/
theorem expectFrom_eq_rescanFrom {patterns : List Pattern}
    (hbrief : ∀ pattern ∈ patterns, pattern.Brief) (console : Console) {window : Window}
    (h : window.Sound patterns) (lines : List (List Char)) :
    expectFrom patterns console window lines = rescanFrom patterns console window.text lines := by
  induction lines generalizing console window with
  | nil =>
    cases hscan : scan patterns [] window.text with
    | none => simp only [expectFrom, rescanFrom, h.find_eq, hscan]
    | some hit => simp only [expectFrom, rescanFrom, h.find_eq, hscan]
  | cons line rest ih =>
    rw [expectFrom, rescanFrom, ← h.find_eq]
    cases hfind : window.find patterns with
    | some hit => rfl
    | none =>
      have hnext := h.advance_add hbrief hfind line
      simp only [ih (console.record line) hnext, Window.text_add, Window.text_advance]

/-- Passing over searched text changes nothing. -/
theorem expect_eq_rescan {patterns : List Pattern} (hbrief : ∀ pattern ∈ patterns, pattern.Brief)
    (console : Console) :
    console.expect patterns =
      rescanFrom patterns console console.pending console.incoming := by
  rw [expect, expectFrom_eq_rescanFrom hbrief console (Window.sound_ofText _ _),
    Window.text_ofText]

end Console

/-! ## Markers in lines -/

/-- Text that consists of whole lines. -/
def LineEnded (text : List Char) : Prop :=
  text = [] ∨ ∃ front, text = front ++ ['\n']

theorem lineEnded_line (text line : List Char) : LineEnded (text ++ (line ++ ['\n'])) :=
  .inr ⟨text ++ line, by simp⟩

theorem LineEnded.drop {text : List Char} (h : LineEnded text) (n : Nat) :
    LineEnded (text.drop n) := by
  rcases h with rfl | ⟨front, rfl⟩
  · exact .inl List.drop_nil
  · by_cases hn : n ≤ front.length
    · exact .inr ⟨front.drop n, List.drop_append_of_le_length hn⟩
    · left
      apply List.drop_eq_nil_of_le
      rw [List.length_append, List.length_singleton]
      omega

/-- No marker is empty, and none has a line feed. -/
theorem Marker.cells (m : Marker) :
    ∀ form ∈ m.forms, form ≠ [] ∧ ∀ cell ∈ form, cell.accepts '\n' = false := by
  cases m <;> decide

/-- A marker that begins in a line ends in it. -/
theorem Pattern.within_markers {text : List Char} (h : LineEnded text) (hne : text ≠ [])
    (markers : List Marker) (more : List Char) :
    Within (markers.map marker) text more := by
  intro pattern hpattern form hform hstands
  obtain ⟨m, -, rfl⟩ := List.mem_map.mp hpattern
  obtain ⟨front, rfl⟩ := h.resolve_left hne
  rw [List.append_assoc, List.singleton_append] at hstands
  have hlen := length_le_of_stands_before (m.cells form hform).2 hstands
  rw [List.length_append]
  omega

theorem Pattern.firstAt?_markers_nil (markers : List Marker) :
    firstAt? 0 (markers.map marker) [] = none := by
  refine firstAt?_eq_none_iff.mpr fun pattern hpattern form hform => ?_
  obtain ⟨m, -, rfl⟩ := List.mem_map.mp hpattern
  have hne := (m.cells form hform).1
  cases form with
  | nil => exact absurd rfl hne
  | cons cell cells => rfl

/-- Whole lines may be scanned for markers before those that follow. -/
theorem scan_markers_append {text : List Char} (h : LineEnded text) (markers : List Marker)
    (passed more : List Char) :
    scan (markers.map .marker) passed (text ++ more) =
      match scan (markers.map .marker) passed text with
      | some hit => some { hit with rest := hit.rest ++ more }
      | none => scan (markers.map .marker) (text.reverse ++ passed) more := by
  refine scan_append passed (Pattern.firstAt?_markers_nil markers) fun i hi => ?_
  refine Pattern.within_markers (h.drop i) (fun hnil => ?_) markers more
  exact Nat.not_le.mpr hi (List.drop_eq_nil_iff.mp hnil)

/-- Behind a hit the lines end as they did. -/
theorem lineEnded_rest {patterns : List Pattern} {passed text : List Char} {hit : Hit}
    (h : LineEnded text) (hscan : scan patterns passed text = some hit) : LineEnded hit.rest := by
  obtain ⟨skipped, rest, n, rfl, -, -, -, -, hrest⟩ := scan_eq_some hscan
  have hdrop : hit.rest = (skipped ++ rest).drop (skipped.length + n) := by
    rw [hrest, List.drop_length_add_append]
  rw [hdrop]
  exact h.drop _

/-- The text of lines. -/
def joinLines (lines : List (List Char)) : List Char :=
  lines.flatMap (· ++ ['\n'])

@[simp] theorem joinLines_nil : joinLines [] = [] := rfl

/-- The next line may be counted among the text before it. -/
theorem append_joinLines_cons (text line : List Char) (rest : List (List Char)) :
    text ++ joinLines (line :: rest) = text ++ (line ++ ['\n']) ++ joinLines rest := by
  rw [joinLines, List.flatMap_cons, ← List.append_assoc, joinLines]

theorem lineEnded_joinLines (lines : List (List Char)) : LineEnded (joinLines lines) := by
  rcases List.eq_nil_or_concat lines with rfl | ⟨front, line, rfl⟩
  · exact .inl rfl
  · rw [joinLines, List.concat_eq_append, List.flatMap_append, List.flatMap_singleton]
    exact lineEnded_line _ _

theorem LineEnded.append {a b : List Char} (ha : LineEnded a) (hb : LineEnded b) :
    LineEnded (a ++ b) := by
  rcases hb with rfl | ⟨front, rfl⟩
  · rwa [List.append_nil]
  · exact lineEnded_line a front

namespace Console

/-- The text that has arrived and is not consumed. -/
def ahead (console : Console) : List Char :=
  console.pending ++ joinLines console.incoming

/-- A console at which lines have arrived one after the other, and markers were looked for. -/
def Lined (console : Console) : Prop :=
  LineEnded console.pending

theorem Lined.ahead {console : Console} (h : console.Lined) : LineEnded console.ahead :=
  LineEnded.append h (lineEnded_joinLines _)

/-- A console after a marker was found: the hit and what follows it. -/
structure Reached (console : Console) (hit : Hit) (next : Console) : Prop where
  ahead : next.ahead = hit.rest
  before : next.before = hit.before
  after : next.after = hit.matched
  isOpen : next.isOpen = console.isOpen
  lined : next.Lined

/-- A console of which everything was searched in vain. -/
structure Exhausted (console next : Console) : Prop where
  incoming : next.incoming = []
  isOpen : next.isOpen = console.isOpen
  lined : next.Lined
  timeout : console.isOpen = true →
    next.ahead = console.ahead ∧ next.before = console.before ∧ next.after = console.after
  endOfOutput : console.isOpen = false →
    next.ahead = [] ∧ next.before = console.ahead ∧ next.after = []

/-- The answer when nothing is found. -/
def vainReply (console : Console) : Reply :=
  if console.isOpen then .timeout else .endOfOutput

theorem rescanFrom_of_some {patterns : List Pattern} {pending : List Char} {hit : Hit}
    (h : scan patterns [] pending = some hit) (console : Console) (lines : List (List Char)) :
    rescanFrom patterns console pending lines =
      (.found hit.index, { console.consume hit with incoming := lines }) := by
  cases lines <;> simp only [rescanFrom, h]

theorem rescanFrom_nil_of_none {patterns : List Pattern} {pending : List Char}
    (h : scan patterns [] pending = none) (console : Console) :
    rescanFrom patterns console pending [] =
      if console.isOpen then (.timeout, { console with incoming := [], pending })
      else (.endOfOutput, { console.finish pending with incoming := [] }) := by
  simp only [rescanFrom, h]

theorem rescanFrom_cons_of_none {patterns : List Pattern} {pending : List Char}
    (h : scan patterns [] pending = none) (console : Console) (line : List Char)
    (rest : List (List Char)) :
    rescanFrom patterns console pending (line :: rest) =
      rescanFrom patterns (console.record line) (pending ++ (line ++ ['\n'])) rest := by
  simp only [rescanFrom, h]

/-- What stands in the lines is found, after as many of them as it takes. -/
theorem rescanFrom_found {markers : List Marker} (console : Console) {pending : List Char}
    {lines : List (List Char)} {hit : Hit} (h : LineEnded pending)
    (hscan : scan (markers.map .marker) [] (pending ++ joinLines lines) = some hit) :
    ∃ next, rescanFrom (markers.map .marker) console pending lines = (.found hit.index, next) ∧
      console.Reached hit next := by
  induction lines generalizing console pending with
  | nil =>
    rw [joinLines_nil, List.append_nil] at hscan
    refine ⟨_, rescanFrom_of_some hscan console [], ⟨?_, rfl, rfl, rfl, ?_⟩⟩
    · exact List.append_nil hit.rest
    · exact lineEnded_rest h hscan
  | cons line rest ih =>
    have hsplit := scan_markers_append h markers [] (joinLines (line :: rest))
    rw [hscan] at hsplit
    cases hfirst : scan (markers.map .marker) [] pending with
    | some found =>
      -- the hit is in the pending text, and the lines not read yet stay where they are
      rw [hfirst] at hsplit
      obtain rfl := Option.some.inj hsplit
      refine ⟨_, rescanFrom_of_some hfirst console _, ⟨rfl, rfl, rfl, rfl, ?_⟩⟩
      exact lineEnded_rest h hfirst
    | none =>
      rw [append_joinLines_cons] at hscan
      obtain ⟨next, heq, hnext⟩ := ih (console.record line) (lineEnded_line pending line) hscan
      refine ⟨next, (rescanFrom_cons_of_none hfirst console line rest).trans heq, ?_⟩
      exact ⟨hnext.ahead, hnext.before, hnext.after, hnext.isOpen, hnext.lined⟩

/-- Where nothing stands in them, all lines are taken in. -/
theorem rescanFrom_vain {markers : List Marker} (console : Console) {pending : List Char}
    {lines : List (List Char)} (h : LineEnded pending)
    (hscan : scan (markers.map .marker) [] (pending ++ joinLines lines) = none) :
    ∃ next, rescanFrom (markers.map .marker) console pending lines = (console.vainReply, next) ∧
      Exhausted { console with pending, incoming := lines } next := by
  induction lines generalizing console pending with
  | nil =>
    have hall : pending ++ joinLines [] = pending := List.append_nil pending
    rw [hall] at hscan
    rw [rescanFrom_nil_of_none hscan, vainReply]
    cases hopen : console.isOpen with
    | true =>
      refine ⟨_, rfl, ⟨rfl, rfl, h, fun _ => ⟨rfl, rfl, rfl⟩, ?_⟩⟩
      simp
    | false =>
      refine ⟨_, rfl, ⟨rfl, hopen, .inl rfl, ?_, fun _ => ⟨rfl, hall.symm, rfl⟩⟩⟩
      simp
  | cons line rest ih =>
    -- markers are not found across a line end, so there is none in what is pending
    have hsplit := scan_markers_append h markers [] (joinLines (line :: rest))
    rw [hscan] at hsplit
    have htext := append_joinLines_cons pending line rest
    cases hfirst : scan (markers.map .marker) [] pending with
    | some found => simp [hfirst] at hsplit
    | none =>
      rw [htext] at hscan
      obtain ⟨next, heq, hnext⟩ := ih (console.record line) (lineEnded_line pending line) hscan
      refine ⟨next, (rescanFrom_cons_of_none hfirst console line rest).trans heq, ?_⟩
      refine ⟨hnext.incoming, hnext.isOpen, hnext.lined, fun hopen => ?_, fun hopen => ?_⟩
      · obtain ⟨hahead, hrest⟩ := hnext.timeout hopen
        exact ⟨hahead.trans htext.symm, hrest⟩
      · obtain ⟨hahead, hbefore, hafter⟩ := hnext.endOfOutput hopen
        exact ⟨hahead, hbefore.trans htext.symm, hafter⟩

theorem brief_markers (markers : List Marker) :
    ∀ pattern ∈ markers.map Pattern.marker, pattern.Brief := by
  intro pattern hpattern
  obtain ⟨m, -, rfl⟩ := List.mem_map.mp hpattern
  exact Pattern.brief_marker m

/-- A marker that stands in what has arrived is found, the leftmost one first. -/
theorem expect_found {markers : List Marker} {console : Console} {hit : Hit} (h : console.Lined)
    (hscan : scan (markers.map .marker) [] console.ahead = some hit) :
    ∃ next, console.expect (markers.map .marker) = (.found hit.index, next) ∧
      console.Reached hit next := by
  rw [expect_eq_rescan (brief_markers markers)]
  exact rescanFrom_found console h hscan

/-- Where no marker stands, all that has arrived is searched. -/
theorem expect_vain {markers : List Marker} {console : Console} (h : console.Lined)
    (hscan : scan (markers.map .marker) [] console.ahead = none) :
    ∃ next, console.expect (markers.map .marker) = (console.vainReply, next) ∧
      console.Exhausted next := by
  rw [expect_eq_rescan (brief_markers markers)]
  exact rescanFrom_vain console h hscan

/-! ## Patterns of one width -/

/-- What comes of searching at once all that has arrived. -/
def SearchesAll (console : Console) (patterns : List Pattern) (text : List Char)
    (answer : Reply × Console) : Prop :=
  match scan patterns [] text with
  | none => answer.1 = console.vainReply
  | some hit => answer.1 = .found hit.index ∧ answer.2.ahead = hit.rest ∧
      answer.2.before = hit.before ∧ answer.2.after = hit.matched

/-- Patterns of one width that is not zero are searched for in all of the lines, as none of them can
be found at the very end. -/
theorem rescanFrom_uniform {patterns : List Pattern} {width : Nat}
    (h : Pattern.Uniform patterns width) (hpos : 0 < width) (console : Console)
    (pending : List Char) (lines : List (List Char)) :
    console.SearchesAll patterns (pending ++ joinLines lines)
      (rescanFrom patterns console pending lines) := by
  induction lines generalizing console pending with
  | nil =>
    rw [joinLines_nil, List.append_nil, SearchesAll]
    cases hscan : scan patterns [] pending with
    | some hit =>
      rw [rescanFrom_of_some hscan]
      exact ⟨rfl, List.append_nil hit.rest, rfl, rfl⟩
    | none =>
      rw [rescanFrom_nil_of_none hscan, vainReply]
      cases console.isOpen <;> rfl
  | cons line rest ih =>
    cases hscan : scan patterns [] pending with
    | some hit =>
      -- the hit in the pending text is the one in the whole text
      rw [rescanFrom_of_some hscan, SearchesAll, scan_append_of_some h hpos hscan]
      exact ⟨rfl, rfl, rfl, rfl⟩
    | none =>
      rw [rescanFrom_cons_of_none hscan, append_joinLines_cons]
      exact ih (console.record line) (pending ++ (line ++ ['\n']))

/-- Brief patterns of one width are found in any pending text as if all were searched at once. -/
theorem expect_uniform {patterns : List Pattern} {width : Nat}
    (h : Pattern.Uniform patterns width) (hpos : 0 < width)
    (hbrief : ∀ pattern ∈ patterns, pattern.Brief) (console : Console) :
    console.SearchesAll patterns console.ahead (console.expect patterns) := by
  rw [expect_eq_rescan hbrief]
  exact rescanFrom_uniform h hpos console console.pending console.incoming

end Console

end Output

end PubSubTrials
