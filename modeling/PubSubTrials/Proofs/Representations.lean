import PubSubTrials.Proofs.Spellings

/-!
# Parameters that choose a data representation

Parameters without the flag of a data representation have it added to their text
(`withRepresentation`). Whether they are without it is decided by what stands between blanks
(`SetApart`), while the words on a command line are read with regard to quotes, and the text that is
added may come to stand under a quote that was left open (`openQuote`).
`words_withRepresentation_iff` says what becomes of the words, and when they are the ones that they
should be (`represented`).

All that is known about reading a text and more behind it comes from one fact: a reader has finished
some words at the end of the text and goes on from a position, and that position is under the quote
which is open there (`wordsFrom_append`). If none is, the text is one of the ways to write the words
that are read from it (`isWrittenAs_words_iff`).
-/

namespace PubSubTrials.Parameters

/-! ## Open quotes -/

/-- The quote that is open behind a character. -/
def turn (mark? : Option Char) (c : Char) : Option Char :=
  match mark? with
  | none => if isQuote c then some c else none
  | some mark => if c = mark then none else some mark

/-- The quote that is open behind a text. -/
def openQuote (mark? : Option Char) (text : List Char) : Option Char :=
  text.foldl turn mark?

theorem turn_of_isQuote {c : Char} (h : isQuote c = true) : turn none c = some c := if_pos h

theorem turn_of_not_isQuote {c : Char} (h : isQuote c = false) : turn none c = none := by
  rw [turn, h, if_neg Bool.false_ne_true]

theorem turn_self (mark : Char) : turn (some mark) mark = none := if_pos rfl

theorem turn_of_ne {mark c : Char} (h : c ≠ mark) : turn (some mark) c = some mark := if_neg h

theorem openQuote_cons (mark? : Option Char) (c : Char) (text : List Char) :
    openQuote mark? (c :: text) = openQuote (turn mark? c) text := rfl

/-- Whether a quote is open behind two texts is a matter of the second one, begun as the first one
ends. -/
theorem openQuote_append (mark? : Option Char) (front back : List Char) :
    openQuote mark? (front ++ back) = openQuote (openQuote mark? front) back :=
  List.foldl_append

/-- The quote that a reader is under. -/
def Position.mark? : Position → Option Char
  | between => none
  | bare _ => none
  | quoted mark _ => some mark

/-- A reader finishes some words at a character and goes on from a position. -/
theorem wordsFrom_cons (position : Position) (c : Char) :
    ∃ done next, Position.mark? next = turn position.mark? c ∧
      ∀ rest, wordsFrom position (c :: rest) = done ++ wordsFrom next rest := by
  cases position with
  | between =>
    simp only [wordsFrom, Position.mark?, turn]
    cases isQuote c with
    | true => exact ⟨[], .quoted c [], rfl, fun rest => rfl⟩
    | false =>
      cases isBlank c with
      | true => exact ⟨[], .between, rfl, fun rest => rfl⟩
      | false => exact ⟨[], .bare [c], rfl, fun rest => rfl⟩
  | bare word =>
    simp only [wordsFrom, Position.mark?, turn]
    cases isQuote c with
    | true => exact ⟨[], .quoted c word, rfl, fun rest => rfl⟩
    | false =>
      cases isBlank c with
      | true => exact ⟨[word.reverse], .between, rfl, fun rest => rfl⟩
      | false => exact ⟨[], .bare (c :: word), rfl, fun rest => rfl⟩
  | quoted mark word =>
    simp only [wordsFrom, Position.mark?, turn]
    by_cases hc : c = mark
    · simp only [if_pos hc]
      exact ⟨[], .bare word, rfl, fun rest => rfl⟩
    · simp only [if_neg hc]
      exact ⟨[], .quoted mark (c :: word), rfl, fun rest => rfl⟩

/-- A reader finishes some words in a text and goes on from a position, whatever follows. -/
theorem wordsFrom_append (position : Position) (text : List Char) :
    ∃ done next, Position.mark? next = openQuote position.mark? text ∧
      ∀ more, wordsFrom position (text ++ more) = done ++ wordsFrom next more := by
  induction text generalizing position with
  | nil => exact ⟨[], position, rfl, fun more => rfl⟩
  | cons c text ih =>
    obtain ⟨first, second, hsecond, hfirst⟩ := wordsFrom_cons position c
    obtain ⟨done, next, hnext, hdone⟩ := ih second
    refine ⟨first ++ done, next, ?_, fun more => ?_⟩
    · rw [hnext, hsecond]
      rfl
    · rw [List.cons_append, hfirst, hdone, List.append_assoc]

/-- Outside quotes a blank sets what follows apart. -/
theorem wordsFrom_blank {position : Position} (h : position.mark? = none) {c : Char}
    (hblank : isBlank c = true) (rest : List Char) :
    wordsFrom position (c :: rest) = wordsFrom position [] ++ wordsFrom .between rest := by
  cases position with
  | between => simp [wordsFrom, isQuote_of_isBlank hblank, hblank]
  | bare word => simp [wordsFrom, isQuote_of_isBlank hblank, hblank]
  | quoted mark word => cases h

/-- Under a quote that is not closed, all that follows goes into the word. -/
theorem wordsFrom_quoted_open {mark : Char} {text : List Char} (h : mark ∉ text)
    (word : List Char) : wordsFrom (.quoted mark word) text = [word.reverse ++ text] := by
  induction text generalizing word with
  | nil => rw [wordsFrom, List.append_nil]
  | cons c text ih =>
    rw [List.mem_cons, not_or] at h
    rw [wordsFrom, if_neg (Ne.symm h.1), ih h.2, List.reverse_cons, List.append_assoc,
      List.singleton_append]

/-- Words behind a text with all its quotes closed are read apart from those in it. -/
theorem wordsFrom_append_blank {text : List Char} (h : openQuote none text = none) {c : Char}
    (hblank : isBlank c = true) (rest : List Char) :
    wordsFrom .between (text ++ c :: rest) =
      wordsFrom .between text ++ wordsFrom .between rest := by
  obtain ⟨done, next, hnext, hdone⟩ := wordsFrom_append .between text
  have htext := hdone []
  rw [List.append_nil] at htext
  rw [hdone, htext, wordsFrom_blank (hnext.trans h) hblank, List.append_assoc]

/-- Only quotes are open. -/
theorem isQuote_of_openQuote {text : List Char} {mark? : Option Char}
    (h : ∀ mark, mark? = some mark → isQuote mark = true) {mark : Char}
    (hopen : openQuote mark? text = some mark) : isQuote mark = true := by
  induction text generalizing mark? with
  | nil => exact h mark hopen
  | cons c text ih =>
    refine ih (fun other hother => ?_) hopen
    unfold turn at hother
    split at hother
    · split at hother
      · rwa [← Option.some.inj hother]
      · cases hother
    · split at hother
      · cases hother
      · rw [← Option.some.inj hother]
        exact h _ rfl

theorem isQuote_of_openQuote_none {text : List Char} {mark : Char}
    (h : openQuote none text = some mark) : isQuote mark = true := by
  have hnone : ∀ other, (none : Option Char) = some other → isQuote other = true := fun _ => nofun
  exact isQuote_of_openQuote hnone h

/-- What stands behind a quote that is left open goes into the last word. -/
theorem wordsFrom_append_open {text more : List Char} (h : openQuote none text ≠ none)
    (hmore : ∀ c ∈ more, isQuote c = false) :
    ∃ words last, wordsFrom .between text = words ++ [last] ∧
      wordsFrom .between (text ++ more) = words ++ [last ++ more] := by
  obtain ⟨mark, hmark⟩ := Option.ne_none_iff_exists'.mp h
  obtain ⟨done, next, hnext, hdone⟩ := wordsFrom_append .between text
  have hquote : isQuote mark = true := isQuote_of_openQuote_none hmark
  have habsent : mark ∉ more := fun hmem => by
    rw [hmore mark hmem] at hquote
    cases hquote
  -- under an open quote a word is begun, and it takes in all that follows
  have hposition : ∃ word, next = .quoted mark word := by
    rw [show Position.between.mark? = none from rfl, hmark] at hnext
    cases next with
    | between => cases hnext
    | bare word => cases hnext
    | quoted mark' word => exact ⟨word, by rw [Option.some.inj hnext]⟩
  obtain ⟨word, rfl⟩ := hposition
  have htext := hdone []
  rw [List.append_nil] at htext
  refine ⟨done, word.reverse, htext, ?_⟩
  rw [hdone, wordsFrom_quoted_open habsent]

/-! ## Closed quotes -/

theorem openQuote_of_plain {text : List Char} (h : ∀ c ∈ text, isQuote c = false) :
    openQuote none text = none := by
  induction text with
  | nil => rfl
  | cons c text ih =>
    obtain ⟨hc, htext⟩ := List.forall_mem_cons.mp h
    rw [openQuote_cons, turn_of_not_isQuote hc, ih htext]

/-- A quote stays open until its own mark comes. -/
theorem openQuote_of_absent {mark : Char} {text : List Char} (h : mark ∉ text) :
    openQuote (some mark) text = some mark := by
  induction text with
  | nil => rfl
  | cons c text ih =>
    rw [List.mem_cons, not_or] at h
    rw [openQuote_cons, turn_of_ne (Ne.symm h.1), ih h.2]

/-- A piece closes the quote that it opens. -/
theorem openQuote_written {piece : Piece} (h : piece.IsSound) :
    openQuote none piece.written = none := by
  cases piece with
  | bare text => exact openQuote_of_plain fun c hc => (h c hc).1
  | quoted mark text =>
    obtain ⟨hmark, htext⟩ := h
    rw [Piece.written, openQuote_cons, turn_of_isQuote hmark, openQuote_append,
      openQuote_of_absent htext, openQuote_cons, turn_self]
    rfl

theorem openQuote_spells {word written : List Char} (h : Spells word written) :
    openQuote none written = none := by
  obtain ⟨pieces, hsound, -, -, rfl⟩ := h
  induction pieces with
  | nil => rfl
  | cons piece pieces ih =>
    obtain ⟨hpiece, hpieces⟩ := List.forall_mem_cons.mp hsound
    rw [List.flatMap_cons, openQuote_append, openQuote_written hpiece, ih hpieces]

theorem openQuote_of_allBlank {blanks : List Char} (h : AllBlank blanks) :
    openQuote none blanks = none :=
  openQuote_of_plain fun c hc => isQuote_of_isBlank (h c hc)

theorem openQuote_joins {words : List (List Char)} {text : List Char} (h : Joins words text) :
    openQuote none text = none := by
  induction h with
  | nothing => rfl
  | word hword hgap _ _ ih =>
    rw [openQuote_append, openQuote_spells hword, openQuote_append, openQuote_of_allBlank hgap, ih]

/-- A text that goes on with a word, of which `start` was read before, and has others behind it. -/
def Finishes (start text : List Char) (words : List (List Char)) : Prop :=
  ∃ (pieces : List Piece) (gap rest : List Char) (others : List (List Char)),
    (∀ piece ∈ pieces, piece.IsSound) ∧ AllBlank gap ∧ (gap = [] → others = []) ∧
    Joins others rest ∧ text = pieces.flatMap Piece.written ++ (gap ++ rest) ∧
    words = (start ++ pieces.flatMap Piece.content) :: others

theorem Finishes.nothing (start : List Char) : Finishes start [] [start] := by
  refine ⟨[], [], [], [], fun _ => nofun, allBlank_nil, fun _ => rfl, .nothing, rfl, ?_⟩
  rw [List.flatMap_nil, List.append_nil]

/-- A word goes on with the content of a piece. -/
theorem Finishes.piece {start text : List Char} {words : List (List Char)} {piece : Piece}
    (hsound : piece.IsSound) (h : Finishes (start ++ piece.content) text words) :
    Finishes start (piece.written ++ text) words := by
  obtain ⟨pieces, gap, rest, others, hpieces, hgap, hlast, hjoins, rfl, rfl⟩ := h
  refine ⟨piece :: pieces, gap, rest, others, List.forall_mem_cons.mpr ⟨hsound, hpieces⟩, hgap,
    hlast, hjoins, ?_, ?_⟩
  · rw [List.flatMap_cons, List.append_assoc]
  · rw [List.flatMap_cons, List.append_assoc]

/-- A word starts with a piece that has characters or quotes. -/
theorem Finishes.joins {text : List Char} {words : List (List Char)} {piece : Piece}
    (hsound : piece.IsSound)
    (hbegins : piece.content = [] → ∃ mark inside, piece = .quoted mark inside)
    (h : Finishes piece.content text words) : Joins words (piece.written ++ text) := by
  obtain ⟨pieces, gap, rest, others, hpieces, hgap, hlast, hjoins, rfl, rfl⟩ := h
  rw [← List.append_assoc, ← List.flatMap_cons, ← List.flatMap_cons]
  refine .word ⟨piece :: pieces, List.forall_mem_cons.mpr ⟨hsound, hpieces⟩, fun hword => ?_, rfl,
    rfl⟩ hgap hlast hjoins
  rw [List.flatMap_cons, List.append_eq_nil_iff] at hword
  obtain ⟨mark, inside, rfl⟩ := hbegins hword.1
  exact ⟨mark, inside, List.mem_cons_self⟩

/-- Text with closed quotes that spells words from a position of its reader on. -/
def GoesOn : Position → List Char → List (List Char) → Prop
  | .between, text, words =>
    ∃ leading rest, AllBlank leading ∧ Joins words rest ∧ text = leading ++ rest
  | .bare word, text, words => Finishes word.reverse text words
  | .quoted mark word, text, words =>
    ∃ inside rest, mark ∉ inside ∧ text = inside ++ mark :: rest ∧
      Finishes (word.reverse ++ inside) rest words

section

variable {c mark : Char} {word text : List Char} {words : List (List Char)}

theorem isSound_bare_singleton (hquote : isQuote c = false) (hblank : isBlank c = false) :
    (Piece.bare [c]).IsSound :=
  List.forall_mem_cons.mpr ⟨⟨hquote, hblank⟩, fun _ => nofun⟩

theorem GoesOn.quote_between (hquote : isQuote c = true) (h : GoesOn (.quoted c []) text words) :
    GoesOn .between (c :: text) words := by
  obtain ⟨inside, rest, habsent, rfl, hrest⟩ := h
  have hsound : (Piece.quoted c inside).IsSound := ⟨hquote, habsent⟩
  have hjoins := Finishes.joins hsound (fun _ => ⟨c, inside, rfl⟩) hrest
  refine ⟨[], _, allBlank_nil, hjoins, ?_⟩
  rw [Piece.written, List.cons_append, List.append_assoc, List.nil_append, List.singleton_append]

theorem GoesOn.blank_between (hblank : isBlank c = true) (h : GoesOn .between text words) :
    GoesOn .between (c :: text) words := by
  obtain ⟨leading, rest, hleading, hjoins, rfl⟩ := h
  exact ⟨c :: leading, rest, List.forall_mem_cons.mpr ⟨hblank, hleading⟩, hjoins, rfl⟩

theorem GoesOn.plain_between (hquote : isQuote c = false) (hblank : isBlank c = false)
    (h : GoesOn (.bare [c]) text words) : GoesOn .between (c :: text) words :=
  ⟨[], _, allBlank_nil, Finishes.joins (isSound_bare_singleton hquote hblank) nofun h, rfl⟩

theorem GoesOn.quote_bare (hquote : isQuote c = true) (h : GoesOn (.quoted c word) text words) :
    GoesOn (.bare word) (c :: text) words := by
  obtain ⟨inside, rest, habsent, rfl, hrest⟩ := h
  have hsound : (Piece.quoted c inside).IsSound := ⟨hquote, habsent⟩
  have hpiece := Finishes.piece hsound hrest
  rwa [Piece.written, List.cons_append, List.append_assoc, List.singleton_append] at hpiece

theorem GoesOn.blank_bare (hblank : isBlank c = true) (h : GoesOn .between text words) :
    GoesOn (.bare word) (c :: text) (word.reverse :: words) := by
  obtain ⟨leading, rest, hleading, hjoins, rfl⟩ := h
  refine ⟨[], c :: leading, rest, words, fun _ => nofun,
    List.forall_mem_cons.mpr ⟨hblank, hleading⟩, nofun, hjoins, rfl, ?_⟩
  rw [List.flatMap_nil, List.append_nil]

theorem GoesOn.plain_bare (hquote : isQuote c = false) (hblank : isBlank c = false)
    (h : GoesOn (.bare (c :: word)) text words) : GoesOn (.bare word) (c :: text) words := by
  rw [GoesOn, List.reverse_cons] at h
  exact Finishes.piece (isSound_bare_singleton hquote hblank) h

theorem GoesOn.close (h : GoesOn (.bare word) text words) :
    GoesOn (.quoted mark word) (mark :: text) words :=
  ⟨[], text, List.not_mem_nil, rfl, by rwa [List.append_nil]⟩

theorem GoesOn.keep (hne : c ≠ mark) (h : GoesOn (.quoted mark (c :: word)) text words) :
    GoesOn (.quoted mark word) (c :: text) words := by
  obtain ⟨inside, rest, habsent, rfl, hrest⟩ := h
  rw [List.reverse_cons, List.append_assoc, List.singleton_append] at hrest
  exact ⟨c :: inside, rest, List.not_mem_cons_of_ne_of_not_mem (Ne.symm hne) habsent, rfl, hrest⟩

end

/-- If all quotes come to be closed, a text spells the words that are read from it. -/
theorem goesOn_wordsFrom {position : Position} {text : List Char}
    (h : openQuote position.mark? text = none) :
    GoesOn position text (wordsFrom position text) := by
  -- what is open behind the first character is what the reader goes on under
  fun_induction wordsFrom position text with
  | case1 => exact ⟨[], [], allBlank_nil, .nothing, rfl⟩
  | case2 word => exact Finishes.nothing word.reverse
  | case3 mark word => cases h
  | case4 c rest hquote ih =>
    rw [Position.mark?, openQuote_cons, turn_of_isQuote hquote] at h
    exact .quote_between hquote (ih h)
  | case5 c rest hquote hblank ih =>
    rw [Bool.not_eq_true] at hquote
    rw [Position.mark?, openQuote_cons, turn_of_not_isQuote hquote] at h
    exact .blank_between hblank (ih h)
  | case6 c rest hquote hblank ih =>
    rw [Bool.not_eq_true] at hquote hblank
    rw [Position.mark?, openQuote_cons, turn_of_not_isQuote hquote] at h
    exact .plain_between hquote hblank (ih h)
  | case7 word c rest hquote ih =>
    rw [Position.mark?, openQuote_cons, turn_of_isQuote hquote] at h
    exact .quote_bare hquote (ih h)
  | case8 word c rest hquote hblank ih =>
    rw [Bool.not_eq_true] at hquote
    rw [Position.mark?, openQuote_cons, turn_of_not_isQuote hquote] at h
    exact .blank_bare hblank (ih h)
  | case9 word c rest hquote hblank ih =>
    rw [Bool.not_eq_true] at hquote hblank
    rw [Position.mark?, openQuote_cons, turn_of_not_isQuote hquote] at h
    exact .plain_bare hquote hblank (ih h)
  | case10 mark word rest ih =>
    rw [Position.mark?, openQuote_cons, turn_self] at h
    exact .close (ih h)
  | case11 mark word c rest hne ih =>
    rw [Position.mark?, openQuote_cons, turn_of_ne hne] at h
    exact .keep hne (ih h)

/-- Parameters are one of the ways to write their words just if all their quotes are closed. -/
theorem isWrittenAs_words_iff {parameters : String} :
    IsWrittenAs (words parameters) parameters ↔ openQuote none parameters.toList = none := by
  constructor
  · rintro ⟨leading, text, hleading, hjoins, htext⟩
    rw [htext, openQuote_append, openQuote_of_allBlank hleading, openQuote_joins hjoins]
  · intro h
    obtain ⟨leading, text, hleading, hjoins, htext⟩ := @goesOn_wordsFrom .between _ h
    have hsame : String.toList ∘ String.ofList = id := funext fun _ => String.toList_ofList
    refine ⟨leading, text, hleading, ?_, htext⟩
    rwa [words, List.map_map, hsame, List.map_id]

/-! ## Words between blanks -/

/-- A text that ends in a blank, or nothing, has a word set apart behind it. -/
def EndsInBlank (front : List Char) : Prop :=
  front = [] ∨ ∃ earlier b, isBlank b = true ∧ front = earlier ++ [b]

/-- A text that starts with a blank, or nothing, has a word set apart in front of it. -/
def StartsWithBlank (back : List Char) : Prop :=
  back = [] ∨ ∃ b later, isBlank b = true ∧ back = b :: later

/-- A word stands in a text between blanks or ends of the text, whatever quotes there are. -/
def SetApart (word text : List Char) : Prop :=
  ∃ front back, text = front ++ (word ++ back) ∧
    EndsInBlank front ∧ StartsWithBlank back

/-- A piece of a text goes up to the first blank. -/
theorem eq_of_append_blank {piece other rest later : List Char} {b c : Char}
    (hpiece : ∀ d ∈ piece, isBlank d = false) (hother : ∀ d ∈ other, isBlank d = false)
    (hb : isBlank b = true) (hc : isBlank c = true) (h : piece ++ b :: rest = other ++ c :: later) :
    piece = other := by
  have htake := congrArg (List.takeWhile fun d => !isBlank d) h
  rw [List.takeWhile_append_of_pos (fun d hd => by rw [hpiece d hd]; rfl),
    List.takeWhile_append_of_pos (fun d hd => by rw [hother d hd]; rfl),
    List.takeWhile_cons_of_neg (by simp [hb]), List.takeWhile_cons_of_neg (by simp [hc])] at htake
  simpa using htake

section

variable {word : List Char}

/-- A text without blanks sets apart itself only. -/
theorem setApart_plain {text : List Char} (htext : ∀ c ∈ text, isBlank c = false) :
    SetApart word text ↔ word = text := by
  constructor
  · rintro ⟨front, back, rfl, rfl | ⟨earlier, b, hb, rfl⟩, hback⟩
    · rcases hback with rfl | ⟨b, later, hb, rfl⟩
      · rw [List.nil_append, List.append_nil]
      · rw [htext b (by simp)] at hb
        cases hb
    · rw [htext b (by simp)] at hb
      cases hb
  · rintro rfl
    exact ⟨[], [], by rw [List.nil_append, List.append_nil], .inl rfl, .inl rfl⟩

/-- A blank ends what stands before it and sets apart what stands behind it. -/
theorem setApart_append_blank (hword : ∀ c ∈ word, isBlank c = false) {piece : List Char}
    (hpiece : ∀ c ∈ piece, isBlank c = false) {b : Char} (hb : isBlank b = true)
    (rest : List Char) :
    SetApart word (piece ++ b :: rest) ↔ word = piece ∨ SetApart word rest := by
  constructor
  · rintro ⟨front, back, htext, rfl | ⟨earlier, c, hc, rfl⟩, hback⟩
    · rcases hback with rfl | ⟨c, later, hc, rfl⟩
      · rw [List.nil_append, List.append_nil] at htext
        rw [hword b (htext ▸ by simp)] at hb
        cases hb
      · -- the word begins here, so it is the piece in front of the blank
        exact .inl (eq_of_append_blank hword hpiece hc hb htext.symm)
    · -- the blank in front of the word is this one or a later one
      rw [List.append_assoc, List.singleton_append] at htext
      refine .inr ?_
      rcases List.append_eq_append_iff.mp htext with ⟨more, rfl, hrest⟩ | ⟨more, rfl, hrest⟩
      · cases more with
        | nil => exact ⟨[], back, (List.cons.inj hrest).2, .inl rfl, hback⟩
        | cons d more =>
          obtain ⟨rfl, rfl⟩ := List.cons.inj hrest
          exact ⟨more ++ [c], back, by simp, .inr ⟨more, c, hc, rfl⟩, hback⟩
      · cases more with
        | nil => exact ⟨[], back, (List.cons.inj hrest).2.symm, .inl rfl, hback⟩
        | cons d more =>
          obtain ⟨rfl, -⟩ := List.cons.inj hrest
          rw [hpiece c (by simp)] at hc
          cases hc
  · rintro (rfl | ⟨front, back, rfl, hfront, hback⟩)
    · exact ⟨[], b :: rest, rfl, .inl rfl, .inr ⟨b, rest, hb, rfl⟩⟩
    · refine ⟨piece ++ b :: front, back, by simp, .inr ?_, hback⟩
      rcases hfront with rfl | ⟨earlier, c, hc, rfl⟩
      · exact ⟨piece, b, hb, rfl⟩
      · exact ⟨piece ++ b :: earlier, c, hc, by simp⟩

/-- The pieces of a text are the words that are set apart in it. -/
theorem mem_piecesFrom_iff (hne : word ≠ []) (hword : ∀ c ∈ word, isBlank c = false)
    {piece text : List Char} (hpiece : ∀ c ∈ piece, isBlank c = false) :
    word ∈ piecesFrom piece text ↔ SetApart word (piece.reverse ++ text) := by
  induction text generalizing piece with
  | nil =>
    have hreverse : ∀ c ∈ piece.reverse, isBlank c = false := fun c hc =>
      hpiece c (List.mem_reverse.mp hc)
    rw [piecesFrom, List.append_nil, setApart_plain hreverse]
    cases piece with
    | nil => simpa using hne
    | cons c piece => simp
  | cons c text ih =>
    rw [piecesFrom]
    cases hblank : isBlank c with
    | true =>
      have hreverse : ∀ c ∈ piece.reverse, isBlank c = false := fun c hc =>
        hpiece c (List.mem_reverse.mp hc)
      rw [setApart_append_blank hword hreverse hblank, if_pos rfl]
      have hrest := @ih [] (fun _ => nofun)
      cases piece with
      | nil => simpa [hne] using hrest
      | cons d piece => simpa using or_congr Iff.rfl hrest
    | false =>
      have hnext := @ih (c :: piece) (List.forall_mem_cons.mpr ⟨hblank, hpiece⟩)
      rw [List.reverse_cons, List.append_assoc, List.singleton_append] at hnext
      rwa [if_neg Bool.false_ne_true]

/-- A word without quotes that is set apart outside of quotes is read. -/
theorem mem_wordsFrom_of_outside (hne : word ≠ [])
    (hword : ∀ c ∈ word, isQuote c = false ∧ isBlank c = false) {front back : List Char}
    (hclosed : openQuote none front = none)
    (hfront : EndsInBlank front) (hback : StartsWithBlank back) :
    word ∈ wordsFrom .between (front ++ (word ++ back)) := by
  have hspells : Spells word word :=
    ⟨[.bare word], by simpa [Piece.IsSound] using hword, fun hnil => absurd hnil hne,
      by simp [Piece.content], by simp [Piece.written]⟩
  have hhere : word ∈ wordsFrom .between (word ++ back) := by
    rw [wordsFrom_between_spells hspells]
    rcases hback with rfl | ⟨b, later, hb, rfl⟩
    · simp [wordsFrom]
    · rw [wordsFrom_blank rfl hb]
      simp [wordsFrom]
  rcases hfront with rfl | ⟨earlier, b, hb, rfl⟩
  · exact hhere
  · -- a blank closes no quote, so none is open in front of it either
    have hearlier : openQuote none earlier = none := by
      cases hopen : openQuote none earlier with
      | none => rfl
      | some mark =>
        have hquote : isQuote mark = true := isQuote_of_openQuote_none hopen
        have hother : b ≠ mark := by
          rintro rfl
          rw [isQuote_of_isBlank hb] at hquote
          cases hquote
        rw [openQuote_append, hopen, openQuote_cons, turn_of_ne hother] at hclosed
        cases hclosed
    rw [List.append_assoc, List.singleton_append, wordsFrom_append_blank hearlier hb]
    exact List.mem_append_right _ hhere

end

/-- Where there are no quotes, words are what stands between blanks. -/
theorem wordsFrom_eq_piecesFrom {text : List Char} (h : ∀ c ∈ text, isQuote c = false) :
    wordsFrom .between text = piecesFrom [] text ∧
      ∀ word ≠ [], wordsFrom (.bare word) text = piecesFrom word text := by
  induction text with
  | nil =>
    refine ⟨rfl, fun word hne => ?_⟩
    rw [wordsFrom, piecesFrom, List.isEmpty_eq_false_iff.mpr hne, if_neg Bool.false_ne_true]
  | cons c text ih =>
    obtain ⟨hc, htext⟩ := List.forall_mem_cons.mp h
    obtain ⟨hbetween, hbare⟩ := ih htext
    refine ⟨?_, fun word hne => ?_⟩
    · rw [wordsFrom, piecesFrom, hc, if_neg Bool.false_ne_true, hbetween,
        hbare [c] (List.cons_ne_nil c [])]
      rfl
    · rw [wordsFrom, piecesFrom, hc, if_neg Bool.false_ne_true, hbetween,
        hbare (c :: word) (List.cons_ne_nil c word), List.isEmpty_eq_false_iff.mpr hne,
        if_neg Bool.false_ne_true]

/-! ## The data representation -/

/-- The words of parameters, and a choice of the second data representation if they have none. -/
def represented (words : List String) : List String :=
  if representationFlag ∈ words then words else words ++ [representationFlag, "2"]

/-- Whether parameters hold the flag of a data representation between blanks. -/
def Mentions (parameters : String) : Prop :=
  SetApart representationFlag.toList parameters.toList

theorem plain_representationFlag :
    ∀ c ∈ representationFlag.toList, isQuote c = false ∧ isBlank c = false := by
  simp [representationFlag, isQuote, isBlank]

theorem mem_words_iff {word parameters : String} :
    word ∈ words parameters ↔ word.toList ∈ wordsFrom .between parameters.toList := by
  rw [words, List.mem_map]
  constructor
  · rintro ⟨chars, hmem, rfl⟩
    rwa [String.toList_ofList]
  · intro h
    exact ⟨_, h, String.ofList_toList⟩

/-- The pieces looked through for the flag hold it when the parameters mention it. -/
theorem contains_piecesFrom_iff {parameters : String} :
    (piecesFrom [] parameters.toList).contains representationFlag.toList = true ↔
      Mentions parameters := by
  have hpiece : ∀ c ∈ ([] : List Char), isBlank c = false := fun _ => nofun
  rw [List.contains_iff_mem, Mentions]
  exact mem_piecesFrom_iff (by decide) (fun c hc => (plain_representationFlag c hc).2) hpiece

theorem withRepresentation_of_mentions {parameters : String} (h : Mentions parameters) :
    withRepresentation parameters = parameters := by
  rw [withRepresentation, if_pos (contains_piecesFrom_iff.mpr h)]

/-- Parameters that do not mention the flag have it put behind them. -/
theorem toList_withRepresentation {parameters : String} (h : ¬ Mentions parameters) :
    (withRepresentation parameters).toList =
      parameters.toList ++ ' ' :: (representationFlag.toList ++ " 2".toList) := by
  rw [withRepresentation, if_neg fun hcontains => h (contains_piecesFrom_iff.mp hcontains),
    String.toList_append, String.toList_append, String.toList_append, List.append_assoc,
    List.append_assoc]
  rfl

theorem words_of_closed {parameters : String} (h : ¬ Mentions parameters)
    (hclosed : IsWrittenAs (words parameters) parameters) :
    words (withRepresentation parameters) = words parameters ++ [representationFlag, "2"] := by
  rw [words, toList_withRepresentation h,
    wordsFrom_append_blank (isWrittenAs_words_iff.mp hclosed) rfl, List.map_append]
  rfl

theorem words_of_open {parameters : String} (h : ¬ Mentions parameters)
    (hopen : ¬ IsWrittenAs (words parameters) parameters) :
    ∃ earlier last, words parameters = earlier ++ [last] ∧
      words (withRepresentation parameters) = earlier ++ [last ++ " -x 2"] := by
  have hquote : openQuote none parameters.toList ≠ none := fun hnone =>
    hopen (isWrittenAs_words_iff.mpr hnone)
  have hplain : ∀ c ∈ ' ' :: (representationFlag.toList ++ " 2".toList), isQuote c = false := by
    simp [representationFlag, isQuote]
  obtain ⟨earlier, last, hwords, hmore⟩ := wordsFrom_append_open hquote hplain
  refine ⟨earlier.map String.ofList, String.ofList last, ?_, ?_⟩
  · rw [words, hwords, List.map_append, List.map_singleton]
  · rw [words, toList_withRepresentation h, hmore, List.map_append, List.map_singleton,
      String.ofList_append]
    rfl

instance (parameters : String) : Decidable (Mentions parameters) :=
  decidable_of_iff _ contains_piecesFrom_iff

instance (parameters : String) : Decidable (IsWrittenAs (words parameters) parameters) :=
  decidable_of_iff _ isWrittenAs_words_iff.symm

theorem represented_of_mem {words : List String} (h : representationFlag ∈ words) :
    represented words = words := if_pos h

theorem represented_of_not_mem {words : List String} (h : representationFlag ∉ words) :
    represented words = words ++ [representationFlag, "2"] := if_neg h

/-- Parameters end up with a data representation just if the flag is or is not in them for both
readers, and if no open quote is in the way of adding it. -/
theorem words_eq_represented_iff {parameters : String} :
    words (withRepresentation parameters) = represented (words parameters) ↔
      (representationFlag ∈ words parameters ∧ Mentions parameters) ∨
      (representationFlag ∉ words parameters ∧ ¬ Mentions parameters ∧
        IsWrittenAs (words parameters) parameters) := by
  by_cases hmentions : Mentions parameters
  · rw [withRepresentation_of_mentions hmentions]
    by_cases hflag : representationFlag ∈ words parameters
    · simp [represented_of_mem hflag, hflag, hmentions]
    · simp [represented_of_not_mem hflag, hflag, hmentions]
  · by_cases hclosed : IsWrittenAs (words parameters) parameters
    · rw [words_of_closed hmentions hclosed]
      by_cases hflag : representationFlag ∈ words parameters
      · simp [represented_of_mem hflag, hflag, hmentions]
      · simp [represented_of_not_mem hflag, hflag, hmentions, hclosed]
    · -- the last word has grown, so the words are neither the old ones nor more of them
      obtain ⟨earlier, last, hwords, hmore⟩ := words_of_open hmentions hclosed
      refine iff_of_false (fun heq => ?_) (by simp [hmentions, hclosed])
      rw [hmore] at heq
      by_cases hflag : representationFlag ∈ words parameters
      · rw [represented_of_mem hflag, hwords] at heq
        simp at heq
      · rw [represented_of_not_mem hflag, hwords] at heq
        have hlength := congrArg List.length heq
        simp at hlength

/-- A flag set apart by blanks outside of quotes is both a word and mentioned. -/
theorem mem_words_of_outside {parameters : String} {front back : List Char}
    (htext : parameters.toList = front ++ (representationFlag.toList ++ back))
    (hclosed : openQuote none front = none)
    (hfront : EndsInBlank front) (hback : StartsWithBlank back) :
    representationFlag ∈ words parameters ∧ Mentions parameters := by
  rw [mem_words_iff, htext]
  exact ⟨mem_wordsFrom_of_outside (by decide) plain_representationFlag hclosed hfront hback,
    front, back, htext, hfront, hback⟩

/-- Without quotes both readers see the same words. -/
theorem agree_of_no_quotes {parameters : String}
    (h : ∀ c ∈ parameters.toList, isQuote c = false) :
    (representationFlag ∈ words parameters ↔ Mentions parameters) ∧
      IsWrittenAs (words parameters) parameters := by
  refine ⟨?_, isWrittenAs_words_iff.mpr (openQuote_of_plain h)⟩
  rw [mem_words_iff, (wordsFrom_eq_piecesFrom h).1, ← List.contains_iff_mem,
    contains_piecesFrom_iff]

/-- What becomes of the words of parameters when a data representation is added to them. A flag
between blanks keeps it from being added, also in quotes; otherwise flag and value are two more
words behind closed quotes, but under an open quote they go on with the last word. So parameters end
up with a representation just if the flag is a word of them and stands between blanks, or is none,
stands nowhere between blanks, and all quotes are closed. That is so for all parameters without
quotes, and for all in which the flag stands between blanks outside of quotes. -/
theorem words_withRepresentation_iff (parameters : String) :
    (Mentions parameters → words (withRepresentation parameters) = words parameters) ∧
    (¬ Mentions parameters → IsWrittenAs (words parameters) parameters →
      words (withRepresentation parameters) =
        words parameters ++ [representationFlag, "2"]) ∧
    (¬ Mentions parameters → ¬ IsWrittenAs (words parameters) parameters →
      ∃ earlier last, words parameters = earlier ++ [last] ∧
        words (withRepresentation parameters) = earlier ++ [last ++ " -x 2"]) ∧
    (words (withRepresentation parameters) = represented (words parameters) ↔
      (representationFlag ∈ words parameters ∧ Mentions parameters) ∨
      (representationFlag ∉ words parameters ∧ ¬ Mentions parameters ∧
        IsWrittenAs (words parameters) parameters)) ∧
    ((∀ c ∈ parameters.toList, isQuote c = false) →
      words (withRepresentation parameters) = represented (words parameters)) ∧
    ∀ front back, parameters.toList = front ++ (representationFlag.toList ++ back) →
      openQuote none front = none →
      EndsInBlank front → StartsWithBlank back →
      words (withRepresentation parameters) = represented (words parameters) := by
  refine ⟨fun h => by rw [withRepresentation_of_mentions h], words_of_closed, words_of_open,
    words_eq_represented_iff, fun h => ?_, fun front back htext hclosed hfront hback => ?_⟩
  · obtain ⟨hagree, hwritten⟩ := agree_of_no_quotes h
    rw [words_eq_represented_iff]
    by_cases hmentions : Mentions parameters
    · exact .inl ⟨hagree.mpr hmentions, hmentions⟩
    · exact .inr ⟨fun hmem => hmentions (hagree.mp hmem), hmentions, hwritten⟩
  · rw [words_eq_represented_iff]
    exact .inl (mem_words_of_outside htext hclosed hfront hback)

/-- A flag in quotes, closed quotes, open quotes, no quotes, and a flag behind quotes. -/
theorem words_withRepresentation_iff_partitions :
    (Mentions "-p 'a -x b'" ∧
      words (withRepresentation "-p 'a -x b'") = words "-p 'a -x b'") ∧
    (¬ Mentions "-p 'a b'" ∧ IsWrittenAs (words "-p 'a b'") "-p 'a b'" ∧
      words (withRepresentation "-p 'a b'") = ["-p", "a b", "-x", "2"]) ∧
    (¬ IsWrittenAs (words "-p 'a b") "-p 'a b" ∧
      ∃ earlier last, words "-p 'a b" = earlier ++ [last] ∧
        words (withRepresentation "-p 'a b") = earlier ++ [last ++ " -x 2"]) ∧
    words (withRepresentation "-t Square") = represented (words "-t Square") ∧
    words (withRepresentation "-p ' -x' -x 1") = represented (words "-p ' -x' -x 1") := by
  obtain ⟨hmentioned, -⟩ := words_withRepresentation_iff "-p 'a -x b'"
  obtain ⟨-, hclosed, -⟩ := words_withRepresentation_iff "-p 'a b'"
  obtain ⟨-, -, hopen, -⟩ := words_withRepresentation_iff "-p 'a b"
  obtain ⟨-, -, -, -, hplain, -⟩ := words_withRepresentation_iff "-t Square"
  obtain ⟨-, -, -, -, -, houtside⟩ := words_withRepresentation_iff "-p ' -x' -x 1"
  have hmentions : Mentions "-p 'a -x b'" := by decide +kernel
  have habsent : ¬ Mentions "-p 'a b'" := by decide +kernel
  have hwritten : IsWrittenAs (words "-p 'a b'") "-p 'a b'" := by decide +kernel
  have hbroken : ¬ IsWrittenAs (words "-p 'a b") "-p 'a b" := by decide +kernel
  refine ⟨⟨hmentions, hmentioned hmentions⟩, ⟨habsent, hwritten, hclosed habsent hwritten⟩,
    ⟨hbroken, hopen (by decide +kernel) hbroken⟩, hplain (by simp [isQuote]), ?_⟩
  exact houtside "-p ' -x' ".toList " 1".toList (by decide +kernel) (by decide +kernel)
    (.inr ⟨"-p ' -x'".toList, ' ', rfl, by decide +kernel⟩)
    (.inr ⟨' ', ['1'], rfl, by decide +kernel⟩)

/-- In quotes a flag between blanks is no word and yet keeps the representation from being added; a
flag that is written in quotes does not; and an open quote takes in what is added. -/
theorem words_withRepresentation_ne_represented :
    (words (withRepresentation "-t Square -p \"a -x b\"") = ["-t", "Square", "-p", "a -x b"] ∧
      represented (words "-t Square -p \"a -x b\"") =
        ["-t", "Square", "-p", "a -x b", "-x", "2"]) ∧
    (words (withRepresentation "-t Square \"-x\" 1") = ["-t", "Square", "-x", "1", "-x", "2"] ∧
      represented (words "-t Square \"-x\" 1") = ["-t", "Square", "-x", "1"]) ∧
    (words (withRepresentation "-t Square -p \"p1") = ["-t", "Square", "-p", "p1 -x 2"] ∧
      represented (words "-t Square -p \"p1") = ["-t", "Square", "-p", "p1", "-x", "2"]) := by
  decide +kernel

end PubSubTrials.Parameters
