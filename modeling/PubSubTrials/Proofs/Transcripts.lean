import PubSubTrials.Proofs.Conservation
import PubSubTrials.Proofs.Earliest

/-!
# What a transcript shows

A transcript shows the longest end of the text received that fits into `Transcript.capacity` bytes
(`Transcript.IsRecent`). It keeps up to twice as much and gives the rest up now and then; that this
is never too much is the invariant `Transcript.Keeps`.

The rule may also be read as an instruction: after every line, cut the text at the first boundary of
a character behind which there are at most `capacity` bytes (`Transcript.trim`). A cut that comes
late because of a wide character gives up some more bytes than it has to, but none that could be
shown later: cutting line by line comes to the same as looking at the whole text
(`foldl_pushTrimmed`). A console shows the same however its lines are told apart, and whatever is
looked for meanwhile (`Console.isRecent_iff_of_run`).
-/

namespace PubSubTrials.Output

namespace Transcript

/-! ## The longest start that fits -/

theorem isPrefix_fitting (room : Nat) (text : List Char) : fitting room text <+: text := by
  induction text generalizing room with
  | nil => exact List.prefix_rfl
  | cons c rest ih =>
    unfold fitting
    split
    · exact List.cons_prefix_cons.mpr ⟨rfl, ih _⟩
    · exact List.nil_prefix

theorem byteLength_fitting_le (room : Nat) (text : List Char) :
    Text.byteLength (fitting room text) ≤ room := by
  induction text generalizing room with
  | nil => exact Nat.zero_le _
  | cons c rest ih =>
    unfold fitting
    split
    · have hrest := ih (room - c.utf8Size)
      rw [Text.byteLength_cons]
      omega
    · exact Nat.zero_le _

/-- Nothing longer fits. -/
theorem longest_fitting {room : Nat} {text start : List Char} (h : start <+: text)
    (hfits : Text.byteLength start ≤ room) : start <+: fitting room text := by
  induction text generalizing room start with
  | nil => exact h
  | cons c rest ih =>
    rcases List.prefix_cons_iff.mp h with rfl | ⟨more, rfl, hmore⟩
    · exact List.nil_prefix
    · rw [Text.byteLength_cons] at hfits
      have hc : c.utf8Size ≤ room := by omega
      unfold fitting
      rw [if_pos hc]
      exact List.cons_prefix_cons.mpr ⟨rfl, ih hmore (by omega)⟩

/-! ## The end of a text -/

/-- The longest end of a text that fits into a transcript. -/
structure IsRecent (text shown : List Char) : Prop where
  suffix : shown <:+ text
  fits : Text.byteLength shown ≤ capacity
  longest : ∀ other, other <:+ text → Text.byteLength other ≤ capacity → other <:+ shown

theorem IsRecent.unique {text shown other : List Char} (h : IsRecent text shown)
    (hother : IsRecent text other) : shown = other := by
  have hforth : shown <:+ other := hother.longest shown h.suffix h.fits
  have hback : other <:+ shown := h.longest other hother.suffix hother.fits
  exact hforth.eq_of_length (Nat.le_antisymm hforth.length_le hback.length_le)

/-- The longest suffix is found by fitting the text in from its end. -/
theorem isRecent_fitting (text : List Char) :
    IsRecent text (fitting capacity text.reverse).reverse where
  suffix := by
    rw [← List.reverse_prefix, List.reverse_reverse]
    exact isPrefix_fitting capacity text.reverse
  fits := by
    rw [Text.byteLength_reverse]
    exact byteLength_fitting_le capacity text.reverse
  longest other hsuffix hfits := by
    rw [← List.reverse_prefix, List.reverse_reverse]
    exact longest_fitting (List.reverse_prefix.mpr hsuffix) (by rwa [Text.byteLength_reverse])

/-! ## Cutting line by line -/

/-- The characters that a text loses at its start when it is cut: the fewest that hold the bytes
which are too many. -/
def surplus (text : List Char) : Nat :=
  Window.charsHolding (Text.byteLength text - capacity) text

/-- A text that is cut so that it fits into a transcript. -/
def trim (text : List Char) : List Char :=
  text.drop (surplus text)

/-- A text with one more line, cut so that it fits into a transcript. -/
def pushTrimmed (text line : List Char) : List Char :=
  trim (text ++ (line ++ ['\n']))

/-- A start that holds some bytes has at least as many characters as it takes to hold them. -/
theorem charsHolding_le_length {bytes : Nat} {front : List Char}
    (h : bytes ≤ Text.byteLength front) (back : List Char) :
    Window.charsHolding bytes (front ++ back) ≤ front.length := by
  induction front generalizing bytes with
  | nil =>
    obtain rfl : bytes = 0 := Nat.le_zero.mp h
    rw [Window.charsHolding]
    exact Nat.zero_le _
  | cons c rest ih =>
    cases bytes with
    | zero =>
      rw [Window.charsHolding]
      exact Nat.zero_le _
    | succ bytes =>
      rw [Text.byteLength_cons] at h
      have hrest := @ih (bytes + 1 - c.utf8Size) (by omega)
      rw [List.cons_append, Window.charsHolding, List.length_cons]
      omega

/-- No more is left out than stands in front of a suffix that fits. -/
theorem surplus_le_length {front back : List Char} (h : Text.byteLength back ≤ capacity) :
    surplus (front ++ back) ≤ front.length := by
  apply charsHolding_le_length
  rw [Text.byteLength_append]
  omega

/-- The fewest characters that hold some bytes do hold them, if the text has that many. -/
theorem le_byteLength_take_charsHolding {bytes : Nat} {text : List Char}
    (h : bytes ≤ Text.byteLength text) :
    bytes ≤ Text.byteLength (text.take (Window.charsHolding bytes text)) := by
  rcases Window.le_byteLength_charsHolding bytes text with hall | hbytes
  · rwa [hall, List.take_length]
  · exact hbytes

/-- Trimming leaves the longest suffix that fits. -/
theorem isRecent_trim (text : List Char) : IsRecent text (trim text) where
  suffix := List.drop_suffix _ _
  fits := by
    have hcut : Text.byteLength text - capacity ≤ Text.byteLength (text.take (surplus text)) :=
      le_byteLength_take_charsHolding (Nat.sub_le _ _)
    have hsplit := congrArg Text.byteLength (List.take_append_drop (surplus text) text)
    rw [Text.byteLength_append] at hsplit
    show Text.byteLength (text.drop (surplus text)) ≤ capacity
    omega
  longest other hsuffix hfits := by
    obtain ⟨front, rfl⟩ := hsuffix
    have hle : surplus (front ++ other) ≤ front.length := surplus_le_length hfits
    show other <:+ (front ++ other).drop (surplus (front ++ other))
    rw [List.drop_append_of_le_length hle]
    exact List.suffix_append _ _

theorem trim_eq (text : List Char) : trim text = (fitting capacity text.reverse).reverse :=
  (isRecent_trim text).unique (isRecent_fitting text)

/-- What was cut off before is cut off again together with more. -/
theorem trim_trim_append (text more : List Char) :
    trim (trim text ++ more) = trim (text ++ more) := by
  have hreverse := fitting_append_fitting capacity more.reverse text.reverse
  rw [trim_eq, trim_eq, trim_eq, List.reverse_append, List.reverse_append, List.reverse_reverse,
    hreverse]

/-- Cutting after every line comes to the same as cutting once. -/
theorem foldl_pushTrimmed (text : List Char) (lines : List (List Char)) :
    lines.foldl pushTrimmed (trim text) = trim (text ++ joinLines lines) := by
  induction lines generalizing text with
  | nil => rw [List.foldl_nil, joinLines_nil, List.append_nil]
  | cons line rest ih =>
    rw [List.foldl_cons, pushTrimmed, trim_trim_append, ih, append_joinLines_cons]

/-- The first boundary of a character at an offset or behind it. -/
structure IsFirstBoundary (text : String) (offset : Nat) (boundary : String.Pos.Raw) : Prop where
  isValid : boundary.IsValid text
  inside : boundary.byteIdx ≤ text.utf8ByteSize
  behind : offset ≤ boundary.byteIdx
  first : ∀ other : String.Pos.Raw, other.IsValid text → offset ≤ other.byteIdx →
    boundary.byteIdx ≤ other.byteIdx

/-- The fewest characters that hold some bytes end at the first boundary there is for them. -/
theorem isFirstBoundary_charsHolding {bytes : Nat} {text : List Char}
    (h : bytes ≤ Text.byteLength text) :
    IsFirstBoundary (String.ofList text) bytes
      (String.ofList (text.take (Window.charsHolding bytes text))).rawEndPos where
  isValid := by
    rw [String.Pos.Raw.isValid_iff_exists_append]
    refine ⟨_, String.ofList (text.drop (Window.charsHolding bytes text)), ?_, rfl⟩
    rw [← String.ofList_append, List.take_append_drop]
  inside := by
    rw [String.rawEndPos, Text.utf8ByteSize_ofList, Text.utf8ByteSize_ofList]
    exact Window.byteLength_take_le _ _
  behind := by
    rw [String.rawEndPos, Text.utf8ByteSize_ofList]
    exact le_byteLength_take_charsHolding h
  first other hvalid hbehind := by
    obtain ⟨front, back, htext, rfl⟩ := String.Pos.Raw.isValid_iff_exists_append.mp hvalid
    have hlist : text = front.toList ++ back.toList := by
      rw [← String.toList_append, ← htext, String.toList_ofList]
    rw [String.rawEndPos, ← Text.byteLength_toList] at hbehind
    rw [String.rawEndPos, String.rawEndPos, Text.utf8ByteSize_ofList, ← Text.byteLength_toList]
    -- the fewest characters that hold the bytes are among those in front of the other boundary
    have hle := charsHolding_le_length hbehind back.toList
    rw [hlist, List.take_append_of_le_length hle]
    exact Window.byteLength_take_le _ _

/-- A text is cut at the first boundary behind which it fits. -/
theorem exists_trim (text : List Char) :
    ∃ front, text = front ++ trim text ∧
      IsFirstBoundary (String.ofList text) (Text.byteLength text - capacity)
        (String.ofList front).rawEndPos := by
  refine ⟨text.take (surplus text), (List.take_append_drop _ _).symm, ?_⟩
  exact isFirstBoundary_charsHolding (Nat.sub_le _ _)

/-! ## The invariant -/

/-- A transcript that keeps enough of a text to show its end, and at most twice as much. -/
structure Keeps (text : List Char) (transcript : Transcript) : Prop where
  recent : transcript.recent <+: text.reverse
  enough : fitting capacity transcript.recent = fitting capacity text.reverse
  size : transcript.size = Text.byteLength transcript.recent
  bounded : transcript.size ≤ 2 * capacity

theorem keeps_empty : Keeps [] empty :=
  ⟨List.prefix_rfl, rfl, rfl, Nat.zero_le _⟩

/-- Whether or not a transcript gives something up, it keeps enough. -/
theorem keeps_keep {text recent : List Char} (hrecent : recent <+: text.reverse)
    (henough : fitting capacity recent = fitting capacity text.reverse) :
    Keeps text (keep recent (Text.byteLength recent)) := by
  unfold keep
  by_cases hsize : Text.byteLength recent ≤ 2 * capacity
  · rw [if_pos hsize]
    exact ⟨hrecent, henough, rfl, hsize⟩
  · rw [if_neg hsize]
    have hfits := byteLength_fitting_le capacity recent
    have hagain : fitting capacity (fitting capacity recent) = fitting capacity recent := by
      simpa using fitting_append_fitting capacity [] recent
    refine ⟨(isPrefix_fitting capacity recent).trans hrecent, hagain.trans henough, rfl, ?_⟩
    show Text.byteLength (fitting capacity recent) ≤ 2 * capacity
    omega

/-- A line is added behind the text before it. -/
theorem Keeps.push {text : List Char} {transcript : Transcript} (h : transcript.Keeps text)
    (line : List Char) : (transcript.push line).Keeps (text ++ (line ++ ['\n'])) := by
  -- a transcript keeps its text backwards, the last character first
  have hlater : '\n' :: line.reverseAux transcript.recent =
      (line ++ ['\n']).reverse ++ transcript.recent := by
    rw [List.reverseAux_eq, List.reverse_append]
    rfl
  have hsize : transcript.size + Text.byteLength line + 1 =
      Text.byteLength ((line ++ ['\n']).reverse ++ transcript.recent) := by
    rw [Text.byteLength_append, Text.byteLength_reverse, Text.byteLength_append, h.size]
    have hfeed : Text.byteLength ['\n'] = 1 := by decide
    omega
  have hreverse : (text ++ (line ++ ['\n'])).reverse = (line ++ ['\n']).reverse ++ text.reverse :=
    List.reverse_append
  rw [Transcript.push, hlater, hsize]
  apply keeps_keep
  · rw [hreverse]
    exact (List.prefix_append_right_inj _).mpr h.recent
  · -- what was given up before would not fit behind the new line either
    rw [hreverse, ← fitting_append_fitting, h.enough, fitting_append_fitting]

/-- A transcript keeps what it has kept and all lines that are pushed, by induction over them. -/
theorem Keeps.pushAll {text : List Char} {transcript : Transcript} (h : transcript.Keeps text)
    (lines : List (List Char)) :
    (lines.foldl Transcript.push transcript).Keeps (text ++ joinLines lines) := by
  induction lines generalizing text transcript with
  | nil => rwa [List.foldl_nil, joinLines_nil, List.append_nil]
  | cons line rest ih =>
    rw [List.foldl_cons, append_joinLines_cons]
    exact ih (h.push line)

/-- What a transcript shows is the end of the text that it was told. -/
theorem Keeps.text_eq {text : List Char} {transcript : Transcript} (h : transcript.Keeps text) :
    transcript.text = trim text := by
  rw [Transcript.text, h.enough, trim_eq]

end Transcript

namespace Console

/-! ## Transcripts of consoles -/

/-- A call records the lines that it receives, and no others. -/
theorem transcript_expectFrom (patterns : List Pattern) (console : Console) (window : Window)
    (lines : List (List Char)) :
    (expectFrom patterns console window lines).2.isOpen = console.isOpen ∧
      ∃ received, lines = received ++ (expectFrom patterns console window lines).2.incoming ∧
        (expectFrom patterns console window lines).2.transcript =
          received.foldl Transcript.push console.transcript := by
  -- induction on the lines, each of which is recorded before the next search
  induction lines generalizing console window with
  | nil =>
    unfold expectFrom
    cases window.find patterns with
    | some hit => exact ⟨rfl, [], rfl, rfl⟩
    | none =>
      cases hopen : console.isOpen with
      | true => exact ⟨rfl, [], rfl, rfl⟩
      | false => exact ⟨hopen, [], rfl, rfl⟩
  | cons line rest ih =>
    unfold expectFrom
    cases window.find patterns with
    | some hit => exact ⟨rfl, [], rfl, rfl⟩
    | none =>
      obtain ⟨hopen, received, hlines, hrecorded⟩ :=
        ih (console.record line) (window.advance.add line)
      exact ⟨hopen, line :: received, congrArg (line :: ·) hlines, hrecorded⟩

/-- In turns, exactly the lines that are received are recorded. -/
theorem transcript_run (turns : List Turn) (console : Console) :
    ∃ received, console.incoming ++ arrivals console.isOpen turns =
        received ++ (console.run turns).2.incoming ∧
      (console.run turns).2.transcript = received.foldl Transcript.push console.transcript := by
  -- induction on the turns; only waiting takes lines in
  induction turns generalizing console with
  | nil => exact ⟨[], List.append_nil _, rfl⟩
  | cons turn rest ih =>
    cases turn with
    | expect patterns =>
      obtain ⟨hopen, received, hlines, hrecorded⟩ :=
        transcript_expectFrom patterns console (.ofText console.pending) console.incoming
      obtain ⟨later, hlater, hrest⟩ := ih (console.expect patterns).2
      refine ⟨received ++ later, ?_, ?_⟩
      · rw [expect, hopen] at hlater
        rw [arrivals, hlines, List.append_assoc, hlater, ← List.append_assoc]
        rfl
      · rw [expect, hrecorded, ← List.foldl_append] at hrest
        exact hrest
    | deliver lines =>
      obtain ⟨received, hlines, hrecorded⟩ := ih (console.deliver lines)
      refine ⟨received, ?_, ?_⟩
      · cases hopen : console.isOpen <;> simpa [hopen, arrivals, run, deliver] using hlines
      · cases hopen : console.isOpen <;> simpa [hopen, run, deliver] using hrecorded
    | close => exact ih console.close

/-- Whatever is looked for, whenever lines arrive and the output ends: a transcript shows the
longest end of the text received that fits, which depends on that text alone. It is what is left of
the text if it is cut after every line, at the first boundary of a character behind which it fits,
and the transcript keeps at most twice as much as it can show. -/
theorem isRecent_iff_of_run (lines : List (List Char)) (isOpen : Bool) (turns : List Turn) :
    let last := ((ofLines lines isOpen).run turns).2
    ∃ received, lines ++ arrivals isOpen turns = received ++ last.incoming ∧
      (∀ shown, Transcript.IsRecent (joinLines received) shown ↔ shown = last.transcript.text) ∧
      last.transcript.text = received.foldl Transcript.pushTrimmed [] ∧
      Text.byteLength last.transcript.recent ≤ 2 * Transcript.capacity ∧
      ∀ text, ∃ front, text = front ++ Transcript.trim text ∧
        Transcript.IsFirstBoundary (String.ofList text)
          (Text.byteLength text - Transcript.capacity) (String.ofList front).rawEndPos := by
  intro last
  obtain ⟨received, hlines, hrecorded⟩ := transcript_run turns (ofLines lines isOpen)
  have hkeeps : last.transcript.Keeps (joinLines received) := by
    have hall := Transcript.keeps_empty.pushAll received
    rw [List.nil_append] at hall
    show ((ofLines lines isOpen).run turns).2.transcript.Keeps (joinLines received)
    rw [hrecorded]
    exact hall
  have hshown : last.transcript.text = Transcript.trim (joinLines received) := hkeeps.text_eq
  have hrecent : Transcript.IsRecent (joinLines received) last.transcript.text := by
    rw [hshown]
    exact Transcript.isRecent_trim _
  refine ⟨received, hlines, fun shown => ?_, ?_, ?_, Transcript.exists_trim⟩
  · constructor
    · intro h
      exact h.unique hrecent
    · rintro rfl
      exact hrecent
  · rw [hshown]
    exact (Transcript.foldl_pushTrimmed [] received).symm
  · rw [← hkeeps.size]
    exact hkeeps.bounded

end Console

end PubSubTrials.Output
