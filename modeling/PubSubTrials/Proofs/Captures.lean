import Mathlib.Data.List.DropRight
import PubSubTrials.Run.Application
import PubSubTrials.Run.Trial

/-!
# Output through pipes and through a terminal

An application writes lines and perhaps one more line that it does not end
(`Lines.IsCutInto`). They are read alike whether the bytes come as they were written or as a
terminal passes them on (`Lines.read_throughTerminal`), because the carriage return that a terminal
adds stands at the end of a line, where it is not looked at. No line that is read has a line feed in
it, also not where bytes are replaced that are no UTF-8 (`Text.newline_notMem_decodeLossy`).

So the lines of a broadcast arrive alike through pipes and through a terminal, up to a line that is
not ended when the outputs are closed: it is there through a pipe, and lost through a terminal
(`Broadcast.arrivals_pipe`). Apart from it one sees the same performance
(`Broadcast.lines_of_captures`).
-/

namespace PubSubTrials

/-! ## Texts without line feeds -/

namespace Text

/-- Only the number of the line feed makes one; what is no number of a character makes another. -/
theorem ofNat_ne_newline {n : Nat} (h : n ≠ 10) : Char.ofNat n ≠ '\n' := by
  intro heq
  by_cases hvalid : n.isValidChar
  · have hchar : Char.ofNat n = Char.ofNatAux n hvalid := dif_pos hvalid
    have hnumber : n = 10 := congrArg Char.toNat (hchar.symm.trans heq)
    exact h hnumber
  · have hchar : Char.ofNat n = '\x00' := dif_neg hvalid
    rw [hchar] at heq
    cases heq

/-- The number of a character never shrinks with its tail bytes. -/
theorem leadTail_ne_newline {width done code low high : Nat} {bytes : List UInt8} {c : Char}
    {used : Nat} (hcode : 11 ≤ code) (h : leadTail width done code low high bytes = .char c used) :
    c ≠ '\n' := by
  induction bytes generalizing done code low high with
  | nil =>
    unfold leadTail at h
    split at h
    · cases h
    · cases h
      exact ofNat_ne_newline (by omega)
  | cons b rest ih =>
    unfold leadTail at h
    split at h
    · split at h
      · exact ih (by omega) h
      · cases h
    · cases h
      exact ofNat_ne_newline (by omega)

/-- The first tail byte brings the number of a character above that of the line feed, unless the
first byte has brought nothing and the tail byte is a low one. -/
theorem leadTail_one_ne_newline {width code low high : Nat} {bytes : List UInt8} {c : Char}
    {used : Nat} (hwidth : 1 < width) (hcode : 1 ≤ code ∨ 0x90 ≤ low ∧ high ≤ 0xBF)
    (h : leadTail width 1 code low high bytes = .char c used) : c ≠ '\n' := by
  cases bytes with
  | nil =>
    rw [leadTail, if_pos hwidth] at h
    cases h
  | cons b rest =>
    rw [leadTail, if_pos hwidth] at h
    split at h
    · exact leadTail_ne_newline (by omega) h
    · cases h

/-- What a first byte announces leaves no room for numbers that fit into fewer bytes. -/
theorem announced_cases {b width low high : Nat} (h : announced b = some (width, low, high)) :
    (width = 2 ∧ 1 ≤ b % 32) ∨ (width = 3 ∧ (1 ≤ b % 16 ∨ 0x90 ≤ low ∧ high ≤ 0xBF)) ∨
      (width = 4 ∧ (1 ≤ b % 8 ∨ 0x90 ≤ low ∧ high ≤ 0xBF)) := by
  unfold announced at h
  -- one case for each range of first bytes
  repeat' split at h
  all_goals cases h
  all_goals omega

/-- Only the line feed is read as one. -/
theorem leadOf_ne_newline {b : UInt8} (hb : b ≠ 10) {rest : List UInt8} {c : Char} {used : Nat}
    (h : leadOf b rest = .char c used) : c ≠ '\n' := by
  unfold leadOf at h
  split at h
  · cases h
    apply ofNat_ne_newline
    intro hnumber
    exact hb (UInt8.toNat_inj.mp hnumber)
  · cases hannounced : announced b.toNat with
    | none =>
      rw [hannounced] at h
      cases h
    | some range =>
      obtain ⟨width, low, high⟩ := range
      rw [hannounced] at h
      rcases announced_cases hannounced with ⟨rfl, hcode⟩ | ⟨rfl, hcode⟩ | ⟨rfl, hcode⟩
      · exact leadTail_one_ne_newline (by decide) (.inl hcode) h
      · exact leadTail_one_ne_newline (by decide) hcode h
      · exact leadTail_one_ne_newline (by decide) hcode h

/-- Decoding makes up no line feed: each one it yields was a byte of the input. -/
theorem newline_notMem_decodeLossyFrom {bytes : List UInt8} (h : 10 ∉ bytes) {decoded : List Char}
    (hdecoded : '\n' ∉ decoded) (skip : Nat) : '\n' ∉ decodeLossyFrom skip decoded bytes := by
  have hreplacement : '\n' ≠ replacement := by decide
  induction bytes generalizing skip decoded with
  | nil => rwa [decodeLossyFrom, List.mem_reverse]
  | cons b rest ih =>
    have hb := (List.ne_of_not_mem_cons h).symm
    have hrest := List.not_mem_of_not_mem_cons h
    unfold decodeLossyFrom
    cases skip with
    | succ n => exact ih hrest hdecoded n
    | zero =>
      dsimp only
      -- a character is read, a byte is replaced, or the rest is replaced
      split
      · next c width hlead =>
        have hc := leadOf_ne_newline hb hlead
        exact ih hrest (List.not_mem_cons_of_ne_of_not_mem hc.symm hdecoded) _
      · exact ih hrest (List.not_mem_cons_of_ne_of_not_mem hreplacement hdecoded) _
      · rw [List.mem_reverse]
        exact List.not_mem_cons_of_ne_of_not_mem hreplacement hdecoded

/-- Bytes without a line feed make a text without one. -/
theorem newline_notMem_decodeLossy {bytes : List UInt8} (h : 10 ∉ bytes) :
    '\n' ∉ decodeLossy bytes :=
  newline_notMem_decodeLossyFrom h (by simp) 0

end Text

namespace Output

/-! ## Lines of bytes -/

namespace Lines

variable {bytes rest : List UInt8} {lines : List (List UInt8)}

/-- That bytes are lines, each with a line feed behind it, and a rest that is not ended. -/
structure IsCutInto (bytes : List UInt8) (lines : List (List UInt8)) (rest : List UInt8) :
    Prop where
  bytes_eq : bytes = lines.flatMap (fun line => line ++ [lineFeed]) ++ rest
  lines_plain : ∀ line ∈ lines, lineFeed ∉ line
  rest_plain : lineFeed ∉ rest

/-- A line as it is delivered, without carriage returns and line feeds at its end. -/
def delivered (line : List UInt8) : List Char :=
  Text.decodeLossy (line.rdropWhile isLineEnd)

/-- A rest counts as a line if it has a byte. -/
def ofRest (rest : List UInt8) : List (List UInt8) :=
  if rest = [] then [] else [rest]

/-- Taking line ends off the bytes read so far, which are kept last byte first, is taking them off
the end of the line. -/
theorem strip_reverse (line : List UInt8) : strip line.reverse = line.rdropWhile isLineEnd := rfl

/-- All bytes can be cut into lines and a rest. -/
theorem exists_isCutInto (bytes : List UInt8) : ∃ lines rest, IsCutInto bytes lines rest := by
  induction bytes with
  | nil => exact ⟨[], [], rfl, by simp, by simp⟩
  | cons b bytes ih =>
    obtain ⟨lines, rest, rfl, hlines, hrest⟩ := ih
    by_cases hb : b = lineFeed
    · subst hb
      refine ⟨[] :: lines, rest, rfl, ?_, hrest⟩
      intro line hline
      rcases List.mem_cons.mp hline with rfl | hline
      · simp
      · exact hlines line hline
    · -- the byte belongs to the first line or, if there is none, to the rest
      cases lines with
      | nil =>
        have hplain := List.not_mem_cons_of_ne_of_not_mem (Ne.symm hb) hrest
        exact ⟨[], b :: rest, rfl, hlines, hplain⟩
      | cons first lines =>
        refine ⟨(b :: first) :: lines, rest, rfl, ?_, hrest⟩
        intro line hline
        rcases List.mem_cons.mp hline with rfl | hline
        · exact List.not_mem_cons_of_ne_of_not_mem (Ne.symm hb) (hlines first List.mem_cons_self)
        · exact hlines line (List.mem_cons_of_mem _ hline)

/-- Feeding in two chunks is feeding both at once. -/
theorem feed_append (reversed bytes more : List UInt8) :
    feed reversed (bytes ++ more) =
      ((feed reversed bytes).1 ++ (feed (feed reversed bytes).2 more).1,
        (feed (feed reversed bytes).2 more).2) := by
  induction bytes generalizing reversed with
  | nil => rfl
  | cons b bytes ih =>
    by_cases hb : b = lineFeed <;> simp [feed, hb, ih]

theorem feed_plain (reversed : List UInt8) (h : lineFeed ∉ rest) :
    feed reversed rest = ([], rest.reverse ++ reversed) := by
  induction rest generalizing reversed with
  | nil => rfl
  | cons b rest ih =>
    rw [feed, if_neg (List.ne_of_not_mem_cons h).symm, ih _ (List.not_mem_of_not_mem_cons h)]
    simp

/-- Bytes are fed as they are cut. -/
theorem IsCutInto.feed (h : IsCutInto bytes lines rest) :
    feed [] bytes = (lines.map (List.rdropWhile isLineEnd), rest.reverse) := by
  obtain ⟨rfl, hlines, hrest⟩ := h
  induction lines with
  | nil =>
    rw [List.flatMap_nil, List.nil_append, feed_plain [] hrest, List.append_nil]
    rfl
  | cons line lines ih =>
    have hline := feed_plain [] (hlines line List.mem_cons_self)
    rw [List.flatMap_cons, List.append_assoc, List.append_assoc, feed_append, hline,
      List.append_nil, feed_append]
    show (_ ++ ([strip line.reverse] ++ (Lines.feed [] _).1), (Lines.feed [] _).2) = _
    rw [ih (fun other hother => hlines other (List.mem_cons_of_mem _ hother)), strip_reverse]
    rfl

/-- What is delivered of an unfinished line when the stream ends. -/
theorem unended_reverse (rest : List UInt8) :
    unended rest.reverse = (ofRest rest).map (List.rdropWhile isLineEnd) := by
  unfold unended ofRest
  by_cases h : rest = []
  · rw [if_pos (by simp [h]), if_pos h]
    rfl
  · rw [if_neg (by simp [h]), if_neg h]
    rfl

/-- Cutting a whole text is feeding it and delivering what is left at the end. -/
theorem cut_eq_feed (bytes : List UInt8) :
    cut bytes = (feed [] bytes).1 ++ unended (feed [] bytes).2 := by
  have h := cutFrom_append [] bytes []
  rwa [List.append_nil, cutFrom_nil] at h

/-- The lines that are read are those that bytes are cut into, and the rest if it has a byte. -/
theorem IsCutInto.read (h : IsCutInto bytes lines rest) :
    read bytes = (lines ++ ofRest rest).map delivered := by
  rw [Lines.read, cut_eq_feed, h.feed, unended_reverse, ← List.map_append, List.map_map]
  rfl

theorem IsCutInto.count (h : IsCutInto bytes lines rest) : bytes.count lineFeed = lines.length := by
  obtain ⟨rfl, hlines, hrest⟩ := h
  rw [List.count_append, List.count_eq_zero.mpr hrest, Nat.add_zero]
  induction lines with
  | nil => rfl
  | cons line lines ih =>
    rw [List.flatMap_cons, List.count_append, List.count_append,
      List.count_eq_zero.mpr (hlines line List.mem_cons_self),
      ih (fun other hother => hlines other (List.mem_cons_of_mem _ hother)), List.length_cons]
    show 0 + 1 + lines.length = lines.length + 1
    omega

theorem newline_notMem_delivered {line : List UInt8} (h : lineFeed ∉ line) :
    '\n' ∉ delivered line := by
  apply Text.newline_notMem_decodeLossy
  intro hmem
  exact h ((List.rdropWhile_prefix isLineEnd line).subset hmem)

/-- A terminal does not change what bytes are fed as: its carriage returns stand at the ends of
lines. -/
theorem feed_throughTerminal (reversed bytes : List UInt8) :
    feed reversed (throughTerminal bytes) = feed reversed bytes := by
  induction bytes generalizing reversed with
  | nil => rfl
  | cons b bytes ih =>
    by_cases hb : b = lineFeed
    · subst hb
      -- the carriage return is stripped with the end of the line
      show ((strip (carriageReturn :: reversed)) :: (feed [] (throughTerminal bytes)).1,
        (feed [] (throughTerminal bytes)).2) = _
      rw [ih]
      rfl
    · have hthrough : throughTerminal (b :: bytes) = b :: throughTerminal bytes := by
        simp [throughTerminal, hb]
      rw [hthrough, feed, feed, if_neg hb, if_neg hb, ih]

theorem read_throughTerminal (bytes : List UInt8) : read (throughTerminal bytes) = read bytes := by
  rw [read, read, cut_eq_feed, cut_eq_feed, feed_throughTerminal]

end Lines

/-! ## Broadcasts on one outlet -/

namespace Unended

/-- What was begun on one outlet, and nothing on the other one. -/
def only (reversed : List UInt8) : Outlet → Unended
  | .standard => ⟨reversed, []⟩
  | .diagnostics => ⟨[], reversed⟩

theorem only_nil (outlet : Outlet) : only [] outlet = nothing := by
  cases outlet <;> rfl

theorem lines_only (reversed : List UInt8) (outlet : Outlet) :
    (only reversed outlet).lines = Lines.unended reversed := by
  cases outlet with
  | standard => exact List.append_nil _
  | diagnostics => rfl

/-- Reading what one outlet sends advances the unfinished line of that outlet. -/
theorem feed_only (reversed : List UInt8) (emission : Emission) :
    (only reversed emission.outlet).feed emission =
      ((Lines.feed reversed emission.bytes).1,
        only (Lines.feed reversed emission.bytes).2 emission.outlet) := by
  unfold feed
  cases emission.outlet <;> rfl

end Unended

variable {emissions : List Emission} {outlet : Outlet}

/-- The lines that emissions on one outlet end are those of their bytes. -/
theorem map_endedLines (hone : ∀ emission ∈ emissions, emission.outlet = outlet)
    (reversed : List UInt8) :
    (endedLines (.only reversed outlet) emissions).map Prod.snd =
      (Lines.feed reversed (emissions.flatMap Emission.bytes)).1.map Text.decodeLossy := by
  induction emissions generalizing reversed with
  | nil => rfl
  | cons emission rest ih =>
    obtain rfl := hone emission List.mem_cons_self
    have hrest := ih (fun other hother => hone other (List.mem_cons_of_mem _ hother))
    rw [endedLines, Unended.feed_only, List.map_append, hrest, List.flatMap_cons,
      Lines.feed_append, List.map_append]
    congr 1
    rw [arriveAt, List.map_map]
    rfl

/-- A process that writes to one outlet leaves an unfinished line on that outlet alone. -/
theorem after_only (hone : ∀ emission ∈ emissions, emission.outlet = outlet)
    (reversed : List UInt8) :
    (Unended.only reversed outlet).after emissions =
      .only (Lines.feed reversed (emissions.flatMap Emission.bytes)).2 outlet := by
  induction emissions generalizing reversed with
  | nil => rfl
  | cons emission rest ih =>
    obtain rfl := hone emission List.mem_cons_self
    have hrest := ih (fun other hother => hone other (List.mem_cons_of_mem _ hother))
    rw [List.flatMap_cons, Lines.feed_append]
    show ((Unended.only reversed emission.outlet).feed emission).2.after rest = _
    rw [Unended.feed_only, hrest]

/-- Lines that are ended on one outlet arrive at the same times through a terminal. -/
theorem endedLines_throughTerminal (hone : ∀ emission ∈ emissions, emission.outlet = outlet)
    (reversed : List UInt8) :
    endedLines (.only reversed .standard) (emissions.map Emission.throughTerminal) =
      endedLines (.only reversed outlet) emissions := by
  -- induction on the emissions, all of which go on with one unfinished line
  induction emissions generalizing reversed with
  | nil => rfl
  | cons emission rest ih =>
    obtain rfl := hone emission List.mem_cons_self
    have hrest := ih (fun other hother => hone other (List.mem_cons_of_mem _ hother))
    have hfeed := Unended.feed_only reversed emission.throughTerminal
    have hlines : Lines.feed reversed emission.throughTerminal.bytes =
        Lines.feed reversed emission.bytes := Lines.feed_throughTerminal reversed emission.bytes
    rw [hlines] at hfeed
    rw [List.map_cons, endedLines, endedLines, Unended.feed_only]
    have hstandard : emission.throughTerminal.outlet = .standard := rfl
    rw [hstandard] at hfeed
    rw [hfeed, hrest]
    rfl

namespace Broadcast

variable {broadcast : Broadcast} {lines : List (List UInt8)} {rest : List UInt8}

/-- All that is written. -/
def bytes (broadcast : Broadcast) : List UInt8 :=
  broadcast.emissions.flatMap Emission.bytes

/-- All that is written goes to one outlet, and is written before that is closed. -/
structure IsOneStream (broadcast : Broadcast) (outlet : Outlet) : Prop where
  outlet : ∀ emission ∈ broadcast.emissions, emission.outlet = outlet
  closing : ∀ closing ∈ broadcast.closing, ∀ emission ∈ broadcast.emissions,
    emission.time.hasCome closing = true

/-- Nothing arrives through a terminal because the outlet is closed. -/
theorem arrivals_terminal (broadcast : Broadcast) :
    broadcast.arrivals .terminal =
      endedLines .nothing (broadcast.emissions.map Emission.throughTerminal) := by
  unfold arrivals
  cases broadcast.closing <;> simp [captured, lastLines]

/-- Through a terminal the lines arrive that are ended. -/
theorem map_arrivals_terminal (h : broadcast.IsOneStream outlet)
    (hcut : Lines.IsCutInto broadcast.bytes lines rest) :
    (broadcast.arrivals .terminal).map Prod.snd = lines.map Lines.delivered := by
  have hended := map_endedLines h.outlet []
  have hfeed : Lines.feed [] (broadcast.emissions.flatMap Emission.bytes) = _ := hcut.feed
  rw [← endedLines_throughTerminal h.outlet, Unended.only_nil, hfeed, List.map_map] at hended
  rw [arrivals_terminal]
  exact hended

/-- Through a pipe a rest arrives besides once the outlet is closed. -/
theorem arrivals_pipe (h : broadcast.IsOneStream outlet)
    (hcut : Lines.IsCutInto broadcast.bytes lines rest) :
    broadcast.arrivals .pipe = broadcast.arrivals .terminal ++
      broadcast.closing.toList.flatMap (fun closing =>
        (Lines.ofRest rest).map (fun line => (closing, Lines.delivered line))) := by
  have hended := endedLines_throughTerminal h.outlet []
  rw [Unended.only_nil, Unended.only_nil] at hended
  rw [arrivals_terminal, hended, arrivals]
  congr 1
  cases hclosing : broadcast.closing with
  | none => rfl
  | some closing =>
    -- nothing is written after the outlet is closed, so the rest is all that is left
    have hwritten : broadcast.emissions.filter (fun emission => emission.time.hasCome closing) =
        broadcast.emissions := List.filter_eq_self.mpr (h.closing closing hclosing)
    have hleft := after_only h.outlet []
    have hfeed : Lines.feed [] (broadcast.emissions.flatMap Emission.bytes) = _ := hcut.feed
    rw [Unended.only_nil, hfeed] at hleft
    show broadcast.lastLines .pipe closing ++ [] = _ ++ []
    rw [List.append_nil, List.append_nil, lastLines]
    dsimp only
    rw [hwritten, hleft, Unended.lines_only, Lines.unended_reverse, arriveAt, List.map_map]
    rfl

/-- What one sees of a broadcast who waits for a time at each of its markers. -/
def performance (patience : Duration) (capture : Capture) (broadcast : Broadcast) : Performance :=
  let watch := Watch.run patience patience (broadcast.arrivals capture)
  ⟨watch.lines.map String.ofList,
    !broadcast.closing.any (fun time => time.hasCome watch.deadline), none⟩

end Broadcast

end Output

/-- An application performs as its broadcast is seen. -/
theorem Invocation.perform_performance (invocation : Invocation) (capture : Output.Capture)
    (patience : Duration) (files : FileTree) :
    (invocation.perform capture patience files).1 =
      (invocation.start files capture horizon).map (fun (broadcast, _) =>
        broadcast.performance patience capture) := by
  unfold perform
  cases invocation.start files capture horizon with
  | error error => rfl
  | ok started =>
    dsimp only
    split
    · next hends =>
      show _ = Except.ok (started.1.performance patience capture)
      rw [Output.Broadcast.performance]
    · split <;> rfl

namespace Output.Broadcast

variable {broadcast : Broadcast} {outlet : Outlet} {lines : List (List UInt8)} {rest : List UInt8}

/-- What is written to one outlet is cut into the same lines as it stands and as it comes through a
terminal. No line has a line feed in it, and there is one for each line feed, and one more for a
rest that is not empty. Through a terminal the ended lines arrive. Through a pipe the rest arrives
besides, once the outlet is closed; if it does not, the arrivals and what one sees are the same
through both. -/
theorem lines_of_captures (h : broadcast.IsOneStream outlet)
    (hcut : Lines.IsCutInto broadcast.bytes lines rest) :
    Lines.read broadcast.bytes = (lines ++ Lines.ofRest rest).map Lines.delivered ∧
      Lines.read (Lines.throughTerminal broadcast.bytes) = Lines.read broadcast.bytes ∧
      (∀ line ∈ Lines.read broadcast.bytes, '\n' ∉ line) ∧
      (Lines.read broadcast.bytes).length =
        broadcast.bytes.count Lines.lineFeed + (if rest = [] then 0 else 1) ∧
      (broadcast.arrivals .terminal).map Prod.snd = lines.map Lines.delivered ∧
      (broadcast.arrivals .pipe).map Prod.snd =
        (if broadcast.closing = none then lines.map Lines.delivered
        else Lines.read broadcast.bytes) ∧
      (broadcast.arrivals .terminal = broadcast.arrivals .pipe ↔
        broadcast.closing = none ∨ rest = []) ∧
      (broadcast.closing = none ∨ rest = [] → ∀ patience,
        broadcast.performance patience .terminal = broadcast.performance patience .pipe) := by
  have hread := hcut.read
  have hpipe := arrivals_pipe h hcut
  have hterminal := map_arrivals_terminal h hcut
  -- the two differ only by the rest, which the terminal drops when the stream ends
  have halike : broadcast.arrivals .terminal = broadcast.arrivals .pipe ↔
      broadcast.closing = none ∨ rest = [] := by
    rw [hpipe]
    cases broadcast.closing with
    | none => simp
    | some closing =>
      unfold Lines.ofRest
      split <;> simp_all
  refine ⟨hread, Lines.read_throughTerminal _, ?_, ?_, hterminal, ?_, halike, ?_⟩
  · intro line hline
    rw [hread] at hline
    obtain ⟨body, hbody, rfl⟩ := List.mem_map.mp hline
    apply Lines.newline_notMem_delivered
    rcases List.mem_append.mp hbody with hbody | hbody
    · exact hcut.lines_plain body hbody
    · unfold Lines.ofRest at hbody
      split at hbody
      · cases hbody
      · rw [List.mem_singleton.mp hbody]
        exact hcut.rest_plain
  · rw [hread, hcut.count, List.length_map, List.length_append]
    congr 1
    unfold Lines.ofRest
    split <;> rfl
  · rw [hpipe, List.map_append, hterminal, hread]
    cases broadcast.closing with
    | none => simp
    | some closing => simp [List.map_map, Function.comp_def]
  · intro hnothing patience
    unfold performance
    rw [halike.mpr hnothing]

/-- A line with carriage returns in it, a blank one, a byte that is no UTF-8, and a rest. -/
def garbled : Broadcast where
  emissions :=
    [⟨.zero, .diagnostics, [13, 97, 13, 13, 10, 10]⟩, ⟨.zero, .diagnostics, [255, 10, 98, 13]⟩]
  closing := some (.ofMillis 1)

/-- The theorem for an output with carriage returns, a byte that is no UTF-8 and a last line without
an end: the terminal drops that line, and the pipe delivers it. -/
theorem lines_of_captures_garbled :
    Lines.read (Lines.throughTerminal garbled.bytes) = Lines.read garbled.bytes ∧
      Lines.read garbled.bytes = [['\r', 'a'], [], [Text.replacement], ['b']] ∧
      (garbled.arrivals .pipe).map Prod.snd = Lines.read garbled.bytes ∧
      garbled.arrivals .terminal ≠ garbled.arrivals .pipe := by
  have hstream : garbled.IsOneStream .diagnostics := ⟨by decide, by decide⟩
  have hcut : Lines.IsCutInto garbled.bytes [[13, 97, 13, 13], [], [255]] [98, 13] :=
    ⟨rfl, by decide, by decide⟩
  obtain ⟨hread, hthrough, -, -, -, hpipe, halike, -⟩ := lines_of_captures hstream hcut
  refine ⟨hthrough, hread.trans (by decide +kernel), hpipe, ?_⟩
  rw [Ne, halike]
  decide

/-- A publisher that does not end its last line. -/
def breakingOff : Broadcast where
  emissions := [⟨.ofMillis 1, .standard, Text.encode
    "Create topic: S\nCreate writer for topic: S\non_publication_matched()".toList⟩]
  closing := some (.ofMillis 2)

/-- A case with one publisher. -/
def lonely : Case :=
  ⟨"Lonely", none, [⟨.publisher, "-t S", .ok⟩], .noCheck, none⟩

/-- The line that is not ended is a marker, so the publisher has another outcome through a terminal
than through a pipe. -/
theorem rest_decides_outcome :
    breakingOff.IsOneStream .standard ∧
      Lines.read (Lines.throughTerminal breakingOff.bytes) = Lines.read breakingOff.bytes ∧
      (Trial.run .standard (fun _ _ => .ok (breakingOff.performance (.ofSeconds 20) .terminal))
        lonely).2.toOption.map CaseResult.outcomes = some [.readerNotMatched] ∧
      (Trial.run .standard (fun _ _ => .ok (breakingOff.performance (.ofSeconds 20) .pipe))
        lonely).2.toOption.map CaseResult.outcomes = some [.ok] := by
  refine ⟨⟨by decide, by decide⟩, Lines.read_throughTerminal _, ?_, ?_⟩
  · decide +kernel
  · decide +kernel

end Output.Broadcast

end PubSubTrials
