import PubSubTrials.Proofs.Waiting

/-!
# No output is lost

Whoever uses a console lets lines arrive, waits for patterns, and ends the output, in any order and
with other patterns each time (`Turn`). Text moves from the lines that have arrived to the pending
text, and from there to what a call of `expect` hands out: `run_conserves` says that nothing is
lost, doubled or put elsewhere on this way, and what a call leaves alone that finds nothing.

What a call does is said once, in `expect_cases`: it has a hit after some of the lines, or it has
searched all that has arrived in vain (`Searched`), for a long pattern as far as it looks back.
-/

namespace PubSubTrials.Output

/-! ## Text that was searched in vain -/

/-- A stretch of a text that runs over more than `Window.overlap` bytes before it comes to the line
in which it ends. -/
def Straddles (text : List Char) (start size : Nat) : Prop :=
  ∃ front rest, text = front ++ rest ∧ LineEnded front ∧ front.length < start + size ∧
    Window.overlap < Text.byteLength (front.drop start)

theorem Straddles.append {text : List Char} {start size : Nat} (h : Straddles text start size)
    (more : List Char) : Straddles (text ++ more) start size := by
  obtain ⟨front, rest, rfl, hfront, hlong, hbytes⟩ := h
  exact ⟨front, rest ++ more, List.append_assoc .., hfront, hlong, hbytes⟩

/-- A text to which lines were added one after the other, and in which patterns were looked for each
time without a hit: what stands in it began too far in front of the line that completes it. -/
def Searched (patterns : List Pattern) (text : List Char) : Prop :=
  ∀ pattern ∈ patterns, ∀ form ∈ pattern.forms, ∀ start,
    stands form (text.drop start) = true → Straddles text start form.length

namespace Window

/-- A window in which the text that was passed over was searched in vain. -/
structure Swept (patterns : List Pattern) (window : Window) : Prop where
  passed : ∀ pattern ∈ patterns, ∀ form ∈ pattern.forms, ∀ start < window.passed.length,
    stands form (window.text.drop start) = true → Straddles window.text start form.length

theorem swept_ofText (patterns : List Pattern) (text : List Char) : (ofText text).Swept patterns :=
  ⟨fun _ _ _ _ _ hstart => absurd hstart (Nat.not_lt_zero _)⟩

/-- When there is no hit in the rest either, the whole text was searched in vain. -/
theorem Swept.searched {patterns : List Pattern} {window : Window} (h : window.Swept patterns)
    (hnone : window.find patterns = none) : Searched patterns window.text := by
  intro pattern hpattern form hform start hstands
  by_cases hstart : start < window.passed.length
  · exact h.passed pattern hpattern form hform start hstart hstands
  · have hdrop : window.text.drop start = window.live.drop (start - window.passed.length) := by
      rw [text, List.drop_append, List.length_reverse,
        List.drop_eq_nil_of_le (by rw [List.length_reverse]; omega), List.nil_append]
    rw [hdrop] at hstands
    by_cases hle : start - window.passed.length ≤ window.live.length
    · have hdead := Pattern.firstAt?_eq_none_iff.mp (scan_eq_none_iff.mp hnone _ hle)
      rw [hdead pattern hpattern form hform] at hstands
      exact absurd hstands Bool.false_ne_true
    · -- behind the end there is as much as at the end
      have hdead := Pattern.firstAt?_eq_none_iff.mp
        (scan_eq_none_iff.mp hnone _ (Nat.le_refl window.live.length))
      rw [List.drop_eq_nil_of_le (by omega), ← List.drop_length (l := window.live),
        hdead pattern hpattern form hform] at hstands
      exact absurd hstands Bool.false_ne_true

/-- What was passed over stays searched in vain when the next line is added. -/
theorem Swept.advance_add {patterns : List Pattern} {window : Window} (h : window.Swept patterns)
    (hlined : LineEnded window.text) (hnone : window.find patterns = none) (line : List Char) :
    (window.advance.add line).Swept patterns := by
  have hkept := window.overlap_le_advance
  have hsearched := h.searched hnone
  have htext := text_advance window
  generalize window.advance = advanced at hkept htext ⊢
  constructor
  intro pattern hpattern form hform start hstart hstands
  rw [text_add, htext] at hstands ⊢
  have hstart' : start < advanced.passed.length := hstart
  have hlength : window.text.length = advanced.passed.length + advanced.live.length := by
    rw [← htext, text, List.length_append, List.length_reverse]
  rw [List.drop_append_of_le_length (by omega)] at hstands
  -- whatever stands in the longer text stood before, or straddles the line end
  by_cases hfits : form.length ≤ (window.text.drop start).length
  · -- it stood in the text before the line was added
    rw [stands_append hfits] at hstands
    exact (hsearched pattern hpattern form hform start hstands).append _
  · rw [List.length_drop] at hfits
    refine ⟨window.text, line ++ ['\n'], rfl, hlined, by omega, ?_⟩
    rcases hkept with hnil | hbytes
    · rw [hnil] at hstart'
      exact absurd hstart' (Nat.not_lt_zero _)
    · -- at least one character stands in front of the text that is searched again
      have hdrop : window.text.drop start =
          advanced.passed.reverse.drop start ++ advanced.live := by
        rw [← htext, text, List.drop_append_of_le_length (by rw [List.length_reverse]; omega)]
      have hfront : 0 < Text.byteLength (advanced.passed.reverse.drop start) := by
        apply Text.byteLength_pos
        apply List.ne_nil_of_length_pos
        rw [List.length_drop, List.length_reverse]
        omega
      rw [hdrop, Text.byteLength_append]
      omega

end Window

namespace Console

/-! ## One call -/

/-- Record lines that were received. -/
def recordAll (console : Console) (lines : List (List Char)) : Console :=
  lines.foldl record console

@[simp] theorem isOpen_recordAll (console : Console) (lines : List (List Char)) :
    (console.recordAll lines).isOpen = console.isOpen := by
  induction lines generalizing console with
  | nil => rfl
  | cons line rest ih => exact ih (console.record line)

@[simp] theorem before_recordAll (console : Console) (lines : List (List Char)) :
    (console.recordAll lines).before = console.before := by
  induction lines generalizing console with
  | nil => rfl
  | cons line rest ih => exact ih (console.record line)

@[simp] theorem after_recordAll (console : Console) (lines : List (List Char)) :
    (console.recordAll lines).after = console.after := by
  induction lines generalizing console with
  | nil => rfl
  | cons line rest ih => exact ih (console.record line)

/-- A call has a hit in the pending text and some of the lines, or it receives all of them and has
none; then it gives up if more lines may come, and else has searched the whole output in vain. -/
theorem expectFrom_cases {patterns : List Pattern} (console : Console) {window : Window}
    (h : window.Swept patterns) (hlined : LineEnded window.text) (lines : List (List Char)) :
    (∃ hit received rest, lines = received ++ rest ∧
      hit.before ++ (hit.matched ++ hit.rest) = window.text ++ joinLines received ∧
      expectFrom patterns console window lines =
        (.found hit.index, { (console.recordAll received).consume hit with incoming := rest })) ∨
    (console.isOpen = true ∧ expectFrom patterns console window lines =
      (.timeout, { console.recordAll lines with
        incoming := [], pending := window.text ++ joinLines lines })) ∨
    (console.isOpen = false ∧ Searched patterns (window.text ++ joinLines lines) ∧
      expectFrom patterns console window lines =
        (.endOfOutput, { (console.recordAll lines).finish (window.text ++ joinLines lines) with
          incoming := [] })) := by
  -- induction on the lines that may come; Swept says that the window has missed nothing so far
  induction lines generalizing console window with
  | nil =>
    rw [expectFrom, joinLines_nil, List.append_nil]
    cases hfind : window.find patterns with
    | some hit =>
      have htext := text_of_scan hfind
      exact .inl ⟨hit, [], [], rfl, by rw [htext, joinLines_nil, List.append_nil, Window.text], rfl⟩
    | none =>
      cases hopen : console.isOpen with
      | true => exact .inr (.inl ⟨rfl, by simp [hopen, recordAll]⟩)
      | false => exact .inr (.inr ⟨rfl, h.searched hfind, by simp [recordAll]⟩)
  | cons line rest ih =>
    rw [expectFrom]
    cases hfind : window.find patterns with
    | some hit =>
      have htext := text_of_scan hfind
      refine .inl ⟨hit, [], line :: rest, rfl, ?_, rfl⟩
      rw [htext, joinLines_nil, List.append_nil, Window.text]
    | none =>
      have hadd := Window.text_add window.advance line
      rw [Window.text_advance] at hadd
      have hnext := ih (console.record line) (h.advance_add hlined hfind line)
        (by rw [hadd]; exact lineEnded_line _ _)
      rw [hadd, ← append_joinLines_cons] at hnext
      obtain ⟨hit, received, rest', hrest, htext, heq⟩ | hvain := hnext
      · refine .inl ⟨hit, line :: received, rest', by rw [hrest]; rfl, ?_, heq⟩
        rw [htext, ← append_joinLines_cons]
      · exact .inr hvain

/-- How a wait can end: with what is found in the lines received so far, with the time over, or at
the end of the output. -/
theorem expect_cases {console : Console} (h : console.Lined) (patterns : List Pattern) :
    (∃ hit received rest, console.incoming = received ++ rest ∧
      hit.before ++ (hit.matched ++ hit.rest) = console.pending ++ joinLines received ∧
      console.expect patterns =
        (.found hit.index, { (console.recordAll received).consume hit with incoming := rest })) ∨
    (console.isOpen = true ∧ console.expect patterns =
      (.timeout, { console.recordAll console.incoming with
        incoming := [], pending := console.ahead })) ∨
    (console.isOpen = false ∧ Searched patterns console.ahead ∧ console.expect patterns =
      (.endOfOutput, { (console.recordAll console.incoming).finish console.ahead with
        incoming := [] })) :=
  expectFrom_cases console (Window.swept_ofText patterns console.pending) h console.incoming

/-- Pending text consists of whole lines, but for what was consumed of the first one. -/
theorem Lined.expect {console : Console} (h : console.Lined) (patterns : List Pattern) :
    (console.expect patterns).2.Lined := by
  obtain ⟨hit, received, rest, -, htext, heq⟩ | ⟨-, heq⟩ | ⟨-, -, heq⟩ := expect_cases h patterns
  · have hall : LineEnded ((hit.before ++ hit.matched) ++ hit.rest) := by
      rw [List.append_assoc, htext]
      exact LineEnded.append h (lineEnded_joinLines received)
    have hrest := hall.drop (hit.before ++ hit.matched).length
    rw [List.drop_left] at hrest
    rw [heq]
    exact hrest
  · rw [heq]
    exact h.ahead
  · rw [heq]
    exact .inl rfl

theorem Lined.close {console : Console} (h : console.Lined) : console.close.Lined := h

theorem Lined.deliver {console : Console} (h : console.Lined) (lines : List (List Char)) :
    (console.deliver lines).Lined := by
  rw [Console.deliver]
  split <;> exact h

end Console

/-! ## Turns -/

/-- What is done with a console at a time. -/
inductive Turn where
  | expect (patterns : List Pattern)
  | deliver (lines : List (List Char))
  | close

/-- The lines that arrive in turns; once the output has ended there are no more. -/
def arrivals : Bool → List Turn → List (List Char)
  | _, [] => []
  | isOpen, .expect _ :: rest => arrivals isOpen rest
  | true, .deliver lines :: rest => lines ++ arrivals true rest
  | false, .deliver _ :: rest => arrivals false rest
  | _, .close :: rest => arrivals false rest

/-- The answer of a call, and what the console shows after it. -/
structure Exchange where
  reply : Reply
  before : List Char
  after : List Char
  deriving DecidableEq

/-- The text that a call hands out. -/
def Exchange.handedOut (exchange : Exchange) : List Char :=
  match exchange.reply with
  | .found _ => exchange.before ++ exchange.after
  | .timeout => []
  | .endOfOutput => exchange.before

namespace Console

/-- What a call answers and shows. -/
def exchange (console : Console) (patterns : List Pattern) : Exchange :=
  let (reply, next) := console.expect patterns
  ⟨reply, next.before, next.after⟩

/-- Take turns: what the calls among them answer and show, and the console after them. -/
def run : List Turn → Console → List Exchange × Console
  | [], console => ([], console)
  | .expect patterns :: rest, console =>
    let (exchanges, last) := run rest (console.expect patterns).2
    (console.exchange patterns :: exchanges, last)
  | .deliver lines :: rest, console => run rest (console.deliver lines)
  | .close :: rest, console => run rest console.close

/-- A call hands out text from the front of what is pending once it has received some lines. -/
theorem expect_conserves {console : Console} (h : console.Lined) (patterns : List Pattern) :
    (console.expect patterns).2.isOpen = console.isOpen ∧
      ∃ received, console.incoming = received ++ (console.expect patterns).2.incoming ∧
        console.pending ++ joinLines received =
          (console.exchange patterns).handedOut ++ (console.expect patterns).2.pending := by
  rw [exchange]
  obtain ⟨hit, received, rest, hlines, htext, heq⟩ | ⟨-, heq⟩ | ⟨-, -, heq⟩ :=
    expect_cases h patterns
  · rw [heq]
    refine ⟨isOpen_recordAll console received, received, hlines, ?_⟩
    rw [← htext, ← List.append_assoc]
    rfl
  · rw [heq]
    exact ⟨isOpen_recordAll .., console.incoming, (List.append_nil _).symm, rfl⟩
  · rw [heq]
    exact ⟨isOpen_recordAll .., console.incoming, (List.append_nil _).symm,
      (List.append_nil _).symm⟩

/-- In turns, text moves from the lines that arrive to what is handed out, and stays in order. -/
theorem conserves_of_lined {console : Console} (h : console.Lined) (turns : List Turn) :
    ∃ received, console.incoming ++ arrivals console.isOpen turns =
        received ++ (console.run turns).2.incoming ∧
      console.pending ++ joinLines received =
        (console.run turns).1.flatMap Exchange.handedOut ++ (console.run turns).2.pending := by
  -- induction on the turns; what has arrived is handed out or still pending
  induction turns generalizing console with
  | nil => exact ⟨[], List.append_nil _, List.append_nil _⟩
  | cons turn rest ih =>
    cases turn with
    | expect patterns =>
      obtain ⟨hopen, received, hlines, htext⟩ := expect_conserves h patterns
      obtain ⟨later, hlater, hrest⟩ := ih (h.expect patterns)
      refine ⟨received ++ later, ?_, ?_⟩
      · rw [arrivals, hlines, List.append_assoc, ← hopen, hlater, ← List.append_assoc, run]
      · rw [joinLines, List.flatMap_append, ← joinLines, ← joinLines, ← List.append_assoc, htext,
          List.append_assoc, hrest, run, List.flatMap_cons, List.append_assoc]
    | deliver lines =>
      obtain ⟨received, hlines, htext⟩ := ih (h.deliver lines)
      refine ⟨received, ?_, ?_⟩
      · cases hopen : console.isOpen <;> simpa [hopen, arrivals, run, deliver] using hlines
      · cases hopen : console.isOpen <;> simpa [hopen, run, deliver] using htext
    | close => exact ih h.close

/-- A console stays in lines through all turns. -/
theorem lined_run {console : Console} (h : console.Lined) (turns : List Turn) :
    (console.run turns).2.Lined := by
  induction turns generalizing console with
  | nil => exact h
  | cons turn rest ih =>
    cases turn with
    | expect patterns => exact ih (h.expect patterns)
    | deliver lines => exact ih (h.deliver lines)
    | close => exact ih h.close

/-! ## The end of the output -/

/-- A console whose output has ended and was consumed to the last character. -/
structure Ended (console : Console) : Prop where
  isOpen : console.isOpen = false
  incoming : console.incoming = []
  pending : console.pending = []

/-- In no text at all only the empty literal is found. -/
theorem firstAt?_nil {patterns : List Pattern} (h : Pattern.literal "" ∉ patterns) :
    Pattern.firstAt? 0 patterns [] = none := by
  refine Pattern.firstAt?_eq_none_iff.mpr fun pattern hpattern form hform => ?_
  have hne : form ≠ [] := by
    cases pattern with
    | marker m => exact (m.cells form hform).1
    | literal text =>
      obtain rfl : form = fixed text := by simpa [Pattern.forms] using hform
      intro hnil
      have htext : text = "" := by simpa [fixed] using hnil
      exact h (htext ▸ hpattern)
  cases form with
  | nil => exact absurd rfl hne
  | cons cell cells => rfl

/-- After the end of the output there is nothing to be found or shown. -/
theorem Ended.expect {console : Console} (h : console.Ended) {patterns : List Pattern}
    (hpatterns : Pattern.literal "" ∉ patterns) :
    (console.expect patterns).2.Ended ∧ console.exchange patterns = ⟨.endOfOutput, [], []⟩ := by
  have hfind : (Window.ofText []).find patterns = none := by
    rw [Window.find, Window.ofText, scan, firstAt?_nil hpatterns]
    rfl
  have heq : console.expect patterns =
      (.endOfOutput, { console.finish [] with incoming := [] }) := by
    rw [Console.expect, h.pending, h.incoming, expectFrom, hfind]
    simp [h.isOpen]
  rw [exchange, heq]
  exact ⟨⟨h.isOpen, rfl, rfl⟩, rfl⟩

theorem Ended.close {console : Console} (h : console.Ended) : console.close.Ended :=
  ⟨rfl, h.incoming, h.pending⟩

/-- After the end of the output every wait is answered by it. -/
theorem Ended.run {console : Console} (h : console.Ended) {turns : List Turn}
    (hturns : ∀ patterns, .expect patterns ∈ turns → Pattern.literal "" ∉ patterns) :
    ∀ exchange ∈ (console.run turns).1, exchange = ⟨.endOfOutput, [], []⟩ := by
  induction turns generalizing console with
  | nil => exact fun _ hmem => absurd hmem List.not_mem_nil
  | cons turn rest ih =>
    have hrest := fun patterns hmem => hturns patterns (List.mem_cons_of_mem _ hmem)
    cases turn with
    | expect patterns =>
      obtain ⟨hnext, hexchange⟩ := h.expect (hturns patterns List.mem_cons_self)
      rw [Console.run]
      exact List.forall_mem_cons.mpr ⟨hexchange, ih hnext hrest⟩
    | deliver lines =>
      have hsame : console.deliver lines = console := by rw [deliver, h.isOpen, if_neg (by decide)]
      rw [Console.run, hsame]
      exact ih h hrest
    | close => exact ih h.close hrest

/-! ## A whole run -/

/-- What a call promises that is followed by the turns `later`. If it gives up, what is shown stays
as it was and no pending text is lost. It tells the end of the output only once the output has ended
and all of it was received and searched, and then every later call tells it again. -/
def KeepsWord (console : Console) (patterns : List Pattern) (later : List Turn) : Prop :=
  match console.expect patterns with
  | (.found _, _) => True
  | (.timeout, next) =>
    next.before = console.before ∧ next.after = console.after ∧ console.pending <+: next.pending
  | (.endOfOutput, next) =>
    console.isOpen = false ∧ next.incoming = [] ∧ Searched patterns next.before ∧
      ∀ exchange ∈ (next.run later).1, exchange = ⟨.endOfOutput, [], []⟩

/-- One wait keeps its word: what it hands out and what it leaves are what was there. -/
theorem Lined.keepsWord {console : Console} (h : console.Lined) (patterns : List Pattern)
    {later : List Turn}
    (hlater : ∀ patterns, .expect patterns ∈ later → Pattern.literal "" ∉ patterns) :
    console.KeepsWord patterns later := by
  rw [KeepsWord]
  obtain ⟨hit, received, rest, -, -, heq⟩ | ⟨-, heq⟩ | ⟨hclosed, hsearched, heq⟩ :=
    expect_cases h patterns
  · rw [heq]
    trivial
  · rw [heq]
    exact ⟨before_recordAll .., after_recordAll .., List.prefix_append ..⟩
  · rw [heq]
    have hended : Ended { (console.recordAll console.incoming).finish console.ahead with
        incoming := [] } := ⟨(isOpen_recordAll ..).trans hclosed, rfl, rfl⟩
    exact ⟨hclosed, rfl, hsearched, hended.run hlater⟩

/-- Whatever is looked for, whenever lines arrive and the output ends: what the calls have handed
out, in their order, and what is pending still is the text of the lines received, and every call
keeps its word. -/
theorem run_conserves (lines : List (List Char)) (isOpen : Bool) {turns : List Turn}
    (h : ∀ patterns, .expect patterns ∈ turns → Pattern.literal "" ∉ patterns) :
    (∃ received, lines ++ arrivals isOpen turns =
        received ++ ((ofLines lines isOpen).run turns).2.incoming ∧
      ((ofLines lines isOpen).run turns).1.flatMap Exchange.handedOut ++
        ((ofLines lines isOpen).run turns).2.pending = joinLines received) ∧
    ∀ front patterns later, turns = front ++ .expect patterns :: later →
      ((ofLines lines isOpen).run front).2.KeepsWord patterns later := by
  have hlined : (ofLines lines isOpen).Lined := .inl rfl
  constructor
  · obtain ⟨received, hlines, htext⟩ := conserves_of_lined hlined turns
    exact ⟨received, hlines, htext.symm⟩
  · rintro front patterns later rfl
    refine (lined_run hlined front).keepsWord patterns fun patterns hmem => h patterns ?_
    exact List.mem_append_right _ (List.mem_cons_of_mem _ hmem)

/-- Turns of every kind: a hit, a call that gives up, a hit over two lines, a line that comes too
late, and the end of the output told twice. -/
def mixedTurns : List Turn :=
  [.expect [.marker .data], .expect [.literal "d"], .deliver ["xd y".toList],
    .expect [.literal "d", .literal "c\nx"], .close, .deliver ["z".toList], .expect [.literal "z"],
    .expect [.marker .data]]

/-- The theorem for waits that find something, that run out of time and that meet the end of the
output. -/
theorem run_conserves_mixedTurns :
    (∀ patterns, .expect patterns ∈ mixedTurns → Pattern.literal "" ∉ patterns) ∧
      ((ofLines ["ab [20] c".toList] true).run mixedTurns).1.map Exchange.reply =
        [.found 0, .timeout, .found 1, .endOfOutput, .endOfOutput] ∧
      ((ofLines ["ab [20] c".toList] true).run mixedTurns).1.flatMap Exchange.handedOut =
        "ab [20] c\nxd y\n".toList := by
  have hpatterns : ∀ patterns, .expect patterns ∈ mixedTurns → Pattern.literal "" ∉ patterns := by
    simp [mixedTurns]
  obtain ⟨⟨received, hlines, htext⟩, -⟩ := run_conserves ["ab [20] c".toList] true hpatterns
  have hincoming : ((ofLines ["ab [20] c".toList] true).run mixedTurns).2.incoming = [] := by
    decide +kernel
  have hpending : ((ofLines ["ab [20] c".toList] true).run mixedTurns).2.pending = [] := by
    decide +kernel
  rw [hincoming, List.append_nil] at hlines
  rw [hpending, List.append_nil, ← hlines] at htext
  exact ⟨hpatterns, by decide +kernel, htext.trans (by decide +kernel)⟩

end Console

end PubSubTrials.Output
