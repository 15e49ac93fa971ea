import PubSubTrials.Proofs.Examination

/-!
# Samples in windows

The sample that a window shows is its last token. Whatever stands in front of the line that has
the token makes no difference, and neither does the data marker behind it, whose first character
belongs to no token. So an entity that prints one line after the other, each with a token and one
data marker, shows exactly the samples of its lines (`received_joinLines`).
-/

namespace PubSubTrials

open Output

/-! ## The last token of a text -/

namespace Sample

/-- A token as a written form: three digits, a space, three digits. -/
def tokenForm : List Cell :=
  [.digit, .digit, .digit, .exactly ' ', .digit, .digit, .digit]

theorem startsToken_eq_stands (text : List Char) : startsToken text = stands tokenForm text := by
  match text with
  | [] | [_] | [_, _] | [_, _, _] | [_, _, _, _] | [_, _, _, _, _] | [_, _, _, _, _, _] =>
    simp [startsToken, stands, tokenForm]
  | a :: b :: c :: space :: d :: e :: f :: rest =>
    have hspace : (space == ' ') = (' ' == space) := Bool.beq_comm
    simp only [startsToken, tokenForm, stands, Cell.accepts, isDigit, Bool.and_true, Bool.and_assoc,
      hspace]

/-- A character that is no part of a token. -/
def Separates (c : Char) : Prop :=
  ∀ cell ∈ tokenForm, cell.accepts c = false

instance (c : Char) : Decidable (Separates c) :=
  inferInstanceAs (Decidable (∀ cell ∈ tokenForm, cell.accepts c = false))

/-- What follows a separating character does not make a token. -/
theorem startsToken_append {c : Char} (h : Separates c) (text more : List Char) :
    startsToken (text ++ c :: more) = startsToken text := by
  rw [startsToken_eq_stands, startsToken_eq_stands]
  exact stands_append_of_le (length_le_of_stands_before h)

theorem tokenLength_le {text : List Char} (h : startsToken text = true) :
    tokenLength ≤ text.length := by
  rw [startsToken_eq_stands] at h
  exact length_le_of_stands h

/-- No token reaches over a character that is no part of one. -/
theorem findLastFrom_append {c : Char} (h : Separates c) (found : Option (List Char))
    (text more : List Char) :
    findLastFrom found (text ++ c :: more) = findLastFrom (findLastFrom found text) more := by
  induction text generalizing found with
  | nil =>
    have hnone : startsToken (c :: more) = false := startsToken_append h [] more
    rw [List.nil_append, findLastFrom, findLastFrom, hnone, if_neg Bool.false_ne_true]
  | cons d rest ih =>
    have hsame := startsToken_append h (d :: rest) more
    rw [List.cons_append] at hsame
    rw [List.cons_append, findLastFrom, findLastFrom, hsame, ih]
    cases hstarts : startsToken (d :: rest) with
    | false => rfl
    | true =>
      rw [← List.cons_append, List.take_append_of_le_length (tokenLength_le hstarts)]

theorem findLast_cons {c : Char} (h : Separates c) (text : List Char) :
    findLast (c :: text) = findLast text := by
  rw [findLast, ← List.nil_append (c :: text), findLastFrom_append h, findLastFrom, findLast]

/-- A token that was found before counts only where there is none. -/
theorem findLastFrom_eq_or (found : Option (List Char)) (text : List Char) :
    findLastFrom found text = (findLastFrom none text).or found := by
  induction text generalizing found with
  | nil => rfl
  | cons c rest ih =>
    rw [findLastFrom, findLastFrom]
    cases startsToken (c :: rest) with
    | false => exact ih found
    | true =>
      rw [if_pos rfl, if_pos rfl, ih, Option.or_assoc]
      rfl

/-- What was found in the first part of a text matters only where the second has no token. -/
theorem findLastFrom_front (found : Option (List Char)) (front text : List Char) :
    ∃ earlier, findLastFrom found (front ++ text) = findLastFrom earlier text := by
  induction front generalizing found with
  | nil => exact ⟨found, rfl⟩
  | cons c rest ih => exact ih _

/-- A text in front of one with a token makes no difference. -/
theorem findLast_append {text : List Char} {sample : Sample} (h : findLast text = some sample)
    (front : List Char) : findLast (front ++ text) = some sample := by
  obtain ⟨token, htoken, rfl⟩ := Option.map_eq_some_iff.mp h
  obtain ⟨earlier, hfront⟩ := findLastFrom_front none front text
  rw [findLast, hfront, findLastFrom_eq_or, htoken]
  rfl

/-- What follows the last token is not looked at if it is too short for one. -/
theorem findLast_append_short {c : Char} (h : Separates c) (text : List Char) {more : List Char}
    (hmore : more.length < tokenLength) : findLast (text ++ c :: more) = findLast text := by
  have hnone : ∀ found, findLastFrom found more = found := by
    induction more with
    | nil => exact fun found => rfl
    | cons d rest ih =>
      intro found
      have hstarts : ¬ startsToken (d :: rest) = true := fun hstarts =>
        Nat.not_le.mpr hmore (tokenLength_le hstarts)
      rw [findLastFrom, if_neg hstarts]
      exact ih (Nat.lt_of_succ_lt hmore) found
  rw [findLast, findLastFrom_append h, hnone, findLast]

end Sample

/-! ## The window of a hit -/

namespace Output

/-- A hit in a text that stands behind another one. -/
def Hit.behind (front : List Char) (hit : Hit) : Hit :=
  { hit with before := front ++ hit.before }

/-- What stands in front of a text is in front of its hit. -/
theorem scan_passed (patterns : List Pattern) (passed text : List Char) :
    scan patterns passed text = (scan patterns [] text).map (.behind passed.reverse) := by
  induction text generalizing passed with
  | nil =>
    rw [scan, scan]
    cases Pattern.firstAt? 0 patterns [] <;> simp [Hit.behind]
  | cons c rest ih =>
    rw [scan, scan]
    cases Pattern.firstAt? 0 patterns (c :: rest) with
    | some found => simp [Hit.behind]
    | none =>
      dsimp only
      rw [ih (c :: passed), ih [c], Option.map_map]
      congr 1
      funext hit
      simp [Hit.behind]

/-- A data marker has four characters, of which the first is a bracket. -/
theorem lengthAt?_data {text : List Char} {n : Nat}
    (h : (Pattern.marker .data).lengthAt? text = some n) : n = 4 ∧ ∃ rest, text = '[' :: rest := by
  obtain ⟨form, hform, rfl⟩ := Option.map_eq_some_iff.mp h
  obtain rfl := List.mem_singleton.mp (List.mem_of_find?_eq_some hform)
  have hstands := List.find?_some hform
  cases text with
  | nil => simp [stands] at hstands
  | cons c rest =>
    obtain ⟨hc, -⟩ := Bool.and_eq_true_iff.mp hstands
    exact ⟨rfl, rest, congrArg (· :: rest) (eq_of_beq hc).symm⟩

theorem matched_data {passed text : List Char} {hit : Hit}
    (h : scan [.marker .data] passed text = some hit) :
    ∃ size, hit.matched = '[' :: size ∧ size.length < Sample.tokenLength := by
  obtain ⟨-, rest, n, -, hfirst, -, -, hmatched, -⟩ := scan_eq_some h
  obtain ⟨-, pattern, hget, hlen⟩ := Pattern.firstAt?_eq_some hfirst
  obtain rfl := List.mem_singleton.mp (List.mem_of_getElem? hget)
  obtain ⟨rfl, rest, rfl⟩ := lengthAt?_data hlen
  refine ⟨rest.take 3, hmatched, ?_⟩
  rw [List.length_take]
  exact Nat.lt_of_le_of_lt (Nat.min_le_left ..) (by decide)

/-- The sample of a window stands before the data marker. -/
theorem findLast_window {passed text : List Char} {hit : Hit}
    (h : scan [.marker .data] passed text = some hit) :
    Sample.findLast (hit.before ++ hit.matched) = Sample.findLast hit.before := by
  obtain ⟨size, hmatched, hsize⟩ := matched_data h
  rw [hmatched, Sample.findLast_append_short (by decide) _ hsize]

end Output

/-! ## Data lines -/

namespace Reception

/-- Fewer windows show the first of the samples that more windows show. -/
theorem received_eq_take {limit more : Nat} (h : limit ≤ more) (text : List Char) :
    received limit text = (received more text).take limit := by
  induction limit generalizing more text with
  | zero => rfl
  | succ limit ih =>
    obtain ⟨more, rfl⟩ := Nat.exists_eq_add_of_le' h
    rw [← Nat.add_assoc]
    cases hscan : scan [.marker .data] [] text with
    | none => rw [received_of_none hscan, received_of_none hscan, List.take_nil]
    | some hit =>
      rw [received_of_some hscan, received_of_some hscan, List.take_succ_cons,
        ih (Nat.le_add_left ..)]

theorem length_received_le (limit : Nat) (text : List Char) :
    (received limit text).length ≤ limit := by
  induction limit generalizing text with
  | zero => exact Nat.le_refl 0
  | succ limit ih =>
    cases hscan : scan [.marker .data] [] text with
    | none =>
      rw [received_of_none hscan]
      exact Nat.zero_le _
    | some hit =>
      rw [received_of_some hscan]
      exact Nat.succ_le_succ (ih hit.rest)

/-- There is no data in a line feed. -/
theorem scan_lineFeed (text : List Char) :
    scan [.marker .data] [] ('\n' :: text) =
      (scan [.marker .data] [] text).map (.behind ['\n']) := by
  have hfirst : Pattern.firstAt? 0 [.marker .data] ('\n' :: text) = none := rfl
  rw [scan, hfirst]
  exact scan_passed [.marker .data] ['\n'] text

/-- A line feed in front makes no difference to what is received. -/
theorem received_lineFeed (limit : Nat) (text : List Char) :
    received limit ('\n' :: text) = received limit text := by
  cases limit with
  | zero => rfl
  | succ limit =>
    have hline := scan_lineFeed text
    cases hscan : scan [.marker .data] [] text with
    | none =>
      rw [hscan] at hline
      rw [received_of_none hscan, received_of_none hline]
    | some hit =>
      rw [hscan] at hline
      rw [received_of_some hscan, received_of_some hline]
      exact congrArg (· :: _) (Sample.findLast_cons (by decide) _)

/-- The sample of a line with one data marker and a token before it. -/
def dataLine? (line : List Char) : Option Sample :=
  match scan [.marker .data] [] (line ++ ['\n']) with
  | none => none
  | some hit =>
    if scan [.marker .data] [] hit.rest = none then Sample.findLast hit.before else none

/-- A data line shows its sample in front of one marker. -/
theorem scan_of_dataLine {line : List Char} {sample : Sample} (h : dataLine? line = some sample) :
    ∃ hit, scan [.marker .data] [] (line ++ ['\n']) = some hit ∧
      scan [.marker .data] [] hit.rest = none ∧ Sample.findLast hit.before = some sample := by
  rw [dataLine?] at h
  cases hscan : scan [.marker .data] [] (line ++ ['\n']) with
  | none =>
    rw [hscan] at h
    cases h
  | some hit =>
    rw [hscan] at h
    dsimp only at h
    split at h
    · exact ⟨hit, rfl, by assumption, h⟩
    · cases h

/-- Without a bracket there is no data marker. -/
theorem scan_skip_data {skipped : List Char} (h : '[' ∉ skipped) (passed rest : List Char) :
    scan [.marker .data] passed (skipped ++ rest) =
      scan [.marker .data] (skipped.reverse ++ passed) rest := by
  refine scan_skip passed fun i hi => ?_
  have hne : ('[' == skipped[i]) = false :=
    beq_eq_false_iff_ne.mpr fun heq => h (heq ▸ List.getElem_mem hi)
  rw [List.drop_append_of_le_length (Nat.le_of_lt hi), List.drop_eq_getElem_cons hi,
    List.cons_append]
  refine Pattern.firstAt?_eq_none_iff.mpr fun pattern hpattern form hform => ?_
  obtain rfl := List.mem_singleton.mp hpattern
  obtain rfl := List.mem_singleton.mp hform
  rw [stands, Cell.accepts, hne, Bool.false_and]

/-- A line with a token and a size after it is a data line. -/
theorem dataLine?_token {a b c d e f : Char}
    (h : ∀ digit ∈ [a, b, c, d, e, f], Sample.isDigit digit = true) :
    dataLine? ([a, b, c, ' ', d, e, f] ++ " [20]".toList) =
      some ⟨String.ofList [a, b, c, ' ', d, e, f]⟩ := by
  have hdigits : '[' ∉ [a, b, c, d, e, f] := fun hmem => absurd (h '[' hmem) (by decide)
  have hbracket : '[' ∉ [a, b, c, ' ', d, e, f, ' '] := by simpa using hdigits
  have hscan : scan [.marker .data] [] ([a, b, c, ' ', d, e, f] ++ " [20]".toList ++ ['\n']) =
      some ⟨0, [a, b, c, ' ', d, e, f, ' '], ['[', '2', '0', ']'], ['\n']⟩ :=
    scan_skip_data hbracket [] ['[', '2', '0', ']', '\n']
  have hspace : Sample.isDigit ' ' = false := by decide
  simp only [List.forall_mem_cons] at h
  have hrest : scan [.marker .data] [] ['\n'] = none := rfl
  rw [dataLine?, hscan]
  dsimp only
  rw [if_pos hrest]
  simp [Sample.findLast, Sample.findLastFrom, Sample.startsToken, Sample.tokenLength, h, hspace]

/-- Data lines show their samples, after whatever lines without a data marker. -/
theorem received_joinLines {lines : List (List Char)} {samples : List Sample}
    (hlines : lines.map dataLine? = samples.map some) {front : List Char}
    (hended : LineEnded front) (hfront : scan [.marker .data] [] front = none) (limit : Nat) :
    received limit (front ++ joinLines lines) = (samples.map some).take limit := by
  induction lines generalizing front samples limit with
  | nil =>
    rw [joinLines_nil, List.append_nil, received_of_none hfront, ← hlines, List.map_nil,
      List.take_nil]
  | cons line rest ih =>
    cases limit with
    | zero => rfl
    | succ limit =>
      obtain ⟨sample, others, rfl⟩ : ∃ sample others, samples = sample :: others := by
        cases samples with
        | nil => cases hlines
        | cons sample others => exact ⟨sample, others, rfl⟩
      rw [List.map_cons, List.map_cons, List.cons.injEq] at hlines
      obtain ⟨hit, hscan, hrest, hsample⟩ := scan_of_dataLine hlines.1
      -- the hit is in the line, and what the line has after it goes in front of the next one
      have hline : LineEnded (line ++ ['\n']) := lineEnded_line [] line
      have hhit : scan [.marker .data] [] (front ++ joinLines (line :: rest)) =
          some ⟨hit.index, front ++ hit.before, hit.matched, hit.rest ++ joinLines rest⟩ := by
        have hfirst := scan_markers_append hended [.data] [] (joinLines (line :: rest))
        have hsecond := scan_markers_append hline [.data] [] (joinLines rest)
        rw [List.map_singleton, hfront] at hfirst
        rw [List.map_singleton, hscan] at hsecond
        have hcons : joinLines (line :: rest) = line ++ ['\n'] ++ joinLines rest :=
          append_joinLines_cons [] line rest
        rw [hfirst, scan_passed, hcons, hsecond]
        simp [Hit.behind]
      rw [received_of_some hhit, ih hlines.2 (lineEnded_rest hline hscan) hrest limit,
        List.map_cons, List.take_succ_cons, findLast_window hhit, Sample.findLast_append hsample]

end Reception

end PubSubTrials
