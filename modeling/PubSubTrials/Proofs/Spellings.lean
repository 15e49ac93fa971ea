import PubSubTrials.Run.Deployment

/-!
# Parameters in all the ways to write them

A word may be put together from pieces, of which some stand in quotes of either kind
(`Parameters.Spells`), and words are set apart by blanks (`Parameters.IsWrittenAs`). Each list of
words can be written, and from each way to write it these very words are read, so they are the last
words on the command line of an application (`Deployment.commandLine_of_isWrittenAs`).

A reader that is inside a word holds its characters so far, so one lemma about a piece inside a word
(`wordsFrom_bare_written`) is enough for all pieces but those at the start of a word.
-/

namespace PubSubTrials

namespace Parameters

/-! ## Pieces of words -/

/-- A part of a word as it is written: as it is, or between two quotes. -/
inductive Piece where
  | bare (text : List Char)
  | quoted (mark : Char) (text : List Char)
  deriving DecidableEq, Repr

namespace Piece

/-- What a piece adds to its word. -/
def content : Piece → List Char
  | bare text => text
  | quoted _ text => text

/-- How a piece is written. -/
def written : Piece → List Char
  | bare text => text
  | quoted mark text => mark :: (text ++ [mark])

/-- In a bare piece there are neither quotes nor blanks, and in quotes there is not the same
quote. -/
def IsSound : Piece → Prop
  | bare text => ∀ c ∈ text, isQuote c = false ∧ isBlank c = false
  | quoted mark text => isQuote mark = true ∧ mark ∉ text

end Piece

/-- A text that spells a word by pieces; a word without characters takes quotes. -/
def Spells (word written : List Char) : Prop :=
  ∃ pieces : List Piece, (∀ piece ∈ pieces, piece.IsSound) ∧
    (word = [] → ∃ mark text, Piece.quoted mark text ∈ pieces) ∧
    word = pieces.flatMap Piece.content ∧ written = pieces.flatMap Piece.written

/-- Whether a text holds nothing but blanks. -/
def AllBlank (text : List Char) : Prop := ∀ c ∈ text, isBlank c = true

theorem allBlank_nil : AllBlank [] := fun _ hnone => nomatch hnone

theorem allBlank_singleton {c : Char} (h : isBlank c = true) : AllBlank [c] := by
  intro d hd
  rwa [List.mem_singleton.mp hd]

/-- Words that are spelled one after the other, each with blanks behind it; only the last one may be
without. -/
inductive Joins : List (List Char) → List Char → Prop where
  | nothing : Joins [] []
  | word {word written gap text : List Char} {words : List (List Char)}
      (hword : Spells word written) (hgap : AllBlank gap) (hlast : gap = [] → words = []) (hrest : Joins words text) :
      Joins (word :: words) (written ++ (gap ++ text))

/-- Parameters that hold words in one of the ways to write them. -/
def IsWrittenAs (words : List String) (parameters : String) : Prop :=
  ∃ leading text, AllBlank leading ∧ Joins (words.map String.toList) text ∧
    parameters.toList = leading ++ text

/-! ## Reading words -/

/-- A quote is closed by the same quote. -/
theorem wordsFrom_quoted {mark : Char} {text : List Char} (h : mark ∉ text)
    (word rest : List Char) :
    wordsFrom (.quoted mark word) (text ++ mark :: rest) =
      wordsFrom (.bare (text.reverse ++ word)) rest := by
  induction text generalizing word with
  | nil => rw [List.nil_append, wordsFrom, if_pos rfl, List.reverse_nil, List.nil_append]
  | cons c text ih =>
    rw [List.mem_cons, not_or] at h
    rw [List.cons_append, wordsFrom, if_neg (Ne.symm h.1), ih h.2, List.reverse_cons,
      List.append_assoc, List.singleton_append]

/-- Characters that are neither quotes nor blanks go on with a word. -/
theorem wordsFrom_bare_plain {text : List Char}
    (h : ∀ c ∈ text, isQuote c = false ∧ isBlank c = false) (word rest : List Char) :
    wordsFrom (.bare word) (text ++ rest) = wordsFrom (.bare (text.reverse ++ word)) rest := by
  induction text generalizing word with
  | nil => rfl
  | cons c text ih =>
    obtain ⟨⟨hquote, hblank⟩, htext⟩ := List.forall_mem_cons.mp h
    rw [List.cons_append, wordsFrom, hquote, hblank, if_neg Bool.false_ne_true,
      if_neg Bool.false_ne_true, ih htext, List.reverse_cons, List.append_assoc,
      List.singleton_append]

/-- A piece goes on with a word. -/
theorem wordsFrom_bare_written {piece : Piece} (h : piece.IsSound) (word rest : List Char) :
    wordsFrom (.bare word) (piece.written ++ rest) =
      wordsFrom (.bare (piece.content.reverse ++ word)) rest := by
  cases piece with
  | bare text => exact wordsFrom_bare_plain h word rest
  | quoted mark text =>
    obtain ⟨hmark, htext⟩ := h
    simp only [Piece.written, Piece.content, List.cons_append, List.append_assoc, List.nil_append]
    rw [wordsFrom, if_pos hmark, wordsFrom_quoted htext]

/-- Pieces go on with a word one after the other. -/
theorem wordsFrom_bare_pieces {pieces : List Piece} (h : ∀ piece ∈ pieces, piece.IsSound)
    (word rest : List Char) :
    wordsFrom (.bare word) (pieces.flatMap Piece.written ++ rest) =
      wordsFrom (.bare ((pieces.flatMap Piece.content).reverse ++ word)) rest := by
  induction pieces generalizing word with
  | nil => rfl
  | cons piece pieces ih =>
    obtain ⟨hpiece, hpieces⟩ := List.forall_mem_cons.mp h
    rw [List.flatMap_cons, List.flatMap_cons, List.append_assoc, wordsFrom_bare_written hpiece,
      ih hpieces, List.reverse_append, List.append_assoc]

/-- The first piece starts the word, if there are quotes or any character in it. -/
theorem wordsFrom_between_written {piece : Piece} (h : piece.IsSound)
    (hbegins : piece.written ≠ []) (rest : List Char) :
    wordsFrom .between (piece.written ++ rest) = wordsFrom (.bare piece.content.reverse) rest := by
  cases piece with
  | bare text =>
    cases text with
    | nil => exact absurd rfl hbegins
    | cons c text =>
      obtain ⟨⟨hquote, hblank⟩, htext⟩ := List.forall_mem_cons.mp h
      simp only [Piece.written, Piece.content]
      rw [List.cons_append, wordsFrom, hquote, hblank, if_neg Bool.false_ne_true,
        if_neg Bool.false_ne_true, wordsFrom_bare_plain htext, List.reverse_cons]
  | quoted mark text =>
    obtain ⟨hmark, htext⟩ := h
    simp only [Piece.written, Piece.content, List.cons_append, List.append_assoc, List.nil_append]
    rw [wordsFrom, if_pos hmark, wordsFrom_quoted htext, List.append_nil]

/-- A word is read from what spells it. -/
theorem wordsFrom_between_spells {word written : List Char} (h : Spells word written)
    (rest : List Char) :
    wordsFrom .between (written ++ rest) = wordsFrom (.bare word.reverse) rest := by
  obtain ⟨pieces, hsound, hempty, rfl, rfl⟩ := h
  induction pieces with
  | nil =>
    obtain ⟨mark, text, hmem⟩ := hempty rfl
    cases hmem
  | cons piece pieces ih =>
    obtain ⟨hpiece, hpieces⟩ := List.forall_mem_cons.mp hsound
    rw [List.flatMap_cons, List.flatMap_cons, List.append_assoc]
    by_cases hwritten : piece.written = []
    · -- nothing was written yet, so the word starts with a later piece
      have hcontent : piece.content = [] := by
        cases piece with
        | bare text => exact hwritten
        | quoted mark text => cases hwritten
      rw [hwritten, hcontent, List.nil_append, List.nil_append]
      refine ih hpieces fun hword => ?_
      obtain ⟨mark, text, hmem⟩ := hempty (by rw [List.flatMap_cons, hcontent, hword]; rfl)
      rcases List.mem_cons.mp hmem with rfl | hmem
      · cases hwritten
      · exact ⟨mark, text, hmem⟩
    · rw [wordsFrom_between_written hpiece hwritten, wordsFrom_bare_pieces hpieces,
        List.reverse_append]

theorem isQuote_of_isBlank {c : Char} (h : isBlank c = true) : isQuote c = false := by
  simp only [isBlank, Bool.or_eq_true, decide_eq_true_eq] at h
  rcases h with (((rfl | rfl) | rfl) | rfl) | rfl
  all_goals decide

/-- Blanks between words are passed over. -/
theorem wordsFrom_between_blanks {blanks : List Char} (h : AllBlank blanks) (rest : List Char) :
    wordsFrom .between (blanks ++ rest) = wordsFrom .between rest := by
  induction blanks with
  | nil => rfl
  | cons c blanks ih =>
    obtain ⟨hblank, hblanks⟩ := List.forall_mem_cons.mp h
    rw [List.cons_append, wordsFrom, isQuote_of_isBlank hblank, hblank,
      if_neg Bool.false_ne_true, if_pos rfl]
    exact ih hblanks

/-- A word ends at a blank. -/
theorem wordsFrom_bare_blanks {blanks : List Char} (h : AllBlank blanks) (hne : blanks ≠ [])
    (word rest : List Char) :
    wordsFrom (.bare word) (blanks ++ rest) = word.reverse :: wordsFrom .between rest := by
  cases blanks with
  | nil => exact absurd rfl hne
  | cons c blanks =>
    obtain ⟨hblank, hblanks⟩ := List.forall_mem_cons.mp h
    rw [List.cons_append, wordsFrom, isQuote_of_isBlank hblank, hblank,
      if_neg Bool.false_ne_true, if_pos rfl, wordsFrom_between_blanks hblanks]

/-- Words that are spelt one after the other are read as they are meant, by induction over the
spelling. -/
theorem wordsFrom_joins {words : List (List Char)} {text : List Char} (h : Joins words text) :
    wordsFrom .between text = words := by
  induction h with
  | nothing => rfl
  | @word word written gap text words hword hgap hlast hrest ih =>
    rw [wordsFrom_between_spells hword]
    by_cases hnone : gap = []
    · obtain rfl := hlast hnone
      cases hrest
      rw [hnone, List.nil_append, wordsFrom, List.reverse_reverse]
    · rw [wordsFrom_bare_blanks hgap hnone, List.reverse_reverse, ih]

/-- Words are read from each text that holds them. -/
theorem words_of_isWrittenAs {meant : List String} {parameters : String}
    (h : IsWrittenAs meant parameters) : words parameters = meant := by
  obtain ⟨leading, text, hleading, hjoins, htext⟩ := h
  have hsame : String.ofList ∘ String.toList = id := funext fun _ => String.ofList_toList
  rw [words, htext, wordsFrom_between_blanks hleading, wordsFrom_joins hjoins, List.map_map, hsame,
    List.map_id]

/-! ## There is always a way to write them -/

/-- A character in quotes that it is not itself. -/
def quotedChar (c : Char) : Piece :=
  .quoted (if c = '"' then '\'' else '"') [c]

/-- Any character can be quoted by itself. -/
theorem isSound_quotedChar (c : Char) : (quotedChar c).IsSound := by
  unfold quotedChar Piece.IsSound
  by_cases hc : c = '"'
  · subst hc
    exact ⟨rfl, by decide⟩
  · rw [if_neg hc]
    exact ⟨rfl, fun hmem => hc (List.mem_singleton.mp hmem).symm⟩

/-- Every word can be spelled, also one with both quotes in it. -/
theorem exists_spells (word : List Char) : ∃ written, Spells word written := by
  refine ⟨_, .quoted '"' [] :: word.map quotedChar, ?_, ?_, ?_, rfl⟩
  · refine List.forall_mem_cons.mpr ⟨⟨rfl, List.not_mem_nil⟩, fun piece hpiece => ?_⟩
    obtain ⟨c, -, rfl⟩ := List.mem_map.mp hpiece
    exact isSound_quotedChar c
  · intro _
    exact ⟨'"', [], List.mem_cons_self⟩
  · rw [List.flatMap_cons, List.flatMap_map]
    exact (List.flatMap_singleton' word).symm

theorem exists_joins (words : List (List Char)) : ∃ text, Joins words text := by
  induction words with
  | nil => exact ⟨[], .nothing⟩
  | cons word words ih =>
    obtain ⟨written, hwritten⟩ := exists_spells word
    obtain ⟨text, htext⟩ := ih
    have hgap : AllBlank [' '] := allBlank_singleton rfl
    exact ⟨_, .word hwritten hgap (fun hnone => nomatch hnone) htext⟩

/-- There are parameters for any list of words. -/
theorem exists_isWrittenAs (meant : List String) :
    ∃ parameters, IsWrittenAs meant parameters := by
  obtain ⟨text, htext⟩ := exists_joins (meant.map String.toList)
  refine ⟨String.ofList text, [], text, allBlank_nil, htext, ?_⟩
  rw [String.toList_ofList, List.nil_append]

end Parameters

namespace Deployment

open Parameters

/-- Any words can be written as parameters, and however that is done, they are read from them, and
an entity is started by the leading words, its executable, the flag of its role and these words. -/
theorem commandLine_of_isWrittenAs (meant : List String) :
    (∃ parameters, IsWrittenAs meant parameters) ∧
    ∀ parameters, IsWrittenAs meant parameters →
      words parameters = meant ∧
      ∀ (deployment : Deployment) (role : Role),
        (deployment.invocation role parameters).words =
          deployment.leading ++ [(deployment.executable role).text, role.flag] ++ meant ∧
        deployment.commandLine role parameters =
          deployment.leading ++ [(deployment.executable role).text, role.flag] ++ meant := by
  refine ⟨exists_isWrittenAs meant, fun parameters hwritten => ?_⟩
  have hwords := words_of_isWrittenAs hwritten
  refine ⟨hwords, fun deployment role => ?_⟩
  have hline : deployment.commandLine role parameters =
      deployment.leading ++ [(deployment.executable role).text, role.flag] ++ meant := by
    rw [commandLine, entityWords, hwords, List.append_assoc]
    rfl
  exact ⟨(deployment.words_invocation role parameters).trans hline, hline⟩

/-- Publisher and subscriber are started by the same leading words. -/
def pinned : Deployment := ⟨["taskset", "-c"], ⟨"/bin/pub"⟩, ⟨"/bin/sub"⟩, .pipe⟩

/-- Words behind a blank: a flag, one in pieces with both kinds of quotes, and one without any
character. -/
def quotedParameters : String := " -p\t\"a b\"'\"'c ''"

/-- The theorem for a word of several pieces with blanks and quotes in it, and for an empty word. -/
theorem commandLine_of_isWrittenAs_pieces :
    IsWrittenAs ["-p", "a b\"c", ""] quotedParameters ∧
    words quotedParameters = ["-p", "a b\"c", ""] ∧
    (pinned.invocation .subscriber quotedParameters).words =
      ["taskset", "-c", "/bin/sub", "-S", "-p", "a b\"c", ""] := by
  have hflag : Spells "-p".toList "-p".toList :=
    ⟨[.bare "-p".toList], by simp [Piece.IsSound, isQuote, isBlank], nofun, rfl, rfl⟩
  have hpieces : Spells "a b\"c".toList "\"a b\"'\"'c".toList :=
    ⟨[.quoted '"' "a b".toList, .quoted '\'' "\"".toList, .bare ['c']],
      by simp [Piece.IsSound, isQuote, isBlank], nofun, rfl, rfl⟩
  have hempty : Spells "".toList "''".toList :=
    ⟨[.quoted '\'' []], by simp [Piece.IsSound, isQuote],
      fun _ => ⟨'\'', [], List.mem_cons_self⟩, rfl, rfl⟩
  have hwritten : IsWrittenAs ["-p", "a b\"c", ""] quotedParameters := by
    refine ⟨[' '], _, allBlank_singleton rfl, ?_, rfl⟩
    have hlast : Joins ["".toList] ("''".toList ++ ([] ++ [])) :=
      .word hempty allBlank_nil (fun _ => rfl) .nothing
    have hlater := Joins.word hpieces (allBlank_singleton (c := ' ') rfl) nofun hlast
    exact .word hflag (allBlank_singleton (c := '\t') rfl) nofun hlater
  obtain ⟨hwords, hline⟩ := (commandLine_of_isWrittenAs _).2 _ hwritten
  exact ⟨hwritten, hwords, (hline pinned .subscriber).1⟩

end Deployment

end PubSubTrials
