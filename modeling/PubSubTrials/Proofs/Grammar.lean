import PubSubTrials.Proofs.Layout

/-!
# The grammar of JSON

A value is `null`, a truth value, a number, a string, a list of values or an object, which is a list
of members with a key and a value each (`IsValue`). Keys and strings are taken as they are written:
a string of the grammar may hold half of a pair of escapes, which stands for no character.

No text can be taken apart in two ways. A value at the front of a text ends where it ends in
every other reading of that text, as long as nothing behind it could belong to a number
(`IsValue.eq_of_append`); hence a list has one list of items, and an object one list of members
(`HasItems.unique`, `HasMembers.unique`).
-/

namespace PubSubTrials.Json

open Reader
open Sample (isDigit)

/-! ## Strings and numbers -/

/-- Four hexadecimal digits. -/
def IsQuad (digits : List Char) : Prop :=
  digits.length = 4 ∧ ∀ c ∈ digits, ∃ n, IsHexDigit n c

/-- What stands behind the opening quote of a string. -/
inductive EndsString : List Char → Prop where
  | close : EndsString ['"']
  | plain {c : Char} {text : List Char} (hquote : c ≠ '"') (hslash : c ≠ '\\')
      (hcontrol : ¬ c.toNat < 0x20) (h : EndsString text) : EndsString (c :: text)
  | letter {letter : Char} {text : List Char} (hletter : letter ∈ shortEscapes.map Prod.fst)
      (h : EndsString text) : EndsString ('\\' :: letter :: text)
  | number {digits text : List Char} (hdigits : IsQuad digits) (h : EndsString text) :
      EndsString ('\\' :: 'u' :: (digits ++ text))

/-- A string in quotes, as it is written. -/
def IsString (written : List Char) : Prop :=
  ∃ text, EndsString text ∧ written = '"' :: text

/-- One or more digits. -/
def AllDigits (text : List Char) : Prop :=
  text ≠ [] ∧ ∀ c ∈ text, isDigit c = true

/-- A whole number, with no zero in front of other digits. -/
def IsWhole (written : List Char) : Prop :=
  AllDigits written ∧ (written.head? = some '0' → written = ['0'])

/-- A number: a whole number with or without a sign, decimal places and an exponent. -/
def IsNumber (written : List Char) : Prop :=
  ∃ sign whole decimals exponent, (sign = [] ∨ sign = ['-']) ∧ IsWhole whole ∧
    (decimals = [] ∨ ∃ places, AllDigits places ∧ decimals = '.' :: places) ∧
    (exponent = [] ∨ ∃ letter direction power, (letter = 'e' ∨ letter = 'E') ∧
      (direction = [] ∨ direction = ['+'] ∨ direction = ['-']) ∧ AllDigits power ∧
      exponent = letter :: (direction ++ power)) ∧
    written = sign ++ (whole ++ (decimals ++ exponent))

/-! ## Values -/

/-- A member of an object: a key, a colon and a value, with blanks around the colon. -/
def MemberForm (member : List Char × List Char) (written : List Char) : Prop :=
  ∃ before after, IsString member.1 ∧ AllBlank before ∧ AllBlank after ∧
    written = member.1 ++ (before ++ ':' :: (after ++ member.2))

/-- The values that are written as words. -/
def words : List (List Char) :=
  [['n', 'u', 'l', 'l'], ['t', 'r', 'u', 'e'], ['f', 'a', 'l', 's', 'e']]

/-- A value as it is written. -/
inductive IsValue : List Char → Prop where
  | word {written : List Char} (h : written ∈ words) : IsValue written
  | number {written : List Char} (h : IsNumber written) : IsValue written
  | string {written : List Char} (h : IsString written) : IsValue written
  | list {items : List (List Char)} {written : List Char} (hitems : ∀ item ∈ items, IsValue item)
      (h : Encloses '[' ']' items written) : IsValue written
  | object {members : List (List Char × List Char)} {parts : List (List Char)}
      {written : List Char} (hvalues : ∀ member ∈ members, IsValue member.2)
      (hparts : List.Forall₂ MemberForm members parts)
      (h : Encloses '\x7b' '\x7d' parts written) : IsValue written

/-- A list with these items. -/
def HasItems (written : List Char) (items : List (List Char)) : Prop :=
  (∀ item ∈ items, IsValue item) ∧ Encloses '[' ']' items written

/-- An object with these members, each of them a key and a value. -/
def HasMembers (written : List Char) (members : List (List Char × List Char)) : Prop :=
  ∃ parts, (∀ member ∈ members, IsValue member.2) ∧ List.Forall₂ MemberForm members parts ∧
    Encloses '\x7b' '\x7d' parts written

/-- A text is that of a value, with blanks around it. -/
def IsText (text written : List Char) : Prop :=
  ∃ before after, AllBlank before ∧ IsValue written ∧ AllBlank after ∧
    text = before ++ (written ++ after)

/-! ## How values start -/

/-- What a text with this first character is, if it is a value. -/
def Shape (written : List Char) : Char → Prop
  | 'n' | 't' | 'f' => written ∈ words
  | '"' => IsString written
  | '[' => ∃ items, HasItems written items
  | '\x7b' => ∃ members, HasMembers written members
  | _ => IsNumber written

theorem cons_of_isNumber {written : List Char} (h : IsNumber written) :
    ∃ c tail, written = c :: tail ∧ (c = '-' ∨ isDigit c = true) := by
  obtain ⟨sign, whole, decimals, exponent, hsign, ⟨⟨hne, hdigits⟩, -⟩, -, -, rfl⟩ := h
  rcases hsign with rfl | rfl
  · obtain ⟨c, tail, rfl⟩ := List.exists_cons_of_ne_nil hne
    exact ⟨c, _, rfl, .inr (hdigits c List.mem_cons_self)⟩
  · exact ⟨'-', _, rfl, .inl rfl⟩

theorem cons_of_encloses {opening closing : Char} {parts : List (List Char)} {text : List Char}
    (h : Encloses opening closing parts text) : ∃ tail, text = opening :: tail := by
  cases h with
  | nothing _ => exact ⟨_, rfl⟩
  | parts _ _ => exact ⟨_, rfl⟩

/-- Whether a character may stand at the front of a part: it is seen, and it closes nothing. -/
def startsPart (c : Char) : Bool :=
  !isBlank c && c != ']' && c != '\x7d'

/-- The first character of a value tells what kind of value it is. -/
theorem IsValue.shape {written : List Char} (h : IsValue written) :
    ∃ c tail, written = c :: tail ∧ startsPart c = true ∧ Shape written c := by
  cases h with
  | word h =>
    have hword := h
    simp only [words, List.mem_cons, List.not_mem_nil, or_false] at h
    rcases h with rfl | rfl | rfl
    · exact ⟨'n', _, rfl, rfl, hword⟩
    · exact ⟨'t', _, rfl, rfl, hword⟩
    · exact ⟨'f', _, rfl, rfl, hword⟩
  | number h =>
    obtain ⟨c, tail, rfl, hc⟩ := cons_of_isNumber h
    refine ⟨c, tail, rfl, ?_, ?_⟩
    · -- neither a sign nor a digit is a mark or a blank
      cases hstarts : startsPart c with
      | true => rfl
      | false =>
        simp only [startsPart, isBlank, Bool.and_eq_false_iff, Bool.not_eq_false',
          Bool.or_eq_true, decide_eq_true_eq, bne_eq_false_iff_eq] at hstarts
        rcases hstarts with ((((rfl | rfl) | rfl) | rfl) | rfl) | rfl
        all_goals exact absurd hc (by decide)
    · unfold Shape
      split
      all_goals first
        | exact h
        | exact absurd hc (by decide)
  | string h =>
    obtain ⟨text, htext, rfl⟩ := h
    exact ⟨'"', text, rfl, rfl, text, htext, rfl⟩
  | list hitems h =>
    obtain ⟨tail, rfl⟩ := cons_of_encloses h
    exact ⟨'[', tail, rfl, rfl, _, hitems, h⟩
  | object hvalues hparts h =>
    obtain ⟨tail, rfl⟩ := cons_of_encloses h
    exact ⟨'\x7b', tail, rfl, rfl, _, _, hvalues, hparts, h⟩

/-! ## Where values end -/

/-- Whether a character may belong to a number. -/
def isNumberPart (c : Char) : Bool :=
  isDigit c || ['+', '-', '.', 'e', 'E'].contains c

/-- Nothing that could belong to a number stands in front of a text. -/
def Stops (rest : List Char) : Prop := ∀ c ∈ rest.head?, isNumberPart c = false

theorem isNumberPart_of_isBlank {c : Char} (h : isBlank c = true) : isNumberPart c = false := by
  simp only [isBlank, Bool.or_eq_true, decide_eq_true_eq] at h
  rcases h with ((rfl | rfl) | rfl) | rfl
  all_goals decide

theorem stops_of_allBlank {blanks : List Char} (h : AllBlank blanks) : Stops blanks := by
  intro c hc
  exact isNumberPart_of_isBlank (h c (List.mem_of_mem_head? hc))

theorem stops_of_ends {closing : Char} (hclosing : isNumberPart closing = false)
    {parts : List (List Char)} {text : List Char} (h : Ends closing parts text)
    (rest : List Char) : Stops (text ++ rest) := by
  have hblanks : ∀ {blanks left : List Char}, AllBlank blanks → Stops left →
      Stops (blanks ++ left) := by
    intro blanks left hblanks hleft
    cases blanks with
    | nil => exact hleft
    | cons d blanks =>
      intro c hc
      obtain rfl : d = c := Option.some.inj hc
      exact isNumberPart_of_isBlank (hblanks d List.mem_cons_self)
  cases h with
  | close hclose =>
    rw [List.append_assoc]
    exact hblanks hclose fun c hc => Option.some.inj hc ▸ hclosing
  | comma hbefore _ _ =>
    rw [List.append_assoc]
    exact hblanks hbefore fun c hc => Option.some.inj hc ▸ (by decide)

/-- Blanks end at the first character that is not blank. -/
theorem allBlank_append_inj {blanks others text rest : List Char} {c d : Char}
    (hblanks : AllBlank blanks) (hothers : AllBlank others) (hc : isBlank c = false)
    (hd : isBlank d = false) (h : blanks ++ c :: text = others ++ d :: rest) :
    blanks = others ∧ c = d ∧ text = rest := by
  induction blanks generalizing others with
  | nil =>
    cases others with
    | nil =>
      obtain ⟨rfl, rfl⟩ := List.cons.inj h
      exact ⟨rfl, rfl, rfl⟩
    | cons e others =>
      obtain ⟨rfl, -⟩ := List.cons.inj h
      rw [hothers c List.mem_cons_self] at hc
      cases hc
  | cons e blanks ih =>
    cases others with
    | nil =>
      obtain ⟨rfl, -⟩ := List.cons.inj h
      rw [hblanks e List.mem_cons_self] at hd
      cases hd
    | cons f others =>
      obtain ⟨rfl, hrest⟩ := List.cons.inj h
      obtain ⟨rfl, heq⟩ := ih (fun c hc => hblanks c (List.mem_cons_of_mem _ hc))
        (fun c hc => hothers c (List.mem_cons_of_mem _ hc)) hrest
      exact ⟨rfl, heq⟩

/-- A string ends at its closing quote. -/
theorem EndsString.eq_of_append {text other rest left : List Char} (h : EndsString text)
    (h' : EndsString other) (heq : text ++ rest = other ++ left) : text = other := by
  -- step by step both strings have to take the same character
  induction h generalizing other with
  | close =>
    cases h' with
    | close => rfl
    | plain hquote _ _ _ => exact absurd (List.cons.inj heq).1.symm hquote
    | letter _ _ => exact absurd (List.cons.inj heq).1 (by decide)
    | number _ _ => exact absurd (List.cons.inj heq).1 (by decide)
  | plain hquote hslash _ _ ih =>
    cases h' with
    | close => exact absurd (List.cons.inj heq).1 hquote
    | plain _ _ _ h' =>
      obtain ⟨rfl, hrest⟩ := List.cons.inj heq
      rw [ih h' hrest]
    | letter _ _ => exact absurd (List.cons.inj heq).1 hslash
    | number _ _ => exact absurd (List.cons.inj heq).1 hslash
  | letter hletter _ ih =>
    cases h' with
    | close => exact absurd (List.cons.inj heq).1 (by decide)
    | plain _ hslash _ _ => exact absurd (List.cons.inj heq).1.symm hslash
    | letter _ h' =>
      obtain ⟨rfl, hrest⟩ := List.cons.inj (List.cons.inj heq).2
      rw [ih h' hrest]
    | number _ _ =>
      obtain ⟨rfl, -⟩ := List.cons.inj (List.cons.inj heq).2
      exact absurd hletter (by decide)
  | number hdigits _ ih =>
    cases h' with
    | close => exact absurd (List.cons.inj heq).1 (by decide)
    | plain _ hslash _ _ => exact absurd (List.cons.inj heq).1.symm hslash
    | letter hletter _ =>
      obtain ⟨rfl, -⟩ := List.cons.inj (List.cons.inj heq).2
      exact absurd hletter (by decide)
    | number hdigits' h' =>
      simp only [List.cons_append, List.append_assoc, List.cons.injEq, true_and] at heq
      obtain ⟨rfl, hrest⟩ := List.append_inj heq (hdigits.1.trans hdigits'.1.symm)
      rw [ih h' hrest]

/-- A string ends at its own closing quote: two strings in front of one text are the same. -/
theorem IsString.eq_of_append {text other rest left : List Char} (h : IsString text)
    (h' : IsString other) (heq : text ++ rest = other ++ left) : text = other := by
  obtain ⟨text, htext, rfl⟩ := h
  obtain ⟨other, hother, rfl⟩ := h'
  rw [htext.eq_of_append hother (List.cons.inj heq).2]

theorem isNumberPart_of_mem {written : List Char} (h : IsNumber written) :
    ∀ c ∈ written, isNumberPart c = true := by
  obtain ⟨sign, whole, decimals, exponent, hsign, ⟨⟨-, hwhole⟩, -⟩, hdecimals, hexponent, rfl⟩ := h
  have hdigits : ∀ {digits : List Char}, (∀ c ∈ digits, isDigit c = true) →
      ∀ c ∈ digits, isNumberPart c = true := by
    intro digits hdigits c hc
    rw [isNumberPart, hdigits c hc, Bool.true_or]
  have hnone : ∀ c ∈ ([] : List Char), isNumberPart c = true := List.forall_mem_nil _
  have hsigns : ∀ c ∈ sign, isNumberPart c = true := by
    rcases hsign with rfl | rfl
    · exact hnone
    · exact List.forall_mem_singleton.mpr rfl
  have hplaces : ∀ c ∈ decimals, isNumberPart c = true := by
    rcases hdecimals with rfl | ⟨places, hplaces, rfl⟩
    · exact hnone
    · exact List.forall_mem_cons.mpr ⟨rfl, hdigits hplaces.2⟩
  have hpower : ∀ c ∈ exponent, isNumberPart c = true := by
    rcases hexponent with rfl | ⟨letter, direction, power, hletter, hdirection, hpower, rfl⟩
    · exact hnone
    · refine List.forall_mem_cons.mpr ⟨?_, List.forall_mem_append.mpr ⟨?_, hdigits hpower.2⟩⟩
      · rcases hletter with rfl | rfl
        all_goals rfl
      · rcases hdirection with rfl | rfl | rfl
        · exact hnone
        · exact List.forall_mem_singleton.mpr rfl
        · exact List.forall_mem_singleton.mpr rfl
  exact List.forall_mem_append.mpr ⟨hsigns, List.forall_mem_append.mpr ⟨hdigits hwhole,
    List.forall_mem_append.mpr ⟨hplaces, hpower⟩⟩⟩

/-- A number ends where nothing more can belong to it. -/
theorem IsNumber.eq_of_append {text other rest left : List Char} (h : IsNumber text)
    (h' : IsNumber other) (heq : text ++ rest = other ++ left) (hrest : Stops rest)
    (hleft : Stops left) : text = other := by
  have htake : ∀ {written behind : List Char}, IsNumber written → Stops behind →
      (written ++ behind).takeWhile isNumberPart = written := by
    intro written behind hwritten hbehind
    have hnone : behind.takeWhile isNumberPart = [] := by
      cases behind with
      | nil => rfl
      | cons c behind =>
        exact List.takeWhile_cons_of_neg (by rw [hbehind c rfl]; exact Bool.false_ne_true)
    rw [List.takeWhile_append_of_pos (isNumberPart_of_mem hwritten), hnone, List.append_nil]
  rw [← htake h hrest, heq, htake h' hleft]

/-! ## Parts of lists and objects -/

/-- A part starts visibly, and not like the end of a list or an object. -/
def Opens (part : List Char) : Prop := ∃ c tail, part = c :: tail ∧ startsPart c = true

/-- Where one part stands at the front of a text the other one does not, unless they are the
same. -/
def Aligns (part other : List Char) : Prop :=
  ∀ rest left : List Char, part ++ rest = other ++ left → Stops rest → Stops left →
    part = other

theorem isBlank_of_startsPart {c : Char} (h : startsPart c = true) : isBlank c = false := by
  simp only [startsPart, Bool.and_eq_true, Bool.not_eq_true'] at h
  exact h.1.1

/-- Two parts with blanks around them that make up the same text are the same part behind the same
blanks. -/
theorem Aligns.inj {part other : List Char} (h : Aligns part other) (hpart : Opens part)
    (hother : Opens other) {blanks gap rest left : List Char} (hblanks : AllBlank blanks)
    (hgap : AllBlank gap) (hrest : Stops rest) (hleft : Stops left)
    (heq : blanks ++ (part ++ rest) = gap ++ (other ++ left)) :
    blanks = gap ∧ part = other ∧ rest = left := by
  obtain ⟨c, tail, rfl, hc⟩ := hpart
  obtain ⟨d, tail', rfl, hd⟩ := hother
  obtain ⟨hsame, rfl, hbehind⟩ := allBlank_append_inj hblanks hgap (isBlank_of_startsPart hc)
    (isBlank_of_startsPart hd) heq
  have hparts : c :: tail ++ rest = c :: tail' ++ left := congrArg (c :: ·) hbehind
  have hother := h _ _ hparts hrest hleft
  rw [hother] at hparts
  exact ⟨hsame, hother, List.append_cancel_left hparts⟩

section Parts

variable {closing : Char} {parts others : List (List Char)} {text other rest left : List Char}

/-- What stands behind a part can be taken apart in one way. -/
theorem Ends.eq_of_append (hclosing : closing = ']' ∨ closing = '\x7d')
    (hparts : ∀ part ∈ parts, Opens part) (hothers : ∀ part ∈ others, Opens part)
    (haligns : ∀ part ∈ parts, ∀ other ∈ others, Aligns part other)
    (h : Ends closing parts text) (h' : Ends closing others other)
    (heq : text ++ rest = other ++ left) : parts = others ∧ text = other := by
  -- the closing character is told from a comma and from blanks
  have hcomma : closing ≠ ',' := by rcases hclosing with rfl | rfl <;> decide
  have hblank : isBlank closing = false := by rcases hclosing with rfl | rfl <;> rfl
  have hstops : isNumberPart closing = false := by rcases hclosing with rfl | rfl <;> rfl
  induction h generalizing others other with
  | close hblanks =>
    cases h' with
    | close hblanks' =>
      rw [List.append_assoc, List.append_assoc] at heq
      obtain ⟨rfl, -⟩ := allBlank_append_inj hblanks hblanks' hblank hblank heq
      exact ⟨rfl, rfl⟩
    | comma hbefore _ _ =>
      rw [List.append_assoc, List.append_assoc] at heq
      have hsame := allBlank_append_inj hblanks hbefore hblank (by decide) heq
      exact absurd hsame.2.1 hcomma
  | comma hbefore hafter hends ih =>
    cases h' with
    | close hblanks =>
      rw [List.append_assoc, List.append_assoc] at heq
      have hsame := allBlank_append_inj hbefore hblanks (by decide) hblank heq
      exact absurd hsame.2.1.symm hcomma
    | comma hbefore' hafter' hends' =>
      simp only [List.append_assoc, List.cons_append] at heq
      rw [List.forall_mem_cons] at hparts hothers
      obtain ⟨rfl, -, hbehind⟩ := allBlank_append_inj hbefore hbefore' (by decide) (by decide) heq
      have hfirst := haligns _ List.mem_cons_self _ List.mem_cons_self
      obtain ⟨rfl, rfl, hrest⟩ := hfirst.inj hparts.1 hothers.1 hafter hafter'
        (stops_of_ends hstops hends rest) (stops_of_ends hstops hends' left) hbehind
      obtain ⟨rfl, rfl⟩ := ih hparts.2 hothers.2 (fun part hpart other hother =>
        haligns part (List.mem_cons_of_mem _ hpart) other (List.mem_cons_of_mem _ hother))
        hends' hrest
      exact ⟨rfl, rfl⟩

/-- Parts between brackets can be taken apart in one way. -/
theorem Encloses.eq_of_append {opening : Char} (hclosing : closing = ']' ∨ closing = '\x7d')
    (hparts : ∀ part ∈ parts, Opens part) (hothers : ∀ part ∈ others, Opens part)
    (haligns : ∀ part ∈ parts, ∀ other ∈ others, Aligns part other)
    (h : Encloses opening closing parts text) (h' : Encloses opening closing others other)
    (heq : text ++ rest = other ++ left) : parts = others ∧ text = other := by
  have hblank : isBlank closing = false := by rcases hclosing with rfl | rfl <;> rfl
  have hstops : isNumberPart closing = false := by rcases hclosing with rfl | rfl <;> rfl
  -- a part does not start like the bracket that would end an empty list
  have hnothing : ∀ {blanks gap part text rest left : List Char}, AllBlank blanks →
      AllBlank gap → Opens part →
      blanks ++ closing :: rest ≠ gap ++ (part ++ (text ++ left)) := by
    rintro blanks gap _ text rest left hblanks hgap ⟨c, tail, rfl, hc⟩ heq
    obtain ⟨-, rfl, -⟩ := allBlank_append_inj hblanks hgap hblank (isBlank_of_startsPart hc) heq
    rcases hclosing with rfl | rfl <;> cases hc
  cases h with
  | nothing hblanks =>
    cases h' with
    | nothing hblanks' =>
      simp only [List.cons_append, List.append_assoc, List.cons.injEq, true_and] at heq
      obtain ⟨rfl, -⟩ := allBlank_append_inj hblanks hblanks' hblank hblank heq
      exact ⟨rfl, rfl⟩
    | parts hblanks' _ =>
      simp only [List.cons_append, List.append_assoc, List.cons.injEq, true_and] at heq
      exact absurd heq (hnothing hblanks hblanks' (hothers _ List.mem_cons_self))
  | parts hblanks hends =>
    cases h' with
    | nothing hblanks' =>
      simp only [List.cons_append, List.append_assoc, List.cons.injEq, true_and] at heq
      exact absurd heq.symm (hnothing hblanks' hblanks (hparts _ List.mem_cons_self))
    | parts hblanks' hends' =>
      simp only [List.cons_append, List.append_assoc, List.cons.injEq, true_and] at heq
      rw [List.forall_mem_cons] at hparts hothers
      have hfirst := haligns _ List.mem_cons_self _ List.mem_cons_self
      obtain ⟨rfl, rfl, hrest⟩ := hfirst.inj hparts.1 hothers.1 hblanks hblanks'
        (stops_of_ends hstops hends rest) (stops_of_ends hstops hends' left) heq
      obtain ⟨rfl, rfl⟩ := hends.eq_of_append hclosing hparts.2 hothers.2
        (fun part hpart other hother =>
          haligns part (List.mem_cons_of_mem _ hpart) other (List.mem_cons_of_mem _ hother))
        hends' hrest
      exact ⟨rfl, rfl⟩

end Parts

/-! ## One reading of every text -/

theorem IsValue.opens {written : List Char} (h : IsValue written) : Opens written := by
  obtain ⟨c, tail, heq, hc, -⟩ := h.shape
  exact ⟨c, tail, heq, hc⟩

/-- Members can be told apart if their values can. -/
theorem MemberForm.eq_of_append {member other : List Char × List Char}
    {part otherPart rest left : List Char} (h : MemberForm member part)
    (h' : MemberForm other otherPart) (hvalue : Opens member.2) (hother : Opens other.2)
    (haligns : Aligns member.2 other.2) (heq : part ++ rest = otherPart ++ left)
    (hrest : Stops rest) (hleft : Stops left) : member = other ∧ part = otherPart := by
  obtain ⟨before, after, hkey, hbefore, hafter, rfl⟩ := h
  obtain ⟨before', after', hkey', hbefore', hafter', rfl⟩ := h'
  obtain ⟨key, value⟩ := member
  obtain ⟨key', value'⟩ := other
  simp only [List.append_assoc, List.cons_append] at heq
  obtain rfl := hkey.eq_of_append hkey' heq
  obtain ⟨rfl, -, hbehind⟩ := allBlank_append_inj hbefore hbefore' (by decide) (by decide)
    (List.append_cancel_left heq)
  obtain ⟨rfl, rfl, -⟩ := haligns.inj hvalue hother hafter hafter' hrest hleft hbehind
  exact ⟨rfl, rfl⟩

theorem MemberForm.opens {member : List Char × List Char} {part : List Char}
    (h : MemberForm member part) : Opens part := by
  obtain ⟨before, after, ⟨text, -, hkey⟩, -, -, rfl⟩ := h
  rw [hkey]
  exact ⟨'"', _, rfl, rfl⟩

section Members

variable {members others : List (List Char × List Char)} {parts otherParts : List (List Char)}

/-- Every part of an object is the text of a member. -/
theorem exists_member (h : List.Forall₂ MemberForm members parts) :
    ∀ part ∈ parts, ∃ member ∈ members, MemberForm member part := by
  intro part hpart
  obtain ⟨i, hi, rfl⟩ := List.getElem_of_mem hpart
  exact ⟨_, List.getElem_mem (h.length_eq ▸ hi), h.get (h.length_eq ▸ hi) hi⟩

theorem opens_of_forall₂ (h : List.Forall₂ MemberForm members parts) :
    ∀ part ∈ parts, Opens part := by
  intro part hpart
  obtain ⟨member, -, hmember⟩ := exists_member h part hpart
  exact hmember.opens

/-- Members that cannot be read in two ways make parts that cannot. -/
theorem aligns_of_forall₂ (hvalues : ∀ member ∈ members, IsValue member.2)
    (hothers : ∀ member ∈ others, IsValue member.2)
    (haligns : ∀ member ∈ members, ∀ other ∈ others, Aligns member.2 other.2)
    (h : List.Forall₂ MemberForm members parts)
    (h' : List.Forall₂ MemberForm others otherParts) :
    ∀ part ∈ parts, ∀ other ∈ otherParts, Aligns part other := by
  intro part hpart otherPart hother rest left heq hrest hleft
  obtain ⟨member, hmember, hform⟩ := exists_member h part hpart
  obtain ⟨other, hmem, hform'⟩ := exists_member h' otherPart hother
  exact (hform.eq_of_append hform' (hvalues member hmember).opens (hothers other hmem).opens
    (haligns member hmember other hmem) heq hrest hleft).2

/-- The parts of an object tell its members. -/
theorem eq_of_forall₂ (hvalues : ∀ member ∈ members, IsValue member.2)
    (hothers : ∀ member ∈ others, IsValue member.2)
    (haligns : ∀ member ∈ members, ∀ other ∈ others, Aligns member.2 other.2)
    (h : List.Forall₂ MemberForm members parts) (h' : List.Forall₂ MemberForm others parts) :
    members = others := by
  induction h generalizing others with
  | nil =>
    cases h'
    rfl
  | cons hpart _ ih =>
    obtain ⟨other, rest, hother, hrest, rfl⟩ := List.forall₂_cons_right_iff.mp h'
    rw [List.forall_mem_cons] at hvalues hothers
    have hnothing : Stops [] := fun c hc => by cases hc
    obtain ⟨rfl, -⟩ := hpart.eq_of_append hother hvalues.1.opens hothers.1.opens
      (haligns _ List.mem_cons_self _ List.mem_cons_self) rfl hnothing hnothing
    rw [ih hvalues.2 hothers.2 (fun member hmember other hmem =>
      haligns member (List.mem_cons_of_mem _ hmember) other (List.mem_cons_of_mem _ hmem)) hrest]

end Members

theorem shape_of_append {written text left : List Char} {c : Char} (h : IsValue written)
    (heq : c :: text = written ++ left) : Shape written c := by
  obtain ⟨d, tail, rfl, -, hshape⟩ := h.shape
  obtain ⟨rfl, -⟩ := List.cons.inj heq
  exact hshape

theorem isNumber_of_shape {written : List Char} {c : Char} (hc : c = '-' ∨ isDigit c = true)
    (h : Shape written c) : IsNumber written := by
  unfold Shape at h
  split at h
  all_goals first
    | exact h
    | exact absurd hc (by decide)

/-- A value that begins like one of the words is that word. -/
theorem eq_of_mem_words {word other text left : List Char} (h : word ∈ words)
    (h' : IsValue other) (heq : word ++ text = other ++ left) : word = other := by
  have hwords : ∀ a ∈ words, ∀ b ∈ words, a.head? = b.head? → a = b := by decide
  obtain ⟨c, tail, rfl, -, hshape⟩ := (IsValue.word h).shape
  have hother : other ∈ words := by
    have hshape' := shape_of_append h' heq
    simp only [words, List.mem_cons, List.cons.injEq, List.not_mem_nil, or_false] at h
    rcases h with ⟨rfl, -⟩ | ⟨rfl, -⟩ | ⟨rfl, -⟩
    all_goals exact hshape'
  obtain ⟨d, tail', rfl, -, -⟩ := h'.shape
  obtain ⟨rfl, -⟩ := List.cons.inj heq
  exact hwords _ h _ hother rfl

/-- A value at the front of a text ends where every other one there ends. -/
theorem IsValue.aligns {written other : List Char} (h : IsValue written) (h' : IsValue other) :
    Aligns written other := by
  induction h generalizing other with
  | word h => exact fun rest left heq _ _ => eq_of_mem_words h h' heq
  | number h =>
    intro rest left heq hrest hleft
    obtain ⟨c, tail, rfl, hc⟩ := cons_of_isNumber h
    exact h.eq_of_append (isNumber_of_shape hc (shape_of_append h' heq)) heq hrest hleft
  | string h =>
    intro rest left heq _ _
    obtain ⟨text, htext, rfl⟩ := h
    exact IsString.eq_of_append ⟨text, htext, rfl⟩ (shape_of_append h' heq) heq
  | list hitems h ih =>
    intro rest left heq _ _
    obtain ⟨tail, rfl⟩ := cons_of_encloses h
    obtain ⟨items, hitems', hencloses⟩ := shape_of_append h' heq
    exact (h.eq_of_append (.inl rfl) (fun item hitem => (hitems item hitem).opens)
      (fun item hitem => (hitems' item hitem).opens)
      (fun item hitem other hother => ih item hitem (hitems' other hother)) hencloses heq).2
  | object hvalues hparts h ih =>
    intro rest left heq _ _
    obtain ⟨tail, rfl⟩ := cons_of_encloses h
    obtain ⟨members, parts, hvalues', hparts', hencloses⟩ := shape_of_append h' heq
    refine (h.eq_of_append (.inr rfl) (opens_of_forall₂ hparts) (opens_of_forall₂ hparts') ?_
      hencloses heq).2
    exact aligns_of_forall₂ hvalues hvalues'
      (fun member hmember other hother => ih member hmember (hvalues' other hother)) hparts hparts'

/-- A list has one list of items. -/
theorem HasItems.unique {written : List Char} {items others : List (List Char)}
    (h : HasItems written items) (h' : HasItems written others) : items = others :=
  (h.2.eq_of_append (.inl rfl) (fun item hitem => (h.1 item hitem).opens)
    (fun item hitem => (h'.1 item hitem).opens)
    (fun item hitem other hother => (h.1 item hitem).aligns (h'.1 other hother)) h'.2
    (Eq.refl (written ++ []))).1

/-- An object has one list of members. -/
theorem HasMembers.unique {written : List Char} {members others : List (List Char × List Char)}
    (h : HasMembers written members) (h' : HasMembers written others) : members = others := by
  obtain ⟨parts, hvalues, hparts, hencloses⟩ := h
  obtain ⟨parts', hvalues', hparts', hencloses'⟩ := h'
  have haligns : ∀ member ∈ members, ∀ other ∈ others, Aligns member.2 other.2 :=
    fun member hmember other hother => (hvalues member hmember).aligns (hvalues' other hother)
  obtain ⟨rfl, -⟩ := hencloses.eq_of_append (.inr rfl) (opens_of_forall₂ hparts)
    (opens_of_forall₂ hparts') (aligns_of_forall₂ hvalues hvalues' haligns hparts hparts')
    hencloses' (Eq.refl (written ++ []))
  exact eq_of_forall₂ hvalues hvalues' haligns hparts hparts'

/-- A list is not an object. -/
theorem HasItems.not_hasMembers {written : List Char} {items : List (List Char)}
    {members : List (List Char × List Char)} (h : HasItems written items)
    (h' : HasMembers written members) : False := by
  obtain ⟨parts, -, -, hencloses⟩ := h'
  obtain ⟨tail, rfl⟩ := cons_of_encloses h.2
  obtain ⟨other, hother⟩ := cons_of_encloses hencloses
  cases hother

/-- A text is that of one value. -/
theorem IsText.unique {text written other : List Char} (h : IsText text written)
    (h' : IsText text other) : written = other := by
  obtain ⟨before, after, hbefore, hvalue, hafter, rfl⟩ := h
  obtain ⟨before', after', hbefore', hvalue', hafter', heq⟩ := h'
  exact ((hvalue.aligns hvalue').inj hvalue.opens hvalue'.opens hbefore hbefore'
    (stops_of_allBlank hafter) (stops_of_allBlank hafter') heq).2.1

end PubSubTrials.Json
