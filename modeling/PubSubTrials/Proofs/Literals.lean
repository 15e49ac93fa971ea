import PubSubTrials.Json.Decoder
import PubSubTrials.Json.Printer
import Mathlib.Data.List.Forall2
import Mathlib.Data.Nat.Digits.Defs

/-!
# Strings and numbers that are read

A reader reads a written value (`Reads`) if it takes what was written off the front of every text,
with blanks before it and anything behind it that could not belong to a number, and leaves the rest.
Here this is shown of strings in all the ways in which they can be written (`StringForm`), one of
which is how they are printed, of whole numbers below `2 ^ 64`, of truth values, and of names out of
a fixed set.
-/

namespace PubSubTrials.Json

open Sample (isDigit)

namespace Reader

variable {α β : Type}

/-! ## Steps of a reader -/

/-- What a reader takes off the front of a text, and what it leaves, given how long the whole text
is. -/
def result (reader : Reader α) (length : Nat) (text : List Char) :
    Except Fault (α × List Char) :=
  (reader.run length).run text

theorem result_pure (x : α) (length : Nat) (text : List Char) :
    (pure x : Reader α).result length text = .ok (x, text) := rfl

/-- The second reader goes on where the first one stops. -/
theorem result_bind_of_ok {reader : Reader α} {next : α → Reader β} {length : Nat}
    {text rest : List Char} {x : α} (h : reader.result length text = .ok (x, rest)) :
    (reader >>= next).result length text = (next x).result length rest := by
  show ((reader.run length).run text >>= fun p => ((next p.1).run length).run p.2) = _
  rw [result] at h
  rw [h]
  rfl

theorem result_get (length : Nat) (text : List Char) :
    (get : Reader (List Char)).result length text = .ok (text, text) := rfl

theorem result_skip (length : Nat) (c : Char) (text : List Char) :
    skip.result length (c :: text) = .ok ((), text) := rfl

/-- Whether a text holds nothing but blanks. -/
def AllBlank (text : List Char) : Prop := ∀ c ∈ text, isBlank c = true

theorem allBlank_nil : AllBlank [] := fun _ h => by cases h

/-- Blanks in front of a character are passed over. -/
theorem result_peek {blanks : List Char} (hblanks : AllBlank blanks) {c : Char}
    (hc : isBlank c = false) (length : Nat) (text : List Char) :
    peek.result length (blanks ++ c :: text) = .ok (some c, c :: text) := by
  have hdrop : (blanks ++ c :: text).dropWhile isBlank = c :: text := by
    rw [List.dropWhile_append_of_pos hblanks, List.dropWhile_cons_of_neg (by simp [hc])]
  show Except.ok (((blanks ++ c :: text).dropWhile isBlank).head?,
    (blanks ++ c :: text).dropWhile isBlank) = _
  rw [hdrop]
  rfl

theorem result_letters (word : List Char) (length : Nat) (rest : List Char) :
    (letters word).result length (word ++ rest) = .ok ((), rest) := by
  induction word with
  | nil => rfl
  | cons c word ih =>
    rw [letters]
    show (if c = c then set (word ++ rest) >>= fun _ => letters word
      else failSlip .expectedWord : Reader Unit).result length (c :: (word ++ rest)) = _
    rw [if_pos rfl]
    exact ih

/-! ## Reading what was written -/

/-- What may stand behind a value: nothing that could belong to a number. -/
def Delimits (rest : List Char) : Prop :=
  ∀ c ∈ rest.head?, isDigit c = false ∧ c ≠ '.' ∧ c ≠ 'e' ∧ c ≠ 'E'

/-- A reader reads a written value. -/
structure Reads (reader : Reader α) (printed : List Char) (value : α) : Prop where
  /-- A value starts visibly, and not like the end of a list. -/
  opens : ∃ c tail, printed = c :: tail ∧ isBlank c = false ∧ c ≠ ']'
  /-- Readers pass over blanks themselves, and loops are bounded by the length of the whole text,
  which therefore has to cover what is read here. -/
  result_eq : ∀ {blanks rest : List Char} {length : Nat}, AllBlank blanks → Delimits rest →
    (printed ++ rest).length ≤ length →
      reader.result length (blanks ++ (printed ++ rest)) = .ok (value, rest)

/-- A reader that first passes over blanks has to be looked at only after them. -/
theorem Reads.of_peek {next : Option Char → Reader α} {c : Char} {tail : List Char} {value : α}
    (hc : isBlank c = false) (hne : c ≠ ']')
    (h : ∀ {rest : List Char} {length : Nat}, Delimits rest →
      (tail ++ rest).length < length →
        (next (some c)).result length (c :: (tail ++ rest)) = .ok (value, rest)) :
    Reads (peek >>= next) (c :: tail) value where
  opens := ⟨c, tail, rfl, hc, hne⟩
  result_eq hblanks hrest hlength := by
    rw [List.cons_append, result_bind_of_ok (result_peek hblanks hc _ _)]
    exact h hrest hlength

/-- What is made of a value that is read back. -/
theorem Reads.map {reader : Reader α} {printed : List Char} {value : α}
    (h : Reads reader printed value) (f : α → β) :
    Reads (do return f (← reader)) printed (f value) where
  opens := h.opens
  result_eq hblanks hrest hlength := by
    rw [result_bind_of_ok (h.result_eq hblanks hrest hlength)]
    rfl

/-! ## Values that may be left out -/

/-- What is not there is written as `null`. -/
theorem reads_null (reader : Reader α) : Reads (orNull reader) ['n', 'u', 'l', 'l'] none := by
  refine Reads.of_peek (by decide) (by decide) fun {rest length} _ _ => ?_
  show (skip >>= fun _ => letters ['u', 'l', 'l'] >>= fun _ => pure none).result length
    ('n' :: (['u', 'l', 'l'] ++ rest)) = _
  rw [result_bind_of_ok (result_skip _ _ _), result_bind_of_ok (result_letters _ _ _)]
  rfl

/-- A value that may be left out is read where it is not, and is not taken for `null`. -/
theorem Reads.orNull {reader : Reader α} {c : Char} {tail : List Char} {value : α}
    (h : Reads reader (c :: tail) value) (hne : c ≠ 'n') :
    Reads (orNull reader) (c :: tail) (some value) := by
  obtain ⟨d, tail', heq, hblank, hbracket⟩ := h.opens
  obtain ⟨rfl, rfl⟩ := List.cons.inj heq
  refine Reads.of_peek hblank hbracket fun {rest length} hrest hlength => ?_
  have hvalue : reader.result length ([] ++ ((c :: tail) ++ rest)) = .ok (value, rest) :=
    h.result_eq allBlank_nil hrest hlength
  split
  · next heq => exact absurd (Option.some.inj heq) hne
  · show (reader >>= fun x => pure (some x)).result length ([] ++ ((c :: tail) ++ rest)) = _
    rw [result_bind_of_ok hvalue]
    rfl

end Reader

/-! ## Ways to write a string -/

/-- A digit for a number below 16, in lower or in upper case. -/
def IsHexDigit (n : Nat) (digit : Char) : Prop :=
  n < 16 ∧ (digit = hexDigit n ∨ digit = (hexDigit n).toUpper)

/-- The four digits of a number below `2 ^ 16`. -/
def IsHex (n : Nat) (written : List Char) : Prop :=
  n < 0x10000 ∧
    List.Forall₂ IsHexDigit [n / 0x1000, n / 0x100 % 0x10, n / 0x10 % 0x10, n % 0x10] written

/-- The letters of the short escapes, with the characters that they stand for. -/
def shortEscapes : List (Char × Char) :=
  [('"', '"'), ('\\', '\\'), ('/', '/'), ('b', '\x08'), ('f', '\x0c'), ('n', '\n'), ('r', '\r'),
    ('t', '\t')]

/-- How a character may be written inside a string. -/
inductive Spells (c : Char) : List Char → Prop where
  /-- As itself, unless it is a quote, a backslash or a control character. -/
  | itself (hquote : c ≠ '"') (hslash : c ≠ '\\') (hcontrol : ¬ c.toNat < 0x20) : Spells c [c]
  /-- By a short escape. -/
  | letter {letter : Char} (h : (letter, c) ∈ shortEscapes) : Spells c ['\\', letter]
  /-- By its number. -/
  | number {digits : List Char} (h : IsHex c.toNat digits) : Spells c ('\\' :: 'u' :: digits)
  /-- By the two halves of its number, if that is too large for four digits. -/
  | surrogates {high low : List Char} (hlarge : 0x10000 ≤ c.toNat)
      (hhigh : IsHex (0xD800 + (c.toNat - 0x10000) / 0x400) high)
      (hlow : IsHex (0xDC00 + (c.toNat - 0x10000) % 0x400) low) :
      Spells c ('\\' :: 'u' :: (high ++ '\\' :: 'u' :: low))

/-- A string in quotes, each of its characters in one of the ways to write it. -/
def StringForm (text : String) (written : List Char) : Prop :=
  ∃ parts, List.Forall₂ Spells text.toList parts ∧ written = '"' :: (parts.flatten ++ ['"'])

theorem isHexDigit_hexDigit {n : Nat} (h : n < 16) : IsHexDigit n (hexDigit n) :=
  ⟨h, .inl rfl⟩

/-- The shortest escape is one of the ways to write a character. -/
theorem spells_escapeChar (c : Char) : Spells c (escapeChar c) := by
  unfold escapeChar
  by_cases hquote : c = '"'
  · subst hquote
    exact .letter (by decide)
  by_cases hslash : c = '\\'
  · subst hslash
    exact .letter (by decide)
  by_cases hback : c = '\x08'
  · subst hback
    exact .letter (by decide)
  by_cases hform : c = '\x0c'
  · subst hform
    exact .letter (by decide)
  by_cases hline : c = '\n'
  · subst hline
    exact .letter (by decide)
  by_cases hreturn : c = '\r'
  · subst hreturn
    exact .letter (by decide)
  by_cases htab : c = '\t'
  · subst htab
    exact .letter (by decide)
  rw [if_neg hquote, if_neg hslash, if_neg hback, if_neg hform, if_neg hline, if_neg hreturn,
    if_neg htab]
  -- what is left has no letter of its own: control characters are escaped by their number
  by_cases hcontrol : c.toNat < 0x20
  · rw [if_pos hcontrol]
    have hthird : c.toNat / 0x10 % 0x10 = c.toNat / 16 := by omega
    refine .number ⟨by omega, .cons ?_ (.cons ?_ (.cons ?_ (.cons ?_ .nil)))⟩
    · rw [show c.toNat / 0x1000 = 0 by omega]
      exact isHexDigit_hexDigit (by decide)
    · rw [show c.toNat / 0x100 % 0x10 = 0 by omega]
      exact isHexDigit_hexDigit (by decide)
    · rw [hthird]
      exact isHexDigit_hexDigit (by omega)
    · exact isHexDigit_hexDigit (by omega)
  · rw [if_neg hcontrol]
    exact .itself hquote hslash hcontrol

theorem stringForm_printString (text : String) : StringForm text (printString text) := by
  refine ⟨text.toList.map escapeChar, ?_, ?_⟩
  · rw [List.forall₂_map_right_iff, List.forall₂_same]
    exact fun c _ => spells_escapeChar c
  · rw [← List.flatMap_def]
    rfl

namespace Reader

/-! ## Strings -/

theorem hexDigit?_of_isHexDigit {n : Nat} {digit : Char} (h : IsHexDigit n digit) :
    hexDigit? digit = some n := by
  have hall : ∀ n < 16, hexDigit? (hexDigit n) = some n ∧
      hexDigit? (hexDigit n).toUpper = some n := by decide
  obtain ⟨hn, rfl | rfl⟩ := h
  · exact (hall n hn).1
  · exact (hall n hn).2

/-- Four digits are read as their number. -/
theorem hex4_of_isHex {n : Nat} {written : List Char} (h : IsHex n written) (rest : List Char) :
    hex4 (written ++ rest) = .ok n := by
  obtain ⟨hn, hdigits⟩ := h
  obtain ⟨a, _, ha, hthree, rfl⟩ := List.forall₂_cons_left_iff.mp hdigits
  obtain ⟨b, _, hb, htwo, rfl⟩ := List.forall₂_cons_left_iff.mp hthree
  obtain ⟨c, _, hc, hone, rfl⟩ := List.forall₂_cons_left_iff.mp htwo
  obtain ⟨d, _, hd, hnone, rfl⟩ := List.forall₂_cons_left_iff.mp hone
  obtain rfl := List.forall₂_nil_left_iff.mp hnone
  have htake : ([a, b, c, d] ++ rest).take 4 = [a, b, c, d] := rfl
  -- the four characters are long enough, whatever their bytes
  have hlength : ¬ Text.byteLength [a, b, c, d] < 4 := by
    have h1 := a.utf8Size_pos
    have h2 := b.utf8Size_pos
    have h3 := c.utf8Size_pos
    have h4 := d.utf8Size_pos
    simp only [Text.byteLength, List.foldl_cons, List.foldl_nil]
    omega
  have hmap : [a, b, c, d].mapM hexDigit? =
      some [n / 0x1000, n / 0x100 % 0x10, n / 0x10 % 0x10, n % 0x10] := by
    simp [hexDigit?_of_isHexDigit ha, hexDigit?_of_isHexDigit hb, hexDigit?_of_isHexDigit hc,
      hexDigit?_of_isHexDigit hd]
  have hvalue : ((n / 0x1000 * 16 + n / 0x100 % 0x10) * 16 + n / 0x10 % 0x10) * 16 + n % 0x10 =
      n := by omega
  rw [hex4, htake, if_neg hlength, hmap]
  exact congrArg Except.ok hvalue

theorem length_of_isHex {n : Nat} {written : List Char} (h : IsHex n written) :
    written.length = 4 :=
  h.2.length_eq.symm

/-- The number of a character is no half of another one. -/
theorem toNat_cases (c : Char) : c.toNat < 0xD800 ∨ 0xDFFF < c.toNat ∧ c.toNat < 0x110000 :=
  c.valid

theorem hexEscape_of_isHex {c : Char} {digits : List Char} (h : IsHex c.toNat digits)
    (rest : List Char) : hexEscape (digits ++ rest) = .ok (c, 4) := by
  have hvalid := toNat_cases c
  rw [hexEscape, hex4_of_isHex h]
  show (if 0xDC00 ≤ c.toNat ∧ c.toNat ≤ 0xDFFF then _ else _) = _
  rw [if_neg (by omega), if_pos (by omega), Char.ofNat_toNat]

theorem surrogatePair_of_isHex {high low : Nat} {digits : List Char} (h : IsHex low digits)
    (hlower : 0xDC00 ≤ low) (hupper : low ≤ 0xDFFF) (rest : List Char) :
    surrogatePair high ('\\' :: 'u' :: (digits ++ rest)) =
      .ok (Char.ofNat ((high - 0xD800) * 0x400 + (low - 0xDC00) + 0x10000), 10) := by
  rw [surrogatePair, hex4_of_isHex h]
  show (if low < 0xDC00 ∨ 0xDFFF < low then _ else _) = _
  rw [if_neg (by omega)]

/-- The number of a character is put together from its halves. -/
theorem hexEscape_of_halves {c : Char} {high low : Nat} {front digits : List Char}
    (hhigh : IsHex high front) (hlow : IsHex low digits)
    (hlower : 0xD800 ≤ high ∧ 0xDC00 ≤ low) (hupper : high ≤ 0xDBFF ∧ low ≤ 0xDFFF)
    (hvalue : (high - 0xD800) * 0x400 + (low - 0xDC00) + 0x10000 = c.toNat) (rest : List Char) :
    hexEscape (front ++ '\\' :: 'u' :: (digits ++ rest)) = .ok (c, 10) := by
  have hdrop : (front ++ '\\' :: 'u' :: (digits ++ rest)).drop 4 =
      '\\' :: 'u' :: (digits ++ rest) := by
    rw [← length_of_isHex hhigh, List.drop_left]
  rw [hexEscape, hex4_of_isHex hhigh]
  show (if 0xDC00 ≤ high ∧ high ≤ 0xDFFF then _
    else if high < 0xD800 ∨ 0xDBFF < high then _ else _) = _
  rw [if_neg (by omega), if_neg (by omega), hdrop,
    surrogatePair_of_isHex hlow hlower.2 hupper.2, hvalue, Char.ofNat_toNat]

/-- A character of a string stands for itself, or is escaped and the escape is read as it. -/
theorem cases_of_spells {c : Char} {written : List Char} (h : Spells c written) :
    (written = [c] ∧ c ≠ '"' ∧ c ≠ '\\' ∧ ¬ c.toNat < 0x20) ∨
      ∃ tail, written = '\\' :: tail ∧
        ∀ rest, escape (tail ++ rest) = .ok (c, tail.length) := by
  -- an escape by number goes by its four digits
  have hnumber : ∀ {digits : List Char} {count : Nat}, hexEscape digits = .ok (c, count) →
      escape ('u' :: digits) = .ok (c, count + 1) := by
    intro digits count hdigits
    show (hexEscape digits).map _ = _
    rw [hdigits]
    rfl
  cases h with
  | itself hquote hslash hcontrol => exact .inl ⟨rfl, hquote, hslash, hcontrol⟩
  | @letter letter h =>
    have hall : ∀ pair ∈ shortEscapes, shortEscape? pair.1 = some pair.2 := by decide
    refine .inr ⟨[letter], rfl, fun rest => ?_⟩
    have hletter : shortEscape? letter = some c := hall _ h
    rw [List.singleton_append, escape, hletter]
    rfl
  | @number digits h =>
    refine .inr ⟨'u' :: digits, rfl, fun rest => ?_⟩
    rw [List.length_cons, length_of_isHex h]
    exact hnumber (hexEscape_of_isHex h rest)
  | @surrogates high low hlarge hhigh hlow =>
    refine .inr ⟨'u' :: (high ++ '\\' :: 'u' :: low), rfl, fun rest => ?_⟩
    have hvalid := toNat_cases c
    have hescape := hnumber (hexEscape_of_halves (c := c) hhigh hlow (by omega) (by omega)
      (by omega) rest)
    simp only [List.cons_append, List.append_assoc, List.length_cons, List.length_append,
      length_of_isHex hhigh, length_of_isHex hlow]
    exact hescape

/-- The characters of an escape that was dealt with are passed over. -/
theorem stringFrom_skip (front rest decoded : List Char) :
    stringFrom front.length decoded (front ++ rest) = stringFrom 0 decoded rest := by
  induction front with
  | nil => rfl
  | cons c front ih => exact ih

/-- Whichever way a character is spelt, it is read as itself. -/
theorem stringFrom_spells {c : Char} {written : List Char} (h : Spells c written)
    (decoded rest : List Char) :
    stringFrom 0 decoded (written ++ rest) = stringFrom 0 (c :: decoded) rest := by
  rcases cases_of_spells h with ⟨rfl, hquote, hslash, hcontrol⟩ | ⟨tail, rfl, hescape⟩
  · rw [List.singleton_append, stringFrom, if_neg hquote, if_neg hslash, if_neg hcontrol]
  · rw [List.cons_append, stringFrom, if_neg (by decide), if_pos rfl, hescape]
    exact stringFrom_skip tail rest (c :: decoded)

/-- So a string is read up to its closing quote. -/
theorem stringFrom_forall₂ {text : List Char} {parts : List (List Char)}
    (h : List.Forall₂ Spells text parts) (decoded rest : List Char) :
    stringFrom 0 decoded (parts.flatten ++ '"' :: rest) = .ok (decoded.reverse ++ text, rest) := by
  induction h generalizing decoded with
  | nil => rw [List.append_nil]; rfl
  | cons hspells _ ih =>
    rw [List.flatten_cons, List.append_assoc, stringFrom_spells hspells, ih, List.reverse_cons,
      List.append_assoc, List.singleton_append]

/-- A string is read behind its opening quote. -/
theorem result_stringBody {text : String} {written : List Char} (h : StringForm text written)
    (length : Nat) (rest : List Char) :
    stringBody.result length (written.tail ++ rest) = .ok (text, rest) := by
  obtain ⟨parts, hparts, rfl⟩ := h
  have hstring := stringFrom_forall₂ hparts [] rest
  rw [List.reverse_nil, List.nil_append] at hstring
  rw [List.tail_cons, List.append_assoc, List.singleton_append, stringBody,
    result_bind_of_ok (result_get _ _), hstring]
  show Except.ok (String.ofList text.toList, rest) = _
  rw [String.ofList_toList]

/-- A string starts with a quote. -/
theorem cons_of_stringForm {text : String} {written : List Char} (h : StringForm text written) :
    ∃ tail, written = '"' :: tail := by
  obtain ⟨parts, -, rfl⟩ := h
  exact ⟨_, rfl⟩

/-- A printed string at the front of a text can be told from what follows it. -/
theorem printString_append_inj {a b : String} {rest others : List Char}
    (h : printString a ++ rest = printString b ++ others) : a = b ∧ rest = others := by
  have hread : ∀ (text : String) (left : List Char),
      stringBody.result 0 (printString text ++ left).tail = .ok (text, left) :=
    fun text left => result_stringBody (stringForm_printString text) 0 left
  have hsame := hread a rest
  rw [h, hread b others] at hsame
  obtain ⟨hstring, hrest⟩ := Prod.mk.inj (Except.ok.inj hsame)
  exact ⟨hstring.symm, hrest.symm⟩

section StringForm

variable {text : String} {written : List Char}

/-- A string is read back from every form of it. -/
theorem reads_stringFor (wanted : String) (h : StringForm text written) :
    Reads (stringFor wanted) written text := by
  obtain ⟨tail, rfl⟩ := cons_of_stringForm h
  refine Reads.of_peek (by decide) (by decide) fun {rest length} _ _ => ?_
  show (skip >>= fun _ => stringBody).result _ _ = _
  rw [result_bind_of_ok (result_skip _ _ _)]
  exact result_stringBody h length rest

/-- A string is read in whatever way it is written. -/
theorem reads_stringForm (h : StringForm text written) : Reads string written text :=
  reads_stringFor _ h

theorem reads_orNull_stringForm (h : StringForm text written) :
    Reads (orNull string) written (some text) := by
  obtain ⟨tail, rfl⟩ := cons_of_stringForm h
  exact (reads_stringForm h).orNull (by decide)

/-! ## Names -/

/-- A name that stands for a value is read as that value. -/
theorem reads_named_stringForm {ofName? : String → Option α} (known : List String) {value : α}
    (hname : ofName? text = some value) (h : StringForm text written) :
    Reads (named ofName? known) written value := by
  obtain ⟨tail, rfl⟩ := cons_of_stringForm h
  refine Reads.of_peek (by decide) (by decide) fun {rest length} hrest hlength => ?_
  show (variant ofName? known).result length ([] ++ (('"' :: tail) ++ rest)) = _
  rw [variant, result_bind_of_ok ((reads_stringFor _ h).result_eq allBlank_nil hrest hlength),
    hname]
  rfl

end StringForm

/-! ## Printed strings and names -/

/-- Every string is read back. -/
theorem reads_string (text : String) : Reads string (printString text) text :=
  reads_stringForm (stringForm_printString text)

theorem reads_orNull_string (text : String) :
    Reads (orNull string) (printString text) (some text) :=
  reads_orNull_stringForm (stringForm_printString text)

/-- A name is read back from its print. -/
theorem reads_named {ofName? : String → Option α} (known : List String) {name : String}
    {value : α} (h : ofName? name = some value) :
    Reads (named ofName? known) (printString name) value :=
  reads_named_stringForm known h (stringForm_printString name)

/-! ## Truth values -/

theorem reads_bool (b : Bool) : Reads bool (printBool b) b := by
  cases b with
  | true =>
    rw [show printBool true = 't' :: ['r', 'u', 'e'] by decide]
    refine Reads.of_peek (c := 't') (by decide) (by decide) fun {rest length} _ _ => ?_
    show (skip >>= fun _ => letters ['r', 'u', 'e'] >>= fun _ => pure true).result _ _ = _
    rw [result_bind_of_ok (result_skip _ _ _), result_bind_of_ok (result_letters _ _ _)]
    rfl
  | false =>
    rw [show printBool false = 'f' :: ['a', 'l', 's', 'e'] by decide]
    refine Reads.of_peek (c := 'f') (by decide) (by decide) fun {rest length} _ _ => ?_
    show (skip >>= fun _ => letters ['a', 'l', 's', 'e'] >>= fun _ => pure false).result _ _ = _
    rw [result_bind_of_ok (result_skip _ _ _), result_bind_of_ok (result_letters _ _ _)]
    rfl

/-! ## Whole numbers -/

/-- The value of a digit. -/
def digitValue (c : Char) : Nat := c.toNat - 48

/-- Digits are read up to what delimits them. -/
theorem result_digits {front rest : List Char} (hfront : ∀ c ∈ front, isDigit c = true)
    (hrest : Delimits rest) (length : Nat) :
    digits.result length (front ++ rest) = .ok (front.map digitValue, rest) := by
  have hstop : rest.takeWhile isDigit = [] ∧ rest.dropWhile isDigit = rest := by
    cases rest with
    | nil => exact ⟨rfl, rfl⟩
    | cons c rest =>
      have hc : ¬ isDigit c = true := by rw [(hrest c rfl).1]; exact Bool.false_ne_true
      exact ⟨List.takeWhile_cons_of_neg hc, List.dropWhile_cons_of_neg hc⟩
  have htake : (front ++ rest).takeWhile isDigit = front := by
    rw [List.takeWhile_append_of_pos hfront, hstop.1, List.append_nil]
  have hdrop : (front ++ rest).dropWhile isDigit = rest := by
    rw [List.dropWhile_append_of_pos hfront, hstop.2]
  show Except.ok (((front ++ rest).takeWhile isDigit).map digitValue,
    (front ++ rest).dropWhile isDigit) = _
  rw [htake, hdrop]

theorem le_ofDigitChars (digits : List Char) (n : Nat) : n ≤ Nat.ofDigitChars 10 digits n := by
  induction digits generalizing n with
  | nil => exact Nat.le_refl n
  | cons c rest ih =>
    have h := ih (10 * n + (c.toNat - '0'.toNat))
    rw [Nat.ofDigitChars_cons]
    omega

/-- Digits of a number that fits are all taken. -/
theorem absorb_digits {bound : Nat} (digits : List Char) {n : Nat}
    (h : Nat.ofDigitChars 10 digits n < bound) :
    absorb bound n (digits.map digitValue) = (Nat.ofDigitChars 10 digits n, 0) := by
  induction digits generalizing n with
  | nil => rfl
  | cons c rest ih =>
    have hstep : n * 10 + digitValue c = 10 * n + (c.toNat - '0'.toNat) := by
      rw [Nat.mul_comm]; rfl
    rw [Nat.ofDigitChars_cons] at h ⊢
    have hfits := le_ofDigitChars rest (10 * n + (c.toNat - '0'.toNat))
    rw [List.map_cons, absorb, hstep, if_neg (by omega)]
    exact ih h

theorem digitValue_digitChar : ∀ n < 10, digitValue (Nat.digitChar n) = n := by decide

/-- A number other than zero does not start with the digit zero. -/
theorem printNat_pos {n : Nat} (h : 0 < n) :
    ∃ c tail, printNat n = c :: tail ∧ 0 < digitValue c := by
  -- the first digit of `n` is that of `n / 10`, as long as there is one
  induction n using Nat.strongRecOn with
  | ind n ih =>
    rw [printNat, Nat.toDigits_eq_if (by decide)]
    split
    · rename_i hlt
      exact ⟨_, [], rfl, by rwa [digitValue_digitChar n hlt]⟩
    · obtain ⟨c, tail, heq, hc⟩ := ih (n / 10) (by omega) (by omega)
      rw [printNat] at heq
      rw [heq]
      exact ⟨c, _, rfl, hc⟩

theorem isDigit_of_mem_printNat {n : Nat} {c : Char} (h : c ∈ printNat n) : isDigit c = true :=
  Nat.isDigit_of_mem_toDigits (by decide) (by decide) h

/-- Nothing is added to a number by what may stand behind it. -/
theorem result_afterWhole (n : Nat) {rest : List Char} (hrest : Delimits rest) (length : Nat) :
    (afterWhole true n 0).result length rest = .ok (.natural n, rest) := by
  rw [afterWhole, result_bind_of_ok (result_get _ _)]
  split
  · exact absurd rfl (hrest _ rfl).2.1
  · exact absurd rfl (hrest _ rfl).2.2.1
  · exact absurd rfl (hrest _ rfl).2.2.2
  · rfl

/-- A number that fits is read as it is. -/
theorem result_number {n : Nat} (h : n < wholeBound) {rest : List Char} (hrest : Delimits rest)
    (length : Nat) :
    (number true).result length (printNat n ++ rest) = .ok (.natural n, rest) := by
  have hdigits := result_digits (fun c => isDigit_of_mem_printNat (n := n)) hrest length
  rw [number, result_bind_of_ok hdigits]
  rcases Nat.eq_zero_or_pos n with rfl | hpos
  · exact result_afterWhole 0 hrest length
  · have hvalue : Nat.ofDigitChars 10 (printNat n) 0 = n :=
      Nat.ofDigitChars_toDigits (by decide) (by decide)
    have habsorb := absorb_digits (printNat n) (n := 0) (hvalue.symm ▸ h)
    rw [hvalue] at habsorb
    have hlead : ∃ d ds, (printNat n).map digitValue = (d + 1) :: ds := by
      obtain ⟨c, tail, heq, hc⟩ := printNat_pos hpos
      obtain ⟨d, hd⟩ := Nat.exists_eq_add_one.mpr hc
      exact ⟨d, tail.map digitValue, by rw [heq, List.map_cons, hd]⟩
    obtain ⟨d, ds, hds⟩ := hlead
    rw [hds] at habsorb ⊢
    -- the number does not start with a zero, which would have to stand alone
    split
    · next heq => cases heq
    · next heq => cases heq
    · next heq => cases heq
    · dsimp only
      rw [habsorb]
      exact result_afterWhole n hrest length

/-- Every whole number below `2 ^ 64` is read back. -/
theorem reads_natural (wanted : String) {n : Nat} (h : n < wholeBound) :
    Reads (natural wanted) (printNat n) n := by
  obtain ⟨c, tail, hcons⟩ := List.exists_cons_of_ne_nil (Nat.toDigits_ne_nil (n := n) (b := 10))
  have hnumber := @result_number n h
  have hmem : c ∈ printNat n := by
    rw [printNat, hcons]
    exact List.mem_cons_self
  have hc : isDigit c = true := isDigit_of_mem_printNat hmem
  rw [printNat, hcons] at hnumber ⊢
  -- a digit is neither a blank, nor a bracket, nor a sign
  have hne : ∀ {d : Char}, isDigit d = false → c ≠ d := by
    rintro d hd rfl
    rw [hc] at hd
    cases hd
  have hvisible : isBlank c = false := by
    simp [isBlank, hne (d := ' ') (by decide), hne (d := '\n') (by decide),
      hne (d := '\t') (by decide), hne (d := '\r') (by decide)]
  refine Reads.of_peek hvisible (hne (by decide)) fun {rest length} hrest _ => ?_
  dsimp only
  split
  · next heq => cases heq
  · next heq => exact absurd (Option.some.inj heq) (hne (by decide))
  · next heq =>
    obtain rfl := Option.some.inj heq
    rw [if_pos hc, ← List.cons_append, result_bind_of_ok (hnumber hrest length)]
    rfl

end Reader

end PubSubTrials.Json
