import Mathlib.Data.List.Induction
import PubSubTrials.Proofs.Documents
import PubSubTrials.Proofs.Grammar

/-!
# What readers accept

A reader that reads something off the front of any text has found a value of the grammar there, with
blanks in front of it, and what it read is what that value stands for (`Yields`). Here this is shown
of strings, whole numbers, names, and of values that may be left out.

A reader is taken apart step by step (`result_bind_eq_ok`). Where it does not matter what a step
takes off the text, because a later one fails or reads something of another kind in any case,
nothing is said about the text at all (`Ensures`).
-/

namespace PubSubTrials.Json

open Sample (isDigit)

namespace Reader

variable {α β : Type} {length : Nat} {text rest : List Char}

/-! ## Steps that succeed -/

theorem bind_eq_ok {step : Except Fault α} {next : α → Except Fault β} {y : β}
    (h : (step >>= next) = .ok y) : ∃ x, step = .ok x ∧ next x = .ok y := by
  cases step with
  | error fault => cases h
  | ok x => exact ⟨x, rfl, h⟩

/-- Of two readers that succeed, the second one goes on where the first one stops. -/
theorem result_bind_eq_ok {reader : Reader α} {next : α → Reader β} {y : β}
    (h : (reader >>= next).result length text = .ok (y, rest)) :
    ∃ x mid, reader.result length text = .ok (x, mid) ∧
      (next x).result length mid = .ok (y, rest) := by
  obtain ⟨⟨x, mid⟩, hreader, hnext⟩ := bind_eq_ok h
  exact ⟨x, mid, hreader, hnext⟩

/-- Whatever a reader reads has a property; one that reads nothing at all has every property. -/
def Ensures (property : α → Prop) (reader : Reader α) : Prop :=
  ∀ length text x rest, reader.result length text = .ok (x, rest) → property x

section Ensures

variable {property : α → Prop}

theorem ensures_pure {x : α} (h : property x) : Ensures property (pure x : Reader α) := by
  intro length text y rest hpure
  obtain ⟨rfl, -⟩ := Prod.mk.inj (Except.ok.inj hpure)
  exact h

/-- A reader ensures what its last step ensures, whatever was read before. -/
theorem ensures_bind {reader : Reader β} {next : β → Reader α}
    (h : ∀ x, Ensures property (next x)) : Ensures property (reader >>= next) := by
  intro length text y rest hbind
  obtain ⟨x, mid, -, hnext⟩ := result_bind_eq_ok hbind
  exact h x length mid y rest hnext

theorem ensures_failEnd (place : Place) : Ensures property (failEnd place : Reader α) :=
  fun _ _ _ _ h => by cases h

theorem ensures_failSlip (slip : Slip) : Ensures property (failSlip slip : Reader α) :=
  fun _ _ _ _ h => by cases h

theorem ensures_failMisfit (misfit : Misfit) : Ensures property (failMisfit misfit : Reader α) :=
  fun _ _ _ _ h => by cases h

end Ensures

/-- A reader passes over blanks before it sees a character. -/
theorem peek_eq_ok {next : Option Char} (h : peek.result length text = .ok (next, rest)) :
    ∃ blanks, AllBlank blanks ∧ text = blanks ++ rest ∧ next = rest.head? := by
  obtain ⟨rfl, rfl⟩ := Prod.mk.inj (Except.ok.inj h)
  exact ⟨text.takeWhile isBlank, List.all_eq_true.mp List.all_takeWhile,
    List.takeWhile_append_dropWhile.symm, rfl⟩

/-- A reader that looks ahead goes on behind blanks. -/
theorem peek_bind_eq_ok {reader : Option Char → Reader α} {x : α}
    (h : (peek >>= reader).result length text = .ok (x, rest)) :
    ∃ blanks next ahead, AllBlank blanks ∧ text = blanks ++ ahead ∧ next = ahead.head? ∧
      (reader next).result length ahead = .ok (x, rest) := by
  obtain ⟨next, ahead, hpeek, hnext⟩ := result_bind_eq_ok h
  obtain ⟨blanks, hblanks, htext, hhead⟩ := peek_eq_ok hpeek
  exact ⟨blanks, next, ahead, hblanks, htext, hhead, hnext⟩

theorem result_skip_bind {reader : Reader α} {c : Char} :
    (skip >>= fun _ => reader).result length (c :: text) = reader.result length text := rfl

theorem letters_eq_ok {word : List Char} {u : Unit}
    (h : (letters word).result length text = .ok (u, rest)) : text = word ++ rest := by
  induction word generalizing text with
  | nil =>
    obtain ⟨-, rfl⟩ := Prod.mk.inj (Except.ok.inj h)
    rfl
  | cons c word ih =>
    obtain ⟨now, mid, hget, hmatch⟩ := result_bind_eq_ok h
    obtain ⟨rfl, rfl⟩ := Prod.mk.inj (Except.ok.inj hget)
    cases text with
    | nil => cases hmatch
    | cons d text =>
      dsimp only at hmatch
      by_cases hsame : c = d
      · rw [if_pos hsame] at hmatch
        rw [hsame, ih hmatch]
        rfl
      · rw [if_neg hsame] at hmatch
        cases hmatch

/-! ## Strings -/

/-- What was checked of every character below a bound holds of the characters below it. -/
theorem forall_ascii (property : Char → Prop) (h : ∀ k < 128, property (Char.ofNat k))
    {c d : Char} (hd : d.toNat < 128) (hle : c ≤ d) : property c := by
  have hless : c.toNat < 128 := Nat.lt_of_le_of_lt (UInt32.le_iff_toNat_le.mp hle) hd
  have hc := h c.toNat hless
  rwa [Char.ofNat_toNat] at hc

/-- A character that has a value as a digit is the digit of that value, in either case of the
letters. -/
theorem isHexDigit_of_eq_some {c : Char} {n : Nat} (h : hexDigit? c = some n) :
    IsHexDigit n c := by
  have hascii : ∀ k < 128, ∀ n ∈ hexDigit? (Char.ofNat k), n < 16 ∧
      (Char.ofNat k = hexDigit n ∨ Char.ofNat k = (hexDigit n).toUpper) := by decide
  obtain ⟨d, hd, hle⟩ : ∃ d : Char, d.toNat < 128 ∧ c ≤ d := by
    unfold hexDigit? at h
    split_ifs at h with hdecimal hlower hupper
    · exact ⟨'9', by decide, hdecimal.2⟩
    · exact ⟨'f', by decide, hlower.2⟩
    · exact ⟨'F', by decide, hupper.2⟩
  exact forall_ascii (fun c => ∀ n ∈ hexDigit? c, IsHexDigit n c) hascii hd hle n h

theorem isHexDigit_of_mapM {digits : List Char} {values : List Nat}
    (h : digits.mapM hexDigit? = some values) : List.Forall₂ IsHexDigit values digits := by
  induction digits generalizing values with
  | nil =>
    obtain rfl := Option.some.inj h
    exact .nil
  | cons c digits ih =>
    rw [List.mapM_cons] at h
    obtain ⟨n, hn, hothers⟩ := Option.bind_eq_some_iff.mp h
    obtain ⟨others, hmap, hcons⟩ := Option.bind_eq_some_iff.mp hothers
    obtain rfl := Option.some.inj hcons
    exact .cons (isHexDigit_of_eq_some hn) (ih hmap)

/-- A number that is read is written in four digits. -/
theorem isHex_of_hex4 {n : Nat} (h : hex4 text = .ok n) : IsHex n (text.take 4) := by
  rw [hex4] at h
  split at h
  · cases h
  · split at h
    · next a b c d hdigits =>
      have hforall := isHexDigit_of_mapM hdigits
      obtain rfl := Except.ok.inj h
      have hdigits' := hforall
      obtain ⟨_, _, ha, hthree, -⟩ := List.forall₂_cons_left_iff.mp hforall
      obtain ⟨_, _, hb, htwo, -⟩ := List.forall₂_cons_left_iff.mp hthree
      obtain ⟨_, _, hc, hone, -⟩ := List.forall₂_cons_left_iff.mp htwo
      obtain ⟨_, _, hd, -, -⟩ := List.forall₂_cons_left_iff.mp hone
      have ha := ha.1
      have hb := hb.1
      have hc := hc.1
      have hd := hd.1
      -- the digits of the number are those that were read
      refine ⟨by omega, ?_⟩
      rw [show (((a * 16 + b) * 16 + c) * 16 + d) / 0x1000 = a by omega,
        show (((a * 16 + b) * 16 + c) * 16 + d) / 0x100 % 0x10 = b by omega,
        show (((a * 16 + b) * 16 + c) * 16 + d) / 0x10 % 0x10 = c by omega,
        show (((a * 16 + b) * 16 + c) * 16 + d) % 0x10 = d by omega]
      exact hdigits'
    · cases h

theorem toNat_ofNat_of_valid {n : Nat} (h : n < 0xD800 ∨ 0xDFFF < n ∧ n < 0x110000) :
    (Char.ofNat n).toNat = n := by
  rw [Char.ofNat, dif_pos h]
  rfl

/-- The second half of a pair is read if it is written in four digits behind a backslash. -/
theorem surrogatePair_eq_ok {high count : Nat} {c : Char}
    (h : surrogatePair high text = .ok (c, count)) :
    ∃ rest low, text = '\\' :: 'u' :: rest ∧ IsHex low (rest.take 4) ∧ 0xDC00 ≤ low ∧
      low ≤ 0xDFFF ∧ c = Char.ofNat ((high - 0xD800) * 0x400 + (low - 0xDC00) + 0x10000) ∧
      count = 10 := by
  unfold surrogatePair at h
  split at h
  · cases h
  · cases h
  · next rest =>
    obtain ⟨low, hlow, hrange⟩ := bind_eq_ok h
    split at hrange
    · cases hrange
    · obtain ⟨rfl, rfl⟩ := Prod.mk.inj (Except.ok.inj hrange)
      exact ⟨rest, low, rfl, isHex_of_hex4 hlow, by omega, by omega, rfl, rfl⟩
  · cases h

/-- An escape in hexadecimal spells its character. -/
theorem spells_of_hexEscape {c : Char} {count : Nat} (h : hexEscape text = .ok (c, count)) :
    count ≤ text.length ∧ Spells c ('\\' :: 'u' :: text.take count) := by
  obtain ⟨n, hnumber, hrange⟩ := bind_eq_ok h
  have hhex := isHex_of_hex4 hnumber
  have hfour := length_of_isHex hhex
  have hlength : 4 ≤ text.length := hfour ▸ List.length_take_le' 4 text
  have hsmall := hhex.1
  split at hrange
  · cases hrange
  split at hrange
  · obtain ⟨rfl, rfl⟩ := Prod.mk.inj (Except.ok.inj hrange)
    refine ⟨hlength, .number ?_⟩
    rwa [toNat_ofNat_of_valid (by omega)]
  · obtain ⟨rest, low, hdrop, hlow, hlower, hupper, hc, hcount⟩ := surrogatePair_eq_ok hrange
    have hvalue : c.toNat = (n - 0xD800) * 0x400 + (low - 0xDC00) + 0x10000 := by
      rw [hc, toNat_ofNat_of_valid (by omega)]
    -- the six characters behind the first four digits are the other half
    have htext : text = text.take 4 ++ '\\' :: 'u' :: (rest.take 4 ++ rest.drop 4) := by
      rw [List.take_append_drop, ← hdrop, List.take_append_drop]
    have hten : (text.take 4 ++ '\\' :: 'u' :: rest.take 4).length = count := by
      rw [List.length_append, List.length_cons, List.length_cons, hfour, length_of_isHex hlow,
        hcount]
    have hfront : text = (text.take 4 ++ '\\' :: 'u' :: rest.take 4) ++ rest.drop 4 := by
      rw [List.append_assoc, List.cons_append, List.cons_append]
      exact htext
    generalize hhigh : text.take 4 = high at *
    rw [hfront, ← hten, List.take_left]
    refine ⟨(List.prefix_append _ _).length_le, .surrogates (by omega) ?_ ?_⟩
    · rwa [hvalue, show 0xD800 + ((n - 0xD800) * 0x400 + (low - 0xDC00) + 0x10000 - 0x10000) /
        0x400 = n by omega]
    · rwa [hvalue, show 0xDC00 + ((n - 0xD800) * 0x400 + (low - 0xDC00) + 0x10000 - 0x10000) %
        0x400 = low by omega]

theorem mem_shortEscapes {letter c : Char} (h : shortEscape? letter = some c) :
    (letter, c) ∈ shortEscapes := by
  unfold shortEscape? at h
  split_ifs at h
  all_goals
    subst_vars
    obtain rfl := Option.some.inj h
    decide

/-- An escape spells its character. -/
theorem spells_of_escape {c : Char} {count : Nat} (h : escape text = .ok (c, count)) :
    count ≤ text.length ∧ Spells c ('\\' :: text.take count) := by
  cases text with
  | nil => cases h
  | cons letter text =>
    rw [escape] at h
    cases hshort : shortEscape? letter with
    | some d =>
      rw [hshort] at h
      obtain ⟨rfl, rfl⟩ := Prod.mk.inj (Except.ok.inj h)
      exact ⟨by simp, .letter (mem_shortEscapes hshort)⟩
    | none =>
      rw [hshort] at h
      dsimp only at h
      by_cases hletter : letter = 'u'
      · -- no short escape, so it is one by number
        rw [if_pos hletter] at h
        cases hescape : hexEscape text with
        | error fault =>
          rw [hescape] at h
          cases h
        | ok pair =>
          rw [hescape] at h
          obtain ⟨rfl, rfl⟩ := Prod.mk.inj (Except.ok.inj h)
          obtain ⟨hlength, hspells⟩ := spells_of_hexEscape hescape
          rw [hletter]
          exact ⟨Nat.succ_le_succ hlength, hspells⟩
      · rw [if_neg hletter] at h
        cases h

theorem stringFrom_skipped {skipped : Nat} {decoded : List Char} {result : List Char × List Char}
    (h : stringFrom skipped decoded text = .ok result) :
    stringFrom 0 decoded (text.drop skipped) = .ok result := by
  induction text generalizing skipped with
  | nil => cases h
  | cons c text ih =>
    cases skipped with
    | zero => exact h
    | succ skipped => exact ih h

/-- The characters of a string are read off their spellings, up to a quote. -/
theorem stringFrom_eq_ok {decoded read : List Char}
    (h : stringFrom 0 decoded text = .ok (read, rest)) :
    ∃ characters parts, List.Forall₂ Spells characters parts ∧
      text = parts.flatten ++ '"' :: rest ∧ read = decoded.reverse ++ characters := by
  induction hlength : text.length using Nat.strongRecOn generalizing text decoded with
  | ind length ih =>
    cases text with
    | nil => cases h
    | cons c text =>
      -- whatever way the next character is spelt, the rest is read as before
      have hstep : ∀ {d : Char} {written : List Char} {left : List Char}, Spells d written →
          c :: text = written ++ left → left.length < (c :: text).length →
          stringFrom 0 (d :: decoded) left = .ok (read, rest) →
          ∃ characters parts, List.Forall₂ Spells characters parts ∧
            c :: text = parts.flatten ++ '"' :: rest ∧ read = decoded.reverse ++ characters := by
        intro d written left hspells htext hless hleft
        obtain ⟨characters, parts, hparts, rfl, hread⟩ := ih _ (hlength ▸ hless) hleft rfl
        refine ⟨d :: characters, written :: parts, .cons hspells hparts, ?_, ?_⟩
        · rw [htext, List.flatten_cons, List.append_assoc]
        · rw [hread, List.reverse_cons, List.append_assoc, List.singleton_append]
      unfold stringFrom at h
      dsimp only at h
      split_ifs at h with hquote hslash hcontrol
      · obtain ⟨rfl, rfl⟩ := Prod.mk.inj (Except.ok.inj h)
        exact ⟨[], [], .nil, by rw [hquote]; rfl, (List.append_nil _).symm⟩
      · split at h
        · next d count hescape =>
          obtain ⟨hcount, hspells⟩ := spells_of_escape hescape
          refine hstep hspells ?_ ?_ (stringFrom_skipped h)
          · rw [hslash, List.cons_append, List.take_append_drop]
          · rw [List.length_drop, List.length_cons]
            omega
        · cases h
      · exact hstep (.itself hquote hslash hcontrol) rfl (Nat.lt_succ_self _) h

/-- After the opening quote a string is read up to its closing quote. -/
theorem stringBody_eq_ok {read : String} (h : stringBody.result length text = .ok (read, rest)) :
    ∃ tail, StringForm read ('"' :: tail) ∧ text = tail ++ rest := by
  have hresult : stringBody.result length text =
      (stringFrom 0 [] text).map fun found => (String.ofList found.1, found.2) := by
    rw [stringBody, result_bind_of_ok (result_get length text)]
    cases stringFrom 0 [] text with
    | error fault => rfl
    | ok found => rfl
  rw [hresult] at h
  cases hstring : stringFrom 0 [] text with
  | error fault =>
    rw [hstring] at h
    cases h
  | ok found =>
    rw [hstring] at h
    obtain ⟨rfl, rfl⟩ := Prod.mk.inj (Except.ok.inj h)
    obtain ⟨characters, parts, hparts, htext, hread⟩ := stringFrom_eq_ok hstring
    refine ⟨parts.flatten ++ ['"'], ⟨parts, ?_, rfl⟩, ?_⟩
    · rw [String.toList_ofList, hread]
      exact hparts
    · rw [htext, List.append_assoc, List.singleton_append]

/-- What spells a character stands inside a string. -/
theorem endsString_of_spells {c : Char} {written tail : List Char} (h : Spells c written)
    (htail : EndsString tail) : EndsString (written ++ tail) := by
  have hquad : ∀ {n : Nat} {digits : List Char}, IsHex n digits → IsQuad digits := by
    intro n digits hhex
    refine ⟨length_of_isHex hhex, fun d hd => ?_⟩
    obtain ⟨i, hi, rfl⟩ := List.getElem_of_mem hd
    exact ⟨_, hhex.2.get (hhex.2.length_eq ▸ hi) hi⟩
  cases h with
  | itself hquote hslash hcontrol => exact .plain hquote hslash hcontrol htail
  | letter h => exact .letter (List.mem_map_of_mem h) htail
  | number h => exact .number (hquad h) htail
  | surrogates _ hhigh hlow =>
    have hboth := EndsString.number (hquad hhigh) (.number (hquad hlow) htail)
    simpa only [List.cons_append, List.append_assoc] using hboth

theorem isString_of_stringForm {read : String} {written : List Char}
    (h : StringForm read written) : IsString written := by
  obtain ⟨parts, hparts, rfl⟩ := h
  refine ⟨_, ?_, rfl⟩
  generalize read.toList = characters at hparts
  induction hparts with
  | nil => exact .close
  | cons hspells _ ih =>
    rw [List.flatten_cons, List.append_assoc]
    exact endsString_of_spells hspells ih

/-- A string spells one text. -/
theorem stringForm_inj {a b : String} {written : List Char} (ha : StringForm a written)
    (hb : StringForm b written) : a = b := by
  have hread := result_stringBody ha 0 []
  rw [result_stringBody hb 0 []] at hread
  exact (Prod.mk.inj (Except.ok.inj hread)).1.symm

/-! ## Numbers -/

/-- What is read is a double. -/
def IsFloating (x : Number) : Prop := ∃ double, x = .floating double

/-- A number with a fraction or an exponent is no whole number. -/
theorem ensures_floating (positive : Bool) (significand : Nat) (exponent : Int) :
    Ensures IsFloating (floating positive significand exponent) := by
  unfold floating
  split
  · exact ensures_pure ⟨_, rfl⟩
  · exact ensures_failSlip _

theorem ensures_noDigits {property : Number → Prop} :
    Ensures property (do if (← get).isEmpty then failEnd .value else failSlip .invalidNumber) := by
  refine ensures_bind fun text => ?_
  split
  · exact ensures_failEnd _
  · exact ensures_failSlip _

theorem ensures_exponentPart (positive : Bool) (significand : Nat) (exponent : Int) :
    Ensures IsFloating (exponentPart positive significand exponent) := by
  unfold exponentPart
  refine ensures_bind fun text => ?_
  extract_lets power
  have hpower : ∀ up, Ensures IsFloating (power up) := by
    intro up
    refine ensures_bind fun ds => ?_
    split
    · exact ensures_noDigits
    · split
      · exact ensures_floating _ _ _
      · split
        · exact ensures_failSlip _
        · exact ensures_pure ⟨_, rfl⟩
  split
  · exact ensures_bind fun _ => ensures_bind fun up => hpower up
  · exact ensures_bind fun _ => ensures_bind fun up => hpower up
  · exact ensures_bind fun up => hpower up

theorem ensures_decimalPart (positive : Bool) (significand : Nat) (exponent : Int) :
    Ensures IsFloating (decimalPart positive significand exponent) := by
  unfold decimalPart
  refine ensures_bind fun ds => ?_
  split
  · exact ensures_noDigits
  · refine ensures_bind fun text => ?_
    split
    · exact ensures_bind fun _ => ensures_exponentPart _ _ _
    · exact ensures_bind fun _ => ensures_exponentPart _ _ _
    · exact ensures_floating _ _ _

/-- A whole number stands by itself: nothing of a fraction or an exponent follows. -/
theorem afterWhole_eq_natural {positive : Bool} {significand left n : Nat}
    (h : (afterWhole positive significand left).result length text = .ok (.natural n, rest)) :
    positive = true ∧ left = 0 ∧ n = significand ∧ text = rest := by
  have hdouble : ¬ IsFloating (.natural n) := by
    rintro ⟨double, hdouble⟩
    cases hdouble
  obtain ⟨now, mid, hget, hnow⟩ := result_bind_eq_ok h
  obtain ⟨rfl, rfl⟩ := Prod.mk.inj (Except.ok.inj hget)
  split at hnow
  · obtain ⟨_, _, -, hplaces⟩ := result_bind_eq_ok hnow
    exact absurd (ensures_decimalPart _ _ _ _ _ _ _ hplaces) hdouble
  · obtain ⟨_, _, -, hpower⟩ := result_bind_eq_ok hnow
    exact absurd (ensures_exponentPart _ _ _ _ _ _ _ hpower) hdouble
  · obtain ⟨_, _, -, hpower⟩ := result_bind_eq_ok hnow
    exact absurd (ensures_exponentPart _ _ _ _ _ _ _ hpower) hdouble
  · split_ifs at hnow with hleft
    · obtain ⟨hwhole, rfl⟩ := Prod.mk.inj (Except.ok.inj hnow)
      unfold whole at hwhole
      split_ifs at hwhole with hpositive
      exact ⟨hpositive, hleft, (Number.natural.inj hwhole).symm, rfl⟩
    · exact absurd (ensures_floating _ _ _ _ _ _ _ hnow) hdouble

/-- No digit is left over when the value fits, and then it is the value of the digits. -/
theorem absorb_eq_zero {bound n significand : Nat} {digits : List Char}
    (hfits : significand < bound) (h : absorb bound significand (digits.map digitValue) = (n, 0)) :
    n = Nat.ofDigitChars 10 digits significand ∧ n < bound := by
  induction digits generalizing significand with
  | nil =>
    obtain ⟨rfl, -⟩ := Prod.mk.inj h
    exact ⟨rfl, hfits⟩
  | cons c digits ih =>
    have hstep : significand * 10 + digitValue c = 10 * significand + (c.toNat - '0'.toNat) := by
      rw [Nat.mul_comm]
      rfl
    rw [List.map_cons, absorb] at h
    split_ifs at h with hlarge
    · cases (Prod.mk.inj h).2
    · rw [Nat.ofDigitChars_cons, ← hstep]
      exact ih (Nat.not_le.mp hlarge) h

/-- A digit is the digit of its value. -/
theorem digitChar_digitValue {c : Char} (h : isDigit c = true) :
    Nat.digitChar (digitValue c) = c ∧ digitValue c < 10 := by
  have hascii : ∀ k < 128, isDigit (Char.ofNat k) = true →
      Nat.digitChar (digitValue (Char.ofNat k)) = Char.ofNat k ∧
        digitValue (Char.ofNat k) < 10 := by decide
  have hle : c ≤ '9' := by
    simp only [isDigit, Bool.and_eq_true, decide_eq_true_eq] at h
    exact h.2
  exact forall_ascii (fun c => isDigit c = true → Nat.digitChar (digitValue c) = c ∧
    digitValue c < 10) hascii (by decide) hle h

/-- Digits of which the first one is no zero are those of their number. -/
theorem printNat_ofDigitChars {digits : List Char} (hne : digits ≠ [])
    (hdigits : ∀ c ∈ digits, isDigit c = true) (hzero : digits.head? ≠ some '0') :
    printNat (Nat.ofDigitChars 10 digits 0) = digits ∧ 0 < Nat.ofDigitChars 10 digits 0 := by
  -- from the end, as printing takes the last digit off first
  induction digits using List.reverseRecOn with
  | nil => exact absurd rfl hne
  | append_singleton digits c ih =>
    obtain ⟨hchar, hless⟩ := digitChar_digitValue (hdigits c (by simp))
    have hvalue : Nat.ofDigitChars 10 (digits ++ [c]) 0 =
        10 * Nat.ofDigitChars 10 digits 0 + digitValue c := by
      rw [Nat.ofDigitChars_append, Nat.ofDigitChars_cons, Nat.ofDigitChars_nil]
      rfl
    rw [hvalue, printNat, Nat.toDigits_eq_if (by decide)]
    cases digits with
    | nil =>
      rw [Nat.ofDigitChars_nil, Nat.mul_zero, Nat.zero_add, if_pos hless, hchar]
      refine ⟨rfl, Nat.pos_of_ne_zero fun hnone => hzero ?_⟩
      rw [← hchar, hnone]
      rfl
    | cons d digits =>
      obtain ⟨hprint, hpos⟩ := ih (List.cons_ne_nil _ _)
        (fun c hc => hdigits c (List.mem_append_left _ hc)) hzero
      generalize Nat.ofDigitChars 10 (d :: digits) 0 = m at *
      rw [if_neg (by omega), show (10 * m + digitValue c) / 10 = m by omega,
        show (10 * m + digitValue c) % 10 = digitValue c by omega, hchar, ← printNat, hprint]
      exact ⟨rfl, by omega⟩

/-- A whole number that is read is written in its digits. -/
theorem number_eq_natural {positive : Bool} {n : Nat}
    (h : (number positive).result length text = .ok (.natural n, rest)) :
    positive = true ∧ n < wholeBound ∧ IsWhole (printNat n) ∧ text = printNat n ++ rest := by
  obtain ⟨ds, mid, hdigits, hnumber⟩ := result_bind_eq_ok h
  obtain ⟨hds, rfl⟩ := Prod.mk.inj (Except.ok.inj hdigits)
  have htext : text = text.takeWhile isDigit ++ text.dropWhile isDigit :=
    List.takeWhile_append_dropWhile.symm
  have hall : ∀ c ∈ text.takeWhile isDigit, isDigit c = true :=
    List.all_eq_true.mp List.all_takeWhile
  generalize text.takeWhile isDigit = front at htext hall hds
  change front.map digitValue = ds at hds
  split at hnumber
  · exact (@ensures_noDigits (fun _ => False) _ _ _ _ hnumber).elim
  · -- a zero stands alone
    obtain ⟨c, rfl, hc⟩ := List.map_eq_singleton_iff.mp hds
    have hchar := (digitChar_digitValue (hall c List.mem_cons_self)).1
    rw [hc] at hchar
    obtain ⟨hpositive, -, rfl, rfl⟩ := afterWhole_eq_natural hnumber
    refine ⟨hpositive, by decide, ⟨⟨by decide, fun _ => isDigit_of_mem_printNat⟩,
      fun _ => by decide⟩, ?_⟩
    rw [← hchar] at htext
    exact htext
  · cases hnumber
  · next hnone hzero hlead =>
    cases habsorb : absorb wholeBound 0 ds with
    | mk significand left =>
      rw [habsorb] at hnumber
      obtain ⟨hpositive, rfl, rfl, rfl⟩ := afterWhole_eq_natural hnumber
      subst hds
      obtain ⟨hvalue, hbound⟩ := absorb_eq_zero (by decide) habsorb
      have hne : front ≠ [] := fun hfront => hnone (by rw [hfront]; rfl)
      -- a zero in front of other digits has been refused
      have hhead : front.head? ≠ some '0' := by
        intro hhead
        obtain ⟨tail, rfl⟩ := List.head?_eq_some_iff.mp hhead
        exact hlead (tail.map digitValue) rfl
      have hprint := (printNat_ofDigitChars hne hall hhead).1
      rw [← hvalue] at hprint
      rw [hprint]
      exact ⟨hpositive, hbound, ⟨⟨hne, hall⟩, fun hfront => absurd hfront hhead⟩, htext⟩

/-! ## Values -/

/-- What a reader reads off the front of a text is what a value there stands for, which has blanks
before it. -/
def Yields (reader : Reader α) (form : α → Form) : Prop :=
  ∀ length text x rest, reader.result length text = .ok (x, rest) →
    ∃ blanks written, AllBlank blanks ∧ IsValue written ∧ form x written ∧
      text = blanks ++ (written ++ rest)

/-- Nothing is read where something else was wanted. -/
theorem ensures_refuse {property : α → Prop} (wanted : String) :
    Ensures property (refuse wanted : Reader α) := by
  unfold refuse
  extract_lets misplaced
  have hmisplaced : ∀ found, Ensures property (misplaced found) :=
    fun found => ensures_failMisfit _
  refine ensures_bind fun text => ?_
  split
  · exact ensures_bind fun _ => ensures_bind fun _ => hmisplaced _
  · exact ensures_bind fun _ => ensures_bind fun _ => hmisplaced _
  · exact ensures_bind fun _ => ensures_bind fun _ => hmisplaced _
  · exact ensures_bind fun _ => ensures_bind fun _ => hmisplaced _
  · exact ensures_bind fun _ => ensures_bind fun _ => hmisplaced _
  · exact hmisplaced _
  · exact hmisplaced _
  · split
    · exact ensures_bind fun _ => hmisplaced _
    · exact ensures_failSlip _
  · exact ensures_failSlip _

theorem not_refuse_eq_ok {wanted : String} {x : α} :
    (refuse wanted : Reader α).result length text ≠ .ok (x, rest) :=
  fun h => @ensures_refuse _ (fun _ => False) wanted _ _ _ _ h

theorem cons_of_head?_eq {c : Char} {left : List Char} (h : some c = left.head?) :
    ∃ tail, left = c :: tail := List.head?_eq_some_iff.mp h.symm

/-- What is read as a string is a way of writing that string. -/
theorem yields_stringFor (wanted : String) : Yields (stringFor wanted) StringForm := by
  intro length text read rest h
  obtain ⟨blanks, next, mid, hblanks, rfl, hhead, hnext⟩ := peek_bind_eq_ok h
  split at hnext
  · cases hnext
  · obtain ⟨tail, rfl⟩ := cons_of_head?_eq hhead
    obtain ⟨body, hform, rfl⟩ := stringBody_eq_ok (result_skip_bind ▸ hnext)
    exact ⟨blanks, _, hblanks, .string (isString_of_stringForm hform), hform, rfl⟩
  · exact absurd hnext not_refuse_eq_ok

theorem yields_string : Yields string StringForm := yields_stringFor _

/-- What is read as a whole number is a way of writing it, and fits into 64 bits. -/
theorem yields_natural (wanted : String) :
    Yields (natural wanted) fun n written => n < wholeBound ∧ NaturalForm n written := by
  intro length text n rest h
  unfold natural at h
  extract_lets accept at h
  obtain ⟨blanks, next, mid, hblanks, rfl, hhead, hnext⟩ := peek_bind_eq_ok h
  -- only a whole number without a sign is accepted
  have haccept : ∀ {x : Number} {mid : List Char},
      (accept x).result length mid = .ok (n, rest) → x = .natural n ∧ mid = rest := by
    intro x mid haccept
    cases x with
    | natural m =>
      obtain ⟨rfl, rfl⟩ := Prod.mk.inj (Except.ok.inj haccept)
      exact ⟨rfl, rfl⟩
    | negative m => cases haccept
    | floating x => cases haccept
  split at hnext
  · cases hnext
  · obtain ⟨tail, rfl⟩ := cons_of_head?_eq hhead
    obtain ⟨x, mid, hnumber, hx⟩ := result_bind_eq_ok (result_skip_bind ▸ hnext)
    obtain ⟨rfl, rfl⟩ := haccept hx
    cases (number_eq_natural hnumber).1
  · split at hnext
    · obtain ⟨x, mid, hnumber, hx⟩ := result_bind_eq_ok hnext
      obtain ⟨rfl, rfl⟩ := haccept hx
      obtain ⟨-, hbound, hwhole, rfl⟩ := number_eq_natural hnumber
      refine ⟨blanks, _, hblanks, .number ?_, ⟨hbound, rfl⟩, rfl⟩
      exact ⟨[], printNat n, [], [], .inl rfl, hwhole, .inl rfl, .inl rfl,
        (List.append_nil _).symm⟩
    · exact absurd hnext not_refuse_eq_ok

/-- A value that may be left out is read where it is not left out. -/
theorem Yields.orNull {reader : Reader α} {form : α → Form} (h : Yields reader form) :
    Yields (orNull reader) (OptionForm form) := by
  intro length text x rest hresult
  obtain ⟨blanks, next, mid, hblanks, rfl, hhead, hnext⟩ := peek_bind_eq_ok hresult
  split at hnext
  · obtain ⟨tail, rfl⟩ := cons_of_head?_eq hhead
    obtain ⟨u, mid, hletters, hpure⟩ := result_bind_eq_ok (result_skip_bind ▸ hnext)
    obtain ⟨rfl, rfl⟩ := Prod.mk.inj (Except.ok.inj hpure)
    obtain rfl := letters_eq_ok hletters
    exact ⟨blanks, ['n', 'u', 'l', 'l'], hblanks, .word (by decide), rfl, rfl⟩
  · obtain ⟨y, mid', hvalue, hpure⟩ := result_bind_eq_ok hnext
    obtain ⟨rfl, rfl⟩ := Prod.mk.inj (Except.ok.inj hpure)
    obtain ⟨more, written, hmore, hwritten, hform, rfl⟩ := h _ _ _ _ hvalue
    refine ⟨blanks ++ more, written, ?_, hwritten, hform, (List.append_assoc _ _ _).symm⟩
    exact List.forall_mem_append.mpr ⟨hblanks, hmore⟩

/-- What is made of a value that is read. -/
theorem Yields.map {reader : Reader α} {form : α → Form} (h : Yields reader form) {f : α → β}
    {form' : β → Form} (hform : ∀ x written, form x written → form' (f x) written) :
    Yields (do return f (← reader)) form' := by
  intro length text y rest hresult
  obtain ⟨x, mid, hvalue, hpure⟩ := result_bind_eq_ok hresult
  obtain ⟨rfl, rfl⟩ := Prod.mk.inj (Except.ok.inj hpure)
  obtain ⟨blanks, written, hblanks, hwritten, hx, rfl⟩ := h _ _ _ _ hvalue
  exact ⟨blanks, written, hblanks, hwritten, hform x written hx, rfl⟩

/-! ## Names -/

/-- A name stands as a string, or as the only key of an object, with `null` for its value. -/
def NameForm (name : String) : Form := fun written =>
  StringForm name written ∨
    ∃ key, StringForm name key ∧ HasMembers written [(key, ['n', 'u', 'l', 'l'])]

theorem colon_eq_ok {u : Unit} (h : colon.result length text = .ok (u, rest)) :
    ∃ blanks, AllBlank blanks ∧ text = blanks ++ ':' :: rest := by
  obtain ⟨blanks, next, mid, hblanks, rfl, hhead, hnext⟩ := peek_bind_eq_ok h
  split at hnext
  · cases hnext
  · obtain ⟨tail, rfl⟩ := cons_of_head?_eq hhead
    obtain ⟨-, rfl⟩ := Prod.mk.inj (Except.ok.inj hnext)
    exact ⟨blanks, hblanks, rfl⟩
  · cases hnext

theorem yields_nothing : Yields nothing fun _ written => written = ['n', 'u', 'l', 'l'] := by
  intro length text u rest h
  obtain ⟨blanks, next, mid, hblanks, rfl, hhead, hnext⟩ := peek_bind_eq_ok h
  split at hnext
  · cases hnext
  · obtain ⟨tail, rfl⟩ := cons_of_head?_eq hhead
    obtain rfl := letters_eq_ok (result_skip_bind ▸ hnext)
    exact ⟨blanks, ['n', 'u', 'l', 'l'], hblanks, .word (by decide), rfl, rfl⟩
  · exact absurd hnext not_refuse_eq_ok

theorem variantKey_eq_ok {u : Unit} (h : variantKey.result length text = .ok (u, rest)) :
    ∃ blanks, AllBlank blanks ∧ text = blanks ++ rest := by
  obtain ⟨blanks, next, mid, hblanks, rfl, -, hnext⟩ := peek_bind_eq_ok h
  split at hnext
  · cases hnext
  · obtain ⟨-, rfl⟩ := Prod.mk.inj (Except.ok.inj hnext)
    exact ⟨blanks, hblanks, rfl⟩
  · cases hnext
  · cases hnext

section Names

variable {ofName? : String → Option α} {known : List String}

theorem yields_variant : Yields (variant ofName? known) fun x written =>
    ∃ name, ofName? name = some x ∧ StringForm name written := by
  intro length text x rest h
  obtain ⟨name, mid, hstring, hmatch⟩ := result_bind_eq_ok h
  obtain ⟨blanks, written, hblanks, hwritten, hform, rfl⟩ := yields_stringFor _ _ _ _ _ hstring
  split at hmatch
  · next value hvalue =>
    obtain ⟨rfl, rfl⟩ := Prod.mk.inj (Except.ok.inj hmatch)
    exact ⟨blanks, written, hblanks, hwritten, ⟨name, hvalue, hform⟩, rfl⟩
  · cases hmatch

theorem yields_named : Yields (named ofName? known) fun x written =>
    ∃ name, ofName? name = some x ∧ NameForm name written := by
  intro length text x rest h
  obtain ⟨blanks, next, mid, hblanks, rfl, hhead, hnext⟩ := peek_bind_eq_ok h
  split at hnext
  · cases hnext
  · obtain ⟨more, written, hmore, hwritten, ⟨name, hname, hform⟩, rfl⟩ :=
      yields_variant _ _ _ _ hnext
    refine ⟨blanks ++ more, written, List.forall_mem_append.mpr ⟨hblanks, hmore⟩, hwritten,
      ⟨name, hname, .inl hform⟩, (List.append_assoc _ _ _).symm⟩
  · obtain ⟨tail, rfl⟩ := cons_of_head?_eq hhead
    obtain ⟨_, _, hkey, hrest⟩ := result_bind_eq_ok (result_skip_bind ▸ hnext)
    obtain ⟨value, _, hvariant, hrest⟩ := result_bind_eq_ok hrest
    obtain ⟨_, _, hcolon, hrest⟩ := result_bind_eq_ok hrest
    obtain ⟨_, _, hnothing, hrest⟩ := result_bind_eq_ok hrest
    obtain ⟨_, _, hclose, hend⟩ := result_bind_eq_ok hrest
    -- the steps come in order, and what they read is put together from the end
    obtain ⟨behind, hbehind, rfl, hbrace⟩ := peek_eq_ok hclose
    obtain ⟨after, _, hafter, hnull, rfl, rfl⟩ := yields_nothing _ _ _ _ hnothing
    obtain ⟨before, hbefore, rfl⟩ := colon_eq_ok hcolon
    obtain ⟨more, key, hmore, -, ⟨name, hname, hform⟩, rfl⟩ := yields_variant _ _ _ _ hvariant
    obtain ⟨front, hfront, rfl⟩ := variantKey_eq_ok hkey
    split at hend
    · cases hend
    · obtain ⟨tail, rfl⟩ := cons_of_head?_eq hbrace
      obtain ⟨rfl, rfl⟩ := Prod.mk.inj (Except.ok.inj hend)
      have hparts : List.Forall₂ MemberForm [(key, ['n', 'u', 'l', 'l'])]
          [key ++ (before ++ ':' :: (after ++ ['n', 'u', 'l', 'l']))] :=
        .cons ⟨before, after, isString_of_stringForm hform, hbefore, hafter, rfl⟩ .nil
      have hvalues : ∀ member ∈ [(key, ['n', 'u', 'l', 'l'])], IsValue member.2 :=
        List.forall_mem_singleton.mpr hnull
      have hencloses : Encloses '\x7b' '\x7d'
          [key ++ (before ++ ':' :: (after ++ ['n', 'u', 'l', 'l']))] _ :=
        .parts (List.forall_mem_append.mpr ⟨hfront, hmore⟩) (.close hbehind)
      refine ⟨blanks, _, hblanks, .object hvalues hparts hencloses,
        ⟨name, hname, .inr ⟨key, hform, _, hvalues, hparts, hencloses⟩⟩, ?_⟩
      simp only [List.append_assoc, List.cons_append, List.nil_append, List.tail_cons]
    · cases hend
  · cases hnext

end Names

end Reader

end PubSubTrials.Json
