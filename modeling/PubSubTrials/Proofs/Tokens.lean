import PubSubTrials.Proofs.Earliest
import PubSubTrials.Proofs.Encoding
import PubSubTrials.Proofs.Reporting

/-!
# Where tokens stand

A token is searched for among the characters of a text, but where it stands is said in bytes: at an
offset from which on seven bytes are three digits, a space and three digits (`Sample.StandsAt`). All
of these bytes are below 128, so they are characters of their own, whatever stands around them: a
token starts and ends at boundaries of characters (`Sample.standsAt_iff`), and no slice of a text
that is one cuts a character.

So the sample of a text is the token at the greatest offset there is (`Sample.IsLastToken`), also
where tokens overlap, and the observer of a publisher, which looks at what stands before a data
marker, reads the same sample as that of a subscriber, which looks at the marker too
(`Sample.findLast_iff_isLastToken`).
-/

namespace PubSubTrials

open Observing Output

/-! ## The bytes of a text -/

namespace Text

theorem length_encode (text : List Char) : (encode text).length = byteLength text := by
  rw [← List.size_toByteArray, toByteArray_encode, String.size_toByteArray, utf8ByteSize_ofList]

theorem drop_encode_append (front rest : List Char) :
    (encode (front ++ rest)).drop (byteLength front) = encode rest := by
  rw [encode_append, ← length_encode, List.drop_left]

/-- Characters with whose bytes a text starts are its first ones. -/
theorem isPrefix_of_isPrefix_encode {front text : List Char} (h : encode front <+: encode text) :
    front <+: text := by
  obtain ⟨back, hback⟩ := h
  refine List.isPrefix_of_utf8Encode_append_eq_utf8Encode back.toByteArray ?_
  rw [← String.toByteArray_ofList, ← toByteArray_encode, ← List.toByteArray_append, hback,
    toByteArray_encode, String.toByteArray_ofList]

/-- A byte that starts a character has a boundary of characters in front of it. -/
theorem exists_split_of_getElem? {text : List Char} {offset : Nat} {b : UInt8}
    (hb : (encode text)[offset]? = some b) (hfirst : b.IsUTF8FirstByte) :
    ∃ front rest, text = front ++ rest ∧ byteLength front = offset := by
  have hbytes : encode text = (String.ofList text).toByteArray.data.toList := by
    rw [← toByteArray_encode, List.toList_data_toByteArray]
  have hinside : (⟨offset⟩ : String.Pos.Raw) < (String.ofList text).rawEndPos := by
    have hlt := (List.getElem?_eq_some_iff.mp hb).1
    rw [length_encode, ← utf8ByteSize_ofList] at hlt
    exact hlt
  have hbyte : (String.ofList text).getUTF8Byte ⟨offset⟩ hinside = b := by
    rw [hbytes] at hb
    exact (List.getElem?_eq_some_iff.mp hb).2
  have hvalid : (⟨offset⟩ : String.Pos.Raw).IsValid (String.ofList text) := by
    rw [String.Pos.Raw.isValid_iff_isUTF8FirstByte]
    exact .inr ⟨hinside, by rwa [hbyte]⟩
  obtain ⟨front, rest, htext, hoffset⟩ := String.Pos.Raw.isValid_iff_exists_append.mp hvalid
  refine ⟨front.toList, rest.toList, ?_, ?_⟩
  · rw [← String.toList_append, ← htext, String.toList_ofList]
  · rw [byteLength_toList]
    exact (congrArg String.Pos.Raw.byteIdx hoffset).symm

end Text

namespace Sample

/-! ## Tokens as bytes -/

/-- An ASCII digit as a byte. -/
def isDigitByte (b : UInt8) : Bool :=
  0x30 ≤ b && b ≤ 0x39

/-- Whether bytes are a token: three digits, a space, three digits. -/
def isTokenBytes : List UInt8 → Bool
  | [a, b, c, space, d, e, f] =>
    isDigitByte a && isDigitByte b && isDigitByte c && space == 0x20 && isDigitByte d &&
      isDigitByte e && isDigitByte f
  | _ => false

/-- The ten digits are digits as characters and as bytes. -/
theorem digits_agree : ∀ n < 10, isDigitByte (UInt8.ofNat (0x30 + n)) = true ∧
    isDigit (Char.ofNat (0x30 + n)) = true ∧ (UInt8.ofNat (0x30 + n)).IsUTF8FirstByte ∧
    Text.encodeChar (Char.ofNat (0x30 + n)) = [UInt8.ofNat (0x30 + n)] := by
  decide

theorem digit_of_byte {b : UInt8} (h : isDigitByte b = true) :
    isDigit (Char.ofNat b.toNat) = true ∧ Text.encodeChar (Char.ofNat b.toNat) = [b] ∧
      b.IsUTF8FirstByte := by
  simp only [isDigitByte, Bool.and_eq_true, decide_eq_true_eq, UInt8.le_iff_toNat_le] at h
  obtain ⟨hlow : 0x30 ≤ b.toNat, hhigh : b.toNat ≤ 0x39⟩ := h
  obtain ⟨n, hn⟩ := Nat.exists_eq_add_of_le hlow
  obtain ⟨-, hdigit, hfirst, hencode⟩ := digits_agree n (by omega)
  rw [← hn] at hdigit hencode hfirst
  rw [UInt8.ofNat_toNat] at hencode hfirst
  exact ⟨hdigit, hencode, hfirst⟩

theorem byte_of_digit {c : Char} (h : isDigit c = true) :
    isDigitByte (UInt8.ofNat c.toNat) = true ∧
      Text.encodeChar c = [UInt8.ofNat c.toNat] := by
  simp only [isDigit, Bool.and_eq_true, decide_eq_true_eq] at h
  obtain ⟨hlow : 0x30 ≤ c.toNat, hhigh : c.toNat ≤ 0x39⟩ := h
  obtain ⟨n, hn⟩ := Nat.exists_eq_add_of_le hlow
  obtain ⟨hbyte, -, -, hencode⟩ := digits_agree n (by omega)
  rw [← hn] at hbyte hencode
  rw [Char.ofNat_toNat] at hencode
  exact ⟨hbyte, hencode⟩

theorem encodeChar_space : Text.encodeChar ' ' = [0x20] := by decide

theorem length_of_isTokenBytes {bytes : List UInt8} (h : isTokenBytes bytes = true) :
    bytes.length = tokenLength := by
  unfold isTokenBytes at h
  split at h
  · rfl
  · cases h

/-- The first byte of a token starts a character. -/
theorem exists_first {bytes : List UInt8} (h : isTokenBytes bytes = true) :
    ∃ b, bytes.head? = some b ∧ b.IsUTF8FirstByte := by
  unfold isTokenBytes at h
  split at h
  · next a b c space d e f =>
    simp only [Bool.and_eq_true] at h
    have ha : isDigitByte a = true := h.1.1.1.1.1.1
    exact ⟨a, rfl, (digit_of_byte ha).2.2⟩
  · cases h

/-- A token is one in its bytes. -/
theorem isTokenBytes_encode {token : List Char} (h : isToken token = true) :
    isTokenBytes (Text.encode token) = true := by
  simp only [isToken, Bool.and_eq_true, beq_iff_eq] at h
  obtain ⟨hlength, hstarts⟩ := h
  match token, hlength with
  | [a, b, c, space, d, e, f], _ =>
    simp only [startsToken, Bool.and_eq_true, beq_iff_eq] at hstarts
    obtain ⟨⟨⟨⟨⟨⟨ha, hb⟩, hc⟩, rfl⟩, hd⟩, he⟩, hf⟩ := hstarts
    simp [Text.encode, encodeChar_space, byte_of_digit ha, byte_of_digit hb,
      byte_of_digit hc, byte_of_digit hd, byte_of_digit he, byte_of_digit hf, isTokenBytes]

/-- The bytes of a token are those of seven characters which are one. -/
theorem exists_isToken {bytes : List UInt8} (h : isTokenBytes bytes = true) :
    ∃ token, isToken token = true ∧ Text.encode token = bytes := by
  unfold isTokenBytes at h
  split at h
  · next a b c space d e f =>
    simp only [Bool.and_eq_true, beq_iff_eq] at h
    obtain ⟨⟨⟨⟨⟨⟨ha, hb⟩, hc⟩, rfl⟩, hd⟩, he⟩, hf⟩ := h
    refine ⟨[Char.ofNat a.toNat, Char.ofNat b.toNat, Char.ofNat c.toNat, ' ', Char.ofNat d.toNat,
      Char.ofNat e.toNat, Char.ofNat f.toNat], ?_, ?_⟩
    · simp [isToken, tokenLength, startsToken, digit_of_byte ha, digit_of_byte hb,
        digit_of_byte hc, digit_of_byte hd, digit_of_byte he, digit_of_byte hf]
    · simp [Text.encode, encodeChar_space, digit_of_byte ha, digit_of_byte hb,
        digit_of_byte hc, digit_of_byte hd, digit_of_byte he, digit_of_byte hf]
  · cases h

/-! ## Offsets of tokens -/

/-- Whether a token stands at the start is decided by as many characters as it has. -/
theorem startsToken_append_of_le {text : List Char} (h : tokenLength ≤ text.length)
    (more : List Char) : startsToken (text ++ more) = startsToken text := by
  have hform : tokenForm.length ≤ text.length := h
  rw [startsToken_eq_stands, stands_append hform, startsToken_eq_stands]

theorem isToken_take {text : List Char} (h : startsToken text = true) :
    isToken (text.take tokenLength) = true := by
  have hlength : (text.take tokenLength).length = tokenLength :=
    List.length_take_of_le (tokenLength_le h)
  rw [← List.take_append_drop tokenLength text,
    startsToken_append_of_le (Nat.le_of_eq hlength.symm)] at h
  rw [isToken, hlength, beq_self_eq_true, Bool.true_and, h]

theorem startsToken_of_isToken {token : List Char} (h : isToken token = true)
    (more : List Char) : startsToken (token ++ more) = true := by
  obtain ⟨hlength, hstarts⟩ := Bool.and_eq_true_iff.mp h
  rw [startsToken_append_of_le (Nat.le_of_eq (eq_of_beq hlength).symm), hstarts]

/-- The token at the start of a text has seven characters and seven bytes. -/
theorem take_encode {text : List Char} (h : startsToken text = true) :
    (Text.encode text).take tokenLength = Text.encode (text.take tokenLength) := by
  have hlength := length_of_isTokenBytes (isTokenBytes_encode (isToken_take h))
  have hsplit := Text.encode_append (text.take tokenLength) (text.drop tokenLength)
  rw [List.take_append_drop] at hsplit
  rw [hsplit, List.take_left' hlength]

/-- From an offset on, the bytes of a text are those of a token. -/
def StandsAt (text : List Char) (offset : Nat) : Prop :=
  isTokenBytes (((Text.encode text).drop offset).take tokenLength) = true

instance (text : List Char) (offset : Nat) : Decidable (StandsAt text offset) :=
  inferInstanceAs (Decidable (_ = true))

/-- A token that stands in the bytes of a text stands in front of some of its characters. -/
theorem standsAt_iff {text : List Char} {offset : Nat} :
    StandsAt text offset ↔ ∃ front rest, text = front ++ rest ∧
      Text.byteLength front = offset ∧ startsToken rest = true := by
  constructor
  · intro h
    obtain ⟨b, hb, hfirst⟩ := exists_first h
    have hget : (Text.encode text)[offset]? = some b := by
      rwa [List.head?_take, if_neg (by decide), List.head?_drop] at hb
    obtain ⟨front, rest, rfl, rfl⟩ := Text.exists_split_of_getElem? hget hfirst
    refine ⟨front, rest, rfl, rfl, ?_⟩
    rw [StandsAt, Text.drop_encode_append] at h
    -- with the boundary in front of it known, its bytes can only be those of a token's characters
    obtain ⟨token, htoken, hbytes⟩ := exists_isToken h
    have hstart : Text.encode token <+: Text.encode rest := hbytes ▸ List.take_prefix _ _
    obtain ⟨more, rfl⟩ := Text.isPrefix_of_isPrefix_encode hstart
    exact startsToken_of_isToken htoken more
  · rintro ⟨front, rest, rfl, rfl, hstarts⟩
    rw [StandsAt, Text.drop_encode_append, take_encode hstarts]
    exact isTokenBytes_encode (isToken_take hstarts)

/-- A token cuts no character in two, neither where it starts nor where it ends. -/
theorem isValid_of_standsAt {text : List Char} {offset : Nat} (h : StandsAt text offset) :
    (⟨offset⟩ : String.Pos.Raw).IsValid (String.ofList text) ∧
      (⟨offset + tokenLength⟩ : String.Pos.Raw).IsValid (String.ofList text) := by
  obtain ⟨front, rest, rfl, rfl, hstarts⟩ := standsAt_iff.mp h
  have hlength := length_of_isTokenBytes (isTokenBytes_encode (isToken_take hstarts))
  have hend : Text.byteLength (front ++ rest.take tokenLength) =
      Text.byteLength front + tokenLength := by
    rw [Text.byteLength_append, ← Text.length_encode (rest.take _), hlength]
  -- the token's characters make up its seven bytes, so its end is the end of whole characters
  have hbehind := Text.isValid_byteLength (front ++ rest.take tokenLength) (rest.drop tokenLength)
  rw [List.append_assoc, List.take_append_drop, hend] at hbehind
  exact ⟨Text.isValid_byteLength front rest, hbehind⟩

/-! ## The last token -/

/-- No token is found in a text in which none begins. -/
theorem findLast_eq_none {text : List Char}
    (h : ∀ front rest, text = front ++ rest → startsToken rest = false) :
    findLast text = none := by
  have hnone : findLastFrom none text = none := by
    induction text with
    | nil => rfl
    | cons c rest ih =>
      rw [findLastFrom, h [] (c :: rest) rfl, if_neg Bool.false_ne_true]
      exact ih fun front later hrest => h (c :: front) later (congrArg (c :: ·) hrest)
  rw [findLast, hnone, Option.map_none]

/-- A token is found if none starts behind its first character. -/
theorem findLast_of_startsToken (front : List Char) {c : Char} {rest : List Char}
    (h : startsToken (c :: rest) = true)
    (hlast : ∀ between later, rest = between ++ later → startsToken later = false) :
    findLast (front ++ c :: rest) = some ⟨String.ofList ((c :: rest).take tokenLength)⟩ := by
  obtain ⟨earlier, hfront⟩ := findLastFrom_front none front (c :: rest)
  have hnone : findLastFrom none rest = none := Option.map_eq_none_iff.mp (findLast_eq_none hlast)
  rw [findLast, hfront, findLastFrom, if_pos h, findLastFrom_eq_or, hnone, Option.none_or,
    Option.map_some]

/-- A text has no token, or it has one that starts last. -/
theorem exists_last (text : List Char) :
    (∀ front rest, text = front ++ rest → startsToken rest = false) ∨
      ∃ front c rest, text = front ++ c :: rest ∧ startsToken (c :: rest) = true ∧
        ∀ between later, rest = between ++ later → startsToken later = false := by
  induction text with
  | nil =>
    refine .inl fun front rest htext => ?_
    obtain ⟨-, rfl⟩ := List.nil_eq_append_iff.mp htext
    rfl
  | cons c text ih =>
    rcases ih with hnone | ⟨front, d, rest, rfl, hstarts, hlast⟩
    · cases hhere : startsToken (c :: text) with
      | true => exact .inr ⟨[], c, text, rfl, hhere, hnone⟩
      | false =>
        refine .inl fun front rest htext => ?_
        rcases List.cons_eq_append_iff.mp htext with ⟨rfl, rfl⟩ | ⟨front, rfl, rfl⟩
        · exact hhere
        · exact hnone front rest rfl
    · exact .inr ⟨c :: front, d, rest, rfl, hstarts, hlast⟩

/-- The token of a text that stands at the greatest offset. -/
structure IsLastToken (text : List Char) (offset : Nat) (token : String) : Prop where
  stands : StandsAt text offset
  last : ∀ other, StandsAt text other → other ≤ offset
  bytes : Text.encode token.toList = ((Text.encode text).drop offset).take tokenLength

/-- A text has one last token at most. -/
theorem IsLastToken.unique {text : List Char} {offset other : Nat} {token another : String}
    (h : IsLastToken text offset token) (hother : IsLastToken text other another) :
    token = another := by
  obtain rfl : offset = other :=
    Nat.le_antisymm (hother.last offset h.stands) (h.last other hother.stands)
  exact String.toList_injective (Text.encode_injective (h.bytes.trans hother.bytes.symm))

/-- The last token of a text is read as a sample. -/
theorem IsLastToken.parse {text : List Char} {offset : Nat} {token : String}
    (h : IsLastToken text offset token) : parse token.toList = some ⟨token⟩ := by
  have hbytes : isTokenBytes (Text.encode token.toList) = true := h.bytes ▸ h.stands
  obtain ⟨chars, htoken, heq⟩ := exists_isToken hbytes
  rw [← Text.encode_injective heq, Sample.parse, if_pos htoken, Text.encode_injective heq,
    String.ofList_toList]

/-- What starts last among the characters has the greatest offset. -/
theorem isLastToken_of_startsToken (front : List Char) {c : Char} {rest : List Char}
    (h : startsToken (c :: rest) = true)
    (hlast : ∀ between later, rest = between ++ later → startsToken later = false) :
    IsLastToken (front ++ c :: rest) (Text.byteLength front)
      (String.ofList ((c :: rest).take tokenLength)) where
  stands := standsAt_iff.mpr ⟨front, c :: rest, rfl, rfl, h⟩
  last other hother := by
    obtain ⟨start, later, htext, rfl, hlater⟩ := standsAt_iff.mp hother
    rcases List.append_eq_append_iff.mp htext with ⟨between, rfl, hrest⟩ | ⟨between, rfl, -⟩
    · -- behind this place no token starts, so the other one starts right here
      cases between with
      | nil => rw [List.append_nil]
      | cons d between =>
        rw [List.cons_append, List.cons.injEq] at hrest
        rw [hlast between later hrest.2] at hlater
        cases hlater
    · rw [Text.byteLength_append]
      exact Nat.le_add_right _ _
  bytes := by rw [String.toList_ofList, Text.drop_encode_append, take_encode h]

/-- What is found is the last token, and something is found unless there is none. -/
theorem findLast_cases (text : List Char) :
    (findLast text = none ∧ ∀ offset, ¬ StandsAt text offset) ∨
      ∃ offset sample, findLast text = some sample ∧ IsLastToken text offset sample.token := by
  rcases exists_last text with hnone | ⟨front, c, rest, rfl, hstarts, hlast⟩
  · refine .inl ⟨findLast_eq_none hnone, fun offset h => ?_⟩
    obtain ⟨front, rest, htext, -, hstarts⟩ := standsAt_iff.mp h
    rw [hnone front rest htext] at hstarts
    cases hstarts
  · exact .inr ⟨_, _, findLast_of_startsToken front hstarts hlast,
      isLastToken_of_startsToken front hstarts hlast⟩

/-! ## The sample of a data marker -/

/-- A data marker behind a text adds no token to it. -/
theorem findLast_append_data (text : List Char) {marker : List Char}
    (h : (Pattern.marker .data).lengthAt? marker = some marker.length) :
    findLast (text ++ marker) = findLast text := by
  obtain ⟨hlength, size, rfl⟩ := lengthAt?_data h
  refine findLast_append_short (by decide) text ?_
  rw [← Nat.succ.inj hlength.symm]
  decide

end Sample

/-- What a console holds before and after a hit is what its window had there. -/
theorem Output.Console.scan_of_expectFrom {patterns : List Pattern} {console : Console}
    {window : Window} {lines : List (List Char)} {index : Nat}
    (h : (Console.expectFrom patterns console window lines).1 = .found index) :
    ∃ passed text hit, scan patterns passed text = some hit ∧
      (Console.expectFrom patterns console window lines).2.before = hit.before ∧
      (Console.expectFrom patterns console window lines).2.after = hit.matched := by
  induction lines generalizing console window with
  | nil =>
    unfold Console.expectFrom at h ⊢
    cases hfind : window.find patterns with
    | some hit => exact ⟨_, _, hit, hfind, rfl, rfl⟩
    | none =>
      rw [hfind] at h
      cases hopen : console.isOpen <;> simp [hopen] at h
  | cons line rest ih =>
    unfold Console.expectFrom at h ⊢
    cases hfind : window.find patterns with
    | some hit => exact ⟨_, _, hit, hfind, rfl, rfl⟩
    | none =>
      rw [hfind] at h
      exact ih h

/-- Behind a data marker, the window with the marker has the sample of the window without it. -/
theorem Observing.findLast_of_expect {state next : Observation} {index : Nat}
    (h : (expect [.marker .data]).result state = (.ok (.found index), next)) :
    Sample.findLast (next.console.before ++ next.console.after) =
      Sample.findLast next.console.before := by
  have hconsole : (state.console.expect [.marker .data]).1 = .found index ∧
      next.console = (state.console.expect [.marker .data]).2 := by
    obtain ⟨console, crashAfter, inbox, outbox, log, waits⟩ := state
    -- an observer whose calls are used up crashes and finds nothing
    rcases crashAfter with _ | _ | calls
    · injection h with hreply hnext
      exact ⟨Except.ok.inj hreply, hnext ▸ rfl⟩
    · cases h
    · injection h with hreply hnext
      exact ⟨Except.ok.inj hreply, hnext ▸ rfl⟩
  obtain ⟨hreply, hnext⟩ := hconsole
  obtain ⟨passed, text, hit, hscan, hbefore, hafter⟩ := Console.scan_of_expectFrom hreply
  have hbefore' : next.console.before = hit.before := hnext ▸ hbefore
  have hafter' : next.console.after = hit.matched := hnext ▸ hafter
  rw [hbefore', hafter', findLast_window hscan]

namespace Sample

/-- The token found is the last one in the bytes of the text. -/
theorem findLast_eq_some_iff {text : List Char} {sample : Sample} :
    findLast text = some sample ↔ ∃ offset, IsLastToken text offset sample.token := by
  rcases findLast_cases text with ⟨hnone, habsent⟩ | ⟨offset, found, hfound, hlast⟩
  · rw [hnone]
    constructor
    · intro h
      cases h
    · rintro ⟨offset, h⟩
      exact absurd h.stands (habsent offset)
  · rw [hfound, Option.some.injEq]
    constructor
    · rintro rfl
      exact ⟨offset, hlast⟩
    · rintro ⟨other, hother⟩
      obtain ⟨token⟩ := found
      obtain rfl : token = sample.token := hlast.unique hother
      rfl

theorem findLast_eq_none_iff {text : List Char} :
    findLast text = none ↔ ∀ offset, ¬ StandsAt text offset := by
  rcases findLast_cases text with ⟨hnone, habsent⟩ | ⟨offset, found, hfound, hlast⟩
  · exact iff_of_true hnone habsent
  · rw [hfound]
    exact iff_of_false (Option.some_ne_none found) fun habsent => habsent offset hlast.stands

/-- The sample of a text is the token at the greatest byte offset, and there is none only if no
token stands in the text. Tokens, whether or not they overlap, lie between boundaries of characters,
and what is found is read as a sample. A data marker at the end of a text makes no difference to it,
so behind a data marker the observer of a subscriber reads the sample of what stands before the
marker, and that is where the observer of a publisher looks. -/
theorem findLast_iff_isLastToken :
    (∀ text : List Char,
      (∀ sample, findLast text = some sample ↔
        ∃ offset, IsLastToken text offset sample.token) ∧
      (findLast text = none ↔ ∀ offset, ¬ StandsAt text offset) ∧
      (∀ offset, StandsAt text offset →
        (⟨offset⟩ : String.Pos.Raw).IsValid (String.ofList text) ∧
        (⟨offset + tokenLength⟩ : String.Pos.Raw).IsValid (String.ofList text)) ∧
      (∀ sample, findLast text = some sample → parse sample.token.toList = some sample) ∧
      ∀ before marker, text = before ++ marker →
        (Pattern.marker .data).lengthAt? marker = some marker.length →
        findLast before = findLast text) ∧
    ∀ (state next : Observation) (index : Nat),
      (expect [.marker .data]).result state = (.ok (.found index), next) →
      Reception.currentSample.result next = (.ok (findLast next.console.before), next) ∧
      ∃ recorded, Lifecycle.recordWindow.result next = (.ok (), recorded) ∧
        recorded.outbox =
          next.outbox.map (·.pushAll (findLast next.console.before).toList) := by
  refine ⟨fun text => ⟨fun sample => findLast_eq_some_iff, findLast_eq_none_iff,
    fun offset => isValid_of_standsAt, fun sample h => ?_, ?_⟩, fun state next index h => ?_⟩
  · obtain ⟨offset, hlast⟩ := findLast_eq_some_iff.mp h
    exact hlast.parse
  · -- the marker holds no token, so it does not matter whether it is included
    rintro before marker rfl hmarker
    exact (findLast_append_data before hmarker).symm
  · obtain ⟨recorded, hrecord, houtbox, -⟩ := Lifecycle.result_recordWindow next
    refine ⟨?_, recorded, hrecord, houtbox⟩
    rw [Reception.result_currentSample, Observation.current, findLast_of_expect h]

/-- A data line in which two tokens share a group of digits, behind a character of two bytes. -/
def sharedDigits : List Char := "é001 002 003[20]".toList

/-- The theorem for a text in which two tokens share digits: the second one is found. -/
theorem findLast_iff_isLastToken_sharedDigits :
    StandsAt sharedDigits 2 ∧ findLast sharedDigits = some ⟨"002 003"⟩ ∧
    (∃ offset, IsLastToken sharedDigits offset "002 003") ∧
    (⟨2⟩ : String.Pos.Raw).IsValid (String.ofList sharedDigits) ∧
    parse "002 003".toList = some ⟨"002 003"⟩ ∧
    findLast "é001 002 003".toList = findLast sharedDigits ∧
    ∃ next : Observation,
      (expect [.marker .data]).result (.start (.ofLines [sharedDigits] true) [] none) =
        (.ok (.found 0), next) ∧
      Reception.currentSample.result next =
        (.ok (findLast "é001 002 003".toList), next) := by
  have hstands : StandsAt sharedDigits 2 := by decide +kernel
  have hfound : findLast sharedDigits = some ⟨"002 003"⟩ := by decide +kernel
  obtain ⟨hsome, -, hvalid, hparse, hmarker⟩ := findLast_iff_isLastToken.1 sharedDigits
  refine ⟨hstands, hfound, (hsome _).mp hfound, (hvalid 2 hstands).1, hparse _ hfound,
    hmarker _ "[20]".toList (by decide +kernel) (by decide +kernel), _, rfl, ?_⟩
  exact (findLast_iff_isLastToken.2 (.start (.ofLines [sharedDigits] true) [] none) _ 0 rfl).1

end Sample

end PubSubTrials
