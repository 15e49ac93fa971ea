import PubSubTrials.Text.Utf8

/-!
# Encoded texts

Every text is decoded from its UTF-8 bytes (`decode_encode`). The first byte of a character
announces how many bytes it has and what the second may be (`leadOf_encodeChar`), and the tail bytes
carry six bits each. These bytes are the ones that strings are made of (`toByteArray_encode`).
-/

namespace PubSubTrials.Text

/-! ## Bytes of one character -/

theorem toNat_byte {m : Nat} (h : m < 0x100) : (UInt8.ofNat m).toNat = m :=
  UInt8.toNat_ofNat_of_lt' h

/-- A tail byte in its range is taken for six more bits. -/
theorem leadTail_byte {width done code low high m : Nat} (hdone : done < width)
    (hlow : low ≤ m) (hhigh : m ≤ high) (hbyte : m < 0x100) (rest : List UInt8) :
    leadTail width done code low high (UInt8.ofNat m :: rest) =
      leadTail width (done + 1) (code * 64 + m % 64) 0x80 0xBF rest := by
  rw [leadTail, if_pos hdone, toNat_byte hbyte, if_pos ⟨hlow, hhigh⟩]

theorem leadTail_done (width code low high : Nat) (rest : List UInt8) :
    leadTail width width code low high rest = .char (Char.ofNat code) width := by
  cases rest with
  | nil => rw [leadTail, if_neg (Nat.lt_irrefl width)]
  | cons b rest => rw [leadTail, if_neg (Nat.lt_irrefl width)]

/-- The numbers of characters leave out those of surrogates. -/
theorem toNat_cases (c : Char) : c.toNat < 0xD800 ∨ 0xDFFF < c.toNat ∧ c.toNat < 0x110000 :=
  c.valid

theorem announced_two {n : Nat} (hlow : 0x80 ≤ n) (hhigh : n < 0x800) :
    announced (0xC0 + n / 0x40) = some (2, 0x80, 0xBF) := by
  rw [announced, if_pos (by omega)]

/-- The first byte of three announces three, and bounds the second one so that overlong forms and
surrogates are left out. -/
theorem announced_three {n : Nat} (hlow : 0x800 ≤ n) (hhigh : n < 0x10000)
    (hvalid : n < 0xD800 ∨ 0xDFFF < n) :
    ∃ low high, announced (0xE0 + n / 0x1000) = some (3, low, high) ∧
      low ≤ 0x80 + n / 0x40 % 0x40 ∧ 0x80 + n / 0x40 % 0x40 ≤ high := by
  simp only [announced]
  -- `0xE0` shuts out forms that are too long, `0xED` shuts out surrogates
  split
  · omega
  · split
    · exact ⟨_, _, rfl, by omega, by omega⟩
    · split
      · exact ⟨_, _, rfl, by omega, by omega⟩
      · split
        · exact ⟨_, _, rfl, by omega, by omega⟩
        · rw [if_pos (by omega)]
          exact ⟨_, _, rfl, by omega, by omega⟩

/-- The first byte of four announces four, and bounds the second one so that only characters are
left. -/
theorem announced_four {n : Nat} (hlow : 0x10000 ≤ n) (hhigh : n < 0x110000) :
    ∃ low high, announced (0xF0 + n / 0x40000) = some (4, low, high) ∧
      low ≤ 0x80 + n / 0x1000 % 0x40 ∧ 0x80 + n / 0x1000 % 0x40 ≤ high := by
  have hlead : n / 0x40000 = 0 ∨ (1 ≤ n / 0x40000 ∧ n / 0x40000 ≤ 3) ∨ n / 0x40000 = 4 := by omega
  rcases hlead with hlead | hlead | hlead
  · exact ⟨0x90, 0xBF, by rw [hlead]; rfl, by omega, by omega⟩
  · refine ⟨0x80, 0xBF, ?_, by omega, by omega⟩
    obtain h | h | h : n / 0x40000 = 1 ∨ n / 0x40000 = 2 ∨ n / 0x40000 = 3 := by omega
    all_goals rw [h]; rfl
  · exact ⟨0x80, 0x8F, by rw [hlead]; rfl, by omega, by omega⟩

theorem leadOf_one {n : Nat} (h : n < 0x80) (rest : List UInt8) :
    leadOf (UInt8.ofNat n) rest = .char (Char.ofNat n) 1 := by
  rw [leadOf, toNat_byte (by omega), if_pos h]

theorem leadOf_two {n : Nat} (hlow : 0x80 ≤ n) (hhigh : n < 0x800) (rest : List UInt8) :
    leadOf (UInt8.ofNat (0xC0 + n / 0x40)) (UInt8.ofNat (0x80 + n / 1 % 0x40) :: rest) =
      .char (Char.ofNat n) 2 := by
  rw [leadOf, toNat_byte (by omega), if_neg (by omega), announced_two hlow hhigh]
  show leadTail 2 1 _ _ _ _ = _
  rw [leadTail_byte (by omega) (by omega) (by omega) (by omega), leadTail_done]
  have hcode : (0xC0 + n / 0x40) % 32 * 64 + (0x80 + n / 1 % 0x40) % 64 = n := by omega
  rw [hcode]

theorem leadOf_three {n : Nat} (hlow : 0x800 ≤ n) (hhigh : n < 0x10000)
    (hvalid : n < 0xD800 ∨ 0xDFFF < n) (rest : List UInt8) :
    leadOf (UInt8.ofNat (0xE0 + n / 0x1000)) (UInt8.ofNat (0x80 + n / 0x40 % 0x40) ::
      UInt8.ofNat (0x80 + n / 1 % 0x40) :: rest) = .char (Char.ofNat n) 3 := by
  obtain ⟨low, high, hannounced, hsecond, hsecond'⟩ := announced_three hlow hhigh hvalid
  rw [leadOf, toNat_byte (by omega), if_neg (by omega), hannounced]
  show leadTail 3 1 _ _ _ _ = _
  rw [leadTail_byte (by omega) hsecond hsecond' (by omega),
    leadTail_byte (by omega) (by omega) (by omega) (by omega), leadTail_done]
  have hcode : ((0xE0 + n / 0x1000) % 16 * 64 + (0x80 + n / 0x40 % 0x40) % 64) * 64 +
      (0x80 + n / 1 % 0x40) % 64 = n := by omega
  rw [hcode]

theorem leadOf_four {n : Nat} (hlow : 0x10000 ≤ n) (hhigh : n < 0x110000) (rest : List UInt8) :
    leadOf (UInt8.ofNat (0xF0 + n / 0x40000)) (UInt8.ofNat (0x80 + n / 0x1000 % 0x40) ::
      UInt8.ofNat (0x80 + n / 0x40 % 0x40) :: UInt8.ofNat (0x80 + n / 1 % 0x40) :: rest) =
        .char (Char.ofNat n) 4 := by
  obtain ⟨low, high, hannounced, hsecond, hsecond'⟩ := announced_four hlow hhigh
  rw [leadOf, toNat_byte (by omega), if_neg (by omega), hannounced]
  show leadTail 4 1 _ _ _ _ = _
  rw [leadTail_byte (by omega) hsecond hsecond' (by omega),
    leadTail_byte (by omega) (by omega) (by omega) (by omega),
    leadTail_byte (by omega) (by omega) (by omega) (by omega), leadTail_done]
  have hcode : (((0xF0 + n / 0x40000) % 8 * 64 + (0x80 + n / 0x1000 % 0x40) % 64) * 64 +
      (0x80 + n / 0x40 % 0x40) % 64) * 64 + (0x80 + n / 1 % 0x40) % 64 = n := by omega
  rw [hcode]

/-- The bytes of a character, put in front of others, are read as that character. -/
theorem leadOf_encodeChar (c : Char) (rest : List UInt8) :
    ∃ first tail, encodeChar c = first :: tail ∧
      leadOf first (tail ++ rest) = .char c (tail.length + 1) := by
  have hvalid := toNat_cases c
  have hc : Char.ofNat c.toNat = c := Char.ofNat_toNat c
  rw [encodeChar]
  generalize c.toNat = n at hvalid hc
  subst hc
  dsimp only
  split
  · exact ⟨_, [], rfl, leadOf_one (by omega) rest⟩
  · split
    · exact ⟨_, [_], rfl, leadOf_two (by omega) (by omega) rest⟩
    · split
      · exact ⟨_, [_, _], rfl, leadOf_three (by omega) (by omega) (by omega) rest⟩
      · exact ⟨_, [_, _, _], rfl, leadOf_four (by omega) (by omega) rest⟩

/-! ## Whole texts -/

/-- Bytes of a character that was dealt with are passed over. -/
theorem decodeFrom_skip (decoded : List Char) (front rest : List UInt8) (offset : Nat) :
    decodeFrom front.length offset decoded (front ++ rest) =
      decodeFrom 0 (offset + front.length) decoded rest := by
  induction front generalizing offset with
  | nil => rfl
  | cons b front ih =>
    rw [List.cons_append, List.length_cons, decodeFrom, ih, Nat.add_right_comm, Nat.add_assoc]

/-- Decoding goes through an encoded text character by character. -/
theorem decodeFrom_encode (text decoded : List Char) (offset : Nat) :
    decodeFrom 0 offset decoded (encode text) = .ok (decoded.reverse ++ text) := by
  induction text generalizing decoded offset with
  | nil => rw [List.append_nil]; rfl
  | cons c text ih =>
    obtain ⟨first, tail, hbytes, hlead⟩ := leadOf_encodeChar c (encode text)
    have hencode : encode (c :: text) = first :: (tail ++ encode text) := by
      rw [encode, List.flatMap_cons, hbytes, List.cons_append, encode]
    rw [hencode, decodeFrom, hlead]
    dsimp only
    -- the bytes after the first one are dealt with already
    rw [Nat.add_sub_cancel, decodeFrom_skip, ih, List.reverse_cons, List.append_assoc,
      List.singleton_append]

/-- What was encoded is decoded. -/
theorem decode_encode (text : List Char) : decode (encode text) = .ok text :=
  decodeFrom_encode text [] 0

/-- Different texts have different bytes. -/
theorem encode_injective {text other : List Char} (h : encode text = encode other) :
    text = other := by
  have hdecode := congrArg decode h
  rwa [decode_encode, decode_encode, Except.ok.injEq] at hdecode

theorem encode_append (front back : List Char) :
    encode (front ++ back) = encode front ++ encode back :=
  List.flatMap_append

/-! ## Strings -/

/-- The bytes of a character are those that it has in a string. -/
theorem encodeChar_eq_utf8EncodeChar (c : Char) : encodeChar c = String.utf8EncodeChar c := by
  have hvalid := toNat_cases c
  have htail : ∀ m : Nat, 0x80 + m % 0x40 = m % 64 + 128 := fun m => Nat.add_comm _ _
  rw [encodeChar, String.utf8EncodeChar, show c.val.toNat = c.toNat from rfl]
  generalize c.toNat = n at hvalid
  dsimp only
  split
  · rw [if_pos (by omega)]
  · rw [if_neg (show ¬ n ≤ 127 by omega)]
    split
    · have hlead : 0xC0 + n / 0x40 = n / 64 % 32 + 192 := by omega
      rw [if_pos (by omega), hlead, htail, Nat.div_one]
    · rw [if_neg (show ¬ n ≤ 2047 by omega)]
      split
      · have hlead : 0xE0 + n / 0x1000 = n / 4096 % 16 + 224 := by omega
        rw [if_pos (by omega), hlead, htail, htail, Nat.div_one]
      · have hlead : 0xF0 + n / 0x40000 = n / 262144 % 8 + 240 := by omega
        rw [if_neg (by omega), hlead, htail, htail, htail, Nat.div_one]

/-- The bytes of a text are those of the string of its characters. -/
theorem toByteArray_encode (text : List Char) :
    (encode text).toByteArray = (String.ofList text).toByteArray := by
  have hchar : encodeChar = String.utf8EncodeChar := funext encodeChar_eq_utf8EncodeChar
  rw [encode, hchar, String.toByteArray_ofList, List.utf8Encode]

end PubSubTrials.Text
