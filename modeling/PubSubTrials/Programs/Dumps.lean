import PubSubTrials.Programs.Input

/-!
# Programs that show octets

Octets are shown as numbers or characters in rows, or as letters of which each stands for six bits.
-/

namespace PubSubTrials.Programs

open Host (Course)

/-! ## Rows of numbers -/

/-- How octets are shown in a row. -/
inductive OctetForm where
  | chars
  | numbers (size base : Nat) (signed : Bool)
  deriving Repr

namespace OctetForm

/-- Number of octets that are shown together. -/
def size : OctetForm → Nat
  | chars => 1
  | numbers size _ _ => size

/-- The width of what is shown together. -/
def width : OctetForm → Nat
  | chars => 3
  | numbers size base signed =>
    let most := Nat.pow 256 size - 1
    if base = 10 ∧ signed then (Nat.toDigits 10 (Nat.pow 256 size / 2)).length + 1
    else (Nat.toDigits base most).length

/-- Octets that are shown together. -/
def shown (form : OctetForm) (octets : Octets) : Octets :=
  match form with
  | chars =>
    let c := octets.head?.getD '\x00'
    let names : List (Char × String) :=
      [('\x00', "\\0"), ('\x07', "\\a"), ('\x08', "\\b"), ('\t', "\\t"), ('\n', "\\n"),
        ('\x0b', "\\v"), ('\x0c', "\\f"), ('\r', "\\r")]
    match names.lookup c with
    | some name => name.toList
    | none =>
      if 32 ≤ c.toNat ∧ c.toNat < 127 then [c]
      else
        let digits := Nat.toDigits 8 c.toNat
        List.replicate (3 - digits.length) '0' ++ digits
  | numbers size base signed =>
    let n := octets.foldr (fun c n => 256 * n + c.toNat) 0
    if signed ∧ Nat.pow 256 size / 2 ≤ n then Octets.ofInt ((n : Int) - Nat.pow 256 size)
    else
      let digits := Nat.toDigits base n
      if base = 10 then digits else List.replicate (form.width - digits.length) '0' ++ digits

/-- A row of octets. -/
def row (form : OctetForm) (columns : Nat) (octets : Octets) : Octets :=
  let count := (octets.length + form.size - 1) / form.size
  let total := 16 / form.size
  let extra := columns - total * (form.width + 1)
  (List.range count).flatMap (fun i =>
    let text := form.shown ((octets.drop (i * form.size)).take form.size)
    let fill := 1 + extra / total + (form.width - text.length)
    List.replicate fill ' ' ++ text)

end OctetForm

/-- The form that a type stands for. -/
def formOf? (type : Octets) : Option OctetForm :=
  let sized (rest : Octets) (base : Nat) (signed : Bool) : Option OctetForm :=
    match rest with
    | [] => some (.numbers 4 base signed)
    | ['1'] | ['C'] => some (.numbers 1 base signed)
    | ['2'] | ['S'] => some (.numbers 2 base signed)
    | ['4'] | ['I'] => some (.numbers 4 base signed)
    | ['8'] | ['L'] => some (.numbers 8 base signed)
    | _ => none
  match type with
  | ['c'] => some .chars
  | 'x' :: rest => sized rest 16 false
  | 'o' :: rest => sized rest 8 false
  | 'u' :: rest => sized rest 10 false
  | 'd' :: rest => sized rest 10 true
  | _ => none

/-- An address in a base. -/
def addressText (base : Char) (n : Nat) : Octets :=
  let inBase (base width : Nat) : Octets :=
    let digits := Nat.toDigits base n
    List.replicate (width - digits.length) '0' ++ digits
  match base with
  | 'd' => inBase 10 7
  | 'x' => inBase 16 6
  | 'n' => []
  | _ => inBase 8 7

/-- Rows of octets with their addresses; equal rows are left out unless all are shown. -/
def dumpRows (base : Char) (showsAll : Bool) (forms : List OctetForm) (columns : Nat) :
    Nat → Nat → Option Octets → Bool → Octets → List Octets
  | 0, _, _, _, _ => []
  | fuel + 1, address, before, wasLeftOut, octets =>
    match octets with
    | [] => if base = 'n' then [] else [addressText base address]
    | octets =>
      let own := octets.take 16
      let rest := octets.drop 16
      if !showsAll ∧ some own = before ∧ own.length = 16 then
        (if wasLeftOut then [] else [['*']]) ++
          dumpRows base showsAll forms columns fuel (address + 16) before true rest
      else
        let lead := addressText base address
        let lines := forms.zipIdx.map (fun (form, i) =>
          (if i = 0 then lead else List.replicate lead.length ' ') ++ form.row columns own)
        lines ++ dumpRows base showsAll forms columns fuel (address + own.length) (some own)
          false rest

/-- Show octets in rows. -/
def od (arguments : List Octets) : Running Unit := do
  let table : OptionTable :=
    ⟨"A:j:N:S:t:vw::abBcdDeFhHiIlLoOsxX", [("address-radix", .always, 'A'),
      ("format", .always, 't'), ("skip-bytes", .always, 'j'), ("read-bytes", .always, 'N'),
      ("output-duplicates", .never, 'v'), ("width", .perhaps, 'w')], true⟩
  let chosen ← table.read arguments 1
  let base := ((chosen.value? 'A').bind List.head?).getD 'o'
  let letters : List (Char × Octets) :=
    [('b', "o1".toList), ('c', ['c']), ('d', "u2".toList), ('o', "o2".toList), ('s', "d2".toList),
      ('x', "x2".toList), ('h', "x2".toList), ('i', "d4".toList), ('l', "d8".toList)]
  let types := chosen.options.filterMap (fun (letter, value) =>
    if letter = 't' then value else letters.lookup letter)
  let forms ← (if types.isEmpty then ["o2".toList] else types).mapM (fun type => do
    match formOf? type with
    | some form => return form
    | none =>
      Running.fail ("invalid type string ".toList ++ Running.quoted type) 1)
  let texts ← (inputsOf chosen.operands).mapM (fun name => textOf name complainInput)
  if texts.all List.isEmpty ∧ (← get).status ≠ 0 then throw 1
  let skipped := texts.flatten.drop ((chosen.value? 'j').bind count? |>.getD 0)
  let octets := match (chosen.value? 'N').bind count? with
    | some n => skipped.take n
    | none => skipped
  let columns := forms.foldl (fun n form => max n (16 / form.size * (form.width + 1))) 0
  (dumpRows base (chosen.has 'v') forms columns (octets.length + 2)
    ((chosen.value? 'j').bind count? |>.getD 0) none false octets).forM Running.putLine

/-! ## Letters for bits -/

/-- The letters for the values of six bits. -/
def bitLetters : Octets :=
  "ABCDEFGHIJKLMNOPQRSTUVWXYZabcdefghijklmnopqrstuvwxyz0123456789+/".toList

/-- Octets as letters. -/
def toLetters : Octets → Octets
  | a :: b :: c :: rest =>
    letters 4 (a.toNat * 65536 + b.toNat * 256 + c.toNat) ++ toLetters rest
  | [a, b] => (letters 4 (a.toNat * 65536 + b.toNat * 256)).take 3 ++ ['=']
  | [a] => (letters 4 (a.toNat * 65536)).take 2 ++ ['=', '=']
  | [] => []
where
  /-- The last letters of a number. -/
  letters (count n : Nat) : Octets :=
    (List.range count).map (fun i =>
      bitLetters.getD (n / Nat.pow 64 (count - 1 - i) % 64) 'A')

/-- Octets that letters stand for, and whether all of them could be read. -/
def ofLetters : Nat → Octets → Octets × Bool
  | 0, _ => ([], true)
  | fuel + 1, letters =>
    match letters with
    | [] => ([], true)
    | letters =>
      let group := letters.take 4
      let values := (group.takeWhile (· ≠ '=')).map (fun c => bitLetters.idxOf c)
      let isWhole := group.length = 4 && values.all (· < 64) && 2 ≤ values.length &&
        (group.drop values.length).all (· = '=')
      let known := values.takeWhile (· < 64)
      let n := (List.range 4).foldl (fun n i => n * 64 + known.getD i 0) 0
      let octets := [n / 65536 % 256, n / 256 % 256, n % 256].take (known.length - 1)
      let (rest, isFine) :=
        if isWhole then ofLetters fuel (letters.drop 4) else ([], false)
      (octets.map Char.ofNat ++ rest, isFine)

/-- Lines of at most so many characters. -/
def wrapped (width : Nat) : Nat → Octets → Octets
  | 0, _ => []
  | fuel + 1, text =>
    if text.isEmpty then []
    else if width = 0 then text
    else text.take width ++ '\n' :: wrapped width fuel (text.drop width)

/-- Write octets as letters, or the other way round. -/
def base64 (arguments : List Octets) : Running Unit := do
  let table : OptionTable :=
    ⟨"diw:", [("decode", .never, 'd'), ("ignore-garbage", .never, 'i'), ("wrap", .always, 'w')],
      true⟩
  let chosen ← table.read arguments 1
  match chosen.operands with
  | _ :: excess :: _ =>
    Running.failUsage ("extra operand ".toList ++ Running.quoted excess) 1
  | operands =>
    let text ← textOf (operands.head?.getD ['-']) (fun name error =>
      Running.fail (name ++ [':', ' '] ++ error.reason.toList) 1)
    if chosen.has 'd' then
      let letters := text.filter (fun c =>
        c ≠ '\n' && (!chosen.has 'i' || c = '=' || bitLetters.contains c))
      let (octets, isFine) := ofLetters (letters.length + 1) letters
      Running.put octets
      if !isFine then Running.fail "invalid input".toList 1
    else
      let width := ((chosen.value? 'w').bind (fun text => (String.ofList text).toNat?)).getD 76
      Running.put (wrapped width (text.length * 2 + 1) (toLetters text))

/-- Programs that show octets. -/
def dumping : List Program := [.plain "od" od, .plain "base64" base64]

end PubSubTrials.Programs
