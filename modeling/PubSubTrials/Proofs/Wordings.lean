import Mathlib.Data.List.Basic
import PubSubTrials.Command.Arguments

/-!
# Requests in words

A request can be written in many ways (`Request.IsWrittenAs`): its options stand in any order, as
long as those of one kind keep theirs; a value is joined to the name of its option or, where any
word is a value, stands apart; an option without a value is written by its name or by its letter.
However a request is written, it is read back (`Request.ofWords_of_isWrittenAs`). What the values
are does not matter, so they may look like other options.

What was given so far is described by the texts of each kind of option (`Given.texts`). The
invariant is that these texts, with those of the options still to come, are the texts of the
request (`Given.Awaits`). One option keeps it (`Given.Awaits.add`); once nothing is to come, the
texts leave no doubt about what was given (`Given.texts_injective`).
-/

namespace PubSubTrials

/-! ## The names of options -/

namespace Switch

theorem name_injective : Function.Injective name := by
  intro a b h
  cases a <;> cases b <;> first | rfl | exact absurd h (by decide)

theorem letter?_injective {a b : Switch} {letter : Char} (ha : a.letter? = some letter)
    (hb : b.letter? = some letter) : a = b := by
  have h : a.letter? = b.letter? := ha.trans hb.symm
  cases a <;> cases b <;> first | rfl | exact absurd h (by decide) | cases ha

theorem equals_notMem_name (switch : Switch) : '=' ∉ switch.name.toList := by
  cases switch <;> decide

theorem name_ne_empty (switch : Switch) : switch.name ≠ "" := by
  cases switch <;> decide

theorem letter?_ne_dash (switch : Switch) : switch.letter? ≠ some '-' := by
  cases switch <;> decide

theorem takesValue_of_takesAnyWord {switch : Switch} (h : switch.takesAnyWord = true) :
    switch.takesValue = true := by
  cases switch with
  | leading => rfl
  | _ => cases h

variable {known : List Switch} {switch : Switch}

/-- An option that is known is found by what no other option has. -/
theorem find?_known {p : Switch → Bool} (hknown : switch ∈ known) (hp : p switch = true)
    (honly : ∀ other, p other = true → other = switch) : known.find? p = some switch := by
  cases hfind : known.find? p with
  | none => exact absurd hp (List.find?_eq_none.mp hfind switch hknown)
  | some other => rw [honly other (List.find?_some hfind)]

theorem find?_name (hknown : switch ∈ known) :
    known.find? (fun other => other.name.toList = switch.name.toList) = some switch := by
  apply find?_known hknown (by simp)
  intro other hother
  exact name_injective (String.toList_injective (of_decide_eq_true hother))

theorem find?_letter {letter : Char} (hknown : switch ∈ known)
    (hletter : switch.letter? = some letter) :
    known.find? (fun other => other.letter? = some letter) = some switch := by
  apply find?_known hknown (by simp [hletter])
  intro other hother
  exact letter?_injective (of_decide_eq_true hother) hletter

end Switch

/-! ## Options in words -/

/-- An option that is given, with its value; the value of an option that takes none is empty. -/
structure Choice where
  switch : Switch
  value : String
  deriving DecidableEq, Repr

namespace Choice

/-- An option that takes no value. -/
def plain (switch : Switch) : Choice := ⟨switch, ""⟩

/-- The values of one kind of option among others, in their order. -/
def valuesOf (switch : Switch) (choices : List Choice) : List String :=
  (choices.filter (fun choice => choice.switch = switch)).map value

theorem valuesOf_nil (switch : Switch) : valuesOf switch [] = [] := rfl

theorem valuesOf_cons (switch : Switch) (choice : Choice) (choices : List Choice) :
    valuesOf switch (choice :: choices) =
      if choice.switch = switch then choice.value :: valuesOf switch choices
      else valuesOf switch choices := by
  unfold valuesOf
  rw [List.filter_cons]
  by_cases h : choice.switch = switch <;> simp [h]

/-- That words write options in their order. A value is joined to the name of its option by an
equals sign, or stands apart if the option takes any word. An option without a value is written by
its name or by its letter, and letters may share a word. -/
inductive AreWrittenAs : List Choice → List String → Prop
  | nil : AreWrittenAs [] []
  | joined {switch : Switch} {choices : List Choice} {words : List String} (value : String)
      (htakes : switch.takesValue = true) (hrest : AreWrittenAs choices words) :
      AreWrittenAs (⟨switch, value⟩ :: choices) (("--" ++ switch.name ++ "=" ++ value) :: words)
  | apart {switch : Switch} {choices : List Choice} {words : List String} (value : String)
      (hany : switch.takesAnyWord = true) (hrest : AreWrittenAs choices words) :
      AreWrittenAs (⟨switch, value⟩ :: choices) (("--" ++ switch.name) :: value :: words)
  | named {switch : Switch} {choices : List Choice} {words : List String}
      (hplain : switch.takesValue = false) (hrest : AreWrittenAs choices words) :
      AreWrittenAs (plain switch :: choices) (("--" ++ switch.name) :: words)
  | lettered {switches : List Switch} {letters : List Char} {choices : List Choice}
      {words : List String} (hne : letters ≠ [])
      (hplain : ∀ switch ∈ switches, switch.takesValue = false)
      (hletters : switches.map Switch.letter? = letters.map some)
      (hrest : AreWrittenAs choices words) :
      AreWrittenAs (switches.map plain ++ choices) (String.ofList ('-' :: letters) :: words)

/-- Options can be written if those that take no value have none. -/
theorem exists_areWrittenAs {choices : List Choice}
    (h : ∀ choice ∈ choices, choice.switch.takesValue = false → choice.value = "") :
    ∃ words, AreWrittenAs choices words := by
  induction choices with
  | nil => exact ⟨[], .nil⟩
  | cons choice choices ih =>
    obtain ⟨words, hrest⟩ := ih (fun other hother => h other (List.mem_cons_of_mem _ hother))
    obtain ⟨switch, value⟩ := choice
    cases htakes : switch.takesValue with
    | true => exact ⟨_, .joined value htakes hrest⟩
    | false =>
      obtain rfl : value = "" := h _ List.mem_cons_self htakes
      exact ⟨_, .named htakes hrest⟩

/-- Options of several kinds, one kind after the other. -/
def inTurn (switches : List Switch) (texts : Switch → List String) : List Choice :=
  switches.flatMap (fun switch => (texts switch).map (Choice.mk switch))

/-- Given in turn, every switch has its own texts as values. -/
theorem valuesOf_inTurn {switches : List Switch} (hnodup : switches.Nodup)
    (texts : Switch → List String) (switch : Switch) :
    valuesOf switch (inTurn switches texts) = if switch ∈ switches then texts switch else [] := by
  induction switches with
  | nil => rfl
  | cons other switches ih =>
    obtain ⟨hnew, hnodup⟩ := List.nodup_cons.mp hnodup
    have hsplit : valuesOf switch (inTurn (other :: switches) texts) =
        valuesOf switch ((texts other).map (Choice.mk other)) ++
          valuesOf switch (inTurn switches texts) := by
      simp [valuesOf, inTurn]
    rw [hsplit, ih hnodup]
    by_cases heq : other = switch
    · subst heq
      simp [valuesOf, hnew, List.filter_map, Function.comp_def]
    · simp [valuesOf, heq, Ne.symm heq, List.filter_map, Function.comp_def]

end Choice

/-! ## What was given, as texts -/

namespace Given

/-- The values that were given for one kind of option, as texts. -/
def texts (given : Given) : Switch → List String
  | .publisher => given.publisher.toList.map Path.text
  | .subscriber => given.subscriber.toList.map Path.text
  | .implementation => given.implementations
  | .suite => given.suites
  | .case => given.cases
  | .suiteFile => given.suiteFiles.map Path.text
  | .timeout => given.timeoutSeconds.toList.map toString
  | .stagger => given.staggerMillis.toList.map toString
  | .leading => given.leading
  | .pipes => if given.throughPipes then [""] else []
  | .output => given.output.toList.map Path.text
  | .verbose => List.replicate given.verbosity ""
  | .help => []

theorem text_of_plain (given : Given) {switch : Switch} (hplain : switch.takesValue = false)
    {text : String} (h : text ∈ given.texts switch) : text = "" := by
  cases switch with
  | pipes =>
    simp only [texts] at h
    split at h
    · exact List.mem_singleton.mp h
    · cases h
  | verbose => exact (List.mem_replicate.mp h).2
  | help => cases h
  | _ => cases hplain

/-- Paths are not empty, numbers are of the right size, and detail is not asked for more often than
is counted. -/
structure IsSound (given : Given) : Prop where
  publisher : ∀ path ∈ given.publisher, path.text ≠ ""
  subscriber : ∀ path ∈ given.subscriber, path.text ≠ ""
  suiteFiles : ∀ path ∈ given.suiteFiles, path.text ≠ ""
  timeout : ∀ n ∈ given.timeoutSeconds, n < numberBound
  stagger : ∀ n ∈ given.staggerMillis, n < numberBound
  output : ∀ path ∈ given.output, path.text ≠ ""
  verbosity : given.verbosity ≤ maxVerbosity

theorem path_toList {path : Path} (h : path.text ≠ "") :
    Given.path path.text.toList = .ok path := by
  unfold Given.path
  rw [if_neg (by simpa using h), String.ofList_toList]

/-- A number is read from its decimal digits. -/
theorem number_toString {n : Nat} (h : n < numberBound) : number (toString n).toList = .ok n := by
  have hdigits : (toString n).toList = Nat.toDigits 10 n := Nat.toList_repr
  have hall : ∀ c ∈ Nat.toDigits 10 n, c.isDigit = true := by
    intro c hc
    exact Nat.isDigit_of_mem_toDigits (by decide) (by decide) hc
  -- a digit is not a plus sign, so nothing is cut off
  have hsign : (Nat.toDigits 10 n).head? ≠ some '+' := by
    intro hhead
    exact absurd (hall _ (List.mem_of_head? hhead)) (by decide)
  have hvalue : (Nat.toDigits 10 n).foldl (fun n c => 10 * n + (c.toNat - '0'.toNat)) 0 = n :=
    Nat.ofDigitChars_toDigits (by decide) (by decide)
  unfold number
  rw [hdigits, if_neg hsign]
  dsimp only
  rw [hvalue, if_neg]
  rintro (hempty | hdigit | hbound)
  · exact Nat.toDigits_ne_nil (List.isEmpty_iff.mp hempty)
  · rw [List.all_eq_true.mpr hall] at hdigit
    cases hdigit
  · exact absurd h (Nat.not_lt.mpr hbound)

theorem path_text_injective : Function.Injective Path.text := by
  rintro ⟨a⟩ ⟨b⟩ rfl
  rfl

theorem toList_map_injective {α : Type} {write : α → String} (hwrite : Function.Injective write) :
    Function.Injective (fun held : Option α => held.toList.map write) := by
  intro a b h
  have hlists := hwrite.list_map h
  cases a <;> cases b
  · rfl
  · cases hlists
  · cases hlists
  · exact congrArg some (List.cons.inj hlists).1

/-- The texts of all kinds of options leave no doubt about what was given. -/
theorem texts_injective : Function.Injective texts := by
  intro a b h
  have hpaths := toList_map_injective path_text_injective
  have hnumbers := toList_map_injective
    (fun (m n : Nat) (hdigits : toString m = toString n) => toString_inj hdigits)
  -- switch by switch the texts tell the fields apart
  have hpublisher := hpaths (congrFun h .publisher)
  have hsubscriber := hpaths (congrFun h .subscriber)
  have himplementations : a.implementations = b.implementations := congrFun h .implementation
  have hsuites : a.suites = b.suites := congrFun h .suite
  have hcases : a.cases = b.cases := congrFun h .case
  have hsuiteFiles := path_text_injective.list_map (congrFun h .suiteFile)
  have htimeout := hnumbers (congrFun h .timeout)
  have hstagger := hnumbers (congrFun h .stagger)
  have hleading : a.leading = b.leading := congrFun h .leading
  have houtput := hpaths (congrFun h .output)
  have hpipes : a.throughPipes = b.throughPipes := by
    have htexts := congrFun h .pipes
    simp only [texts] at htexts
    cases ha : a.throughPipes <;> cases hb : b.throughPipes <;> simp [ha, hb] at htexts ⊢
  have hverbosity : a.verbosity = b.verbosity := by
    simpa [texts] using congrArg List.length (congrFun h .verbose)
  cases a
  cases b
  simp_all only

/-! ### One more option -/

/-- Add an option that is given. -/
def add (given : Given) (choice : Choice) : Except UsageError Given :=
  if choice.switch.takesValue then given.put choice.switch choice.value.toList
  else given.raise choice.switch

/-- A choice of a switch that takes a value puts that value. -/
theorem add_of_takesValue (given : Given) {switch : Switch} (value : String)
    (h : switch.takesValue = true) : given.add ⟨switch, value⟩ = given.put switch value.toList :=
  if_pos h

theorem add_plain (given : Given) {switch : Switch} (h : switch.takesValue = false) :
    given.add (.plain switch) = given.raise switch :=
  if_neg (by simpa [Choice.plain] using h)

variable {given target : Given} {choice : Choice} {choices : List Choice}

/-- That one option was added: its own texts grow by its value, and others stay. -/
def Adds (given : Given) (choice : Choice) (next : Given) : Prop :=
  given.add choice = .ok next ∧ ∀ switch, next.texts switch =
    if choice.switch = switch then given.texts switch ++ [choice.value] else given.texts switch

/-- An option that may be given once is added if its value is the one that is wanted. -/
theorem exists_adds_once {α : Type} {read : List Char → Except UsageError α} {wanted : Option α}
    {later : List String} (choice : Choice) (write : α → String) (held : Option α)
    (set : Option α → Given)
    (hadd : given.add choice = (do return set (← once (read choice.value.toList) held)))
    (hread : ∀ x ∈ wanted, read (write x).toList = .ok x)
    (h : held.toList.map write ++ choice.value :: later = wanted.toList.map write)
    (htexts : held = none → ∀ x switch, (set (some x)).texts switch =
      if choice.switch = switch then given.texts switch ++ [write x] else given.texts switch) :
    ∃ next, given.Adds choice next := by
  -- by their number, what is wanted has not been given before
  have hlength := congrArg List.length h
  cases wanted with
  | none => simp at hlength
  | some x =>
    cases held with
    | some y => simp at hlength
    | none =>
      have hvalue : choice.value = write x := (List.cons.inj h).1
      refine ⟨set (some x), ?_, ?_⟩
      · rw [hadd, hvalue, hread x rfl]
        rfl
      · rw [hvalue]
        exact htexts rfl x

/-- An option whose value is wanted next is added. -/
theorem exists_adds {later : List String} (hsound : target.IsSound)
    (h : given.texts choice.switch ++ choice.value :: later = target.texts choice.switch) :
    ∃ next, given.Adds choice next := by
  obtain ⟨switch, value⟩ := choice
  dsimp only at h
  have hmem : value ∈ target.texts switch := by
    rw [← h]
    exact List.mem_append_right _ List.mem_cons_self
  cases switch with
  | publisher =>
    apply exists_adds_once ⟨.publisher, value⟩ Path.text given.publisher
      (fun path => { given with publisher := path }) rfl
      (fun path hpath => path_toList (hsound.publisher path hpath)) h
    intro hheld path switch
    cases switch <;> simp [texts, hheld]
  | subscriber =>
    apply exists_adds_once ⟨.subscriber, value⟩ Path.text given.subscriber
      (fun path => { given with subscriber := path }) rfl
      (fun path hpath => path_toList (hsound.subscriber path hpath)) h
    intro hheld path switch
    cases switch <;> simp [texts, hheld]
  | output =>
    apply exists_adds_once ⟨.output, value⟩ Path.text given.output
      (fun path => { given with output := path }) rfl
      (fun path hpath => path_toList (hsound.output path hpath)) h
    intro hheld path switch
    cases switch <;> simp [texts, hheld]
  | timeout =>
    apply exists_adds_once ⟨.timeout, value⟩ toString given.timeoutSeconds
      (fun n => { given with timeoutSeconds := n }) rfl
      (fun n hn => number_toString (hsound.timeout n hn)) h
    intro hheld n switch
    cases switch <;> simp [texts, hheld]
  | stagger =>
    apply exists_adds_once ⟨.stagger, value⟩ toString given.staggerMillis
      (fun n => { given with staggerMillis := n }) rfl
      (fun n hn => number_toString (hsound.stagger n hn)) h
    intro hheld n switch
    cases switch <;> simp [texts, hheld]
  | suiteFile =>
    obtain ⟨path, hpath, rfl⟩ := List.mem_map.mp hmem
    refine ⟨{ given with suiteFiles := given.suiteFiles ++ [path] }, ?_, ?_⟩
    · show (do return { given with suiteFiles := given.suiteFiles ++ [← Given.path _] }) = _
      rw [path_toList (hsound.suiteFiles path hpath)]
      rfl
    · intro switch
      cases switch <;> simp [texts]
  | implementation | suite | case | leading =>
    refine ⟨_, rfl, ?_⟩
    intro switch
    cases switch <;> simp [texts]
  | pipes =>
    have hheld : given.throughPipes = false := by
      cases hheld : given.throughPipes with
      | false => rfl
      | true =>
        -- it would be wanted twice
        have honce : (target.texts .pipes).length ≤ 1 := by
          show (if target.throughPipes then [""] else []).length ≤ 1
          split <;> simp
        rw [← h] at honce
        simp [texts, hheld] at honce
    obtain rfl : value = "" := target.text_of_plain rfl hmem
    refine ⟨{ given with throughPipes := true }, ?_, ?_⟩
    · show (if given.throughPipes then _ else _) = _
      rw [hheld]
      rfl
    · intro switch
      cases switch <;> simp [texts, hheld]
  | verbose =>
    obtain rfl : value = "" := target.text_of_plain rfl hmem
    have hlength := congrArg List.length h
    simp only [texts, List.length_append, List.length_cons, List.length_replicate] at hlength
    have hle := hsound.verbosity
    refine ⟨{ given with verbosity := given.verbosity + 1 }, ?_, ?_⟩
    · show Except.ok { given with verbosity := min (given.verbosity + 1) maxVerbosity } = _
      rw [Nat.min_eq_left (by omega)]
    · intro switch
      cases switch <;> simp [texts, List.replicate_succ']
  | help => cases hmem

/-- What was given and what is still to come are, together and in this order, what is wanted. -/
def Awaits (given : Given) (choices : List Choice) (target : Given) : Prop :=
  ∀ switch, given.texts switch ++ Choice.valuesOf switch choices = target.texts switch

/-- The next option is taken, and what is wanted stays the same. -/
theorem Awaits.add (h : given.Awaits (choice :: choices) target) (hsound : target.IsSound) :
    ∃ next, given.add choice = .ok next ∧ next.Awaits choices target := by
  have hhere := h choice.switch
  rw [Choice.valuesOf_cons, if_pos rfl] at hhere
  obtain ⟨next, hadd, htexts⟩ := exists_adds hsound hhere
  refine ⟨next, hadd, ?_⟩
  intro switch
  have hswitch := h switch
  rw [Choice.valuesOf_cons] at hswitch
  rw [htexts]
  -- the value leaves those to come and joins those that were given
  by_cases heq : choice.switch = switch
  · rw [if_pos heq] at hswitch ⊢
    rw [List.append_assoc, List.singleton_append, hswitch]
  · rw [if_neg heq] at hswitch ⊢
    exact hswitch

/-- Once nothing is to come, what was given is what is wanted. -/
theorem Awaits.eq (h : given.Awaits [] target) : given = target := by
  apply texts_injective
  funext switch
  have hswitch := h switch
  rwa [Choice.valuesOf_nil, List.append_nil] at hswitch

end Given

/-! ## Reading options -/

namespace Reading

variable {reading : Reading} {given next target : Given} {switch : Switch}
  {known switches : List Switch} {choices : List Choice} {words : List String}

/-- A reader whose pending option has its value takes no further word for it. -/
theorem greedy?_of_settle (h : reading.settle = .ok given) : reading.greedy? = none := by
  obtain ⟨held, pending⟩ := reading
  cases pending with
  | none => rfl
  | some pending =>
    obtain ⟨switch, value⟩ := pending
    cases value with
    | none => cases h
    | some value => rfl

/-- A name is read up to the first sign of equality, as no name has one. -/
theorem nameAndValue_joined (switch : Switch) (value : List Char) :
    nameAndValue (switch.name.toList ++ '=' :: value) = (switch.name.toList, some value) := by
  unfold nameAndValue
  rw [Implementation.split?_eq_some_iff.mpr ⟨rfl, switch.equals_notMem_name⟩]

/-- A name by itself has no value. -/
theorem nameAndValue_name (switch : Switch) :
    nameAndValue switch.name.toList = (switch.name.toList, none) := by
  unfold nameAndValue
  cases hsplit : Implementation.split? switch.name.toList with
  | none => rfl
  | some parts =>
    have hname := (Implementation.split?_eq_some_iff.mp hsplit).1
    refine absurd ?_ switch.equals_notMem_name
    rw [hname]
    simp

/-! ### One word -/

/-- Words are read one after the other. -/
theorem readWords_of_readWord {after : Reading} {word : String}
    (hword : word = "--" → reading.greedy? ≠ none)
    (h : reading.readWord known word.toList = .ok after) :
    reading.readWords known (word :: words) = after.readWords known words := by
  rw [readWords, if_neg (fun hend => hword hend.1 hend.2), h]

/-- What an option takes that takes any word. -/
theorem readWord_greedy (hgreedy : reading.greedy? = some switch) (word : List Char) :
    reading.readWord known word = .ok { reading with pending := some (switch, some word) } := by
  unfold readWord
  rw [hgreedy]

theorem readWord_dashes (hgreedy : reading.greedy? = none) (rest : List Char) :
    reading.readWord known ('-' :: '-' :: rest) = reading.readName known rest := by
  unfold readWord
  rw [hgreedy]
  rfl

theorem readWord_dash (hgreedy : reading.greedy? = none) {letter : Char} (hletter : letter ≠ '-')
    (rest : List Char) :
    reading.readWord known ('-' :: letter :: rest) =
      reading.readLetters known (letter :: rest) := by
  unfold readWord
  rw [hgreedy]
  dsimp only
  split
  · next heq =>
    obtain ⟨-, heq⟩ := List.cons.inj heq
    exact absurd (List.cons.inj heq).1 hletter
  · next heq =>
    obtain ⟨-, heq⟩ := List.cons.inj heq
    rw [heq]
  · next hnone => exact absurd rfl (hnone _ _)

/-- A switch that takes a value waits for it. -/
theorem meet_takesValue (hsettle : reading.settle = .ok given) (htakes : switch.takesValue = true) :
    reading.meet switch = .ok ⟨given, some (switch, none)⟩ := by
  rw [meet, hsettle]
  show (if switch.takesValue then _ else _) = _
  rw [if_pos htakes]
  rfl

theorem meet_plain (hsettle : reading.settle = .ok given) (hplain : switch.takesValue = false)
    (hraise : given.raise switch = .ok next) : reading.meet switch = .ok ⟨next, none⟩ := by
  rw [meet, hsettle]
  show (if switch.takesValue then _ else do return (⟨← given.raise switch, none⟩ : Reading)) = _
  rw [if_neg (by simp [hplain]), hraise]
  rfl

/-- The name of an option and its value. -/
theorem readWord_joined (hsettle : reading.settle = .ok given) (hknown : switch ∈ known)
    {value : String} (htakes : switch.takesValue = true)
    (hput : given.put switch value.toList = .ok next) :
    reading.readWord known ("--" ++ switch.name ++ "=" ++ value).toList = .ok ⟨next, none⟩ := by
  have hword : ("--" ++ switch.name ++ "=" ++ value).toList =
      '-' :: '-' :: (switch.name.toList ++ '=' :: value.toList) := by simp
  rw [hword, readWord_dashes (greedy?_of_settle hsettle), readName, nameAndValue_joined]
  dsimp only
  rw [Switch.find?_name hknown]
  dsimp only
  rw [meetWith, if_pos htakes, hsettle]
  show (do return (⟨← given.put switch value.toList, none⟩ : Reading)) = _
  rw [hput]
  rfl

/-- The name of an option alone. -/
theorem readWord_name (hsettle : reading.settle = .ok given) (hknown : switch ∈ known) :
    reading.readWord known ("--" ++ switch.name).toList = reading.meet switch := by
  have hword : ("--" ++ switch.name).toList = '-' :: '-' :: switch.name.toList := by simp
  rw [hword, readWord_dashes (greedy?_of_settle hsettle), readName, nameAndValue_name]
  dsimp only
  rw [Switch.find?_name hknown]

/-- A name is more than the two dashes in front of it. -/
theorem dashes_append_ne (switch : Switch) (rest : String) :
    "--" ++ switch.name ++ rest ≠ "--" := by
  intro h
  have hlength := congrArg String.length h
  have hpos : 0 < switch.name.length := by
    rw [Nat.pos_iff_ne_zero, Ne, String.length_eq_zero_iff]
    exact switch.name_ne_empty
  simp only [String.length_append] at hlength
  have htwo : "--".length = 2 := by decide
  omega

/-! ### Words in turn -/

/-- Letters that share a word are read as the options that they stand for. -/
theorem readLetters_of_awaits {letters : List Char} (hsound : target.IsSound)
    (hknown : ∀ switch ∈ switches, switch ∈ known)
    (hplain : ∀ switch ∈ switches, switch.takesValue = false)
    (hletters : switches.map Switch.letter? = letters.map some)
    (hsettle : reading.settle = .ok given)
    (hawaits : given.Awaits (switches.map Choice.plain ++ choices) target) :
    ∃ after last, reading.readLetters known letters = .ok after ∧ after.settle = .ok last ∧
      last.Awaits choices target := by
  -- induction on the letters of one word, each of which raises its switch
  induction switches generalizing reading given letters with
  | nil =>
    obtain rfl : letters = [] := by simpa using hletters.symm
    exact ⟨reading, given, rfl, hsettle, hawaits⟩
  | cons switch switches ih =>
    obtain ⟨letter, letters, rfl⟩ : ∃ letter rest, letters = letter :: rest := by
      apply List.exists_cons_of_ne_nil
      rintro rfl
      cases hletters
    obtain ⟨hletter, hletters⟩ := List.cons.inj hletters
    have hplain' := hplain switch List.mem_cons_self
    obtain ⟨next, hadd, hnext⟩ := hawaits.add hsound
    rw [Given.add_plain given hplain'] at hadd
    have hsettled : (⟨next, none⟩ : Reading).settle = .ok next := rfl
    obtain ⟨after, last, hread, hafter⟩ := ih
      (fun other hother => hknown other (List.mem_cons_of_mem _ hother))
      (fun other hother => hplain other (List.mem_cons_of_mem _ hother)) hletters hsettled hnext
    refine ⟨after, last, ?_, hafter⟩
    rw [readLetters, Switch.find?_letter (hknown switch List.mem_cons_self) hletter]
    dsimp only
    rw [if_neg (by simp [hplain']), meet_plain hsettle hplain' hadd]
    exact hread

/-- Words that write what is still to come are read to what is wanted. -/
theorem readWords_of_awaits (hwritten : Choice.AreWrittenAs choices words)
    (hsound : target.IsSound) (hknown : ∀ choice ∈ choices, choice.switch ∈ known)
    (hsettle : reading.settle = .ok given) (hawaits : given.Awaits choices target) :
    reading.readWords known words = .ok target := by
  -- induction on the way of writing; what is still to come is carried by Awaits
  induction hwritten generalizing reading given with
  | nil =>
    rw [readWords, hsettle, hawaits.eq]
  | @joined switch choices words value htakes hrest ih =>
    obtain ⟨next, hadd, hnext⟩ := hawaits.add hsound
    rw [Given.add_of_takesValue given value htakes] at hadd
    have hread := readWord_joined hsettle (hknown _ List.mem_cons_self) htakes hadd
    rw [readWords_of_readWord ?_ hread]
    · exact ih (fun choice hchoice => hknown choice (List.mem_cons_of_mem _ hchoice)) rfl hnext
    · -- no option is read as the end of all options
      intro hend
      rw [String.append_assoc] at hend
      exact absurd hend (dashes_append_ne _ _)
  | @apart switch choices words value hany hrest ih =>
    have htakes := Switch.takesValue_of_takesAnyWord hany
    obtain ⟨next, hadd, hnext⟩ := hawaits.add hsound
    rw [Given.add_of_takesValue given value htakes] at hadd
    have hread := readWord_name hsettle (hknown _ List.mem_cons_self)
    rw [meet_takesValue hsettle htakes] at hread
    rw [readWords_of_readWord ?_ hread]
    · -- the option waits for any word, so the next one is its value
      have hgreedy : (⟨given, some (switch, none)⟩ : Reading).greedy? = some switch := if_pos hany
      rw [readWords_of_readWord ?_ (readWord_greedy hgreedy value.toList)]
      · exact ih (fun choice hchoice => hknown choice (List.mem_cons_of_mem _ hchoice)) hadd hnext
      · rw [hgreedy]
        exact fun _ => Option.some_ne_none _
    · intro hend
      exact absurd hend (by simpa using dashes_append_ne switch "")
  | @named switch choices words hplain hrest ih =>
    obtain ⟨next, hadd, hnext⟩ := hawaits.add hsound
    rw [Given.add_plain given hplain] at hadd
    have hread := readWord_name hsettle (hknown _ List.mem_cons_self)
    rw [Choice.plain, meet_plain hsettle hplain hadd] at hread
    rw [readWords_of_readWord ?_ hread]
    · exact ih (fun choice hchoice => hknown choice (List.mem_cons_of_mem _ hchoice)) rfl hnext
    · intro hend
      exact absurd hend (by simpa using dashes_append_ne switch "")
  | @lettered switches letters choices words hne hplain hletters hrest ih =>
    have hswitches : ∀ switch ∈ switches, switch ∈ known := by
      intro switch hswitch
      exact hknown (.plain switch) (List.mem_append_left _ (List.mem_map_of_mem hswitch))
    obtain ⟨after, last, hread, hafter, hlast⟩ :=
      readLetters_of_awaits hsound hswitches hplain hletters hsettle hawaits
    obtain ⟨letter, rest, rfl⟩ := List.exists_cons_of_ne_nil hne
    have hletter : letter ≠ '-' := by
      have hmem : some letter ∈ switches.map Switch.letter? := by
        rw [hletters]
        exact List.mem_cons_self
      rintro rfl
      obtain ⟨switch, -, hswitch⟩ := List.mem_map.mp hmem
      exact switch.letter?_ne_dash hswitch
    have hword : reading.readWord known (String.ofList ('-' :: letter :: rest)).toList =
        .ok after := by
      rw [String.toList_ofList, readWord_dash (greedy?_of_settle hsettle) hletter, hread]
    rw [readWords_of_readWord ?_ hword]
    · exact ih (fun choice hchoice => hknown choice (List.mem_append_right _ hchoice)) hafter hlast
    · intro hend
      have hlist := congrArg String.toList hend
      rw [String.toList_ofList] at hlist
      exact absurd (List.cons.inj (List.cons.inj hlist).2).1 hletter

end Reading

/-! ## Requests -/

namespace Request

/-- What is given for a selection and options. -/
def givenFor (selection : Selection) (options : RunOptions) : Given where
  publisher := none
  subscriber := none
  implementations := []
  suites := selection.suites
  cases := selection.cases
  suiteFiles := selection.suiteFiles
  timeoutSeconds := some options.timeoutSeconds
  staggerMillis := some options.staggerMillis
  leading := options.leading
  throughPipes := options.throughPipes
  output := options.output
  verbosity := options.verbosity

/-- What is given for a request, if nothing is left to what is usual. -/
def given : Request → Given
  | run request =>
    { givenFor request.selection request.options with
      publisher := some request.publisher
      subscriber := some request.subscriber }
  | matrix request =>
    { givenFor request.selection request.options with
      implementations := request.implementations }
  | list request =>
    { Given.nothing with
      suites := request.suites
      suiteFiles := request.suiteFiles }

/-- The name of a request's command. -/
def command : Request → String
  | run _ => "run"
  | matrix _ => "matrix"
  | list _ => "list"

/-- The options that a request's command knows. -/
def known : Request → List Switch
  | run _ => Switch.ofRun
  | matrix _ => Switch.ofMatrix
  | list _ => Switch.ofList

/-- Whether a request can be written in words: what is given for it is sound, and a matrix has an
implementation. -/
def IsSound (request : Request) : Prop :=
  request.given.IsSound ∧ ∀ matrix, request = .matrix matrix → matrix.implementations ≠ []

/-- That words write a request: the name of its command, and options in any order whose values are,
for each kind of option, those of the request. -/
def IsWrittenAs (request : Request) (words : List String) : Prop :=
  ∃ choices rest, words = request.command :: rest ∧ Choice.AreWrittenAs choices rest ∧
    ∀ switch, Choice.valuesOf switch choices = request.given.texts switch

variable {request : Request} {words : List String}

/-- A request has values only for options that its command knows. -/
theorem mem_known {switch : Switch} (h : request.given.texts switch ≠ []) :
    switch ∈ request.known := by
  cases request with
  | run request =>
    show switch ∈ Switch.ofRun
    cases switch <;> first | decide | exact absurd rfl h
  | matrix request =>
    show switch ∈ Switch.ofMatrix
    cases switch <;> first | decide | exact absurd rfl h
  | list request =>
    show switch ∈ Switch.ofList
    cases switch <;> first | decide | exact absurd rfl h

/-- Every request can be written. -/
theorem exists_isWrittenAs (request : Request) : ∃ words, request.IsWrittenAs words := by
  have hnodup : request.known.Nodup := by
    cases request <;> exact of_decide_eq_true rfl
  have hplain : ∀ choice ∈ Choice.inTurn request.known request.given.texts,
      choice.switch.takesValue = false → choice.value = "" := by
    intro choice hchoice hplain
    obtain ⟨switch, -, hmem⟩ := List.mem_flatMap.mp hchoice
    obtain ⟨value, hvalue, rfl⟩ := List.mem_map.mp hmem
    exact request.given.text_of_plain hplain hvalue
  obtain ⟨words, hwritten⟩ := Choice.exists_areWrittenAs hplain
  refine ⟨_, _, words, rfl, hwritten, ?_⟩
  intro switch
  rw [Choice.valuesOf_inTurn hnodup]
  by_cases htexts : request.given.texts switch = []
  · rw [htexts, ite_self]
  · rw [if_pos (mem_known htexts)]

/-- A request that is written in words is read back from them. -/
theorem ofWords_of_isWrittenAs (hsound : request.IsSound) (h : request.IsWrittenAs words) :
    ofWords words = .ok request := by
  obtain ⟨choices, rest, rfl, hwritten, hvalues⟩ := h
  have hknown : ∀ choice ∈ choices, choice.switch ∈ request.known := by
    intro choice hchoice
    apply mem_known
    rw [← hvalues]
    have hmem : choice ∈ choices.filter (fun other => other.switch = choice.switch) :=
      List.mem_filter.mpr ⟨hchoice, by simp⟩
    exact List.ne_nil_of_mem (List.mem_map_of_mem hmem)
  -- at the start all of the request is still to come
  have hawaits : Given.nothing.Awaits choices request.given := by
    intro switch
    rw [hvalues]
    cases switch <;> rfl
  have hread : Reading.start.readWords request.known rest = .ok request.given :=
    Reading.readWords_of_awaits hwritten hsound.1 hknown rfl hawaits
  cases request with
  | run request =>
    show (do ofRun (← Reading.start.readWords (run request).known rest)) = _
    rw [hread]
    rfl
  | matrix request =>
    show (do ofMatrix (← Reading.start.readWords (matrix request).known rest)) = _
    rw [hread]
    show (if request.implementations.isEmpty then _ else _) = _
    rw [if_neg (by simpa using hsound.2 request rfl)]
    rfl
  | list request =>
    show (do ofList (← Reading.start.readWords (list request).known rest)) = _
    rw [hread]
    rfl

/-- A run whose values look like other options. -/
theorem ofWords_run_of_isWrittenAs :
    ofWords
      ["run", "--prefix", "--suite", "--subscriber=a=b", "--suite=--help", "-vv", "--timeout-sec=0",
        "--prefix", "--", "--pipe-output", "--suite=", "--verbose", "--stagger-ms=5",
        "--publisher=-v"] =
      .ok (run ⟨⟨"-v"⟩, ⟨"a=b"⟩, ⟨["--help", ""], [], []⟩,
        ⟨0, 5, ["--suite", "--"], true, none, 3⟩⟩) := by
  have hwritten : Choice.AreWrittenAs
      [⟨.leading, "--suite"⟩, ⟨.subscriber, "a=b"⟩, ⟨.suite, "--help"⟩, ⟨.verbose, ""⟩,
        ⟨.verbose, ""⟩, ⟨.timeout, "0"⟩, ⟨.leading, "--"⟩, ⟨.pipes, ""⟩, ⟨.suite, ""⟩,
        ⟨.verbose, ""⟩, ⟨.stagger, "5"⟩, ⟨.publisher, "-v"⟩]
      ["--prefix", "--suite", "--subscriber=a=b", "--suite=--help", "-vv", "--timeout-sec=0",
        "--prefix", "--", "--pipe-output", "--suite=", "--verbose", "--stagger-ms=5",
        "--publisher=-v"] :=
    .apart _ rfl <| .joined _ rfl <| .joined _ rfl <|
      @Choice.AreWrittenAs.lettered [.verbose, .verbose] ['v', 'v'] _ _ (by decide) (by decide)
        (by decide) <|
      .joined _ rfl <| .apart _ rfl <| .named rfl <| .joined _ rfl <| .named rfl <|
      .joined _ rfl <| .joined _ rfl .nil
  apply ofWords_of_isWrittenAs
  · refine ⟨⟨?_, ?_, ?_, ?_, ?_, ?_, ?_⟩, fun matrix h => by cases h⟩ <;> decide
  · refine ⟨_, _, rfl, hwritten, ?_⟩
    intro switch
    cases switch <;> decide

end Request

end PubSubTrials
