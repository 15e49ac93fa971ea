import PubSubTrials.Proofs.Literals

/-!
# Lists and records that are read

Lists and objects are parts between brackets, with commas between the parts and blanks wherever one
likes (`Encloses`). If the items of a list are read, so is the list (`reads_list_of_encloses`); if
the fields of a record are read one after the other, so is the record (`Record.reads_of_encloses`).
In both the first part stands alone and a comma stands before every other one (`Ends`), so one step
of the reader's loop is the same for all parts. What is printed over several lines is one of these
texts (`encloses_printBetween`).
-/

namespace PubSubTrials.Json

open Reader

/-! ## Parts between brackets -/

/-- What stands behind a part: the other parts, each behind a comma, and the closing bracket, with
blanks around them. -/
inductive Ends (closing : Char) : List (List Char) → List Char → Prop where
  | close {blanks : List Char} (h : AllBlank blanks) : Ends closing [] (blanks ++ [closing])
  | comma {before after part text : List Char} {parts : List (List Char)}
      (hbefore : AllBlank before) (hafter : AllBlank after) (h : Ends closing parts text) :
      Ends closing (part :: parts) (before ++ ',' :: (after ++ (part ++ text)))

/-- Parts between brackets, with commas between them and blanks around them. -/
inductive Encloses (opening closing : Char) : List (List Char) → List Char → Prop where
  | nothing {blanks : List Char} (h : AllBlank blanks) :
      Encloses opening closing [] (opening :: (blanks ++ [closing]))
  | parts {blanks part text : List Char} {parts : List (List Char)} (hblanks : AllBlank blanks)
      (h : Ends closing parts text) :
      Encloses opening closing (part :: parts) (opening :: (blanks ++ (part ++ text)))

/-- Every part takes at least its comma, so the loops of a reader, which are bounded by the length
of the text, are long enough for all parts. -/
theorem length_lt_of_ends {closing : Char} {parts : List (List Char)} {text : List Char}
    (h : Ends closing parts text) : parts.length < text.length := by
  induction h with
  | close _ =>
    rw [List.length_append, List.length_singleton, List.length_nil]
    omega
  | comma _ _ _ ih =>
    simp only [List.length_append, List.length_cons]
    omega

/-! ## Parts on lines of their own -/

/-- The parts after the first one. -/
def following (depth : Nat) (parts : List (List Char)) : List Char :=
  parts.flatMap (fun part => ',' :: (newline depth ++ part))

theorem printParts_cons (depth : Nat) (part : List Char) (rest : List (List Char)) :
    printParts depth (part :: rest) = newline depth ++ (part ++ following depth rest) := by
  induction rest generalizing part with
  | nil => rw [printParts, following, List.flatMap_nil, List.append_nil]
  | cons other rest ih =>
    rw [printParts, ih, following, following, List.flatMap_cons, List.append_assoc,
      List.cons_append, List.append_assoc]
    exact fun h => by cases h

theorem printBetween_cons (depth : Nat) (opening closing : Char) (part : List Char)
    (rest : List (List Char)) :
    printBetween depth opening closing (part :: rest) =
      opening :: (newline (depth + 1) ++ (part ++ (following (depth + 1) rest ++
        (newline depth ++ [closing])))) := by
  rw [printBetween, printParts_cons]
  · simp only [List.cons_append, List.append_assoc]
  · exact fun h => by cases h

theorem allBlank_newline (depth : Nat) : AllBlank (newline depth) := by
  intro c hc
  rcases List.mem_cons.mp hc with rfl | hc
  · decide
  · rw [List.eq_of_mem_replicate hc]
    decide

/-- The parts that follow end with the closing character, with blanks in between. -/
theorem ends_following (inner depth : Nat) (closing : Char) (parts : List (List Char)) :
    Ends closing parts (following inner parts ++ (newline depth ++ [closing])) := by
  induction parts with
  | nil => exact .close (allBlank_newline depth)
  | cons part parts ih =>
    have hends : Ends closing (part :: parts) ([] ++ ',' :: (newline inner ++ (part ++ _))) :=
      .comma allBlank_nil (allBlank_newline inner) ih
    rw [following, List.flatMap_cons, ← following]
    simp only [List.nil_append, List.cons_append, List.append_assoc] at hends ⊢
    exact hends

/-- Parts on lines of their own are one way to lay them out. -/
theorem encloses_printBetween (depth : Nat) (opening closing : Char) (parts : List (List Char)) :
    Encloses opening closing parts (printBetween depth opening closing parts) := by
  cases parts with
  | nil => exact .nothing allBlank_nil
  | cons part parts =>
    rw [printBetween_cons]
    exact .parts (allBlank_newline _) (ends_following (depth + 1) depth closing parts)

namespace Reader

variable {α : Type}

/-! ## What stands behind a value -/

theorem delimits_append {blanks : List Char} (hblanks : AllBlank blanks) {text : List Char}
    (h : Delimits text) : Delimits (blanks ++ text) := by
  cases blanks with
  | nil => exact h
  | cons d blanks =>
    intro c hc
    obtain rfl : d = c := Option.some.inj hc
    have hblank := hblanks d List.mem_cons_self
    simp only [isBlank, Bool.or_eq_true, decide_eq_true_eq] at hblank
    rcases hblank with ((rfl | rfl) | rfl) | rfl
    all_goals decide

theorem delimits_comma (text : List Char) : Delimits (',' :: text) := by
  intro c hc
  obtain rfl : ',' = c := Option.some.inj hc
  decide

/-- Other parts and a bracket may stand behind a value. -/
theorem delimits_of_ends {closing : Char} (hclosing : ∀ rest, Delimits (closing :: rest))
    {parts : List (List Char)} {text : List Char} (h : Ends closing parts text)
    (rest : List Char) : Delimits (text ++ rest) := by
  cases h with
  | close hblanks =>
    rw [List.append_assoc]
    exact delimits_append hblanks (hclosing rest)
  | comma hbefore _ _ =>
    rw [List.append_assoc]
    exact delimits_append hbefore (delimits_comma _)

theorem delimits_bracket (rest : List Char) : Delimits (']' :: rest) := by
  intro c hc
  obtain rfl : ']' = c := Option.some.inj hc
  decide

theorem delimits_brace (rest : List Char) : Delimits ('\x7d' :: rest) := by
  intro c hc
  obtain rfl : '\x7d' = c := Option.some.inj hc
  decide

/-! ## Lists -/

theorem result_partsBound (length : Nat) (text : List Char) :
    partsBound.result length text = .ok (length + 1, text) := rfl

/-- At the beginning of a list that is not empty there is an item. -/
theorem result_moreItems_first {blanks : List Char} (hblanks : AllBlank blanks) {c : Char}
    (hc : isBlank c = false) (hne : c ≠ ']') (length : Nat) (text : List Char) :
    (moreItems true).result length (blanks ++ c :: text) = .ok (true, c :: text) := by
  rw [moreItems, result_bind_of_ok (result_peek hblanks hc _ _)]
  split
  · next heq => cases heq
  · next heq => exact absurd (Option.some.inj heq) hne
  · rfl

theorem result_moreItems_next {before after : List Char} (hbefore : AllBlank before)
    (hafter : AllBlank after) {c : Char} (hc : isBlank c = false) (hne : c ≠ ']') (length : Nat)
    (text : List Char) :
    (moreItems false).result length (before ++ ',' :: (after ++ c :: text)) =
      .ok (true, c :: text) := by
  rw [moreItems, result_bind_of_ok (result_peek hbefore (by decide) _ _)]
  show (skip >>= fun _ => peek >>= _).result length _ = _
  rw [result_bind_of_ok (result_skip _ _ _), result_bind_of_ok (result_peek hafter hc _ _)]
  split
  · next heq => cases heq
  · next heq => exact absurd (Option.some.inj heq) hne
  · rfl

theorem result_moreItems_end (first : Bool) {blanks : List Char} (hblanks : AllBlank blanks)
    (length : Nat) (text : List Char) :
    (moreItems first).result length (blanks ++ ']' :: text) = .ok (false, ']' :: text) := by
  rw [moreItems, result_bind_of_ok (result_peek hblanks (by decide) _ _)]
  rfl

/-- One more item is read, wherever in the list it stands. -/
theorem result_itemsFrom_step {item : Reader α} {written : List Char} {x : α}
    (h : Reads item written x) {first : Bool} {length fuel : Nat} {text rest : List Char}
    (hmore : (moreItems first).result length text = .ok (true, written ++ rest))
    (hrest : Delimits rest) (hlength : (written ++ rest).length ≤ length) {others : List α}
    {left : List Char}
    (hothers : (itemsFrom item false fuel).result length rest = .ok (others, left)) :
    (itemsFrom item first (fuel + 1)).result length text = .ok (x :: others, left) := by
  have hitem := h.result_eq allBlank_nil hrest hlength
  rw [List.nil_append] at hitem
  rw [itemsFrom, result_bind_of_ok hmore]
  show (item >>= fun x => itemsFrom item false fuel >>= _).result length _ = _
  rw [result_bind_of_ok hitem, result_bind_of_ok hothers]
  rfl

/-- A list without items ends at once. -/
theorem result_itemsFrom_end (item : Reader α) (first : Bool) {blanks : List Char}
    (hblanks : AllBlank blanks) (length fuel : Nat) (rest : List Char) :
    (itemsFrom item first (fuel + 1)).result length (blanks ++ [']'] ++ rest) =
      .ok ([], ']' :: rest) := by
  rw [List.append_assoc, List.singleton_append, itemsFrom,
    result_bind_of_ok (result_moreItems_end first hblanks _ _)]
  rfl

/-- All items after the first one are read, up to the bracket. -/
theorem result_itemsFrom {item : Reader α} {items : List α} {parts : List (List Char)}
    (h : List.Forall₂ (Reads item) parts items) {text : List Char} (hends : Ends ']' parts text)
    {length fuel : Nat} {rest : List Char} (hfuel : parts.length < fuel)
    (hlength : (text ++ rest).length ≤ length) :
    (itemsFrom item false fuel).result length (text ++ rest) = .ok (items, ']' :: rest) := by
  obtain ⟨fuel, rfl⟩ := Nat.exists_eq_add_one.mpr (Nat.zero_lt_of_lt hfuel)
  induction hends generalizing items fuel with
  | close hblanks =>
    obtain rfl := List.forall₂_nil_left_iff.mp h
    exact result_itemsFrom_end item false hblanks length fuel rest
  | @comma before after part text parts hbefore hafter hends ih =>
    obtain ⟨x, items, hx, hitems, rfl⟩ := List.forall₂_cons_left_iff.mp h
    rw [List.length_cons] at hfuel
    obtain ⟨fuel, rfl⟩ : ∃ fewer, fuel = fewer + 1 := ⟨fuel - 1, by omega⟩
    -- behind the comma the item is seen to be there by its first character
    obtain ⟨c, tail, rfl, hc, hne⟩ := hx.opens
    simp only [List.append_assoc, List.cons_append, List.length_append,
      List.length_cons] at hlength ⊢
    refine result_itemsFrom_step hx ?_ (delimits_of_ends delimits_bracket hends rest) ?_
      (ih hitems ?_ fuel (by omega))
    · exact result_moreItems_next hbefore hafter hc hne _ _
    · simp only [List.length_append, List.length_cons]
      omega
    · rw [List.length_append]
      omega

theorem result_endList (length : Nat) (rest : List Char) :
    endList.result length (']' :: rest) = .ok ((), rest) := rfl

/-- A list is read if its items are. -/
theorem reads_list_of_encloses {item : Reader α} {items : List α} {parts : List (List Char)}
    {text : List Char} (h : List.Forall₂ (Reads item) parts items)
    (htext : Encloses '[' ']' parts text) : Reads (list item) text items := by
  have hlist : ∀ {tail : List Char}, (∀ {rest : List Char} {length : Nat},
      (tail ++ rest).length < length → (itemsFrom item true (length + 1)).result length
        (tail ++ rest) = .ok (items, ']' :: rest)) → Reads (list item) ('[' :: tail) items := by
    intro tail hitems
    refine Reads.of_peek (by decide) (by decide) fun {rest length} _ hlength => ?_
    show (skip >>= fun _ => partsBound >>= fun fuel => itemsFrom item true fuel >>= fun items =>
      endList >>= fun _ => pure items).result length _ = _
    rw [result_bind_of_ok (result_skip _ _ _), result_bind_of_ok (result_partsBound _ _),
      result_bind_of_ok (hitems hlength), result_bind_of_ok (result_endList _ _)]
    rfl
  cases htext with
  | nothing hblanks =>
    obtain rfl := List.forall₂_nil_left_iff.mp h
    exact hlist fun {rest length} _ => result_itemsFrom_end item true hblanks length length rest
  | @parts blanks part text parts hblanks hends =>
    obtain ⟨x, items, hx, hitems, rfl⟩ := List.forall₂_cons_left_iff.mp h
    refine hlist fun {rest length} hlength => ?_
    have hcount := length_lt_of_ends hends
    simp only [List.append_assoc, List.length_append] at hlength ⊢
    obtain ⟨c, tail, rfl, hc, hne⟩ := hx.opens
    refine result_itemsFrom_step hx ?_ (delimits_of_ends delimits_bracket hends rest) ?_
      (result_itemsFrom hitems hends (by omega) ?_)
    · exact result_moreItems_first hblanks hc hne _ _
    · simp only [List.length_append]
      omega
    · rw [List.length_append]
      omega

/-- A printed list is read back if its items are. -/
theorem reads_list {item : Reader α} {print : α → List Char} {items : List α}
    (h : ∀ x ∈ items, Reads item (print x) x) (depth : Nat) :
    Reads (list item) (printList depth (items.map print)) items := by
  refine reads_list_of_encloses ?_ (encloses_printBetween depth '[' ']' _)
  rw [List.forall₂_map_left_iff, List.forall₂_same]
  exact h

/-! ## Fields -/

theorem result_moreFields_first {blanks : List Char} (hblanks : AllBlank blanks) (length : Nat)
    (text : List Char) :
    (moreFields true).result length (blanks ++ '"' :: text) = .ok (true, '"' :: text) := by
  rw [moreFields, result_bind_of_ok (result_peek hblanks (by decide) _ _)]
  rfl

theorem result_moreFields_next {before after : List Char} (hbefore : AllBlank before)
    (hafter : AllBlank after) (length : Nat) (text : List Char) :
    (moreFields false).result length (before ++ ',' :: (after ++ '"' :: text)) =
      .ok (true, '"' :: text) := by
  rw [moreFields, result_bind_of_ok (result_peek hbefore (by decide) _ _)]
  show (skip >>= fun _ => peek >>= _).result length _ = _
  rw [result_bind_of_ok (result_skip _ _ _), result_bind_of_ok (result_peek hafter (by decide) _ _)]
  rfl

theorem result_moreFields_end (first : Bool) {blanks : List Char} (hblanks : AllBlank blanks)
    (length : Nat) (text : List Char) :
    (moreFields first).result length (blanks ++ '\x7d' :: text) = .ok (false, '\x7d' :: text) := by
  rw [moreFields, result_bind_of_ok (result_peek hblanks (by decide) _ _)]
  rfl

theorem result_colon {blanks : List Char} (hblanks : AllBlank blanks) (length : Nat)
    (text : List Char) : colon.result length (blanks ++ ':' :: text) = .ok ((), text) := by
  rw [colon, result_bind_of_ok (result_peek hblanks (by decide) _ _)]
  rfl

theorem result_endObject (length : Nat) (rest : List Char) :
    endObject.result length ('\x7d' :: rest) = .ok ((), rest) := rfl

end Reader

/-! ## Records -/

/-- A field of an object: a string for its name, a colon, and a value, with blanks around the
colon. -/
def FieldForm (field : String × List Char) (written : List Char) : Prop :=
  ∃ key before after, StringForm field.1 key ∧ AllBlank before ∧ AllBlank after ∧
    written = key ++ (before ++ ':' :: (after ++ field.2))

/-- A field as it is printed. -/
def printField (field : String × List Char) : List Char :=
  printString field.1 ++ ':' :: ' ' :: field.2

/-- A field is printed in one of the forms in which it may be written. -/
theorem fieldForm_printField (field : String × List Char) :
    FieldForm field (printField field) := by
  have hblank : AllBlank [' '] := by
    intro c hc
    rw [List.mem_singleton.mp hc]
    decide
  exact ⟨printString field.1, [], [' '], stringForm_printString _, allBlank_nil, hblank, rfl⟩

/-- A field starts with a quote. -/
theorem quote_of_fieldForm {field : String × List Char} {written : List Char}
    (h : FieldForm field written) : ∃ tail, written = '"' :: tail := by
  obtain ⟨key, before, after, hkey, -, -, rfl⟩ := h
  obtain ⟨tail, rfl⟩ := cons_of_stringForm hkey
  exact ⟨_, rfl⟩

namespace Record

variable {σ : Type}

/-- Reading fields one after the other takes what is read before to what is read then. -/
inductive Fills (record : Record σ) : σ → List (String × List Char) → σ → Prop where
  | done (state : σ) : record.Fills state [] state
  | step {state next last : σ} {name : String} {value : List Char}
      {others : List (String × List Char)} (field : Field σ)
      (find_eq : record.fields.find? (fun field => field.name = name) = some field)
      (isRead_eq : field.isRead state = false)
      (reads : Reads (field.read state) value next)
      (others_fill : record.Fills next others last) :
      record.Fills state ((name, value) :: others) last

/-- One more field is read, wherever in the record it stands. -/
theorem result_fieldsFrom_step {record : Record σ} {field : Field σ} {name : String}
    {value written : List Char} {state next : σ}
    (hfind : record.fields.find? (fun field => field.name = name) = some field)
    (hunread : field.isRead state = false) (hreads : Reads (field.read state) value next)
    (hform : FieldForm (name, value) written) {first : Bool} {length fuel : Nat}
    {text rest : List Char}
    (hmore : (moreFields first).result length text = .ok (true, written ++ rest))
    (hrest : Delimits rest) (hlength : (written ++ rest).length ≤ length) :
    (record.fieldsFrom first state (fuel + 1)).result length text =
      (record.fieldsFrom false next fuel).result length rest := by
  obtain ⟨key, before, after, hkey, hbefore, hafter, rfl⟩ := hform
  obtain ⟨tail, rfl⟩ := cons_of_stringForm hkey
  have hname := result_stringBody hkey length (before ++ ':' :: (after ++ (value ++ rest)))
  rw [List.tail_cons] at hname
  simp only [List.append_assoc, List.cons_append, List.length_cons,
    List.length_append] at hmore hlength
  rw [fieldsFrom, result_bind_of_ok hmore]
  show (skip >>= fun _ => stringBody >>= _).result length _ = _
  rw [result_bind_of_ok (result_skip _ _ _), result_bind_of_ok hname, hfind]
  show (if field.isRead state then _ else _ : Reader σ).result length _ = _
  rw [hunread, if_neg Bool.false_ne_true, result_bind_of_ok (result_colon hbefore _ _),
    result_bind_of_ok (hreads.result_eq hafter hrest ?_)]
  rw [List.length_append]
  omega

/-- An object without fields ends at once. -/
theorem result_fieldsFrom_end (record : Record σ) (first : Bool) (state : σ) {blanks : List Char}
    (hblanks : AllBlank blanks) (length fuel : Nat) (rest : List Char) :
    (record.fieldsFrom first state (fuel + 1)).result length (blanks ++ ['\x7d'] ++ rest) =
      .ok (state, '\x7d' :: rest) := by
  rw [List.append_assoc, List.singleton_append, fieldsFrom,
    result_bind_of_ok (result_moreFields_end first hblanks _ _)]
  rfl

/-- All fields after the first one are read, up to the bracket. -/
theorem result_fieldsFrom {record : Record σ} {state last : σ}
    {fields : List (String × List Char)} (h : record.Fills state fields last)
    {parts : List (List Char)} (hparts : List.Forall₂ FieldForm fields parts) {text : List Char}
    (hends : Ends '\x7d' parts text) {length fuel : Nat} {rest : List Char}
    (hfuel : parts.length < fuel) (hlength : (text ++ rest).length ≤ length) :
    (record.fieldsFrom false state fuel).result length (text ++ rest) =
      .ok (last, '\x7d' :: rest) := by
  obtain ⟨fuel, rfl⟩ := Nat.exists_eq_add_one.mpr (Nat.zero_lt_of_lt hfuel)
  -- induction on the fields; the fuel exceeds the number of those still to come
  induction hends generalizing fields state fuel with
  | close hblanks =>
    obtain rfl := List.forall₂_nil_right_iff.mp hparts
    cases h
    exact result_fieldsFrom_end record false last hblanks length fuel rest
  | @comma before after part text parts hbefore hafter hends ih =>
    obtain ⟨field, fields, hform, hforms, rfl⟩ := List.forall₂_cons_right_iff.mp hparts
    rw [List.length_cons] at hfuel
    obtain ⟨fuel, rfl⟩ : ∃ fewer, fuel = fewer + 1 := ⟨fuel - 1, by omega⟩
    obtain ⟨tail, rfl⟩ := quote_of_fieldForm hform
    have hmore : (moreFields false).result length (before ++ ',' :: (after ++ ('"' :: tail ++
        (text ++ rest)))) = .ok (true, '"' :: tail ++ (text ++ rest)) :=
      result_moreFields_next hbefore hafter length _
    simp only [List.append_assoc, List.cons_append, List.length_append,
      List.length_cons] at hlength hmore ⊢
    cases h with
    | step field hfind hunread hreads hothers =>
      rw [result_fieldsFrom_step hfind hunread hreads hform hmore
        (delimits_of_ends delimits_brace hends rest)]
      · refine ih hothers hforms ?_ fuel (by omega)
        rw [List.length_append]
        omega
      · simp only [List.length_append, List.length_cons]
        omega

/-- A record is read if its fields are, and no field that it needs is missing. -/
theorem reads_of_encloses {record : Record σ} {empty last : σ}
    {fields : List (String × List Char)} (h : record.Fills empty fields last)
    (hcomplete : record.missing? last = none) {parts : List (List Char)}
    (hparts : List.Forall₂ FieldForm fields parts) {text : List Char}
    (htext : Encloses '\x7b' '\x7d' parts text) : Reads (record.read empty) text last := by
  have hrecord : ∀ {tail : List Char}, (∀ {rest : List Char} {length : Nat},
      (tail ++ rest).length < length → (record.fieldsFrom true empty (length + 1)).result length
        (tail ++ rest) = .ok (last, '\x7d' :: rest)) →
        Reads (record.read empty) ('\x7b' :: tail) last := by
    intro tail hfields
    refine Reads.of_peek (by decide) (by decide) fun {rest length} _ hlength => ?_
    show (skip >>= fun _ => partsBound >>= fun fuel => record.fieldsFrom true empty fuel >>=
      _).result length _ = _
    rw [result_bind_of_ok (result_skip _ _ _), result_bind_of_ok (result_partsBound _ _),
      result_bind_of_ok (hfields hlength), hcomplete]
    show (endObject >>= fun _ => pure last).result length _ = _
    rw [result_bind_of_ok (result_endObject _ _)]
    rfl
  cases htext with
  | nothing hblanks =>
    obtain rfl := List.forall₂_nil_right_iff.mp hparts
    cases h
    exact hrecord fun {rest length} _ =>
      result_fieldsFrom_end record true empty hblanks length length rest
  | @parts blanks part text parts hblanks hends =>
    obtain ⟨field, fields, hform, hforms, rfl⟩ := List.forall₂_cons_right_iff.mp hparts
    refine hrecord fun {rest length} hlength => ?_
    have hcount := length_lt_of_ends hends
    obtain ⟨tail, rfl⟩ := quote_of_fieldForm hform
    -- no comma stands in front of the first field, and one in front of every other
    have hmore : (moreFields true).result length (blanks ++ ('"' :: tail ++ (text ++ rest))) =
        .ok (true, '"' :: tail ++ (text ++ rest)) :=
      result_moreFields_first hblanks length _
    simp only [List.append_assoc, List.cons_append, List.length_append,
      List.length_cons] at hlength hmore ⊢
    cases h with
    | step field hfind hunread hreads hothers =>
      rw [result_fieldsFrom_step hfind hunread hreads hform hmore
        (delimits_of_ends delimits_brace hends rest)]
      · refine result_fieldsFrom hothers hforms hends (by omega) ?_
        rw [List.length_append]
        omega
      · simp only [List.length_append, List.length_cons]
        omega

/-- A printed record is read back if its fields are, and no field that it needs is missing. -/
theorem reads {record : Record σ} {empty last : σ} {fields : List (String × List Char)}
    (h : record.Fills empty fields last) (hcomplete : record.missing? last = none)
    (depth : Nat) : Reads (record.read empty) (printObject depth fields) last := by
  have hparts : List.Forall₂ FieldForm fields (fields.map printField) := by
    rw [List.forall₂_map_right_iff, List.forall₂_same]
    exact fun field _ => fieldForm_printField field
  exact reads_of_encloses h hcomplete hparts (encloses_printBetween depth '\x7b' '\x7d' _)

end Record

/-! ## Whole texts -/

/-- What a reader reads it decodes, if there are only blanks around it. -/
theorem decode_of_reads_between {α : Type} {reader : Reader α} {written : List Char} {value : α}
    (h : Reads reader written value) {before after : List Char} (hbefore : AllBlank before)
    (hafter : AllBlank after) : decode reader (before ++ (written ++ after)) = .ok value := by
  have hdelimits : Delimits after := by
    have hnothing : Delimits [] := fun c hc => by cases hc
    have hblank := delimits_append hafter hnothing
    rwa [List.append_nil] at hblank
  have hlength : (written ++ after).length ≤ (before ++ (written ++ after)).length := by
    rw [List.length_append, List.length_append, List.length_append]
    omega
  have hresult := h.result_eq hbefore hdelimits hlength
  have hall : after.all isBlank = true := List.all_eq_true.mpr hafter
  rw [decode]
  show (reader.result (before ++ (written ++ after)).length (before ++ (written ++ after)) >>=
    _) = _
  rw [hresult]
  show (if after.all isBlank then pure value else _) = _
  rw [hall, if_pos rfl]
  rfl

/-- A text that a reader reads to the end is decoded. -/
theorem decode_of_reads {α : Type} {reader : Reader α} {printed : List Char} {value : α}
    (h : Reads reader printed value) : decode reader printed = .ok value := by
  have hdecode := decode_of_reads_between h allBlank_nil allBlank_nil
  rwa [List.nil_append, List.append_nil] at hdecode

end PubSubTrials.Json
