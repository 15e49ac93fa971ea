import PubSubTrials.Proofs.Decoding

/-!
# What records accept

Lists and records are read off values of the grammar, if their parts are (`Reader.Yields.list`,
`Record.yields_read`). A record of which the fields are all known takes an object without an unknown
key, a repeated or a missing one, or a list of the fields in their order (`Accords`).

What stands behind a bracket and what stands behind a part differ in one comma only (`Rests`), so
that the loops of the readers are gone through once for the first part and all later ones.
-/

namespace PubSubTrials.Json

namespace Reader

variable {α : Type} {length : Nat} {text rest : List Char}

/-! ## Parts -/

/-- What stands before a part: blanks, and a comma among them if it is not the first part. -/
def Gap : Bool → List Char → Prop
  | true, gap => AllBlank gap
  | false, gap => ∃ before after, AllBlank before ∧ AllBlank after ∧ gap = before ++ ',' :: after

/-- What stands behind an opening bracket, or behind a part if there was a first one already. -/
def Rests (closing : Char) : Bool → List (List Char) → List Char → Prop
  | true, parts, text => ∀ opening, Encloses opening closing parts (opening :: text)
  | false, parts, text => Ends closing parts text

theorem rests_nil {closing : Char} (first : Bool) {blanks : List Char} (h : AllBlank blanks) :
    Rests closing first [] (blanks ++ [closing]) := by
  cases first with
  | true => exact fun _ => .nothing h
  | false => exact .close h

/-- A list or an object may go on with a part, after a comma unless this is the first one. -/
theorem rests_cons {closing : Char} {first : Bool} {gap part tail : List Char}
    {parts : List (List Char)} (hgap : Gap first gap) (h : Rests closing false parts tail) :
    Rests closing first (part :: parts) (gap ++ (part ++ tail)) := by
  cases first with
  | true => exact fun _ => .parts hgap h
  | false =>
    obtain ⟨before, after, hbefore, hafter, rfl⟩ := hgap
    rw [List.append_assoc]
    exact .comma hbefore hafter h

theorem Gap.append {first : Bool} {gap blanks : List Char} (h : Gap first gap)
    (hblanks : AllBlank blanks) : Gap first (gap ++ blanks) := by
  cases first with
  | true => exact List.forall_mem_append.mpr ⟨h, hblanks⟩
  | false =>
    obtain ⟨before, after, hbefore, hafter, rfl⟩ := h
    refine ⟨before, after ++ blanks, hbefore, List.forall_mem_append.mpr ⟨hafter, hblanks⟩, ?_⟩
    rw [List.append_assoc, List.cons_append]

/-- A list goes on behind a gap, and else there is no more than blanks. -/
theorem moreItems_eq_ok {first more : Bool}
    (h : (moreItems first).result length text = .ok (more, rest)) :
    ∃ gap, text = gap ++ rest ∧ (more = true → Gap first gap) ∧
      (more = false → AllBlank gap ∧ rest.head? = some ']') := by
  obtain ⟨blanks, next, mid, hblanks, rfl, hhead, hnext⟩ := peek_bind_eq_ok h
  split at hnext
  · cases hnext
  · obtain ⟨rfl, rfl⟩ := Prod.mk.inj (Except.ok.inj hnext)
    exact ⟨blanks, rfl, nofun, fun _ => ⟨hblanks, hhead.symm⟩⟩
  · split at hnext
    · next hfirst =>
      obtain ⟨rfl, rfl⟩ := Prod.mk.inj (Except.ok.inj hnext)
      rw [hfirst]
      exact ⟨blanks, rfl, fun _ => hblanks, nofun⟩
    · next hfirst =>
      rw [Bool.eq_false_of_not_eq_true hfirst]
      split at hnext
      · next hcomma =>
        obtain ⟨tail, rfl⟩ := cons_of_head?_eq hhead
        obtain ⟨after, _, mid, hafter, rfl, -, hlast⟩ :=
          peek_bind_eq_ok (result_skip_bind ▸ hnext)
        split at hlast
        · cases hlast
        · cases hlast
        · obtain ⟨rfl, rfl⟩ := Prod.mk.inj (Except.ok.inj hlast)
          refine ⟨blanks ++ ',' :: after, ?_, fun _ => ⟨blanks, after, hblanks, hafter, rfl⟩, nofun⟩
          rw [hcomma, List.append_assoc, List.cons_append]
      · cases hnext

/-- An object goes on with a quote behind a gap, and else there is no more than blanks. -/
theorem moreFields_eq_ok {first more : Bool}
    (h : (moreFields first).result length text = .ok (more, rest)) :
    ∃ gap, text = gap ++ rest ∧ (more = true → Gap first gap ∧ ∃ tail, rest = '"' :: tail) ∧
      (more = false → AllBlank gap) := by
  -- the next character decides, behind blanks
  obtain ⟨blanks, next, mid, hblanks, rfl, hhead, hnext⟩ := peek_bind_eq_ok h
  split at hnext
  · cases hnext
  · obtain ⟨rfl, rfl⟩ := Prod.mk.inj (Except.ok.inj hnext)
    exact ⟨blanks, rfl, nofun, fun _ => hblanks⟩
  · split at hnext
    · next hfirst =>
      split at hnext
      · next hquote =>
        obtain ⟨rfl, rfl⟩ := Prod.mk.inj (Except.ok.inj hnext)
        rw [hfirst]
        exact ⟨blanks, rfl, fun _ => ⟨hblanks, cons_of_head?_eq (hquote ▸ hhead)⟩, nofun⟩
      · cases hnext
    · next hfirst =>
      rw [Bool.eq_false_of_not_eq_true hfirst]
      split at hnext
      · next hcomma =>
        obtain ⟨tail, rfl⟩ := cons_of_head?_eq hhead
        obtain ⟨after, _, mid, hafter, rfl, hquote, hlast⟩ :=
          peek_bind_eq_ok (result_skip_bind ▸ hnext)
        split at hlast
        · cases hlast
        · obtain ⟨rfl, rfl⟩ := Prod.mk.inj (Except.ok.inj hlast)
          refine ⟨blanks ++ ',' :: after, ?_, fun _ => ⟨⟨blanks, after, hblanks, hafter, rfl⟩,
            cons_of_head?_eq hquote⟩, nofun⟩
          rw [hcomma, List.append_assoc, List.cons_append]
        · cases hlast
        · cases hlast
      · cases hnext

theorem endList_eq_ok {u : Unit} (h : endList.result length text = .ok (u, rest)) :
    ∃ blanks, AllBlank blanks ∧ text = blanks ++ ']' :: rest := by
  obtain ⟨blanks, next, mid, hblanks, rfl, hhead, hnext⟩ := peek_bind_eq_ok h
  split at hnext
  · cases hnext
  · obtain ⟨tail, rfl⟩ := cons_of_head?_eq hhead
    obtain ⟨-, rfl⟩ := Prod.mk.inj (Except.ok.inj hnext)
    exact ⟨blanks, hblanks, rfl⟩
  · obtain ⟨_, _, -, hbehind⟩ := result_bind_eq_ok hnext
    obtain ⟨_, _, -, hfault⟩ := result_bind_eq_ok hbehind
    split at hfault
    · cases hfault
    · cases hfault
  · cases hnext

theorem endObject_eq_ok {u : Unit} (h : endObject.result length text = .ok (u, rest)) :
    ∃ blanks, AllBlank blanks ∧ text = blanks ++ '\x7d' :: rest := by
  obtain ⟨blanks, next, mid, hblanks, rfl, hhead, hnext⟩ := peek_bind_eq_ok h
  split at hnext
  · cases hnext
  · obtain ⟨tail, rfl⟩ := cons_of_head?_eq hhead
    obtain ⟨-, rfl⟩ := Prod.mk.inj (Except.ok.inj hnext)
    exact ⟨blanks, hblanks, rfl⟩
  · cases hnext
  · cases hnext

/-! ## Lists -/

/-- The items that are read of a list are those that stand in front of its end. -/
theorem itemsFrom_eq_ok {item : Reader α} {form : α → Form} (h : Yields item form) {first : Bool}
    {fuel : Nat} {items : List α} {blanks : List Char} (hblanks : AllBlank blanks)
    (hitems : (itemsFrom item first fuel).result length text =
      .ok (items, blanks ++ ']' :: rest)) :
    ∃ parts body, (∀ part ∈ parts, IsValue part) ∧ List.Forall₂ form items parts ∧
      Rests ']' first parts body ∧ text = body ++ rest := by
  -- induction on the fuel, of which every item takes one
  induction fuel generalizing first text items with
  | zero =>
    obtain ⟨rfl, rfl⟩ := Prod.mk.inj (Except.ok.inj hitems)
    refine ⟨[], blanks ++ [']'], List.forall_mem_nil _, .nil, rests_nil first hblanks, ?_⟩
    rw [List.append_assoc, List.singleton_append]
  | succ fuel ih =>
    obtain ⟨more, mid, hmore, hnext⟩ := result_bind_eq_ok hitems
    obtain ⟨gap, rfl, hgap, hend⟩ := moreItems_eq_ok hmore
    cases more with
    | false =>
      obtain ⟨rfl, rfl⟩ := Prod.mk.inj (Except.ok.inj hnext)
      refine ⟨[], (gap ++ blanks) ++ [']'], List.forall_mem_nil _, .nil,
        rests_nil first (List.forall_mem_append.mpr ⟨(hend rfl).1, hblanks⟩), ?_⟩
      simp only [List.append_assoc, List.singleton_append]
    | true =>
      obtain ⟨x, behind, hitem, hlater⟩ := result_bind_eq_ok hnext
      obtain ⟨others, left, hothers, hpure⟩ := result_bind_eq_ok hlater
      obtain ⟨rfl, rfl⟩ := Prod.mk.inj (Except.ok.inj hpure)
      obtain ⟨blanks', written, hblanks', hwritten, hform, rfl⟩ := h _ _ _ _ hitem
      obtain ⟨parts, body, hvalues, hforms, hrests, rfl⟩ := ih hothers
      refine ⟨written :: parts, (gap ++ blanks') ++ (written ++ body),
        List.forall_mem_cons.mpr ⟨hwritten, hvalues⟩, .cons hform hforms,
        rests_cons ((hgap rfl).append hblanks') hrests, ?_⟩
      simp only [List.append_assoc]

/-- A list whose items stand for values. -/
def ItemsForm (form : α → Form) (items : List α) : Form := fun written =>
  ∃ parts, HasItems written parts ∧ List.Forall₂ form items parts

/-- What is read as a list is a way of writing its items, one after the other. -/
theorem Yields.list {item : Reader α} {form : α → Form} (h : Yields item form) :
    Yields (list item) (ItemsForm form) := by
  intro length text items rest hresult
  obtain ⟨blanks, next, mid, hblanks, rfl, hhead, hnext⟩ := peek_bind_eq_ok hresult
  split at hnext
  · cases hnext
  · obtain ⟨tail, rfl⟩ := cons_of_head?_eq hhead
    obtain ⟨fuel, _, hbound, hitems⟩ := result_bind_eq_ok (result_skip_bind ▸ hnext)
    obtain ⟨rfl, rfl⟩ := Prod.mk.inj (Except.ok.inj hbound)
    obtain ⟨read, _, hread, hend⟩ := result_bind_eq_ok hitems
    obtain ⟨_, _, hclose, hpure⟩ := result_bind_eq_ok hend
    obtain ⟨rfl, rfl⟩ := Prod.mk.inj (Except.ok.inj hpure)
    obtain ⟨behind, hbehind, rfl⟩ := endList_eq_ok hclose
    obtain ⟨parts, body, hvalues, hforms, hrests, rfl⟩ := itemsFrom_eq_ok h hbehind hread
    exact ⟨blanks, '[' :: body, hblanks, .list hvalues (hrests '['),
      ⟨parts, ⟨hvalues, hrests '['⟩, hforms⟩, rfl⟩
  · exact absurd hnext not_refuse_eq_ok

end Reader

/-! ## Records -/

open Reader

/-- A key spells a name, and the value behind it is this one. -/
def Names (entry : String × List Char) (member : List Char × List Char) : Prop :=
  StringForm entry.1 member.1 ∧ entry.2 = member.2

/-- A value of these fields by their names, without a field that is not declared or repeated, and
with all that are required: an object, or a list with the fields in their order. -/
structure Accords (names required : List String) (written : List Char)
    (entries : List (String × List Char)) : Prop where
  shape : (∃ members, HasMembers written members ∧ List.Forall₂ Names entries members) ∨
    ∃ items, HasItems written items ∧ items.length ≤ names.length ∧ entries = names.zip items
  nodup : (entries.map Prod.fst).Nodup
  declared : ∀ name ∈ entries.map Prod.fst, name ∈ names
  complete : ∀ name ∈ required, name ∈ entries.map Prod.fst

namespace Record

variable {σ : Type} {record : Record σ} {filled : List (String × List Char) → σ → Prop}
  {length : Nat} {text rest : List Char}

/-- The names of the fields that have to be there. -/
def needed (record : Record σ) : List String :=
  (record.fields.filter Field.required).map Field.name

theorem mem_needed {name : String} (h : name ∈ record.needed) :
    ∃ field ∈ record.fields, field.required = true ∧ field.name = name := by
  obtain ⟨field, hfield, rfl⟩ := List.mem_map.mp h
  obtain ⟨hmem, hrequired⟩ := List.mem_filter.mp hfield
  exact ⟨field, hmem, hrequired, rfl⟩

/-- What the state of a record says of the values that were read, the last one first, is kept up by
every field. -/
structure Keeps (record : Record σ) (filled : List (String × List Char) → σ → Prop) : Prop where
  isRead_iff : ∀ field ∈ record.fields, ∀ entries state, filled entries state →
    (field.isRead state = true ↔ field.name ∈ entries.map Prod.fst)
  yields : ∀ field ∈ record.fields, ∀ entries state, filled entries state →
    Yields (field.read state) fun next written => filled ((field.name, written) :: entries) next

/-- What is known in the middle of a record: the values that were entered, each under the name of a
field and no two under one name. -/
structure Holds (record : Record σ) (filled : List (String × List Char) → σ → Prop)
    (entries : List (String × List Char)) (state : σ) : Prop where
  filled : filled entries state
  nodup : (entries.map Prod.fst).Nodup
  declared : ∀ name ∈ entries.map Prod.fst, name ∈ record.names

/-! ### Objects -/

/-- The rest of an object, with the values of its members under the names that their keys spell. -/
def EntriesForm (first : Bool) (entries : List (String × List Char)) (body : List Char) : Prop :=
  ∃ members parts, List.Forall₂ Names entries members ∧ (∀ member ∈ members, IsValue member.2) ∧
    List.Forall₂ MemberForm members parts ∧ Rests '\x7d' first parts body

theorem entriesForm_nil (first : Bool) {blanks : List Char} (h : AllBlank blanks) :
    EntriesForm first [] (blanks ++ ['\x7d']) :=
  ⟨[], [], .nil, List.forall_mem_nil _, .nil, rests_nil first h⟩

/-- The members of an object follow each other, each with its own name. -/
theorem entriesForm_cons {first : Bool} {entry : String × List Char}
    {member : List Char × List Char} {entries : List (String × List Char)}
    {gap part body : List Char} (hgap : Gap first gap) (hnames : Names entry member)
    (hvalue : IsValue member.2) (hpart : MemberForm member part)
    (h : EntriesForm false entries body) :
    EntriesForm first (entry :: entries) (gap ++ (part ++ body)) := by
  obtain ⟨members, parts, hentries, hvalues, hparts, hrests⟩ := h
  exact ⟨member :: members, part :: parts, .cons hnames hentries,
    List.forall_mem_cons.mpr ⟨hvalue, hvalues⟩, .cons hpart hparts, rests_cons hgap hrests⟩

/-- Either there is no more field, or one more is read: its key is the name of a field that was not
read before. -/
theorem fieldsFrom_succ_eq_ok (hclosed : record.closed = true) (hkeeps : record.Keeps filled)
    {first : Bool} {fuel : Nat} {entries : List (String × List Char)} {state last : σ}
    (hholds : record.Holds filled entries state)
    (h : (record.fieldsFrom first state (fuel + 1)).result length text = .ok (last, rest)) :
    (last = state ∧ ∃ gap, AllBlank gap ∧ text = gap ++ rest) ∨
      ∃ entry member part gap next behind, Names entry member ∧ IsValue member.2 ∧
        MemberForm member part ∧ Gap first gap ∧ text = gap ++ (part ++ behind) ∧
        record.Holds filled (entry :: entries) next ∧
        (record.fieldsFrom false next fuel).result length behind = .ok (last, rest) := by
  obtain ⟨more, mid, hmore, hnext⟩ := result_bind_eq_ok h
  obtain ⟨gap, rfl, hgap, hend⟩ := moreFields_eq_ok hmore
  cases more with
  | false =>
    obtain ⟨rfl, rfl⟩ := Prod.mk.inj (Except.ok.inj hnext)
    exact .inl ⟨rfl, gap, hend rfl, rfl⟩
  | true =>
    obtain ⟨hbefore, tail, rfl⟩ := hgap rfl
    obtain ⟨name, _, hname, hfield⟩ := result_bind_eq_ok (result_skip_bind ▸ hnext)
    obtain ⟨key, hkey, rfl⟩ := stringBody_eq_ok hname
    split at hfield
    · next field hfind =>
      have hmem := List.mem_of_find?_eq_some hfind
      obtain rfl : field.name = name := by simpa using List.find?_some hfind
      split at hfield
      · cases hfield
      · next hunread =>
        obtain ⟨_, _, hcolon, hread⟩ := result_bind_eq_ok hfield
        obtain ⟨next, behind, hresult, hlater⟩ := result_bind_eq_ok hread
        obtain ⟨after, value, hafter, hvalue, hfilled, rfl⟩ :=
          hkeeps.yields field hmem entries state hholds.filled _ _ _ _ hresult
        obtain ⟨before, hbefore', rfl⟩ := colon_eq_ok hcolon
        -- a key that has been read is refused a second time
        have hfresh : field.name ∉ entries.map Prod.fst := fun hin =>
          hunread ((hkeeps.isRead_iff field hmem entries state hholds.filled).mpr hin)
        refine .inr ⟨(field.name, value), ('"' :: key, value), _, gap, next, behind, ⟨hkey, rfl⟩,
          hvalue, ⟨before, after, isString_of_stringForm hkey, hbefore', hafter, rfl⟩, hbefore, ?_,
          ⟨hfilled, List.nodup_cons.mpr ⟨hfresh, hholds.nodup⟩, ?_⟩, hlater⟩
        · simp only [List.append_assoc, List.cons_append]
        · exact List.forall_mem_cons.mpr ⟨List.mem_map_of_mem hmem, hholds.declared⟩
    · -- a key that is the name of no field is refused
      rw [hclosed] at hfield
      cases hfield

/-- The fields that are read of an object are those that stand in front of its end. -/
theorem fieldsFrom_eq_ok (hclosed : record.closed = true) (hkeeps : record.Keeps filled)
    {first : Bool} {fuel : Nat} {entries : List (String × List Char)} {state last : σ}
    {blanks : List Char} (hblanks : AllBlank blanks) (hholds : record.Holds filled entries state)
    (h : (record.fieldsFrom first state fuel).result length text =
      .ok (last, blanks ++ '\x7d' :: rest)) :
    ∃ later body, EntriesForm first later body ∧ text = body ++ rest ∧
      record.Holds filled (later.reverse ++ entries) last := by
  induction fuel generalizing first text entries state with
  | zero =>
    -- the reader has gone as far as it may, and stands at the end all the same
    obtain ⟨rfl, rfl⟩ := Prod.mk.inj (Except.ok.inj h)
    refine ⟨[], _, entriesForm_nil first hblanks, ?_, hholds⟩
    rw [List.append_assoc, List.singleton_append]
  | succ fuel ih =>
    rcases fieldsFrom_succ_eq_ok hclosed hkeeps hholds h with ⟨rfl, gap, hgap, rfl⟩ |
      ⟨entry, member, part, gap, next, behind, hnames, hvalue, hpart, hgap, rfl, hnext, hlater⟩
    · refine ⟨[], _, entriesForm_nil first (List.forall_mem_append.mpr ⟨hgap, hblanks⟩), ?_,
        hholds⟩
      simp only [List.append_assoc, List.singleton_append]
    · obtain ⟨later, body, hlaterForm, rfl, hlast⟩ := ih hnext hlater
      refine ⟨entry :: later, _, entriesForm_cons hgap hnames hvalue hpart hlaterForm, ?_, ?_⟩
      · simp only [List.append_assoc]
      · rw [List.reverse_cons, List.append_assoc, List.singleton_append]
        exact hlast

/-- An object of which all fields were read, and none that is required is missing, accords with the
record. -/
theorem accords_of_entriesForm (hkeeps : record.Keeps filled)
    {entries : List (String × List Char)} {body : List Char} {last : σ}
    (hentries : EntriesForm true entries body) (hholds : record.Holds filled entries.reverse last)
    (hcomplete : record.missing? last = none) :
    IsValue ('\x7b' :: body) ∧ Accords record.names record.needed ('\x7b' :: body) entries := by
  obtain ⟨members, parts, hnames, hvalues, hparts, hrests⟩ := hentries
  have hmem : ∀ name, name ∈ entries.reverse.map Prod.fst ↔ name ∈ entries.map Prod.fst := by
    intro name
    rw [List.map_reverse, List.mem_reverse]
  refine ⟨.object hvalues hparts (hrests '\x7b'),
    .inl ⟨members, ⟨parts, hvalues, hparts, hrests '\x7b'⟩, hnames⟩, ?_, ?_, ?_⟩
  · have hnodup := hholds.nodup
    rw [List.map_reverse] at hnodup
    exact (List.reverse_perm _).nodup_iff.mp hnodup
  · intro name hname
    exact hholds.declared name ((hmem name).mpr hname)
  · intro name hname
    obtain ⟨field, hfield, hrequired, rfl⟩ := mem_needed hname
    have hfound := List.find?_eq_none.mp (Option.map_eq_none_iff.mp hcomplete) field hfield
    rw [hrequired, Bool.true_and, Bool.not_eq_true, Bool.not_eq_false'] at hfound
    have hread := (hkeeps.isRead_iff field hfield _ _ hholds.filled).mp hfound
    exact (hmem field.name).mp hread

/-! ### Lists of fields -/

/-- Nothing but the end of a list stands in front of its end. -/
theorem nil_of_rests {parts : List (List Char)} {body : List Char}
    (h : Rests ']' false parts body) (hhead : (body ++ rest).head? = some ']') : parts = [] := by
  cases h with
  | close _ => rfl
  | @comma before _ _ _ _ hbefore _ _ =>
    cases before with
    | nil => exact absurd (Option.some.inj hhead) (by decide)
    | cons c before =>
      have hblank := hbefore c List.mem_cons_self
      rw [Option.some.inj hhead] at hblank
      cases hblank

/-- Of the fields that are read of a list the first ones are there, and the others are not
required. -/
theorem rowFrom_eq_ok (hkeeps : record.Keeps filled) {fields : List (Field σ)} {index : Nat}
    (hfields : ∀ field ∈ fields, field ∈ record.fields) {entries : List (String × List Char)}
    {state last : σ} {blanks : List Char} (hblanks : AllBlank blanks)
    (hfilled : filled entries state)
    (h : (record.rowFrom index state fields).result length text =
      .ok (last, blanks ++ ']' :: rest)) :
    ∃ items body, (∀ item ∈ items, IsValue item) ∧ Rests ']' (index == 0) items body ∧
      text = body ++ rest ∧ items.length ≤ fields.length ∧
      filled (((fields.map Field.name).zip items).reverse ++ entries) last ∧
      ∀ field ∈ fields.drop items.length, field.required = false := by
  -- induction on the fields that a list may still give
  induction fields generalizing index text entries state with
  | nil =>
    obtain ⟨rfl, rfl⟩ := Prod.mk.inj (Except.ok.inj h)
    refine ⟨[], blanks ++ [']'], List.forall_mem_nil _, rests_nil _ hblanks, ?_, Nat.le_refl 0,
      hfilled, List.forall_mem_nil _⟩
    rw [List.append_assoc, List.singleton_append]
  | cons field fields ih =>
    rw [List.forall_mem_cons] at hfields
    obtain ⟨more, mid, hmore, hnext⟩ := result_bind_eq_ok h
    obtain ⟨gap, rfl, hgap, hend⟩ := moreItems_eq_ok hmore
    cases more with
    | true =>
      obtain ⟨reached, behind, hresult, hlater⟩ := result_bind_eq_ok hnext
      obtain ⟨blanks', value, hblanks', hvalue, hreached, rfl⟩ :=
        hkeeps.yields field hfields.1 entries state hfilled _ _ _ _ hresult
      obtain ⟨items, body, hitems, hrests, rfl, hlength, hlast, hoptional⟩ :=
        ih hfields.2 hreached hlater
      refine ⟨value :: items, (gap ++ blanks') ++ (value ++ body),
        List.forall_mem_cons.mpr ⟨hvalue, hitems⟩,
        rests_cons ((hgap rfl).append hblanks') hrests, ?_, Nat.succ_le_succ hlength, ?_,
        hoptional⟩
      · simp only [List.append_assoc]
      · rw [List.map_cons, List.zip_cons_cons, List.reverse_cons, List.append_assoc,
          List.singleton_append]
        exact hlast
    | false =>
      obtain ⟨hgap, hhead⟩ := hend rfl
      simp only [Bool.false_eq_true, if_false] at hnext
      split at hnext
      · cases hnext
      · next hoptional =>
        obtain ⟨items, body, -, hrests, rfl, -, hlast, hothers⟩ := ih hfields.2 hfilled hnext
        -- the list has ended, so the fields that are left have no items
        obtain rfl := nil_of_rests hrests hhead
        cases hrests with
        | close hclose =>
          refine ⟨[], (gap ++ _) ++ [']'], List.forall_mem_nil _,
            rests_nil _ (List.forall_mem_append.mpr ⟨hgap, hclose⟩), ?_, Nat.zero_le _, ?_, ?_⟩
          · simp only [List.append_assoc]
          · rw [List.zip_nil_right] at hlast ⊢
            exact hlast
          · exact List.forall_mem_cons.mpr ⟨Bool.eq_false_of_not_eq_true hoptional, hothers⟩

/-- The names of the values in a list are the first ones. -/
theorem map_fst_zip_eq_take (names : List String) {items : List (List Char)}
    (h : items.length ≤ names.length) :
    (names.zip items).map Prod.fst = names.take items.length := by
  induction names generalizing items with
  | nil => rw [List.zip_nil_left, List.take_nil, List.map_nil]
  | cons name names ih =>
    cases items with
    | nil => rfl
    | cons item items =>
      rw [List.zip_cons_cons, List.map_cons, List.length_cons, List.take_succ_cons,
        ih (Nat.le_of_succ_le_succ h)]

/-- A list of the first fields, with none missing that is required, accords with the record. -/
theorem accords_of_items (hnames : record.names.Nodup) {items : List (List Char)}
    {written : List Char} (hitems : HasItems written items)
    (hlength : items.length ≤ record.fields.length)
    (hoptional : ∀ field ∈ record.fields.drop items.length, field.required = false) :
    Accords record.names record.needed written (record.names.zip items) := by
  have hlength' : items.length ≤ record.names.length := by
    rw [names, List.length_map]
    exact hlength
  have htake := map_fst_zip_eq_take record.names hlength'
  refine ⟨.inr ⟨items, hitems, hlength', rfl⟩, ?_, ?_, ?_⟩
  · rw [htake]
    exact hnames.sublist (List.take_sublist _ _)
  · intro name hname
    rw [htake] at hname
    exact List.mem_of_mem_take hname
  · intro name hname
    obtain ⟨field, hfield, hrequired, rfl⟩ := mem_needed hname
    rw [htake, names, ← List.map_take]
    rw [← List.take_append_drop items.length record.fields] at hfield
    -- a field that stands behind the items would not be required
    rcases List.mem_append.mp hfield with hfront | hbehind
    · exact List.mem_map_of_mem hfront
    · rw [hoptional field hbehind] at hrequired
      cases hrequired

/-! ### Values -/

/-- A closed record is read of a value that accords with its fields, and what its state says of them
is true of the values that stand there. -/
theorem yields_read (hclosed : record.closed = true) (hkeeps : record.Keeps filled) {empty : σ}
    (hempty : filled [] empty) (hnames : record.names.Nodup) :
    Yields (record.read empty) fun last written =>
      ∃ entries, Accords record.names record.needed written entries ∧
        filled entries.reverse last := by
  intro length text last rest h
  obtain ⟨blanks, next, mid, hblanks, rfl, hhead, hnext⟩ := peek_bind_eq_ok h
  split at hnext
  · cases hnext
  · -- a list
    obtain ⟨tail, rfl⟩ := cons_of_head?_eq hhead
    obtain ⟨state, _, hrow, hend⟩ := result_bind_eq_ok (result_skip_bind ▸ hnext)
    obtain ⟨_, _, hclose, hpure⟩ := result_bind_eq_ok hend
    obtain ⟨rfl, rfl⟩ := Prod.mk.inj (Except.ok.inj hpure)
    obtain ⟨behind, hbehind, rfl⟩ := endList_eq_ok hclose
    obtain ⟨items, body, hitems, hrests, rfl, hlength, hlast, hoptional⟩ :=
      rowFrom_eq_ok hkeeps (fun _ hfield => hfield) hbehind hempty hrow
    rw [List.append_nil] at hlast
    have haccords := accords_of_items hnames ⟨hitems, hrests '['⟩ hlength hoptional
    exact ⟨blanks, '[' :: body, hblanks, .list hitems (hrests '['), ⟨_, haccords, hlast⟩, rfl⟩
  · -- an object
    obtain ⟨tail, rfl⟩ := cons_of_head?_eq hhead
    obtain ⟨fuel, _, hbound, hfields⟩ := result_bind_eq_ok (result_skip_bind ▸ hnext)
    obtain ⟨rfl, rfl⟩ := Prod.mk.inj (Except.ok.inj hbound)
    obtain ⟨state, _, hread, hmissing⟩ := result_bind_eq_ok hfields
    split at hmissing
    · cases hmissing
    · next hcomplete =>
      obtain ⟨_, _, hclose, hpure⟩ := result_bind_eq_ok hmissing
      obtain ⟨rfl, rfl⟩ := Prod.mk.inj (Except.ok.inj hpure)
      obtain ⟨behind, hbehind, rfl⟩ := endObject_eq_ok hclose
      obtain ⟨entries, body, hentries, rfl, hlast⟩ := fieldsFrom_eq_ok hclosed hkeeps hbehind
        ⟨hempty, List.nodup_nil, List.forall_mem_nil _⟩ hread
      rw [List.append_nil] at hlast
      obtain ⟨hvalue, haccords⟩ := accords_of_entriesForm hkeeps hentries hlast hcomplete
      exact ⟨blanks, '\x7b' :: body, hblanks, hvalue, ⟨entries, haccords, hlast.filled⟩, rfl⟩
  · exact absurd hnext not_refuse_eq_ok

end Record

/-! ## Whole texts -/

/-- A text that is decoded is that of a value for which the result stands. -/
theorem decode_eq_ok {α : Type} {reader : Reader α} {form : α → Form} (h : Yields reader form)
    {text : List Char} {x : α} (hdecode : decode reader text = .ok x) :
    ∃ written, IsText text written ∧ form x written := by
  obtain ⟨⟨y, rest⟩, hresult, hblank⟩ := bind_eq_ok hdecode
  obtain ⟨before, written, hbefore, hwritten, hform, htext⟩ := h _ _ _ _ hresult
  dsimp only at hblank
  split at hblank
  · next hall =>
    obtain rfl := Except.ok.inj hblank
    exact ⟨written, ⟨before, rest, hbefore, hwritten, List.all_eq_true.mp hall, htext⟩, hform⟩
  · cases hblank

end PubSubTrials.Json
