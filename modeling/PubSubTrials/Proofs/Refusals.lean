import PubSubTrials.Proofs.Catalogues
import PubSubTrials.Proofs.Records

/-!
# Suites that are refused

A text is refused if its suite, one of the cases or one of their entities has a key that is not
known, a repeated key, or lacks a field that is required (`Suite.IsDefective`). A suite that is read
from a text stands there as it is read (`Suite.SuiteReading`): each of its fields is what the value
under the field's name says, and what is supposed without it is taken only where there is no such
value (`Gives`).

A defective text is not refused for its defect: something else may be wrong in front of it. So it is
shown that nothing defective is ever read, and that no text has a second value that could have been
read instead of the defective one.
-/

namespace PubSubTrials

namespace Json

open Reader

/-! ## Objects with wrong keys -/

/-- A key is the name of no field. -/
def HasUnknownKey (names : List String) (members : List (List Char × List Char)) : Prop :=
  ∃ member ∈ members, ∀ name ∈ names, ¬ StringForm name member.1

/-- Two keys are the name of one field. -/
def RepeatsKey (names : List String) (members : List (List Char × List Char)) : Prop :=
  ∃ name ∈ names, ∃ i j : Nat, i < j ∧ (∃ first ∈ members[i]?, StringForm name first.1) ∧
    ∃ second ∈ members[j]?, StringForm name second.1

/-- No key is the name of a field that is required. -/
def LacksKey (required : List String) (members : List (List Char × List Char)) : Prop :=
  ∃ name ∈ required, ∀ member ∈ members, ¬ StringForm name member.1

/-- An object with wrong keys for a record of these fields. -/
def Faulty (names required : List String) (written : List Char) : Prop :=
  ∃ members, HasMembers written members ∧
    (HasUnknownKey names members ∨ RepeatsKey names members ∨ LacksKey required members)

/-- A value stands under a name in a value: behind a key of this name, or in a list in the place of
the name. -/
def StandsUnder (names : List String) (name : String) (value written : List Char) : Prop :=
  (∃ members key, HasMembers written members ∧ (key, value) ∈ members ∧ StringForm name key) ∨
    ∃ items, HasItems written items ∧ items[names.idxOf name]? = some value

/-- Some item has a property, of a list that stands under a name. -/
def HasItemUnder (names : List String) (name : String) (property : List Char → Prop)
    (written : List Char) : Prop :=
  ∃ value, StandsUnder names name value written ∧ ∃ items, HasItems value items ∧
    ∃ item ∈ items, property item

/-- What stands under a name says what `x` is; only where nothing stands there it is what is
supposed, if anything is. -/
def Gives {α : Type} (names : List String) (name : String) (form : α → Form)
    (supposed : Option α) (x : α) : Form := fun written =>
  (∃ value, StandsUnder names name value written ∧ form x value) ∨
    (∀ value, ¬ StandsUnder names name value written) ∧ supposed = some x

/-! ## Printed values -/

theorem isValue_printString (text : String) : IsValue (printString text) :=
  .string (isString_of_stringForm (stringForm_printString text))

/-- The members of an object that is printed. -/
def printedMembers (fields : List (String × List Char)) : List (List Char × List Char) :=
  fields.map fun field => (printString field.1, field.2)

/-- A printed object has the members that were printed. -/
theorem hasMembers_printObject {fields : List (String × List Char)}
    (h : ∀ field ∈ fields, IsValue field.2) (depth : Nat) :
    HasMembers (printObject depth fields) (printedMembers fields) := by
  refine ⟨fields.map printField, List.forall_mem_map.mpr h, ?_,
    encloses_printBetween depth '\x7b' '\x7d' _⟩
  rw [printedMembers, List.forall₂_map_left_iff, List.forall₂_map_right_iff, List.forall₂_same]
  intro field _
  exact ⟨[], [' '], isString_of_stringForm (stringForm_printString _), allBlank_nil,
    List.forall_mem_singleton.mpr rfl, rfl⟩

theorem hasItems_printList {items : List (List Char)} (h : ∀ item ∈ items, IsValue item)
    (depth : Nat) : HasItems (printList depth items) items :=
  ⟨h, encloses_printBetween depth '[' ']' items⟩

theorem HasMembers.isValue {written : List Char} {members : List (List Char × List Char)}
    (h : HasMembers written members) : IsValue written := by
  obtain ⟨parts, hvalues, hparts, hencloses⟩ := h
  exact .object hvalues hparts hencloses

theorem HasItems.isValue {written : List Char} {items : List (List Char)}
    (h : HasItems written items) : IsValue written :=
  .list h.1 h.2

section Accords

variable {names required : List String} {written : List Char}
  {entries : List (String × List Char)} {name : String}

/-- A value with the right fields has no wrong keys. -/
theorem Accords.not_faulty (h : Accords names required written entries) :
    ¬ Faulty names required written := by
  rintro ⟨members, hmembers, hfault⟩
  rcases h.shape with ⟨others, hothers, hentries⟩ | ⟨items, hitems, -⟩
  · -- a document has its members in one way, so the fault would be among those that were read
    obtain rfl := hmembers.unique hothers
    have hlength := hentries.length_eq
    rcases hfault with hunknown | hrepeats | hlacks
    · obtain ⟨member, hmember, hunknown⟩ := hunknown
      obtain ⟨i, hi, rfl⟩ := List.getElem_of_mem hmember
      have hentry := hentries.get (hlength ▸ hi) hi
      exact hunknown _ (h.declared _ (List.mem_map_of_mem (List.getElem_mem _))) hentry.1
    · obtain ⟨name, -, i, j, hless, ⟨_, hgeti, hfirst⟩, _, hgetj, hsecond⟩ := hrepeats
      obtain ⟨hi, rfl⟩ := List.getElem?_eq_some_iff.mp hgeti
      obtain ⟨hj, rfl⟩ := List.getElem?_eq_some_iff.mp hgetj
      have hsame : entries[i].1 = entries[j].1 :=
        (stringForm_inj (hentries.get (hlength ▸ hi) hi).1 hfirst).trans
          (stringForm_inj (hentries.get (hlength ▸ hj) hj).1 hsecond).symm
      have hne := List.pairwise_iff_getElem.mp h.nodup i j
        (by rwa [List.length_map, hlength]) (by rwa [List.length_map, hlength]) hless
      rw [List.getElem_map, List.getElem_map] at hne
      exact hne hsame
    · obtain ⟨name, hname, hlacks⟩ := hlacks
      obtain ⟨entry, hentry, rfl⟩ := List.mem_map.mp (h.complete name hname)
      obtain ⟨i, hi, rfl⟩ := List.getElem_of_mem hentry
      exact hlacks _ (List.getElem_mem (hlength ▸ hi)) (hentries.get hi (hlength ▸ hi)).1
  · exact hitems.not_hasMembers hmembers

/-- The entries of a list stand in the places of their names. -/
theorem mem_zip_iff (hnames : names.Nodup) (hname : name ∈ names) {items : List (List Char)}
    {value : List Char} :
    (name, value) ∈ names.zip items ↔ items[names.idxOf name]? = some value := by
  rw [List.mem_iff_getElem?]
  constructor
  · rintro ⟨i, hi⟩
    obtain ⟨hplace, hvalue⟩ := List.getElem?_zip_eq_some.mp hi
    obtain ⟨hless, rfl⟩ := List.getElem?_eq_some_iff.mp hplace
    rwa [hnames.idxOf_getElem]
  · intro hget
    exact ⟨names.idxOf name, List.getElem?_zip_eq_some.mpr ⟨List.getElem?_idxOf hname, hget⟩⟩

/-- What stands under a name is what is entered under it. -/
theorem Accords.standsUnder_iff (h : Accords names required written entries)
    (hnames : names.Nodup) (hname : name ∈ names) {value : List Char} :
    StandsUnder names name value written ↔ (name, value) ∈ entries := by
  -- by name in an object, and by place in a list
  rcases h.shape with ⟨members, hmembers, hentries⟩ | ⟨items, hitems, -, rfl⟩
  · have hlength := hentries.length_eq
    constructor
    · rintro (⟨others, key, hothers, hmem, hform⟩ | ⟨items, hitems, -⟩)
      · obtain rfl := hmembers.unique hothers
        obtain ⟨i, hi, heq⟩ := List.getElem_of_mem hmem
        have hentry := hentries.get (hlength ▸ hi) hi
        rw [Names, List.get_eq_getElem, List.get_eq_getElem, heq] at hentry
        obtain ⟨hkey, hvalue⟩ := hentry
        have hsame : entries[i] = (name, value) :=
          Prod.ext (stringForm_inj hkey hform) hvalue
        exact hsame ▸ List.getElem_mem _
      · exact (hitems.not_hasMembers hmembers).elim
    · intro hmem
      obtain ⟨i, hi, heq⟩ := List.getElem_of_mem hmem
      have hentry := hentries.get hi (hlength ▸ hi)
      rw [Names, List.get_eq_getElem, List.get_eq_getElem, heq] at hentry
      obtain ⟨hkey, rfl⟩ := hentry
      exact .inl ⟨members, members[i].1, hmembers, List.getElem_mem _, hkey⟩
  · rw [mem_zip_iff hnames hname]
    constructor
    · rintro (⟨members, key, hmembers, -⟩ | ⟨others, hothers, hget⟩)
      · exact (hitems.not_hasMembers hmembers).elim
      · rwa [hitems.unique hothers]
    · exact fun hget => .inr ⟨items, hitems, hget⟩

end Accords

section Fields

variable {α β : Type} {names required : List String} {written : List Char} {name : String}

/-- No two values stand under a name in a value without wrong keys. -/
theorem StandsUnder.unique (hsound : ¬ Faulty names required written) (hname : name ∈ names)
    {value other : List Char} (h : StandsUnder names name value written)
    (h' : StandsUnder names name other written) : value = other := by
  rcases h with ⟨members, key, hmembers, hmem, hform⟩ | ⟨items, hitems, hget⟩
  · rcases h' with ⟨others, key', hothers, hmem', hform'⟩ | ⟨items, hitems, -⟩
    · obtain rfl := hmembers.unique hothers
      obtain ⟨i, hi, heq⟩ := List.getElem_of_mem hmem
      obtain ⟨j, hj, heq'⟩ := List.getElem_of_mem hmem'
      have hfirst : ∃ first ∈ members[i]?, StringForm name first.1 :=
        ⟨_, List.getElem?_eq_getElem hi, heq ▸ hform⟩
      have hsecond : ∃ second ∈ members[j]?, StringForm name second.1 :=
        ⟨_, List.getElem?_eq_getElem hj, heq' ▸ hform'⟩
      -- two different places under one name are a repeated key
      have hrepeats : RepeatsKey names members → value = other := fun hrepeats =>
        absurd ⟨members, hmembers, .inr (.inl hrepeats)⟩ hsound
      rcases Nat.lt_trichotomy i j with hless | rfl | hless
      · exact hrepeats ⟨name, hname, i, j, hless, hfirst, hsecond⟩
      · exact (Prod.mk.inj (heq.symm.trans heq')).2
      · exact hrepeats ⟨name, hname, j, i, hless, hsecond, hfirst⟩
    · exact (hitems.not_hasMembers hmembers).elim
  · rcases h' with ⟨members, key, hmembers, -⟩ | ⟨others, hothers, hget'⟩
    · exact (hitems.not_hasMembers hmembers).elim
    · obtain rfl := hitems.unique hothers
      exact Option.some.inj (hget.symm.trans hget')

/-- What is made of what a field says. -/
theorem Gives.map {form : α → Form} {form' : β → Form} {supposed : Option α} {x : α}
    (h : Gives names name form supposed x written) (f : α → β)
    (hform : ∀ value, form x value → form' (f x) value) :
    Gives names name form' (supposed.map f) (f x) written := by
  rcases h with ⟨value, hvalue, hx⟩ | ⟨hnone, rfl⟩
  · exact .inl ⟨value, hvalue, hform value hx⟩
  · exact .inr ⟨hnone, rfl⟩

/-- If the items of a list under a name stand for something that excludes a property, none of them
has it. -/
theorem not_hasItemUnder {form : α → Form} {items : List α}
    (hsound : ¬ Faulty names required written) (hname : name ∈ names)
    (h : Gives names name (ItemsForm form) none items written) {property : List Char → Prop}
    (hproperty : ∀ x item, form x item → ¬ property item) :
    ¬ HasItemUnder names name property written := by
  rintro ⟨value, hvalue, parts, hparts, item, hitem, hholds⟩
  rcases h with ⟨other, hother, others, hothers, hforms⟩ | ⟨-, hnone⟩
  · obtain rfl := hvalue.unique hsound hname hother
    obtain rfl := hparts.unique hothers
    obtain ⟨i, hi, rfl⟩ := List.getElem_of_mem hitem
    exact hproperty _ _ (hforms.get (hforms.length_eq ▸ hi) hi) hholds
  · cases hnone

/-! ## What a record knows of its fields -/

/-- What is kept of a field: nothing as long as no value was entered, and then what the value stands
for. -/
def Slot (name : String) (form : α → Form) (entries : List (String × List Char)) :
    Option α → Prop
  | none => name ∉ entries.map Prod.fst
  | some x => ∃ value, (name, value) ∈ entries ∧ form x value

variable {form : α → Form} {entries : List (String × List Char)}

theorem slot_nil : Slot name form [] none := List.not_mem_nil

theorem slot_put {x : α} {value : List Char} (h : form x value) :
    Slot name form ((name, value) :: entries) (some x) :=
  ⟨value, List.mem_cons_self, h⟩

theorem Slot.cons {slot : Option α} (h : Slot name form entries slot) {other : String}
    (hne : name ≠ other) (value : List Char) : Slot name form ((other, value) :: entries) slot := by
  cases slot with
  | none => exact fun hmem => (List.mem_cons.mp hmem).elim hne h
  | some x =>
    obtain ⟨given, hmem, hx⟩ := h
    exact ⟨given, List.mem_cons_of_mem _ hmem, hx⟩

/-- A slot is filled when its name has occurred. -/
theorem Slot.isSome_iff {slot : Option α} (h : Slot name form entries slot) :
    slot.isSome = true ↔ name ∈ entries.map Prod.fst := by
  cases slot with
  | none => exact iff_of_false Bool.false_ne_true h
  | some x =>
    obtain ⟨value, hmem, -⟩ := h
    exact iff_of_true rfl (List.mem_map_of_mem hmem)

/-- What is kept of a field in the end is what the value says in which it was read. -/
theorem Slot.gives {slot : Option α} (h : Slot name form entries.reverse slot)
    (haccords : Accords names required written entries) (hnames : names.Nodup)
    (hname : name ∈ names) (supposed : α) :
    Gives names name form (some supposed) (slot.getD supposed) written := by
  cases slot with
  | none =>
    refine .inr ⟨fun value hvalue => h ?_, rfl⟩
    have hmem := (haccords.standsUnder_iff hnames hname).mp hvalue
    exact List.mem_map_of_mem (List.mem_reverse.mpr hmem)
  | some x =>
    obtain ⟨value, hmem, hx⟩ := h
    exact .inl ⟨value, (haccords.standsUnder_iff hnames hname).mpr (List.mem_reverse.mp hmem), hx⟩

/-- Nothing is supposed of a field that is required. -/
theorem Slot.gives_required {slot : Option α} (h : Slot name form entries.reverse slot)
    (haccords : Accords names required written entries) (hnames : names.Nodup)
    (hname : name ∈ names) (hrequired : name ∈ required) (supposed : α) :
    Gives names name form none (slot.getD supposed) written := by
  rcases h.gives haccords hnames hname supposed with hvalue | ⟨hnone, -⟩
  · exact .inl hvalue
  · obtain ⟨entry, hentry, rfl⟩ := List.mem_map.mp (haccords.complete name hrequired)
    exact absurd ((haccords.standsUnder_iff hnames hname).mpr hentry) (hnone entry.2)

end Fields

end Json

namespace Suite

open Json Reader

/-- A name that is read is the name of what is read. -/
theorem yields_nameForm {α : Type} (all : List α) (nameOf : α → String) (known : List String) :
    Yields (named (fun text => all.find? (fun x => nameOf x = text)) known)
      fun x => NameForm (nameOf x) := by
  intro length text x rest h
  obtain ⟨blanks, written, hblanks, hwritten, ⟨name, hname, hform⟩, htext⟩ :=
    yields_named _ _ _ _ h
  obtain rfl : nameOf x = name := by simpa using List.find?_some hname
  exact ⟨blanks, written, hblanks, hwritten, hform, htext⟩

/-! ## Entities -/

/-- The fields of an entity, and those that are required. -/
def entityNames : List String := ["role", "parameters", "expected"]

def entityRequired : List String := ["role", "expected"]

/-- A value is read as this entity. -/
structure EntityReading (entity : Entity) (written : List Char) : Prop where
  sound : ¬ Faulty entityNames entityRequired written
  role : Gives entityNames "role" (fun role => NameForm role.name) none entity.role written
  parameters : Gives entityNames "parameters" StringForm (some "") entity.parameters written
  expected : Gives entityNames "expected" (fun outcome => NameForm outcome.name) none
    entity.expected written

/-- What the fields of an entity that were read say of the values that were entered. -/
structure EntityFilled (entries : List (String × List Char)) (fields : EntityFields) : Prop where
  role : Slot "role" (fun role : Role => NameForm role.name) entries fields.role
  parameters : Slot "parameters" StringForm entries fields.parameters
  expected : Slot "expected" (fun outcome : Outcome => NameForm outcome.name) entries
    fields.expected

theorem entityRecord_keeps : entityRecord.Keeps EntityFilled where
  isRead_iff := by
    simp only [entityRecord, List.forall_mem_cons]
    exact ⟨fun _ _ h => h.role.isSome_iff, fun _ _ h => h.parameters.isSome_iff,
      fun _ _ h => h.expected.isSome_iff, List.forall_mem_nil _⟩
  yields := by
    simp only [entityRecord, List.forall_mem_cons]
    refine ⟨fun entries fields h => ?_, fun entries fields h => ?_, fun entries fields h => ?_,
      List.forall_mem_nil _⟩
    · exact (yields_nameForm Role.all Role.name _).map fun role value hvalue =>
        ⟨slot_put hvalue, h.parameters.cons (by decide) _, h.expected.cons (by decide) _⟩
    · exact yields_string.map fun text value hvalue =>
        ⟨h.role.cons (by decide) _, slot_put hvalue, h.expected.cons (by decide) _⟩
    · exact (yields_nameForm Outcome.all Outcome.name _).map fun outcome value hvalue =>
        ⟨h.role.cons (by decide) _, h.parameters.cons (by decide) _, slot_put hvalue⟩

theorem yields_readEntity : Yields readEntity EntityReading := by
  have hnames : entityNames.Nodup := by decide
  refine (Record.yields_read rfl entityRecord_keeps ⟨slot_nil, slot_nil, slot_nil⟩ hnames).map ?_
  rintro fields written ⟨entries, haccords, hfilled⟩
  exact ⟨haccords.not_faulty,
    hfilled.role.gives_required haccords hnames (by decide) (by decide) _,
    hfilled.parameters.gives haccords hnames (by decide) _,
    hfilled.expected.gives_required haccords hnames (by decide) (by decide) _⟩

/-! ## Cases -/

/-- The fields of a case, and those that are required. -/
def caseNames : List String := ["name", "description", "check", "timeout_sec", "entities"]

def caseRequired : List String := ["name", "entities"]

/-- A timeout in whole seconds, or none. -/
def TimeoutForm (timeout : Option Duration) : Form := fun written =>
  ∃ seconds : Option Nat, timeout = seconds.map Duration.ofSeconds ∧
    OptionForm (fun n value => n < wholeBound ∧ NaturalForm n value) seconds written

/-- A value is read as this case. -/
structure CaseReading (case : Case) (written : List Char) : Prop where
  sound : ¬ Faulty caseNames caseRequired written
  name : Gives caseNames "name" StringForm none case.name written
  description : Gives caseNames "description" (OptionForm StringForm) (some none)
    case.description written
  check : Gives caseNames "check" (fun check => NameForm check.name) (some .noCheck) case.check
    written
  timeout : Gives caseNames "timeout_sec" TimeoutForm (some none) case.timeout written
  entities : Gives caseNames "entities" (ItemsForm EntityReading) none case.entities written

/-- What the fields of a case that were read say of the values that were entered. -/
structure CaseFilled (entries : List (String × List Char)) (fields : CaseFields) : Prop where
  name : Slot "name" StringForm entries fields.name
  description : Slot "description" (OptionForm StringForm) entries fields.description
  check : Slot "check" (fun check : Check => NameForm check.name) entries fields.check
  timeoutSeconds : Slot "timeout_sec"
    (OptionForm fun n value => n < wholeBound ∧ NaturalForm n value) entries fields.timeoutSeconds
  entities : Slot "entities" (ItemsForm EntityReading) entries fields.entities

theorem caseRecord_keeps : caseRecord.Keeps CaseFilled where
  isRead_iff := by
    simp only [caseRecord, List.forall_mem_cons]
    exact ⟨fun _ _ h => h.name.isSome_iff, fun _ _ h => h.description.isSome_iff,
      fun _ _ h => h.check.isSome_iff, fun _ _ h => h.timeoutSeconds.isSome_iff,
      fun _ _ h => h.entities.isSome_iff, List.forall_mem_nil _⟩
  yields := by
    simp only [caseRecord, List.forall_mem_cons]
    refine ⟨fun entries fields h => ?_, fun entries fields h => ?_, fun entries fields h => ?_,
      fun entries fields h => ?_, fun entries fields h => ?_, List.forall_mem_nil _⟩
    · exact yields_string.map fun text value hvalue =>
        ⟨slot_put hvalue, h.description.cons (by decide) _, h.check.cons (by decide) _,
          h.timeoutSeconds.cons (by decide) _, h.entities.cons (by decide) _⟩
    · exact yields_string.orNull.map fun text value hvalue =>
        ⟨h.name.cons (by decide) _, slot_put hvalue, h.check.cons (by decide) _,
          h.timeoutSeconds.cons (by decide) _, h.entities.cons (by decide) _⟩
    · exact (yields_nameForm Check.all Check.name _).map fun check value hvalue =>
        ⟨h.name.cons (by decide) _, h.description.cons (by decide) _, slot_put hvalue,
          h.timeoutSeconds.cons (by decide) _, h.entities.cons (by decide) _⟩
    · exact (yields_natural "u64").orNull.map fun seconds value hvalue =>
        ⟨h.name.cons (by decide) _, h.description.cons (by decide) _, h.check.cons (by decide) _,
          slot_put hvalue, h.entities.cons (by decide) _⟩
    · exact yields_readEntity.list.map fun entities value hvalue =>
        ⟨h.name.cons (by decide) _, h.description.cons (by decide) _, h.check.cons (by decide) _,
          h.timeoutSeconds.cons (by decide) _, slot_put hvalue⟩

theorem yields_readCase : Yields readCase CaseReading := by
  have hnames : caseNames.Nodup := by decide
  refine (Record.yields_read rfl caseRecord_keeps
    ⟨slot_nil, slot_nil, slot_nil, slot_nil, slot_nil⟩ hnames).map ?_
  rintro fields written ⟨entries, haccords, hfilled⟩
  have hseconds := hfilled.timeoutSeconds.gives haccords hnames (by decide) none
  exact ⟨haccords.not_faulty,
    hfilled.name.gives_required haccords hnames (by decide) (by decide) _,
    hfilled.description.gives haccords hnames (by decide) _,
    hfilled.check.gives haccords hnames (by decide) _,
    hseconds.map (Option.map Duration.ofSeconds) fun value hvalue => ⟨_, rfl, hvalue⟩,
    hfilled.entities.gives_required haccords hnames (by decide) (by decide) _⟩

/-! ## Suites -/

/-- The fields of a suite, and those that are required. -/
def suiteNames : List String := ["name", "description", "cases"]

def suiteRequired : List String := ["name", "cases"]

/-- A value is read as this suite. -/
structure SuiteReading (suite : Suite) (written : List Char) : Prop where
  sound : ¬ Faulty suiteNames suiteRequired written
  name : Gives suiteNames "name" StringForm none suite.name written
  description : Gives suiteNames "description" (OptionForm StringForm) (some none)
    suite.description written
  cases : Gives suiteNames "cases" (ItemsForm CaseReading) none suite.cases written

/-- What the fields of a suite that were read say of the values that were entered. -/
structure SuiteFilled (entries : List (String × List Char)) (fields : SuiteFields) : Prop where
  name : Slot "name" StringForm entries fields.name
  description : Slot "description" (OptionForm StringForm) entries fields.description
  cases : Slot "cases" (ItemsForm CaseReading) entries fields.cases

theorem suiteRecord_keeps : suiteRecord.Keeps SuiteFilled where
  isRead_iff := by
    simp only [suiteRecord, List.forall_mem_cons]
    exact ⟨fun _ _ h => h.name.isSome_iff, fun _ _ h => h.description.isSome_iff,
      fun _ _ h => h.cases.isSome_iff, List.forall_mem_nil _⟩
  yields := by
    simp only [suiteRecord, List.forall_mem_cons]
    refine ⟨fun entries fields h => ?_, fun entries fields h => ?_, fun entries fields h => ?_,
      List.forall_mem_nil _⟩
    · exact yields_string.map fun text value hvalue =>
        ⟨slot_put hvalue, h.description.cons (by decide) _, h.cases.cons (by decide) _⟩
    · exact yields_string.orNull.map fun text value hvalue =>
        ⟨h.name.cons (by decide) _, slot_put hvalue, h.cases.cons (by decide) _⟩
    · exact yields_readCase.list.map fun cases value hvalue =>
        ⟨h.name.cons (by decide) _, h.description.cons (by decide) _, slot_put hvalue⟩

theorem yields_readSuite : Yields readSuite SuiteReading := by
  have hnames : suiteNames.Nodup := by decide
  refine (Record.yields_read rfl suiteRecord_keeps ⟨slot_nil, slot_nil, slot_nil⟩ hnames).map ?_
  rintro fields written ⟨entries, haccords, hfilled⟩
  exact ⟨haccords.not_faulty,
    hfilled.name.gives_required haccords hnames (by decide) (by decide) _,
    hfilled.description.gives haccords hnames (by decide) _,
    hfilled.cases.gives_required haccords hnames (by decide) (by decide) _⟩

/-! ## What is refused -/

/-- The suite, one of its cases or one of their entities is an object with wrong keys. -/
def IsDefective (written : List Char) : Prop :=
  Faulty suiteNames suiteRequired written ∨
    HasItemUnder suiteNames "cases" (fun case => Faulty caseNames caseRequired case ∨
      HasItemUnder caseNames "entities" (Faulty entityNames entityRequired) case) written

/-- Nothing that is read is defective. -/
theorem SuiteReading.not_isDefective {suite : Suite} {written : List Char}
    (h : SuiteReading suite written) : ¬ IsDefective written := by
  have hcases : ¬ HasItemUnder suiteNames "cases" (fun case => Faulty caseNames caseRequired case ∨
      HasItemUnder caseNames "entities" (Faulty entityNames entityRequired) case) written := by
    refine not_hasItemUnder h.sound (by decide) h.cases fun case value hcase hdefect => ?_
    have hentities := not_hasItemUnder hcase.sound (by decide) hcase.entities
      fun entity item hentity => hentity.sound
    exact hdefect.elim hcase.sound hentities
  exact fun hdefect => hdefect.elim h.sound hcases

/-- The timeout of a case that is read is one of whole seconds. -/
theorem CaseReading.exists_seconds {case : Case} {written : List Char}
    (h : CaseReading case written) :
    ∃ seconds : Option Nat, case.timeout = seconds.map Duration.ofSeconds := by
  rcases h.timeout with ⟨value, -, seconds, hseconds, -⟩ | ⟨-, hnone⟩
  · exact ⟨seconds, hseconds⟩
  · exact ⟨none, (Option.some.inj hnone).symm⟩

/-- A case that is read and can be run has no timeout, or one of whole seconds, one at least. -/
theorem CaseReading.exists_pos_seconds {case : Case} {written : List Char}
    (h : CaseReading case written) (hvalid : case.validate = .ok ()) {timeout : Duration}
    (htimeout : timeout ∈ case.timeout) : ∃ n, 0 < n ∧ timeout = .ofSeconds n := by
  obtain ⟨seconds, hseconds⟩ := h.exists_seconds
  rw [Option.mem_def.mp htimeout] at hseconds
  obtain ⟨n, rfl, rfl⟩ := Option.map_eq_some_iff.mp hseconds.symm
  have hsound := (Case.fault?_eq_none_iff case).mp ((Case.validate_eq_ok_iff case).mp hvalid)
  have hpos : n ≠ 0 := by
    intro hzero
    apply hsound.2.1
    rw [Option.mem_def.mp htimeout, hzero]
    rfl
  exact ⟨n, Nat.pos_of_ne_zero hpos, rfl⟩

/-- Every case that is read stands in the text. -/
theorem SuiteReading.exists_caseReading {suite : Suite} {written : List Char}
    (h : SuiteReading suite written) : ∀ case ∈ suite.cases, ∃ value, CaseReading case value := by
  intro case hcase
  rcases h.cases with ⟨value, -, items, -, hitems⟩ | ⟨-, hnone⟩
  · obtain ⟨i, hi, rfl⟩ := List.getElem_of_mem hcase
    exact ⟨_, hitems.get hi (hitems.length_eq ▸ hi)⟩
  · cases hnone

/-- A suite that is parsed is accepted, and was read from the text. -/
theorem parse_eq_ok {text origin : String} {suite : Suite} (h : parse text origin = .ok suite) :
    suite.validate = .ok () ∧
      ∃ written, IsText text.toList written ∧ SuiteReading suite written := by
  unfold parse at h
  cases hdecode : decode readSuite text.toList with
  | error fault =>
    rw [hdecode] at h
    cases h
  | ok found =>
    rw [hdecode] at h
    dsimp only at h
    split at h
    · cases h
    · next hfault =>
      obtain rfl := Except.ok.inj h
      exact ⟨(validate_eq_ok_iff_fault? found).mpr hfault, decode_eq_ok yields_readSuite hdecode⟩

/-- No suite is read from the text of a defective value. -/
theorem parse_of_isDefective {text : String} {written : List Char}
    (htext : IsText text.toList written) (hdefect : IsDefective written) (origin : String) :
    ∃ fault, parse text origin = .error (.malformed origin fault) := by
  unfold parse
  cases hdecode : decode readSuite text.toList with
  | error fault => exact ⟨fault, rfl⟩
  | ok suite =>
    obtain ⟨other, hother, hreading⟩ := decode_eq_ok yields_readSuite hdecode
    rw [htext.unique hother] at hdefect
    exact absurd hdefect hreading.not_isDefective

/-- A text is refused if it is that of a defective value. A suite that is read from a text is sound,
it is what stands in the text and nothing else stands there, and its timeouts are whole seconds, one
at least. -/
theorem parse_refuses_or_reads (text origin : String) :
    (∀ written, IsText text.toList written → IsDefective written →
      ∃ fault, parse text origin = .error (.malformed origin fault)) ∧
    ∀ suite, parse text origin = .ok suite →
      suite.validate = .ok () ∧
      (∃ written, IsText text.toList written ∧
        (∀ other, IsText text.toList other → other = written) ∧ SuiteReading suite written) ∧
      ∀ case ∈ suite.cases, ∀ timeout ∈ case.timeout, ∃ n, 0 < n ∧ timeout = .ofSeconds n := by
  constructor
  · intro written htext hdefect
    exact parse_of_isDefective htext hdefect origin
  · intro suite hparse
    obtain ⟨hvalid, written, htext, hreading⟩ := parse_eq_ok hparse
    have hcases := ((validate_eq_ok_iff suite).mp hvalid).1
    refine ⟨hvalid, ⟨written, htext, fun other hother => hother.unique htext, hreading⟩, ?_⟩
    intro case hcase timeout htimeout
    obtain ⟨value, hvalue⟩ := hreading.exists_caseReading case hcase
    exact hvalue.exists_pos_seconds (hcases case hcase) htimeout

/-- An entity with a wrong name for its parameters. -/
def misspeltEntity : List (String × List Char) :=
  [("role", printString "publisher"), ("params", printString "-t Square"),
    ("expected", printString "OK")]

/-- A case with this entity. -/
def misspeltCase : List (String × List Char) :=
  [("name", printString "a"), ("entities", printList 3 [printObject 4 misspeltEntity])]

/-- A suite with this case. -/
def misspeltSuite : List (String × List Char) :=
  [("name", printString "solo"), ("cases", printList 1 [printObject 2 misspeltCase])]

/-- A suite without keys, with all fields in their order. -/
def listedText : String :=
  "[ \"solo\", null, [[\"a\", null, \"no_check\", 5, [[\"publisher\", \"\", \"OK\"]]]] ]"

/-- The suite that is read from it. -/
def listedSuite : Suite :=
  ⟨"solo", none, [⟨"a", none, [⟨.publisher, "", .ok⟩], .noCheck, some (.ofSeconds 5)⟩]⟩

/-- The theorem for a suite with a misspelt member, which is refused, and for one written without
keys, which is read. -/
theorem parse_refuses_or_reads_misspelt :
    IsText (printObject 0 misspeltSuite) (printObject 0 misspeltSuite) ∧
      IsDefective (printObject 0 misspeltSuite) ∧
      (∃ fault, parse (String.ofList (printObject 0 misspeltSuite)) "solo.json" =
        .error (.malformed "solo.json" fault)) ∧
      parse listedText "list.json" = .ok listedSuite ∧
      ∃ written, IsText listedText.toList written ∧ SuiteReading listedSuite written := by
  have hentity : HasMembers (printObject 4 misspeltEntity) (printedMembers misspeltEntity) :=
    hasMembers_printObject (by simp [misspeltEntity, isValue_printString]) 4
  have hentities := hasItems_printList (List.forall_mem_singleton.mpr hentity.isValue) 3
  have hcase : HasMembers (printObject 2 misspeltCase) (printedMembers misspeltCase) :=
    hasMembers_printObject (by simp [misspeltCase, isValue_printString, hentities.isValue]) 2
  have hcases := hasItems_printList (List.forall_mem_singleton.mpr hcase.isValue) 1
  have hsuite : HasMembers (printObject 0 misspeltSuite) (printedMembers misspeltSuite) :=
    hasMembers_printObject (by simp [misspeltSuite, isValue_printString, hcases.isValue]) 0
  have htext : IsText (printObject 0 misspeltSuite) (printObject 0 misspeltSuite) :=
    ⟨[], [], allBlank_nil, hsuite.isValue, allBlank_nil, (List.append_nil _).symm⟩
  -- no field is called by the second key of the entity
  have hfaulty : Faulty entityNames entityRequired (printObject 4 misspeltEntity) := by
    refine ⟨_, hentity, .inl ⟨(printString "params", printString "-t Square"),
      .tail _ (.head _), fun name hname hform => ?_⟩⟩
    obtain rfl := stringForm_inj hform (stringForm_printString "params")
    exact absurd hname (by decide)
  have hdefect : IsDefective (printObject 0 misspeltSuite) := by
    refine .inr ⟨_, .inl ⟨_, _, hsuite, .tail _ (.head _), stringForm_printString "cases"⟩, _,
      hcases, _, .head _, .inr ?_⟩
    exact ⟨_, .inl ⟨_, _, hcase, .tail _ (.head _), stringForm_printString "entities"⟩, _,
      hentities, _, .head _, hfaulty⟩
  have hlisted : parse listedText "list.json" = .ok listedSuite := by decide +kernel
  obtain ⟨-, ⟨written, hwritten, -, hreading⟩, -⟩ :=
    (parse_refuses_or_reads listedText "list.json").2 listedSuite hlisted
  refine ⟨htext, hdefect, ?_, hlisted, written, hwritten, hreading⟩
  have hrefused := (parse_refuses_or_reads (String.ofList (printObject 0 misspeltSuite))
    "solo.json").1 (printObject 0 misspeltSuite)
  rw [String.toList_ofList] at hrefused
  exact hrefused htext hdefect

end Suite

end PubSubTrials
