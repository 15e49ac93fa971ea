import Mathlib.Data.List.Perm.Subperm
import PubSubTrials.Proofs.Layout
import PubSubTrials.Suite.Document

/-!
# Suites in all the ways to write them

A suite, each of its cases and each of their entities is written as an object. Its members stand in
any order, strings are written with or without escapes, there may be blanks between all parts, and a
member may be left out if it holds what it holds when it is missing (`Suite.IsWrittenAs`). A sound
suite is read from each of these texts, and there are such texts if its timeouts are whole seconds
below `2 ^ 64` (`Suite.parse_of_isWrittenAs`).

Since members come in any order, the state of a record in the middle of an object is described by
the names of the members that were read (`Record.Takes`); each member has to be taken in every such
state, and nothing has to be said about their order any more.
-/

namespace PubSubTrials

namespace Json

open Reader

/-! ## Written forms -/

/-- The texts that stand for a value. -/
abbrev Form := List Char → Prop

/-- A whole number in decimal digits. -/
def NaturalForm (n : Nat) : Form := fun written => written = printNat n

/-- A value in one of its forms, or `null` where there is none. -/
def OptionForm {α : Type} (form : α → Form) : Option α → Form
  | none => fun written => written = ['n', 'u', 'l', 'l']
  | some x => form x

/-- A list of values, each in one of its forms. -/
def ListForm {α : Type} (form : α → Form) (items : List α) : Form := fun written =>
  ∃ parts, List.Forall₂ form items parts ∧ Encloses '[' ']' parts written

/-- A member of an object. -/
structure Member where
  name : String
  /-- How its value may be written. -/
  form : Form
  /-- Whether it may be left out. -/
  optional : Prop

/-- A member with its value in one of its forms. -/
def Member.IsWrittenAs (member : Member) (part : List Char) : Prop :=
  ∃ value, member.form value ∧ FieldForm (member.name, value) part

/-- An object with its members in any order, each at most once, and with all of them but such as
may be left out. -/
def ObjectForm (members : List Member) : Form := fun written =>
  ∃ chosen parts, chosen.Subperm members ∧
    (∀ member ∈ members, member ∈ chosen ∨ member.optional) ∧
    List.Forall₂ Member.IsWrittenAs chosen parts ∧ Encloses '\x7b' '\x7d' parts written

/-! ## There is always a way to write it -/

theorem exists_forall₂ {α β : Type} {R : α → β → Prop} {xs : List α}
    (h : ∀ x ∈ xs, ∃ y, R x y) : ∃ ys, List.Forall₂ R xs ys := by
  induction xs with
  | nil => exact ⟨[], .nil⟩
  | cons x xs ih =>
    obtain ⟨y, hy⟩ := h x List.mem_cons_self
    obtain ⟨ys, hys⟩ := ih fun x hx => h x (List.mem_cons_of_mem _ hx)
    exact ⟨y :: ys, .cons hy hys⟩

theorem exists_optionForm {α : Type} {form : α → Form} {value : Option α}
    (h : ∀ x ∈ value, ∃ written, form x written) : ∃ written, OptionForm form value written := by
  cases value with
  | none => exact ⟨_, rfl⟩
  | some x => exact h x rfl

theorem exists_listForm {α : Type} {form : α → Form} {items : List α}
    (h : ∀ x ∈ items, ∃ written, form x written) : ∃ written, ListForm form items written := by
  obtain ⟨parts, hparts⟩ := exists_forall₂ h
  exact ⟨_, parts, hparts, encloses_printBetween 0 '[' ']' parts⟩

/-- Members that are printed one after the other, in any order. -/
theorem objectForm_printObject {members chosen : List Member} {fields : List (String × List Char)}
    (hsubperm : chosen.Subperm members)
    (hall : ∀ member ∈ members, member ∈ chosen ∨ member.optional)
    (h : List.Forall₂ (fun member field => member.name = field.1 ∧ member.form field.2) chosen
      fields) (depth : Nat) : ObjectForm members (printObject depth fields) := by
  refine ⟨chosen, fields.map printField, hsubperm, hall, ?_,
    encloses_printBetween depth '\x7b' '\x7d' _⟩
  rw [List.forall₂_map_right_iff]
  refine h.imp fun member field hfield => ⟨field.2, hfield.2, ?_⟩
  rw [hfield.1]
  exact fieldForm_printField field

theorem exists_objectForm {members : List Member}
    (h : ∀ member ∈ members, ∃ value, member.form value) :
    ∃ written, ObjectForm members written := by
  have hfields : ∀ member ∈ members, ∃ field : String × List Char,
      member.name = field.1 ∧ member.form field.2 := by
    intro member hmember
    obtain ⟨value, hvalue⟩ := h member hmember
    exact ⟨(member.name, value), rfl, hvalue⟩
  obtain ⟨fields, hforms⟩ := exists_forall₂ hfields
  exact ⟨_, objectForm_printObject (List.Perm.refl members).subperm
    (fun member hmember => .inl hmember) hforms 0⟩

/-! ## Reading them -/

section Reading

variable {α : Type} {reader : Reader α} {form : α → Form}

/-- An optional string is read back from every way of writing it. -/
theorem reads_optionForm_string {value : Option String} {written : List Char}
    (h : OptionForm StringForm value written) : Reads (orNull string) written value := by
  cases value with
  | none =>
    obtain rfl := h
    exact reads_null string
  | some text => exact reads_orNull_stringForm h

theorem reads_optionForm_natural {value : Option Nat} (hvalue : ∀ n ∈ value, n < 2 ^ 64)
    {written : List Char} (h : OptionForm NaturalForm value written) (wanted : String) :
    Reads (orNull (natural wanted)) written value := by
  cases value with
  | none =>
    obtain rfl := h
    exact reads_null _
  | some n =>
    obtain rfl := h
    have hnatural := reads_natural wanted (hvalue n rfl)
    obtain ⟨c, tail, hcons⟩ :=
      List.exists_cons_of_ne_nil (Nat.toDigits_ne_nil (n := n) (b := 10))
    have hmem : c ∈ printNat n := by
      rw [printNat, hcons]
      exact List.mem_cons_self
    have hne : c ≠ 'n' := by
      rintro rfl
      exact absurd (isDigit_of_mem_printNat hmem) (by decide)
    rw [printNat, hcons] at hnatural ⊢
    exact hnatural.orNull hne

/-- A list is read back if its items are. -/
theorem reads_listForm {items : List α}
    (h : ∀ x ∈ items, ∀ written, form x written → Reads reader written x) {written : List Char}
    (hwritten : ListForm form items written) : Reads (list reader) written items := by
  obtain ⟨parts, hparts, hencloses⟩ := hwritten
  refine reads_list_of_encloses ?_ hencloses
  clear hencloses
  induction hparts with
  | nil => exact .nil
  | @cons x part items parts hpart _ ih =>
    refine .cons (h x List.mem_cons_self part hpart) (ih fun y hy => ?_)
    exact h y (List.mem_cons_of_mem _ hy)

end Reading

namespace Record

variable {α σ : Type} {record : Record σ} {stateOf : List String → σ}

/-- Whatever other members were read before, a record reads the value of this member in each of its
forms; `stateOf` is what the record holds by the names of the members that were read. -/
def Takes (record : Record σ) (stateOf : List String → σ) (member : Member) : Prop :=
  ∃ field, record.fields.find? (fun field => field.name = member.name) = some field ∧
    ∀ names, member.name ∉ names → field.isRead (stateOf names) = false ∧
      ∀ value, member.form value →
        Reads (field.read (stateOf names)) value (stateOf (member.name :: names))

/-- A field that puts its value in its place takes the member of its name. -/
theorem takes_of_put {field : Field σ} {member : Member} {reader : Reader α} {value : α}
    (put : σ → α → σ)
    (hfind : record.fields.find? (fun field => field.name = member.name) = some field)
    (hread : ∀ state, field.read state = do return put state (← reader))
    (hunread : ∀ names, member.name ∉ names → field.isRead (stateOf names) = false)
    (hput : ∀ names, put (stateOf names) value = stateOf (member.name :: names))
    (hreads : ∀ written, member.form written → Reads reader written value) :
    record.Takes stateOf member := by
  refine ⟨field, hfind, fun names hnames => ⟨hunread names hnames, fun written hwritten => ?_⟩⟩
  rw [hread, ← hput]
  exact (hreads written hwritten).map (put (stateOf names))

/-- The members of an object are read one after the other. -/
theorem exists_fills {chosen : List Member} {parts : List (List Char)}
    (hparts : List.Forall₂ Member.IsWrittenAs chosen parts)
    (htakes : ∀ member ∈ chosen, record.Takes stateOf member)
    (hnodup : (chosen.map Member.name).Nodup) (names : List String)
    (hfresh : ∀ member ∈ chosen, member.name ∉ names) :
    ∃ fields, record.Fills (stateOf names) fields
        (stateOf ((chosen.map Member.name).reverse ++ names)) ∧
      List.Forall₂ FieldForm fields parts := by
  induction hparts generalizing names with
  | nil => exact ⟨[], .done _, .nil⟩
  | @cons member part chosen parts hpart _ ih =>
    obtain ⟨value, hvalue, hform⟩ := hpart
    obtain ⟨field, hfind, hfield⟩ := htakes member List.mem_cons_self
    obtain ⟨hunread, hreads⟩ := hfield names (hfresh member List.mem_cons_self)
    rw [List.map_cons, List.nodup_cons] at hnodup
    obtain ⟨fields, hfills, hforms⟩ := ih
      (fun other hother => htakes other (List.mem_cons_of_mem _ hother)) hnodup.2
      (member.name :: names) fun other hother hmem => by
        -- a later member has another name, and none that was read before
        rcases List.mem_cons.mp hmem with hname | hmem
        · exact hnodup.1 (hname ▸ List.mem_map_of_mem hother)
        · exact hfresh other (List.mem_cons_of_mem _ hother) hmem
    refine ⟨(member.name, value) :: fields, ?_, .cons hform hforms⟩
    rw [List.map_cons, List.reverse_cons, List.append_assoc, List.singleton_append]
    exact .step field hfind hunread (hreads value hvalue) hfills

/-- A record is read from an object in each of its forms, if it takes all the members, and if it is
complete once all those members were read that may not be left out. -/
theorem reads_objectForm {members : List Member} {finish : σ → α} {value : α}
    (hnodup : (members.map Member.name).Nodup)
    (htakes : ∀ member ∈ members, record.Takes stateOf member)
    (hfinish : ∀ names, (∀ member ∈ members, member.name ∈ names ∨ member.optional) →
      record.missing? (stateOf names) = none ∧ finish (stateOf names) = value)
    {written : List Char} (h : ObjectForm members written) :
    Reads (do return finish (← record.read (stateOf []))) written value := by
  obtain ⟨chosen, parts, hsubperm, hall, hparts, hencloses⟩ := h
  obtain ⟨sublist, hperm, hsublist⟩ := hsubperm
  -- the members that were written are some of all, in any order
  have hchosen : (chosen.map Member.name).Nodup :=
    (hperm.map Member.name).nodup_iff.mp (hnodup.sublist (hsublist.map Member.name))
  have hmem : ∀ member ∈ chosen, member ∈ members := fun member hmember =>
    hsublist.subset (hperm.mem_iff.mpr hmember)
  obtain ⟨fields, hfills, hforms⟩ := exists_fills hparts
    (fun member hmember => htakes member (hmem member hmember)) hchosen []
    fun member _ hnone => by cases hnone
  rw [List.append_nil] at hfills
  obtain ⟨hcomplete, hvalue⟩ := hfinish (chosen.map Member.name).reverse fun member hmember => by
    refine (hall member hmember).imp_left fun hin => ?_
    exact List.mem_reverse.mpr (List.mem_map_of_mem hin)
  rw [← hvalue]
  exact (reads_of_encloses hfills hcomplete hforms hencloses).map finish

end Record

end Json

namespace Suite

open Json Reader

/-- A value that was left out is the one that is supposed without it. -/
theorem getD_of_known {α : Type} {known : Prop} [Decidable known] {value supposed : α}
    (h : known ∨ value = supposed) :
    (if known then some value else none).getD supposed = value := by
  split
  · rfl
  · next hunknown => exact (h.resolve_left hunknown).symm

/-! ## Entities -/

/-- The members of an entity. -/
def entityMembers (entity : Entity) : List Member :=
  [⟨"role", StringForm entity.role.name, False⟩,
    ⟨"parameters", StringForm entity.parameters, entity.parameters = ""⟩,
    ⟨"expected", StringForm entity.expected.name, False⟩]

/-- An entity in one of its forms. -/
def EntityForm (entity : Entity) : Form := ObjectForm (entityMembers entity)

/-- What is known of an entity once the members of these names were read. -/
def entityFields (entity : Entity) (names : List String) : EntityFields where
  role := if "role" ∈ names then some entity.role else none
  parameters := if "parameters" ∈ names then some entity.parameters else none
  expected := if "expected" ∈ names then some entity.expected else none

theorem exists_entityForm (entity : Entity) : ∃ written, EntityForm entity written := by
  refine exists_objectForm ?_
  simp only [entityMembers, List.forall_mem_cons]
  exact ⟨⟨_, stringForm_printString _⟩, ⟨_, stringForm_printString _⟩,
    ⟨_, stringForm_printString _⟩, fun _ hnone => nomatch hnone⟩

theorem entityRecord_takes (entity : Entity) :
    ∀ member ∈ entityMembers entity, entityRecord.Takes (entityFields entity) member := by
  intro member hmember
  simp only [entityMembers, List.mem_cons, List.not_mem_nil, or_false] at hmember
  rcases hmember with rfl | rfl | rfl
  · exact Record.takes_of_put (fun fields role => { fields with role := some role }) rfl
      (fun _ => rfl) (by simp +contextual [entityFields]) (by simp [entityFields])
      fun _ => reads_named_stringForm _ (Role.ofName?_name entity.role)
  · exact Record.takes_of_put (fun fields text => { fields with parameters := some text }) rfl
      (fun _ => rfl) (by simp +contextual [entityFields]) (by simp [entityFields])
      fun _ => reads_stringForm
  · exact Record.takes_of_put (fun fields outcome => { fields with expected := some outcome }) rfl
      (fun _ => rfl) (by simp +contextual [entityFields]) (by simp [entityFields])
      fun _ => reads_named_stringForm _ (Outcome.ofName?_name entity.expected)

theorem reads_entityForm {entity : Entity} {written : List Char}
    (h : EntityForm entity written) : Reads readEntity written entity := by
  have hnodup : ["role", "parameters", "expected"].Nodup := by decide
  refine @Record.reads_objectForm _ _ entityRecord (entityFields entity) (entityMembers entity)
    EntityFields.toEntity entity hnodup (entityRecord_takes entity) (fun names hnames => ?_) _ h
  simp only [entityMembers, List.forall_mem_cons, or_false] at hnames
  obtain ⟨hrole, hparameters, hexpected, -⟩ := hnames
  refine ⟨by simp [Record.missing?, entityRecord, entityFields, hrole, hexpected], ?_⟩
  rw [entityFields, EntityFields.toEntity, if_pos hrole, if_pos hexpected,
    getD_of_known hparameters]
  rfl

/-! ## Cases -/

/-- The members of a case with this timeout. -/
def caseMembers (case : Case) (seconds : Option Nat) : List Member :=
  [⟨"name", StringForm case.name, False⟩,
    ⟨"description", OptionForm StringForm case.description, case.description = none⟩,
    ⟨"check", StringForm case.check.name, case.check = .noCheck⟩,
    ⟨"timeout_sec", OptionForm NaturalForm seconds, seconds = none⟩,
    ⟨"entities", ListForm EntityForm case.entities, False⟩]

/-- A case in one of its forms, in which its timeout stands in seconds. -/
def CaseForm (case : Case) : Form := fun written =>
  ∃ seconds : Option Nat, case.timeout = seconds.map Duration.ofSeconds ∧
    ObjectForm (caseMembers case seconds) written

/-- Whether a case has no timeout, or one of whole seconds below `2 ^ 64`. -/
def HasWholeTimeout (case : Case) : Prop :=
  ∀ timeout ∈ case.timeout, ∃ n < 2 ^ 64, timeout = .ofSeconds n

/-- What is known of a case once the members of these names were read. -/
def caseFields (case : Case) (seconds : Option Nat) (names : List String) : CaseFields where
  name := if "name" ∈ names then some case.name else none
  description := if "description" ∈ names then some case.description else none
  check := if "check" ∈ names then some case.check else none
  timeoutSeconds := if "timeout_sec" ∈ names then some seconds else none
  entities := if "entities" ∈ names then some case.entities else none

/-- Every case can be written whose time is in whole seconds. -/
theorem exists_caseForm {case : Case} (h : HasWholeTimeout case) :
    ∃ written, CaseForm case written := by
  obtain ⟨seconds, hseconds⟩ :
      ∃ seconds : Option Nat, case.timeout = seconds.map Duration.ofSeconds := by
    cases htimeout : case.timeout with
    | none => exact ⟨none, rfl⟩
    | some timeout =>
      obtain ⟨n, -, rfl⟩ := h timeout htimeout
      exact ⟨some n, rfl⟩
  have hmembers : ∀ member ∈ caseMembers case seconds, ∃ value, member.form value := by
    simp only [caseMembers, List.forall_mem_cons]
    exact ⟨⟨_, stringForm_printString _⟩,
      exists_optionForm fun _ _ => ⟨_, stringForm_printString _⟩,
      ⟨_, stringForm_printString _⟩, exists_optionForm fun _ _ => ⟨_, rfl⟩,
      exists_listForm fun entity _ => exists_entityForm entity, fun _ hnone => nomatch hnone⟩
  obtain ⟨written, hwritten⟩ := exists_objectForm hmembers
  exact ⟨written, seconds, hseconds, hwritten⟩

theorem caseRecord_takes (case : Case) {seconds : Option Nat} (h : ∀ n ∈ seconds, n < 2 ^ 64) :
    ∀ member ∈ caseMembers case seconds, caseRecord.Takes (caseFields case seconds) member := by
  intro member hmember
  simp only [caseMembers, List.mem_cons, List.not_mem_nil, or_false] at hmember
  rcases hmember with rfl | rfl | rfl | rfl | rfl
  · exact Record.takes_of_put (fun fields text => { fields with name := some text }) rfl
      (fun _ => rfl) (by simp +contextual [caseFields]) (by simp [caseFields])
      fun _ => reads_stringForm
  · exact Record.takes_of_put (fun fields text => { fields with description := some text }) rfl
      (fun _ => rfl) (by simp +contextual [caseFields]) (by simp [caseFields])
      fun _ => reads_optionForm_string
  · exact Record.takes_of_put (fun fields check => { fields with check := some check }) rfl
      (fun _ => rfl) (by simp +contextual [caseFields]) (by simp [caseFields])
      fun _ => reads_named_stringForm _ (Check.ofName?_name case.check)
  · exact Record.takes_of_put (fun fields n => { fields with timeoutSeconds := some n }) rfl
      (fun _ => rfl) (by simp +contextual [caseFields]) (by simp [caseFields])
      fun _ hwritten => reads_optionForm_natural h hwritten "u64"
  · exact Record.takes_of_put (fun fields entities => { fields with entities := some entities })
      rfl (fun _ => rfl) (by simp +contextual [caseFields]) (by simp [caseFields])
      fun _ => reads_listForm fun _ _ _ => reads_entityForm

theorem ofSeconds_injective : Function.Injective Duration.ofSeconds := by
  intro m n h
  have hnanoseconds : m * Duration.perSecond = n * Duration.perSecond :=
    congrArg Duration.nanoseconds h
  exact Nat.eq_of_mul_eq_mul_right (by decide) hnanoseconds

/-- A case is read back from every way of writing it. -/
theorem reads_caseForm {case : Case} (hwhole : HasWholeTimeout case) {written : List Char}
    (h : CaseForm case written) : Reads readCase written case := by
  obtain ⟨seconds, htimeout, hobject⟩ := h
  have hseconds : ∀ n ∈ seconds, n < 2 ^ 64 := by
    rintro n rfl
    obtain ⟨m, hm, heq⟩ := hwhole (.ofSeconds n) htimeout
    rwa [ofSeconds_injective heq]
  have hnodup : ["name", "description", "check", "timeout_sec", "entities"].Nodup := by decide
  refine @Record.reads_objectForm _ _ caseRecord (caseFields case seconds)
    (caseMembers case seconds) CaseFields.toCase case hnodup (caseRecord_takes case hseconds)
    (fun names hnames => ?_) _ hobject
  simp only [caseMembers, List.forall_mem_cons, or_false] at hnames
  obtain ⟨hname, hdescription, hcheck, hleft, hentities, -⟩ := hnames
  refine ⟨by simp [Record.missing?, caseRecord, caseFields, hname, hentities], ?_⟩
  rw [caseFields, CaseFields.toCase, if_pos hname, if_pos hentities, getD_of_known hdescription,
    getD_of_known hcheck, getD_of_known hleft, ← htimeout]
  rfl

/-! ## Suites -/

/-- The members of a suite. -/
def suiteMembers (suite : Suite) : List Member :=
  [⟨"name", StringForm suite.name, False⟩,
    ⟨"description", OptionForm StringForm suite.description, suite.description = none⟩,
    ⟨"cases", ListForm CaseForm suite.cases, False⟩]

/-- A suite in one of its forms. -/
def SuiteForm (suite : Suite) : Form := ObjectForm (suiteMembers suite)

/-- Whether a text holds a suite in one of its forms, and nothing else but blanks. -/
def IsWrittenAs (suite : Suite) (text : String) : Prop :=
  ∃ before written after, AllBlank before ∧ SuiteForm suite written ∧ AllBlank after ∧
    text.toList = before ++ (written ++ after)

/-- What is known of a suite once the members of these names were read. -/
def suiteFields (suite : Suite) (names : List String) : SuiteFields where
  name := if "name" ∈ names then some suite.name else none
  description := if "description" ∈ names then some suite.description else none
  cases := if "cases" ∈ names then some suite.cases else none

theorem exists_suiteForm {suite : Suite} (h : ∀ case ∈ suite.cases, HasWholeTimeout case) :
    ∃ written, SuiteForm suite written := by
  refine exists_objectForm ?_
  simp only [suiteMembers, List.forall_mem_cons]
  exact ⟨⟨_, stringForm_printString _⟩,
    exists_optionForm fun _ _ => ⟨_, stringForm_printString _⟩,
    exists_listForm fun case hcase => exists_caseForm (h case hcase), fun _ hnone => nomatch hnone⟩

theorem suiteRecord_takes {suite : Suite} (h : ∀ case ∈ suite.cases, HasWholeTimeout case) :
    ∀ member ∈ suiteMembers suite, suiteRecord.Takes (suiteFields suite) member := by
  intro member hmember
  simp only [suiteMembers, List.mem_cons, List.not_mem_nil, or_false] at hmember
  rcases hmember with rfl | rfl | rfl
  · exact Record.takes_of_put (fun fields text => { fields with name := some text }) rfl
      (fun _ => rfl) (by simp +contextual [suiteFields]) (by simp [suiteFields])
      fun _ => reads_stringForm
  · exact Record.takes_of_put (fun fields text => { fields with description := some text }) rfl
      (fun _ => rfl) (by simp +contextual [suiteFields]) (by simp [suiteFields])
      fun _ => reads_optionForm_string
  · exact Record.takes_of_put (fun fields cases => { fields with cases := some cases }) rfl
      (fun _ => rfl) (by simp +contextual [suiteFields]) (by simp [suiteFields])
      fun _ => reads_listForm fun case hcase _ => reads_caseForm (h case hcase)

/-- A suite is read back from every way of writing it. -/
theorem reads_suiteForm {suite : Suite} (hwhole : ∀ case ∈ suite.cases, HasWholeTimeout case)
    {written : List Char} (h : SuiteForm suite written) : Reads readSuite written suite := by
  have hnodup : ["name", "description", "cases"].Nodup := by decide
  refine @Record.reads_objectForm _ _ suiteRecord (suiteFields suite) (suiteMembers suite)
    SuiteFields.toSuite suite hnodup (suiteRecord_takes hwhole) (fun names hnames => ?_) _ h
  simp only [suiteMembers, List.forall_mem_cons, or_false] at hnames
  obtain ⟨hname, hdescription, hcases, -⟩ := hnames
  refine ⟨by simp [Record.missing?, suiteRecord, suiteFields, hname, hcases], ?_⟩
  rw [suiteFields, SuiteFields.toSuite, if_pos hname, if_pos hcases, getD_of_known hdescription]
  rfl

/-! ## Reading suites -/

/-- A sound suite whose timeouts are whole seconds below `2 ^ 64` can be written, and from each text
that holds it that very suite is read. -/
theorem parse_of_isWrittenAs {suite : Suite} (hvalid : suite.validate = .ok ())
    (hwhole : ∀ case ∈ suite.cases, HasWholeTimeout case) :
    (∃ text, suite.IsWrittenAs text) ∧
      ∀ text origin, suite.IsWrittenAs text → parse text origin = .ok suite := by
  constructor
  · obtain ⟨written, hwritten⟩ := exists_suiteForm hwhole
    refine ⟨String.ofList written, [], written, [], allBlank_nil, hwritten, allBlank_nil, ?_⟩
    rw [String.toList_ofList, List.nil_append, List.append_nil]
  · rintro text origin ⟨before, written, after, hbefore, hwritten, hafter, htext⟩
    have hfault : suite.fault? = none := by
      rw [validate] at hvalid
      split at hvalid
      · cases hvalid
      · assumption
    have hdecode := decode_of_reads_between (reads_suiteForm hwhole hwritten) hbefore hafter
    rw [parse, htext, hdecode]
    dsimp only
    rw [hfault]

/-- A publisher alone in its case. -/
def soloist : Entity := ⟨.publisher, "", .ok⟩

/-- A suite with one case for one publisher. -/
def solo : Suite :=
  ⟨"solo", none, [⟨"a\n", none, [soloist], .noCheck, some (.ofSeconds 5)⟩]⟩

/-- The publisher, with its last member first and without parameters. -/
def soloistText : List Char :=
  printObject 4 [("expected", printString "OK"), ("role", printString "publisher")]

/-- The case, without what it can do without, and with more escapes in its name than are needed. -/
def soloCaseText : List Char :=
  printObject 2
    [("timeout_sec", printNat 5), ("entities", printList 3 [soloistText]),
      ("name", ['"', '\\', 'u', '0', '0', '6', '1', '\\', 'n', '"'])]

/-- The suite from its last member to its first, with a description that it does not have. -/
def soloText : String :=
  String.ofList (printObject 0
    [("cases", printList 1 [soloCaseText]), ("description", ['n', 'u', 'l', 'l']),
      ("name", printString "solo")])

theorem entityForm_soloistText : EntityForm soloist soloistText := by
  have hsubperm : List.Subperm
      [⟨"expected", StringForm "OK", False⟩, ⟨"role", StringForm "publisher", False⟩]
      (entityMembers soloist) :=
    ⟨_, .swap _ _ _, .cons_cons _ (.cons _ (.cons_cons _ .slnil))⟩
  refine objectForm_printObject hsubperm ?_
    (.cons ⟨rfl, stringForm_printString _⟩ (.cons ⟨rfl, stringForm_printString _⟩ .nil)) 4
  simp [entityMembers, soloist, Role.name, Outcome.name]

/-- A letter may be written by its number, and a line feed has to be escaped. -/
theorem stringForm_escaped :
    StringForm "a\n" ['"', '\\', 'u', '0', '0', '6', '1', '\\', 'n', '"'] := by
  refine ⟨[['\\', 'u', '0', '0', '6', '1'], ['\\', 'n']], ?_, rfl⟩
  rw [show "a\n".toList = ['a', '\n'] by decide]
  have hhex : IsHex 'a'.toNat ['0', '0', '6', '1'] :=
    ⟨by decide, .cons ⟨by decide, by decide⟩ (.cons ⟨by decide, by decide⟩
      (.cons ⟨by decide, by decide⟩ (.cons ⟨by decide, by decide⟩ .nil)))⟩
  exact .cons (.number hhex) (.cons (.letter (by decide)) .nil)

theorem caseForm_soloCaseText :
    CaseForm ⟨"a\n", none, [soloist], .noCheck, some (.ofSeconds 5)⟩ soloCaseText := by
  have hentities : ListForm EntityForm [soloist] (printList 3 [soloistText]) :=
    ⟨_, .cons entityForm_soloistText .nil, encloses_printBetween 3 '[' ']' _⟩
  have hseconds : OptionForm NaturalForm (some 5) (printNat 5) := rfl
  have hsubperm : List.Subperm
      [⟨"timeout_sec", OptionForm NaturalForm (some 5), some 5 = none⟩,
        ⟨"entities", ListForm EntityForm [soloist], False⟩, ⟨"name", StringForm "a\n", False⟩]
      (caseMembers ⟨"a\n", none, [soloist], .noCheck, some (.ofSeconds 5)⟩ (some 5)) :=
    ⟨_, @List.perm_append_comm _ [_] [_, _], .cons_cons _ (.cons _ (.cons _ (.refl _)))⟩
  refine ⟨some 5, rfl, objectForm_printObject hsubperm ?_
    (.cons ⟨rfl, hseconds⟩ (.cons ⟨rfl, hentities⟩ (.cons ⟨rfl, stringForm_escaped⟩ .nil))) 2⟩
  simp [caseMembers]

/-- A suite may be written with its members in another order and with nulls for what it leaves
out. -/
theorem isWrittenAs_soloText : solo.IsWrittenAs soloText := by
  have hcases : ListForm CaseForm solo.cases (printList 1 [soloCaseText]) :=
    ⟨_, .cons caseForm_soloCaseText .nil, encloses_printBetween 1 '[' ']' _⟩
  have hdescription : OptionForm StringForm solo.description ['n', 'u', 'l', 'l'] := rfl
  have hname : StringForm solo.name (printString "solo") := stringForm_printString "solo"
  have hsuite : SuiteForm solo soloText.toList := by
    rw [soloText, String.toList_ofList]
    refine objectForm_printObject (List.reverse_perm (suiteMembers solo)).subperm ?_
      (.cons ⟨rfl, hcases⟩ (.cons ⟨rfl, hdescription⟩ (.cons ⟨rfl, hname⟩ .nil))) 0
    exact fun member hmember => .inl (List.mem_reverse.mpr hmember)
  refine ⟨[], soloText.toList, [], allBlank_nil, hsuite, allBlank_nil, ?_⟩
  rw [List.nil_append, List.append_nil]

/-- The suite is read from this text. -/
theorem parse_soloText :
    solo.validate = .ok () ∧ (∀ case ∈ solo.cases, HasWholeTimeout case) ∧
      solo.IsWrittenAs soloText ∧ parse soloText "solo.json" = .ok solo := by
  have hvalid : solo.validate = .ok () := rfl
  have hwhole : ∀ case ∈ solo.cases, HasWholeTimeout case := by
    intro case hcase timeout htimeout
    obtain rfl := List.mem_singleton.mp hcase
    exact ⟨5, by decide, (Option.mem_some.mp htimeout).symm⟩
  exact ⟨hvalid, hwhole, isWrittenAs_soloText,
    (parse_of_isWrittenAs hvalid hwhole).2 soloText "solo.json" isWrittenAs_soloText⟩

end Suite

end PubSubTrials
