import Mathlib.Data.List.Forall2
import PubSubTrials.Command.Implementation
import PubSubTrials.Proofs.Documents
import PubSubTrials.Proofs.Series

/-!
# Who takes part in a matrix

The implementations of a matrix are given by texts, each of them a name, an equals sign and a path
(`Implementation.IsGivenBy`). They are accepted together if every text gives one and no name comes
twice; otherwise the first text is refused at which this fails (`parseAll_accepts_or_faults`).

The texts are looked at in turn, so the invariant is about those already behind: they give what was
accepted, under different names (`Implementation.AreGivenBy`), and with such texts nothing is wrong
(`AreGivenBy.not_isFaultAt`).
-/

namespace PubSubTrials.Implementation

/-! ## A text that gives an implementation -/

/-- A text that is a name, an equals sign and a path; the name has no equals sign, and neither part
is empty. -/
structure IsGivenBy (implementation : Implementation) (text : String) : Prop where
  text_eq : text = implementation.name ++ "=" ++ implementation.path.text
  name_plain : '=' ∉ implementation.name.toList
  name_nonempty : implementation.name ≠ ""
  path_nonempty : implementation.path.text ≠ ""

variable {implementation other : Implementation} {text : String} {error : ArgumentError}

/-- The name is read back as what stands in front of the sign, and the path as what stands behind
it. -/
theorem IsGivenBy.split? (h : implementation.IsGivenBy text) :
    split? text.toList = some (implementation.name.toList, implementation.path.text.toList) := by
  rw [split?_eq_some_iff, h.text_eq]
  refine ⟨?_, h.name_plain⟩
  simp

/-- A text is read as the implementation that it gives. -/
theorem parse_eq_ok_iff : parse text = .ok implementation ↔ implementation.IsGivenBy text := by
  constructor
  · intro h
    unfold parse at h
    split at h
    · next c name d path hsplit =>
      obtain rfl := Except.ok.inj h
      obtain ⟨htext, hplain⟩ := split?_eq_some_iff.mp hsplit
      refine ⟨?_, by simpa using hplain, by simp, by simp⟩
      apply String.toList_injective
      simpa using htext
    · cases h
  · intro h
    unfold parse
    rw [h.split?]
    -- neither part is empty, so the first case applies
    have hname : implementation.name.toList ≠ [] := by simpa using h.name_nonempty
    have hpath : implementation.path.text.toList ≠ [] := by simpa using h.path_nonempty
    obtain ⟨c, name, hname⟩ := List.exists_cons_of_ne_nil hname
    obtain ⟨d, path, hpath⟩ := List.exists_cons_of_ne_nil hpath
    rw [hname, hpath]
    show Except.ok (⟨String.ofList (c :: name), ⟨String.ofList (d :: path)⟩⟩ : Implementation) = _
    rw [← hname, ← hpath, String.ofList_toList, String.ofList_toList]

/-- A text that gives no implementation is refused as it stands. -/
theorem parse_eq_error_iff : parse text = .error error ↔
    error = .malformedImplementation text ∧ ∀ implementation, ¬ IsGivenBy implementation text := by
  constructor
  · intro h
    refine ⟨?_, ?_⟩
    · unfold parse at h
      split at h
      · cases h
      · exact (Except.error.inj h).symm
    · intro implementation hgiven
      rw [parse_eq_ok_iff.mpr hgiven] at h
      cases h
  · rintro ⟨rfl, hnone⟩
    unfold parse
    split
    · next c name d path hsplit =>
      -- the parts would be an implementation
      have hparse : parse text = .ok ⟨String.ofList (c :: name), ⟨String.ofList (d :: path)⟩⟩ := by
        unfold parse
        rw [hsplit]
      exact absurd (parse_eq_ok_iff.mp hparse) (hnone _)
    · rfl

/-- A text gives one implementation only. -/
theorem IsGivenBy.unique (h : implementation.IsGivenBy text) (hother : other.IsGivenBy text) :
    implementation = other :=
  Except.ok.inj ((parse_eq_ok_iff.mpr h).symm.trans (parse_eq_ok_iff.mpr hother))

/-! ## Texts in turn -/

/-- Texts that give implementations under different names. -/
structure AreGivenBy (implementations : List Implementation) (texts : List String) : Prop where
  each : List.Forall₂ IsGivenBy implementations texts
  nodup : (implementations.map name).Nodup

/-- What is wrong with the text at a place among others: it gives no implementation, or one whose
name an earlier text has given. -/
inductive IsFaultAt (texts : List String) (i : Nat) : ArgumentError → Prop
  | malformed {text : String} (htext : texts[i]? = some text)
      (hnone : ∀ implementation, ¬ IsGivenBy implementation text) :
      IsFaultAt texts i (.malformedImplementation text)
  | repeated {text earlier : String} {implementation other : Implementation} {j : Nat}
      (htext : texts[i]? = some text) (hgiven : implementation.IsGivenBy text) (hlt : j < i)
      (hearlier : texts[j]? = some earlier) (hother : other.IsGivenBy earlier)
      (hname : other.name = implementation.name) :
      IsFaultAt texts i (.repeatedImplementation implementation.name)

/-- What is wrong with the first text with which something is wrong. -/
def IsFirstFault (texts : List String) (error : ArgumentError) : Prop :=
  ∃ i, IsFaultAt texts i error ∧ ∀ j < i, ∀ other, ¬ IsFaultAt texts j other

variable {texts earlier : List String} {implementations accepted : List Implementation} {i : Nat}

theorem IsFaultAt.unique {other : ArgumentError} (h : IsFaultAt texts i error)
    (hother : IsFaultAt texts i other) : error = other := by
  cases h with
  | malformed htext hnone =>
    cases hother with
    | malformed htext' _ =>
      rw [Option.some.inj (htext.symm.trans htext')]
    | repeated htext' hgiven =>
      rw [Option.some.inj (htext'.symm.trans htext)] at hgiven
      exact absurd hgiven (hnone _)
  | repeated htext hgiven =>
    cases hother with
    | malformed htext' hnone =>
      rw [Option.some.inj (htext.symm.trans htext')] at hgiven
      exact absurd hgiven (hnone _)
    | repeated htext' hgiven' =>
      rw [Option.some.inj (htext'.symm.trans htext)] at hgiven'
      rw [hgiven.unique hgiven']

theorem IsFirstFault.unique {other : ArgumentError} (h : IsFirstFault texts error)
    (hother : IsFirstFault texts other) : error = other := by
  obtain ⟨i, hfault, hbefore⟩ := h
  obtain ⟨j, hfault', hbefore'⟩ := hother
  have hij : ¬ i < j := by
    intro hlt
    exact hbefore' i hlt _ hfault
  have hji : ¬ j < i := by
    intro hlt
    exact hbefore j hlt _ hfault'
  obtain rfl : i = j := by omega
  exact hfault.unique hfault'

theorem AreGivenBy.name_ne (h : AreGivenBy implementations texts) {i j : Nat}
    (hi : i < implementations.length) (hj : j < implementations.length) (hlt : i < j) :
    implementations[i].name ≠ implementations[j].name := by
  have hnames := List.pairwise_iff_getElem.mp h.nodup i j (by simpa using hi) (by simpa using hj)
    hlt
  rwa [List.getElem_map, List.getElem_map] at hnames

/-- With texts that were accepted together nothing is wrong, whatever texts stand behind them. -/
theorem AreGivenBy.not_isFaultAt (h : AreGivenBy implementations earlier) (rest : List String)
    (hi : i < earlier.length) (error : ArgumentError) : ¬ IsFaultAt (earlier ++ rest) i error := by
  have hlength : implementations.length = earlier.length := h.each.length_eq
  -- each text gives the implementation at the same place
  have hat : ∀ (j : Nat) (text : String), j < earlier.length → (earlier ++ rest)[j]? = some text →
      ∃ (hj : j < implementations.length), implementations[j].IsGivenBy text := by
    intro j text hj htext
    rw [List.getElem?_append_left hj] at htext
    obtain ⟨hlt, rfl⟩ := List.getElem?_eq_some_iff.mp htext
    exact ⟨hlength ▸ hj, h.each.get (hlength ▸ hj) hlt⟩
  intro hfault
  cases hfault with
  | malformed htext hnone =>
    obtain ⟨hlt, hgiven⟩ := hat i _ hi htext
    exact hnone _ hgiven
  | @repeated text text' implementation other j htext hgiven hlt hearlier hother hname =>
    obtain ⟨hi', hgiven'⟩ := hat i _ hi htext
    obtain ⟨hj', hother'⟩ := hat j _ (by omega) hearlier
    obtain rfl := hgiven.unique hgiven'
    obtain rfl := hother.unique hother'
    -- two places have one name
    exact h.name_ne hj' hi' hlt hname

theorem AreGivenBy.not_isFirstFault (h : AreGivenBy implementations texts) :
    ¬ IsFirstFault texts error := by
  rintro ⟨i, hfault, -⟩
  have hi : i < texts.length := by
    cases hfault with
    | malformed htext _ => exact (List.getElem?_eq_some_iff.mp htext).1
    | repeated htext _ _ _ _ _ => exact (List.getElem?_eq_some_iff.mp htext).1
  apply h.not_isFaultAt [] hi error
  rwa [List.append_nil]

/-- A list gives one series of implementations only. -/
theorem AreGivenBy.unique {others : List Implementation} (h : AreGivenBy implementations texts)
    (hothers : AreGivenBy others texts) : implementations = others := by
  have hlength : implementations.length = others.length :=
    h.each.length_eq.trans hothers.each.length_eq.symm
  refine List.ext_getElem hlength fun i hi hi' => ?_
  have htexts : i < texts.length := h.each.length_eq ▸ hi
  have hgiven := h.each.get hi htexts
  exact hgiven.unique (hothers.each.get hi' htexts)

/-- One more text, which gives an implementation under a new name. -/
theorem AreGivenBy.concat (h : AreGivenBy accepted earlier) (hgiven : implementation.IsGivenBy text)
    (hnew : implementation.name ∉ accepted.map name) :
    AreGivenBy (accepted ++ [implementation]) (earlier ++ [text]) := by
  refine ⟨List.rel_append h.each (.cons hgiven .nil), ?_⟩
  rw [List.map_append]
  refine List.nodup_append.mpr ⟨h.nodup, List.pairwise_singleton _ _, ?_⟩
  intro taken htaken new hmem heq
  obtain rfl := List.mem_singleton.mp hmem
  exact hnew (heq ▸ htaken)

/-- If the texts so far were accepted, the others are accepted with them, or the first text with
which something is wrong is among the others. -/
theorem parseAllFrom_cases (h : AreGivenBy accepted earlier) {taken : List String}
    (htaken : ∀ name, name ∈ taken ↔ name ∈ accepted.map Implementation.name)
    (texts : List String) :
    match parseAllFrom taken texts with
    | .ok implementations => AreGivenBy (accepted ++ implementations) (earlier ++ texts)
    | .error error => IsFirstFault (earlier ++ texts) error := by
  induction texts generalizing earlier accepted taken with
  | nil =>
    show AreGivenBy (accepted ++ []) (earlier ++ [])
    rwa [List.append_nil, List.append_nil]
  | cons text rest ih =>
    have hhere : (earlier ++ text :: rest)[earlier.length]? = some text := by simp
    have hbefore : ∀ j < earlier.length, ∀ other, ¬ IsFaultAt (earlier ++ text :: rest) j other :=
      fun j hj => h.not_isFaultAt _ hj
    unfold parseAllFrom
    cases hparse : parse text with
    | error error =>
      obtain ⟨rfl, hnone⟩ := parse_eq_error_iff.mp hparse
      exact ⟨earlier.length, .malformed hhere hnone, hbefore⟩
    | ok implementation =>
      have hgiven := parse_eq_ok_iff.mp hparse
      dsimp only
      by_cases hrepeated : implementation.name ∈ accepted.map name
      · rw [if_pos (by simpa using (htaken _).mpr hrepeated)]
        -- the name was given by the text at the place of the other implementation
        obtain ⟨other, hother, hname⟩ := List.mem_map.mp hrepeated
        obtain ⟨j, hj, rfl⟩ := List.mem_iff_getElem.mp hother
        have hj' : j < earlier.length := h.each.length_eq ▸ hj
        have hother' := h.each.get hj hj'
        refine ⟨earlier.length, .repeated hhere hgiven hj' ?_ hother' hname, hbefore⟩
        rw [List.getElem?_append_left hj']
        exact List.getElem?_eq_getElem hj'
      · rw [if_neg (by simpa using (htaken _).not.mpr hrepeated)]
        have hnames : ∀ name, name ∈ implementation.name :: taken ↔
            name ∈ (accepted ++ [implementation]).map Implementation.name := by
          intro name
          rw [List.mem_cons, htaken, List.map_append, List.mem_append, or_comm]
          simp
        have hmore := ih (h.concat hgiven hrepeated) hnames
        rw [List.append_assoc, List.singleton_append] at hmore
        cases hrest : parseAllFrom (implementation.name :: taken) rest with
        | error error =>
          rw [hrest] at hmore
          exact hmore
        | ok implementations =>
          rw [hrest] at hmore
          dsimp only at hmore
          rw [List.append_assoc, List.singleton_append] at hmore
          exact hmore

/-- Reading goes one of two ways, and says which. -/
theorem parseAll_cases (texts : List String) :
    match parseAll texts with
    | .ok implementations => AreGivenBy implementations texts
    | .error error => IsFirstFault texts error :=
  parseAllFrom_cases ⟨.nil, List.nodup_nil⟩ (by simp) texts

/-! ## The texts of a matrix -/

/-- Two texts that do not give implementations of one name. -/
def NamesDiffer (text other : String) : Prop :=
  ∀ implementation implementation' : Implementation, implementation.IsGivenBy text →
    implementation'.IsGivenBy other → implementation.name ≠ implementation'.name

/-- Texts give implementations under different names if each gives one and no two give the same
name. -/
theorem exists_areGivenBy_iff :
    (∃ implementations, AreGivenBy implementations texts) ↔
      (∀ text ∈ texts, ∃ implementation, IsGivenBy implementation text) ∧
        texts.Pairwise NamesDiffer := by
  constructor
  · rintro ⟨implementations, h⟩
    have hlength := h.each.length_eq
    refine ⟨?_, ?_⟩
    · intro text htext
      obtain ⟨i, hi, rfl⟩ := List.mem_iff_getElem.mp htext
      exact ⟨_, h.each.get (hlength ▸ hi) hi⟩
    · rw [List.pairwise_iff_getElem]
      intro i j hi hj hlt first second hfirst hsecond
      -- what two texts give stands at their places
      obtain rfl := hfirst.unique (h.each.get (hlength ▸ hi) hi)
      obtain rfl := hsecond.unique (h.each.get (hlength ▸ hj) hj)
      exact h.name_ne (hlength ▸ hi) (hlength ▸ hj) hlt
  · rintro ⟨hall, hapart⟩
    obtain ⟨implementations, heach⟩ := Json.exists_forall₂ hall
    have hgiven : List.Forall₂ IsGivenBy implementations texts := heach.flip
    have hlength := hgiven.length_eq
    refine ⟨implementations, hgiven, ?_⟩
    apply List.pairwise_iff_getElem.mpr
    intro i j hi hj hlt
    rw [List.length_map] at hi hj
    rw [List.getElem_map, List.getElem_map]
    have htexts := List.pairwise_iff_getElem.mp hapart i j (hlength ▸ hi) (hlength ▸ hj) hlt
    exact htexts _ _ (hgiven.get hi (hlength ▸ hi)) (hgiven.get hj (hlength ▸ hj))

/-- The texts of a matrix are accepted just if each is a name, an equals sign and a path, and the
names differ. What they are accepted as are the implementations that they give, in their order; what
they are refused for is what is wrong with the first text with which something is wrong. -/
theorem parseAll_accepts_or_faults (texts : List String) :
    ((∃ implementations, parseAll texts = .ok implementations) ↔
      (∀ text ∈ texts, ∃ implementation, IsGivenBy implementation text) ∧
        texts.Pairwise NamesDiffer) ∧
      (∀ implementations, parseAll texts = .ok implementations ↔
        AreGivenBy implementations texts) ∧
      ∀ error, parseAll texts = .error error ↔ IsFirstFault texts error := by
  have hcases := parseAll_cases texts
  -- acceptance and fault exclude each other, so one direction of each gives both
  have hok : ∀ implementations, parseAll texts = .ok implementations ↔
      AreGivenBy implementations texts := by
    intro implementations
    cases hparse : parseAll texts with
    | ok accepted =>
      rw [hparse] at hcases
      constructor
      · intro heq
        rwa [← Except.ok.inj heq]
      · intro h
        rw [hcases.unique h]
    | error error =>
      rw [hparse] at hcases
      refine iff_of_false (by intro heq; cases heq) ?_
      intro h
      exact h.not_isFirstFault hcases
  refine ⟨?_, hok, ?_⟩
  · rw [← exists_areGivenBy_iff]
    exact exists_congr hok
  · intro error
    cases hparse : parseAll texts with
    | ok accepted =>
      rw [hparse] at hcases
      exact iff_of_false (by intro heq; cases heq) hcases.not_isFirstFault
    | error first =>
      rw [hparse] at hcases
      constructor
      · intro heq
        rwa [← Except.error.inj heq]
      · intro h
        rw [hcases.unique h]

example : parseAll ["a=/opt/a=b", "b=c"] = .ok [⟨"a", ⟨"/opt/a=b"⟩⟩, ⟨"b", ⟨"c"⟩⟩] := by
  decide +kernel

example : parseAll ["a=x", "a=y", "=z"] = .error (.repeatedImplementation "a") := by
  decide +kernel

end PubSubTrials.Implementation
