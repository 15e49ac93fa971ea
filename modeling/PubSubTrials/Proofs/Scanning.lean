import PubSubTrials.Output.Pattern

/-!
# Scanning a text

`scan` walks over a text and stops at the first place at which one of its patterns stands. This
module says what that means for texts that are put together from pieces:

* when the answer at a place does not depend on what follows (`Pattern.Within`);
* that a stretch of text in which nothing stands can be passed over (`scan_skip`);
* that a text may be scanned piece by piece if no pattern reaches over a seam (`scan_append`);
* that a hit of patterns that all cover the same number of characters is the leftmost one whatever
  follows the text (`scan_append_of_some`).
-/

namespace PubSubTrials.Output

/-! ## Written forms -/

/-- Whether a form stands does not depend on what follows the characters it covers. -/
theorem stands_append {form : List Cell} {text : List Char} (h : form.length ≤ text.length)
    (more : List Char) : stands form (text ++ more) = stands form text := by
  induction form generalizing text with
  | nil => rfl
  | cons cell cells ih =>
    cases text with
    | nil => simp at h
    | cons c rest =>
      have hlen : cells.length ≤ rest.length := by simpa using h
      rw [List.cons_append, stands, stands, ih hlen]

/-- A form that stands at the head of a text is not longer than it. -/
theorem length_le_of_stands {form : List Cell} {text : List Char} (h : stands form text = true) :
    form.length ≤ text.length := by
  induction form generalizing text with
  | nil => exact Nat.zero_le _
  | cons cell cells ih =>
    cases text with
    | nil => simp [stands] at h
    | cons c rest =>
      simp only [stands, Bool.and_eq_true] at h
      have hlen := ih h.2
      simpa using hlen

/-- A form without a cell for a character ends before the first such character. -/
theorem length_le_of_stands_before {form : List Cell} {c : Char} {text more : List Char}
    (hform : ∀ cell ∈ form, cell.accepts c = false)
    (h : stands form (text ++ c :: more) = true) : form.length ≤ text.length := by
  induction form generalizing text with
  | nil => exact Nat.zero_le _
  | cons cell cells ih =>
    cases text with
    | nil =>
      have hcell := hform cell List.mem_cons_self
      simp [stands, hcell] at h
    | cons d rest =>
      simp only [List.cons_append, stands, Bool.and_eq_true] at h
      have hlen := ih (fun cell' hmem => hform cell' (List.mem_cons_of_mem _ hmem)) h.2
      simpa using hlen

/-- What follows a text makes no difference to a form that does not reach out of the text. -/
theorem stands_append_of_le {form : List Cell} {text more : List Char}
    (h : stands form (text ++ more) = true → form.length ≤ text.length) :
    stands form (text ++ more) = stands form text := by
  by_cases hlen : form.length ≤ text.length
  · exact stands_append hlen more
  · -- a form that is longer than the text stands neither here nor there
    have hlong : stands form (text ++ more) = false :=
      Bool.eq_false_iff.mpr fun hs => hlen (h hs)
    have hshort : stands form text = false :=
      Bool.eq_false_iff.mpr fun hs => hlen (length_le_of_stands hs)
    rw [hlong, hshort]

/-! ## Patterns at one place -/

namespace Pattern

/-- No form of the patterns that stands at the head of `text ++ more` reaches into `more`. -/
def Within (patterns : List Pattern) (text more : List Char) : Prop :=
  ∀ pattern ∈ patterns, ∀ form ∈ pattern.forms,
    stands form (text ++ more) = true → form.length ≤ text.length

theorem lengthAt?_le {pattern : Pattern} {text : List Char} {n : Nat}
    (h : pattern.lengthAt? text = some n) : n ≤ text.length := by
  obtain ⟨form, hform, rfl⟩ := Option.map_eq_some_iff.mp h
  have hs : stands form text = true := List.find?_some (p := fun form => stands form text) hform
  exact length_le_of_stands hs

/-- A pattern covers the same characters whether or not more text follows. -/
theorem lengthAt?_append {pattern : Pattern} {text more : List Char}
    (h : ∀ form ∈ pattern.forms, stands form (text ++ more) = true → form.length ≤ text.length) :
    pattern.lengthAt? (text ++ more) = pattern.lengthAt? text := by
  have hsame : ∀ form ∈ pattern.forms, stands form (text ++ more) = stands form text :=
    fun form hmem => stands_append_of_le (h form hmem)
  -- the first form that stands is the same one in both texts
  unfold lengthAt?
  generalize pattern.forms = forms at hsame
  induction forms with
  | nil => rfl
  | cons form rest ih =>
    have hhead := hsame form List.mem_cons_self
    have htail := ih fun form' hmem => hsame form' (List.mem_cons_of_mem _ hmem)
    rw [List.find?_cons, List.find?_cons, hhead]
    split
    · rfl
    · exact htail

/-- Text that no pattern reaches does not change what is found. -/
theorem firstAt?_append {patterns : List Pattern} {text more : List Char}
    (h : Within patterns text more) (index : Nat) :
    firstAt? index patterns (text ++ more) = firstAt? index patterns text := by
  induction patterns generalizing index with
  | nil => rfl
  | cons pattern rest ih =>
    have hhead := lengthAt?_append (h pattern List.mem_cons_self)
    have htail := ih fun pattern' hmem => h pattern' (List.mem_cons_of_mem _ hmem)
    rw [firstAt?, firstAt?, hhead]
    split
    · rfl
    · exact htail (index + 1)

/-- What is found at a place: the pattern of the index given, which covers `n` characters. -/
theorem firstAt?_eq_some {patterns : List Pattern} {text : List Char} {first index n : Nat}
    (h : firstAt? first patterns text = some (index, n)) :
    first ≤ index ∧ ∃ pattern, patterns[index - first]? = some pattern ∧
      pattern.lengthAt? text = some n := by
  induction patterns generalizing first with
  | nil => simp [firstAt?] at h
  | cons pattern rest ih =>
    rw [firstAt?] at h
    split at h
    · rename_i m hm
      simp only [Option.some.injEq, Prod.mk.injEq] at h
      obtain ⟨rfl, rfl⟩ := h
      exact ⟨Nat.le_refl _, pattern, by simp, hm⟩
    · obtain ⟨hle, pattern', hget, hlen⟩ := ih h
      -- in the rest of the patterns the index is one less
      refine ⟨by omega, pattern', ?_, hlen⟩
      have hstep : index - first = (index - (first + 1)) + 1 := by omega
      rw [hstep, List.getElem?_cons_succ, hget]

theorem firstAt?_le {patterns : List Pattern} {text : List Char} {first index n : Nat}
    (h : firstAt? first patterns text = some (index, n)) : n ≤ text.length := by
  obtain ⟨-, pattern, -, hlen⟩ := firstAt?_eq_some h
  exact lengthAt?_le hlen

/-- Nothing is found at a place at which no form of any pattern stands. -/
theorem firstAt?_eq_none_iff {patterns : List Pattern} {text : List Char} {first : Nat} :
    firstAt? first patterns text = none ↔
      ∀ pattern ∈ patterns, ∀ form ∈ pattern.forms, stands form text = false := by
  induction patterns generalizing first with
  | nil => simp [firstAt?]
  | cons pattern rest ih =>
    have hhead : pattern.lengthAt? text = none ↔
        ∀ form ∈ pattern.forms, stands form text = false := by
      simp [lengthAt?, List.find?_eq_none]
    rw [List.forall_mem_cons, ← hhead, ← @ih (first + 1), firstAt?]
    cases pattern.lengthAt? text <;> simp

end Pattern

/-! ## Scanning -/

/-- A hit divides the text that was scanned. -/
theorem text_of_scan {patterns : List Pattern} {passed text : List Char} {hit : Hit}
    (h : scan patterns passed text = some hit) :
    hit.before ++ (hit.matched ++ hit.rest) = passed.reverse ++ text := by
  induction text generalizing passed with
  | nil =>
    obtain ⟨found, -, rfl⟩ := Option.map_eq_some_iff.mp h
    simp
  | cons c rest ih =>
    rw [scan] at h
    split at h
    · obtain rfl := Option.some.inj h
      simp
    · rw [ih h]
      simp

/-- There is no hit if and only if nothing stands anywhere. -/
theorem scan_eq_none_iff {patterns : List Pattern} {passed text : List Char} :
    scan patterns passed text = none ↔
      ∀ i ≤ text.length, Pattern.firstAt? 0 patterns (text.drop i) = none := by
  induction text generalizing passed with
  | nil => simp [scan]
  | cons c rest ih =>
    constructor
    · intro h i hi
      rw [scan] at h
      split at h
      · simp at h
      · rename_i hnone
        cases i with
        | zero => exact hnone
        | succ i => exact ih.mp h i (by simpa using hi)
    · intro h
      have hhead := h 0 (Nat.zero_le _)
      rw [List.drop_zero] at hhead
      rw [scan, hhead]
      exact ih.mpr fun i hi => h (i + 1) (by simpa using hi)

/-- A stretch in which nothing stands is passed over. -/
theorem scan_skip {patterns : List Pattern} {skipped rest : List Char} (passed : List Char)
    (h : ∀ i < skipped.length, Pattern.firstAt? 0 patterns ((skipped ++ rest).drop i) = none) :
    scan patterns passed (skipped ++ rest) = scan patterns (skipped.reverse ++ passed) rest := by
  induction skipped generalizing passed with
  | nil => rfl
  | cons c skipped ih =>
    have hhead := h 0 (by simp)
    rw [List.drop_zero, List.cons_append] at hhead
    rw [List.cons_append, scan, hhead, ih (c :: passed) fun i hi => h (i + 1) (by simpa using hi)]
    simp

/-- A hit stands where nothing stood before it: `skipped` is the text in front of it. -/
theorem scan_eq_some {patterns : List Pattern} {passed text : List Char} {hit : Hit}
    (h : scan patterns passed text = some hit) :
    ∃ skipped rest n, text = skipped ++ rest ∧
      Pattern.firstAt? 0 patterns rest = some (hit.index, n) ∧
      (∀ i < skipped.length, Pattern.firstAt? 0 patterns (text.drop i) = none) ∧
      hit.before = passed.reverse ++ skipped ∧ hit.matched = rest.take n ∧
      hit.rest = rest.drop n := by
  induction text generalizing passed with
  | nil =>
    obtain ⟨⟨index, n⟩, hfirst, rfl⟩ := Option.map_eq_some_iff.mp h
    exact ⟨[], [], n, by simp, hfirst, by simp, by simp, by simp, by simp⟩
  | cons c rest ih =>
    rw [scan] at h
    split at h
    · rename_i index n hfirst
      obtain rfl := Option.some.inj h
      exact ⟨[], c :: rest, n, by simp, hfirst, by simp, by simp, rfl, rfl⟩
    · rename_i hnone
      obtain ⟨skipped, rest', n, htext, hfirst, hbefore, heq, hmatched, hrest⟩ := ih h
      refine ⟨c :: skipped, rest', n, by simp [htext], hfirst, ?_, by simp [heq], hmatched, hrest⟩
      intro i hi
      cases i with
      | zero => exact hnone
      | succ i => exact hbefore i (by simpa using hi)

/-- A text may be scanned piece by piece if nothing that stands in the first piece reaches out
of it. -/
theorem scan_append {patterns : List Pattern} {text more : List Char} (passed : List Char)
    (hend : Pattern.firstAt? 0 patterns [] = none)
    (h : ∀ i < text.length, Pattern.Within patterns (text.drop i) more) :
    scan patterns passed (text ++ more) =
      match scan patterns passed text with
      | some hit => some { hit with rest := hit.rest ++ more }
      | none => scan patterns (text.reverse ++ passed) more := by
  induction text generalizing passed with
  | nil => simp [scan, hend]
  | cons c rest ih =>
    have hfirst := Pattern.firstAt?_append (h 0 (by simp)) 0
    rw [List.drop_zero] at hfirst
    rw [List.cons_append] at hfirst ⊢
    rw [scan, scan, hfirst]
    cases hfound : Pattern.firstAt? 0 patterns (c :: rest) with
    | some found =>
      obtain ⟨index, n⟩ := found
      -- the hit lies in the first piece, so what follows it is cut off from that piece alone
      have hn : n ≤ (c :: rest).length := Pattern.firstAt?_le hfound
      simp only [Option.some.injEq, Hit.mk.injEq, true_and]
      rw [← List.cons_append, List.take_append_of_le_length hn, List.drop_append_of_le_length hn]
      exact ⟨rfl, rfl⟩
    | none =>
      have htail := ih (c :: passed) fun i hi => h (i + 1) (by simpa using hi)
      rw [htail]
      simp

/-! ## Patterns of one width -/

/-- All forms of the patterns cover the same number of characters. -/
def Pattern.Uniform (patterns : List Pattern) (width : Nat) : Prop :=
  ∀ pattern ∈ patterns, ∀ form ∈ pattern.forms, form.length = width

theorem Pattern.Uniform.width_le {patterns : List Pattern} {width : Nat}
    (h : Uniform patterns width) {first index n : Nat} {text : List Char}
    (hfirst : firstAt? first patterns text = some (index, n)) : width ≤ text.length := by
  obtain ⟨-, pattern, hget, hlen⟩ := firstAt?_eq_some hfirst
  obtain ⟨form, hform, -⟩ := Option.map_eq_some_iff.mp hlen
  rw [← h pattern (List.mem_of_getElem? hget) form (List.mem_of_find?_eq_some hform)]
  exact length_le_of_stands (List.find?_some (p := fun form => stands form text) hform)

theorem Pattern.Uniform.length_eq {patterns : List Pattern} {width : Nat}
    (h : Uniform patterns width) {first index n : Nat} {text : List Char}
    (hfirst : firstAt? first patterns text = some (index, n)) : n = width := by
  obtain ⟨-, pattern, hget, hlen⟩ := firstAt?_eq_some hfirst
  obtain ⟨form, hform, rfl⟩ := Option.map_eq_some_iff.mp hlen
  exact h pattern (List.mem_of_getElem? hget) form (List.mem_of_find?_eq_some hform)

/-- There is no room for a hit in a text that is shorter than the patterns. -/
theorem Pattern.Uniform.width_le_of_scan {patterns : List Pattern} {width : Nat}
    (h : Uniform patterns width) {passed text : List Char} {hit : Hit}
    (hscan : scan patterns passed text = some hit) : width ≤ text.length := by
  obtain ⟨skipped, rest, n, rfl, hfirst, -⟩ := scan_eq_some hscan
  have hrest := h.width_le hfirst
  rw [List.length_append]
  omega

/-- What begins further left would end further left, so it would have been found before. -/
theorem scan_append_of_some {patterns : List Pattern} {width : Nat}
    (h : Pattern.Uniform patterns width) (hpos : 0 < width) {passed text : List Char} {hit : Hit}
    (hscan : scan patterns passed text = some hit) (more : List Char) :
    scan patterns passed (text ++ more) = some { hit with rest := hit.rest ++ more } := by
  induction text generalizing passed with
  | nil =>
    have hnil := h.width_le_of_scan hscan
    rw [List.length_nil] at hnil
    omega
  | cons c rest ih =>
    have hwidth := h.width_le_of_scan hscan
    -- where something was found there was room for every pattern
    have hwithin : Pattern.Within patterns (c :: rest) more := fun pattern hpattern form hform _ =>
      Nat.le_trans (Nat.le_of_eq (h pattern hpattern form hform)) hwidth
    have hfirst := Pattern.firstAt?_append hwithin 0
    rw [List.cons_append] at hfirst ⊢
    rw [scan] at hscan ⊢
    rw [hfirst]
    cases hfound : Pattern.firstAt? 0 patterns (c :: rest) with
    | none =>
      rw [hfound] at hscan
      exact ih hscan
    | some found =>
      obtain ⟨index, n⟩ := found
      rw [hfound] at hscan
      obtain rfl := Option.some.inj hscan
      have hn : n ≤ (c :: rest).length := Pattern.firstAt?_le hfound
      dsimp only
      rw [← List.cons_append, List.take_append_of_le_length hn, List.drop_append_of_le_length hn]

/-- A hit stays the same when the text ends with it. -/
theorem scan_cut {patterns : List Pattern} {width : Nat} (h : Pattern.Uniform patterns width)
    (hpos : 0 < width) {text : List Char} {hit : Hit}
    (hscan : scan patterns [] text = some hit) :
    scan patterns [] (hit.before ++ hit.matched) = some { hit with rest := [] } := by
  have htext := text_of_scan hscan
  rw [List.reverse_nil, List.nil_append, ← List.append_assoc] at htext
  cases hcut : scan patterns [] (hit.before ++ hit.matched) with
  | some found =>
    -- what is found in the first part is found in the whole text, so it is the hit
    have hwhole := scan_append_of_some h hpos hcut hit.rest
    rw [htext, hscan, Option.some.injEq] at hwhole
    have hrest : hit.rest = found.rest ++ hit.rest := congrArg Hit.rest hwhole
    have hnil : found.rest = [] := List.self_eq_append_left.mp hrest
    have hfound : found = { found with rest := [] } := by rw [← hnil]
    rw [hwhole, ← hfound]
  | none =>
    obtain ⟨skipped, rest, n, -, hfirst, -, hbefore, hmatched, -⟩ := scan_eq_some hscan
    have hn : n = width := h.length_eq hfirst
    have hlong : width ≤ rest.length := h.width_le hfirst
    have hlength : hit.matched.length = width := by
      rw [hmatched, List.length_take]
      omega
    -- the hit stands in the first part too, as it does not reach out of it
    have hwithin : Pattern.Within patterns hit.matched (rest.drop n) :=
      fun pattern hpattern form hform _ =>
        Nat.le_of_eq ((h pattern hpattern form hform).trans hlength.symm)
    have hsame := Pattern.firstAt?_append hwithin 0
    rw [hmatched, List.take_append_drop, hfirst] at hsame
    have hnone := scan_eq_none_iff.mp hcut hit.before.length (by simp)
    rw [List.drop_left, hmatched, ← hsame] at hnone
    cases hnone

end PubSubTrials.Output
