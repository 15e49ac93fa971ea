import Mathlib.Data.List.ProdSigma
import PubSubTrials.Command.Matrix
import PubSubTrials.Proofs.Paths
import PubSubTrials.Proofs.Series

/-!
# Names of implementations and of directories

Implementations that are accepted together have different names (`nodup_of_validate`), and each of
them is paired with each (`map_names_pairings`). The directory of a pairing is named after both,
with two hyphens between them: it is one step below the directory for all reports if neither name
holds a slash (`isName_directory`), and shows where the first name ends if that neither holds two
hyphens in a row nor ends in one (`IsSingleHyphened.eq_of_append`).
-/

namespace PubSubTrials

/-! ## Implementations and their pairings -/

/-- Implementations that are accepted together have different names, none of them taken before. -/
theorem Implementation.nodup_of_parseAllFrom {taken texts : List String}
    {implementations : List Implementation}
    (h : parseAllFrom taken texts = .ok implementations) :
    (implementations.map Implementation.name).Nodup ∧
      ∀ name ∈ implementations.map Implementation.name, name ∉ taken := by
  induction texts generalizing taken implementations with
  | nil =>
    obtain rfl := Except.ok.inj h
    exact ⟨List.nodup_nil, fun _ hname => by cases hname⟩
  | cons text rest ih =>
    rw [parseAllFrom] at h
    cases hparse : parse text with
    | error error => rw [hparse] at h; cases h
    | ok implementation =>
      rw [hparse] at h
      dsimp only at h
      split at h
      · cases h
      · next hnew =>
        obtain ⟨others, hothers, rfl⟩ := eq_ok_of_map_eq_ok h
        -- to the others the name of this one is taken
        obtain ⟨hnodup, huntaken⟩ := ih hothers
        rw [List.map_cons]
        refine ⟨List.nodup_cons.mpr ⟨fun hmem => huntaken _ hmem List.mem_cons_self, hnodup⟩, ?_⟩
        intro name hname htaken
        rcases List.mem_cons.mp hname with rfl | hname
        · exact hnew (List.contains_iff_mem.mpr htaken)
        · exact huntaken name hname (List.mem_cons_of_mem _ htaken)

/-- A matrix that is accepted has implementations of different names. -/
theorem MatrixRequest.nodup_of_validate {request : MatrixRequest}
    {implementations : List Implementation} (h : request.validate = .ok implementations) :
    (implementations.map Implementation.name).Nodup := by
  rw [validate] at h
  split at h
  · cases h
  · exact (Implementation.nodup_of_parseAllFrom h).1

/-- Who publishes and who subscribes, by name. -/
def Pairing.names (pairing : Pairing) : String × String :=
  (pairing.publisher.name, pairing.subscriber.name)

/-- Every implementation is paired with every one. -/
theorem Matrix.map_names_pairings (implementations : List Implementation) :
    (pairings implementations).map Pairing.names =
      implementations.map Implementation.name ×ˢ implementations.map Implementation.name := by
  rw [pairings, List.map_flatMap]
  show _ = (implementations.map Implementation.name).flatMap _
  rw [List.flatMap_map]
  simp only [List.map_map]
  rfl

/-! ## Directories -/

/-- Whether a text neither holds two hyphens in a row nor ends in one. -/
structure IsSingleHyphened (text : List Char) : Prop where
  noGap : ¬ ['-', '-'] <:+: text
  noHyphenLast : text.getLast? ≠ some '-'

theorem IsSingleHyphened.of_cons {c : Char} {text : List Char} (h : IsSingleHyphened (c :: text)) :
    IsSingleHyphened text where
  noGap hgap := h.noGap (hgap.trans (List.suffix_cons c text).isInfix)
  noHyphenLast hlast := h.noHyphenLast (by rw [List.getLast?_cons, hlast, Option.getD_some])

theorem IsSingleHyphened.ne_hyphens {c : Char} {text : List Char}
    (h : IsSingleHyphened (c :: text)) (front back : List Char) :
    '-' :: '-' :: front ≠ c :: text ++ '-' :: '-' :: back := by
  intro heq
  obtain ⟨rfl, htail⟩ := List.cons.inj heq
  cases text with
  | nil => exact h.noHyphenLast rfl
  | cons d text =>
    obtain ⟨rfl, -⟩ := List.cons.inj htail
    exact h.noGap ⟨[], text, rfl⟩

/-- Two hyphens show where such a text ends. -/
theorem IsSingleHyphened.eq_of_append {first second front back : List Char}
    (hfirst : IsSingleHyphened first) (hsecond : IsSingleHyphened second)
    (h : first ++ '-' :: '-' :: front = second ++ '-' :: '-' :: back) :
    first = second ∧ front = back := by
  induction first generalizing second with
  | nil =>
    cases second with
    | nil => exact ⟨rfl, (List.cons.inj (List.cons.inj h).2).2⟩
    | cons d second => exact absurd h (hsecond.ne_hyphens _ _)
  | cons c first ih =>
    cases second with
    | nil => exact absurd h.symm (hfirst.ne_hyphens _ _)
    | cons d second =>
      obtain ⟨rfl, htail⟩ := List.cons.inj h
      obtain ⟨rfl, hback⟩ := ih hfirst.of_cons hsecond.of_cons htail
      exact ⟨rfl, hback⟩

/-- Whether a name neither holds a slash or two hyphens in a row, nor ends in a hyphen. -/
structure IsPlainName (name : String) : Prop where
  noSlash : '/' ∉ name.toList
  singleHyphened : IsSingleHyphened name.toList

/-- The directory named after two plain names is one step. -/
theorem isName_directory {publisher subscriber : String} (hpublisher : IsPlainName publisher)
    (hsubscriber : IsPlainName subscriber) :
    Path.IsName ⟨publisher ++ "--" ++ subscriber⟩ := by
  have htext : (publisher ++ "--" ++ subscriber).toList =
      publisher.toList ++ '-' :: '-' :: subscriber.toList := by
    rw [String.toList_append, String.toList_append, List.append_assoc]
    rfl
  have hhyphen : '-' ∈ (publisher ++ "--" ++ subscriber).toList := by
    rw [htext]
    exact List.mem_append_right _ List.mem_cons_self
  -- a text with a hyphen is not empty, and it is neither one dot nor two
  have hne : ∀ text : String, '-' ∉ text.toList → publisher ++ "--" ++ subscriber ≠ text :=
    fun text htext heq => htext (heq ▸ hhyphen)
  refine ⟨?_, hne _ (by decide), hne _ (by decide), hne _ (by decide)⟩
  rw [htext]
  simp [hpublisher.noSlash, hsubscriber.noSlash]

end PubSubTrials
