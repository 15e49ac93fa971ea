import PubSubTrials.Proofs.Openings

/-!
# Telling two publishers apart

The multi-source check counts a sample for the second publisher if that one has reported it, and
for the first publisher otherwise. What it finds out is whether the source of the samples changes
at least twice (`fromBoth_iff`). As only so many samples are reported, a sample that the second
publisher prints later counts for the first one, and then a change may be seen where the publishers
do not change; `duet_outcome` says what the outcome is, and when it is the one that the publishers
themselves would suggest.
-/

namespace PubSubTrials

open Output Lifecycle

namespace Reception

/-! ## Changes of the source -/

/-- At how many places of a list the next element is another one. -/
def changes {α : Type} [DecidableEq α] (xs : List α) : Nat :=
  (xs.zip xs.tail).countP (fun pair => pair.1 ≠ pair.2)

section Changes

variable {α : Type} [DecidableEq α]

theorem changes_cons_self (a : α) (rest : List α) :
    changes (a :: a :: rest) = changes (a :: rest) := by
  simp [changes]

theorem changes_cons_of_ne {a b : α} (h : a ≠ b) (rest : List α) :
    changes (a :: b :: rest) = changes (b :: rest) + 1 := by
  simp [changes, h]

/-- Changes do not depend on what the labels are called. -/
theorem changes_map {β : Type} [DecidableEq β] {f : α → β} (hf : Function.Injective f)
    (xs : List α) : changes (xs.map f) = changes xs := by
  rw [changes, ← List.map_tail, List.zip_map, List.countP_map, changes]
  refine List.countP_congr fun pair _ => ?_
  simp [hf.eq_iff]

end Changes

namespace Sources

/-- Whether the second source was seen, or the first. -/
def seenFrom (sources : Sources) : Bool → Bool
  | true => sources.secondSeen
  | false => sources.firstSeen

/-- Whether the second source was seen after the first, or the first after the second. -/
def receivedFrom (sources : Sources) : Bool → Bool
  | true => sources.secondReceived
  | false => sources.firstReceived

/-- Both sources have been received from when either one and the other have, in whichever order. -/
theorem both_eq (sources : Sources) (source : Bool) :
    sources.both = (sources.receivedFrom source && sources.receivedFrom !source) := by
  cases source
  · rfl
  · exact Bool.and_comm ..

/-- A sample counts for its own source only. -/
theorem see_cases {sources : Sources} {sample : Sample} {source : Bool}
    (h : sources.second.contains sample = source) :
    (sources.see sample).second = sources.second ∧
      (sources.see sample).seenFrom source = true ∧
      (sources.see sample).seenFrom (!source) = sources.seenFrom (!source) ∧
      (sources.see sample).receivedFrom source =
        (sources.receivedFrom source || sources.seenFrom !source) ∧
      (sources.see sample).receivedFrom (!source) = sources.receivedFrom (!source) := by
  cases source with
  | true =>
    rw [see, if_pos h]
    exact ⟨rfl, rfl, rfl, rfl, rfl⟩
  | false =>
    rw [see, if_neg (by rw [h]; exact Bool.false_ne_true)]
    exact ⟨rfl, rfl, rfl, rfl, rfl⟩

/-- The last sample came from `source`, and the source has changed once, if it has changed at all:
then only the last source was seen after the other one. -/
structure Settled (sources : Sources) (source : Bool) : Prop where
  seen : sources.seenFrom source = true
  received : sources.receivedFrom source = sources.seenFrom !source
  other : (sources.receivedFrom !source) = false

/-- A further sample of the last source changes nothing for the other one. -/
theorem Settled.see_same {sources : Sources} {source : Bool} (h : sources.Settled source)
    {sample : Sample} (hsample : sources.second.contains sample = source) :
    (sources.see sample).Settled source ∧
      (sources.see sample).seenFrom (!source) = sources.seenFrom (!source) := by
  obtain ⟨-, hseen, hunseen, hreceived, hother⟩ := see_cases hsample
  refine ⟨⟨hseen, ?_, ?_⟩, hunseen⟩
  · rw [hreceived, hunseen, h.received, Bool.or_self]
  · rw [hother, h.other]

/-- The first change: now the new source is the one that was seen after the other. -/
theorem Settled.see_other {sources : Sources} {source : Bool} (h : sources.Settled source)
    (hunseen : (sources.seenFrom !source) = false) {sample : Sample}
    (hsample : sources.second.contains sample = !source) :
    (sources.see sample).Settled (!source) ∧ (sources.see sample).seenFrom source = true := by
  obtain ⟨-, hseen, hsame, hreceived, hother⟩ := see_cases hsample
  rw [Bool.not_not] at hsame hreceived hother
  refine ⟨⟨hseen, ?_, ?_⟩, hsame.trans h.seen⟩
  · rw [Bool.not_not, hreceived, hsame, h.other, Bool.false_or]
  · rw [Bool.not_not, hother, h.received, hunseen]

/-- The second change tells that there are two sources. -/
theorem Settled.both_see {sources : Sources} {source : Bool} (h : sources.Settled source)
    (hseen : (sources.seenFrom !source) = true) {sample : Sample}
    (hsample : sources.second.contains sample = !source) : (sources.see sample).both = true := by
  obtain ⟨-, -, -, hreceived, hother⟩ := see_cases hsample
  rw [Bool.not_not] at hreceived hother
  rw [both_eq _ !source, Bool.not_not, hreceived, hother, h.seen, h.received, hseen, Bool.or_true,
    Bool.and_self]

/-- From then on one more change is needed, or two. -/
theorem Settled.both_foldl_iff {sources : Sources} {source : Bool} (h : sources.Settled source)
    (samples : List Sample) :
    ((samples.map some).foldl account sources).both = true ↔
      2 ≤ changes (source :: samples.map sources.second.contains) +
        if sources.seenFrom !source then 1 else 0 := by
  -- induction on the samples, with the source of the last one settled
  induction samples generalizing sources source with
  | nil =>
    refine iff_of_false ?_ ?_
    · rw [List.map_nil, List.foldl_nil, both_eq _ source, h.other, Bool.and_false]
      exact Bool.false_ne_true
    · rw [List.map_nil, changes]
      split <;> simp
  | cons sample rest ih =>
    have hsecond : (sources.see sample).second = sources.second := (see_cases rfl).1
    rw [List.map_cons, List.map_cons, List.foldl_cons, account]
    by_cases hsample : sources.second.contains sample = source
    · obtain ⟨hsettled, hunseen⟩ := h.see_same hsample
      rw [ih hsettled, hunseen, hsample, hsecond, changes_cons_self]
    · have hother : sources.second.contains sample = !source := Bool.eq_not.mpr hsample
      have hne : source ≠ !source := fun heq => hsample (hother.trans heq.symm)
      rw [hother, changes_cons_of_ne hne]
      -- the source has changed: for the second time if the other one was seen before, else for the
      -- first
      cases hunseen : sources.seenFrom !source with
      | true =>
        refine iff_of_true (both_foldl_account (h.both_see hunseen hother) _) ?_
        rw [if_pos rfl]
        omega
      | false =>
        obtain ⟨hsettled, hseen⟩ := h.see_other hunseen hother
        rw [ih hsettled, Bool.not_not, hseen, hsecond]
        simp

end Sources

/-- The check finds two sources just if the source changes at least twice. -/
theorem fromBoth_iff (second samples : List Sample) :
    fromBoth second (samples.map some) = true ↔ 2 ≤ changes (samples.map second.contains) := by
  cases samples with
  | nil => exact iff_of_false Bool.false_ne_true (by simp [changes])
  | cons sample rest =>
    let start : Sources := { Sources.unknown with second }
    have hseenFrom : ∀ source, start.seenFrom source = false := by
      intro source
      cases source <;> rfl
    have hreceivedFrom : ∀ source, start.receivedFrom source = false := by
      intro source
      cases source <;> rfl
    obtain ⟨hsecond, hseen, hunseen, hreceived, hother⟩ :=
      @Sources.see_cases start sample (second.contains sample) rfl
    rw [hseenFrom] at hunseen
    have hsettled : (start.see sample).Settled (second.contains sample) := by
      refine ⟨hseen, ?_, ?_⟩
      · rw [hreceived, hreceivedFrom, hseenFrom, hunseen, Bool.or_self]
      · rw [hother, hreceivedFrom]
    have hrest := hsettled.both_foldl_iff rest
    rw [hunseen, hsecond] at hrest
    exact hrest

end Reception

namespace Trial

open Reception

variable {case : Case} {seats : List Seat} {i : Nat} {seat first second subscriber : Seat}
  {samples firstSamples secondSamples : List Sample}

/-! ## Entities that show samples -/

/-- The entity of a seat gets to its data, and its windows show these samples. -/
def Seat.Shows (seat : Seat) (samples : List Sample) : Prop :=
  ∃ start, passage seat.text (approachOf seat.entity.role) 0 = .ok start ∧
    ∀ limit, received limit (seat.text.drop start) = (samples.map some).take limit

/-- Lines with one token and one data marker each, after the bare markers, show their samples. -/
theorem Seat.Prints.shows {lines : List String}
    (h : seat.Prints seat.entity.role lines)
    (hlines : (lines.map String.toList).map dataLine? = samples.map some) : seat.Shows samples := by
  obtain ⟨start, hpass, hdrop⟩ := passage_opening seat.entity.role lines
  refine ⟨start, ?_, fun limit => ?_⟩
  · rw [h.text, hpass]
  · rw [h.text, hdrop]
    exact received_joinLines hlines (.inr ⟨[], rfl⟩) rfl limit

theorem Seat.Shows.shownBy_eq (h : seat.Shows samples) (limit : Nat) :
    shownBy seat.entity.role limit seat.text = (samples.take limit).map some := by
  obtain ⟨start, hpass, hreceived⟩ := h
  rw [shownBy, hpass, List.map_take]
  exact hreceived limit

/-- Of the samples that a publisher shows, only the first ones are reported. -/
theorem Seat.Shows.reported_eq (h : seat.Shows samples) (hrole : seat.entity.role = .publisher) :
    reported seat.text = samples.take SampleQueue.maxRecorded := by
  rw [reported, ← hrole, h.shownBy_eq, List.reduceOption, List.filterMap_map]
  exact List.filterMap_some

theorem Seat.Shows.data (h : seat.Shows samples) (hne : samples ≠ []) :
    ∃ start, passage seat.text (approachOf seat.entity.role) 0 = .ok start ∧
      (scan [.marker .data] [] (seat.text.drop start)).isSome = true := by
  obtain ⟨start, hpass, hreceived⟩ := h
  refine ⟨start, hpass, ?_⟩
  cases hscan : scan [.marker .data] [] (seat.text.drop start) with
  | some hit => rfl
  | none =>
    obtain ⟨sample, rest, rfl⟩ := List.exists_cons_of_ne_nil hne
    have hone := hreceived 1
    rw [received_of_none hscan] at hone
    cases hone

/-! ## Two publishers and a subscriber -/

/-- A case that tells its sources apart: its first two publishers show samples that have none in
common, and its only subscriber shows samples that each come from one of them. -/
structure Duet (case : Case) (seats : List Seat) (i : Nat) (first second subscriber : Seat)
    (firstSamples secondSamples samples : List Sample) : Prop where
  seated : Seated case seats
  valid : case.validate = .ok ()
  check : case.check = .multiSourceCheck
  calm : ∀ seat ∈ seats, seat.IsCalm
  oneSubscriber : case.count .subscriber = 1
  firstAt : (seats.filter (Seat.isOf .publisher))[0]? = some first
  firstReports : first.entity.reportsSamples = true
  firstShows : first.Shows firstSamples
  secondAt : (seats.filter (Seat.isOf .publisher))[1]? = some second
  secondReports : second.entity.reportsSamples = true
  secondShows : second.Shows secondSamples
  disjoint : ∀ sample ∈ firstSamples, sample ∉ secondSamples
  subscriberAt : seats[i]? = some subscriber
  isSubscriber : subscriber.entity.role = .subscriber
  subscriberShows : subscriber.Shows samples
  heard : samples ≠ []
  sourced : ∀ sample ∈ samples, sample ∈ firstSamples ∨ sample ∈ secondSamples

/-- Which of several samples count for the second publisher: those that it has reported. -/
def countedForSecond (secondSamples samples : List Sample) : List Bool :=
  (samples.take sourceWindows).map (secondSamples.take SampleQueue.maxRecorded).contains

/-- Which of several samples the first publisher has shown. -/
def shownByFirst (firstSamples samples : List Sample) : List Bool :=
  (samples.take sourceWindows).map firstSamples.contains

/-- The outcome when the source of the samples has changed a number of times. -/
def sourcesOutcome (count : Nat) : Outcome :=
  if 2 ≤ count then .receivingFromBoth else .receivingFromOne

/-- The queue of the second publisher holds what it has reported. -/
theorem Duet.queuedBy_one
    (h : Duet case seats i first second subscriber firstSamples secondSamples samples) :
    queuedBy 1 (filledQueues .standard case.check seats) =
      secondSamples.take SampleQueue.maxRecorded := by
  obtain ⟨hmem, hrole⟩ := List.mem_filter.mp (List.mem_of_getElem? h.secondAt)
  rw [queuedBy_filledQueues h.secondAt (h.calm second hmem) h.secondReports,
    h.secondShows.reported_eq (eq_of_beq hrole)]
  exact List.take_of_length_le (List.length_take_le ..)

/-- Only the reports of the second publisher decide what the subscriber concludes. -/
theorem Duet.outcome_eq
    (h : Duet case seats i first second subscriber firstSamples secondSamples samples)
    {result : CaseResult} (hreports : Reports .standard case seats result) :
    result.outcomes[i]? =
      some (sourcesOutcome (changes (countedForSecond secondSamples samples))) := by
  obtain ⟨start, hpass, hdata⟩ := h.subscriberShows.data h.heard
  have hshown := h.subscriberShows.shownBy_eq sourceWindows
  rw [h.isSubscriber] at hpass hshown
  rw [outcome_of_sole h.seated h.valid h.oneSubscriber hreports h.subscriberAt
    (h.calm subscriber (List.mem_of_getElem? h.subscriberAt)) h.isSubscriber,
    subscriberOutcome_of_data hpass hdata, h.check, verdict, ← h.check, h.queuedBy_one, h.check,
    reach, hshown]
  simp only [fromBoth_iff]
  rfl

/-- Where the reports suffice, a sample counts for the publisher that has shown it. -/
theorem Duet.changes_eq
    (h : Duet case seats i first second subscriber firstSamples secondSamples samples)
    (hreported : ∀ sample ∈ samples.take sourceWindows, sample ∈ secondSamples →
      sample ∈ secondSamples.take SampleQueue.maxRecorded) :
    changes (countedForSecond secondSamples samples) =
      changes (shownByFirst firstSamples samples) := by
  have hnot : shownByFirst firstSamples samples =
      (countedForSecond secondSamples samples).map not := by
    rw [shownByFirst, countedForSecond, List.map_map]
    refine List.map_congr_left fun sample hsample => ?_
    have hfirst : sample ∈ firstSamples ↔
        sample ∉ secondSamples.take SampleQueue.maxRecorded := by
      constructor
      · intro hmem hlisted
        exact h.disjoint sample hmem (List.mem_of_mem_take hlisted)
      · intro hlisted
        refine (h.sourced sample (List.mem_of_mem_take hsample)).resolve_right fun hmem => ?_
        exact hlisted (hreported sample hsample hmem)
    simp [hfirst]
  rw [hnot, changes_map fun _ _ => Bool.not_inj]

/-- A subscriber of two publishers receives from both just if the publisher that its samples count
for changes at least twice. That is the publisher that has shown the sample, as long as the second
one has reported all of its samples that the subscriber shows. -/
theorem duet_outcome
    (h : Duet case seats i first second subscriber firstSamples secondSamples samples) :
    ∃ result, (play .standard case seats).2 = .ok result ∧
      result.outcomes[i]? =
        some (sourcesOutcome (changes (countedForSecond secondSamples samples))) ∧
      ((∀ sample ∈ samples.take sourceWindows, sample ∈ secondSamples →
          sample ∈ secondSamples.take SampleQueue.maxRecorded) →
        result.outcomes[i]? =
          some (sourcesOutcome (changes (shownByFirst firstSamples samples)))) := by
  obtain ⟨result, hplay, hreports⟩ := play_of_calm .standard h.seated h.calm
  refine ⟨result, hplay, h.outcome_eq hreports, fun hreported => ?_⟩
  rw [h.outcome_eq hreports, h.changes_eq hreported]

/-! ## A trio -/

/-- Two publishers, and a subscriber that is to receive from one of them. -/
def trio : Case :=
  ⟨"trio", none, [⟨.publisher, "-t Square -c BLUE -w", .ok⟩,
    ⟨.publisher, "-t Square -c RED -w", .ok⟩, ⟨.subscriber, "-t Square", .receivingFromOne⟩],
    .multiSourceCheck, none⟩

/-- A line that shows a sample. -/
def lineOf (sample : Sample) : String :=
  sample.token ++ " [20]"

/-- What an entity of a role gives that shows samples. -/
def showing (role : Role) (samples : List Sample) : Except LaunchError Performance :=
  .ok ⟨opening role ++ samples.map lineOf, false, none⟩

/-- The stage on which each entity of the trio shows samples of its own. -/
def trioStage (firstSamples secondSamples samples : List Sample) : Stage := fun role parameters =>
  match role with
  | .publisher =>
    showing role (if parameters = "-t Square -c BLUE -w" then firstSamples else secondSamples)
  | .subscriber => showing role samples

/-- The seats of the trio. -/
def trioSeats (firstSamples secondSamples samples : List Sample) : List Seat :=
  Trial.seats (trioStage firstSamples secondSamples samples) trio

/-- An application that prints a line for each sample shows them. -/
theorem shows_of_showing {samples : List Sample}
    (hlines : ∀ sample ∈ samples, dataLine? (lineOf sample).toList = some sample)
    (label : String) (entity : Entity) :
    Seat.Shows ⟨label, entity, showing entity.role samples⟩ samples := by
  refine Seat.Prints.shows ⟨_, rfl, rfl⟩ ?_
  rw [List.map_map, List.map_map]
  exact List.map_congr_left hlines

/-- Two publishers and a subscriber that print disjoint samples make a duet. -/
theorem duet_trio {firstSamples secondSamples samples : List Sample}
    (hlines : ∀ sample ∈ firstSamples ++ (secondSamples ++ samples),
      dataLine? (lineOf sample).toList = some sample)
    (hdisjoint : ∀ sample ∈ firstSamples, sample ∉ secondSamples) (hheard : samples ≠ [])
    (hsourced : ∀ sample ∈ samples, sample ∈ firstSamples ∨ sample ∈ secondSamples) :
    Duet trio (trioSeats firstSamples secondSamples samples) 2
      ⟨"P0", ⟨.publisher, "-t Square -c BLUE -w", .ok⟩, showing .publisher firstSamples⟩
      ⟨"P1", ⟨.publisher, "-t Square -c RED -w", .ok⟩, showing .publisher secondSamples⟩
      ⟨"S0", ⟨.subscriber, "-t Square", .receivingFromOne⟩, showing .subscriber samples⟩
      firstSamples secondSamples samples where
  seated := seated_seats _ _
  valid := rfl
  check := rfl
  calm := by
    refine calm_seats (fun role parameters performance hperformance => ?_) trio
    cases role <;> cases hperformance <;> rfl
  oneSubscriber := rfl
  firstAt := rfl
  firstReports :=
    show Entity.reportsSamples ⟨.publisher, "-t Square -c BLUE -w", .ok⟩ = true by decide
  firstShows := shows_of_showing (fun sample hsample => hlines sample (by simp [hsample])) _ _
  secondAt := rfl
  secondReports :=
    show Entity.reportsSamples ⟨.publisher, "-t Square -c RED -w", .ok⟩ = true by decide
  secondShows := shows_of_showing (fun sample hsample => hlines sample (by simp [hsample])) _ _
  disjoint := hdisjoint
  subscriberAt := rfl
  isSubscriber := rfl
  subscriberShows := shows_of_showing (fun sample hsample => hlines sample (by simp [hsample])) _ _
  heard := hheard
  sourced := hsourced

/-- A subscriber that receives from the first publisher, the second and the first again. -/
theorem duet_outcome_return :
    ∃ result, (play .standard trio (trioSeats [⟨"001 001"⟩, ⟨"002 001"⟩] [⟨"001 002"⟩]
        [⟨"001 001"⟩, ⟨"001 002"⟩, ⟨"002 001"⟩])).2 = .ok result ∧
      result.outcomes[2]? = some .receivingFromBoth := by
  have hduet := @duet_trio [⟨"001 001"⟩, ⟨"002 001"⟩] [⟨"001 002"⟩]
    [⟨"001 001"⟩, ⟨"001 002"⟩, ⟨"002 001"⟩] (by decide +kernel) (by decide) (by decide) (by decide)
  obtain ⟨result, hplay, -, hshown⟩ := duet_outcome hduet
  refine ⟨result, hplay, (hshown (by decide)).trans ?_⟩
  decide

/-- The sample of this number of the second publisher. -/
def numbered (n : Nat) : Sample :=
  ⟨String.ofList [Nat.digitChar (n / 100), Nat.digitChar (n / 10 % 10), Nat.digitChar (n % 10),
    ' ', '0', '0', '2']⟩

theorem dataLine?_numbered {n : Nat} (h : n < 1000) :
    dataLine? (lineOf (numbered n)).toList = some (numbered n) := by
  have hdigit : ∀ k < 10, Sample.isDigit (Nat.digitChar k) = true := by decide
  rw [lineOf, numbered, String.toList_append, String.toList_ofList]
  refine dataLine?_token fun digit hmem => ?_
  simp only [List.mem_cons, List.not_mem_nil, or_false] at hmem
  rcases hmem with rfl | rfl | rfl | rfl | rfl | rfl
  · exact hdigit _ (by omega)
  · exact hdigit _ (by omega)
  · exact hdigit _ (by omega)
  all_goals decide

/-- One sample more than is recorded. -/
def numberedSamples : List Sample :=
  (List.range (SampleQueue.maxRecorded + 1)).map numbered

/-- The subscriber goes over from the first publisher to the second only once. As the last sample of
the second one was not recorded, it looks as if the subscriber had gone back. -/
theorem handover_counted_twice :
    Duet trio (trioSeats [⟨"001 001"⟩] numberedSamples [⟨"001 001"⟩, numbered 99, numbered 100]) 2
        ⟨"P0", ⟨.publisher, "-t Square -c BLUE -w", .ok⟩, showing .publisher [⟨"001 001"⟩]⟩
        ⟨"P1", ⟨.publisher, "-t Square -c RED -w", .ok⟩, showing .publisher numberedSamples⟩
        ⟨"S0", ⟨.subscriber, "-t Square", .receivingFromOne⟩,
          showing .subscriber [⟨"001 001"⟩, numbered 99, numbered 100]⟩
        [⟨"001 001"⟩] numberedSamples [⟨"001 001"⟩, numbered 99, numbered 100] ∧
      changes (shownByFirst [⟨"001 001"⟩] [⟨"001 001"⟩, numbered 99, numbered 100]) = 1 ∧
      ∃ result, (play .standard trio (trioSeats [⟨"001 001"⟩] numberedSamples
          [⟨"001 001"⟩, numbered 99, numbered 100])).2 = .ok result ∧
        result.outcomes[2]? = some .receivingFromBoth := by
  have hfirst : dataLine? (lineOf ⟨"001 001"⟩).toList = some ⟨"001 001"⟩ := by decide +kernel
  -- the samples numbered 99 and 100 are the second publisher's, and the latter is beyond its limit
  have hlines : ∀ sample ∈ [⟨"001 001"⟩] ++ (numberedSamples ++ [⟨"001 001"⟩, numbered 99,
      numbered 100]), dataLine? (lineOf sample).toList = some sample := by
    intro sample hsample
    simp only [List.mem_append, List.mem_cons, List.not_mem_nil, or_false, numberedSamples,
      List.mem_map, List.mem_range] at hsample
    rcases hsample with rfl | ⟨n, hn, rfl⟩ | rfl | rfl | rfl
    · exact hfirst
    · exact dataLine?_numbered (Nat.lt_of_lt_of_le hn (by decide))
    · exact hfirst
    · exact dataLine?_numbered (by decide)
    · exact dataLine?_numbered (by decide)
  have hduet := duet_trio hlines (by decide +kernel) (by decide) (by decide +kernel)
  refine ⟨hduet, by decide +kernel, ?_⟩
  obtain ⟨result, hplay, hreports⟩ := play_of_calm .standard hduet.seated hduet.calm
  refine ⟨result, hplay, (hduet.outcome_eq hreports).trans ?_⟩
  decide +kernel

end Trial

end PubSubTrials
