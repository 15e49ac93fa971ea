import PubSubTrials.Proofs.Openings

/-!
# A subscriber that shows what its publisher shows

With the ordering check a subscriber is compared with what its publisher has reported. A window
without a sample is not reported, but it is compared. So even if both entities print the same lines
after their opening ones, the check can fail; `echo_outcomes` says when it does not.
-/

namespace PubSubTrials

open Output Lifecycle

namespace Reception

/-! ## Gaps -/

/-- Among the first `count` windows, each one that shows nothing is followed only by windows that
show nothing. -/
def Gapless (count : Nat) (seen : List (Option Sample)) : Prop :=
  ∀ earlier later, seen = earlier ++ none :: later → earlier.length < count →
    later.reduceOption = []

/-- A sample that is seen uses up one of those counted. -/
theorem gapless_cons_some (count : Nat) (sample : Sample) (seen : List (Option Sample)) :
    Gapless (count + 1) (some sample :: seen) ↔ Gapless count seen := by
  constructor
  · intro h earlier later hseen hlength
    exact h (some sample :: earlier) later (by rw [hseen, List.cons_append])
      (Nat.succ_lt_succ hlength)
  · intro h earlier later hseen hlength
    cases earlier with
    | nil => cases hseen
    | cons first earlier =>
      rw [List.cons_append, List.cons.injEq] at hseen
      exact h earlier later hseen.2 (Nat.lt_of_succ_lt_succ hlength)

/-- A window without a sample is a gap, behind which no sample may follow. -/
theorem gapless_cons_none (count : Nat) (seen : List (Option Sample)) :
    Gapless (count + 1) (none :: seen) ↔ seen.reduceOption = [] := by
  constructor
  · intro h
    exact h [] seen rfl (Nat.succ_pos count)
  · intro h earlier later hseen _
    cases earlier with
    | nil =>
      rw [List.nil_append, List.cons.injEq] at hseen
      rw [← hseen.2, h]
    | cons first earlier =>
      rw [List.cons_append, List.cons.injEq] at hseen
      rw [hseen.2, List.reduceOption_append, List.append_eq_nil_iff] at h
      exact h.2

/-- Samples are in the order of those reported from the same windows just if there is no gap among
the windows that are compared. -/
theorem inOrder_take_iff (count : Nat) (seen : List (Option Sample)) :
    inOrder (seen.take count) seen.reduceOption = true ↔ Gapless count seen := by
  induction seen generalizing count with
  | nil =>
    refine iff_of_true (by rw [List.take_nil, inOrder_nil]) fun earlier later hseen => ?_
    simp at hseen
  | cons shown rest ih =>
    cases count with
    | zero =>
      refine iff_of_true (inOrder_nil _) fun earlier later _ hlength => ?_
      exact absurd hlength (Nat.not_lt_zero _)
    | succ count =>
      cases shown with
      | some sample =>
        rw [gapless_cons_some, ← ih, List.take_succ_cons, List.reduceOption_cons_of_some, inOrder,
          beq_self_eq_true, Bool.true_and]
      -- behind a gap the samples are one place late, so no further one agrees
      | none =>
        rw [gapless_cons_none, List.take_succ_cons, List.reduceOption_cons_of_none]
        cases hrest : rest.reduceOption with
        | nil => exact iff_of_true rfl rfl
        | cons sample others => exact iff_of_false (by simp [inOrder]) (List.cons_ne_nil _ _)

instance (count : Nat) (seen : List (Option Sample)) : Decidable (Gapless count seen) :=
  decidable_of_iff _ (inOrder_take_iff count seen)

end Reception

namespace Trial

open Reception

/-! ## Both entities print the same -/

/-- A case that checks the order, with one publisher that prints its samples and one subscriber.
Both print the same lines once they have got to their data, of which there is some. -/
structure Echo (case : Case) (seats : List Seat) (i j : Nat) (publisher subscriber : Seat)
    (lines : List String) : Prop where
  seated : Seated case seats
  valid : case.validate = .ok ()
  check : case.check = .orderingCheck
  calm : ∀ seat ∈ seats, seat.IsCalm
  onePublisher : case.count .publisher = 1
  oneSubscriber : case.count .subscriber = 1
  publisherAt : seats[i]? = some publisher
  isPublisher : publisher.entity.role = .publisher
  reportsSamples : publisher.entity.reportsSamples = true
  publisherPrints : publisher.Prints .publisher lines
  subscriberAt : seats[j]? = some subscriber
  isSubscriber : subscriber.entity.role = .subscriber
  subscriberPrints : subscriber.Prints .subscriber lines
  data : (scan [.marker .data] [] (joinLines (lines.map String.toList))).isSome = true

variable {case : Case} {seats : List Seat} {i j : Nat} {publisher subscriber : Seat}
  {lines : List String}

/-- The samples that the lines of both entities show, in as many windows as are recorded. -/
def echoed (lines : List String) : List (Option Sample) :=
  received SampleQueue.maxRecorded (joinLines (lines.map String.toList))

/-- What an entity shows of a printout are the samples echoed in it. -/
theorem shownBy_of_prints {seat : Seat} {role : Role} (hprints : seat.Prints role lines)
    {limit : Nat} (hlimit : limit ≤ SampleQueue.maxRecorded) :
    shownBy role limit seat.text = (echoed lines).take limit := by
  rw [hprints.text, shownBy_opening, received_lineFeed, echoed, received_eq_take hlimit]

/-- What is in the queue of the publisher: all that its windows show. -/
theorem Echo.queuedBy_zero (h : Echo case seats i j publisher subscriber lines) :
    queuedBy 0 (filledQueues .standard case.check seats) = (echoed lines).reduceOption := by
  have hmem : publisher ∈ seats.filter (Seat.isOf .publisher) := by
    refine List.mem_filter.mpr ⟨List.mem_of_getElem? h.publisherAt, ?_⟩
    rw [Seat.isOf, h.isPublisher]
    rfl
  have hcount := h.onePublisher
  rw [count_eq_countP h.seated, List.countP_eq_length_filter] at hcount
  obtain ⟨other, hother⟩ := List.length_eq_one_iff.mp hcount
  obtain rfl : publisher = other := by rwa [hother, List.mem_singleton] at hmem
  have hfirst : (seats.filter (Seat.isOf .publisher))[0]? = some publisher := by rw [hother]; rfl
  have hcalm := h.calm publisher (List.mem_of_getElem? h.publisherAt)
  have hlength : (echoed lines).reduceOption.length ≤ SampleQueue.maxRecorded :=
    Nat.le_trans (List.reduceOption_length_le _) (length_received_le _ _)
  have hwhole : (echoed lines).take SampleQueue.maxRecorded = echoed lines :=
    List.take_of_length_le (length_received_le _ _)
  rw [queuedBy_filledQueues hfirst hcalm h.reportsSamples, reported,
    shownBy_of_prints h.publisherPrints (Nat.le_refl _), hwhole]
  exact List.take_of_length_le hlength

/-- An entity that prints the bare markers of its stages and then data gets to its data stage. -/
theorem data_of_prints {seat : Seat} {role : Role} (hprints : seat.Prints role lines)
    (hdata : (scan [.marker .data] [] (joinLines (lines.map String.toList))).isSome = true) :
    ∃ start, passage seat.text (approachOf role) 0 = .ok start ∧
      (scan [.marker .data] [] (seat.text.drop start)).isSome = true := by
  obtain ⟨start, hpass, hdrop⟩ := passage_opening role lines
  refine ⟨start, ?_, ?_⟩
  · rw [hprints.text, hpass]
  · rw [hprints.text, hdrop, scan_lineFeed, Option.isSome_map, hdata]

/-- A subscriber that shows what its publisher shows passes the ordering check just if none of the
windows that are compared leaves a gap between samples. -/
theorem echo_outcomes (h : Echo case seats i j publisher subscriber lines) :
    ∃ result, (play .standard case seats).2 = .ok result ∧ result.outcomes[i]? = some .ok ∧
      result.outcomes[j]? =
        some (if Gapless orderedSamples (echoed lines) then .ok else .dataNotCorrect) := by
  obtain ⟨result, hplay, hreports⟩ := play_of_calm .standard h.seated h.calm
  have hcalm := fun {k : Nat} {seat : Seat} (hseat : seats[k]? = some seat) =>
    h.calm seat (List.mem_of_getElem? hseat)
  refine ⟨result, hplay, ?_, ?_⟩
  · obtain ⟨start, hpass, hdata⟩ := data_of_prints h.publisherPrints h.data
    rw [outcome_of_publisher h.seated hreports h.publisherAt (hcalm h.publisherAt) h.isPublisher
      h.reportsSamples, outcomeOf_of_data hpass hdata]
  · obtain ⟨start, hpass, hdata⟩ := data_of_prints h.subscriberPrints h.data
    rw [outcome_of_sole h.seated h.valid h.oneSubscriber hreports h.subscriberAt
      (hcalm h.subscriberAt) h.isSubscriber, subscriberOutcome_of_data hpass hdata, h.check,
      verdict, ← h.check, h.queuedBy_zero, h.check, reach,
      shownBy_of_prints h.subscriberPrints (by decide)]
    simp only [inOrder_take_iff]

/-! ## A couple -/

/-- One publisher and one subscriber, whose samples are to be in order. -/
def couple : Case :=
  ⟨"couple", none, [⟨.publisher, "-t Square -w", .ok⟩, ⟨.subscriber, "-t Square", .ok⟩],
    .orderingCheck, none⟩

/-- The stage on which both entities print the same. -/
def echoing (lines : List String) : Stage := fun role _ => .ok ⟨opening role ++ lines, false, none⟩

/-- The seat of an entity of the couple. -/
def coupleSeat (label : String) (entity : Entity) (lines : List String) : Seat :=
  ⟨label, entity, .ok ⟨opening entity.role ++ lines, false, none⟩⟩

/-- Two entities that print the same lines are an echo, as soon as there is data in these lines. -/
theorem echo_couple (lines : List String)
    (hdata : (scan [.marker .data] [] (joinLines (lines.map String.toList))).isSome = true) :
    Echo couple (Trial.seats (echoing lines) couple) 0 1
      (coupleSeat "P0" ⟨.publisher, "-t Square -w", .ok⟩ lines)
      (coupleSeat "S0" ⟨.subscriber, "-t Square", .ok⟩ lines) lines where
  seated := seated_seats _ _
  valid := rfl
  check := rfl
  calm := by
    refine calm_seats (fun role parameters performance hperformance => ?_) couple
    cases hperformance
    rfl
  onePublisher := rfl
  oneSubscriber := rfl
  publisherAt := rfl
  isPublisher := rfl
  reportsSamples := show Entity.reportsSamples ⟨.publisher, "-t Square -w", .ok⟩ = true by decide
  publisherPrints := ⟨_, rfl, rfl⟩
  subscriberAt := rfl
  isSubscriber := rfl
  subscriberPrints := ⟨_, rfl, rfl⟩
  data := hdata

/-- A gap after the windows that are compared does no harm. -/
theorem echo_outcomes_late_gap :
    ∃ result, (play .standard couple (Trial.seats (echoing
        ["001 001 [20]", "002 002 [20]", "003 003 [20]", "[20]", "004 004 [20]"]) couple)).2 =
      .ok result ∧ result.outcomes[0]? = some .ok ∧ result.outcomes[1]? = some .ok := by
  obtain ⟨result, hplay, hpublisher, hsubscriber⟩ := echo_outcomes (echo_couple
    ["001 001 [20]", "002 002 [20]", "003 003 [20]", "[20]", "004 004 [20]"] (by decide +kernel))
  rw [if_pos (by decide +kernel)] at hsubscriber
  exact ⟨result, hplay, hpublisher, hsubscriber⟩

/-- With a data marker without a sample in front of the first sample, the subscriber fails the check
though it has shown what its publisher has. -/
theorem echo_refused :
    Echo couple (Trial.seats (echoing ["[20]", "001 001 [20]"]) couple) 0 1
        (coupleSeat "P0" ⟨.publisher, "-t Square -w", .ok⟩ ["[20]", "001 001 [20]"])
        (coupleSeat "S0" ⟨.subscriber, "-t Square", .ok⟩ ["[20]", "001 001 [20]"])
        ["[20]", "001 001 [20]"] ∧
      (run .standard (echoing ["[20]", "001 001 [20]"]) couple).2.toOption.map
        CaseResult.outcomes = some [.ok, .dataNotCorrect] := by
  refine ⟨echo_couple _ (by decide +kernel), ?_⟩
  decide +kernel

end Trial

end PubSubTrials
