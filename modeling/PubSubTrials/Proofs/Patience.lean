import PubSubTrials.Proofs.Conservation
import PubSubTrials.Proofs.Earliest

/-!
# Waiting again

Lines arrive while somebody waits for markers, and who is told that there is nothing yet waits for
the same markers again. How the lines are spread over the calls makes no difference to what is found
in the end (`answers_of_lines_eq`): the answers are those of a search through the whole output at
once, in which each set of markers takes the earliest hit in what the hits before it have left
(`findings`).

A call that gives up has searched all that has arrived and keeps it. A hit in what has arrived is
the earliest one in the whole output, because a marker that begins in a line ends in it
(`scan_markers_append`). So the text not yet handed out, whether pending, arrived or still to come,
is all that a run depends on: this is the invariant of `persist_eq_findings`.
-/

namespace PubSubTrials.Output

/-! ## Schedules -/

/-- When the lines of an output arrive: a batch of them, which may be empty, before each of the
first calls, and the remaining ones, with the end of the output, before the call after these. -/
structure Schedule where
  batches : List (List (List Char))
  last : List (List Char)

/-- All lines, in the order in which they arrive. -/
def Schedule.lines (schedule : Schedule) : List (List Char) :=
  schedule.batches.flatten ++ schedule.last

namespace Console

/-- The answers to waiting for sets of markers, one after the other, when nothing more arrives. -/
def settle : List (List Marker) → Console → List Exchange
  | [], _ => []
  | markers :: rest, console =>
    console.exchange (markers.map .marker) :: settle rest (console.expect (markers.map .marker)).2

/-- The answers to waiting for sets of markers, one after the other, while batches of lines arrive
before the calls: after a timeout the same set is waited for again. -/
def persist (last : List (List Char)) :
    List (List (List Char)) → List (List Marker) → Console → List Exchange
  | [], sets, console => settle sets (console.deliver last).close
  | _ :: _, [], _ => []
  | batch :: later, markers :: rest, console =>
    let arrived := console.deliver batch
    let (reply, next) := arrived.expect (markers.map .marker)
    if reply = .timeout then persist last later (markers :: rest) next
    else arrived.exchange (markers.map .marker) :: persist last later rest next

end Console

/-- What comes in the end of waiting for sets of markers at a fresh console. -/
def Schedule.answers (schedule : Schedule) (sets : List (List Marker)) : List Exchange :=
  (Console.ofLines [] true).persist schedule.last schedule.batches sets

/-! ## The whole output -/

/-- What is found in a whole text: each set of markers takes the earliest hit in what the sets
before it have left, or else all of that. -/
def findings : List (List Marker) → List Char → List Exchange
  | [], _ => []
  | markers :: rest, text =>
    match earliest (markers.map .marker) text with
    | some found =>
      ⟨.found found.index, text.take found.start, (text.drop found.start).take found.size⟩ ::
        findings rest (text.drop (found.start + found.size))
    | none => ⟨.endOfOutput, text, []⟩ :: findings rest []

/-- The findings of a text: the first question is answered by the leftmost hit, and the others by
what lies behind it. -/
theorem findings_of_some {markers : List Marker} {text : List Char} {hit : Hit}
    (h : scan (markers.map .marker) [] text = some hit) (rest : List (List Marker)) :
    findings (markers :: rest) text =
      ⟨.found hit.index, hit.before, hit.matched⟩ :: findings rest hit.rest := by
  rw [scan_eq_earliest] at h
  obtain ⟨found, hfound, rfl⟩ := Option.map_eq_some_iff.mp h
  simp only [findings, hfound, Occurrence.hit, List.drop_drop]

/-- A question that finds nothing gets all that is left, and the others nothing. -/
theorem findings_of_none {markers : List Marker} {text : List Char}
    (h : scan (markers.map .marker) [] text = none) (rest : List (List Marker)) :
    findings (markers :: rest) text = ⟨.endOfOutput, text, []⟩ :: findings rest [] := by
  rw [scan_eq_earliest, Option.map_eq_none_iff] at h
  simp only [findings, h]

/-- What is found is handed out from the front of the text, and after the end of the output
nothing is left. -/
theorem findings_conserves (sets : List (List Marker)) (text : List Char) :
    ∃ left, (findings sets text).flatMap Exchange.handedOut ++ left = text ∧
      ((∃ exchange ∈ findings sets text, exchange.reply = .endOfOutput) → left = []) := by
  induction sets generalizing text with
  | nil => exact ⟨text, rfl, fun ⟨_, hmem, _⟩ => absurd hmem List.not_mem_nil⟩
  | cons markers rest ih =>
    cases hscan : scan (markers.map .marker) [] text with
    | some hit =>
      obtain ⟨left, htext, hleft⟩ := ih hit.rest
      rw [findings_of_some hscan]
      refine ⟨left, ?_, fun hend => hleft ?_⟩
      · have hsplit : hit.before ++ (hit.matched ++ hit.rest) = text := text_of_scan hscan
        rw [List.flatMap_cons, List.append_assoc, htext, ← hsplit, ← List.append_assoc]
        rfl
      · obtain ⟨exchange, hmem, hreply⟩ := hend
        rcases List.mem_cons.mp hmem with rfl | hmem
        · cases hreply
        · exact ⟨exchange, hmem, hreply⟩
    | none =>
      obtain ⟨left, htext, -⟩ := ih []
      -- behind the end of the output nothing is found
      obtain ⟨hnone, rfl⟩ := List.append_eq_nil_iff.mp htext
      rw [findings_of_none hscan]
      refine ⟨[], ?_, fun _ => rfl⟩
      rw [List.flatMap_cons, hnone, List.append_nil, List.append_nil]
      rfl

namespace Console

/-! ## Calls that find something, and calls in vain -/

/-- A call that finds something shows it, and leaves what stands behind it. -/
theorem exchange_of_reached {console next : Console} {patterns : List Pattern} {hit : Hit}
    (h : console.expect patterns = (.found hit.index, next)) (hreached : console.Reached hit next) :
    console.exchange patterns = ⟨.found hit.index, hit.before, hit.matched⟩ := by
  rw [exchange, h]
  dsimp only
  rw [hreached.before, hreached.after]

/-- Where the output has ended, the answers are found in all that is not consumed. -/
theorem settle_eq_findings {console : Console} (hlined : console.Lined)
    (hclosed : console.isOpen = false) (sets : List (List Marker)) :
    settle sets console = findings sets console.ahead := by
  induction sets generalizing console with
  | nil => rfl
  | cons markers rest ih =>
    rw [settle]
    cases hscan : scan (markers.map .marker) [] console.ahead with
    | some hit =>
      obtain ⟨next, heq, hreached⟩ := expect_found hlined hscan
      have hrest := ih hreached.lined (hreached.isOpen.trans hclosed)
      rw [findings_of_some hscan, exchange_of_reached heq hreached, heq, hrest, hreached.ahead]
    | none =>
      obtain ⟨next, heq, hexhausted⟩ := expect_vain hlined hscan
      obtain ⟨hahead, hbefore, hafter⟩ := hexhausted.endOfOutput hclosed
      have hrest := ih hexhausted.lined (hexhausted.isOpen.trans hclosed)
      have hreply : console.vainReply = .endOfOutput := by
        rw [vainReply, hclosed, if_neg Bool.false_ne_true]
      rw [findings_of_none hscan, exchange, heq, hrest, hahead]
      dsimp only
      rw [hreply, hbefore, hafter]

theorem ahead_deliver {console : Console} (hopen : console.isOpen = true)
    (lines : List (List Char)) :
    (console.deliver lines).ahead = console.ahead ++ joinLines lines := by
  rw [deliver, if_pos hopen, ahead, ahead, List.append_assoc]
  congr 1
  exact List.flatMap_append

theorem isOpen_deliver (console : Console) (lines : List (List Char)) :
    (console.deliver lines).isOpen = console.isOpen := by
  rw [deliver]
  split <;> rfl

/-- However lines arrive, the answers are found in the text that is not consumed with all that is
still to come. -/
theorem persist_eq_findings (last : List (List Char)) (batches : List (List (List Char)))
    {console : Console} (hlined : console.Lined) (hopen : console.isOpen = true)
    (sets : List (List Marker)) :
    console.persist last batches sets =
      findings sets (console.ahead ++ joinLines (batches.flatten ++ last)) := by
  induction batches generalizing console sets with
  | nil =>
    have hdelivered := ahead_deliver hopen last
    rw [persist, settle_eq_findings (hlined.deliver last).close rfl]
    exact congrArg (findings sets) hdelivered
  | cons batch later ih =>
    cases sets with
    | nil => rfl
    | cons markers rest =>
      have harrived := hlined.deliver batch
      have hstill : (console.deliver batch).isOpen = true :=
        (isOpen_deliver console batch).trans hopen
      -- what has arrived by now stands in front of what is still to come
      have htext : console.ahead ++ joinLines ((batch :: later).flatten ++ last) =
          (console.deliver batch).ahead ++ joinLines (later.flatten ++ last) := by
        rw [ahead_deliver hopen, List.flatten_cons, List.append_assoc, List.append_assoc]
        congr 1
        exact List.flatMap_append
      have hseam := scan_markers_append harrived.ahead markers []
        (joinLines (later.flatten ++ last))
      rw [persist, htext]
      cases hscan : scan (markers.map .marker) [] (console.deliver batch).ahead with
      | some hit =>
        rw [hscan] at hseam
        obtain ⟨next, heq, hreached⟩ := expect_found harrived hscan
        have hrest := ih hreached.lined (hreached.isOpen.trans hstill) rest
        rw [findings_of_some hseam, exchange_of_reached heq hreached, heq]
        dsimp only
        rw [if_neg (by simp), hrest, hreached.ahead]
      | none =>
        obtain ⟨next, heq, hexhausted⟩ := expect_vain harrived hscan
        obtain ⟨hahead, -⟩ := hexhausted.timeout hstill
        have hagain := ih hexhausted.lined (hexhausted.isOpen.trans hstill) (markers :: rest)
        have hreply : (console.deliver batch).vainReply = .timeout := by
          rw [vainReply, if_pos hstill]
        rw [heq]
        dsimp only
        rw [if_pos hreply, hagain, hahead]

end Console

/-! ## Schedules of the same lines -/

/-- Two schedules of the same lines give the same answers. Each hit is the earliest one in all of
the output that was not handed out before it, arrived or not. What the answers hand out, in their
order, is the front of the output, and all of it once its end was told. -/
theorem answers_of_lines_eq {first second : Schedule} (h : first.lines = second.lines)
    (sets : List (List Marker)) :
    first.answers sets = second.answers sets ∧
      first.answers sets = findings sets (joinLines first.lines) ∧
      ∃ left, (first.answers sets).flatMap Exchange.handedOut ++ left = joinLines first.lines ∧
        ((∃ exchange ∈ first.answers sets, exchange.reply = .endOfOutput) → left = []) := by
  have hfindings (schedule : Schedule) :
      schedule.answers sets = findings sets (joinLines schedule.lines) :=
    Console.persist_eq_findings schedule.last schedule.batches (.inl rfl) rfl sets
  refine ⟨?_, hfindings first, ?_⟩
  · rw [hfindings first, hfindings second, h]
  · rw [hfindings first]
    exact findings_conserves sets _

/-- Lines that arrive one by one, with calls in vain between them. -/
def hesitant : Schedule where
  batches := [["Create".toList], [], ["topic: Create topic: x".toList], []]
  last := ["on_publication_matched [20".toList]

/-- The same lines, all there from the beginning. -/
def prompt : Schedule where
  batches := []
  last := ["Create".toList, "topic: Create topic: x".toList, "on_publication_matched [20".toList]

/-- The theorem for the same lines once with pauses between them and once without. -/
theorem answers_of_lines_eq_hesitant :
    hesitant.lines = prompt.lines ∧
      hesitant.answers [[.topicCreated], [.data, .publicationMatched], [.data]] =
        prompt.answers [[.topicCreated], [.data, .publicationMatched], [.data]] ∧
      (hesitant.answers [[.topicCreated], [.data, .publicationMatched], [.data]]).map
          Exchange.reply = [.found 0, .found 1, .endOfOutput] := by
  have hlines : hesitant.lines = prompt.lines := rfl
  exact ⟨hlines, (answers_of_lines_eq hlines _).1, by decide +kernel⟩

end PubSubTrials.Output
