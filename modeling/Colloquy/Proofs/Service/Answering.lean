import Colloquy.Proofs.Service.Script
import Colloquy.Service.Completion
import Mathlib.Data.List.TakeWhile

/-!
# Prompts and their reference

A prompt is settled by the first call of the completion service that does not ask to be tried again (`Outcome.Settles`), if
the retries reach that far; each failure before it is followed by its pause (`Paused`). If they do not, the prompt fails with
the last failure, after which there is no pause any more. This is the reference for a prompt (`Course`), and the client
follows it and nothing else (`generate_eq_iff`).
-/

namespace Colloquy

theorem Text.trim_eq_nil_iff {t : Text} : trim t = [] ↔ ∀ c ∈ t, isBlank c = true := by
  rw [trim, trimBy, List.reverse_eq_nil_iff, List.dropWhile_eq_nil_iff]
  simp only [List.mem_reverse]
  constructor
  · intro blank
    -- a rest behind the blanks at the start would start with no blank
    have no_rest : t.dropWhile isBlank = [] := by
      cases hrest : t.dropWhile isBlank with
      | nil => rfl
      | cons c rest =>
        have stops := List.head?_dropWhile_not isBlank t
        rw [hrest] at blank stops
        have first : isBlank c = true := blank c List.mem_cons_self
        simp [first] at stops
    exact List.dropWhile_eq_nil_iff.mp no_rest
  · intro blank c hc
    exact blank c ((List.dropWhile_sublist isBlank).mem hc)

namespace Completion

/-- What comes back for the call of this number, the first having the number zero. -/
def outcomeAt (script : List Outcome) (k : Nat) : Outcome := script.getD k .exhausted

theorem headD_drop (script : List Outcome) (k : Nat) : (script.drop k).headD .exhausted = outcomeAt script k :=
  headD_drop_eq_getD script k .exhausted

/-! ## Failures that are tried again -/

/-- A failure of the call of this number that is tried again, with its message and the pause that it asks for: longer from
call to call when there were too many, and always half a second when the connection is lost. -/
inductive Outcome.Retried (k : Nat) : Outcome → Text → Pause → Prop
  | rateLimited (message : Text) : Retried k (.rateLimited message) message (.whole (k + 1))
  | disconnected (message : Text) : Retried k (.disconnected message) message (.exact 0.5)

/-- So many calls fail and are tried again, each after its pause. -/
inductive Paused (outcome : Nat → Outcome) : Nat → List Pause → Prop
  | none : Paused outcome 0 []
  | next {k : Nat} {pauses : List Pause} {message : Text} {p : Pause} : Paused outcome k pauses →
      (outcome k).Retried k message p → Paused outcome (k + 1) (pauses ++ [p])

/-! ## Outcomes that are not -/

/-- **What settles a prompt**, and its result: the first choice if it is not blank, or why there is no answer. -/
inductive Outcome.Settles (timeout : Value) : Outcome → Except Failure Text → Prop
  | answered {text : Text} {more : List (Option Text)} : (∃ c ∈ text, Text.isBlank c = false) →
      Settles timeout (.choices (some text :: more)) (.ok text)
  | blank {content : Option Text} {more : List (Option Text)} :
      (∀ text, content = some text → ∀ c ∈ text, Text.isBlank c = true) →
      Settles timeout (.choices (content :: more)) (.error (.unusable "Model returned an empty response"))
  | noChoice : Settles timeout (.choices []) (.error (.unusable "Model returned no choices"))
  | timedOut : Settles timeout .timedOut (.error (.timedOut ("Model call timed out after " ++ timeout.plain ++ "s")))
  | rejected {message : Text} : Settles timeout (.rejected message) (.error (.failed ("Model call failed: " ++ message)))
  | crashed {c : Crash} {message : Text} : Settles timeout (.crashed c message) (.error (.crashed c message))

theorem settles_choices (timeout : Value) (contents : List (Option Text)) :
    (Outcome.choices contents).Settles timeout (answerOf contents) := by
  unfold answerOf
  cases contents with
  | nil => exact .noChoice
  | cons content more =>
    dsimp only
    split
    next trimmed =>
      refine .blank fun text h => ?_
      rw [List.isEmpty_iff, Text.trim_eq_nil_iff, h] at trimmed
      exact trimmed
    next kept =>
      rw [List.isEmpty_iff, Text.trim_eq_nil_iff] at kept
      cases content with
      | none => exact absurd nofun kept
      | some text =>
        refine .answered ?_
        simpa using kept

/-- No outcome is left out. -/
theorem Outcome.retried_or_settles (o : Outcome) (k : Nat) (timeout : Value) :
    (∃ message p, o.Retried k message p) ∨ ∃ result, o.Settles timeout result := by
  cases o with
  | choices contents => exact .inr ⟨_, settles_choices timeout contents⟩
  | rateLimited message => exact .inl ⟨message, _, .rateLimited message⟩
  | disconnected message => exact .inl ⟨message, _, .disconnected message⟩
  | timedOut => exact .inr ⟨_, .timedOut⟩
  | rejected message => exact .inr ⟨_, .rejected⟩
  | crashed c message => exact .inr ⟨_, .crashed⟩

/-- The calls up to a number are all tried again, or one of them is the first that settles the prompt. -/
theorem paused_or_exists_settles (outcome : Nat → Outcome) (timeout : Value) (n : Nat) :
    (∃ pauses, Paused outcome n pauses) ∨
      ∃ k < n, ∃ pauses result, Paused outcome k pauses ∧ (outcome k).Settles timeout result := by
  induction n with
  | zero => exact .inl ⟨[], .none⟩
  | succ n ih =>
    rcases ih with ⟨pauses, paused⟩ | ⟨k, hk, first⟩
    · rcases (outcome n).retried_or_settles n timeout with ⟨message, p, retried⟩ | ⟨result, settles⟩
      · exact .inl ⟨_, paused.next retried⟩
      · exact .inr ⟨n, Nat.lt_succ_self n, pauses, result, paused, settles⟩
    · exact .inr ⟨k, Nat.lt_succ_of_lt hk, first⟩

/-! ## The reference -/

/-- The failure of a prompt for which no call is left: the number of calls there are, and what the last one failed with. -/
def spent (retries : Int) (last : Text) : Failure :=
  .failed ("Model call failed after " ++ Text.ofInt (retries + 1) ++ " attempts: " ++ last)

/-- **The course of a prompt**, by the outcomes of its calls and by the number of retries: how many calls are made, the
pauses between them, and what the result is. -/
inductive Course (timeout : Value) (retries : Int) (outcome : Nat → Outcome) :
    Nat → List Pause → Except Failure Text → Prop
  | settled {k : Nat} {pauses : List Pause} {result : Except Failure Text} : k ≤ retries → Paused outcome k pauses →
      (outcome k).Settles timeout result → Course timeout retries outcome (k + 1) pauses result
  /-- The last call fails as those before it, but there is nothing to pause for. -/
  | exhausted {k : Nat} {pauses : List Pause} {message : Text} {p : Pause} : k = retries → Paused outcome k pauses →
      (outcome k).Retried k message p → Course timeout retries outcome (k + 1) pauses (.error (spent retries message))
  /-- With less than no retries there is no call. -/
  | uncalled : retries < 0 → Course timeout retries outcome 0 [] (.error (spent retries "None"))

theorem exists_course (timeout : Value) (retries : Int) (outcome : Nat → Outcome) :
    ∃ calls pauses result, Course timeout retries outcome calls pauses result := by
  by_cases called : retries < 0
  · exact ⟨_, _, _, .uncalled called⟩
  · obtain ⟨n, rfl⟩ := Int.eq_ofNat_of_zero_le (Int.not_lt.mp called)
    rcases paused_or_exists_settles outcome timeout n with ⟨pauses, paused⟩ | ⟨k, hk, pauses, result, paused, settles⟩
    · rcases (outcome n).retried_or_settles n timeout with ⟨message, p, retried⟩ | ⟨result, settles⟩
      · exact ⟨_, _, _, .exhausted rfl paused retried⟩
      · exact ⟨_, _, _, .settled (Int.le_refl _) paused settles⟩
    · exact ⟨_, _, _, .settled (by omega) paused settles⟩

variable {timeout : Value} {retries : Int} {outcome : Nat → Outcome} {calls : Nat} {pauses : List Pause}

theorem Course.calls_le {result : Except Failure Text} (h : Course timeout retries outcome calls pauses result) :
    calls ≤ (retries + 1).toNat := by
  cases h with
  | settled hk | exhausted hk => omega
  | uncalled => exact Nat.zero_le _

/-- An answer shows something. -/
theorem Course.visible {text : Text} (h : Course timeout retries outcome calls pauses (.ok text)) :
    ∃ c ∈ text, Text.isBlank c = false := by
  cases h with
  | @settled k _ _ _ _ settles =>
    generalize outcome k = o at settles
    cases settles with
    | answered visible => exact visible

/-! ## The client -/

variable {o : Options} {script : List Outcome}

/-- A call whose failure is tried again, while a call is left. -/
theorem attempt_of_retried {made : Nat} {message : Text} {p : Pause}
    (retried : (script.headD .exhausted).Retried made message p) (left : Nat) (pauses : List Pause) (last : Text) :
    attempt o (left + 1) made pauses last script =
      attempt o left (made + 1) (pauses ++ pauseBefore left p) message script.tail := by
  rw [attempt]
  generalize script.headD .exhausted = outcome at retried
  cases retried <;> rfl

/-- A call that settles the prompt. -/
theorem attempt_of_settles {result : Except Failure Text} (settles : (script.headD .exhausted).Settles o.timeout result)
    (left made : Nat) (pauses : List Pause) (last : Text) :
    attempt o (left + 1) made pauses last script = ⟨result, made + 1, pauses, script.tail⟩ := by
  rw [attempt]
  generalize script.headD .exhausted = outcome at settles
  cases settles with
  | @answered text more visible =>
    have kept : ¬(Text.trim text).isEmpty = true := by
      rw [List.isEmpty_iff, Text.trim_eq_nil_iff]
      simpa using visible
    simp [answerOf, kept]
  | @blank content more blank =>
    have trimmed : (Text.trim (content.getD "")).isEmpty = true := by
      rw [List.isEmpty_iff, Text.trim_eq_nil_iff]
      cases content with
      | none => exact nofun
      | some text => exact blank text rfl
    simp [answerOf, trimmed]
  | noChoice | timedOut | rejected | crashed => rfl

/-- The client gets behind the calls that are tried again, as long as one more is left. -/
theorem attempt_of_paused {k : Nat} (paused : Paused (outcomeAt script) k pauses) (left : Nat) :
    ∃ last, attempt o (k + (left + 1)) 0 [] "None" script = attempt o (left + 1) k pauses last (script.drop k) := by
  induction paused generalizing left with
  | none => exact ⟨"None", by rw [Nat.zero_add, List.drop_zero]⟩
  | @next k pauses message p _ retried ih =>
    obtain ⟨last, rest⟩ := ih (left + 1)
    rw [← headD_drop] at retried
    refine ⟨message, ?_⟩
    rw [show k + 1 + (left + 1) = k + (left + 1 + 1) by omega, rest, attempt_of_retried retried, List.tail_drop]
    rfl

theorem Course.generate_eq {result : Except Failure Text}
    (h : Course o.timeout o.maxRetries (outcomeAt script) calls pauses result) :
    generate o script = ⟨result, calls, pauses, script.drop calls⟩ := by
  unfold generate
  cases h with
  | @settled k _ _ hk paused settles =>
    obtain ⟨last, rest⟩ := attempt_of_paused (o := o) paused (o.maxRetries - k).toNat
    rw [← headD_drop] at settles
    rw [show (o.maxRetries + 1).toNat = k + ((o.maxRetries - k).toNat + 1) by omega, rest, attempt_of_settles settles,
      List.tail_drop]
  | @exhausted k _ message p hk paused retried =>
    obtain ⟨last, rest⟩ := attempt_of_paused (o := o) paused 0
    rw [← headD_drop] at retried
    rw [show (o.maxRetries + 1).toNat = k + (0 + 1) by omega, rest, attempt_of_retried retried, List.tail_drop, attempt,
      pauseBefore, if_pos rfl, List.append_nil]
    rfl
  | uncalled called =>
    rw [show (o.maxRetries + 1).toNat = 0 by omega, attempt]
    rfl

/-- **The client follows the course of the prompt**: whatever the options and the outcomes are, a prompt has this result
after these calls and pauses exactly if there is such a course. So an answer is never blank, and there are never more calls
than the retries allow. -/
theorem generate_eq_iff (o : Options) (script : List Outcome) :
    (∀ run, generate o script = run ↔
      Course o.timeout o.maxRetries (outcomeAt script) run.calls run.sleeps run.result ∧
        run.rest = script.drop run.calls) ∧
    (∀ text, (generate o script).result = .ok text → ∃ c ∈ text, Text.isBlank c = false) ∧
    (generate o script).calls ≤ (o.maxRetries + 1).toNat := by
  obtain ⟨calls, pauses, result, course⟩ := exists_course o.timeout o.maxRetries (outcomeAt script)
  have runs := course.generate_eq
  refine ⟨fun run => ⟨?_, ?_⟩, fun text answered => ?_, ?_⟩
  · rintro rfl
    rw [runs]
    exact ⟨course, rfl⟩
  · rintro ⟨course', rest⟩
    rw [course'.generate_eq, ← rest]
  · rw [runs] at answered
    cases answered
    exact course.visible
  · rw [runs]
    exact course.calls_le

end Completion

end Colloquy
