import Colloquy.Proofs.Service.Attempts

/-!
# Exchanges and their reference

What an exchange comes to is settled by the first outcome at which the transport does not fail, or by the last one if there
is none among the attempts (`Http.Course`). Nothing of the attempts before it is left: not in the result, and not in the
world, which has one more copy of the request for each attempt and, if the client was the exchange's own, one more client
closed (`World.exchanged`). An exchange follows this reference, and the reference leaves nothing open
(`World.send_eq_iff`).
-/

namespace Colloquy

namespace Http

/-- **The course of an exchange**, by the outcomes of its attempts and by their number: how many requests are sent, and what
the result is. -/
inductive Course (outcome : Nat → Outcome) (attempts : Nat) : Nat → Except (Breakdown × Text) CallResult → Prop
  /-- A reply ends the exchange, whatever its status. -/
  | replied {k : Nat} {status : Int} {text : Text} : k < attempts → (∀ j < k, (outcome j).Fails) →
      outcome k = .reply status text → Course outcome attempts (k + 1) (.ok {
        success := status < 400
        status := some status
        text := text.take 10000
        error := if status < 400 then none else some ("HTTP " ++ Text.ofInt status)
        attempts := k + 1 })
  /-- A failure that is none of the transport ends the exchange and is passed on. -/
  | broken {k : Nat} {b : Breakdown} {message : Text} : k < attempts → (∀ j < k, (outcome j).Fails) →
      outcome k = .broken b message → Course outcome attempts (k + 1) (.error (b, message))
  /-- The failure of the last attempt is the error, by its message or else by its kind. -/
  | failed {k : Nat} {kind message : Text} : k + 1 = attempts → (∀ j < k, (outcome j).Fails) →
      outcome k = .failed kind message → Course outcome attempts (k + 1) (.ok {
        success := false
        status := none
        text := ""
        error := some (if message = "" then kind else message)
        attempts := k + 1 })

variable {script : List Outcome} {attempts sent : Nat} {result : Except (Breakdown × Text) CallResult}

/-- With an attempt there is a course. -/
theorem exists_course (script : List Outcome) (h : 0 < attempts) :
    ∃ sent result, Course (outcomeAt script) attempts sent result := by
  rcases fails_or_exists_first script attempts with failed | ⟨k, hk, failed, other⟩
  · obtain ⟨kind, message, last⟩ := failed (attempts - 1) (by omega)
    exact ⟨_, _, .failed (by omega) (fun j hj => failed j (by omega)) last⟩
  · rcases Outcome.replies_or_breaks other with ⟨status, text, replied⟩ | ⟨b, message, broken⟩
    · exact ⟨_, _, .replied hk failed replied⟩
    · exact ⟨_, _, .broken hk failed broken⟩

/-- There is a request in every course. -/
theorem Course.sent_pos {outcome : Nat → Outcome} (h : Course outcome attempts sent result) : 0 < sent := by
  cases h with
  | replied | broken | failed => exact Nat.succ_pos _

/-- The attempts of an exchange take the course. -/
theorem Course.attempt_eq (h : Course (outcomeAt script) attempts sent result) :
    attempt attempts 0 none script = ⟨result, sent, script.drop sent⟩ := by
  cases h with
  | replied hk earlier replied =>
    rw [attempt_of_replies hk earlier replied, Nat.zero_add]
    rfl
  | broken hk earlier broken => rw [attempt_of_breaks hk earlier broken, Nat.zero_add]
  | failed hk earlier last =>
    rename_i k kind message
    subst hk
    obtain ⟨error, rest⟩ := attempt_skip earlier 1 0 none
    rw [← headD_drop] at last
    rw [rest, attempt, last]
    simp only [attempt, CallResult.ofFailure, failureText, List.isEmpty_iff, List.tail_drop, Nat.zero_add]
    rfl

end Http

namespace World

/-- The world after an exchange with so many requests, all alike: their outcomes are used up, and an own client is closed
after them. -/
def exchanged (w : World) (request : Http.Request) (sent : Nat) (own : Bool) : World :=
  { w with
    outcomes := w.outcomes.drop sent
    journal := { w.journal with
      requests := w.journal.requests ++ List.replicate sent request
      closed := w.journal.closed + if own then 1 else 0 } }

/-- An exchange follows its course. -/
theorem send_of_course {w : World} {retries : Int} {sent : Nat} {result : Except (Http.Breakdown × Text) Http.CallResult}
    (course : Http.Course (Http.outcomeAt w.outcomes) (retries.toNat + 1) sent result) (request : Http.Request)
    (own : Bool) : w.send request retries own = (result, w.exchanged request sent own) := by
  unfold send
  rw [Http.attemptsFor, course.attempt_eq]
  rfl

/-- **An exchange is what its course makes of it**: whatever the request, the number of retries (a negative one counts as
none) and the outcomes are, it has this result and leaves this world exactly if there is a course with this result. -/
theorem send_eq_iff {w w' : World} {request : Http.Request} {retries : Int} {own : Bool}
    {result : Except (Http.Breakdown × Text) Http.CallResult} : w.send request retries own = (result, w') ↔
      ∃ sent, Http.Course (Http.outcomeAt w.outcomes) (retries.toNat + 1) sent result ∧
        w' = w.exchanged request sent own := by
  constructor
  · intro h
    obtain ⟨sent, result', course⟩ := Http.exists_course w.outcomes (Nat.succ_pos retries.toNat)
    have same := (send_of_course course request own).symm.trans h
    cases same
    exact ⟨sent, course, rfl⟩
  · rintro ⟨sent, course, rfl⟩
    exact send_of_course course request own

end World

end Colloquy
