import Colloquy.Proofs.Service.Script
import Mathlib.Order.Nat
import Mathlib.Tactic.ByContra

/-!
# How an exchange ends

An exchange passes over the outcomes at which the transport fails (`Http.attempt_skip`). So it comes to a failure when all
its attempts fail (`Http.attempt_of_fails`), and else with the first outcome that is no such failure: it breaks down if that
is a breakdown (`Http.attempt_of_breaks`), and has its result if that is a reply (`Http.attempt_of_replies`). One of the first
two happens when no attempt is replied to (`Http.Unanswered.cases`).
-/

namespace Colloquy

namespace Http

/-! ## Outcomes by number -/

/-- What comes back for the request of this number, the first having the number zero. -/
def outcomeAt (script : List Outcome) (k : Nat) : Outcome := script.getD k .exhausted

/-- The transport failed. -/
def Outcome.Fails (o : Outcome) : Prop := ∃ kind message, o = .failed kind message

/-- The exchange broke down. -/
def Outcome.Breaks (o : Outcome) : Prop := ∃ b message, o = .broken b message

/-- A reply came, with whatever status. -/
def Outcome.Replies (o : Outcome) : Prop := ∃ status text, o = .reply status text

theorem Outcome.replies_or_breaks {o : Outcome} (h : ¬o.Fails) : o.Replies ∨ o.Breaks := by
  cases o with
  | reply status text => exact .inl ⟨status, text, rfl⟩
  | failed kind message => exact absurd ⟨kind, message, rfl⟩ h
  | broken b message => exact .inr ⟨b, message, rfl⟩

theorem Outcome.Breaks.not_fails {o : Outcome} (h : o.Breaks) : ¬o.Fails := by
  obtain ⟨b, message, rfl⟩ := h
  rintro ⟨kind, message', h⟩
  cases h

variable {script : List Outcome} {k n : Nat}

theorem headD_drop (script : List Outcome) (k : Nat) : (script.drop k).headD .exhausted = outcomeAt script k :=
  headD_drop_eq_getD script k .exhausted

theorem outcomeAt_tail (script : List Outcome) (k : Nat) : outcomeAt script.tail k = outcomeAt script (k + 1) := by
  cases script <;> simp [outcomeAt]

/-! ## Attempts -/

/-- An exchange passes over the failures at the front of the script. -/
theorem attempt_skip (failed : ∀ j < k, (outcomeAt script j).Fails) (left made : Nat) (error : Option Text) :
    ∃ error', attempt (k + left) made error script = attempt left (made + k) error' (script.drop k) := by
  induction k generalizing script made error with
  | zero => exact ⟨error, by simp⟩
  | succ k ih =>
    obtain ⟨kind, message, first⟩ := failed 0 (Nat.succ_pos k)
    have later : ∀ j < k, (outcomeAt script.tail j).Fails := by
      intro j hj
      rw [outcomeAt_tail]
      exact failed (j + 1) (Nat.succ_lt_succ hj)
    obtain ⟨error', rest⟩ := ih later (made + 1) (some (failureText kind message))
    refine ⟨error', ?_⟩
    rw [← headD_drop, List.drop_zero] at first
    rw [show k + 1 + left = k + left + 1 by omega, attempt, first]
    dsimp only
    rw [rest, List.drop_tail, show made + 1 + k = made + (k + 1) by omega]

/-- The exchange fails when the transport fails at every attempt. -/
theorem attempt_of_fails (failed : ∀ j < n, (outcomeAt script j).Fails) (made : Nat) (error : Option Text) :
    ∃ error', attempt n made error script = ⟨.ok (.ofFailure error' (made + n)), made + n, script.drop n⟩ := by
  obtain ⟨error', rest⟩ := attempt_skip failed 0 made error
  exact ⟨error', rest⟩

/-- After failures an attempt is left for the next outcome. -/
theorem attempt_next (hk : k < n) (failed : ∀ j < k, (outcomeAt script j).Fails) (made : Nat) (error : Option Text) :
    ∃ left error', attempt n made error script = attempt (left + 1) (made + k) error' (script.drop k) := by
  obtain ⟨left, rfl⟩ : ∃ left, n = k + (left + 1) := ⟨n - k - 1, by omega⟩
  exact ⟨left, attempt_skip failed (left + 1) made error⟩

/-- The exchange breaks down at the first outcome that is no failure of the transport, if it is a breakdown. -/
theorem attempt_of_breaks (hk : k < n) (failed : ∀ j < k, (outcomeAt script j).Fails) {b : Breakdown} {message : Text}
    (broken : outcomeAt script k = .broken b message) (made : Nat) (error : Option Text) :
    attempt n made error script = ⟨.error (b, message), made + k + 1, script.drop (k + 1)⟩ := by
  obtain ⟨left, error', rest⟩ := attempt_next hk failed made error
  rw [← headD_drop] at broken
  rw [rest, attempt, broken]
  dsimp only
  rw [List.tail_drop]

/-- The exchange ends with the first outcome that is no failure of the transport, if it is a reply. -/
theorem attempt_of_replies (hk : k < n) (failed : ∀ j < k, (outcomeAt script j).Fails) {status : Int} {text : Text}
    (replied : outcomeAt script k = .reply status text) (made : Nat) (error : Option Text) :
    attempt n made error script = ⟨.ok (.ofReply status text (made + k + 1)), made + k + 1, script.drop (k + 1)⟩ := by
  obtain ⟨left, error', rest⟩ := attempt_next hk failed made error
  rw [← headD_drop] at replied
  rw [rest, attempt, replied]
  dsimp only
  rw [List.tail_drop]

/-- One of so many attempts is replied to with the status, and the transport fails at those before it. -/
def RepliedWith (script : List Outcome) (n : Nat) (status : Int) : Prop :=
  ∃ k < n, (∀ j < k, (outcomeAt script j).Fails) ∧ ∃ text, outcomeAt script k = .reply status text

/-! ## Exchanges without a reply -/

/-- Whoever waits for a reply waits in vain: an attempt that would be replied to comes after a breakdown only. -/
def Unanswered (script : List Outcome) (n : Nat) : Prop :=
  ∀ k < n, (outcomeAt script k).Replies → ∃ j < k, (outcomeAt script j).Breaks

theorem unanswered_of_fails (failed : ∀ k < n, (outcomeAt script k).Fails) : Unanswered script n := by
  rintro k hk ⟨status, text, replied⟩
  obtain ⟨kind, message, lost⟩ := failed k hk
  rw [lost] at replied
  cases replied

/-- The transport fails at every attempt, or there is a first one at which it does not. -/
theorem fails_or_exists_first (script : List Outcome) (n : Nat) : (∀ k < n, (outcomeAt script k).Fails) ∨
    ∃ k < n, (∀ j < k, (outcomeAt script j).Fails) ∧ ¬(outcomeAt script k).Fails := by
  classical
  by_cases other : ∃ k, k < n ∧ ¬(outcomeAt script k).Fails
  · obtain ⟨hk, not_failed⟩ := Nat.find_spec other
    refine .inr ⟨Nat.find other, hk, fun j hj => ?_, not_failed⟩
    by_contra hf
    exact Nat.find_min other hj ⟨by omega, hf⟩
  · left
    intro k hk
    by_contra hf
    exact other ⟨k, hk, hf⟩

/-- **Without a reply an exchange fails at every attempt, or breaks down** after failures only. -/
theorem Unanswered.cases (h : Unanswered script n) : (∀ k < n, (outcomeAt script k).Fails) ∨
    ∃ k < n, (∀ j < k, (outcomeAt script j).Fails) ∧ (outcomeAt script k).Breaks := by
  rcases fails_or_exists_first script n with failed | ⟨k, hk, failed, other⟩
  · exact .inl failed
  · refine .inr ⟨k, hk, failed, ?_⟩
    rcases Outcome.replies_or_breaks other with replies | breaks
    · obtain ⟨j, hj, breaks⟩ := h k hk replies
      exact absurd (failed j hj) breaks.not_fails
    · exact breaks

end Http

namespace World

variable {w : World} {retries : Int}

theorem send_of_fails (failed : ∀ k < Http.attemptsFor retries, (Http.outcomeAt w.outcomes k).Fails)
    (request : Http.Request) (own : Bool) :
    ∃ error w', w.send request retries own = (.ok (.ofFailure error (Http.attemptsFor retries)), w') := by
  obtain ⟨error, ends⟩ := Http.attempt_of_fails failed 0 none
  unfold send
  rw [ends, Nat.zero_add]
  exact ⟨error, _, rfl⟩

theorem send_of_breaks {k : Nat} (hk : k < Http.attemptsFor retries)
    (failed : ∀ j < k, (Http.outcomeAt w.outcomes j).Fails) (breaks : (Http.outcomeAt w.outcomes k).Breaks)
    (request : Http.Request) (own : Bool) :
    ∃ b message w', w.send request retries own = (.error (b, message), w') := by
  obtain ⟨b, message, broken⟩ := breaks
  unfold send
  rw [Http.attempt_of_breaks hk failed broken]
  exact ⟨b, message, _, rfl⟩

theorem send_of_replies {status : Int} (replied : Http.RepliedWith w.outcomes (Http.attemptsFor retries) status)
    (request : Http.Request) (own : Bool) :
    ∃ text made w', w.send request retries own = (.ok (.ofReply status text made), w') := by
  obtain ⟨k, hk, failed, text, replied⟩ := replied
  unfold send
  rw [Http.attempt_of_replies hk failed replied]
  exact ⟨text, _, _, rfl⟩

end World

end Colloquy
