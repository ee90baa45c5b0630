import Colloquy.Service.Model

/-!
# What services take from the script

An exchange takes outcomes from the front of the script and leaves the rest (`World.outcomes_suffix_of_send`), and it
breaks down only on a breakdown that the script holds (`World.broken_mem_of_send`). The model takes none of them.
-/

namespace Colloquy

/-- What comes next behind so many entries of a script is the entry with that number. -/
theorem headD_drop_eq_getD {α : Type} (script : List α) (k : Nat) (exhausted : α) :
    (script.drop k).headD exhausted = script.getD k exhausted := by
  rw [List.headD_eq_head?_getD, List.head?_drop, List.getD_eq_getElem?_getD]

namespace Http

theorem mem_of_headD {script : List Outcome} {b : Breakdown} {message : Text}
    (h : script.headD .exhausted = .broken b message) : .broken b message ∈ script := by
  cases script with
  | nil => cases h
  | cons outcome rest =>
    cases h
    exact List.mem_cons_self

theorem attempt_rest_suffix (left made : Nat) (error : Option Text) (script : List Outcome) :
    (attempt left made error script).rest <:+ script := by
  induction left generalizing made error script with
  | zero => exact List.suffix_refl _
  | succ left ih =>
    unfold attempt
    split
    · exact List.tail_suffix _
    · exact (ih _ _ _).trans (List.tail_suffix _)
    · exact List.tail_suffix _

theorem broken_mem_of_attempt {left made : Nat} {error : Option Text} {script : List Outcome} {b : Breakdown}
    {message : Text} (h : (attempt left made error script).result = .error (b, message)) :
    .broken b message ∈ script := by
  induction left generalizing made error script with
  | zero => cases h
  | succ left ih =>
    unfold attempt at h
    split at h
    · cases h
    · exact (List.tail_suffix _).mem (ih h)
    next hb =>
      cases h
      exact mem_of_headD hb

end Http

namespace World

variable {w w' : World} {request : Http.Request} {retries : Int} {own : Bool}

theorem outcomes_suffix_of_send {result : Except (Http.Breakdown × Text) Http.CallResult}
    (h : w.send request retries own = (result, w')) : w'.outcomes <:+ w.outcomes := by
  cases h
  exact Http.attempt_rest_suffix _ _ _ _

theorem broken_mem_of_send {b : Http.Breakdown} {message : Text}
    (h : w.send request retries own = (.error (b, message), w')) : .broken b message ∈ w.outcomes :=
  Http.broken_mem_of_attempt (congrArg Prod.fst h)

end World

/-- The model sends no requests. -/
theorem Model.outcomes_generate {settings : Settings} {w w' : World} {prompt : Text} {result : Except Text Text}
    (h : generate settings w prompt = (result, w')) : w'.outcomes = w.outcomes := by
  unfold generate at h
  split at h
  · cases h
    rfl
  · cases h
    rfl

end Colloquy
