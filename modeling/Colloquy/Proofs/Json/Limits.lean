import Colloquy.Json.Reader

/-!
# Values within the limits of a reader

Reading the text of a value stops at the first integer with too many digits and at the first list or object that is too deep,
in the order of the text (`check`). It does not stop if the digits of no integer and the depth of the whole value pass the
limits (`check_eq_ok_iff`). Texts pass none.
-/

namespace Colloquy.Json

variable {l : Limits}

mutual

/-- The error of the first limit that the text of a value passes, if it passes one. -/
def check : Limits → Value → Except ReadError Unit
  | l, .int n => (integer l (decide (n < 0)) (Text.ofNat n.natAbs)).map fun _ => ()
  | l, .list items =>
    match l.inside? with
    | none => .error (.tooDeep false)
    | some l => checkItems l items
  | l, .object entries =>
    match l.inside? with
    | none => .error (.tooDeep true)
    | some l => checkEntries l entries
  | _, _ => .ok ()

def checkItems : Limits → List Value → Except ReadError Unit
  | _, [] => .ok ()
  | l, v :: vs => do check l v; checkItems l vs

def checkEntries : Limits → List (Text × Value) → Except ReadError Unit
  | _, [] => .ok ()
  | l, (_, v) :: es => do check l v; checkEntries l es

end

mutual

/-- The most digits of an integer in a value. -/
def digits : Value → Nat
  | .int n => (Text.ofNat n.natAbs).length
  | .list items => digitsOfItems items
  | .object entries => digitsOfEntries entries
  | _ => 0

def digitsOfItems : List Value → Nat
  | [] => 0
  | v :: vs => max (digits v) (digitsOfItems vs)

def digitsOfEntries : List (Text × Value) → Nat
  | [] => 0
  | (_, v) :: es => max (digits v) (digitsOfEntries es)

end

mutual

/-- The most lists and objects inside one another in a value. -/
def depth : Value → Nat
  | .list items => depthOfItems items + 1
  | .object entries => depthOfEntries entries + 1
  | _ => 0

def depthOfItems : List Value → Nat
  | [] => 0
  | v :: vs => max (depth v) (depthOfItems vs)

def depthOfEntries : List (Text × Value) → Nat
  | [] => 0
  | (_, v) :: es => max (depth v) (depthOfEntries es)

end

/-- Neither so many digits nor so much depth is too much. -/
def Limits.Admits (l : Limits) (digits depth : Nat) : Prop :=
  (∀ limit, l.digits = some limit → digits ≤ limit) ∧ ∀ limit, l.depth = some limit → depth ≤ limit

theorem unlimited_admits (digits depth : Nat) : Limits.unlimited.Admits digits depth := ⟨nofun, nofun⟩

theorem Limits.admits_zero (l : Limits) : l.Admits 0 0 := ⟨fun _ _ => Nat.zero_le _, fun _ _ => Nat.zero_le _⟩

theorem Limits.admits_max {m n p q : Nat} :
    l.Admits (max m n) (max p q) ↔ l.Admits m p ∧ l.Admits n q := by
  simp only [Admits, Nat.max_le]
  exact ⟨fun h => ⟨⟨fun d hd => (h.1 d hd).1, fun d hd => (h.2 d hd).1⟩, fun d hd => (h.1 d hd).2, fun d hd => (h.2 d hd).2⟩,
    fun h => ⟨fun d hd => ⟨h.1.1 d hd, h.2.1 d hd⟩, fun d hd => ⟨h.1.2 d hd, h.2.2 d hd⟩⟩⟩

theorem Limits.admits_succ {m p : Nat} : l.Admits m (p + 1) ↔ ∃ inside, l.inside? = some inside ∧ inside.Admits m p := by
  obtain ⟨_, deepest⟩ := l
  match deepest with
  | none => simp [Admits, inside?]
  | some 0 => simp [Admits, inside?]
  | some (n + 1) => simp [Admits, inside?]

/-- Two checks are passed when both are. -/
theorem bind_eq_ok_iff {first second : Except ReadError Unit} :
    (do first; second) = .ok () ↔ first = .ok () ∧ second = .ok () := by
  cases first with
  | error e => exact ⟨nofun, fun h => nomatch h.1⟩
  | ok _ => exact ⟨fun h => ⟨rfl, h⟩, fun h => h.2⟩

theorem check_int_eq_ok_iff (n : Int) : check l (.int n) = .ok () ↔ l.Admits (digits (.int n)) 0 := by
  have fits : check l (.int n) = .ok () ↔ ∀ limit, l.digits = some limit → digits (.int n) ≤ limit := by
    rw [check, digits, integer]
    cases l.digits with
    | none => exact iff_of_true rfl nofun
    | some limit =>
      by_cases h : limit < (Text.ofNat n.natAbs).length
      · simp [h, Except.map]
      · simp [h, Except.map, Nat.not_lt.mp h]
  exact fits.trans ⟨fun h => ⟨h, fun _ _ => Nat.zero_le _⟩, And.left⟩

mutual

theorem check_eq_ok_iff : ∀ (v : Value) (l : Limits), check l v = .ok () ↔ l.Admits (digits v) (depth v)
  | .null, l | .bool _, l | .float _, l | .str _, l => iff_of_true rfl l.admits_zero
  | .int n, l => check_int_eq_ok_iff n
  | .list items, l => by
    rw [check, depth, Limits.admits_succ, digits]
    cases l.inside? with
    | none => simp
    | some inside => simpa using checkItems_eq_ok_iff items inside
  | .object entries, l => by
    rw [check, depth, Limits.admits_succ, digits]
    cases l.inside? with
    | none => simp
    | some inside => simpa using checkEntries_eq_ok_iff entries inside

theorem checkItems_eq_ok_iff : ∀ (items : List Value) (l : Limits),
    checkItems l items = .ok () ↔ l.Admits (digitsOfItems items) (depthOfItems items)
  | [], l => iff_of_true rfl l.admits_zero
  | v :: vs, l => by
    rw [checkItems, bind_eq_ok_iff, check_eq_ok_iff v l, checkItems_eq_ok_iff vs l, digitsOfItems, depthOfItems,
      Limits.admits_max]

theorem checkEntries_eq_ok_iff : ∀ (entries : List (Text × Value)) (l : Limits),
    checkEntries l entries = .ok () ↔ l.Admits (digitsOfEntries entries) (depthOfEntries entries)
  | [], l => iff_of_true rfl l.admits_zero
  | (k, v) :: es, l => by
    rw [checkEntries, bind_eq_ok_iff, check_eq_ok_iff v l, checkEntries_eq_ok_iff es l, digitsOfEntries, depthOfEntries,
      Limits.admits_max]

end

/-! ## Texts -/

theorem checkItems_texts (l : Limits) (texts : List Text) : checkItems l (texts.map .str) = .ok () := by
  induction texts with
  | nil => rfl
  | cons text texts ih => exact ih

theorem checkEntries_texts (l : Limits) (es : Entries Text Text) : checkEntries l (es.mapValues .str) = .ok () := by
  induction es with
  | nil => rfl
  | cons e es ih => exact ih

/-- An object of texts is within the limits of texts from outside. -/
theorem check_object_texts (es : Entries Text Text) : check .standard (.object (es.mapValues .str)) = .ok () :=
  checkEntries_texts _ es

end Colloquy.Json
