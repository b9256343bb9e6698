import OpenMadt.Basic

/-!
# JSON values as the code uses them

The part of `nlohmann::json` that the server touches: the value itself, the type tests, and the
accessors with their failures.  An accessor fails in one of two ways that must be kept apart.  A
value of the wrong type makes the library throw, and `Server::request` catches everything that is
thrown.  The `const` `operator[]` on an object that lacks the key is a violated precondition: an
assertion failure or undefined behaviour, which nothing catches.
-/

namespace OpenMadt

/-- Why a computation has no result. -/
inductive Fault where
  /-- An exception is thrown. -/
  | exception
  /-- `operator[]` of a `const json` object is evaluated on an absent key. -/
  | absentKey
  /-- The GUI never answers a command the server waits for. -/
  | unanswered
  deriving DecidableEq, Repr

@[simp] theorem ok_bind {ε α β : Type} (a : α) (f : α → Except ε β) :
    ((Except.ok a : Except ε α) >>= f) = f a := rfl

/-- A JSON value.  An integer literal is `int` as long as it fits 64 bits, other numbers are `float`;
an object has its members by key, the first entry of a key being the one that counts. -/
inductive Json where
  | null
  | bool (b : Bool)
  | int (i : ℤ)
  | float (q : Rat)
  | str (s : String)
  | arr (xs : List Json)
  | obj (members : List (String × Json))
  deriving Inhabited

namespace Json

/-- `find`: the member of an object under a key. -/
def find? : Json → String → Option Json
  | .obj members, key => members.lookup key
  | _, _ => none

/-- `contains`, which is false for anything that is not an object. -/
def contains (j : Json) (key : String) : Bool := (j.find? key).isSome

/-- The `const` `operator[]`: throws on a value that is not an object, and must not be evaluated on
an object without the key. -/
def index : Json → String → Except Fault Json
  | .obj members, key =>
    match members.lookup key with
    | some v => .ok v
    | none => .error .absentKey
  | _, _ => .error .exception

def isObject : Json → Bool
  | .obj _ => true
  | _ => false

def isString : Json → Bool
  | .str _ => true
  | _ => false

/-- `is_number_integer`, true for the signed and the unsigned representation. -/
def isNumberInteger : Json → Bool
  | .int _ => true
  | _ => false

/-- `get<std::string>` and the implicit conversion to a string. -/
def getString : Json → Except Fault String
  | .str s => .ok s
  | _ => .error .exception

/-- `static_cast<int>` of a 64-bit integer. -/
def toInt32 (i : ℤ) : ℤ := Int.bmod i 4294967296

/-- `static_cast<int>` of a double: truncation, undefined when the truncated value is no `int`. -/
def doubleToInt (undefinedCast : Rat → ℤ) (q : Rat) : ℤ :=
  let t := q.num.tdiv q.den
  if -2147483648 ≤ t ∧ t ≤ 2147483647 then t else undefinedCast q

/-- `get<int>`: any number, converted like a cast, and the booleans. -/
def getInt (undefinedCast : Rat → ℤ) : Json → Except Fault ℤ
  | .int i => .ok (toInt32 i)
  | .float q => .ok (doubleToInt undefinedCast q)
  | .bool b => .ok (if b then 1 else 0)
  | _ => .error .exception

/-- `value(key, fallback)`, with `get` for the type of the fallback. -/
def value {α : Type} (get : Json → Except Fault α) (j : Json) (key : String) (fallback : α) :
    Except Fault α :=
  match j with
  | .obj members =>
    match members.lookup key with
    | some v => get v
    | none => .ok fallback
  | _ => .error .exception

/-! ### How an accessor fails -/

/-- The expression has a value or throws; it violates no precondition. -/
def OkOrThrows {α : Type} (x : Except Fault α) : Prop := (∃ a, x = .ok a) ∨ x = .error .exception

theorem getString_okOrThrows (j : Json) : OkOrThrows j.getString := by
  cases j with
  | str s => exact Or.inl ⟨s, rfl⟩
  | _ => exact Or.inr rfl

theorem getInt_okOrThrows (undefinedCast : Rat → ℤ) (j : Json) :
    OkOrThrows (j.getInt undefinedCast) := by
  cases j with
  | int i => exact Or.inl ⟨_, rfl⟩
  | float q => exact Or.inl ⟨_, rfl⟩
  | bool b => exact Or.inl ⟨_, rfl⟩
  | _ => exact Or.inr rfl

/-- `value` never violates a precondition, on whatever value it is called. -/
theorem value_okOrThrows {α : Type} {get : Json → Except Fault α} (hget : ∀ j, OkOrThrows (get j))
    (j : Json) (key : String) (fallback : α) : OkOrThrows (j.value get key fallback) := by
  cases j with
  | obj members =>
    simp only [value]
    cases members.lookup key with
    | none => exact Or.inl ⟨fallback, rfl⟩
    | some v => exact hget v
  | _ => exact Or.inr rfl

/-! ### Access under a guard -/

/-- Behind `contains`, `operator[]` finds the member. -/
theorem index_of_find? {j v : Json} {key : String} (h : j.find? key = some v) : j.index key = .ok v := by
  cases j with
  | obj members => simp [index, show members.lookup key = some v from h]
  | _ => simp [find?] at h

theorem find?_obj (members : List (String × Json)) (key : String) :
    (Json.obj members).find? key = members.lookup key := rfl

theorem toInt32_bounds (i : ℤ) : -2147483648 ≤ toInt32 i ∧ toInt32 i ≤ 2147483647 := by
  have hlo := Int.le_bmod (x := i) (m := 4294967296) (by omega)
  have hhi := Int.bmod_lt (x := i) (m := 4294967296) (by omega)
  simp only [toInt32]
  omega

theorem toInt32_of_range {i : ℤ} (h : -2147483648 ≤ i ∧ i ≤ 2147483647) : toInt32 i = i :=
  Int.bmod_eq_of_le (by omega) (by omega)

end Json

end OpenMadt
