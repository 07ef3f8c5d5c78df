import Mathlib.Data.List.Dedup
import Mathlib.Data.List.Sort
import SomethingTrade.Decimal
import SomethingTrade.Dict

/-!
# Dynamically Typed Values

The values of rows and messages: what a JSON document holds after decoding. Integers and
floats are told apart, and floats are taken exactly. An object is its list of fields;
reading a field takes the first entry of its name.

The readers follow the dynamic language: `Json.truthy` is the truth value of a value,
`Json.text` is `str`, `Json.repr` is `repr` (text is quoted but not escaped), and
`Json.toFloat?` is the float constructor, which accepts numbers, booleans and text.

## Main results

* `sortedSet_eq_nil`: a sorted set of texts is empty exactly when the list is.
* `Json.get_obj_cons`: reading a field of an object.
-/

namespace SomethingTrade

/-- A dynamically typed value. -/
inductive Json
  | null
  | bool (b : Bool)
  | int (n : ℤ)
  | float (q : ℚ)
  | str (s : String)
  | arr (items : List Json)
  | obj (fields : List (String × Json))

namespace Json

/-- The first entry of a field. -/
def lookup (k : String) : List (String × Json) → Option Json
  | [] => none
  | (k', v) :: fields => if k' = k then some v else lookup k fields

/-- The field of an object, if it is there. -/
def get? : Json → String → Option Json
  | .obj fields, k => lookup k fields
  | _, _ => none

/-- The field of an object, `null` when it is missing. -/
def get (j : Json) (k : String) : Json := (j.get? k).getD .null

@[simp] theorem get?_obj_nil (k : String) : (obj []).get? k = none := rfl

@[simp] theorem get?_obj_cons (k k' : String) (v : Json) (fields : List (String × Json)) :
    (obj ((k', v) :: fields)).get? k = if k' = k then some v else (obj fields).get? k := rfl

/-- Reading a field of an object. -/
@[simp] theorem get_obj_cons (k k' : String) (v : Json) (fields : List (String × Json)) :
    (obj ((k', v) :: fields)).get k = if k' = k then v else (obj fields).get k := by
  simp only [get, get?_obj_cons]
  split <;> rfl

/-- Whether a value is `null`. -/
def isNull : Json → Bool
  | .null => true
  | _ => false

/-- The truth value of a value. -/
def truthy : Json → Bool
  | .null => false
  | .bool b => b
  | .int n => n ≠ 0
  | .float q => q ≠ 0
  | .str s => !s.isEmpty
  | .arr items => !items.isEmpty
  | .obj fields => !fields.isEmpty

/-- Whether a value is `true`. -/
def isTrue : Json → Bool
  | .bool b => b
  | _ => false

/-- Whether a value is `false`. -/
def isFalse : Json → Bool
  | .bool b => !b
  | _ => false

/-- Whether a value is a given text. -/
def isText (s : String) : Json → Bool
  | .str t => t = s
  | _ => false

/-- The value when it is an object, else the empty object. -/
def asDict : Json → Json
  | .obj fields => .obj fields
  | _ => .obj []

/-- The field of an object, a default when it is missing. -/
def getD (j : Json) (k : String) (default : Json) : Json := (j.get? k).getD default

/-- Set a field of an object. -/
def setField (j : Json) (k : String) (v : Json) : Json :=
  match j with
  | .obj fields => .obj (Dict.setEntries k v fields)
  | j => j

/-- Set a field of an object unless it is there. -/
def setDefault (j : Json) (k : String) (v : Json) : Json :=
  if (j.get? k).isSome then j else j.setField k v

/-- Set a field of an object unless it is there and not `null`. -/
def setMissingOrNone (j : Json) (k : String) (v : Json) : Json :=
  if (j.get k).isNull then j.setField k v else j

theorem lookup_setEntries_of_ne {k k' : String} (v : Json) (h : k ≠ k')
    (fields : List (String × Json)) :
    lookup k' (Dict.setEntries k v fields) = lookup k' fields := by
  induction fields with
  | nil => simp [Dict.setEntries, lookup, h]
  | cons e fields ih =>
      rw [Dict.setEntries]
      split
      · rename_i he
        simp [lookup, h, he]
      · simp [lookup, ih]

theorem lookup_setEntries_self (k : String) (v : Json) (fields : List (String × Json)) :
    lookup k (Dict.setEntries k v fields) = some v := by
  induction fields with
  | nil => simp [Dict.setEntries, lookup]
  | cons e fields ih =>
      rw [Dict.setEntries]
      split
      · simp [lookup]
      · rename_i he
        simp [lookup, he, ih]

/-- Setting a field leaves the others. -/
theorem get?_setField_of_ne (j : Json) {k k' : String} (v : Json) (h : k ≠ k') :
    (j.setField k v).get? k' = j.get? k' := by
  cases j with
  | obj fields => exact lookup_setEntries_of_ne v h fields
  | _ => rfl

/-- A value is an object. -/
def IsObj (j : Json) : Prop := ∃ fields, j = .obj fields

theorem IsObj.setField {j : Json} (h : j.IsObj) (k : String) (v : Json) :
    (j.setField k v).IsObj := by
  obtain ⟨fields, rfl⟩ := h
  exact ⟨_, rfl⟩

/-- The field that was set in an object. -/
theorem IsObj.get?_setField_self {j : Json} (h : j.IsObj) (k : String) (v : Json) :
    (j.setField k v).get? k = some v := by
  obtain ⟨fields, rfl⟩ := h
  exact lookup_setEntries_self k v fields

/-- Setting a default leaves the other fields. -/
theorem get?_setDefault_of_ne (j : Json) {k k' : String} (v : Json) (h : k ≠ k') :
    (j.setDefault k v).get? k' = j.get? k' := by
  rw [setDefault]
  split
  · rfl
  · exact get?_setField_of_ne j v h

/-- `x or y` on values. -/
def orElse (x y : Json) : Json := if x.truthy then x else y

mutual

/-- The printed form of a value. -/
def repr : Json → String
  | .null => "None"
  | .bool true => "True"
  | .bool false => "False"
  | .int n => Decimal.formatF n
  | .float q => Decimal.formatF q
  | .str s => "'" ++ s ++ "'"
  | .arr items => "[" ++ reprItems items ++ "]"
  | .obj fields => "\x7b" ++ reprFields fields ++ "\x7d"

/-- The printed items of a list. -/
def reprItems : List Json → String
  | [] => ""
  | [j] => j.repr
  | j :: js => j.repr ++ ", " ++ reprItems js

/-- The printed fields of an object. -/
def reprFields : List (String × Json) → String
  | [] => ""
  | [(k, j)] => "'" ++ k ++ "': " ++ j.repr
  | (k, j) :: fields => "'" ++ k ++ "': " ++ j.repr ++ ", " ++ reprFields fields

end

/-- The text of a value: text is itself, other values print. -/
def text : Json → String
  | .str s => s
  | j => j.repr

/-- The number a float constructor makes of a value. -/
def toFloat? : Json → Option Decimal
  | .bool b => some (.finite (if b then 1 else 0))
  | .int n => some (.finite n)
  | .float q => some (.finite q)
  | .str s => Decimal.floatOfText s
  | _ => none

/-- The finite number a float constructor makes of a value. -/
def toFinite? (j : Json) : Option ℚ :=
  match j.toFloat? with
  | some (.finite q) => some q
  | _ => none

/-- The number an integer constructor makes of a value that is no boolean: a fraction is cut
off. -/
def toInt? : Json → Option ℤ
  | .int n => some n
  | .float q => some (q.num.tdiv q.den)
  | .str s => Decimal.intOfText s
  | _ => none

/-- The integer a value is; booleans are integers of the dynamic language. -/
def asInt? : Json → Option ℤ
  | .bool b => some (if b then 1 else 0)
  | .int n => some n
  | _ => none

/-- The number a value is; booleans are numbers too. -/
def asNumber? : Json → Option ℚ
  | .bool b => some (if b then 1 else 0)
  | .int n => some n
  | .float q => some q
  | _ => none

/-- An optional number as a value. -/
def ofInt? : Option ℤ → Json
  | some n => .int n
  | none => .null

/-- An optional text as a value. -/
def ofText? : Option String → Json
  | some s => .str s
  | none => .null

/-- An optional float as a value. -/
def ofFloat? : Option ℚ → Json
  | some q => .float q
  | none => .null

end Json

/-! ### Optional values and texts -/

/-- An optional number or the default; zero counts as absent. -/
def orNumber (x : Option ℤ) (default : ℤ) : ℤ :=
  match x with
  | some n => if n = 0 then default else n
  | none => default

/-- An optional text or the default; the empty text counts as absent. -/
def orText (x : Option String) (default : String) : String :=
  match x with
  | some s => if s.isEmpty then default else s
  | none => default

/-- The text in upper case, for ASCII letters. -/
def upper (s : String) : String := String.ofList (s.toList.map Char.toUpper)

/-- No character in upper case is a lower case letter. -/
theorem not_isLower_toUpper (c : Char) :
    ¬ (c.toUpper.val ≥ 'a'.val ∧ c.toUpper.val ≤ 'z'.val) := by
  delta Char.toUpper
  split
  · rename_i h
    have hge := UInt32.le_iff_toNat_le.mp h.1
    have hle := UInt32.le_iff_toNat_le.mp h.2
    have hshift : ('A'.val - 'a'.val).toNat = 2 ^ 32 - 32 := by decide
    have ha : 'a'.val.toNat = 97 := by decide
    have hz : 'z'.val.toNat = 122 := by decide
    simp only [ge_iff_le, UInt32.le_iff_toNat_le, UInt32.toNat_add]
    omega
  · assumption

/-- Text in upper case stays as it is. -/
theorem upper_upper (s : String) : upper (upper s) = upper s := by
  have htwice (c : Char) : c.toUpper.toUpper = c.toUpper := dif_neg (not_isLower_toUpper c)
  simp [upper, Function.comp_def, htwice]

/-- The text in lower case, for ASCII letters. -/
def lower (s : String) : String := String.ofList (s.toList.map Char.toLower)

/-- Whether a text occurs in another. -/
def occursIn (part text : String) : Bool :=
  text.toList.tails.any fun rest => part.toList.isPrefixOf rest

/-- `sorted(set(texts))`. -/
def sortedSet (texts : List String) : List String := texts.dedup.insertionSort (· ≤ ·)

/-- A sorted set holds each text once. -/
theorem sortedSet_perm (texts : List String) : (sortedSet texts).Perm texts.dedup :=
  List.perm_insertionSort _ _

theorem nodup_sortedSet (texts : List String) : (sortedSet texts).Nodup :=
  (sortedSet_perm texts).nodup_iff.mpr (List.nodup_dedup texts)

@[simp] theorem mem_sortedSet {texts : List String} {text : String} :
    text ∈ sortedSet texts ↔ text ∈ texts := by
  rw [(sortedSet_perm texts).mem_iff, List.mem_dedup]

/-- A sorted set is empty exactly when there is nothing in it. -/
@[simp] theorem sortedSet_eq_nil {texts : List String} : sortedSet texts = [] ↔ texts = [] := by
  simp only [List.eq_nil_iff_forall_not_mem, mem_sortedSet]

end SomethingTrade
