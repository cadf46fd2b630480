import Mathlib.Algebra.Order.Ring.Rat

/-!
# Python values

The values that telemetry, thresholds and JSON columns hold, with Python's
comparisons on them.  A float is NaN, an infinity, or a finite number, whose value
is exact; numbers of different types compare by value, and a boolean is the number
0 or 1.  An ordering comparison of a number with a text, or of anything with
`None`, raises `TypeError`, which is here `none`; an equality test never does.

`Json.storable` says whether PostgreSQL accepts a value in a JSON column: it has no
NaN and no infinities.

A float is the number that it is, since nothing here computes with floats; so a float and an
integer are compared as numbers are.
-/

namespace DcimBackend

/-- A float. -/
inductive PyFloat
  | nan
  | negInf
  | posInf
  | finite (value : ℚ)
deriving DecidableEq

namespace PyFloat

/-- `a < b`. -/
def lt : PyFloat → PyFloat → Bool
  | .finite a, .finite b => a < b
  | .negInf, .finite _ | .negInf, .posInf | .finite _, .posInf => true
  | _, _ => false

/-- `a == b`: NaN equals nothing. -/
def eq : PyFloat → PyFloat → Bool
  | .nan, _ => false
  | a, b => a = b

/-- NaN and the infinities have no JSON form. -/
def isFinite : PyFloat → Bool
  | .finite _ => true
  | _ => false

end PyFloat

/-- A scalar. -/
inductive PyValue
  | none
  | bool (value : Bool)
  | int (value : ℤ)
  | float (value : PyFloat)
  | text (value : String)
deriving DecidableEq

namespace PyValue

/-- The number that a boolean, an integer or a float is. -/
def number? : PyValue → Option PyFloat
  | .bool value => some (.finite (if value then 1 else 0))
  | .int value => some (.finite value)
  | .float value => some value
  | .none | .text _ => Option.none

/-- `a < b`. -/
def lt? (a b : PyValue) : Option Bool :=
  match a.number?, b.number? with
  | some x, some y => some (x.lt y)
  | _, _ =>
      match a, b with
      | .text s, .text t => some (s < t)
      | _, _ => Option.none

/-- `a <= b`. -/
def le? (a b : PyValue) : Option Bool :=
  match a.number?, b.number? with
  | some x, some y => some (x.lt y || x.eq y)
  | _, _ =>
      match a, b with
      | .text s, .text t => some (s ≤ t)
      | _, _ => Option.none

/-- `a == b`. -/
def eq (a b : PyValue) : Bool :=
  match a.number?, b.number? with
  | some x, some y => x.eq y
  | _, _ => a = b

/-- `bool(value)`. -/
def truthy : PyValue → Bool
  | .none => false
  | .bool value => value
  | .int value => value ≠ 0
  | .float value => value ≠ .finite 0
  | .text value => value ≠ ""

/-- Whether an ordering comparison of two values is defined: two numbers, or two
texts. -/
def comparable (a b : PyValue) : Bool :=
  match a, b with
  | .text _, .text _ => true
  | _, _ => a.number?.isSome && b.number?.isSome

theorem isSome_lt?_iff {a b : PyValue} : (a.lt? b).isSome ↔ a.comparable b := by
  cases a <;> cases b <;> simp [lt?, comparable, number?]

theorem isSome_le?_iff {a b : PyValue} : (a.le? b).isSome ↔ a.comparable b := by
  cases a <;> cases b <;> simp [le?, comparable, number?]

theorem comparable_comm {a b : PyValue} : a.comparable b = b.comparable a := by
  cases a <;> cases b <;> simp [comparable, number?]

@[simp] theorem not_comparable_none (a : PyValue) : none.comparable a = false := by
  cases a <;> simp [comparable, number?]

end PyValue

/-- A JSON value. -/
inductive Json
  | scalar (value : PyValue)
  | array (items : List Json)
  | object (fields : List (String × Json))

/-- A JSON object, or a `dict` of the values that become one. -/
abbrev Dict := List (String × Json)

namespace Json

mutual

/-- The value can be stored in a JSON column. -/
def storable : Json → Bool
  | .scalar (.float value) => value.isFinite
  | .scalar _ => true
  | .array items => storableItems items
  | .object fields => storableFields fields

/-- Every item can be stored. -/
def storableItems : List Json → Bool
  | [] => true
  | item :: items => item.storable && storableItems items

/-- Every field can be stored. -/
def storableFields : List (String × Json) → Bool
  | [] => true
  | (_, value) :: fields => value.storable && storableFields fields

end

/-- `bool(value)`. -/
def truthy : Json → Bool
  | .scalar value => value.truthy
  | .array items => !items.isEmpty
  | .object fields => !fields.isEmpty

/-- `isinstance(value, dict)`. -/
def isDict : Json → Bool
  | .object _ => true
  | _ => false

/-- `value.get(key)` of a `dict`, with `None` where there is no such key. -/
def get : Json → String → Json
  | .object fields, key => (fields.lookup key).getD (.scalar .none)
  | _, _ => .scalar .none

mutual

/-- `a == b`. -/
def eq : Json → Json → Bool
  | .scalar a, .scalar b => a.eq b
  | .array a, .array b => eqItems a b
  | .object a, .object b => a.length = b.length && eqFields a b
  | _, _ => false

/-- Equality of lists. -/
def eqItems : List Json → List Json → Bool
  | [], [] => true
  | a :: as, b :: bs => a.eq b && eqItems as bs
  | _, _ => false

/-- Every field is in the other object, with an equal value. -/
def eqFields : List (String × Json) → List (String × Json) → Bool
  | [], _ => true
  | (key, a) :: as, bs =>
      (match bs.lookup key with
        | some b => a.eq b
        | none => false) && eqFields as bs

end

end Json

namespace Dict

/-- `{**d, **e}`. -/
def merge (d e : Dict) : Dict :=
  d.map (fun field => (field.1, (e.lookup field.1).getD field.2)) ++
    e.filter fun field => (d.lookup field.1).isNone

/-- `d.get(key) == text`. -/
def hasText (d : Dict) (key text : String) : Bool :=
  match d.lookup key with
  | some (.scalar (.text value)) => value = text
  | _ => false

theorem hasText_iff {d : Dict} {key text : String} :
    d.hasText key text ↔ d.lookup key = some (.scalar (.text text)) := by
  unfold hasText
  split
  · rename_i value hlookup
    simp [hlookup]
  · rename_i hother
    refine iff_of_false (by simp) fun hlookup => hother text hlookup

/-- A field has one text. -/
theorem hasText_iff_eq {d : Dict} {key text other : String} (h : d.hasText key text) :
    d.hasText key other ↔ text = other := by
  rw [hasText_iff] at h ⊢
  rw [h]
  simp

/-- A merged object has the fields of the second one, and of the first where the second has
none. -/
theorem lookup_merge (d e : Dict) (key : String) :
    (merge d e).lookup key = (e.lookup key).or (d.lookup key) := by
  have hmap : ∀ fields : Dict,
      (fields.map fun field => (field.1, (e.lookup field.1).getD field.2)).lookup key =
        (fields.lookup key).map fun value => (e.lookup key).getD value := by
    intro fields
    induction fields with
    | nil => rfl
    | cons field fields ih =>
        rw [List.map_cons, List.lookup_cons, List.lookup_cons, ih]
        cases hkey : key == field.1 with
        | false => rfl
        | true => rw [eq_of_beq hkey]; rfl
  have hfilter : d.lookup key = none → ∀ fields : Dict,
      (fields.filter fun field => (d.lookup field.1).isNone).lookup key = fields.lookup key := by
    intro hnone fields
    induction fields with
    | nil => rfl
    | cons field fields ih =>
        rw [List.filter_cons]
        split
        · rw [List.lookup_cons, List.lookup_cons, ih]
        · rename_i hsome
          rw [List.lookup_cons, ih]
          cases hkey : key == field.1 with
          | false => rfl
          | true =>
              rw [← eq_of_beq hkey, hnone] at hsome
              exact absurd rfl hsome
  rw [merge, List.lookup_append, hmap]
  cases hd : d.lookup key with
  | none => rw [hfilter hd, Option.map_none, Option.none_or, Option.or_none]
  | some value => cases e.lookup key <;> rfl

/-- The object can be stored in a JSON column. -/
def storable (d : Dict) : Bool := Json.storableFields d

theorem storable_iff {d : Dict} : d.storable ↔ ∀ field ∈ d, field.2.storable := by
  induction d with
  | nil => simp [storable, Json.storableFields]
  | cons field d ih =>
      simp only [storable, Json.storableFields, Bool.and_eq_true] at ih ⊢
      rw [ih, List.forall_mem_cons]

theorem storable_of_lookup {d : Dict} {key : String} {value : Json} (hd : d.storable)
    (h : d.lookup key = some value) : value.storable := by
  have hmem : ∀ fields : Dict, fields.lookup key = some value → ∃ field ∈ fields, field.2 = value := by
    intro fields
    induction fields with
    | nil => intro h; cases h
    | cons field fields ih =>
        intro h
        rw [List.lookup_cons] at h
        split at h
        · exact ⟨field, List.mem_cons_self, Option.some.inj h⟩
        · obtain ⟨other, hother, hvalue⟩ := ih h
          exact ⟨other, List.mem_cons_of_mem _ hother, hvalue⟩
  obtain ⟨field, hfield, rfl⟩ := hmem d h
  exact storable_iff.mp hd field hfield

/-- What is merged from objects that can be stored can be stored. -/
theorem storable_merge {d e : Dict} (hd : d.storable) (he : e.storable) : (merge d e).storable := by
  rw [storable_iff] at hd he ⊢
  intro field hfield
  rcases List.mem_append.mp hfield with hfirst | hsecond
  · obtain ⟨old, hold, rfl⟩ := List.mem_map.mp hfirst
    cases hlookup : e.lookup old.1 with
    | none => exact hd old hold
    | some value => exact storable_of_lookup (storable_iff.mpr he) hlookup
  · exact he field (List.mem_filter.mp hsecond).1

end Dict

theorem Json.storableItems_append {a b : List Json} :
    storableItems (a ++ b) = (storableItems a && storableItems b) := by
  induction a with
  | nil => rfl
  | cons item a ih => rw [List.cons_append, storableItems, storableItems, ih, Bool.and_assoc]

/-- Python's `str.strip()`, on the characters that `str.isspace` accepts. -/
def pyStrip (s : String) : String :=
  String.ofList ((s.toList.dropWhile isSpace).reverse.dropWhile isSpace).reverse
where
  /-- `str.isspace` for one character. -/
  isSpace (c : Char) : Bool :=
    c.toNat ∈ [9, 10, 11, 12, 13, 28, 29, 30, 31, 32, 133, 160, 5760, 8192, 8193, 8194,
      8195, 8196, 8197, 8198, 8199, 8200, 8201, 8202, 8232, 8233, 8239, 8287, 12288]

/-- What Python and PostgreSQL do with texts: `str(value)`, `str.lower`, `int(text)`,
`datetime.isoformat` of an instant, and PostgreSQL's `UPPER`. -/
structure PyText where
  str : PyValue → String
  lower : String → String
  int : String → Option ℤ
  isoformat : ℤ → String
  upper : String → String

end DcimBackend
