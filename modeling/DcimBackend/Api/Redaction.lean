import DcimBackend.Api.Audit
import DcimBackend.Common.Text

/-!
# What the audit log keeps of a secret

`redact` (`apps/common/audit.py`) replaces a scalar under a sensitive key and goes on into a `dict`
or a list, where it forgets that the key was sensitive.

`AgreeApart` is the relation of two runs, of values that agree apart from hidden scalars.  Hidden is
what stands anywhere beneath a sensitive key (`deep`), or only what is its value itself;
`redact_eq_iff` says that `redact` tells two values of the first kind apart unless they are of
the second.

The relation follows the recursion of the function, through items and fields, so the proof is one
induction with three parts.  A key counts as sensitive by its lower case, and `str.lower` is a
parameter.
-/

namespace DcimBackend

/-- A value that is no container: one that JSON has, or any other object, by its `str`. -/
inductive PyScalar
  | json (value : PyValue)
  | object (str : String)
deriving DecidableEq

/-- The containers that become JSON arrays. -/
inductive SequenceKind
  | list
  | tuple
  | set
deriving DecidableEq

/-- What `write_audit` may be given. -/
inductive PyData
  | scalar (value : PyScalar)
  | sequence (kind : SequenceKind) (items : List PyData)
  | dict (fields : List (String × PyData))

/-- The scalar of JSON that `_json_safe` makes of a scalar. -/
def PyScalar.jsonSafe : PyScalar → PyValue
  | .json value => value
  | .object str => .text str

namespace PyData

mutual

/-- `_json_safe`. -/
def jsonSafe : PyData → Json
  | .scalar value => .scalar value.jsonSafe
  | .sequence _ items => .array (jsonSafeItems items)
  | .dict fields => .object (jsonSafeFields fields)

/-- `[_json_safe(v) for v in value]`. -/
def jsonSafeItems : List PyData → List Json
  | [] => []
  | item :: items => item.jsonSafe :: jsonSafeItems items

/-- `{str(k): _json_safe(v) for k, v in value.items()}`. -/
def jsonSafeFields : List (String × PyData) → List (String × Json)
  | [] => []
  | (key, value) :: fields => (key, value.jsonSafe) :: jsonSafeFields fields

end

mutual

/-- A JSON value as Python has it. -/
def ofJson : Json → PyData
  | .scalar value => .scalar (.json value)
  | .array items => .sequence .list (ofJsonItems items)
  | .object fields => .dict (ofJsonFields fields)

/-- Every item. -/
def ofJsonItems : List Json → List PyData
  | [] => []
  | item :: items => ofJson item :: ofJsonItems items

/-- Every field. -/
def ofJsonFields : List (String × Json) → List (String × PyData)
  | [] => []
  | (key, value) :: fields => (key, ofJson value) :: ofJsonFields fields

end

/-- `redact`.  Its inner calls are on parts of what `_json_safe` has returned, which `_json_safe`
leaves as they are (`jsonSafe_ofJson`). -/
def redact (lower : String → String) (value : PyData) : Json := value.jsonSafe.redact lower

mutual

/-- The values agree apart from hidden scalars.  `hidden` is whether a scalar here is, and `deep`
whether what is hidden stays so in the containers. -/
def AgreeApart (lower : String → String) (deep hidden : Bool) : PyData → PyData → Prop
  | .scalar a, .scalar b => hidden = true ∨ a.jsonSafe = b.jsonSafe
  | .sequence kind as, .sequence kind' bs =>
      kind = kind' ∧ AgreeApartItems lower deep (deep && hidden) as bs
  | .dict as, .dict bs => AgreeApartFields lower deep (deep && hidden) as bs
  | _, _ => False

/-- The lists agree item by item. -/
def AgreeApartItems (lower : String → String) (deep hidden : Bool) :
    List PyData → List PyData → Prop
  | [], [] => True
  | a :: as, b :: bs => AgreeApart lower deep hidden a b ∧ AgreeApartItems lower deep hidden as bs
  | _, _ => False

/-- The `dict`s agree field by field.  The value of a sensitive key is hidden. -/
def AgreeApartFields (lower : String → String) (deep hidden : Bool) :
    List (String × PyData) → List (String × PyData) → Prop
  | [], [] => True
  | (key, a) :: as, (key', b) :: bs =>
      key = key' ∧ AgreeApart lower deep (hidden || isSensitive lower key) a b ∧
        AgreeApartFields lower deep hidden as bs
  | _, _ => False

end

mutual

@[simp] theorem jsonSafe_ofJson : ∀ value : Json, (ofJson value).jsonSafe = value
  | .scalar _ => rfl
  | .array items => congrArg Json.array (jsonSafeItems_ofJsonItems items)
  | .object fields => congrArg Json.object (jsonSafeFields_ofJsonFields fields)

theorem jsonSafeItems_ofJsonItems : ∀ items : List Json, jsonSafeItems (ofJsonItems items) = items
  | [] => rfl
  | item :: items => congrArg₂ List.cons (jsonSafe_ofJson item) (jsonSafeItems_ofJsonItems items)

theorem jsonSafeFields_ofJsonFields :
    ∀ fields : List (String × Json), jsonSafeFields (ofJsonFields fields) = fields
  | [] => rfl
  | (key, value) :: fields =>
      congrArg₂ List.cons (congrArg (Prod.mk key) (jsonSafe_ofJson value))
        (jsonSafeFields_ofJsonFields fields)

end

end PyData

namespace Json

variable (lower : String → String)

mutual

/-- Nothing of what is left is redacted. -/
theorem redact_redact : ∀ value : Json, (value.redact lower).redact lower = value.redact lower
  | .scalar _ => rfl
  | .array items => congrArg Json.array (redactItems_redactItems items)
  | .object fields => congrArg Json.object (redactFields_redactFields fields)

theorem redactItems_redactItems :
    ∀ items : List Json, redactItems lower (redactItems lower items) = redactItems lower items
  | [] => rfl
  | item :: items => congrArg₂ List.cons (redact_redact item) (redactItems_redactItems items)

theorem redactFields_redactFields : ∀ fields : List (String × Json),
    redactFields lower (redactFields lower fields) = redactFields lower fields
  | [] => rfl
  | (key, .scalar value) :: fields => by
      simp only [redactFields, redactFields_redactFields fields]
      split <;> rfl
  | (key, .array items) :: fields => by
      simp only [redactFields, redactItems_redactItems items, redactFields_redactFields fields]
  | (key, .object inner) :: fields => by
      simp only [redactFields, redactFields_redactFields inner, redactFields_redactFields fields]

end

end Json

/-! ### Two runs -/

namespace PyData

variable {lower : String → String}

/-- The redacted fields of a `dict`, one by one. -/
theorem redactFields_cons (key : String) (value : PyData) (fields : List (String × Json)) :
    Json.redactFields lower ((key, value.jsonSafe) :: fields) =
      (key, match value with
        | .scalar a =>
            .scalar (if isSensitive lower key then .text "***REDACTED***" else a.jsonSafe)
        | other => other.redact lower) :: Json.redactFields lower fields := by
  cases value <;> rfl

mutual

/-- Values that agree apart from what stands beneath a sensitive key are redacted to the same
exactly if they agree apart from the values of sensitive keys. -/
theorem redact_eq_iff {hidden : Bool} : ∀ {v w : PyData}, AgreeApart lower true hidden v w →
    (v.redact lower = w.redact lower ↔ AgreeApart lower false false v w)
  | .scalar a, .scalar b, _ => by
      simp [redact, jsonSafe, Json.redact, AgreeApart]
  | .sequence kind as, .sequence kind' bs, h => by
      have hitems := redactItems_eq_iff h.2
      simp only [redact, jsonSafe, Json.redact, Json.array.injEq, hitems, AgreeApart, h.1,
        Bool.false_and, true_and]
  | .dict as, .dict bs, h => by
      have hfields := redactFields_eq_iff h
      simp only [redact, jsonSafe, Json.redact, Json.object.injEq, hfields, AgreeApart,
        Bool.false_and]

theorem redactItems_eq_iff {hidden : Bool} : ∀ {as bs : List PyData},
    AgreeApartItems lower true hidden as bs →
      (Json.redactItems lower (jsonSafeItems as) = Json.redactItems lower (jsonSafeItems bs) ↔
        AgreeApartItems lower false false as bs)
  | [], [], _ => iff_of_true rfl trivial
  | a :: as, b :: bs, h => by
      have hhead := redact_eq_iff h.1
      have htail := redactItems_eq_iff h.2
      simp only [jsonSafeItems, Json.redactItems, List.cons.injEq, AgreeApartItems, htail]
      rw [← hhead]
      rfl

theorem redactFields_eq_iff {hidden : Bool} : ∀ {as bs : List (String × PyData)},
    AgreeApartFields lower true hidden as bs →
      (Json.redactFields lower (jsonSafeFields as) = Json.redactFields lower (jsonSafeFields bs) ↔
        AgreeApartFields lower false false as bs)
  | [], [], _ => iff_of_true rfl trivial
  | (key, a) :: as, (key', b) :: bs, h => by
      have htail := redactFields_eq_iff h.2.2
      obtain rfl : key = key' := h.1
      simp only [jsonSafeFields, redactFields_cons, List.cons.injEq, Prod.mk.injEq, true_and, htail,
        AgreeApartFields]
      refine and_congr_left' ?_
      have hhead := redact_eq_iff h.2.1
      match a, b, h.2.1, hhead with
      | .scalar a, .scalar b, _, _ =>
          -- the one place where a scalar is replaced
          cases isSensitive lower key <;> simp [AgreeApart]
      | .sequence _ _, .sequence _ _, _, hhead => exact hhead
      | .dict _, .dict _, _, hhead => exact hhead

end

/-- **Redaction** tells two values apart that differ beneath sensitive keys exactly if they differ
in more than the values of these keys, and redacting again changes nothing. -/
theorem redact_noninterference {v w : PyData} (h : AgreeApart lower true false v w) :
    (v.redact lower = w.redact lower ↔ AgreeApart lower false false v w) ∧
      (ofJson (v.redact lower)).redact lower = v.redact lower := by
  refine ⟨redact_eq_iff h, ?_⟩
  unfold redact
  rw [jsonSafe_ofJson, Json.redact_redact]

/-- `{"password": value}`. -/
def passwordField (value : PyData) : PyData := .dict [("password", value)]

theorem isSensitive_password : isSensitive asciiLower "password" = true := by decide

theorem redact_noninterference_password :
    ((passwordField (.scalar (.json (.text "a")))).redact asciiLower =
        (passwordField (.scalar (.json (.text "b")))).redact asciiLower ↔
      AgreeApart asciiLower false false (passwordField (.scalar (.json (.text "a"))))
        (passwordField (.scalar (.json (.text "b"))))) ∧
      (ofJson ((passwordField (.scalar (.json (.text "a")))).redact asciiLower)).redact asciiLower =
        (passwordField (.scalar (.json (.text "a")))).redact asciiLower :=
  redact_noninterference ⟨rfl, Or.inl (by rw [isSensitive_password]; rfl), trivial⟩

/-- A list of passwords is stored as it is. -/
theorem passwordList_leaks :
    ¬∀ v w, AgreeApart asciiLower true false v w → v.redact asciiLower = w.redact asciiLower := by
  intro h
  let list (text : String) := passwordField (.sequence .list [.scalar (.json (.text text))])
  have hbeneath : AgreeApart asciiLower true false (list "a") (list "b") :=
    ⟨rfl, ⟨rfl, Or.inl (by rw [isSensitive_password]; rfl), trivial⟩, trivial⟩
  have hvalues := (redact_eq_iff hbeneath).mp (h _ _ hbeneath)
  obtain ⟨-, ⟨-, hleaf, -⟩, -⟩ := hvalues
  rcases hleaf with hhidden | htext
  · cases hhidden
  · exact absurd htext (by decide)

end PyData

end DcimBackend
