import Todex.Conversation.Model
import Todex.Lib.Ensures
import Todex.Lib.Json.Value
import Todex.Text

/-!
# Permission requests and decisions

A request offers options, and a decision picks one of them. The answer to a question carries data, which has to
fit what was asked.
-/

namespace Todex

/-! ### Values -/

/-- What the library does with the numbers of JSON, as floats. -/
structure JsonNumbers where
  same : Json.Number → Json.Number → Bool
  lt : Json.Number → Json.Number → Bool

/-- Numbers by their tokens, and the order of the integers. -/
def JsonNumbers.standard : JsonNumbers where
  same a b := a = b
  lt a b := (a.asI64.bind fun a => b.asI64.map fun b => decide (a < b)).getD false

namespace JsonNumbers

variable (N : JsonNumbers)

mutual
/-- Equality of values. -/
def sameValue : Json → Json → Bool
  | .null, .null => true
  | .bool a, .bool b => a = b
  | .number a, .number b => N.same a b
  | .string a, .string b => a = b
  | .array xs, .array ys => sameElems xs ys
  | .object m, .object m' => sameMembers m m'
  | _, _ => false

def sameElems : List Json → List Json → Bool
  | [], [] => true
  | x :: xs, y :: ys => sameValue x y && sameElems xs ys
  | _, _ => false

def sameMembers : List (String × Json) → List (String × Json) → Bool
  | [], [] => true
  | (k, x) :: m, (k', y) :: m' => k = k' && sameValue x y && sameMembers m m'
  | _, _ => false
end

end JsonNumbers

/-- The number, if the value is one. -/
def asNumber : Json → Option Json.Number
  | .number n => some n
  | _ => none

def isBoolean : Json → Bool
  | .bool _ => true
  | _ => false

/-- A value that is missing makes the answer a wrong one. -/
def orError {α : Type} (value : Option α) (e : AppError) : Except AppError α := value.elim (.error e) .ok

/-! ### Answers to forms -/

def invalidAnswer : AppError := .invalidRequest "Answer does not match the requested form schema."

/-- `validate_elicitation_value`, with the number of levels that are left. -/
def validateElicitationValue (N : JsonNumbers) : ℕ → Json → Json → Except AppError Unit
  | 0, _, _ => .error invalidAnswer
  | depth + 1, schema, value => do
    .require (((schema.get "enum").bind Json.asArray).all fun options => options.any (N.sameValue value)) invalidAnswer
    .require ((schema.get "const").all fun expected => N.sameValue expected value) invalidAnswer
    match schema.text "type" with
    | some "object" =>
      let object ← orError value.asObject invalidAnswer
      let properties := (schema.get "properties").bind Json.asObject
      .require (((schema.get "required").bind Json.asArray).all fun required =>
        required.all fun key => key.asStr.any fun key => (object.get key).isSome) invalidAnswer
      object.forM fun (key, value) =>
        match properties.bind (·.get key) with
        | some property => validateElicitationValue N depth property value
        | none => .require ((schema.get "additionalProperties").all fun more => !N.sameValue more (.bool false))
            invalidAnswer
    | some "array" =>
      let items ← orError value.asArray invalidAnswer
      (schema.get "items").toList.forM fun itemSchema =>
        items.forM fun item => validateElicitationValue N depth itemSchema item
      .require (((schema.get "minItems").bind Json.asU64).all fun min => min ≤ items.length) invalidAnswer
      .require (((schema.get "maxItems").bind Json.asU64).all fun max => items.length ≤ max) invalidAnswer
    | some "string" =>
      let text ← orError value.asStr invalidAnswer
      .require (((schema.get "minLength").bind Json.asU64).all fun min => min ≤ text.length) invalidAnswer
      .require (((schema.get "maxLength").bind Json.asU64).all fun max => text.length ≤ max) invalidAnswer
    | some "boolean" => .require (isBoolean value) invalidAnswer
    | some "integer" =>
      .require ((asNumber value).any fun n => n.asI64.isSome || n.asU64.isSome) invalidAnswer
    | some "number" => .require (asNumber value).isSome invalidAnswer
    | some "null" => .require value.isNull invalidAnswer
    | _ => return ()
    .require ((asNumber value).all fun n =>
      (((schema.get "minimum").bind asNumber).all fun min => !N.lt n min) &&
      (((schema.get "maximum").bind asNumber).all fun max => !N.lt max n)) invalidAnswer

/-- How many levels of a form are looked at. -/
def maxElicitationDepth : ℕ := 17

/-! ### Decisions -/

inductive PermissionOutcome
  | allowOnce
  | allowAlways
  | rejectOnce
  | rejectAlways
  | abortTurn
  | answer
deriving DecidableEq

/-- The serialized name. -/
def PermissionOutcome.asStr : PermissionOutcome → String
  | allowOnce => "allow_once"
  | allowAlways => "allow_always"
  | rejectOnce => "reject_once"
  | rejectAlways => "reject_always"
  | abortTurn => "abort_turn"
  | answer => "answer"

structure PermissionDecision where
  outcome : PermissionOutcome
  optionId : Option String
  data : Option Json

def invalidDecision : AppError := .invalidRequest "permission response does not match the pending request"

/-- An option that the decision picks. -/
def PermissionDecision.picks (self : PermissionDecision) (option : Json) : Bool :=
  option.text "kind" = some self.outcome.asStr && self.optionId.all fun id => option.text "optionId" = some id

/-- An answer to every question of the user input. -/
def answersQuestion (answers : Json.Members) (question : Json) : Bool :=
  ((((question.text "id").bind answers.get).bind (·.get "answers")).bind Json.asArray).any fun values =>
    values ≠ [] && values.all fun value => value.asStr.isSome

/-- The data of an answer fits the kind of the request. -/
def validateAnswer (N : JsonNumbers) (kind : String) (details data : Json) : Except AppError Unit :=
  if kind = "user_input" then do
    let answers ← orError ((data.get "answers").bind Json.asObject) invalidDecision
    let questions ← orError ((details.get "questions").bind Json.asArray) invalidDecision
    .require (questions ≠ [] ∧ answers.length = questions.length ∧ questions.all (answersQuestion answers))
      invalidDecision
  else if kind = "extension_ui" then
    match details.text "method" with
    | some "confirm" => .require ((data.get "confirmed").any isBoolean) invalidDecision
    | some "input" => .require (data.text "value").isSome invalidDecision
    | some "editor" => .require (data.text "value").isSome invalidDecision
    | some "select" => .require ((data.text "value").any fun value =>
        ((details.get "options").bind Json.asArray).any fun options =>
          options.any fun option => option.asStr = some value) invalidDecision
    | _ => .error invalidDecision
  else if kind = "elicitation" then do
    .require data.isObject invalidDecision
    if details.text "mode" = some "url" then
      .require (N.sameValue data (.object [("completed", .bool true)])) invalidDecision
    else
      ((details.get "requestedSchema").orElse fun _ => details.get "schema").toList.forM fun schema =>
        validateElicitationValue N maxElicitationDepth schema data
  else .require (kind = "question" ∨ kind = "questions") invalidDecision

/-- `validate_permission_decision`. -/
def validatePermissionDecision (N : JsonNumbers) (kind : String) (details options : Json)
    (decision : PermissionDecision) : Except AppError Unit := do
  let options ← orError options.asArray invalidDecision
  .require (options.any decision.picks) invalidDecision
  if decision.outcome = .answer then
    -- the id of a choice is an answer of its own
    if kind = "question" ∧ decision.data.isNone ∧ decision.optionId.isSome then return ()
    else
      let data ← orError decision.data invalidDecision
      validateAnswer N kind details data
  else
    .require (decision.data.isNone ∨ (kind = "plan" ∧ decision.outcome = .rejectOnce ∧
      (decision.data.bind (·.text "feedback")).isSome)) invalidDecision

/-! ### Options -/

/-- A text of a member, or of another one if that is missing. -/
def trimmedText (option : Json.Members) (key other : String) : Option String :=
  trimField (((option.get key).orElse fun _ => option.get other).bind Json.asStr)

def optionKinds : List String :=
  ["allow_once", "allow_always", "reject_once", "reject_always", "abort_turn", "answer"]

/-- One option of `normalize_permission_options`. -/
def normalizeOption (option : Json) : Except AppError Json := do
  let option ← orError option.asObject (.invalidRequest "permission option must be an object")
  let optionId ← orError (trimmedText option "optionId" "id") (.invalidRequest "permission option id is required")
  let name ← orError (trimmedText option "name" "label") (.invalidRequest "permission option name is required")
  let kind := ((option.get "kind").bind Json.asStr).getD optionId
  .require (kind ∈ optionKinds) (.invalidRequest s!"unsupported permission option kind {kind}")
  return .object (Json.Members.ofList [("optionId", .string optionId), ("id", .string optionId),
    ("name", .string name), ("label", .string name), ("kind", .string kind)])

/-- `normalize_permission_options`. -/
def normalizePermissionOptions : Json → Except AppError Json
  | .array options => do return .array (← options.mapM normalizeOption)
  | .null => .ok (.array [])
  | _ => .error (.invalidRequest "permission options must be an array")

end Todex
