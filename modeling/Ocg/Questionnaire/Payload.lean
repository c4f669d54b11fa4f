import Ocg.Questionnaire.Answers
import Ocg.Schema.Rows

/-!
# Questionnaires in the database

The checks of question definitions and of answers, over the stored JSON. A value that reaches them
has been converted to `jsonb`, which refuses a NUL in any text.
-/

namespace Ocg.Questionnaire

open Json Relational

/-! ## Operators on `jsonb` -/

def hasNul (text : String) : Bool := text.toList.contains (Char.ofNat 0)

/-- The conversion to `jsonb`. -/
def toJsonb (v : Value) : Except String Value := do
  require (v.anyText hasNul = false) "unsupported Unicode escape sequence"
  .ok v

/-- `value ->> name`, where the text of an object or an array is a parameter. -/
def arrowText (render : Value → String) (name : String) (v : Value) : Option String :=
  match v.get name with
  | none => none
  | some .null => none
  | some (.bool b) => some (toString b)
  | some (.number literal) => some literal
  | some (.string text) => some text
  | some composite => some (render composite)

/-- `jsonb_array_length(value) > 0`, of a value that may be null. -/
def arrayIsNonempty : Option Value → Except String Bool
  | none => .ok false
  | some (.array elements) => .ok (elements ≠ [])
  | some (.object _) => .error "cannot get array length of a non-array"
  | some _ => .error "cannot get array length of a scalar"

section

variable {U : Type} [DecidableEq U] (t : UuidText U) (render : Value → String)

/-- `(value ->> name)::uuid`. -/
def uuidMember (name : String) (v : Value) : Option U := (arrowText render name v).bind t.cast

/-- A required identifier, with the exception raised for a null or an unreadable one. -/
def requireUuid (value : Option U) (message : String) : Except String U :=
  value.elim (.error message) .ok

/-! ## Question definitions -/

/-- One iteration of the option loop, with the identifiers seen before. -/
def validateOption (optionIds : List U) (option : Value) : Except String (List U) := do
  require (option.asObject.isSome) "questionnaire question option must be an object"
  let optionId ← requireUuid (uuidMember t render "id" option)
    "questionnaire question option id must be a uuid"
  require (optionId ∉ optionIds) "questionnaire question option ids must be unique per question"
  require (nullIfBlank (arrowText render "label" option) ≠ none)
    "questionnaire question option label is required"
  .ok (optionIds ++ [optionId])

/-- The options of a question, which may be missing. -/
def optionElements : Option Value → Except String (List Value)
  | none => .ok []
  | some (.array options) => .ok options
  | some _ => .error "questionnaire question options must be an array"

/-- One iteration of the question loop, with the identifiers seen before. -/
def validateQuestion (questionIds : List U) (question : Value) : Except String (List U) := do
  require (question.asObject.isSome) "questionnaire question must be an object"
  let questionId ← requireUuid (uuidMember t render "id" question)
    "questionnaire question id must be a uuid"
  require (questionId ∉ questionIds) "questionnaire question ids must be unique"
  require (nullIfBlank (arrowText render "prompt" question) ≠ none)
    "questionnaire question prompt is required"
  -- a null kind is not outside the list, and has no rule of its own
  let kind := arrowText render "kind" question
  require (∀ text ∈ kind, text ∈ ["free-text", "multi-select", "single-select"])
    "questionnaire question kind is invalid"
  require (((question.get "required").bind Value.asBool).isSome)
    "questionnaire question required must be a boolean"
  let options ← optionElements (question.get "options")
  require (¬ (kind = some "free-text" ∧ options ≠ []))
    "free-text questionnaire questions cannot define options"
  require (¬ (kind ∈ [some "multi-select", some "single-select"] ∧ options = []))
    "select questionnaire questions require options"
  let _ ← options.foldlM (validateOption t render) []
  .ok (questionIds ++ [questionId])

/-- `validate_questionnaire_questions_payload`. -/
def validateQuestionnaireQuestionsPayload (questions : Option Value) : Except String Unit :=
  match questions with
  | some (.array questions) => do
    let _ ← questions.foldlM (validateQuestion t render) []
    .ok ()
  | _ => .error "questionnaire questions must be an array"

/-! ## Answers -/

/-- One iteration over the submitted answers, with the identifiers seen before. -/
def validateAnswerIdentity (questions : List Value) (questionIds : List U) (answer : Value) :
    Except String (List U) := do
  require (answer.asObject.isSome) "questionnaire answer must be an object"
  let questionId ← requireUuid (uuidMember t render "question_id" answer)
    "questionnaire answer question_id must be a uuid"
  require (questionId ∉ questionIds)
    "questionnaire answers must include each question at most once"
  require (∃ question ∈ questions, uuidMember t render "id" question = some questionId)
    "questionnaire answer references an unknown question"
  .ok (questionIds ++ [questionId])

/-- One iteration over the selected options, with the identifiers seen before. -/
def validateSelection (optionIds : List (Option U)) (selectedIds : List U) (selected : Value) :
    Except String (List U) := do
  require (selected.asString.isSome)
    "multi-select questionnaire answer must be an option id array"
  let selectedId ← requireUuid (selected.asString.bind t.cast)
    "multi-select questionnaire answer must be an option id array"
  require (some selectedId ∈ optionIds) "questionnaire answer references an unknown option"
  require (selectedId ∉ selectedIds) "multi-select questionnaire answers cannot repeat options"
  .ok (selectedIds ++ [selectedId])

/-- The value of an answer against its question. -/
def validateAnswerValue (question : Value) (value : Option Value) : Except String Unit := do
  let kind := arrowText render "kind" question
  let required := (question.get "required").bind Value.asBool = some true
  let optionIds := (((question.get "options").bind Value.asArray).getD []).map
    (uuidMember t render "id")
  if kind = some "free-text" then
    match value with
    | some (.string text) =>
      require (¬ (required ∧ nullIfBlank (some text) = none))
        "required questionnaire answer is empty"
    | _ => .error "free-text questionnaire answer must be a string"
  else if kind = some "single-select" then
    match value with
    | some (.string text) => do
      let selectedId ← requireUuid (t.cast text)
        "single-select questionnaire answer must be an option id"
      require (some selectedId ∈ optionIds) "questionnaire answer references an unknown option"
    | _ => .error "single-select questionnaire answer must be an option id"
  else
    match value with
    | some (.array selected) => do
      require (¬ (required ∧ selected = [])) "required questionnaire answer is empty"
      let _ ← selected.foldlM (validateSelection t optionIds) []
      .ok ()
    | _ => .error "multi-select questionnaire answer must be an option id array"

/-- One iteration over the configured questions; the identifiers were read before. -/
def validateQuestionAnswer (answers : List Value) (question : Value) : Except String Unit :=
  match answers.find? fun answer ↦
      uuidMember t render "question_id" answer = uuidMember t render "id" question with
  | none => require (¬ (question.get "required").bind Value.asBool = some true)
    "required questionnaire answer is missing"
  | some answer => validateAnswerValue t render question (answer.get "value")

/-- `validate_questionnaire_answers_payload`. -/
def validateQuestionnaireAnswersPayload (questions answers : Option Value) :
    Except String Unit := do
  validateQuestionnaireQuestionsPayload t render questions
  let questions := (questions.bind Value.asArray).getD []
  if questions = [] then do
    let submitted ← arrayIsNonempty (answers.bind (Value.get "answers"))
    require (submitted = false)
      "questionnaire answers cannot be submitted when questions are not configured"
  else do
    require ((answers.bind Value.asObject).isSome) "questionnaire answers are required"
    match answers.bind (Value.get "answers") with
    | some (.array answers) => do
      let _ ← answers.foldlM (validateAnswerIdentity t render questions) []
      questions.forM (validateQuestionAnswer t render answers)
    | _ => .error "questionnaire answers must contain an answers array"

/-- The answers of the server, serialized, converted and checked. -/
def QuestionnaireAnswers.validateInDatabase (answers : QuestionnaireAnswers U) (stored : Value) :
    Except String Unit := do
  let submitted ← toJsonb (answers.toJson t)
  validateQuestionnaireAnswersPayload t render (some stored) (some submitted)

end

end Ocg.Questionnaire
