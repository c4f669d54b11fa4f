import Ocg.Json.Value
import Ocg.Relational.Transaction
import Ocg.Text.Trim

/-!
# Questionnaires in the server

The questions an event asks, as they are read from their stored form, the answers that a form
submits, and the check of the answers before they are sent to the database, with the error texts of
the source. Identifiers and their spelling are the uuid crate's and the database's, so they are
parameters.
-/

namespace Ocg.Questionnaire

open Json Relational

/-- How identifiers are written and read. -/
structure UuidText (U : Type) where
  /-- `Uuid`'s `Display`, which is also how it is serialized. -/
  display : U → String
  /-- `Uuid::parse_str`. -/
  parseStr : String → Option U
  /-- `text::uuid`. -/
  cast : String → Option U

/-- What is written is read back by both and has no NUL, and what both read they read alike. -/
structure UuidText.Lawful {U : Type} (t : UuidText U) : Prop where
  parseStr_display : ∀ u, t.parseStr (t.display u) = some u
  cast_display : ∀ u, t.cast (t.display u) = some u
  agree : ∀ text u v, t.parseStr text = some u → t.cast text = some v → u = v
  noNul : ∀ u, Char.ofNat 0 ∉ (t.display u).toList

/-! ## Questions and answers -/

inductive QuestionnaireQuestionKind
  | freeText
  | multiSelect
  | singleSelect
  deriving DecidableEq, Repr

/-- The kind as it is serialized. -/
def QuestionnaireQuestionKind.text : QuestionnaireQuestionKind → String
  | .freeText => "free-text"
  | .multiSelect => "multi-select"
  | .singleSelect => "single-select"

variable {U : Type}

structure QuestionnaireOption (U : Type) where
  id : U
  label : String
  deriving DecidableEq, Repr

structure QuestionnaireQuestion (U : Type) where
  id : U
  kind : QuestionnaireQuestionKind
  prompt : String
  required : Bool
  options : List (QuestionnaireOption U)
  deriving DecidableEq, Repr

/-- Option identifiers, or free text or one option identifier. -/
inductive QuestionnaireAnswerValue (U : Type)
  | many (optionIds : List U)
  | one (text : String)
  deriving DecidableEq, Repr

structure QuestionnaireAnswer (U : Type) where
  questionId : U
  value : QuestionnaireAnswerValue U
  deriving DecidableEq, Repr

structure QuestionnaireAnswers (U : Type) where
  answers : List (QuestionnaireAnswer U)
  deriving DecidableEq, Repr

/-! ## Validation -/

section Validation

variable [DecidableEq U] (t : UuidText U)

/-- `get`: the answer value submitted for one question. -/
def QuestionnaireAnswers.get (answers : QuestionnaireAnswers U) (questionId : U) :
    Option (QuestionnaireAnswerValue U) :=
  (answers.answers.find? fun answer ↦ answer.questionId = questionId).map (·.value)

/-- `validate_payload`: the answer structure that does not require question definitions. -/
def QuestionnaireAnswers.validatePayload (answers : QuestionnaireAnswers U) :
    Except String Unit := do
  let _ ← answers.answers.foldlM (fun questionIds answer ↦ do
    require (answer.questionId ∉ questionIds)
      "questionnaire answers must include each question at most once"
    match answer.value with
    | .many optionIds =>
      require optionIds.Nodup "multi-select questionnaire answers cannot repeat options"
    | .one _ => .ok ()
    .ok (questionIds ++ [answer.questionId])) []
  .ok ()

/-- The question offers the option. -/
def QuestionnaireQuestion.Offers (question : QuestionnaireQuestion U) (optionId : U) : Prop :=
  ∃ option ∈ question.options, option.id = optionId

instance (question : QuestionnaireQuestion U) (optionId : U) :
    Decidable (question.Offers optionId) :=
  inferInstanceAs (Decidable (∃ option ∈ question.options, _))

/-- `validate_answer`. -/
def QuestionnaireQuestion.validateAnswer (question : QuestionnaireQuestion U)
    (answers : QuestionnaireAnswers U) : Except String Unit :=
  match answers.get question.id with
  | none => require (question.required = false) "required questionnaire answer is missing"
  | some value =>
    match question.kind, value with
    | .freeText, .one text =>
      require (¬ (question.required = true ∧ Text.trim text = ""))
        "required questionnaire answer is empty"
    | .singleSelect, .one text =>
      match t.parseStr text with
      | none => .error "single-select questionnaire answer must be an option id"
      | some selectedOptionId =>
        require (question.Offers selectedOptionId)
          "questionnaire answer references an unknown option"
    | .multiSelect, .many optionIds => do
      require (¬ (question.required = true ∧ optionIds = []))
        "required questionnaire answer is empty"
      require (∀ optionId ∈ optionIds, question.Offers optionId)
        "questionnaire answer references an unknown option"
    | .freeText, .many _ => .error "free-text questionnaire answer must be a string"
    | .singleSelect, .many _ => .error "single-select questionnaire answer must be an option id"
    | .multiSelect, .one _ =>
      .error "multi-select questionnaire answer must be an option id array"

/-- `validate_against_questions`. -/
def QuestionnaireAnswers.validateAgainstQuestions (answers : QuestionnaireAnswers U)
    (questions : List (QuestionnaireQuestion U)) : Except String Unit := do
  answers.validatePayload
  if questions = [] then
    require (answers.answers = [])
      "questionnaire answers cannot be submitted when questions are not configured"
  else do
    require (∀ answer ∈ answers.answers, ∃ question ∈ questions, question.id = answer.questionId)
      "questionnaire answer references an unknown question"
    questions.forM fun question ↦ question.validateAnswer t answers

end Validation

/-! ## Serialization -/

section Serialization

variable (t : UuidText U)

def QuestionnaireAnswerValue.toJson : QuestionnaireAnswerValue U → Value
  | .many optionIds => .array (optionIds.map fun optionId ↦ .string (t.display optionId))
  | .one text => .string text

def QuestionnaireAnswer.toJson (answer : QuestionnaireAnswer U) : Value :=
  .object [("question_id", .string (t.display answer.questionId)),
    ("value", answer.value.toJson t)]

def QuestionnaireAnswers.toJson (answers : QuestionnaireAnswers U) : Value :=
  .object [("answers", .array (answers.answers.map (·.toJson t)))]

end Serialization

/-! ## Deserialization -/

section Deserialization

variable (t : UuidText U)

/-- An identifier is read from its text. -/
def uuidFromJson (v : Value) : Option U := v.asString.bind t.parseStr

def QuestionnaireQuestionKind.fromText (text : String) : Option QuestionnaireQuestionKind :=
  if text = "free-text" then some .freeText
  else if text = "multi-select" then some .multiSelect
  else if text = "single-select" then some .singleSelect
  else none

def QuestionnaireOption.fromJson (v : Value) : Option (QuestionnaireOption U) := do
  let id ← (v.get "id").bind (uuidFromJson t)
  let label ← (v.get "label").bind Value.asString
  some ⟨id, label⟩

/-- The options are the only member of a question that may be missing. -/
def optionsFromJson : Option Value → Option (List (QuestionnaireOption U))
  | none => some []
  | some options => options.asArray.bind (List.mapM (QuestionnaireOption.fromJson t))

def QuestionnaireQuestion.fromJson (v : Value) : Option (QuestionnaireQuestion U) := do
  let id ← (v.get "id").bind (uuidFromJson t)
  let kind ← ((v.get "kind").bind Value.asString).bind QuestionnaireQuestionKind.fromText
  let prompt ← (v.get "prompt").bind Value.asString
  let required ← (v.get "required").bind Value.asBool
  let options ← optionsFromJson t (v.get "options")
  some ⟨id, kind, prompt, required, options⟩

/-- The question list of an event, from its stored form. -/
def questionsFromJson (stored : Value) : Option (List (QuestionnaireQuestion U)) :=
  stored.asArray.bind (List.mapM (QuestionnaireQuestion.fromJson t))

end Deserialization

end Ocg.Questionnaire
