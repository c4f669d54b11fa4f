import Ocg.Questionnaire.Payload

/-!
# The two questionnaire checks

Both checks share the rules that compare identifiers, and each judges the texts of the answers by
itself: whether a text is blank, and which option it spells. Each check is first brought to that
form; they agree on answers exactly when these break a shared rule, or a text fails one judgement
just when a text fails the other or holds a NUL. This is `validators_agree_iff`.
-/

namespace Ocg.Questionnaire

open Json Relational

variable {U : Type} {t : UuidText U} {render : Value → String}

/-! ## What the checks share -/

def QuestionnaireAnswerValue.IsDistinct : QuestionnaireAnswerValue U → Prop
  | .many optionIds => optionIds.Nodup
  | .one _ => True

/-- The answer, if any, has the shape that the question asks for. -/
def QuestionnaireQuestion.Fits (question : QuestionnaireQuestion U) :
    Option (QuestionnaireAnswerValue U) → Prop
  | none => question.required = false
  | some (.one _) => question.kind ≠ .multiSelect
  | some (.many optionIds) => question.kind = .multiSelect
    ∧ ¬ (question.required = true ∧ optionIds = [])
    ∧ ∀ optionId ∈ optionIds, question.Offers optionId

/-- The text is blank where an answer is required, or spells no option. -/
def QuestionnaireQuestion.Refuses (blank : String → Prop) (read : String → Option U)
    (question : QuestionnaireQuestion U) (text : String) : Prop :=
  (question.kind = .freeText ∧ question.required = true ∧ blank text)
    ∨ (question.kind = .singleSelect ∧ ∀ option ∈ question.options, read text ≠ some option.id)

section Rules

variable [DecidableEq U]

structure QuestionnaireAnswers.FollowsRules (answers : QuestionnaireAnswers U)
    (questions : List (QuestionnaireQuestion U)) : Prop where
  distinctQuestions : (answers.answers.map (·.questionId)).Nodup
  distinctOptions : ∀ answer ∈ answers.answers, answer.value.IsDistinct
  known : ∀ answer ∈ answers.answers, ∃ question ∈ questions, question.id = answer.questionId
  fits : ∀ question ∈ questions, question.Fits (answers.get question.id)

def QuestionnaireAnswers.HasRefused (blank : String → Prop) (read : String → Option U)
    (answers : QuestionnaireAnswers U) (questions : List (QuestionnaireQuestion U)) : Prop :=
  ∃ question ∈ questions, ∃ text, answers.get question.id = some (.one text)
    ∧ question.Refuses blank read text

/-- The judgements of the server, and those of the database. -/
def QuestionnaireAnswers.HasRefusedByServer (t : UuidText U) (answers : QuestionnaireAnswers U)
    (questions : List (QuestionnaireQuestion U)) : Prop :=
  answers.HasRefused (fun text ↦ Text.trim text = "") t.parseStr questions

def QuestionnaireAnswers.HasRefusedByDatabase (t : UuidText U) (answers : QuestionnaireAnswers U)
    (questions : List (QuestionnaireQuestion U)) : Prop :=
  answers.HasRefused (fun text ↦ btrim text = "") t.cast questions

variable {answers : QuestionnaireAnswers U} {questions : List (QuestionnaireQuestion U)}

theorem get_of_mem (hdistinct : (answers.answers.map (·.questionId)).Nodup)
    {answer : QuestionnaireAnswer U} (h : answer ∈ answers.answers) :
    answers.get answer.questionId = some answer.value := by
  rw [QuestionnaireAnswers.get, Option.map_eq_some_iff]
  cases hfind : answers.answers.find? fun other ↦ other.questionId = answer.questionId with
  | none => simpa using List.find?_eq_none.1 hfind answer h
  | some other =>
    have hid := List.find?_some hfind
    simp only [decide_eq_true_eq] at hid
    have hmem := List.mem_of_find?_eq_some hfind
    exact ⟨other, rfl, by rw [List.inj_on_of_nodup_map hdistinct hmem h hid]⟩

theorem followsRules_nil : answers.FollowsRules [] ↔ answers.answers = [] := by
  constructor
  · intro h
    rw [List.eq_nil_iff_forall_not_mem]
    intro answer hanswer
    obtain ⟨question, hquestion, -⟩ := h.known answer hanswer
    exact List.not_mem_nil hquestion
  · intro h
    exact ⟨by simp [h], by simp [h], by simp [h], by simp⟩

theorem not_hasRefused_nil {blank : String → Prop} {read : String → Option U} :
    ¬ answers.HasRefused blank read [] := by
  rintro ⟨question, hquestion, -⟩
  exact List.not_mem_nil hquestion

end Rules

/-- A text answer holds a NUL. -/
def QuestionnaireAnswers.HasNul (answers : QuestionnaireAnswers U) : Prop :=
  ∃ answer ∈ answers.answers, ∃ text, answer.value = .one text ∧ hasNul text = true

/-! ## The check of the server -/

section Server

variable [DecidableEq U] {answers : QuestionnaireAnswers U}
  {questions : List (QuestionnaireQuestion U)} {question : QuestionnaireQuestion U}

theorem validatePayload_eq_ok : answers.validatePayload = .ok ()
    ↔ (answers.answers.map (·.questionId)).Nodup ∧ ∀ answer ∈ answers.answers,
      answer.value.IsDistinct := by
  rw [QuestionnaireAnswers.validatePayload]
  simp only [bind_eq_ok, and_true]
  rw [foldlM_keys_eq_ok (k := (·.questionId)) (P := (·.value.IsDistinct))]
  · simp
  · intro seen answer seen'
    cases hvalue : answer.value with
    | many optionIds => simp [QuestionnaireAnswerValue.IsDistinct, @eq_comm _ seen']
    | one text => simp [QuestionnaireAnswerValue.IsDistinct, @eq_comm _ seen']

theorem validateAnswer_eq_ok : question.validateAnswer t answers = .ok ()
    ↔ question.Fits (answers.get question.id) ∧ ∀ text,
      answers.get question.id = some (.one text)
        → ¬ question.Refuses (fun text ↦ Text.trim text = "") t.parseStr text := by
  rw [QuestionnaireQuestion.validateAnswer]
  cases hget : answers.get question.id with
  | none => simp [QuestionnaireQuestion.Fits]
  | some value =>
    cases value with
    | many optionIds =>
      cases hkind : question.kind with
      | freeText => simp [QuestionnaireQuestion.Fits, hkind]
      | singleSelect => simp [QuestionnaireQuestion.Fits, hkind]
      | multiSelect => simp [QuestionnaireQuestion.Fits, hkind]
    | one text =>
      cases hkind : question.kind with
      | freeText => simp [QuestionnaireQuestion.Fits, QuestionnaireQuestion.Refuses, hkind]
      | multiSelect => simp [QuestionnaireQuestion.Fits, hkind]
      | singleSelect =>
        cases hread : t.parseStr text with
        | none => simp [QuestionnaireQuestion.Fits, QuestionnaireQuestion.Refuses, hkind, hread]
        | some optionId =>
          simp only [hread]
          rw [require_eq_ok]
          simp [QuestionnaireQuestion.Fits, QuestionnaireQuestion.Refuses, hkind, hread,
            QuestionnaireQuestion.Offers, @eq_comm _ optionId]

/-- The server accepts answers that follow the rules and have no text that it refuses. -/
theorem validateAgainstQuestions_eq_ok : answers.validateAgainstQuestions t questions = .ok ()
    ↔ answers.FollowsRules questions ∧ ¬ answers.HasRefusedByServer t questions := by
  rw [QuestionnaireAnswers.validateAgainstQuestions, bind_eq_ok]
  split_ifs with hempty
  · rw [hempty, followsRules_nil]
    constructor
    · rintro ⟨_, -, h⟩
      rw [require_eq_ok] at h
      exact ⟨h, not_hasRefused_nil⟩
    · rintro ⟨h, -⟩
      exact ⟨(), validatePayload_eq_ok.2 ⟨by simp [h], by simp [h]⟩, require_of h⟩
  · constructor
    · rintro ⟨_, hpayload, h⟩
      obtain ⟨hquestions, hoptions⟩ := validatePayload_eq_ok.1 hpayload
      obtain ⟨_, hknown, hall⟩ := bind_eq_ok.1 h
      rw [require_eq_ok] at hknown
      rw [List.forM_eq_forM, forM_eq_ok] at hall
      refine ⟨⟨hquestions, hoptions, hknown, fun question hquestion ↦ ?_⟩, ?_⟩
      · exact (validateAnswer_eq_ok.1 (hall question hquestion)).1
      · rintro ⟨question, hquestion, text, hget, hrefused⟩
        exact (validateAnswer_eq_ok.1 (hall question hquestion)).2 text hget hrefused
    · rintro ⟨hrules, hnone⟩
      refine ⟨(), validatePayload_eq_ok.2 ⟨hrules.distinctQuestions, hrules.distinctOptions⟩, ?_⟩
      refine bind_eq_ok.2 ⟨(), require_of hrules.known, ?_⟩
      rw [List.forM_eq_forM, forM_eq_ok]
      intro question hquestion
      refine validateAnswer_eq_ok.2 ⟨hrules.fits question hquestion, fun text hget hrefused ↦ ?_⟩
      exact hnone ⟨question, hquestion, text, hget, hrefused⟩

end Server

/-! ## Stored questions -/

section Stored

variable {u w : U} {name : String} {v : Value}

/-- In the database, the stored value reads as the question. -/
structure QuestionnaireQuestion.StoredAs (t : UuidText U) (render : Value → String)
    (question : QuestionnaireQuestion U) (stored : Value) : Prop where
  id : uuidMember t render "id" stored = some question.id
  kind : arrowText render "kind" stored = some question.kind.text
  required : (stored.get "required").bind Value.asBool = some question.required
  options : (((stored.get "options").bind Value.asArray).getD []).map (uuidMember t render "id")
    = question.options.map fun option ↦ some option.id

@[simp] theorem requireUuid_eq_ok {value : Option U} {message : String} :
    requireUuid value message = .ok u ↔ value = some u := by
  cases value with
  | none => simp [requireUuid]
  | some w => simp [requireUuid]

theorem fromText_eq_some {text : String} {kind : QuestionnaireQuestionKind}
    (h : QuestionnaireQuestionKind.fromText text = some kind) : text = kind.text := by
  rw [QuestionnaireQuestionKind.fromText] at h
  split_ifs at h with hfree hmulti hsingle
  · exact Option.some.inj h ▸ hfree
  · exact Option.some.inj h ▸ hmulti
  · exact Option.some.inj h ▸ hsingle

theorem uuidMember_of_read (ht : t.Lawful) (hread : (v.get name).bind (uuidFromJson t) = some u)
    (hcast : uuidMember t render name v = some w) : uuidMember t render name v = some u := by
  obtain ⟨stored, hget, hstored⟩ := Option.bind_eq_some_iff.1 hread
  obtain ⟨text, htext, hparse⟩ := Option.bind_eq_some_iff.1 hstored
  rw [Value.asString_eq_some] at htext
  subst htext
  obtain ⟨text', htext', hcast'⟩ := Option.bind_eq_some_iff.1 hcast
  rw [arrowText, hget] at htext'
  obtain rfl := Option.some.inj htext'
  rw [hcast, ht.agree text u w hparse hcast']

theorem forall₂_of_mapM {α β : Type} {f : α → Option β} {rows : List α} {results : List β}
    (h : rows.mapM f = some results) : List.Forall₂ (fun row result ↦ f row = some result) rows
      results := by
  induction rows generalizing results with
  | nil =>
    obtain rfl : [] = results := by simpa using h
    exact .nil
  | cons row rows ih =>
    rw [List.mapM_cons] at h
    obtain ⟨result, hrow, hrest⟩ := Option.bind_eq_some_iff.1 h
    obtain ⟨results', hrows, hcons⟩ := Option.bind_eq_some_iff.1 hrest
    obtain rfl : result :: results' = results := by simpa using hcons
    exact .cons hrow (ih hrows)

theorem optionElements_eq_ok {options : Option Value} {elements : List Value}
    (h : optionElements options = .ok elements) :
    (options.bind Value.asArray).getD [] = elements := by
  match options with
  | none => exact Except.ok.inj h
  | some (.array _) => exact Except.ok.inj h

theorem optionIds_of_fromJson (ht : t.Lawful) {stored : Option Value}
    {options : List (QuestionnaireOption U)} (hread : optionsFromJson t stored = some options)
    (hids : ∀ option ∈ (stored.bind Value.asArray).getD [],
      ∃ w, uuidMember t render "id" option = some w) :
    ((stored.bind Value.asArray).getD []).map (uuidMember t render "id")
      = options.map fun option ↦ some option.id := by
  cases stored with
  | none =>
    obtain rfl := Option.some.inj hread
    rfl
  | some stored =>
    obtain ⟨elements, helements, hmap⟩ := Option.bind_eq_some_iff.1 hread
    rw [Option.bind_some, helements, Option.getD_some] at hids ⊢
    have hforall := forall₂_of_mapM hmap
    clear hmap hread helements
    induction hforall with
    | nil => rfl
    | cons hoption _ ih =>
      obtain ⟨⟨w, hw⟩, hids⟩ := List.forall_mem_cons.1 hids
      rw [QuestionnaireOption.fromJson] at hoption
      simp only [Option.bind_eq_bind, Option.bind_eq_some_iff, Option.some.injEq] at hoption
      obtain ⟨id, ⟨stored, hstored, hparse⟩, label, -, rfl⟩ := hoption
      rw [List.map_cons, List.map_cons, ih hids,
        uuidMember_of_read ht (by rw [hstored, Option.bind_some, hparse]) hw]

variable [DecidableEq U]

theorem exists_uuidMember_of_validateQuestion {seen seen' : List U}
    (h : validateQuestion t render seen v = .ok seen') :
    (∃ w, uuidMember t render "id" v = some w) ∧
      ∀ option ∈ ((v.get "options").bind Value.asArray).getD [],
        ∃ w, uuidMember t render "id" option = some w := by
  simp only [validateQuestion, bind_eq_ok, requireUuid_eq_ok] at h
  obtain ⟨_, -, w, hid, _, -, _, -, _, -, _, -, options, hoptions, _, -, _, -, _, hloop, -⟩ := h
  refine ⟨⟨w, hid⟩, ?_⟩
  have hall := foldlM_forall (P := fun option ↦ ∃ w, uuidMember t render "id" option = some w)
    (fun _ option _ hoption ↦ ?_) hloop
  · rwa [optionElements_eq_ok hoptions]
  · simp only [validateOption, bind_eq_ok, requireUuid_eq_ok] at hoption
    obtain ⟨_, -, w, hid, -⟩ := hoption
    exact ⟨w, hid⟩

theorem storedAs_of_fromJson (ht : t.Lawful) {question : QuestionnaireQuestion U}
    (hread : QuestionnaireQuestion.fromJson t v = some question) {seen seen' : List U}
    (hvalid : validateQuestion t render seen v = .ok seen') : question.StoredAs t render v := by
  obtain ⟨⟨w, hid⟩, hoptionIds⟩ := exists_uuidMember_of_validateQuestion hvalid
  rw [QuestionnaireQuestion.fromJson] at hread
  simp only [Option.bind_eq_bind, Option.bind_eq_some_iff, Option.some.injEq] at hread
  obtain ⟨id, ⟨stored, hstored, hparse⟩, kind, ⟨text, ⟨_, hget, htext⟩, hkind⟩, prompt, -, required,
    ⟨_, hrequired, hbool⟩, options, hoptions, rfl⟩ := hread
  rw [Value.asString_eq_some] at htext
  subst htext
  refine ⟨?_, ?_, ?_, ?_⟩
  · exact uuidMember_of_read ht (by rw [hstored, Option.bind_some, hparse]) hid
  · rw [arrowText, hget, fromText_eq_some hkind]
  · rw [hrequired, Option.bind_some, hbool]
  · rw [optionIds_of_fromJson ht hoptions hoptionIds]

end Stored

/-! ## The check of the database -/

section Database

variable {answers : QuestionnaireAnswers U} {questions : List (QuestionnaireQuestion U)}
  {question : QuestionnaireQuestion U} {v : Value} {value : QuestionnaireAnswerValue U}

theorem uuidMember_question_id (ht : t.Lawful) (answer : QuestionnaireAnswer U) :
    uuidMember t render "question_id" (answer.toJson t) = some answer.questionId :=
  ht.cast_display answer.questionId

theorem nullIfBlank_eq_none {text : String} : nullIfBlank (some text) = none ↔ btrim text = "" := by
  simp [nullIfBlank]

variable [DecidableEq U]

theorem validateSelections_eq_ok (ht : t.Lawful) {optionIds : List (Option U)} {selected : List U} :
    (∃ seen, (selected.map fun optionId ↦ Value.string (t.display optionId)).foldlM
        (validateSelection t optionIds) [] = .ok seen)
      ↔ selected.Nodup ∧ ∀ optionId ∈ selected, some optionId ∈ optionIds := by
  -- the selected options are read back, so that the loop over them looks at each identifier
  rw [List.foldlM_map, foldlM_keys_eq_ok (k := id) (P := fun optionId ↦ some optionId ∈ optionIds)]
  · simp
  · intro seen optionId seen'
    simp only [validateSelection, Value.asString, Option.bind_some, ht.cast_display, bind_eq_ok,
      requireUuid_eq_ok, require_eq_ok]
    constructor
    · rintro ⟨_, -, w, hw, _, hoffered, _, hnew, h⟩
      obtain rfl := Option.some.inj hw
      exact ⟨hnew, hoffered, (Except.ok.inj h).symm⟩
    · rintro ⟨hnew, hoffered, rfl⟩
      exact ⟨(), rfl, optionId, rfl, (), hoffered, (), hnew, rfl⟩

theorem validateAnswerValue_eq_ok (ht : t.Lawful) (hstored : question.StoredAs t render v) :
    validateAnswerValue t render v (some (value.toJson t)) = .ok ()
      ↔ question.Fits (some value) ∧ value.IsDistinct ∧ ∀ text, value = .one text
        → ¬ question.Refuses (fun text ↦ btrim text = "") t.cast text := by
  simp only [validateAnswerValue, hstored.kind, hstored.required, hstored.options]
  cases value with
  | one text =>
    cases hkind : question.kind with
    | freeText =>
      simp [QuestionnaireQuestionKind.text, QuestionnaireAnswerValue.toJson, hkind,
        QuestionnaireQuestion.Fits, QuestionnaireAnswerValue.IsDistinct,
        QuestionnaireQuestion.Refuses, nullIfBlank_eq_none]
    | singleSelect =>
      simp [QuestionnaireQuestionKind.text, QuestionnaireAnswerValue.toJson, hkind,
        QuestionnaireQuestion.Fits, QuestionnaireAnswerValue.IsDistinct,
        QuestionnaireQuestion.Refuses, and_comm]
    | multiSelect =>
      simp [QuestionnaireQuestionKind.text, QuestionnaireAnswerValue.toJson, hkind,
        QuestionnaireQuestion.Fits]
  | many optionIds =>
    cases hkind : question.kind with
    | freeText =>
      simp [QuestionnaireQuestionKind.text, QuestionnaireAnswerValue.toJson, hkind,
        QuestionnaireQuestion.Fits]
    | singleSelect =>
      simp [QuestionnaireQuestionKind.text, QuestionnaireAnswerValue.toJson, hkind,
        QuestionnaireQuestion.Fits]
    | multiSelect =>
      simp [QuestionnaireQuestionKind.text, QuestionnaireAnswerValue.toJson, hkind,
        QuestionnaireQuestion.Fits, QuestionnaireAnswerValue.IsDistinct,
        QuestionnaireQuestion.Offers, validateSelections_eq_ok ht, and_left_comm, and_comm]

theorem validateQuestionAnswer_eq_ok (ht : t.Lawful) (answers : QuestionnaireAnswers U)
    (hstored : question.StoredAs t render v) :
    validateQuestionAnswer t render (answers.answers.map (·.toJson t)) v = .ok ()
      ↔ question.Fits (answers.get question.id)
        ∧ (∀ value, answers.get question.id = some value → value.IsDistinct)
        ∧ ∀ text, answers.get question.id = some (.one text)
          → ¬ question.Refuses (fun text ↦ btrim text = "") t.cast text := by
  have hfind : (answers.answers.map (·.toJson t)).find?
      (fun answer ↦ uuidMember t render "question_id" answer = uuidMember t render "id" v)
      = (answers.answers.find? fun answer ↦ answer.questionId = question.id).map (·.toJson t) := by
    rw [List.find?_map]
    congr 2
    funext answer
    simp [uuidMember_question_id ht, hstored.id]
  rw [validateQuestionAnswer, hfind, QuestionnaireAnswers.get]
  cases answers.answers.find? fun answer ↦ answer.questionId = question.id with
  | none => simp [QuestionnaireQuestion.Fits, hstored.required]
  | some answer =>
    have hget : (answer.toJson t).get "value" = some (answer.value.toJson t) := rfl
    simp only [Option.map_some, hget, validateAnswerValue_eq_ok ht hstored, Option.some.injEq]
    simp

theorem validateIdentities_eq_ok (ht : t.Lawful) {stored : List Value} :
    (∃ seen, (answers.answers.map (·.toJson t)).foldlM (validateAnswerIdentity t render stored) []
        = .ok seen)
      ↔ (answers.answers.map (·.questionId)).Nodup ∧ ∀ answer ∈ answers.answers,
        ∃ question ∈ stored, uuidMember t render "id" question = some answer.questionId := by
  -- the answer identifiers are read back, so that the loop over them looks at each identifier
  rw [List.foldlM_map, foldlM_keys_eq_ok (k := (·.questionId)) (P := fun answer ↦
    ∃ question ∈ stored, uuidMember t render "id" question = some answer.questionId)]
  · simp
  · intro seen answer seen'
    simp only [validateAnswerIdentity, uuidMember_question_id ht, bind_eq_ok, requireUuid_eq_ok,
      require_eq_ok]
    constructor
    · rintro ⟨_, -, w, hw, _, hnew, _, hknown, h⟩
      obtain rfl := Option.some.inj hw
      exact ⟨hnew, hknown, (Except.ok.inj h).symm⟩
    · rintro ⟨hnew, hknown, rfl⟩
      exact ⟨(), rfl, answer.questionId, rfl, (), hnew, (), hknown, rfl⟩

/-- The database reads the questions that the server reads. -/
theorem exists_storedAs (ht : t.Lawful) {stored : Value}
    (hread : questionsFromJson t stored = some questions)
    (hvalid : validateQuestionnaireQuestionsPayload t render (some stored) = .ok ()) :
    ∃ elements, stored = .array elements ∧
      List.Forall₂ (fun v question ↦ question.StoredAs t render v) elements questions := by
  match stored with
  | .array elements =>
    obtain ⟨seen, hloop, -⟩ := bind_eq_ok.1 hvalid
    have hall := foldlM_forall
      (P := fun v ↦ ∃ seen seen', validateQuestion t render seen v = .ok seen')
      (fun seen v seen' h ↦ ⟨seen, seen', h⟩) hloop
    refine ⟨elements, rfl, ?_⟩
    refine ((List.forall₂_and_left _ _).2 ⟨hall, forall₂_of_mapM hread⟩).imp ?_
    rintro v question ⟨⟨seen, seen', hv⟩, hquestion⟩
    exact storedAs_of_fromJson ht hquestion hv

theorem forall_iff_of_forall₂ {α β : Type} {R : α → β → Prop} {p : α → Prop} {q : β → Prop}
    (hpq : ∀ a b, R a b → (p a ↔ q b)) {rows : List α} {results : List β}
    (h : List.Forall₂ R rows results) : (∀ a ∈ rows, p a) ↔ ∀ b ∈ results, q b := by
  induction h with
  | nil => simp
  | cons hab _ ih => rw [List.forall_mem_cons, List.forall_mem_cons, hpq _ _ hab, ih]

/-- The database accepts answers that follow the rules and have no text that it refuses. -/
theorem validateQuestionnaireAnswersPayload_eq_ok (ht : t.Lawful) {stored : Value}
    (hread : questionsFromJson t stored = some questions)
    (hvalid : validateQuestionnaireQuestionsPayload t render (some stored) = .ok ()) :
    validateQuestionnaireAnswersPayload t render (some stored) (some (answers.toJson t)) = .ok ()
      ↔ answers.FollowsRules questions ∧ ¬ answers.HasRefusedByDatabase t questions := by
  obtain ⟨elements, rfl, hforall⟩ := exists_storedAs ht hread hvalid
  have hanswers : (answers.toJson t).get "answers"
    = some (.array (answers.answers.map (·.toJson t))) := rfl
  have hknown (id : U) : (∃ v ∈ elements, uuidMember t render "id" v = some id)
      ↔ ∃ question ∈ questions, question.id = id := by
    have h := forall_iff_of_forall₂ (p := fun v ↦ uuidMember t render "id" v ≠ some id)
      (q := fun question ↦ question.id ≠ id) (fun v question hv ↦ by simp [hv.id]) hforall
    rw [← not_iff_not]
    push Not
    exact h
  have hvalues := forall_iff_of_forall₂
    (fun v question hv ↦ validateQuestionAnswer_eq_ok ht answers hv) hforall
  have hobject : (answers.toJson t).asObject.isSome = true := rfl
  have helements : (Value.array elements).asArray.getD [] = elements := rfl
  simp only [validateQuestionnaireAnswersPayload, hvalid, ok_bind, helements, Option.bind_some,
    hanswers]
  split_ifs with hempty
  · subst hempty
    obtain rfl := List.forall₂_nil_left_iff.1 hforall
    rw [followsRules_nil]
    simp [arrayIsNonempty, QuestionnaireAnswers.HasRefusedByDatabase, not_hasRefused_nil]
  · simp only [bind_eq_ok, require_eq_ok, List.forM_eq_forM, forM_eq_ok, hvalues, hobject]
    constructor
    · rintro ⟨_, -, seen, hloop, hall⟩
      obtain ⟨hdistinct, hids⟩ := (validateIdentities_eq_ok ht).1 ⟨seen, hloop⟩
      refine ⟨⟨hdistinct, fun answer hanswer ↦ ?_, fun answer hanswer ↦ ?_,
        fun question hquestion ↦ ?_⟩, ?_⟩
      · obtain ⟨question, hquestion, hid⟩ := (hknown _).1 (hids answer hanswer)
        apply (hall question hquestion).2.1
        rw [hid]
        exact get_of_mem hdistinct hanswer
      · exact (hknown _).1 (hids answer hanswer)
      · exact (hall question hquestion).1
      · rintro ⟨question, hquestion, text, hget, hrefused⟩
        exact (hall question hquestion).2.2 text hget hrefused
    · rintro ⟨hrules, hnone⟩
      obtain ⟨seen, hloop⟩ := (validateIdentities_eq_ok ht).2
        ⟨hrules.distinctQuestions, fun answer hanswer ↦ (hknown _).2 (hrules.known answer hanswer)⟩
      refine ⟨(), trivial, seen, hloop, fun question hquestion ↦
        ⟨hrules.fits question hquestion, ?_, ?_⟩⟩
      · intro value hget
        obtain ⟨answer, hfind, rfl⟩ := Option.map_eq_some_iff.1 hget
        exact hrules.distinctOptions answer (List.mem_of_find?_eq_some hfind)
      · intro text hget hrefused
        exact hnone ⟨question, hquestion, text, hget, hrefused⟩

end Database

/-! ## The conversion to `jsonb` -/

section Conversion

variable {answers : QuestionnaireAnswers U} {answer : QuestionnaireAnswer U}

theorem hasNul_display (ht : t.Lawful) (u : U) : hasNul (t.display u) = false := by
  -- an identifier is written without a NUL
  rw [hasNul, List.contains_eq_mem]
  exact decide_eq_false (ht.noNul u)

theorem anyText_answer (ht : t.Lawful) : (answer.toJson t).anyText hasNul = true
    ↔ ∃ text, answer.value = .one text ∧ hasNul text = true := by
  -- an answer holds a NUL only in its text
  have hid : hasNul "question_id" = false := by decide
  have hname : hasNul "value" = false := by decide
  rw [QuestionnaireAnswer.toJson, Value.anyText_object]
  cases answer.value with
  | one text =>
    simp [QuestionnaireAnswerValue.toJson, Value.anyText, hasNul_display ht, hid, hname]
  | many optionIds =>
    have hmany : ¬ (QuestionnaireAnswerValue.toJson t (.many optionIds)).anyText hasNul = true := by
      rw [QuestionnaireAnswerValue.toJson, Value.anyText_array]
      simp [Value.anyText, hasNul_display ht]
    simp [Value.anyText, hasNul_display ht, hid, hname, hmany]

/-- The conversion to `jsonb` refuses exactly the answers that hold a NUL. -/
theorem toJsonb_eq_ok (ht : t.Lawful) {v : Value} :
    toJsonb (answers.toJson t) = .ok v ↔ ¬ answers.HasNul ∧ answers.toJson t = v := by
  have hanswers : hasNul "answers" = false := by decide
  have hnul : (answers.toJson t).anyText hasNul = true ↔ answers.HasNul := by
    rw [QuestionnaireAnswers.toJson, Value.anyText_object]
    simp [Value.anyText_array, anyText_answer ht, QuestionnaireAnswers.HasNul, hanswers]
  rw [toJsonb, ← hnul, Bool.not_eq_true]
  simp

end Conversion

/-! ## Both checks -/

section Both

variable [DecidableEq U] {stored : Value} {questions : List (QuestionnaireQuestion U)}
  {answers : QuestionnaireAnswers U}

/-- The answers reach the database unless they hold a NUL, and are checked there. -/
theorem validateInDatabase_eq_ok (ht : t.Lawful)
    (hread : questionsFromJson t stored = some questions)
    (hvalid : validateQuestionnaireQuestionsPayload t render (some stored) = .ok ()) :
    answers.validateInDatabase t render stored = .ok () ↔ answers.FollowsRules questions
      ∧ ¬ (answers.HasRefusedByDatabase t questions ∨ answers.HasNul) := by
  rw [QuestionnaireAnswers.validateInDatabase, bind_eq_ok]
  simp only [toJsonb_eq_ok ht]
  constructor
  · rintro ⟨_, ⟨hnul, rfl⟩, h⟩
    obtain ⟨hrules, hnone⟩ := (validateQuestionnaireAnswersPayload_eq_ok ht hread hvalid).1 h
    exact ⟨hrules, not_or.2 ⟨hnone, hnul⟩⟩
  · rintro ⟨hrules, hnone⟩
    obtain ⟨hnone, hnul⟩ := not_or.1 hnone
    exact ⟨_, ⟨hnul, rfl⟩,
      (validateQuestionnaireAnswersPayload_eq_ok ht hread hvalid).2 ⟨hrules, hnone⟩⟩

end Both

/-! ## Agreement -/

/-- A hyphenated identifier in lower case. -/
def isHyphenated (text : String) : Bool :=
  text.toList.map (fun c ↦ if "0123456789abcdef".toList.contains c then 'x' else c)
    = "xxxxxxxx-xxxx-xxxx-xxxx-xxxxxxxxxxxx".toList

def hyphenated? (text : String) : Option {text : String // isHyphenated text = true} :=
  if h : isHyphenated text = true then some ⟨text, h⟩ else none

/-- Both read an identifier as it is written; the uuid crate reads a URN as well. -/
def sampleText : UuidText {text : String // isHyphenated text = true} where
  display := Subtype.val
  parseStr text :=
    (hyphenated? text).or ((text.dropPrefix? "urn:uuid:").bind fun rest ↦ hyphenated? rest.toString)
  cast := hyphenated?

theorem hyphenated?_eq_some {text : String} {u : {text : String // isHyphenated text = true}} :
    hyphenated? text = some u ↔ text = u.1 := by
  rw [hyphenated?]
  split_ifs with h
  · rw [Option.some.injEq, Subtype.ext_iff]
  · refine iff_of_false nofun ?_
    rintro rfl
    exact h u.2

theorem sampleText_lawful : sampleText.Lawful where
  parseStr_display u := by simp [sampleText, hyphenated?_eq_some.2 rfl]
  cast_display u := hyphenated?_eq_some.2 rfl
  agree text u v hparse hcast := by
    change hyphenated? text = some v at hcast
    simp only [sampleText, hcast, Option.some_or] at hparse
    exact (Option.some.inj hparse).symm
  noNul u hmem := by
    change Char.ofNat 0 ∈ u.1.toList at hmem
    have hmap := List.mem_map_of_mem
      (f := fun c ↦ if "0123456789abcdef".toList.contains c then 'x' else c) hmem
    rw [of_decide_eq_true u.2] at hmap
    revert hmap
    decide

def sampleId : {text : String // isHyphenated text = true} :=
  ⟨"00000000-0000-0000-0000-000000000001", by decide⟩

/-- One required question for free text. -/
def sampleStored : Value :=
  .array [.object [("id", .string sampleId.1), ("kind", .string "free-text"),
    ("prompt", .string "Why?"), ("required", .bool true)]]

def sampleQuestion : QuestionnaireQuestion {text : String // isHyphenated text = true} :=
  ⟨sampleId, .freeText, "Why?", true, []⟩

def sampleAnswers (text : String) :
    QuestionnaireAnswers {text : String // isHyphenated text = true} :=
  ⟨[⟨sampleId, .one text⟩]⟩

/-- On a stored question list, the check of the server and the check of the database agree on
answers exactly when these break a rule of their structure, or the server refuses a text of theirs
just when the database refuses one or one of them holds a NUL. -/
theorem validators_agree_iff [DecidableEq U] (t : UuidText U) (ht : t.Lawful)
    (render : Value → String) (stored : Value) (questions : List (QuestionnaireQuestion U))
    (hread : questionsFromJson t stored = some questions)
    (hvalid : validateQuestionnaireQuestionsPayload t render (some stored) = .ok ())
    (answers : QuestionnaireAnswers U) :
    (answers.validateAgainstQuestions t questions = .ok ()
        ↔ answers.validateInDatabase t render stored = .ok ())
      ↔ (answers.FollowsRules questions → (answers.HasRefusedByServer t questions
        ↔ answers.HasRefusedByDatabase t questions ∨ answers.HasNul)) := by
  rw [validateAgainstQuestions_eq_ok, validateInDatabase_eq_ok ht hread hvalid,
    and_congr_right_iff, not_iff_not]

/-- A text with more than white space is accepted by both. -/
theorem validators_agree_iff_sample :
    (sampleAnswers "Because.").validateAgainstQuestions sampleText [sampleQuestion] = .ok ()
      ↔ (sampleAnswers "Because.").validateInDatabase sampleText (fun _ ↦ "") sampleStored
        = .ok () := by
  have hread : questionsFromJson sampleText sampleStored = some [sampleQuestion] := by
    decide +kernel
  have hvalid : validateQuestionnaireQuestionsPayload sampleText (fun _ ↦ "") (some sampleStored)
      = .ok () := by decide +kernel
  have hserver : (sampleAnswers "Because.").validateAgainstQuestions sampleText [sampleQuestion]
      = .ok () := by decide +kernel
  have hdatabase : (sampleAnswers "Because.").validateInDatabase sampleText (fun _ ↦ "")
      sampleStored = .ok () := by decide +kernel
  have hserver' := (validateAgainstQuestions_eq_ok.1 hserver).2
  have hdatabase' := ((validateInDatabase_eq_ok sampleText_lawful hread hvalid).1 hdatabase).2
  exact (validators_agree_iff sampleText sampleText_lawful (fun _ ↦ "") sampleStored
    [sampleQuestion] hread hvalid (sampleAnswers "Because.")).2 fun _ ↦
      iff_of_false hserver' hdatabase'

/-- A line break is blank for the server and not for the database, which removes only spaces. -/
theorem not_validators_agree :
    questionsFromJson sampleText sampleStored = some [sampleQuestion]
      ∧ validateQuestionnaireQuestionsPayload sampleText (fun _ ↦ "") (some sampleStored) = .ok ()
      ∧ ¬ ((sampleAnswers "\n").validateAgainstQuestions sampleText [sampleQuestion] = .ok ()
        ↔ (sampleAnswers "\n").validateInDatabase sampleText (fun _ ↦ "") sampleStored
          = .ok ()) := by
  decide +kernel

end Ocg.Questionnaire
