import NanoCore.Assistant.Rules.Decisions

namespace NanoCore.Assistant.Rules.DecisionGrammar

open NanoCore.Assistant.Rules.Decisions
open NanoCore.Common.JsonParsing
open NanoCore.Foundation.JsonLoads
open NanoCore.Foundation.JsonText
open NanoCore.Foundation.PythonText

variable {payload : JsonObject} {value : Option Json}

/-- The extracted value is an object with this `type`. -/
def HasType (value : Option Json) (payload : JsonObject) (decisionType : String) : Prop :=
  value = some (.obj payload) ∧ payload.get "type" = some (.str decisionType.toList)

/-- A string that is not blank. -/
def IsContent (value : Option Json) (content : Text) : Prop :=
  value = some (.str content) ∧ strip content ≠ []

def IsFinal (value : Option Json) (content : Text) : Prop :=
  ∃ payload, HasType value payload "final" ∧ IsContent (payload.get "content") content

/-- The content is kept only if it is a string that is not blank. -/
def IsAnswerIntent (value : Option Json) (content : Option Text) : Prop :=
  ∃ payload, HasType value payload "answer_intent" ∧
    ∀ kept, content = some kept ↔ IsContent (payload.get "content") kept

/-- Absent arguments count as none. -/
def IsToolCall (value : Option Json) (tool : String) (args : JsonObject) : Prop :=
  ∃ payload, HasType value payload "tool_call" ∧
    payload.get "tool" = some (.str tool.toList) ∧
      (payload.get "args" = some (.obj args) ∨ payload.get "args" = none ∧ args = [])

/-- The decision that the grammar gives to an extracted value. -/
inductive Grammar (value : Option Json) : Decision → Prop
  | final {content : Text} (h : IsFinal value content) : Grammar value (.final content)
  | answerIntent {content : Option Text} (h : IsAnswerIntent value content) :
      Grammar value (.answerIntent content)
  | toolCall {tool : String} {args : JsonObject} (h : IsToolCall value tool args) :
      Grammar value (.toolCall tool args)
  | invalid (hfinal : ∀ content, ¬ IsFinal value content)
      (hintent : ∀ content, ¬ IsAnswerIntent value content)
      (hcall : ∀ tool args, ¬ IsToolCall value tool args) : Grammar value .invalid

theorem nonBlankText_eq_some_iff {content : Text} :
    nonBlankText value = some content ↔ IsContent value content := by
  rw [IsContent]
  match value with
  | some (.str s) =>
      rw [nonBlankText]
      by_cases hblank : strip s = []
      · rw [if_pos hblank]
        constructor
        · rintro ⟨⟩
        · rintro ⟨⟨⟩, hcontent⟩
          exact absurd hblank hcontent
      · rw [if_neg hblank]
        constructor
        · rintro ⟨⟩
          exact ⟨rfl, hblank⟩
        · rintro ⟨⟨⟩, -⟩
          rfl
  | none | some .null | some (.bool _) | some (.int _) | some (.float _) | some (.arr _)
  | some (.obj _) => simp [nonBlankText]

theorem isText_eq_true_iff {text : String} :
    isText value text = true ↔ value = some (.str text.toList) := by
  match value with
  | some (.str s) => simp [isText]
  | none | some .null | some (.bool _) | some (.int _) | some (.float _) | some (.arr _)
  | some (.obj _) => simp [isText]

/-- The arguments of a call, where absent ones count as none. -/
theorem args_eq_iff {args : JsonObject} :
    (payload.get "args").getD (.obj []) = .obj args ↔
      payload.get "args" = some (.obj args) ∨ payload.get "args" = none ∧ args = [] := by
  cases payload.get "args" with
  | none => simp [eq_comm]
  | some given => simp

theorem toolCallOf_eq_toolCall_iff {tool : String} {args : JsonObject} :
    toolCallOf payload = .toolCall tool args ↔
      payload.get "tool" = some (.str tool.toList) ∧
        (payload.get "args").getD (.obj []) = .obj args := by
  rw [toolCallOf]
  constructor
  · intro h
    split at h
    · rename_i name given hname hgiven
      cases h
      rw [hname, hgiven, String.toList_ofList]
      exact ⟨rfl, rfl⟩
    · cases h
  · rintro ⟨hname, hgiven⟩
    simp only [hname, hgiven, String.ofList_toList]

theorem toolCallOf_cases (payload : JsonObject) :
    toolCallOf payload = .invalid ∨ ∃ tool args, toolCallOf payload = .toolCall tool args := by
  rw [toolCallOf]
  split
  · exact .inr ⟨_, _, rfl⟩
  · exact .inl rfl

theorem HasType.unique {other : JsonObject} {a b : String} (h : HasType value payload a)
    (h' : HasType value other b) : payload = other ∧ a = b := by
  obtain ⟨rfl, htype⟩ := h
  obtain ⟨hvalue, htype'⟩ := h'
  cases hvalue
  rw [htype] at htype'
  exact ⟨rfl, String.toList_inj.mp (Json.str.inj (Option.some.inj htype'))⟩

theorem IsContent.unique {a b : Text} (h : IsContent value a) (h' : IsContent value b) :
    a = b := by
  have heq := h.1.symm.trans h'.1
  exact Json.str.inj (Option.some.inj heq)

section Unique

variable {payload' : JsonObject} {content : Text} {tool : String} {args : JsonObject}
variable {kept : Option Text}

theorem not_isFinal_of_type {decisionType : String} (h : HasType value payload decisionType)
    (hne : decisionType ≠ "final") : ¬ IsFinal value content := by
  rintro ⟨other, htype, -⟩
  exact hne (h.unique htype).2

theorem not_isAnswerIntent_of_type {decisionType : String}
    (h : HasType value payload decisionType) (hne : decisionType ≠ "answer_intent") :
    ¬ IsAnswerIntent value kept := by
  rintro ⟨other, htype, -⟩
  exact hne (h.unique htype).2

theorem not_isToolCall_of_type {decisionType : String} (h : HasType value payload decisionType)
    (hne : decisionType ≠ "tool_call") : ¬ IsToolCall value tool args := by
  rintro ⟨other, htype, -⟩
  exact hne (h.unique htype).2

theorem IsFinal.unique {content' : Text} (h : IsFinal value content)
    (h' : IsFinal value content') : content = content' := by
  obtain ⟨payload, htype, hcontent⟩ := h
  obtain ⟨payload', htype', hcontent'⟩ := h'
  obtain ⟨rfl, -⟩ := htype.unique htype'
  exact hcontent.unique hcontent'

theorem IsAnswerIntent.unique {kept' : Option Text} (h : IsAnswerIntent value kept)
    (h' : IsAnswerIntent value kept') : kept = kept' := by
  obtain ⟨payload, htype, hkept⟩ := h
  obtain ⟨payload', htype', hkept'⟩ := h'
  obtain ⟨rfl, -⟩ := htype.unique htype'
  apply Option.ext
  intro content
  exact (hkept content).trans (hkept' content).symm

theorem IsToolCall.unique {tool' : String} {args' : JsonObject} (h : IsToolCall value tool args)
    (h' : IsToolCall value tool' args') : tool = tool' ∧ args = args' := by
  obtain ⟨payload, htype, htool, hargs⟩ := h
  obtain ⟨payload', htype', htool', hargs'⟩ := h'
  obtain ⟨rfl, -⟩ := htype.unique htype'
  rw [htool] at htool'
  rw [← args_eq_iff] at hargs hargs'
  rw [hargs] at hargs'
  exact ⟨String.toList_inj.mp (Json.str.inj (Option.some.inj htool')), Json.obj.inj hargs'⟩

end Unique

theorem Grammar.unique {decision decision' : Decision} (h : Grammar value decision)
    (h' : Grammar value decision') : decision = decision' := by
  cases h with
  | final hfinal =>
      have htype := hfinal
      obtain ⟨payload, htype, -⟩ := htype
      cases h' with
      | final hfinal' => rw [hfinal.unique hfinal']
      | answerIntent hintent => exact absurd hintent (not_isAnswerIntent_of_type htype (by decide))
      | toolCall hcall => exact absurd hcall (not_isToolCall_of_type htype (by decide))
      | invalid hnone => exact absurd hfinal (hnone _)
  | answerIntent hintent =>
      have htype := hintent
      obtain ⟨payload, htype, -⟩ := htype
      cases h' with
      | final hfinal => exact absurd hfinal (not_isFinal_of_type htype (by decide))
      | answerIntent hintent' => rw [hintent.unique hintent']
      | toolCall hcall => exact absurd hcall (not_isToolCall_of_type htype (by decide))
      | invalid _ hnone => exact absurd hintent (hnone _)
  | toolCall hcall =>
      have htype := hcall
      obtain ⟨payload, htype, -⟩ := htype
      cases h' with
      | final hfinal => exact absurd hfinal (not_isFinal_of_type htype (by decide))
      | answerIntent hintent => exact absurd hintent (not_isAnswerIntent_of_type htype (by decide))
      | toolCall hcall' =>
          obtain ⟨rfl, rfl⟩ := hcall.unique hcall'
          rfl
      | invalid _ _ hnone => exact absurd hcall (hnone _ _)
  | invalid hfinal hintent hcall =>
      cases h' with
      | final h => exact absurd h (hfinal _)
      | answerIntent h => exact absurd h (hintent _)
      | toolCall h => exact absurd h (hcall _ _)
      | invalid => rfl

/-- A list or a dictionary in the field `type`. -/
def HasUnhashableType (value : Option Json) : Prop :=
  ∃ payload : JsonObject, value = some (.obj payload) ∧
    ((∃ elements, payload.get "type" = some (.arr elements)) ∨
      ∃ entries, payload.get "type" = some (.obj entries))

theorem hashable_of_not_hasUnhashableType
    (h : ¬ HasUnhashableType (some (.obj payload))) : hashable (payload.get "type") = .ok () := by
  match htype : payload.get "type" with
  | some (.arr elements) => exact absurd ⟨payload, rfl, .inl ⟨elements, htype⟩⟩ h
  | some (.obj entries) => exact absurd ⟨payload, rfl, .inr ⟨entries, htype⟩⟩ h
  | none | some .null | some (.bool _) | some (.int _) | some (.float _) | some (.str _) => rfl

theorem decisionOf_of_hashable (h : hashable (payload.get "type") = .ok ()) :
    decisionOf payload =
      if isText (payload.get "type") "final" then
        .ok ((nonBlankText (payload.get "content")).elim .invalid .final)
      else if isText (payload.get "type") "answer_intent" then
        .ok (.answerIntent (nonBlankText (payload.get "content")))
      else if isText (payload.get "type") "tool_call" then .ok (toolCallOf payload)
      else .ok .invalid := by
  rw [decisionOf, h]
  rfl

theorem decisionOf_of_unhashable (h : HasUnhashableType (some (.obj payload))) :
    decisionOf payload = .error .typeError := by
  obtain ⟨other, hvalue, htype⟩ := h
  cases hvalue
  rcases htype with ⟨elements, htype⟩ | ⟨entries, htype⟩
  · rw [decisionOf, htype]
    rfl
  · rw [decisionOf, htype]
    rfl

theorem grammar_final {content : Option Text}
    (htype : HasType value payload "final")
    (hcontent : ∀ kept, content = some kept ↔ IsContent (payload.get "content") kept) :
    Grammar value (content.elim .invalid .final) := by
  cases content with
  | some kept => exact .final ⟨payload, htype, (hcontent kept).mp rfl⟩
  | none =>
      refine .invalid ?_ (fun _ => not_isAnswerIntent_of_type htype (by decide))
        (fun _ _ => not_isToolCall_of_type htype (by decide))
      rintro kept ⟨other, hother, hkept⟩
      obtain ⟨rfl, -⟩ := htype.unique hother
      cases (hcontent kept).mpr hkept

theorem grammar_toolCallOf (htype : HasType value payload "tool_call") :
    Grammar value (toolCallOf payload) := by
  rcases toolCallOf_cases payload with hinvalid | ⟨tool, args, hcall⟩
  · rw [hinvalid]
    refine .invalid (fun _ => not_isFinal_of_type htype (by decide))
      (fun _ => not_isAnswerIntent_of_type htype (by decide)) ?_
    rintro tool args ⟨other, hother, htool, hargs⟩
    obtain ⟨rfl, -⟩ := htype.unique hother
    rw [← args_eq_iff] at hargs
    cases hinvalid.symm.trans (toolCallOf_eq_toolCall_iff.mpr ⟨htool, hargs⟩)
  · rw [hcall]
    obtain ⟨htool, hargs⟩ := toolCallOf_eq_toolCall_iff.mp hcall
    exact .toolCall ⟨payload, htype, htool, args_eq_iff.mp hargs⟩

/-- An object whose `type` is none of the three. -/
theorem grammar_of_other_type (h : ∀ decisionType ∈ ["final", "answer_intent", "tool_call"],
    payload.get "type" ≠ some (.str decisionType.toList)) :
    Grammar (some (.obj payload)) .invalid := by
  have hnone : ∀ decisionType ∈ ["final", "answer_intent", "tool_call"], ∀ other,
      ¬ HasType (some (.obj payload)) other decisionType := by
    rintro decisionType hmem other ⟨hvalue, htype⟩
    cases hvalue
    exact h decisionType hmem htype
  refine .invalid ?_ ?_ ?_
  · rintro content ⟨other, htype, -⟩
    exact hnone "final" (by decide) other htype
  · rintro content ⟨other, htype, -⟩
    exact hnone "answer_intent" (by decide) other htype
  · rintro tool args ⟨other, htype, -⟩
    exact hnone "tool_call" (by decide) other htype

theorem grammar_of_not_object (h : ∀ payload, value ≠ some (.obj payload)) :
    Grammar value .invalid := by
  refine .invalid ?_ ?_ ?_
  · rintro content ⟨payload, htype, -⟩
    exact h payload htype.1
  · rintro content ⟨payload, htype, -⟩
    exact h payload htype.1
  · rintro tool args ⟨payload, htype, -⟩
    exact h payload htype.1

theorem exists_decisionOf (h : ¬ HasUnhashableType (some (.obj payload))) :
    ∃ decision, decisionOf payload = .ok decision ∧ Grammar (some (.obj payload)) decision := by
  have hhashable := hashable_of_not_hasUnhashableType h
  have hcontent : ∀ kept, nonBlankText (payload.get "content") = some kept ↔
      IsContent (payload.get "content") kept := fun _ => nonBlankText_eq_some_iff
  rw [decisionOf_of_hashable hhashable]
  by_cases hfinal : payload.get "type" = some (.str "final".toList)
  · rw [if_pos (isText_eq_true_iff.mpr hfinal)]
    exact ⟨_, rfl, grammar_final ⟨rfl, hfinal⟩ hcontent⟩
  rw [if_neg (mt isText_eq_true_iff.mp hfinal)]
  by_cases hintent : payload.get "type" = some (.str "answer_intent".toList)
  · rw [if_pos (isText_eq_true_iff.mpr hintent)]
    exact ⟨_, rfl, .answerIntent ⟨payload, ⟨rfl, hintent⟩, hcontent⟩⟩
  rw [if_neg (mt isText_eq_true_iff.mp hintent)]
  by_cases hcall : payload.get "type" = some (.str "tool_call".toList)
  · rw [if_pos (isText_eq_true_iff.mpr hcall)]
    exact ⟨_, rfl, grammar_toolCallOf ⟨rfl, hcall⟩⟩
  rw [if_neg (mt isText_eq_true_iff.mp hcall)]
  refine ⟨_, rfl, grammar_of_other_type ?_⟩
  simp only [List.forall_mem_cons, List.not_mem_nil, false_implies, implies_true, and_true]
  exact ⟨hfinal, hintent, hcall⟩

variable {readFloat : ReadFloat} {raw : Text}

theorem parseDecision_of_unhashable (hextract : extractJson readFloat raw = .ok value)
    (h : HasUnhashableType value) : parseDecision readFloat raw = .error .typeError := by
  have hvalue := h
  obtain ⟨payload, rfl, -⟩ := hvalue
  rw [parseDecision, hextract]
  exact decisionOf_of_unhashable h

theorem exists_parseDecision (hextract : extractJson readFloat raw = .ok value)
    (h : ¬ HasUnhashableType value) :
    ∃ decision, parseDecision readFloat raw = .ok decision ∧ Grammar value decision := by
  rw [parseDecision, hextract]
  match value with
  | some (.obj payload) => exact exists_decisionOf h
  | none | some .null | some (.bool _) | some (.int _) | some (.float _) | some (.str _)
  | some (.arr _) =>
      refine ⟨.invalid, rfl, grammar_of_not_object ?_⟩
      rintro payload ⟨⟩

/-- The decision is returned exactly when the grammar gives it to the extracted value,
and no exception is raised. -/
structure ParsesGrammar (readFloat : ReadFloat) (raw : Text) : Prop where
  returns : ∃ decision, parseDecision readFloat raw = .ok decision
  exact : ∀ decision, parseDecision readFloat raw = .ok decision ↔
    ∃ value, extractJson readFloat raw = .ok value ∧ Grammar value decision

/-- The only exceptions are the `ValueError` for an integer with too many digits and
the `TypeError` for a `type` that cannot be looked up in a set. -/
theorem parsesGrammar_iff (readFloat : ReadFloat) (raw : Text) :
    ParsesGrammar readFloat raw ↔
      ∃ value, extractJson readFloat raw = .ok value ∧ ¬ HasUnhashableType value := by
  constructor
  · intro h
    obtain ⟨decision, hparse⟩ := h.returns
    obtain ⟨value, hextract, -⟩ := (h.exact decision).mp hparse
    refine ⟨value, hextract, fun htype => ?_⟩
    rw [parseDecision_of_unhashable hextract htype] at hparse
    cases hparse
  · rintro ⟨value, hextract, htype⟩
    obtain ⟨decision, hparse, hgrammar⟩ := exists_parseDecision hextract htype
    refine ⟨⟨decision, hparse⟩, fun other => ?_⟩
    rw [hparse, hextract]
    constructor
    · rintro ⟨⟩
      exact ⟨value, rfl, hgrammar⟩
    · rintro ⟨extracted, ⟨⟩, hother⟩
      rw [hgrammar.unique hother]

/-- `{"type": []}`. -/
theorem not_parsesGrammar_list :
    ¬ ∀ (readFloat : ReadFloat) (raw : Text), ParsesGrammar readFloat raw := by
  intro h
  obtain ⟨decision, hparse⟩ := (h (fun _ => .zero) "\x7b\"type\": []\x7d".toList).returns
  have hraises : (parseDecision (fun _ => .zero) "\x7b\"type\": []\x7d".toList).isOk = false := by
    decide +kernel
  rw [hparse] at hraises
  cases hraises

end NanoCore.Assistant.Rules.DecisionGrammar
