import Aiphabee.Store.InsertionMap
import Aiphabee.Text.JsString

/-!
# The gate of numeric answers

Before an answer is put out, the numbers of its claims are looked up: a claim with a
concrete financial number has to refer to an evidence card, to a calculation or to a
source record that is complete.  The text of the answer is looked at only where no
claims are given, and of cards or calculations with the same id the last one counts.

The main result, `validatePostGenerationEvidenceBinding_reliable_iff`, says for which
inputs the gate can be relied on.
-/

namespace Aiphabee.AnswerGate

variable (tests : NumberTests)
variable {input other : ValidatePostGenerationEvidenceBindingInput}
variable {claim : AgentAnswerDraftClaimInput}

inductive AgentAnswerClaimLabel
  | calculation
  | fact
  | inference
  | unknown
deriving DecidableEq

structure AgentAnswerDraftClaimInput where
  calculationId : Option String := none
  claimId : Option String := none
  dataVersion : Option String := none
  evidenceCardId : Option String := none
  label : Option AgentAnswerClaimLabel := none
  methodologyVersion : Option String := none
  sourceRecordId : Option String := none
  text : String

structure AgentAnswerEvidenceCardInput where
  cardId : String
  dataVersion : String
  methodologyVersion : String
  sourceRecordId : String

structure AgentAnswerCalculationRefInput where
  calculationId : String
  methodologyVersion : String
  sourceRecordIds : List String

/-- What is validated; a list that is left out is empty. -/
structure ValidatePostGenerationEvidenceBindingInput where
  answerText : Option String := none
  calculations : List AgentAnswerCalculationRefInput := []
  claims : List AgentAnswerDraftClaimInput := []
  evidenceCards : List AgentAnswerEvidenceCardInput := []

structure NumberTests where
  extractConcreteNumericValues : String → List String
  hasFinancialText : String → Bool

inductive BindingStatus
  | boundCalculation
  | boundEvidenceCard
  | boundSourceRecord
  | missingSourceBinding
deriving DecidableEq

structure Binding where
  missingFields : List String
  sourceRecordId : Option String := none
  status : BindingStatus

structure AgentPostGenerationNumericClaimValidation where
  bindingStatus : BindingStatus
  calculationId : Option String
  claimId : String
  evidenceCardId : Option String
  financialContext : Bool
  missingFields : List String
  numericValues : List String
  sourceRecordId : Option String
  text : String

structure AgentPostGenerationEvidenceBindingValidation where
  blockedClaimCount : Nat
  failureCode : Option String
  numericClaims : List AgentPostGenerationNumericClaimValidation
  outputAllowed : Bool
  status : String

def isFilled (text : String) : Bool :=
  JsString.trim text ≠ ""

def AgentAnswerEvidenceCardInput.isComplete (card : AgentAnswerEvidenceCardInput) : Bool :=
  isFilled card.sourceRecordId && isFilled card.dataVersion && isFilled card.methodologyVersion

def AgentAnswerCalculationRefInput.isComplete (calculation : AgentAnswerCalculationRefInput) :
    Bool :=
  isFilled calculation.methodologyVersion && calculation.sourceRecordIds ≠ []

def AgentAnswerDraftClaimInput.isComplete (claim : AgentAnswerDraftClaimInput) : Bool :=
  claim.sourceRecordId.any isFilled && claim.dataVersion.any isFilled &&
    claim.methodologyVersion.any isFilled

def answerClaim (text : String) : AgentAnswerDraftClaimInput where
  claimId := some "answer_text"
  text := text

def answerClaims (answerText : Option String) : List AgentAnswerDraftClaimInput :=
  match answerText.map JsString.trim with
  | some text => if text ≠ "" then [answerClaim text] else []
  | none => []

def normalizePostGenerationClaims (input : ValidatePostGenerationEvidenceBindingInput) :
    List AgentAnswerDraftClaimInput :=
  if input.claims ≠ [] then input.claims else answerClaims input.answerText

def hasFinancialNumericContext (claim : AgentAnswerDraftClaimInput) : Bool :=
  claim.label = some .calculation || claim.label = some .fact || tests.hasFinancialText claim.text

def resolvePostGenerationBinding (claim : AgentAnswerDraftClaimInput)
    (evidenceCards : List (String × AgentAnswerEvidenceCardInput))
    (calculations : List (String × AgentAnswerCalculationRefInput)) : Binding :=
  match claim.evidenceCardId with
  | some cardId =>
    match (InsertionMap.get evidenceCards cardId).filter (·.isComplete) with
    | some card =>
      { missingFields := [], sourceRecordId := card.sourceRecordId,
        status := .boundEvidenceCard }
    | none =>
      { missingFields := ["evidence_card.source_record_id", "evidence_card.data_version",
          "evidence_card.methodology_version"]
        status := .missingSourceBinding }
  | none =>
    match claim.calculationId with
    | some calculationId =>
      match (InsertionMap.get calculations calculationId).filter (·.isComplete) with
      | some calculation =>
        { missingFields := [], sourceRecordId := calculation.sourceRecordIds.head?,
          status := .boundCalculation }
      | none =>
        { missingFields := ["calculation.source_record_ids",
            "calculation.methodology_version"]
          status := .missingSourceBinding }
    | none =>
      if claim.isComplete then
        { missingFields := [], sourceRecordId := claim.sourceRecordId,
          status := .boundSourceRecord }
      else
        { missingFields := ["source_record_id", "data_version", "methodology_version"]
          status := .missingSourceBinding }

def validatePostGenerationNumericClaim
    (evidenceCards : List (String × AgentAnswerEvidenceCardInput))
    (calculations : List (String × AgentAnswerCalculationRefInput))
    (claim : AgentAnswerDraftClaimInput) (index : Nat) :
    Option AgentPostGenerationNumericClaimValidation :=
  let numericValues := tests.extractConcreteNumericValues claim.text
  if numericValues = [] then
    none
  else
    let financialContext := hasFinancialNumericContext tests claim
    let binding := resolvePostGenerationBinding claim evidenceCards calculations
    some
      { bindingStatus := if financialContext then binding.status else .boundSourceRecord
        calculationId := claim.calculationId
        claimId := (claim.claimId.map JsString.trim).filter (· ≠ "") |>.getD
          s!"claim_{index + 1}"
        evidenceCardId := claim.evidenceCardId
        financialContext
        missingFields := if financialContext then binding.missingFields else []
        numericValues
        sourceRecordId := binding.sourceRecordId.or claim.sourceRecordId
        text := claim.text }

def cardMap (cards : List AgentAnswerEvidenceCardInput) :
    List (String × AgentAnswerEvidenceCardInput) :=
  InsertionMap.ofEntries (cards.map fun card => (card.cardId, card))

def calculationMap (calculations : List AgentAnswerCalculationRefInput) :
    List (String × AgentAnswerCalculationRefInput) :=
  InsertionMap.ofEntries (calculations.map fun calculation =>
    (calculation.calculationId, calculation))

def validatePostGenerationEvidenceBinding (input : ValidatePostGenerationEvidenceBindingInput) :
    AgentPostGenerationEvidenceBindingValidation :=
  let numericClaims := ((normalizePostGenerationClaims input).zipIdx.filterMap fun entry =>
    validatePostGenerationNumericClaim tests (cardMap input.evidenceCards)
      (calculationMap input.calculations) entry.1 entry.2).filter (·.financialContext)
  let blockedClaimCount := numericClaims.countP (·.bindingStatus = .missingSourceBinding)
  let outputAllowed := blockedClaimCount = 0
  { blockedClaimCount
    failureCode := if outputAllowed then none else some "UNSOURCED_NUMERIC_CLAIM"
    numericClaims
    outputAllowed
    status := if outputAllowed then "passed" else "blocked_unsourced_numeric_claim" }

section Properties

def HasFinancialNumber (claim : AgentAnswerDraftClaimInput) : Prop :=
  tests.extractConcreteNumericValues claim.text ≠ [] ∧
    hasFinancialNumericContext tests claim = true

variable (input : ValidatePostGenerationEvidenceBindingInput)

def Resolves (claim : AgentAnswerDraftClaimInput) : Prop :=
  (resolvePostGenerationBinding claim (cardMap input.evidenceCards)
    (calculationMap input.calculations)).status ≠ .missingSourceBinding

def pieces : List AgentAnswerDraftClaimInput :=
  input.claims ++ answerClaims input.answerText

structure Reordered (input other : ValidatePostGenerationEvidenceBindingInput) : Prop where
  answerText : other.answerText = input.answerText
  calculations : other.calculations.Perm input.calculations
  claims : other.claims.Perm input.claims
  evidenceCards : other.evidenceCards.Perm input.evidenceCards

structure Reliable (input : ValidatePostGenerationEvidenceBindingInput) : Prop where
  sound : (validatePostGenerationEvidenceBinding tests input).outputAllowed = true ↔
    ∀ piece ∈ pieces input, HasFinancialNumber tests piece → Resolves input piece
  ordered : ∀ other, Reordered input other →
    (validatePostGenerationEvidenceBinding tests other).outputAllowed =
      (validatePostGenerationEvidenceBinding tests input).outputAllowed
  monotone : ∀ front claim back, input.claims = front ++ back →
    (validatePostGenerationEvidenceBinding tests input).outputAllowed = false →
    (validatePostGenerationEvidenceBinding tests
      { input with claims := front ++ claim :: back }).outputAllowed = false

/-- Whether what stands under the reference of a claim is complete, one after the other. -/
def references (claim : AgentAnswerDraftClaimInput) : List Bool :=
  match claim.evidenceCardId with
  | some cardId => (input.evidenceCards.filter (·.cardId = cardId)).map (·.isComplete)
  | none =>
    match claim.calculationId with
    | some calculationId =>
      (input.calculations.filter (·.calculationId = calculationId)).map (·.isComplete)
    | none => [claim.isComplete]

/-- Some claim with a financial number refers to nothing that is complete. -/
def HasUnsourcedClaim : Prop :=
  ∃ claim ∈ input.claims, HasFinancialNumber tests claim ∧ true ∉ references input claim

structure AllSourced (input : ValidatePostGenerationEvidenceBindingInput) : Prop where
  answer : ∀ claim ∈ answerClaims input.answerText, ¬HasFinancialNumber tests claim
  claims : ∀ claim ∈ input.claims, HasFinancialNumber tests claim →
    true ∈ references input claim ∧ false ∉ references input claim

end Properties

section Verdicts

variable {tests : NumberTests}

theorem get_cardMap (cards : List AgentAnswerEvidenceCardInput) (cardId : String) :
    InsertionMap.get (cardMap cards) cardId = (cards.filter (·.cardId = cardId)).getLast? := by
  rw [cardMap, InsertionMap.get_ofEntries,
    InsertionMap.lastValue_map cards (·.cardId) (fun card => card), Option.map_id']

theorem get_calculationMap (calculations : List AgentAnswerCalculationRefInput)
    (calculationId : String) :
    InsertionMap.get (calculationMap calculations) calculationId =
      (calculations.filter (·.calculationId = calculationId)).getLast? := by
  rw [calculationMap, InsertionMap.get_ofEntries,
    InsertionMap.lastValue_map calculations (·.calculationId) (fun entry => entry),
    Option.map_id']

theorem resolves_iff :
    Resolves input claim ↔ (references input claim).getLast? = some true := by
  rw [Resolves, resolvePostGenerationBinding, references]
  cases claim.evidenceCardId with
  | some cardId =>
    dsimp only
    rw [get_cardMap, List.getLast?_map]
    cases (input.evidenceCards.filter (·.cardId = cardId)).getLast? with
    | none => simp
    | some card => cases hcard : card.isComplete <;> simp [Option.filter, hcard]
  | none =>
    cases claim.calculationId with
    | some calculationId =>
      dsimp only
      rw [get_calculationMap, List.getLast?_map]
      cases (input.calculations.filter (·.calculationId = calculationId)).getLast? with
      | none => simp
      | some entry => cases hentry : entry.isComplete <;> simp [Option.filter, hentry]
    | none => cases claim.isComplete <;> simp

theorem outputAllowed_iff :
    (validatePostGenerationEvidenceBinding tests input).outputAllowed = true ↔
      ∀ claim ∈ normalizePostGenerationClaims input,
        HasFinancialNumber tests claim → Resolves input claim := by
  rw [validatePostGenerationEvidenceBinding]
  dsimp only
  rw [decide_eq_true_iff, List.countP_eq_zero]
  constructor
  · intro h claim hclaim hnumber
    obtain ⟨index, hindex⟩ := List.mem_iff_getElem?.mp hclaim
    have hentry : (claim, index) ∈ (normalizePostGenerationClaims input).zipIdx :=
      List.mem_zipIdx_iff_getElem?.mpr hindex
    obtain ⟨hvalues, hcontext⟩ := hnumber
    have hblocked := h _ (List.mem_filter.mpr ⟨List.mem_filterMap.mpr ⟨_, hentry,
      if_neg hvalues⟩, hcontext⟩)
    simpa [hcontext, Resolves] using hblocked
  · intro h validation hvalidation
    obtain ⟨hmem, hcontext⟩ := List.mem_filter.mp hvalidation
    obtain ⟨⟨claim, index⟩, hentry, hvalid⟩ := List.mem_filterMap.mp hmem
    rw [validatePostGenerationNumericClaim] at hvalid
    by_cases hvalues : tests.extractConcreteNumericValues claim.text = []
    · rw [if_pos hvalues] at hvalid
      cases hvalid
    · rw [if_neg hvalues] at hvalid
      cases hvalid
      have hresolves := h claim (List.fst_mem_of_mem_zipIdx hentry) ⟨hvalues, hcontext⟩
      dsimp only at hcontext ⊢
      rw [if_pos hcontext]
      exact fun hmissing => hresolves (of_decide_eq_true hmissing)

theorem Reordered.references_perm (h : Reordered input other) :
    (references other claim).Perm (references input claim) := by
  rw [references, references]
  cases claim.evidenceCardId with
  | some cardId => exact (h.evidenceCards.filter _).map _
  | none =>
    cases claim.calculationId with
    | some calculationId => exact (h.calculations.filter _).map _
    | none => exact .rfl

end Verdicts

section Orders

variable {tests : NumberTests}

def arrange {Row : Type} (test : Row → Bool) (value : Bool) (rows : List Row) : List Row :=
  (rows.filter fun row => !decide (test row = value)) ++ rows.filter fun row => test row = value

theorem arrange_perm {Row : Type} (test : Row → Bool) (value : Bool) (rows : List Row) :
    (arrange test value rows).Perm rows :=
  List.perm_append_comm.trans (List.filter_append_perm _ _)

theorem getLast?_arrange {Row : Type} (test : Row → Bool) (value : Bool) (kind : Row → Bool)
    (rows : List Row) :
    (((arrange test value rows).filter kind).map test).getLast? = some value ↔
      value ∈ (rows.filter kind).map test := by
  constructor
  · intro h
    have hmem := List.mem_of_getLast? h
    exact (((arrange_perm test value rows).filter kind).map test).mem_iff.mp hmem
  · intro h
    obtain ⟨row, hrow, hvalue⟩ := List.mem_map.mp h
    obtain ⟨hrow, hkind⟩ := List.mem_filter.mp hrow
    have hlast : ((rows.filter fun row => test row = value).filter kind).map test ≠ [] := by
      refine List.ne_nil_of_mem (a := test row) (List.mem_map_of_mem ?_)
      exact List.mem_filter.mpr ⟨List.mem_filter.mpr ⟨hrow, decide_eq_true hvalue⟩, hkind⟩
    rw [arrange, List.filter_append, List.map_append, List.getLast?_append_of_ne_nil _ hlast,
      List.getLast?_eq_some_getLast hlast]
    obtain ⟨last, hmem, hlast⟩ := List.mem_map.mp (List.getLast_mem hlast)
    rw [← hlast]
    have hpassed := (List.mem_filter.mp (List.mem_filter.mp hmem).1).2
    exact congrArg some (of_decide_eq_true hpassed)

def arranged (value : Bool) (input : ValidatePostGenerationEvidenceBindingInput) :
    ValidatePostGenerationEvidenceBindingInput :=
  { input with
    calculations := arrange (·.isComplete) value input.calculations
    evidenceCards := arrange (·.isComplete) value input.evidenceCards }

theorem reordered_arranged (value : Bool) : Reordered input (arranged value input) where
  answerText := rfl
  calculations := arrange_perm _ _ _
  claims := .rfl
  evidenceCards := arrange_perm _ _ _

theorem getLast?_references_arranged (value : Bool) :
    (references (arranged value input) claim).getLast? = some value ↔
      value ∈ references input claim := by
  rw [references, references]
  cases claim.evidenceCardId with
  | some cardId => exact getLast?_arrange _ _ _ _
  | none =>
    cases claim.calculationId with
    | some calculationId => exact getLast?_arrange _ _ _ _
    | none => simp [eq_comm]

end Orders

section Reliability

variable {tests : NumberTests}

theorem normalizePostGenerationClaims_subset (h : claim ∈ normalizePostGenerationClaims input) :
    claim ∈ pieces input := by
  rw [normalizePostGenerationClaims] at h
  split at h
  · exact List.mem_append_left _ h
  · exact List.mem_append_right _ h

theorem mem_normalizePostGenerationClaims (h : claim ∈ input.claims) :
    claim ∈ normalizePostGenerationClaims input := by
  rw [normalizePostGenerationClaims, if_pos (List.ne_nil_of_mem h)]
  exact h

theorem not_resolves_answer {answerText : Option String} (h : claim ∈ answerClaims answerText) :
    ¬Resolves input claim := by
  rw [answerClaims] at h
  split at h
  · split at h
    · rw [List.mem_singleton.mp h, resolves_iff]
      simp [references, answerClaim, AgentAnswerDraftClaimInput.isComplete]
    · cases h
  · cases h

theorem HasUnsourcedClaim.blocked (h : HasUnsourcedClaim tests input)
    (hreordered : Reordered input other) :
    (validatePostGenerationEvidenceBinding tests other).outputAllowed = false := by
  obtain ⟨claim, hclaim, hnumber, hunsourced⟩ := h
  rw [← Bool.not_eq_true, outputAllowed_iff]
  intro hall
  have hresolves := resolves_iff.mp (hall claim
    (mem_normalizePostGenerationClaims (hreordered.claims.mem_iff.mpr hclaim)) hnumber)
  exact hunsourced (hreordered.references_perm.mem_iff.mp (List.mem_of_getLast? hresolves))

theorem AllSourced.resolves (h : AllSourced tests input) (hreordered : Reordered input other)
    (hclaim : claim ∈ pieces other) (hnumber : HasFinancialNumber tests claim) :
    Resolves other claim := by
  rcases List.mem_append.mp hclaim with hclaim | hclaim
  · obtain ⟨htrue, hfalse⟩ := h.claims claim (hreordered.claims.mem_iff.mp hclaim) hnumber
    have hperm := @Reordered.references_perm input other claim hreordered
    have hne : references other claim ≠ [] := List.ne_nil_of_mem (hperm.mem_iff.mpr htrue)
    rw [resolves_iff, List.getLast?_eq_some_getLast hne]
    cases hlast : (references other claim).getLast hne with
    | true => rfl
    | false => exact absurd (hperm.mem_iff.mp (hlast ▸ List.getLast_mem hne)) hfalse
  · rw [hreordered.answerText] at hclaim
    exact absurd hnumber (h.answer claim hclaim)

theorem AllSourced.allowed (h : AllSourced tests input) (hreordered : Reordered input other) :
    (validatePostGenerationEvidenceBinding tests other).outputAllowed = true :=
  outputAllowed_iff.mpr fun _ hclaim hnumber =>
    h.resolves hreordered (normalizePostGenerationClaims_subset hclaim) hnumber

theorem Reordered.refl : Reordered input input where
  answerText := rfl
  calculations := .rfl
  claims := .rfl
  evidenceCards := .rfl

theorem exists_allowed (h : ¬HasUnsourcedClaim tests input) (hclaims : input.claims ≠ []) :
    (validatePostGenerationEvidenceBinding tests (arranged true input)).outputAllowed = true := by
  rw [outputAllowed_iff, normalizePostGenerationClaims, if_pos (by exact hclaims)]
  intro claim hclaim hnumber
  rw [resolves_iff, getLast?_references_arranged]
  by_contra hunsourced
  exact h ⟨claim, hclaim, hnumber, hunsourced⟩

/-- A claim with its own source, and without any number of its own. -/
def sourcedClaim : AgentAnswerDraftClaimInput where
  dataVersion := some "d"
  methodologyVersion := some "m"
  sourceRecordId := some "s"
  text := ""

theorem Reliable.allSourced (h : Reliable tests input) (hnone : ¬HasUnsourcedClaim tests input) :
    AllSourced tests input where
  answer := by
    intro claim hclaim hnumber
    have hblocks := @not_resolves_answer input claim _ hclaim
    by_cases hclaims : input.claims = []
    · -- a claim of its own makes the gate forget the text of the answer
      have hblocked :
          (validatePostGenerationEvidenceBinding tests input).outputAllowed = false := by
        rw [← Bool.not_eq_true, outputAllowed_iff, normalizePostGenerationClaims,
          if_neg (not_not.mpr hclaims)]
        exact fun hall => hblocks (hall claim hclaim hnumber)
      have hafter := h.monotone [] sourcedClaim [] hclaims hblocked
      rw [← Bool.not_eq_true, outputAllowed_iff] at hafter
      refine hafter fun other hother _ => ?_
      have hcomplete : sourcedClaim.isComplete = true := by decide +kernel
      rw [List.mem_singleton.mp hother, resolves_iff]
      exact congrArg some hcomplete
    · have hallowed := exists_allowed hnone hclaims
      rw [h.ordered _ (reordered_arranged true), h.sound] at hallowed
      exact hblocks (hallowed claim (List.mem_append_right _ hclaim) hnumber)
  claims := by
    intro claim hclaim hnumber
    refine ⟨by_contra fun hunsourced => hnone ⟨claim, hclaim, hnumber, hunsourced⟩, ?_⟩
    intro hfalse
    have hallowed := exists_allowed hnone (List.ne_nil_of_mem hclaim)
    rw [h.ordered _ (reordered_arranged true), ← h.ordered _ (reordered_arranged false),
      outputAllowed_iff] at hallowed
    have hresolves := resolves_iff.mp (hallowed claim
      (mem_normalizePostGenerationClaims hclaim) hnumber)
    rw [(getLast?_references_arranged false).mpr hfalse] at hresolves
    cases hresolves

/--
The gate can be relied on for an input exactly when a claim of it refers to nothing that
is complete, or when all of its financial numbers are sourced beyond doubt.
-/
theorem validatePostGenerationEvidenceBinding_reliable_iff (tests : NumberTests)
    (input : ValidatePostGenerationEvidenceBindingInput) :
    Reliable tests input ↔ HasUnsourcedClaim tests input ∨ AllSourced tests input := by
  constructor
  · intro h
    exact or_iff_not_imp_left.mpr h.allSourced
  rintro (h | h)
  · have hblocked := h.blocked Reordered.refl
    refine ⟨?_, fun other hother => (h.blocked hother).trans hblocked.symm, ?_⟩
    · rw [hblocked]
      refine iff_of_false Bool.false_ne_true fun hall => ?_
      rw [← Bool.not_eq_true, outputAllowed_iff] at hblocked
      exact hblocked fun claim hclaim => hall claim (normalizePostGenerationClaims_subset hclaim)
    · intro front claim back hclaims _
      obtain ⟨unsourced, hmem, hunsourced⟩ := h
      rw [hclaims] at hmem
      have hmore : HasUnsourcedClaim tests { input with claims := front ++ claim :: back } :=
        ⟨unsourced, ((List.sublist_cons_self claim back).append_left front).subset hmem, hunsourced⟩
      exact hmore.blocked Reordered.refl
  · have hallowed := h.allowed Reordered.refl
    refine ⟨iff_of_true hallowed fun _ => h.resolves Reordered.refl,
      fun other hother => (h.allowed hother).trans hallowed.symm, ?_⟩
    intro front claim back _ hblocked
    rw [hallowed] at hblocked
    cases hblocked

def everyText : NumberTests where
  extractConcreteNumericValues text := if text = "" then [] else [text]
  hasFinancialText _ := true

/-- A number in the text of the answer is let through next to a sourced claim. -/
theorem answerText_not_looked_at :
    ¬Reliable everyText { answerText := some "12%", claims := [sourcedClaim] } := by
  intro h
  have hallowed : (validatePostGenerationEvidenceBinding everyText
      { answerText := some "12%", claims := [sourcedClaim] }).outputAllowed = true := by
    decide +kernel
  have hanswer : answerClaim (JsString.trim "12%") ∈ answerClaims (some "12%") := by
    rw [answerClaims]
    simp only [Option.map_some]
    rw [if_pos (by decide +kernel)]
    exact List.mem_singleton_self _
  refine not_resolves_answer hanswer (h.sound.mp hallowed _ (List.mem_append_right _ hanswer) ?_)
  exact ⟨by decide +kernel, rfl⟩

end Reliability

end Aiphabee.AnswerGate
