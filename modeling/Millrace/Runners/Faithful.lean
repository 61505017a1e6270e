import Millrace.Runners.Normalization

/-! What a stage result says of the run it comes from, for the requests of compiled nodes. -/

set_option autoImplicit false

namespace Millrace.Runners
open Millrace.Text Millrace.Contracts Millrace.WorkDocuments Millrace.Action
open Millrace.Recovery (RunnerFailureClass)

/-! ## Compiled tables -/

/-- A report without a class of its own is given one. -/
def Resolves (outcome : String) (classes : List ResultClass) : Prop :=
  classes.length = 1 ∨ (outcome = "BLOCKED" ∧ .blocked ∈ classes)

theorem mapM_eq_ok {ε α β : Type} {f : α → Except ε β} {l : List α} {l' : List β} (mapped : l.mapM f = .ok l') :
    ∀ b ∈ l', ∃ a ∈ l, f a = .ok b := by
  induction l generalizing l' with
  | nil =>
    rw [List.mapM_nil, pure_eq_ok] at mapped
    subst mapped
    simp
  | cons a rest ih =>
    rw [List.mapM_cons] at mapped
    obtain ⟨first, ofFirst, mapped⟩ := bind_eq_ok.1 mapped
    obtain ⟨others, ofOthers, mapped⟩ := bind_eq_ok.1 mapped
    rw [pure_eq_ok] at mapped
    subst mapped
    intro b among
    cases List.mem_cons.1 among with
    | inl same => exact ⟨a, List.mem_cons_self, same ▸ ofFirst⟩
    | inr later =>
      obtain ⟨source, ran, ofSource⟩ := ih ofOthers b later
      exact ⟨source, List.mem_cons_of_mem _ ran, ofSource⟩

theorem normalizeStatus_isStatus {fieldName value normalized : String}
    (ok : normalizeStatus fieldName value = .ok normalized) : isStatus normalized.toList = true := by
  unfold normalizeStatus at ok
  simp only at ok
  split at ok
  next status =>
    cases ok
    simpa using status
  next => simp at ok

theorem isStatus_solid {value : List Char} (status : isStatus value = true) :
    ∀ c ∈ value, isAsciiUpper c = true ∨ isAsciiDigit c = true ∨ c = '_' := by
  cases value with
  | nil => simp
  | cons first rest =>
    simp only [isStatus, Bool.and_eq_true, List.all_eq_true, Bool.or_eq_true, beq_iff_eq] at status
    intro c among
    cases List.mem_cons.1 among with
    | inl same => exact Or.inl (same ▸ status.1)
    | inr later => exact or_assoc.1 (status.2 c later)

theorem isStatus_inline {value : List Char} (status : isStatus value = true) : Inline value := by
  have nonempty : value ≠ [] := by
    intro none
    rw [none] at status
    simp [isStatus] at status
  apply inline_of_solid nonempty
  intro c among
  rcases isStatus_solid status c among with upper | digit | rfl
  · exact isWhitespace_of_alphanumeric c (by simp [isAsciiAlphanumeric, isAsciiAlphabetic, upper])
  · exact isWhitespace_of_alphanumeric c (by simp [isAsciiAlphanumeric, digit])
  · decide

theorem isStatus_upper {value : List Char} (status : isStatus value = true) : value.map toAsciiUpper = value := by
  have same : ∀ c ∈ value, toAsciiUpper c = id c := by
    intro c among
    rcases isStatus_solid status c among with upper | digit | rfl
    · simp only [isAsciiUpper, Bool.and_eq_true, decide_eq_true_eq] at upper
      simp only [toAsciiUpper, isAsciiLower, Bool.and_eq_true, decide_eq_true_eq]
      rw [if_neg (by omega), id]
    · simp only [isAsciiDigit, Bool.and_eq_true, decide_eq_true_eq] at digit
      simp only [toAsciiUpper, isAsciiLower, Bool.and_eq_true, decide_eq_true_eq]
      rw [if_neg (by omega), id]
    · decide
  rw [List.map_congr_left same, List.map_id]

/-- A status that is normal stays as it is. -/
theorem normalizeStatus_of_isStatus {fieldName value : String} (status : isStatus value.toList = true) :
    normalizeStatus fieldName value = .ok value := by
  simp only [normalizeStatus, (isStatus_inline status).trim, isStatus_upper status, status, if_true,
    String.ofList_toList]

theorem normalizeAllowedResultClasses_mem {mapping normalized : ResultClassTable}
    (ok : normalizeAllowedResultClasses mapping = .ok normalized) :
    ∀ entry ∈ normalized, ∃ source ∈ mapping, normalizeEntry source = .ok entry := by
  unfold normalizeAllowedResultClasses at ok
  split at ok
  next => simp at ok
  next =>
    obtain ⟨entries, mapped, rest⟩ := bind_eq_ok.1 ok
    split at rest
    next =>
      rw [pure_eq_ok] at rest
      subst rest
      exact mapM_eq_ok mapped
    next => simp [throw, throwThe, MonadExceptOf.throw] at rest

theorem normalizeEntry_eq_ok {source entry : String × List ResultClass} (ok : normalizeEntry source = .ok entry) :
    normalizeStatus "allowed_result_classes_by_outcome" source.1 = .ok entry.1 ∧ entry.2 = source.2.eraseDups := by
  obtain ⟨outcome, normal, rest⟩ := bind_eq_ok.1 ok
  rw [pure_eq_ok] at rest
  subst rest
  exact ⟨normal, rfl⟩

theorem nodup_eraseDups {α : Type} [BEq α] [LawfulBEq α] (l : List α) : l.eraseDups.Nodup := by
  induction length : l.length using Nat.strong_induction_on generalizing l with
  | _ n ih =>
    cases l with
    | nil => simp
    | cons a rest =>
      rw [List.eraseDups_cons, List.nodup_cons]
      constructor
      · simp
      · apply ih _ _ _ rfl
        have := List.length_filter_le (fun b => !b == a) rest
        simp only [List.length_cons] at length
        omega

/-- The classes that a stage kind declares for an outcome settle every report of it. -/
theorem resolves_of_validated {outcome : String} {classes : List ResultClass}
    (validated : validateOutcomeClasses (outcome, classes) = .ok ()) : Resolves outcome classes.eraseDups := by
  unfold validateOutcomeClasses at validated
  split at validated
  next => simp at validated
  next nonempty =>
    split at validated
    next blocked =>
      split at validated
      next only =>
        by_cases among : ResultClass.blocked ∈ classes.eraseDups
        · exact Or.inr ⟨blocked, among⟩
        · -- Without `blocked` there is only one class left, and it is kept once.
          left
          have same : ∀ c ∈ classes.eraseDups, c = .recoverableFailure := by
            intro c kept
            have cases := List.all_eq_true.1 only c (List.mem_eraseDups.1 kept)
            rw [decide_eq_true_eq] at cases
            exact cases.resolve_left fun isBlocked => among (isBlocked ▸ kept)
          have repeated := List.eq_replicate_iff.2 ⟨rfl, same⟩
          have atMostOne := nodup_eraseDups classes
          rw [repeated, List.nodup_replicate] at atMostOne
          have some : classes.eraseDups ≠ [] := by
            intro none
            cases classes with
            | nil => simp at nonempty
            | cons c rest => simp [List.eraseDups_cons] at none
          have := List.length_pos_iff.2 some
          omega
      next => simp at validated
    next =>
      split at validated
      next => simp at validated
      next single =>
        left
        obtain ⟨c, rfl⟩ := List.length_eq_one_iff.1 (not_ne_iff.1 single)
        simp [List.eraseDups_cons]

/-- The classes of the compiled node of a valid stage kind. -/
theorem compiled_resolves {declared k : RegisteredStageKindDefinition} {nodeId : String}
    {plan : MaterializedGraphNodePlan} (accepted : declared.validate = .ok k)
    (compiled : materializeNodePlan nodeId k = .ok plan) :
    ∀ entry ∈ plan.allowedResultClassesByOutcome, Resolves entry.1 entry.2 := by
  obtain ⟨allowed, normal, rest⟩ := bind_eq_ok.1 compiled
  rw [pure_eq_ok] at rest
  subst rest
  intro entry among
  obtain ⟨source, listed, ofSource⟩ := normalizeAllowedResultClasses_mem normal entry among
  obtain ⟨sameOutcome, classes⟩ := normalizeEntry_eq_ok ofSource
  -- The names of the stage kind are normal already.
  unfold RegisteredStageKindDefinition.validate at accepted
  obtain ⟨-, accepted⟩ := bind_unit_eq_ok.1 accepted
  obtain ⟨legal, -, accepted⟩ := bind_eq_ok.1 accepted
  obtain ⟨success, -, accepted⟩ := bind_eq_ok.1 accepted
  obtain ⟨failure, -, accepted⟩ := bind_eq_ok.1 accepted
  obtain ⟨table, normalTable, accepted⟩ := bind_eq_ok.1 accepted
  obtain ⟨outcomeSets, accepted⟩ := bind_unit_eq_ok.1 accepted
  rw [pure_eq_ok] at accepted
  subst accepted
  obtain ⟨declaredEntry, -, ofDeclared⟩ := normalizeAllowedResultClasses_mem normalTable source listed
  have status := normalizeStatus_isStatus (normalizeEntry_eq_ok ofDeclared).1
  rw [normalizeStatus_of_isStatus status] at sameOutcome
  have sameOutcome := Except.ok.inj sameOutcome
  rw [← sameOutcome, classes]
  apply resolves_of_validated
  simp only [RegisteredStageKindDefinition.validateOutcomeSets, bind_unit_eq_ok, forM_eq_ok] at outcomeSets
  obtain ⟨-, -, outcomeSets⟩ := outcomeSets
  split at outcomeSets
  next => exact forM_eq_ok.1 (bind_unit_eq_ok.1 outcomeSets).1 source listed
  next => simp [bind, Except.bind, throw, throwThe, MonadExceptOf.throw] at outcomeSets

theorem forStage_resolves (stage : StageName) : ∀ entry ∈ forStage stage, Resolves entry.1 entry.2 := by
  unfold Resolves
  cases stage <;> decide

/-! ## Requests of compiled nodes -/

/-- The classes of an outcome of the stage: those of the compiled node, or the stage's own. -/
def classesFor (stage : StageName) (plan : MaterializedGraphNodePlan) (outcome : String) : Option (List ResultClass) :=
  (plan.allowedResultClassesByOutcome.lookup outcome).or ((forStage stage).lookup outcome)

theorem lookup_mem {α β : Type} [BEq α] [LawfulBEq α] {a : α} {b : β} {l : List (α × β)}
    (found : l.lookup a = some b) : (a, b) ∈ l := by
  induction l with
  | nil => simp at found
  | cons entry rest ih =>
    rw [List.lookup_cons] at found
    split at found
    next same =>
      obtain rfl := Option.some.inj found
      rw [eq_of_beq same]
      exact List.mem_cons_self
    next => exact List.mem_cons_of_mem _ (ih found)

theorem lookup_pairs {α β : Type} [BEq α] [LawfulBEq α] {f : α → β} {a : α} {l : List α} (among : a ∈ l) :
    (l.map fun b => (b, f b)).lookup a = some (f a) := by
  induction l with
  | nil => simp at among
  | cons b rest ih =>
    rw [List.map_cons, List.lookup_cons]
    by_cases same : a = b
    · simp [same]
    · have differs : (a == b) = false := beq_eq_false_iff_ne.2 same
      rw [differs]
      exact ih ((List.mem_cons.1 among).resolve_left same)

theorem classesFor_isSome {stage : StageName} (plan : MaterializedGraphNodePlan) {result : TerminalResult}
    (legal : result ∈ legalTerminalResults stage) : (classesFor stage plan result.asStr).isSome = true := by
  have listed : ∀ result ∈ legalTerminalResults stage, ((forStage stage).lookup result.asStr).isSome = true := by
    cases stage <;> decide
  unfold classesFor
  cases plan.allowedResultClassesByOutcome.lookup result.asStr with
  | none => exact listed result legal
  | some classes => rfl

theorem classesFor_resolves {stage : StageName} {plan : MaterializedGraphNodePlan}
    (compiled : ∀ entry ∈ plan.allowedResultClassesByOutcome, Resolves entry.1 entry.2) {outcome : String}
    {classes : List ResultClass} (found : classesFor stage plan outcome = some classes) : Resolves outcome classes := by
  unfold classesFor at found
  cases ofPlan : plan.allowedResultClassesByOutcome.lookup outcome with
  | none =>
    rw [ofPlan, Option.none_or] at found
    exact forStage_resolves stage _ (lookup_mem found)
  | some declared =>
    rw [ofPlan, Option.some_or] at found
    exact compiled _ (Option.some.inj found ▸ lookup_mem ofPlan)

/-- The outcomes of a stage with the classes a request gives them. -/
def ownEntries (stage : StageName) (plan : MaterializedGraphNodePlan) : AllowedResultClassesByOutcome :=
  (legalTerminalResults stage).map fun result => (result.asStr, (classesFor stage plan result.asStr).getD [])

theorem stripMarkers (stage : StageName) :
    (legalTerminalMarkers stage).filterMap stripMarker = (legalTerminalResults stage).map (·.asStr) := by
  rw [legalTerminalMarkers, List.filterMap_map]
  have strip : ∀ result ∈ legalTerminalResults stage, (stripMarker ∘ marker) result = some result.asStr :=
    fun result _ => stripMarker_marker result
  rw [List.filterMap_congr strip]
  simp

theorem policyForStagePlan_eq (stage : StageName) (plan : MaterializedGraphNodePlan) :
    ∃ leftover, policyForStagePlan stage plan = ownEntries stage plan ++ leftover := by
  by_cases empty : plan.allowedResultClassesByOutcome = []
  · refine ⟨[], ?_⟩
    have own : forStage stage = (legalTerminalResults stage).map fun result =>
        (result.asStr, ((forStage stage).lookup result.asStr).getD []) := by
      cases stage <;> rfl
    simp only [policyForStagePlan, empty, List.isEmpty_nil, if_true, List.append_nil, ownEntries, classesFor,
      List.lookup_nil, Option.none_or]
    exact own
  · have filled : plan.allowedResultClassesByOutcome.isEmpty = false := by simpa using empty
    simp only [policyForStagePlan, filled, Bool.false_eq_true, if_false, stripMarkers]
    refine ⟨_, congrArg (· ++ _) ?_⟩
    rw [List.filterMap_map, ownEntries, ← List.filterMap_eq_map]
    apply List.filterMap_congr
    intro result legal
    obtain ⟨classes, found⟩ := Option.isSome_iff_exists.1 (classesFor_isSome plan legal)
    unfold classesFor at found
    simp only [Function.comp_apply, classesFor, found, Option.map_some, Option.getD_some]

theorem reorder_length {markers : List String} {entries reordered : AllowedResultClassesByOutcome}
    (done : reorderToLegalMarkers markers entries = some reordered) : markers.length = entries.length := by
  induction markers generalizing entries reordered with
  | nil =>
    unfold reorderToLegalMarkers at done
    split at done
    next empty => simp [List.isEmpty_iff.1 empty]
    next => simp at done
  | cons first rest ih =>
    simp only [reorderToLegalMarkers, Option.bind_eq_bind, Option.bind_eq_some_iff] at done
    obtain ⟨outcome, -, entry, found, others, ofRest, -⟩ := done
    have among := List.mem_of_find?_eq_some found
    have shorter := List.length_eraseP_of_mem among (List.find?_some found)
    have some := List.length_pos_of_mem among
    have := ih ofRest
    simp only [List.length_cons]
    omega

theorem markersOf_own (stage : StageName) (plan : MaterializedGraphNodePlan) :
    markersOf (ownEntries stage plan) = legalTerminalMarkers stage := by
  simp [markersOf, ownEntries, legalTerminalMarkers, marker]

/-- Only the stage's own outcomes match its markers. -/
theorem matchMarkers_own {stage : StageName} {plan : MaterializedGraphNodePlan}
    {leftover matched : AllowedResultClassesByOutcome}
    (ok : matchMarkers (legalTerminalMarkers stage) (ownEntries stage plan ++ leftover) = .ok matched) :
    matched = ownEntries stage plan := by
  have nothingLeft : leftover = [] → matched = ownEntries stage plan := by
    intro none
    rw [none, List.append_nil, matchMarkers, if_pos (markersOf_own stage plan).symm] at ok
    exact (Except.ok.inj ok).symm
  apply nothingLeft
  rw [← markersOf_own stage plan] at ok
  have lengths : (markersOf (ownEntries stage plan)).length = (ownEntries stage plan ++ leftover).length := by
    unfold matchMarkers at ok
    split at ok
    next same =>
      have := congrArg List.length same
      simpa [markersOf] using this
    next =>
      split at ok
      next reordered found => exact reorder_length found
      next => simp at ok
  simp only [markersOf, List.length_map, List.length_append] at lengths
  exact List.eq_nil_of_length_eq_zero (by omega)

/-- A valid request of a compiled node has the stage's own outcomes, each with the classes given to it. -/
theorem request_tables {plan : MaterializedGraphNodePlan} {r request : StageRunRequest} (built : BuiltFor plan r)
    (valid : r.validate = .ok request) :
    request.stage = r.stage ∧ request.plane = r.stage.plane ∧
      request.legalTerminalMarkers = legalTerminalMarkers r.stage ∧
      request.allowedResultClassesByOutcome = ownEntries r.stage plan ∧ request.validateKind = .ok () := by
  obtain ⟨-, -, -, -, noMarkers, policy⟩ := built
  obtain ⟨leftover, split⟩ := policyForStagePlan_eq r.stage plan
  have markers : r.withDefaults.legalTerminalMarkers = legalTerminalMarkers r.stage := by
    simp [StageRunRequest.withDefaults, noMarkers]
  have some : ownEntries r.stage plan ≠ [] := by
    simp only [ownEntries, ne_eq, List.map_eq_nil_iff]
    exact List.ne_nil_of_mem (blocked_legal r.stage)
  have entries : r.withDefaults.allowedResultClassesByOutcome = ownEntries r.stage plan ++ leftover := by
    simp [StageRunRequest.withDefaults, policy, split, some]
  unfold StageRunRequest.validate at valid
  obtain ⟨-, valid⟩ := bind_unit_eq_ok.1 valid
  obtain ⟨-, valid⟩ := bind_unit_eq_ok.1 valid
  obtain ⟨-, valid⟩ := bind_unit_eq_ok.1 valid
  split at valid
  next => simp [bind, Except.bind, throw, throwThe, MonadExceptOf.throw] at valid
  next ofPlane =>
    obtain ⟨-, valid⟩ := bind_unit_eq_ok.1 valid
    obtain ⟨-, valid⟩ := bind_unit_eq_ok.1 valid
    obtain ⟨-, valid⟩ := bind_unit_eq_ok.1 valid
    obtain ⟨matched, ofMarkers, valid⟩ := bind_eq_ok.1 valid
    obtain ⟨kind, valid⟩ := bind_unit_eq_ok.1 valid
    rw [pure_eq_ok] at valid
    subst valid
    refine ⟨rfl, (not_ne_iff.1 ofPlane).symm, markers, ?_, kind⟩
    rw [markers, entries] at ofMarkers
    exact matchMarkers_own ofMarkers

theorem asStr_isStatus (result : TerminalResult) : isStatus result.asStr.toList = true := by
  cases result with
  | execution result => cases result <;> rfl
  | planning result => cases result <;> rfl
  | learning result => cases result <;> rfl

theorem parseTerminalMarkerForPlane_marker (result : TerminalResult) :
    parseTerminalMarkerForPlane result.plane (marker result) = some result := by
  have status := asStr_isStatus result
  have noSpace : ' ' ∉ result.asStr.toList := by
    intro among
    have := isStatus_solid status ' ' among
    revert this
    decide
  have nonempty : result.asStr ≠ "" := by
    intro none
    rw [none] at status
    simp [isStatus] at status
  unfold parseTerminalMarkerForPlane
  rw [stripMarker_marker]
  simp only [nonempty, (isStatus_inline status).trim, noSpace, ne_eq, not_true, or_self, if_false]
  exact terminalResultForPlane_asStr result

/-- The token is an outcome of the stage, and the class is one that the node gives to it. -/
def Allows (stage : StageName) (plan : MaterializedGraphNodePlan) (token : String) (result : TerminalResult)
    (resultClass : ResultClass) : Prop :=
  result ∈ legalTerminalResults stage ∧ result.asStr = token ∧
    ∃ classes, classesFor stage plan token = some classes ∧ resultClass ∈ classes

/-- What a request of a compiled node carries, for the proofs below. -/
structure Prepared (plan : MaterializedGraphNodePlan) (request : StageRunRequest) : Prop where
  plane : request.plane = request.stage.plane
  markers : request.legalTerminalMarkers = legalTerminalMarkers request.stage
  entries : request.allowedResultClassesByOutcome = ownEntries request.stage plan
  kind : request.validateKind = .ok ()
  resolves : ∀ outcome classes, classesFor request.stage plan outcome = some classes → Resolves outcome classes

section Prepared
variable {plan : MaterializedGraphNodePlan} {request : StageRunRequest}

theorem Prepared.identity (prepared : Prepared plan request) : ∃ identity, requestResultIdentity request = .ok identity := by
  have kind := prepared.kind
  unfold StageRunRequest.validateKind at kind
  unfold requestResultIdentity
  split at kind
  next => simp at kind
  next together =>
    cases requestKind : request.requestKind with
    | closureTarget =>
      simp only [requestKind, StageRunRequest.validateClosureTarget] at kind
      split at kind
      next => simp at kind
      next =>
        split at kind
        next all =>
          simp only [StageRunRequest.hasAllClosureFields, StageRunRequest.closureFields, List.all_cons,
            Bool.and_eq_true] at all
          obtain ⟨rootSpecId, found⟩ := Option.isSome_iff_exists.1 all.2.1
          exact ⟨(.spec, rootSpecId), by rw [found]⟩
        next => simp at kind
    | learningRequest =>
      simp only [requestKind, StageRunRequest.validateLearningRequest] at kind
      split at kind
      next => simp at kind
      next =>
        split at kind
        next => simp at kind
        next isLearning =>
          rw [not_ne_iff.1 isLearning] at together
          have some := Option.isSome_iff_ne_none.2 (by simpa using together)
          obtain ⟨workItemId, found⟩ := Option.isSome_iff_exists.1 some
          exact ⟨(.learningRequest, workItemId), by rw [found]⟩
    | activeWorkItem =>
      simp only [requestKind, StageRunRequest.validateWorkItem] at kind
      split at kind
      next => simp at kind
      next workItemKind isKind =>
        have some := Option.isSome_iff_ne_none.2 (by simpa [isKind] using together)
        obtain ⟨workItemId, found⟩ := Option.isSome_iff_exists.1 some
        exact ⟨(workItemKind, workItemId), by rw [isKind, found]⟩

theorem Prepared.lookup (prepared : Prepared plan request) {result : TerminalResult}
    (legal : result ∈ legalTerminalResults request.stage) :
    ∃ classes, request.allowedResultClassesByOutcome.lookup result.asStr = some classes ∧
      classesFor request.stage plan result.asStr = some classes := by
  obtain ⟨classes, found⟩ := Option.isSome_iff_exists.1 (classesFor_isSome plan legal)
  refine ⟨classes, ?_, found⟩
  have pairs : ownEntries request.stage plan = ((legalTerminalResults request.stage).map (·.asStr)).map fun outcome =>
      (outcome, (classesFor request.stage plan outcome).getD []) := by
    simp [ownEntries]
  rw [prepared.entries, pairs, lookup_pairs (List.mem_map_of_mem legal), found]
  rfl

/-- A token that the request accepts is an outcome of the stage. -/
theorem Prepared.accepted (prepared : Prepared plan request) {token : String} {result : TerminalResult}
    (accepted : terminalResultForRequest request token = some result) :
    result ∈ legalTerminalResults request.stage ∧ result.asStr = token := by
  unfold terminalResultForRequest at accepted
  split at accepted
  next listed =>
    obtain ⟨ofPlane, named⟩ := terminalResultForPlane_eq_some accepted
    refine ⟨?_, named⟩
    rw [prepared.markers, List.any_eq_true] at listed
    obtain ⟨text, listed, same⟩ := listed
    obtain ⟨known, legal, rfl⟩ := List.mem_map.1 listed
    have sameToken : known.asStr = token := by
      have := of_decide_eq_true same
      simpa [marker] using this
    -- Within one plane the token names the outcome.
    have byName := terminalResultForPlane_asStr known
    have found := terminalResultForPlane_asStr result
    rw [legal_of_plane request.stage known legal, sameToken] at byName
    rw [ofPlane, prepared.plane, named] at found
    rw [Option.some.inj (found.symm.trans byName)]
    exact legal
  next => simp at accepted

theorem Prepared.resolved (prepared : Prepared plan request) {token : String} {result : TerminalResult}
    {stated : Option ResultClass} {resultClass : ResultClass}
    (accepted : terminalResultForRequest request token = some result)
    (resolved : resolveResultClass request token stated = some resultClass) :
    Allows request.stage plan token result resultClass ∧ ∀ c, stated = some c → c = resultClass := by
  obtain ⟨legal, rfl⟩ := prepared.accepted accepted
  obtain ⟨classes, listed, found⟩ := prepared.lookup legal
  unfold resolveResultClass at resolved
  rw [listed] at resolved
  cases stated with
  | none =>
    simp only at resolved
    refine ⟨⟨legal, rfl, classes, found, ?_⟩, by simp⟩
    split at resolved
    next => exact List.mem_of_mem_head? resolved
    next =>
      split at resolved
      next blocked =>
        obtain rfl := Option.some.inj resolved
        exact blocked.2
      next => simp at resolved
  | some c =>
    simp only at resolved
    split at resolved
    next among =>
      obtain rfl := Option.some.inj resolved
      exact ⟨⟨legal, rfl, classes, found, among⟩, by simp⟩
    next => simp at resolved

/-- A token of stdout that is accepted always gets a class. -/
theorem Prepared.never_panics (prepared : Prepared plan request) {token : String} {result : TerminalResult}
    (accepted : terminalResultForRequest request token = some result) : resolveResultClass request token none ≠ none := by
  obtain ⟨legal, rfl⟩ := prepared.accepted accepted
  obtain ⟨classes, listed, found⟩ := prepared.lookup legal
  unfold resolveResultClass
  rw [listed]
  simp only
  cases prepared.resolves _ _ found with
  | inl single =>
    rw [if_pos single]
    cases classes with
    | nil => simp at single
    | cons c rest => simp
  | inr blocked =>
    split
    next single =>
      cases classes with
      | nil => simp at single
      | cons c rest => simp
    next => simp

end Prepared

theorem blocked_plane (plane : Plane) : (blockedTerminalForPlane plane).plane = plane := by cases plane <;> rfl
theorem blocked_marker (plane : Plane) : "### BLOCKED" = marker (blockedTerminalForPlane plane) := by
  cases plane <;> rfl

theorem failureDetectedMarker_fst (result : TerminalResult) (detected : Option String) :
    (failureDetectedMarker result detected).1 = none ∨
      (failureDetectedMarker result detected).1 = some (marker result) := by
  cases detected with
  | none => exact Or.inl rfl
  | some found =>
    unfold failureDetectedMarker
    simp only
    split
    next same => exact Or.inr (congrArg some same)
    next => exact Or.inl rfl

theorem failedExtraction_not_ok (failureClass : RunnerFailureClass) (note : String) (artifactPaths : List String)
    (detectedMarker : Option String) : (failedExtraction failureClass note artifactPaths detectedMarker).ok = false := rfl

/-- Tokens that are all the same are one token. -/
theorem same_of_eraseDups {α : Type} [BEq α] [LawfulBEq α] {l : List α} {last : α} (found : l.getLast? = some last)
    (single : ¬l.eraseDups.length > 1) : ∀ a ∈ l, a = last := by
  intro a among
  have lastAmong := List.mem_eraseDups.2 (List.mem_of_getLast? found)
  have among := List.mem_eraseDups.2 among
  cases kept : l.eraseDups with
  | nil => simp [kept] at among
  | cons only rest =>
    rw [kept] at single lastAmong among
    obtain rfl : rest = [] := List.eq_nil_of_length_eq_zero (by simp only [List.length_cons] at single; omega)
    rw [List.mem_singleton.1 among, List.mem_singleton.1 lastAmong]

section
variable [Rfc3339]

/-! ## Faithful results -/

def Identified (request : StageRunRequest) (raw : RunnerRawResult) : Prop :=
  raw.requestId = request.requestId ∧ raw.runId = request.runId ∧ raw.stage = request.stage

/-- The runner completed with exit code zero or none, and no capability evidence is missing. -/
def CleanExit (raw : RunnerRawResult) : Prop :=
  raw.exitKind = .completed ∧ (∀ code, raw.exitCode = some code → code = 0) ∧ raw.missingCapabilityEvidenceRefs = []

/-- The structured file, or the lines of stdout if there is none, give this one token; a file may state a class. -/
def Reports (files : RunFiles) (raw : RunnerRawResult) (token : String) (resultClass : ResultClass) : Prop :=
  match raw.terminalResultPath with
  | some path => ∃ payload, files.structuredResult path = .payload payload ∧ payload.terminalResult = token ∧
      ∀ stated, payload.resultClass = some stated → stated = resultClass
  | none => ∃ path text, raw.stdoutPath = some path ∧ files.stdout path = .holds text ∧ terminalTokens text ≠ [] ∧
      ∀ other ∈ terminalTokens text, other = token

/-- A stage result that says no more than the run shows. -/
structure Faithful (files : RunFiles) (plan : MaterializedGraphNodePlan) (request : StageRunRequest)
    (raw : RunnerRawResult) (e : StageResultEnvelope) : Prop where
  legal : e.terminalResult ∈ legalTerminalResults request.stage
  success : e.resultClass = .success → Identified request raw ∧ CleanExit raw ∧
    ∃ token, Reports files raw token .success ∧ Allows request.stage plan token e.terminalResult .success
  otherwise : e.resultClass ≠ .success → Identified request raw →
    e.terminalResult = blockedTerminalForPlane request.plane ∨
      ∃ token, Reports files raw token e.resultClass ∧
        Allows request.stage plan token e.terminalResult e.resultClass

section Normalization
variable {files : RunFiles} {plan : MaterializedGraphNodePlan} {request : StageRunRequest} {raw : RunnerRawResult}

theorem validateEnvelope_ok {e : StageResultEnvelope} (stage : stagePlane e.stage = e.plane)
    (ofPlane : e.terminalResult.plane = e.plane) (status : e.summaryStatusMarker = marker e.terminalResult)
    (detected : e.detectedMarker = none ∨ e.detectedMarker = some (marker e.terminalResult))
    (inOrder : ¬e.completedAt.instant.nanoseconds < e.startedAt.instant.nanoseconds)
    (succeeds : e.success = decide (e.resultClass = .success)) :
    ∃ valid, validateEnvelope e = .ok valid ∧ valid.terminalResult = e.terminalResult ∧
      valid.resultClass = e.resultClass := by
  have detectedOk : validateDetectedMarker e = .ok () := by
    unfold validateDetectedMarker
    cases detected with
    | inl none => rw [none]
    | inr found =>
      rw [found]
      simp only [← ofPlane, parseTerminalMarkerForPlane_marker, if_true]
  refine ⟨{ e with
    nodeId := if e.nodeId = "" then asStr e.stage else e.nodeId
    stageKindId := if e.stageKindId = "" then asStr e.stage else e.stageKindId }, ?_, rfl, rfl⟩
  simp only [validateEnvelope, stage, status, detectedOk, inOrder, ne_eq, not_true, if_false]
  by_cases isSuccess : e.resultClass = .success
  · simp [isSuccess, succeeds, bind, Except.bind, pure, Except.pure]
  · simp [isSuccess, succeeds, bind, Except.bind, pure, Except.pure]

theorem raw_inOrder (valid : raw.validate = .ok ()) :
    ¬raw.endedAt.instant.nanoseconds < raw.startedAt.instant.nanoseconds := by
  intro backwards
  simp only [RunnerRawResult.validate, bind_unit_eq_ok, backwards, if_true, throw, throwThe, MonadExceptOf.throw]
    at valid
  obtain ⟨-, -, -, valid⟩ := valid
  split at valid
  next => simp [bind, Except.bind] at valid
  next => simp [bind_unit_eq_ok] at valid

variable (files) in
/-- A failure is always recorded as the blocked outcome of the plane. -/
theorem failureEnvelope_ok (prepared : Prepared plan request) (valid : raw.validate = .ok ())
    (failureClass : RunnerFailureClass) (notes : List String) (detectedMarker : Option String)
    (artifactPaths : List String) (classification : Option RunnerFailureMetadata) :
    ∃ e, failureEnvelope files request raw failureClass notes detectedMarker artifactPaths classification = .ok e ∧
      e.terminalResult = blockedTerminalForPlane request.plane ∧ e.resultClass = .recoverableFailure := by
  obtain ⟨identity, known⟩ := prepared.identity
  unfold failureEnvelope
  rw [known]
  exact validateEnvelope_ok prepared.plane.symm (blocked_plane request.plane) (blocked_marker request.plane)
    (failureDetectedMarker_fst _ _) (raw_inOrder valid) rfl

variable (files) in
theorem successEnvelope_ok (prepared : Prepared plan request) (valid : raw.validate = .ok ())
    {terminalResult : TerminalResult} (ofPlane : terminalResult.plane = request.plane) (resultClass : ResultClass)
    {extraction : TerminalExtraction} (detected : extraction.detectedMarker = some (marker terminalResult)) :
    ∃ e, successEnvelope files request raw terminalResult resultClass extraction = .ok e ∧
      e.terminalResult = terminalResult ∧ e.resultClass = resultClass := by
  obtain ⟨identity, known⟩ := prepared.identity
  unfold successEnvelope
  rw [known]
  exact validateEnvelope_ok prepared.plane.symm ofPlane rfl (Or.inr detected) (raw_inOrder valid) rfl

theorem faithful_of_blocked (prepared : Prepared plan request) {e : StageResultEnvelope}
    (blocked : e.terminalResult = blockedTerminalForPlane request.plane)
    (failure : e.resultClass = .recoverableFailure) : Faithful files plan request raw e where
  legal := by
    rw [blocked, prepared.plane]
    exact blocked_legal request.stage
  success := by simp [failure]
  otherwise _ _ := Or.inl blocked

theorem failureEnvelope_faithful (prepared : Prepared plan request) (valid : raw.validate = .ok ())
    (failureClass : RunnerFailureClass) (notes : List String) (detectedMarker : Option String)
    (artifactPaths : List String) (classification : Option RunnerFailureMetadata) :
    ∃ e, failureEnvelope files request raw failureClass notes detectedMarker artifactPaths classification = .ok e ∧
      Faithful files plan request raw e := by
  obtain ⟨e, recorded, blocked, failure⟩ :=
    failureEnvelope_ok files prepared valid failureClass notes detectedMarker artifactPaths classification
  exact ⟨e, recorded, faithful_of_blocked prepared blocked failure⟩

/-- A result that is read off the files, if the reading succeeds. -/
structure Extracted (files : RunFiles) (plan : MaterializedGraphNodePlan) (request : StageRunRequest)
    (raw : RunnerRawResult) (extraction : TerminalExtraction) (terminalResult : TerminalResult)
    (resultClass : ResultClass) : Prop where
  ofResult : extraction.terminalResult = some terminalResult
  ofClass : extraction.resultClass = some resultClass
  detected : extraction.detectedMarker = some (marker terminalResult)
  reported : ∃ token, Reports files raw token resultClass ∧
    Allows request.stage plan token terminalResult resultClass

theorem structuredResult_extracted (prepared : Prepared plan request) {path : String}
    (given : raw.terminalResultPath = some path)
    (ok : (extractFromStructuredResultFile files request path).ok = true) :
    ∃ terminalResult resultClass,
      Extracted files plan request raw (extractFromStructuredResultFile files request path) terminalResult
        resultClass := by
  unfold extractFromStructuredResultFile at ok ⊢
  cases found : files.structuredResult path with
  | missing => simp [found, failedExtraction_not_ok] at ok
  | unreadable error => simp [found, failedExtraction_not_ok] at ok
  | invalid error => simp [found, failedExtraction_not_ok] at ok
  | payload payload =>
    simp only [found] at ok ⊢
    unfold extractFromPayload at ok ⊢
    split at ok
    next => simp [failedExtraction_not_ok] at ok
    next ofStage =>
      rw [if_neg ofStage]
      cases accepted : terminalResultForRequest request payload.terminalResult with
      | none => simp [accepted, failedExtraction_not_ok] at ok
      | some terminalResult =>
        cases resolved : resolveResultClass request payload.terminalResult payload.resultClass with
        | none => simp [accepted, resolved, failedExtraction_not_ok] at ok
        | some resultClass =>
          simp only [accepted, resolved] at ok ⊢
          split at ok
          next present =>
            rw [if_pos present]
            obtain ⟨allows, stated⟩ := prepared.resolved accepted resolved
            refine ⟨terminalResult, resultClass, rfl, rfl, rfl, payload.terminalResult, ?_, allows⟩
            unfold Reports
            rw [given]
            exact ⟨payload, found, rfl, stated⟩
          next => simp [failedExtraction_not_ok] at ok

theorem tokens_extracted (prepared : Prepared plan request) (noFile : raw.terminalResultPath = none) {path text : String}
    (given : raw.stdoutPath = some path) (holds : files.stdout path = .holds text) :
    ∃ extraction, extractFromTokens request (terminalTokens text) = .ok extraction ∧
      (extraction.ok = true → ∃ terminalResult resultClass,
        Extracted files plan request raw extraction terminalResult resultClass) := by
  unfold extractFromTokens
  cases last : (terminalTokens text).getLast? with
  | none => exact ⟨_, rfl, fun ok => by simp [failedExtraction_not_ok] at ok⟩
  | some finalToken =>
    simp only
    split
    next => exact ⟨_, rfl, fun ok => by simp [failedExtraction_not_ok] at ok⟩
    next single =>
      cases accepted : terminalResultForRequest request finalToken with
      | none => exact ⟨_, rfl, fun ok => by simp [failedExtraction_not_ok] at ok⟩
      | some terminalResult =>
        cases resolved : resolveResultClass request finalToken none with
        | none => exact absurd resolved (prepared.never_panics accepted)
        | some resultClass =>
          refine ⟨_, rfl, fun _ => ⟨terminalResult, resultClass, rfl, rfl, ?_, finalToken, ?_, ?_⟩⟩
          · rw [marker, (prepared.accepted accepted).2]
          · unfold Reports
            rw [noFile]
            exact ⟨path, text, given, holds, List.ne_nil_of_mem (List.mem_of_getLast? last),
              same_of_eraseDups last single⟩
          · exact (prepared.resolved accepted resolved).1

variable (files raw) in
theorem extractTerminalResult_extracted (prepared : Prepared plan request) :
    ∃ extraction, extractTerminalResult files request raw = .ok extraction ∧
      (extraction.ok = true → ∃ terminalResult resultClass,
        Extracted files plan request raw extraction terminalResult resultClass) := by
  unfold extractTerminalResult
  cases file : raw.terminalResultPath with
  | some path => exact ⟨_, rfl, structuredResult_extracted prepared file⟩
  | none =>
    simp only
    unfold extractFromStdoutTokens
    cases given : raw.stdoutPath with
    | none => exact ⟨_, rfl, fun ok => by simp [failedExtraction_not_ok] at ok⟩
    | some path =>
      simp only
      cases holds : files.stdout path with
      | missing => exact ⟨_, rfl, fun ok => by simp [failedExtraction_not_ok] at ok⟩
      | unreadable error => exact ⟨_, rfl, fun ok => by simp [failedExtraction_not_ok] at ok⟩
      | holds text => exact tokens_extracted prepared file given holds

theorem normalizeCompleted_faithful (prepared : Prepared plan request) (valid : raw.validate = .ok ())
    (identified : Identified request raw) (clean : CleanExit raw) :
    ∃ e, normalizeCompleted files request raw = .ok e ∧ Faithful files plan request raw e := by
  obtain ⟨extraction, extracted, read⟩ := extractTerminalResult_extracted files raw prepared
  unfold normalizeCompleted
  rw [extracted]
  cases ok : extraction.ok with
  | false =>
    simp only [bind, Except.bind, ok, Bool.not_false, if_true]
    exact failureEnvelope_faithful prepared valid _ _ _ _ _
  | true =>
    obtain ⟨terminalResult, resultClass, given⟩ := read ok
    obtain ⟨token, reports, allows⟩ := given.reported
    have ofPlane : terminalResult.plane = request.plane :=
      (legal_of_plane request.stage _ allows.1).trans prepared.plane.symm
    obtain ⟨e, recorded, sameResult, sameClass⟩ :=
      successEnvelope_ok files prepared valid ofPlane resultClass given.detected
    simp only [bind, Except.bind, ok, Bool.not_true, Bool.false_eq_true, if_false, given.ofResult,
      given.ofClass]
    refine ⟨e, recorded, ?_⟩
    exact {
      legal := by rw [sameResult]; exact allows.1
      success := by
        intro isSuccess
        rw [sameClass] at isSuccess
        subst isSuccess
        exact ⟨identified, clean, token, reports, sameResult ▸ allows⟩
      otherwise := fun _ _ => Or.inr ⟨token, sameClass ▸ reports, by rw [sameResult, sameClass]; exact allows⟩ }

theorem identified_of_no_notes (none : (identityMismatchNotes request raw).isEmpty = true) : Identified request raw := by
  simp only [identityMismatchNotes, ne_eq, ite_not, List.isEmpty_iff, List.append_eq_nil_iff, ite_eq_left_iff,
    List.cons_ne_nil, imp_false, not_not] at none
  exact ⟨none.1.1, none.1.2, none.2⟩

variable (files) in
theorem classified_of_incomplete (incomplete : raw.exitKind ≠ .completed) :
    ∃ classification, classifyRawExitFailure files raw = some classification := by
  unfold classifyRawExitFailure
  rw [if_neg fun clean => incomplete clean.1]
  split
  next => exact ⟨_, rfl⟩
  next =>
    split
    next => exact ⟨_, rfl⟩
    next =>
      split
      next => exact ⟨_, rfl⟩
      next =>
        split
        next => exact ⟨_, rfl⟩
        next => exact ⟨_, rfl⟩

theorem normalizeStageResult_faithful (prepared : Prepared plan request) (valid : raw.validate = .ok ()) :
    ∃ e, normalizeStageResult files request raw = .ok e ∧ Faithful files plan request raw e := by
  have accepted : raw.validate.mapError Stop.failed = .ok () := mapError_eq_ok.2 valid
  unfold normalizeStageResult
  rw [accepted]
  simp only [bind, Except.bind]
  cases none : (identityMismatchNotes request raw).isEmpty with
  | false =>
    simp only [Bool.not_false, if_true]
    exact failureEnvelope_faithful prepared valid _ _ _ _ _
  | true =>
    simp only [Bool.not_true, Bool.false_eq_true, if_false]
    have identified := identified_of_no_notes none
    by_cases completed : raw.exitKind = .completed
    · simp only [completed, ne_eq, not_true, if_false, true_and]
      split
      next => exact failureEnvelope_faithful prepared valid _ _ _ _ _
      next codes =>
        split
        next => exact failureEnvelope_faithful prepared valid _ _ _ _ _
        next evidence =>
          have clean : CleanExit raw := by
            refine ⟨completed, ?_, by simpa using evidence⟩
            intro code given
            simpa [given] using codes
          exact normalizeCompleted_faithful prepared valid identified clean
    · obtain ⟨classification, classified⟩ := classified_of_incomplete files completed
      simp only [completed, ne_eq, not_false_iff, if_true, classified]
      exact failureEnvelope_faithful prepared valid _ _ _ _ _

end Normalization

/-- Every valid raw result of a request for a compiled node is normalised without a panic, to a faithful result. -/
theorem compiled_request_normalized_faithfully {declared k : RegisteredStageKindDefinition} {nodeId : String}
    {plan : MaterializedGraphNodePlan} {r request : StageRunRequest} {raw : RunnerRawResult} (files : RunFiles)
    (accepted : declared.validate = .ok k) (compiled : materializeNodePlan nodeId k = .ok plan)
    (built : BuiltFor plan r) (valid : r.validate = .ok request) (rawValid : raw.validate = .ok ()) :
    ∃ e, normalizeStageResult files request raw = .ok e ∧ Faithful files plan request raw e := by
  obtain ⟨sameStage, ofPlane, markers, entries, kind⟩ := request_tables built valid
  have prepared : Prepared plan request := {
    plane := by rw [ofPlane, sameStage]
    markers := by rw [markers, sameStage]
    entries := by rw [entries, sameStage]
    kind := kind
    resolves := fun _ _ found => classesFor_resolves (compiled_resolves accepted compiled) found }
  exact normalizeStageResult_faithful prepared rawValid

end

/-! ## A node without an outcome of its stage -/

section Concrete
local instance zonesOfRunners : Rfc3339 := Queue.twoZones

/-- A stage kind of the checker that never passes. -/
def strictChecker : RegisteredStageKindDefinition where
  stageKindId := "checker"
  plane := .execution
  legalOutcomes := ["FIX_NEEDED", "BLOCKED"]
  successOutcomes := []
  failureOutcomes := ["FIX_NEEDED", "BLOCKED"]
  allowedResultClassesByOutcome := [("FIX_NEEDED", [.followupNeeded]), ("BLOCKED", [.blocked])]

def strictNode : MaterializedGraphNodePlan :=
  ⟨"checker", "checker", .execution, strictChecker.allowedResultClassesByOutcome⟩

def strictRequest : StageRunRequest where
  requestId := "request-1"
  runId := "run-1"
  plane := .execution
  stage := .checker
  requestKind := .activeWorkItem
  nodeId := "checker"
  stageKindId := "checker"
  legalTerminalMarkers := []
  allowedResultClassesByOutcome := policyForStagePlan .checker strictNode
  activeWorkItemKind := some .task
  activeWorkItemId := some "task-1"
  activeWorkItemPath := some "task-1.md"
  closureTargetPath := none
  closureTargetRootSpecId := none
  closureTargetRootIdeaId := none
  canonicalRootSpecPath := none
  canonicalSeedIdeaPath := none
  preferredRubricPath := none
  preferredVerdictPath := none
  preferredReportPath := none
  runDir := "/runs/run-1"
  preferredTroubleshootReportPath := none
  contextBundlePath := none
  renderedPromptContextPath := none

def passingRun : RunnerRawResult where
  requestId := "request-1"
  runId := "run-1"
  stage := .checker
  runnerName := "codex_cli"
  exitKind := .completed
  exitCode := some 0
  observedExitKind := none
  observedExitCode := none
  stdoutPath := some "stdout.txt"
  stderrPath := none
  terminalResultPath := none
  eventLogPath := none
  failureCapabilityClass := none
  capabilityEvidenceRefs := []
  missingCapabilityEvidenceRefs := []
  startedAt := Queue.inLondon
  endedAt := Queue.inLondon

def passingFiles : RunFiles where
  structuredResult _ := .missing
  stdout _ := .holds "### CHECKER_PASS"
  artifactExists _ _ := false
  failureEvidence _ _ := ""

/-- The request with the defaults that its validation fills in. -/
def strictChecked : StageRunRequest :=
  { strictRequest with legalTerminalMarkers := ["### CHECKER_PASS", "### FIX_NEEDED", "### BLOCKED"] }

theorem strictChecker_valid : strictChecker.validate = .ok strictChecker := by decide +kernel
theorem strictNode_compiled : materializeNodePlan "checker" strictChecker = .ok strictNode := by decide +kernel
theorem strictRequest_built : BuiltFor strictNode strictRequest := ⟨by decide +kernel, rfl, rfl, rfl, rfl, rfl⟩
theorem strictRequest_valid : strictRequest.validate = .ok strictChecked := by decide +kernel
theorem passingRun_valid : passingRun.validate = .ok () := by decide +kernel

theorem passingRun_passes :
    (normalizeStageResult passingFiles strictChecked passingRun).map (fun e => (e.resultClass, e.terminalResult)) =
      .ok (.success, .execution .checkerPass) := by
  decide +kernel

/-- The node's own table has no pass, and the request built for it has one. -/
theorem left_out_outcome_returned :
    strictChecker.validate = .ok strictChecker ∧ materializeNodePlan "checker" strictChecker = .ok strictNode ∧
      BuiltFor strictNode strictRequest ∧ strictRequest.validate = .ok strictChecked ∧
      passingRun.validate = .ok () ∧
      ∃ e, normalizeStageResult passingFiles strictChecked passingRun = .ok e ∧ e.resultClass = .success ∧
        e.terminalResult.asStr ∉ strictNode.allowedResultClassesByOutcome.map (·.1) := by
  obtain ⟨e, normalized, same⟩ := map_eq_ok.1 passingRun_passes
  obtain ⟨isSuccess, passes⟩ := Prod.mk.inj same
  refine ⟨strictChecker_valid, strictNode_compiled, strictRequest_built, strictRequest_valid, passingRun_valid, e,
    normalized, isSuccess, ?_⟩
  rw [passes]
  decide

theorem strictRequest_normalized :
    ∃ e, normalizeStageResult passingFiles strictChecked passingRun = .ok e ∧
      Faithful passingFiles strictNode strictChecked passingRun e :=
  compiled_request_normalized_faithfully passingFiles strictChecker_valid strictNode_compiled strictRequest_built
    strictRequest_valid passingRun_valid

end Concrete

end Millrace.Runners
