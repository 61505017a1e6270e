import Millrace.Intake.Ideas
import Millrace.Returns
import Millrace.WorkDocuments.RoundTrip
import Millrace.Workspace.Requeue

/-! One watcher event of an idea: the spec it derives, which is always valid, and what it writes. -/

set_option autoImplicit false

namespace Millrace.Intake
open Millrace.Text Millrace.Contracts Millrace.WorkDocuments Millrace.Action
open Millrace.Queue (ItemState Directory DocumentPath Workspace World StoreM QueueStoreError Environment absolute)
open Millrace.Runtime.PollWatcher (PathBuf)

section
variable [Rfc3339] {env : Environment}

/-! ## Operations that do not fail -/

/-- No operation on the files fails. -/
def Calm (env : Environment) : Prop := ∀ n, (env.reading n).fault = none

/-- The computation has this result, writes nothing and does not fail. -/
def Answers {α : Type} (s : World) (x : StoreM α) (a : α) : Prop :=
  Returns s x fun b t => b = a ∧ t.workspace = s.workspace

section Answers
variable {α β : Type} {s : World}

theorem Answers.pure (a : α) : Answers s (Pure.pure a) a := returns_pure.mpr ⟨rfl, rfl⟩

theorem Answers.bind {x : StoreM α} {f : α → StoreM β} {a : α} {b : β} (first : Answers s x a)
    (rest : ∀ t : World, t.workspace = s.workspace → Answers t (f a) b) : Answers s (x >>= f) b := by
  refine returns_bind.mpr (first.weaken ?_)
  rintro _ t ⟨rfl, same⟩
  refine (rest t same).weaken ?_
  rintro _ u ⟨found, same'⟩
  exact ⟨found, same'.trans same⟩

theorem fileOperation_answers (calm : Calm env) (relative : String) : Answers s (Queue.fileOperation env relative) () := by
  unfold Answers Returns
  rw [Queue.fileOperation_run, calm]
  exact ⟨(), _, rfl, rfl, rfl⟩

theorem currentWorkspace_answers : Answers s Queue.currentWorkspace s.workspace := ⟨_, s, rfl, rfl, rfl⟩

theorem listMarkdownFiles_answers (calm : Calm env) (d : Directory) :
    Answers s (Queue.listMarkdownFiles env d) (s.workspace.markdownFiles d) :=
  (fileOperation_answers calm d.relative).bind fun _ same => currentWorkspace_answers.bind fun _ _ => same ▸ .pure _

theorem readIfPresent_answers (calm : Calm env) (path : DocumentPath) :
    Answers s (Queue.readIfPresent env path) (s.workspace.file path) :=
  (fileOperation_answers calm path.relative).bind fun _ same => currentWorkspace_answers.bind fun _ _ => same ▸ .pure _

/-- A spec file of the workspace, as far as it can be parsed. -/
def specAt (env : Environment) (w : Workspace) (path : DocumentPath) : Option SpecDocument :=
  (w.file path).bind fun raw => (parseSpecDocumentWithSource raw (absolute env path.relative)).toOption

/-- A spec of the workspace stands for the idea. -/
def Represented (env : Environment) (w : Workspace) (specId ideaReference : String) : Prop :=
  ∃ state ∈ specStates, ∃ stem document, specAt env w ⟨⟨.spec, state, none⟩, stem⟩ = some document ∧
    represents specId ideaReference document = true

theorem readSpec_answers (calm : Calm env) (path : DocumentPath) :
    Answers s (readSpec env path) (specAt env s.workspace path) := by
  obtain ⟨read, t, ran, rfl, same⟩ := readIfPresent_answers (s := s) calm path
  have attempted : Answers s (attempt (Queue.readIfPresent env path)) (.ok (s.workspace.file path)) := by
    refine ⟨_, t, ?_, rfl, same⟩
    unfold attempt
    rw [ran]
  refine attempted.bind fun _ _ => ?_
  exact .pure _

theorem anyRepresents_answers (calm : Calm env) (specId ideaReference : String) (paths : List DocumentPath) :
    Answers s (anyRepresents env specId ideaReference paths)
      (paths.any fun path => (specAt env s.workspace path).any (represents specId ideaReference)) := by
  induction paths generalizing s with
  | nil => exact .pure _
  | cons path rest ih =>
    refine (readSpec_answers calm path).bind fun t same => ?_
    rw [List.any_cons]
    cases found : (specAt env s.workspace path).any (represents specId ideaReference) with
    | true =>
      rw [if_pos rfl, Bool.true_or]
      exact .pure _
    | false =>
      rw [if_neg Bool.false_ne_true, Bool.false_or, ← same]
      exact ih

theorem representedIn_answers (calm : Calm env) (specId ideaReference : String) (states : List ItemState) :
    Answers s (representedIn env specId ideaReference states) (states.any fun state =>
      (s.workspace.markdownFiles ⟨.spec, state, none⟩).any fun path =>
        (specAt env s.workspace path).any (represents specId ideaReference)) := by
  induction states generalizing s with
  | nil => exact .pure _
  | cons state rest ih =>
    refine (listMarkdownFiles_answers calm _).bind fun t same => ?_
    refine (anyRepresents_answers calm specId ideaReference _).bind fun u same' => ?_
    rw [same, List.any_cons]
    cases found : (s.workspace.markdownFiles ⟨.spec, state, none⟩).any fun path =>
        (specAt env s.workspace path).any (represents specId ideaReference) with
    | true =>
      rw [if_pos rfl, Bool.true_or]
      exact .pure _
    | false =>
      rw [if_neg Bool.false_ne_true, Bool.false_or, ← same, ← same']
      exact ih

theorem represented_iff {w : Workspace} {specId ideaReference : String} :
    (specStates.any fun state => (w.markdownFiles ⟨.spec, state, none⟩).any fun path =>
      (specAt env w path).any (represents specId ideaReference)) = true ↔ Represented env w specId ideaReference := by
  unfold Represented
  simp only [List.any_eq_true, Workspace.mem_markdownFiles, Option.any_eq_true]
  constructor
  · rintro ⟨state, listed, ⟨d, stem⟩, ⟨rfl, -⟩, document, found, stands⟩
    exact ⟨state, listed, stem, document, found, stands⟩
  · rintro ⟨state, listed, stem, document, found, stands⟩
    refine ⟨state, listed, _, ⟨rfl, ?_⟩, document, found, stands⟩
    obtain ⟨raw, read, -⟩ := Option.bind_eq_some_iff.mp found
    rw [read]
    rfl

/-- A spec file of this id is there. -/
def Taken (w : Workspace) (specId : String) : Prop :=
  ∃ state ∈ specStates, (w.file ⟨⟨.spec, state, none⟩, specId⟩).isSome

instance (w : Workspace) (specId : String) : Decidable (Taken w specId) :=
  inferInstanceAs (Decidable (∃ state ∈ specStates, _))

theorem ensureUniqueId_ends (specId : String) (states : List ItemState) :
    Queue.ensureUniqueId .spec specId states s =
      if ∃ state ∈ states, (s.workspace.file ⟨⟨.spec, state, none⟩, specId⟩).isSome then
        .error (.invalidState (asStr WorkItemKind.spec ++ " " ++ specId ++ " already exists")) s
      else .ok () s := by
  induction states with
  | nil => rw [if_neg (by simp)]; rfl
  | cons state rest ih =>
    unfold Queue.ensureUniqueId
    rw [bind_run, Queue.isFile_run]
    dsimp only
    rw [bind_run]
    by_cases there : (s.workspace.file ⟨⟨.spec, state, none⟩, specId⟩).isSome
    · rw [if_pos ⟨state, List.mem_cons_self, there⟩]
      unfold Queue.refuseIf
      rw [if_pos there]
      rfl
    · unfold Queue.refuseIf
      rw [if_neg there, pure_run]
      dsimp only
      rw [ih]
      by_cases later : ∃ state ∈ rest, (s.workspace.file ⟨⟨.spec, state, none⟩, specId⟩).isSome
      · obtain ⟨state', member, there'⟩ := later
        rw [if_pos ⟨state', member, there'⟩, if_pos ⟨state', List.mem_cons_of_mem _ member, there'⟩]
      · rw [if_neg later, if_neg]
        rintro ⟨state', member, there'⟩
        rcases List.mem_cons.mp member with rfl | member
        · exact there there'
        · exact later ⟨state', member, there'⟩

end Answers

/-! ## The spec of an idea -/

section Document

omit [Rfc3339] in
theorem replaced_solid (previous : Bool) (stem : List Char) : ∀ c ∈ replaced previous stem, isIdentifierTail c = true := by
  induction stem generalizing previous with
  | nil =>
    intro c none
    cases none
  | cons first rest ih =>
    unfold replaced
    split
    next solid =>
      intro c member
      rcases List.mem_cons.mp member with rfl | later
      · exact solid
      · exact ih false c later
    next =>
      split
      next => exact ih true
      next =>
        intro c member
        rcases List.mem_cons.mp member with rfl | later
        · rfl
        · exact ih true c later

omit [Rfc3339] in
theorem markIdea_safe {normalized : List Char} (solid : normalized.all isIdentifierTail = true) :
    SafeIdentifier (String.ofList (markIdea normalized)) := by
  unfold SafeIdentifier markIdea
  rw [String.toList_ofList]
  have opening : isAsciiAlphanumeric 'i' = true := rfl
  by_cases marked : ideaMark.isPrefixOf normalized = true
  · rw [if_pos marked]
    obtain ⟨rest, same⟩ := List.isPrefixOf_iff_prefix.mp marked
    refine ⟨'i', "dea-".toList ++ rest, same.symm, opening, ?_⟩
    rw [← same] at solid
    exact (Bool.and_eq_true _ _ ▸ solid).2
  · rw [if_neg marked]
    refine ⟨'i', "dea-".toList ++ normalized, rfl, opening, ?_⟩
    rw [List.all_append, solid, Bool.and_true]
    rfl

omit [Rfc3339] in
/-- The id of an idea is a safe identifier, whatever the name of its file. -/
theorem safeSpecId_safe (p : PathBuf) : SafeIdentifier (safeSpecIdFromIdeaPath p) := by
  refine markIdea_safe ?_
  unfold orIdea
  split
  next => rfl
  next =>
    refine List.all_eq_true.mpr fun c member => replaced_solid false (ideaStem p) c ?_
    exact (List.dropWhile_sublist _).subset ((List.rdropWhile_prefix _ _).sublist.subset member)

theorem ideaDocument_valid (p : PathBuf) (content : String) (now : Timestamp) :
    (ideaDocument p content now).validate = .ok () := by
  have safe := safeSpecId_safe p
  refine (SpecDocument.validate_iff _).mpr ⟨safe, ?_, ?_, ?_, ?_, ?_, List.cons_ne_nil _ _, List.cons_ne_nil _ _,
    List.cons_ne_nil _ _, ?_⟩
  · rintro v same
    exact Option.some.inj same ▸ safe
  · rintro v none
    cases none
  · rintro v same
    exact Option.some.inj same ▸ safe
  · rintro v same
    exact Option.some.inj same ▸ safe
  · rintro v none
    cases none
  · show ideaReferences _ _ ≠ []
    unfold ideaReferences
    split <;> exact List.cons_ne_nil _ _

omit [Rfc3339] in
theorem ideaLines_inline {content : String} : ∀ line ∈ ideaLines content, Inline line := by
  intro line member
  obtain ⟨member, nonempty⟩ := List.mem_filter.mp member
  obtain ⟨raw, listed, rfl⟩ := List.mem_map.mp member
  exact inline_trim (of_decide_eq_true nonempty) (newline_not_mem_lines _ raw listed)

omit [Rfc3339] in
theorem headingText_inline {content : String} {line : List Char} (member : line ∈ ideaLines content)
    (nonempty : headingText line ≠ []) : Inline (headingText line) :=
  inline_trim nonempty fun newline =>
    (ideaLines_inline line member).oneLine ((List.dropWhile_sublist _).subset newline)

omit [Rfc3339] in
theorem ideaTitle_inline (content : String) {fallback : List Char} (inline : Inline fallback) :
    Inline (ideaTitle content fallback) := by
  have first : Inline (((ideaLines content).findSome? fun line =>
      if line.head? = some '#' ∧ headingText line ≠ [] then some (headingText line) else none).getD fallback) := by
    cases found : (ideaLines content).findSome? fun line =>
        if line.head? = some '#' ∧ headingText line ≠ [] then some (headingText line) else none with
    | none => exact inline
    | some title =>
      obtain ⟨line, member, chosen⟩ := List.exists_of_findSome?_eq_some found
      split at chosen
      next heading =>
        obtain rfl := Option.some.inj chosen
        exact headingText_inline member heading.2
      next => cases chosen
  unfold ideaTitle
  dsimp only
  split
  next =>
    cases lines : ideaLines content with
    | nil =>
      rw [lines] at first
      exact first
    | cons line rest => exact ideaLines_inline line (lines ▸ List.mem_cons_self)
  next => exact first

omit [Rfc3339] in
theorem ideaSummary_inline (content : String) {fallback : List Char} (inline : Inline fallback) :
    Inline (ideaSummary content fallback) := by
  unfold ideaSummary
  cases found : (ideaLines content).findSome? fun line =>
      if headingText line ≠ [] ∧ headingText line ≠ ideaTitle content fallback then some (headingText line) else none with
  | some summary =>
    obtain ⟨line, member, chosen⟩ := List.exists_of_findSome?_eq_some found
    split at chosen
    next text =>
      obtain rfl := Option.some.inj chosen
      exact headingText_inline member text.1
    next => cases chosen
  | none =>
    refine ⟨fun empty => inline.nonempty (List.append_eq_nil_iff.mp empty).2, ?_, ?_⟩
    · have opening : isWhitespace 'I' = false := rfl
      exact trimmed_cons_append opening inline.nonempty inline.trimmed
    · intro newline
      rcases List.mem_append.mp newline with newline | newline
      · revert newline
        decide
      · exact inline.oneLine newline

omit [Rfc3339] in
/-- A file whose name and path take one line of a document. -/
structure Plain (p : PathBuf) : Prop where
  stem : Inline (ideaStem p)
  reference : Inline (workspaceRelative p).toList

omit [Rfc3339] in
theorem inlineItems_nil : InlineItems [] := fun _ none => absurd none List.not_mem_nil

omit [Rfc3339] in
theorem sourceArtifactPath_inline {specId : String} (safe : SafeIdentifier specId) :
    Inline (sourceArtifactPath specId).toList := by
  have folder : ("millrace-agents/intake/ideas/".toList.all fun c => !isWhitespace c) = true := by decide
  have ending : (".md".toList.all fun c => !isWhitespace c) = true := by decide
  unfold sourceArtifactPath
  rw [String.toList_append, String.toList_append]
  refine inline_of_solid (List.append_ne_nil_of_right_ne_nil _ (List.cons_ne_nil _ _)) fun c member => ?_
  rcases List.mem_append.mp member with member | member
  · rcases List.mem_append.mp member with member | member
    · exact Bool.not_eq_true' _ ▸ List.all_eq_true.mp folder c member
    · exact isWhitespace_of_identifierTail (safe.solid c member)
  · exact Bool.not_eq_true' _ ▸ List.all_eq_true.mp ending c member

theorem ideaDocument_canonical {p : PathBuf} (plain : Plain p) (content : String) {now : Timestamp}
    (oneLine : OneLineTimestamp now) : (ideaDocument p content now).Canonical := by
  have summary : Inline (String.ofList (ideaSummary content (ideaStem p))).toList := by
    rw [String.toList_ofList]
    exact ideaSummary_inline content plain.stem
  exact {
    title := by
      show Inline (String.ofList (ideaTitle content (ideaStem p))).toList
      rw [String.toList_ofList]
      exact ideaTitle_inline content plain.stem
    summary
    createdAt := oneLine
    createdBy := (by decide : Inline "watcher".toList)
    updatedAt := fun _ none => by cases none
    goals := fun _ member => List.mem_singleton.mp member ▸ summary
    nonGoals := inlineItems_nil
    scope := inlineItems_nil
    constraints := (by decide +kernel : InlineItems ["generated from ideas/inbox watcher event"])
    assumptions := inlineItems_nil
    risks := inlineItems_nil
    targetPaths := inlineItems_nil
    entrypoints := inlineItems_nil
    requiredSkills := inlineItems_nil
    decompositionHints := inlineItems_nil
    acceptance := (by decide +kernel : InlineItems ["planner processes this idea-derived spec"])
    references := by
      have artifact := sourceArtifactPath_inline (safeSpecId_safe p)
      show InlineItems (ideaReferences _ _)
      unfold ideaReferences
      intro reference member
      split at member
      next => exact List.mem_singleton.mp member ▸ artifact
      next =>
        rcases List.mem_cons.mp member with rfl | member
        · exact artifact
        · exact List.mem_singleton.mp member ▸ plain.reference }

end Document

/-! ## One event -/

section Event

/-- Where the spec of an idea is queued. -/
def specPath (specId : String) : DocumentPath := ⟨⟨.spec, .queue, none⟩, specId⟩

theorem enqueueSpec_taken {s : World} {document : SpecDocument} (valid : document.validate = .ok ())
    (taken : Taken s.workspace document.specId) :
    Queue.enqueueSpec env document s =
      .error (.invalidState (asStr WorkItemKind.spec ++ " " ++ document.specId ++ " already exists")) s := by
  unfold Queue.enqueueSpec Queue.enqueueDocument
  rw [valid]
  dsimp only
  have refused : Queue.ensureUniqueId .spec document.specId [.queue, .active, .done, .blocked] s =
      .error (.invalidState (asStr WorkItemKind.spec ++ " " ++ document.specId ++ " already exists")) s := by
    rw [ensureUniqueId_ends]
    exact if_pos taken
  rw [bind_run, refused]

theorem enqueueSpec_free (calm : Calm env) {s : World} {document : SpecDocument} (valid : document.validate = .ok ())
    (free : ¬Taken s.workspace document.specId) :
    Returns s (Queue.enqueueSpec env document) fun path t => path = specPath document.specId ∧
      t.workspace = s.workspace.insert path (renderSpecDocument document) := by
  unfold Queue.enqueueSpec Queue.enqueueDocument
  rw [valid]
  dsimp only
  have unique : Queue.ensureUniqueId .spec document.specId [.queue, .active, .done, .blocked] s = .ok () s := by
    rw [ensureUniqueId_ends]
    exact if_neg free
  refine returns_bind.mpr ((returns_of_ok unique).mpr (returns_bind.mpr ?_))
  unfold Queue.writeDocument Queue.createDirAll
  refine returns_bind.mpr ((fileOperation_answers calm _).weaken ?_)
  rintro _ t ⟨-, same⟩
  refine returns_bind.mpr ((fileOperation_answers calm _).weaken ?_)
  rintro _ u ⟨-, same'⟩
  refine returns_modify.mpr (returns_pure.mpr ⟨rfl, ?_⟩)
  show u.workspace.insert (specPath document.specId) (renderSpecDocument document) = _
  rw [same', same]
  rfl

omit [Rfc3339] in
theorem isAlreadyExists_taken (specId : String) :
    isAlreadyExists (.invalidState (asStr WorkItemKind.spec ++ " " ++ specId ++ " already exists")) = true := by
  refine decide_eq_true ⟨(asStr WorkItemKind.spec ++ " " ++ specId ++ " ").toList, [], ?_⟩
  simp only [String.toList_append, List.append_nil, List.append_assoc]
  rfl

theorem onQueue_returns {α : Type} {x : StoreM α} {s : IdeaWorld} {Q : α → World → Prop} (returns : Returns s.queue x Q) :
    Returns s (onQueue x) fun a t => Q a t.queue ∧ t.artifacts = s.artifacts := by
  unfold onQueue
  exact returns_onPart.mpr (returns.weaken fun _ _ holds => ⟨holds, rfl⟩)

omit [Rfc3339] in
theorem attempt_returns {ε ε' σ α : Type} {x : EStateM ε σ α} {s : σ} {Q : α → σ → Prop} (returns : Returns s x Q) :
    Returns s (attempt x : EStateM ε' σ (Except ε α)) fun outcome t => ∃ a, outcome = .ok a ∧ Q a t := by
  obtain ⟨a, t, ran, holds⟩ := returns
  refine ⟨.ok a, t, ?_, a, rfl, holds⟩
  unfold attempt
  rw [ran]

/-- Nothing but the events changes. -/
def SameFiles (s t : IdeaWorld) : Prop := t.queue.workspace = s.queue.workspace ∧ t.artifacts = s.artifacts

theorem writeRuntimeEvent_returns (calm : Calm env) (s : IdeaWorld) (event : IdeaEvent) :
    Returns s (writeRuntimeEvent env event) fun _ t => SameFiles s t := by
  unfold writeRuntimeEvent
  refine returns_bind.mpr ((onQueue_returns (fileOperation_answers calm _)).weaken ?_)
  rintro _ t ⟨⟨-, same⟩, artifacts⟩
  exact returns_modify.mpr ⟨same, artifacts⟩

theorem writeIdeaSourceArtifact_returns (calm : Calm env) (s : IdeaWorld) {rootIdeaId : String} (content : String)
    (safe : SafeIdentifier rootIdeaId) :
    Returns s (writeIdeaSourceArtifact env rootIdeaId content) fun _ t => t.queue.workspace = s.queue.workspace ∧
      t.artifacts = fun id => if id = rootIdeaId then some content else s.artifacts id := by
  unfold writeIdeaSourceArtifact
  rw [(validateSafeIdentifier_iff _ _).mpr safe]
  dsimp only
  refine returns_bind.mpr ((onQueue_returns (fileOperation_answers calm _)).weaken ?_)
  rintro _ t ⟨⟨-, same⟩, artifacts⟩
  refine returns_bind.mpr ((onQueue_returns (fileOperation_answers calm _)).weaken ?_)
  rintro _ u ⟨⟨-, same'⟩, artifacts'⟩
  refine returns_modify.mpr ⟨same'.trans same, ?_⟩
  rw [artifacts', artifacts]

/-- An idea that neither is represented nor has its id taken. -/
def Open (env : Environment) (w : Workspace) (p : PathBuf) : Prop :=
  ¬Represented env w (safeSpecIdFromIdeaPath p) (workspaceRelative p) ∧ ¬Taken w (safeSpecIdFromIdeaPath p)

/-- An event on a file of the inbox writes its source artifact, and its spec where the idea is open. -/
theorem event_returns (calm : Calm env) {inbox : PathBuf → InboxEntry} {p : PathBuf} {content : String}
    (found : inbox p = .file content) (now : Timestamp) (s : IdeaWorld) :
    Returns s (normalizeIdeaWatchEvent env inbox p now) fun handled t => handled = true ∧
      (t.artifacts = fun id => if id = safeSpecIdFromIdeaPath p then some content else s.artifacts id) ∧
      (¬Open env s.queue.workspace p → t.queue.workspace = s.queue.workspace) ∧
      (Open env s.queue.workspace p → t.queue.workspace =
        s.queue.workspace.insert (specPath (safeSpecIdFromIdeaPath p)) (renderSpecDocument (ideaDocument p content now))) := by
  have skip (t : IdeaWorld) (event : IdeaEvent) : Returns t (do writeRuntimeEvent env event; return true) fun handled u =>
      handled = true ∧ SameFiles t u := by
    refine returns_bind.mpr ((writeRuntimeEvent_returns calm t event).weaken ?_)
    intro _ u same
    exact returns_pure.mpr ⟨rfl, same⟩
  unfold normalizeIdeaWatchEvent
  rw [found]
  dsimp only
  refine returns_bind.mpr ((attempt_returns (writeIdeaSourceArtifact_returns calm s content (safeSpecId_safe p))).weaken ?_)
  rintro _ t ⟨-, rfl, files, artifacts⟩
  dsimp only
  refine returns_bind.mpr ((onQueue_returns (representedIn_answers calm _ _ specStates)).weaken ?_)
  rintro represented u ⟨⟨held, same⟩, artifacts'⟩
  rw [files] at same held
  rw [artifacts] at artifacts'
  have answer : represented = true ↔
      Represented env s.queue.workspace (safeSpecIdFromIdeaPath p) (workspaceRelative p) := by
    rw [held]
    exact represented_iff
  refine returns_ite.mpr ⟨fun already => ?_, fun fresh => ?_⟩
  · have closed : ¬Open env s.queue.workspace p := fun opened => opened.1 (answer.mp already)
    refine (skip u _).weaken ?_
    rintro handled v ⟨rfl, same', kept⟩
    exact ⟨rfl, kept.trans artifacts', fun _ => same'.trans same, fun opened => absurd opened closed⟩
  · have unseen : ¬Represented env s.queue.workspace (safeSpecIdFromIdeaPath p) (workspaceRelative p) := fun already =>
      fresh (answer.mpr already)
    have valid := ideaDocument_valid p content now
    by_cases taken : Taken s.queue.workspace (safeSpecIdFromIdeaPath p)
    · have closed : ¬Open env s.queue.workspace p := fun opened => opened.2 taken
      -- the id is there under a document that does not stand for the idea; the answer of the queue counts as a skip
      have refused : attempt (onQueue (Queue.enqueueSpec env (ideaDocument p content now))) u =
          (.ok (.error (.invalidState (asStr WorkItemKind.spec ++ " " ++ safeSpecIdFromIdeaPath p ++ " already exists"))) u :
            EStateM.Result QueueStoreError IdeaWorld (Except QueueStoreError DocumentPath)) := by
        unfold attempt onQueue
        rw [onPart_run, enqueueSpec_taken valid (same ▸ taken)]
        rfl
      refine returns_bind.mpr ((returns_of_ok refused).mpr ?_)
      dsimp only
      rw [isAlreadyExists_taken]
      refine (returns_ite.mpr ⟨fun _ => (skip u _).weaken ?_, fun absurd => (absurd rfl).elim⟩)
      rintro handled v ⟨rfl, same', kept⟩
      exact ⟨rfl, kept.trans artifacts', fun _ => same'.trans same, fun opened => absurd opened closed⟩
    · have opened : Open env s.queue.workspace p := ⟨unseen, taken⟩
      have queued := onQueue_returns (enqueueSpec_free calm (s := u.queue) valid (same ▸ taken))
      refine returns_bind.mpr ((attempt_returns queued).weaken ?_)
      rintro _ v ⟨destination, rfl, ⟨rfl, added⟩, kept⟩
      refine returns_bind.mpr ((writeRuntimeEvent_returns calm v _).weaken ?_)
      rintro _ w ⟨same', kept'⟩
      refine returns_pure.mpr ⟨rfl, (kept'.trans kept).trans artifacts', fun closed => absurd opened closed, fun _ => ?_⟩
      rw [same', added, same]
      rfl

end Event

end

end Millrace.Intake
