import Millrace.Action
import Millrace.Recon.Packets
import Millrace.WorkDocuments.RoundTrip

/-! The recon packets that survive being written and read back. -/

set_option autoImplicit false

namespace Millrace.Recon
open Millrace.Text Millrace.Contracts Millrace.Action
open Millrace.WorkDocuments (Rfc3339 Timestamp FieldKind parseFieldLine parseListItem isFieldLabel headingLines finishLines
  skipUnknownFieldBlock InlineItems OneLineTimestamp)

/-! ## Labels -/

namespace ReconField

theorem mem_all (f : ReconField) : f ∈ all := by cases f <;> decide

theorem labels_nodup : (all.map label).Nodup := by decide +kernel

theorem label_injective {f g : ReconField} (same : f.label = g.label) : f = g :=
  List.inj_on_of_nodup_map labels_nodup (mem_all f) (mem_all g) same

theorem labels_accepted : all.all (fun f => isFieldLabel f.label.toList) = true := by decide +kernel

theorem accepted (f : ReconField) : isFieldLabel f.label.toList = true := List.all_eq_true.mp labels_accepted f (mem_all f)

end ReconField

@[simp] theorem fieldSpecByLabel_label (f : ReconField) : fieldSpecByLabel f.label.toList = some f := by
  unfold fieldSpecByLabel
  rw [String.ofList_toList]
  cases found : ReconField.all.find? (·.label == f.label) with
  | none => simpa using List.find?_eq_none.mp found f (ReconField.mem_all f)
  | some g =>
    have same : g.label = f.label := by simpa using List.find?_some found
    rw [ReconField.label_injective same]

/-! ## The field loop -/

section Loop
variable (sourceName : String)

theorem parseFieldLines_blank (line : List Char) (rest : List (List Char)) (fields : ParsedReconFields)
    (blank : trim line = []) :
    parseFieldLines sourceName (line :: rest) fields = parseFieldLines sourceName rest fields := by
  rw [parseFieldLines]
  simp [blank]

theorem parseFieldLines_scalar {v : List Char} {f : ReconField} (rest : List (List Char)) (fields : ParsedReconFields)
    (inline : Inline v) (scalar : f.kind = .scalar) (fresh : fields.contains f = false) :
    parseFieldLines sourceName ((f.label.toList ++ ':' :: ' ' :: v) :: rest) fields =
      parseFieldLines sourceName rest (fields.insertScalar f (String.ofList v)) := by
  have line := WorkDocuments.trim_labelledValue f.accepted inline
  have read := WorkDocuments.parseFieldLine_labelledValue f.accepted inline.trimmed
  have stripped : f.label.toList ++ ':' :: ' ' :: v ≠ [] := by simp
  rw [parseFieldLines]
  simp [line, stripped, read, fresh, inline.nonempty, scalar]

theorem collectItems_bullets (label : String) (items acc : List String) (rest : List (List Char))
    (inline : InlineItems items) :
    collectItems sourceName label acc ((items.map fun item => '-' :: ' ' :: item.toList) ++ rest) =
      collectItems sourceName label (acc ++ items) rest := by
  induction items generalizing acc with
  | nil => simp
  | cons item later ih =>
    have first := inline item List.mem_cons_self
    have others : InlineItems later := fun x member => inline x (List.mem_cons_of_mem _ member)
    simp only [List.map_cons, List.cons_append, collectItems, WorkDocuments.trim_bullet first,
      WorkDocuments.parseFieldLine_bullet, WorkDocuments.parseListItem_bullet first]
    simpa using ih (acc ++ [item]) others

theorem parseFieldLines_list {f : ReconField} {items : List String} (rest : List (List Char))
    (fields : ParsedReconFields) (list : f.kind = .list) (fresh : fields.contains f = false) (nonempty : items ≠ [])
    (inline : InlineItems items) (stops : WorkDocuments.Stops rest) :
    parseFieldLines sourceName
        ((f.label.toList ++ [':']) :: ((items.map fun item => '-' :: ' ' :: item.toList) ++ rest)) fields =
      parseFieldLines sourceName rest (fields.insertList f items) := by
  have stripped : f.label.toList ++ [':'] ≠ [] := by simp
  have collected : ∀ label, ∃ remaining, collectItems sourceName label []
      ((items.map fun item => '-' :: ' ' :: item.toList) ++ rest) = .ok (items, remaining) ∧
      ∀ g, parseFieldLines sourceName remaining g = parseFieldLines sourceName rest g := by
    intro label
    rw [collectItems_bullets sourceName label items [] rest inline, List.nil_append]
    rcases stops with rfl | ⟨line, tail, rfl, blank | field⟩
    · exact ⟨[], by simp [collectItems], fun _ => rfl⟩
    · exact ⟨tail, by simp [collectItems, blank, nonempty],
        fun g => (parseFieldLines_blank sourceName line tail g blank).symm⟩
    · have solid := WorkDocuments.parseFieldLine_nonempty field
      exact ⟨line :: tail, by simp [collectItems, solid, field], fun _ => rfl⟩
  obtain ⟨remaining, found, same⟩ := collected (String.ofList f.label.toList)
  rw [parseFieldLines]
  simp only [WorkDocuments.trim_labelled f.accepted, stripped, ↓reduceIte,
    WorkDocuments.parseFieldLine_labelled f.accepted, fieldSpecByLabel_label, fresh, Bool.false_eq_true, list,
    reduceCtorEq]
  split
  next error rejected =>
    rw [if_pos rfl, found] at rejected
    cases rejected
  next found' remaining' ok =>
    rw [if_pos rfl, found] at ok
    simp only [Except.ok.injEq, Prod.mk.injEq] at ok
    rw [← ok.1, ← ok.2, same]

end Loop

/-! ## Rendered entries are read back -/

namespace Entry

/-- The values a packet line can carry. -/
def Carried : Entry → Prop
  | .scalar f value => f.kind = .scalar ∧ Inline value.toList
  | .list f items => f.kind = .list ∧ items ≠ [] ∧ InlineItems items

def apply (fields : ParsedReconFields) : Entry → ParsedReconFields
  | .scalar f value => fields.insertScalar f value
  | .list f items => fields.insertList f items

theorem contains_apply (fields : ParsedReconFields) (e : Entry) (f : ReconField) (other : f ≠ e.field) :
    (apply fields e).contains f = fields.contains f := by
  cases e with
  | scalar g value =>
    have different : f ≠ g := other
    simp [apply, ParsedReconFields.contains, ParsedReconFields.insertScalar, different]
  | list g items =>
    have different : f ≠ g := other
    simp [apply, ParsedReconFields.contains, ParsedReconFields.insertList, different]

theorem stops_lines {e : Entry} (carried : e.Carried) (rest : List (List Char)) :
    WorkDocuments.Stops (e.lines ++ rest) := by
  right
  cases e with
  | scalar f value =>
    refine ⟨_, rest, rfl, .inr ?_⟩
    simp [WorkDocuments.trim_labelledValue f.accepted carried.2,
      WorkDocuments.parseFieldLine_labelledValue f.accepted carried.2.trimmed]
  | list f items => exact ⟨[], _, rfl, .inl (by simp)⟩

theorem solid_lines {e : Entry} (carried : e.Carried) :
    ∀ line ∈ e.lines, '\n' ∉ line ∧ stripCarriageReturn line = line := by
  have label : ∀ f : ReconField, '\n' ∉ f.label.toList := fun f =>
    WorkDocuments.not_mem_of_isFieldLabel f.accepted '\n' (by decide) (by decide)
  cases e with
  | scalar f value =>
    intro line member
    simp only [Entry.lines, List.mem_singleton] at member
    have solid := WorkDocuments.solid_append (f.label.toList ++ [':', ' ']) carried.2 (by simp [label f])
    simpa [member] using solid
  | list f items =>
    intro line member
    simp only [Entry.lines, List.mem_cons, List.mem_map] at member
    rcases member with rfl | rfl | ⟨item, listed, rfl⟩
    · exact ⟨by simp, rfl⟩
    · exact WorkDocuments.solid_line (by decide) (label f)
    · exact WorkDocuments.solid_append ['-', ' '] (carried.2.2 item listed) (by decide)

end Entry

theorem parseFieldLines_entries (sourceName : String) (entries : List Entry) (fields : ParsedReconFields)
    (carried : ∀ e ∈ entries, e.Carried) (distinct : (entries.map Entry.field).Nodup)
    (fresh : ∀ e ∈ entries, fields.contains e.field = false) :
    parseFieldLines sourceName (entries.flatMap Entry.lines) fields = .ok (entries.foldl Entry.apply fields) := by
  induction entries generalizing fields with
  | nil => simp [parseFieldLines]
  | cons e later ih =>
    simp only [List.map_cons, List.nodup_cons] at distinct
    have fresh' : ∀ x ∈ later, (Entry.apply fields e).contains x.field = false := by
      intro x member
      have other : x.field ≠ e.field := fun same => distinct.1 (same ▸ List.mem_map_of_mem member)
      rw [Entry.contains_apply fields e x.field other]
      exact fresh x (List.mem_cons_of_mem _ member)
    have tail := ih (Entry.apply fields e) (fun x member => carried x (List.mem_cons_of_mem _ member)) distinct.2 fresh'
    have stops : WorkDocuments.Stops (later.flatMap Entry.lines) := by
      cases later with
      | nil => exact .inl rfl
      | cons next others => exact Entry.stops_lines (carried next (List.mem_cons_of_mem _ List.mem_cons_self)) _
    have first := carried e List.mem_cons_self
    have unread := fresh e List.mem_cons_self
    cases e with
    | scalar f value =>
      obtain ⟨scalar, inline⟩ := first
      have step := parseFieldLines_scalar sourceName (later.flatMap Entry.lines) fields inline scalar unread
      rw [String.ofList_toList] at step
      simpa [Entry.lines, Entry.apply] using step.trans tail
    | list f items =>
      obtain ⟨list, nonempty, inline⟩ := first
      have read := parseFieldLines_list sourceName _ fields list unread nonempty inline stops
      have start := parseFieldLines_blank sourceName []
        ((f.label.toList ++ [':']) :: ((items.map fun item => '-' :: ' ' :: item.toList) ++
          later.flatMap Entry.lines)) fields trim_nil
      simpa [Entry.lines, Entry.apply] using start.trans (read.trans tail)

/-- The document of an inline title and of carried entries reads back as those entries. -/
theorem parseMarkdownFields_entries {title : String} {entries : List Entry} (sourceName : String)
    (heading : Inline title.toList) (carried : ∀ e ∈ entries, e.Carried) (distinct : (entries.map Entry.field).Nodup) :
    parseMarkdownFields (finishLines (headingLines title ++ entries.flatMap Entry.lines)) sourceName =
      .ok (entries.foldl Entry.apply .empty) := by
  have solid : ∀ line ∈ headingLines title ++ entries.flatMap Entry.lines,
      '\n' ∉ line ∧ stripCarriageReturn line = line := by
    intro line member
    simp only [headingLines, List.cons_append, List.nil_append, List.mem_cons, List.mem_flatMap] at member
    rcases member with rfl | rfl | ⟨e, listed, member⟩
    · exact WorkDocuments.solid_append ['#', ' '] heading (by decide)
    · exact ⟨by simp, rfl⟩
    · exact Entry.solid_lines (carried e listed) line member
  have split : lines (finishLines (headingLines title ++ entries.flatMap Entry.lines)).toList =
      headingLines title ++ entries.flatMap Entry.lines := by
    simpa [finishLines] using lines_unlines _ solid
  have first : trim ('#' :: ' ' :: title.toList) = '#' :: ' ' :: title.toList :=
    trim_of_trimmed (trimmed_cons_append (s := [' ']) (by decide) heading.nonempty heading.trimmed)
  have read : WorkDocuments.parseH1Title ('#' :: ' ' :: title.toList) = some title.toList := by
    have blank : isWhitespace ' ' = true := by decide
    simp [WorkDocuments.parseH1Title, first, blank, heading.trim]
  have fields := parseFieldLines_entries sourceName entries .empty carried distinct fun _ _ => rfl
  have rest := (parseFieldLines_blank sourceName [] (entries.flatMap Entry.lines) .empty trim_nil).trans fields
  unfold parseMarkdownFields
  rw [split]
  simp only [headingLines, List.cons_append, List.nil_append, read, rest]
  cases same : title.toList with
  | nil => exact absurd same heading.nonempty
  | cons c text => rfl

/-! ## Accepted fields -/

/-- Every value that was read could have been rendered. -/
structure ParsedReconFields.Carried (fields : ParsedReconFields) : Prop where
  scalar : ∀ f value, fields.scalars f = some value → Inline value.toList
  list : ∀ f items, fields.lists f = some items → InlineItems items

namespace ParsedReconFields.Carried
variable {fields : ParsedReconFields} (carried : fields.Carried) (f : ReconField)
include carried

theorem insertScalar {v : List Char} (inline : Inline v) : (fields.insertScalar f (String.ofList v)).Carried := by
  refine ⟨fun g value found => ?_, carried.list⟩
  unfold ParsedReconFields.insertScalar at found
  dsimp only at found
  split at found
  · obtain rfl := Option.some.inj found
    simpa using inline
  · exact carried.scalar g value found

theorem insertList {items : List String} (inline : InlineItems items) : (fields.insertList f items).Carried := by
  refine ⟨carried.scalar, fun g listed found => ?_⟩
  unfold ParsedReconFields.insertList at found
  dsimp only at found
  split at found
  · exact Option.some.inj found ▸ inline
  · exact carried.list g listed found

end ParsedReconFields.Carried

theorem inline_collectItems {sourceName label : String} {acc items : List String} {ls rest : List (List Char)}
    (oneLine : ∀ line ∈ ls, '\n' ∉ line) (inline : InlineItems acc)
    (ok : collectItems sourceName label acc ls = .ok (items, rest)) : InlineItems items := by
  induction ls generalizing acc with
  | nil =>
    simp only [collectItems, Except.ok.injEq, Prod.mk.injEq] at ok
    exact ok.1 ▸ inline
  | cons line tail ih =>
    have first := oneLine line List.mem_cons_self
    have later : ∀ l ∈ tail, '\n' ∉ l := fun l member => oneLine l (List.mem_cons_of_mem _ member)
    simp only [collectItems] at ok
    split at ok
    · split at ok
      · simp only [Except.ok.injEq, Prod.mk.injEq] at ok
        exact ok.1 ▸ inline
      · exact ih later inline ok
    · split at ok
      · simp only [Except.ok.injEq, Prod.mk.injEq] at ok
        exact ok.1 ▸ inline
      · split at ok
        · cases ok
        next item read =>
          refine ih later (fun x member => ?_) ok
          rcases List.mem_append.mp member with old | new
          · exact inline x old
          · rw [List.mem_singleton.mp new, String.toList_ofList]
            exact WorkDocuments.inline_parseListItem first read

theorem parseFieldLines_carried {sourceName : String} {ls : List (List Char)} {fields out : ParsedReconFields}
    (oneLine : ∀ line ∈ ls, '\n' ∉ line) (carried : fields.Carried)
    (ok : parseFieldLines sourceName ls fields = .ok out) : out.Carried := by
  fun_induction parseFieldLines sourceName ls fields with
  | case1 fields => exact Except.ok.inj ok ▸ carried
  | case2 fields line rest stripped blank ih =>
    exact ih (fun l member => oneLine l (List.mem_cons_of_mem _ member)) carried ok
  | case3 fields line rest stripped solid read ih =>
    exact ih (fun l member => oneLine l (List.mem_cons_of_mem _ member)) carried ok
  | case4 fields line rest stripped solid label value read unknown ih =>
    refine ih (fun l member => oneLine l (List.mem_cons_of_mem _ ?_)) carried ok
    exact (WorkDocuments.skipUnknownFieldBlock_suffix rest).subset member
  | case5 => cases ok
  | case6 => cases ok
  | case7 fields line rest stripped solid label value read f known fresh isScalar nonempty ih =>
    have inline := WorkDocuments.inline_parseFieldLine (oneLine line List.mem_cons_self) read nonempty
    exact ih (fun l member => oneLine l (List.mem_cons_of_mem _ member)) (carried.insertScalar f inline) ok
  | case8 => cases ok
  | case9 fields line rest stripped solid label value read f known fresh isList first items remaining collected ih =>
    have later : ∀ l ∈ rest, '\n' ∉ l := fun l member => oneLine l (List.mem_cons_of_mem _ member)
    have start : InlineItems first := by
      intro item member
      by_cases empty : value = []
      · simp [first, empty] at member
      · have same : item = String.ofList value := by simpa [first, empty] using member
        rw [same, String.toList_ofList]
        exact WorkDocuments.inline_parseFieldLine (oneLine line List.mem_cons_self) read empty
    have inline := inline_collectItems later start collected
    exact ih (fun l member => later l ((collectItems_suffix collected).subset member)) (carried.insertList f inline) ok

theorem parseMarkdownFields_carried {raw sourceName : String} {fields : ParsedReconFields}
    (ok : parseMarkdownFields raw sourceName = .ok fields) : fields.Carried := by
  have solid := newline_not_mem_lines raw.toList
  have none : ParsedReconFields.empty.Carried := by
    constructor
    · intro f value found
      cases found
    · intro f items found
      cases found
  unfold parseMarkdownFields at ok
  split at ok
  · cases ok
  next first rest same =>
    rw [same] at solid
    split at ok
    · cases ok
    · cases ok
    · exact parseFieldLines_carried (fun l member => solid l (List.mem_cons_of_mem _ member)) none ok

/-! ## Path findings -/

/-- The findings that a list item can carry. -/
structure ReconPathFinding.Canonical (finding : ReconPathFinding) : Prop where
  path : Inline finding.path.toList
  unsplit : '|' ∉ finding.path.toList
  reason : Inline finding.reason.toList

theorem trim_append_space {v : List Char} (trimmed : Trimmed v) : trim (v ++ [' ']) = v := by
  cases v with
  | nil => rfl
  | cons c rest =>
    have solid := trimmed.1 c rest rfl
    have kept := trim_of_trimmed trimmed
    unfold trim at kept ⊢
    rw [trimStart_cons c rest solid] at kept
    rw [List.cons_append, trimStart_cons c _ solid, ← List.cons_append]
    unfold trimEnd at kept ⊢
    rw [List.rdropWhile_concat_pos _ _ _ (by decide), kept]

theorem requireNonBlank_iff (fieldName value : String) :
    requireNonBlank fieldName value = .ok () ↔ trim value.toList ≠ [] := by
  simp [requireNonBlank, isBlank]

theorem ReconPathFinding.validate_iff (finding : ReconPathFinding) :
    finding.validate = .ok () ↔ trim finding.path.toList ≠ [] ∧ trim finding.reason.toList ≠ [] := by
  unfold ReconPathFinding.validate
  rw [bind_unit_eq_ok, requireNonBlank_iff, requireNonBlank_iff]

namespace ReconPathFinding.Canonical
variable {finding : ReconPathFinding} (canonical : finding.Canonical)
include canonical

theorem inline : Inline (finding.path ++ " | " ++ finding.reason).toList := by
  obtain ⟨c, rest, same⟩ := List.exists_cons_of_ne_nil canonical.path.nonempty
  have solid := canonical.path.trimmed.1 c rest same
  have trimmed := trimmed_cons_append (s := rest ++ [' ', '|', ' ']) solid canonical.reason.nonempty canonical.reason.trimmed
  have text : (finding.path ++ " | " ++ finding.reason).toList =
      c :: (rest ++ [' ', '|', ' ']) ++ finding.reason.toList := by
    simp [same]
  rw [text]
  refine ⟨by simp, trimmed, ?_⟩
  have oneLine := canonical.path.oneLine
  rw [same] at oneLine
  have oneLine' := canonical.reason.oneLine
  simp only [List.mem_cons, not_or] at oneLine
  simp [oneLine, oneLine']

theorem validate : finding.validate = .ok () := by
  rw [finding.validate_iff, canonical.path.trim, canonical.reason.trim]
  exact ⟨canonical.path.nonempty, canonical.reason.nonempty⟩

theorem parsePathFinding_render : parsePathFinding (finding.path ++ " | " ++ finding.reason) = .ok finding := by
  have text : (finding.path ++ " | " ++ finding.reason).toList =
      (finding.path.toList ++ [' ']) ++ '|' :: (' ' :: finding.reason.toList) := by
    simp
  have absent : '|' ∉ finding.path.toList ++ [' '] := by
    simp [canonical.unsplit]
  unfold parsePathFinding
  rw [text, splitOnce_append '|' _ _ absent]
  simp only [trim_append_space canonical.path.trimmed, trim_space_append canonical.reason.trimmed, String.ofList_toList,
    canonical.validate]
  rfl

end ReconPathFinding.Canonical

theorem canonical_of_parsePathFinding {value : String} {finding : ReconPathFinding} (inline : Inline value.toList)
    (ok : parsePathFinding value = .ok finding) : finding.Canonical := by
  unfold parsePathFinding at ok
  split at ok
  · cases ok
  next path reason split =>
    obtain ⟨text, absent⟩ := splitOnce_eq_some split
    obtain ⟨valid, rest⟩ := bind_unit_eq_ok.mp ok
    obtain rfl := Except.ok.inj rest
    have oneLine := inline.oneLine
    rw [text] at oneLine
    simp only [List.mem_append, List.mem_cons, not_or] at oneLine
    rw [ReconPathFinding.validate_iff] at valid
    simp only [String.toList_ofList, trim_of_trimmed (trimmed_trim _)] at valid
    constructor
    · rw [String.toList_ofList]
      exact inline_trim valid.1 oneLine.1
    · rw [String.toList_ofList]
      exact fun member => absent (mem_of_mem_trim member)
    · rw [String.toList_ofList]
      exact inline_trim valid.2 oneLine.2.2

theorem mapM_parsePathFinding_render {findings : List ReconPathFinding} (canonical : ∀ f ∈ findings, f.Canonical) :
    (findings.map fun finding => finding.path ++ " | " ++ finding.reason).mapM parsePathFinding = .ok findings := by
  induction findings with
  | nil => rfl
  | cons finding findings ih =>
    have later := ih fun f member => canonical f (List.mem_cons_of_mem _ member)
    rw [List.map_cons, List.mapM_cons, (canonical finding List.mem_cons_self).parsePathFinding_render, later]
    rfl

theorem canonical_of_mapM_parsePathFinding {items : List String} {findings : List ReconPathFinding}
    (inline : InlineItems items) (ok : items.mapM parsePathFinding = .ok findings) : ∀ f ∈ findings, f.Canonical := by
  induction items generalizing findings with
  | nil =>
    obtain rfl := Except.ok.inj ok
    exact fun f member => absurd member List.not_mem_nil
  | cons item items ih =>
    rw [List.mapM_cons] at ok
    obtain ⟨first, read, rest⟩ := bind_eq_ok.mp ok
    obtain ⟨later, reads, same⟩ := bind_eq_ok.mp rest
    obtain rfl := Except.ok.inj same
    intro f member
    rcases List.mem_cons.mp member with rfl | member
    · exact canonical_of_parsePathFinding (inline item List.mem_cons_self) read
    · exact ih (fun x listed => inline x (List.mem_cons_of_mem _ listed)) reads f member

/-! ## What a renderer pushes -/

/-- Carried entries for some of the given fields, in their order. -/
structure Writes (fs : List ReconField) (entries : List Entry) : Prop where
  fields : (entries.map Entry.field).Sublist fs
  carried : ∀ e ∈ entries, e.Carried

namespace Writes

theorem nil : Writes [] ([] : List (List Entry)).flatten := ⟨List.nil_sublist _, by simp⟩

theorem cons {f : ReconField} {fs : List ReconField} {pushed : List Entry} {pushes : List (List Entry)}
    (first : Writes [f] pushed) (rest : Writes fs pushes.flatten) : Writes (f :: fs) (pushed :: pushes).flatten := by
  refine ⟨?_, fun e member => ?_⟩
  · rw [List.flatten_cons, List.map_append]
    exact first.fields.append rest.fields
  · rw [List.flatten_cons] at member
    rcases List.mem_append.mp member with head | tail
    · exact first.carried e head
    · exact rest.carried e tail

theorem none (f : ReconField) : Writes [f] [] := ⟨List.nil_sublist _, by simp⟩

theorem scalar (f : ReconField) {value : String} (inline : Inline value.toList)
    (isScalar : f.kind = .scalar := by rfl) : Writes [f] (pushScalar f value) := by
  refine ⟨List.Sublist.refl _, ?_⟩
  simpa [pushScalar, Entry.Carried] using ⟨isScalar, inline⟩

theorem optionalScalar (f : ReconField) {value : Option String} (inline : ∀ v, value = some v → Inline v.toList)
    (isScalar : f.kind = .scalar := by rfl) : Writes [f] (pushOptionalScalar f value) := by
  cases value with
  | none => exact none f
  | some v => exact scalar f (inline v rfl) isScalar

theorem list (f : ReconField) {items : List String} (inline : InlineItems items)
    (isList : f.kind = .list := by rfl) : Writes [f] (pushList f items) := by
  unfold pushList
  split
  · exact none f
  next nonempty =>
    refine ⟨List.Sublist.refl _, ?_⟩
    simpa [Entry.Carried] using ⟨isList, nonempty, inline⟩

theorem pathFindings (f : ReconField) {findings : List ReconPathFinding} (canonical : ∀ x ∈ findings, x.Canonical)
    (isList : f.kind = .list := by rfl) : Writes [f] (pushPathFindings f findings) := by
  refine list f (fun item member => ?_) isList
  obtain ⟨finding, listed, rfl⟩ := List.mem_map.mp member
  exact (canonical finding listed).inline

end Writes

/-! ## Fields after a push -/

section Lookup
variable (fields : ParsedReconFields) (f g : ReconField)

@[simp] theorem scalars_empty : ParsedReconFields.empty.scalars f = none := rfl
@[simp] theorem lists_empty : ParsedReconFields.empty.lists f = none := rfl

@[simp] theorem scalars_pushScalar (value : String) : ((pushScalar g value).foldl Entry.apply fields).scalars f =
    if f = g then some value else fields.scalars f := rfl

@[simp] theorem lists_pushScalar (value : String) :
    ((pushScalar g value).foldl Entry.apply fields).lists f = fields.lists f := rfl

@[simp] theorem scalars_pushOptionalScalar (value : Option String) :
    ((pushOptionalScalar g value).foldl Entry.apply fields).scalars f =
      if f = g then value.or (fields.scalars f) else fields.scalars f := by
  cases value with
  | none => simp [pushOptionalScalar]
  | some v => simp [pushOptionalScalar]

@[simp] theorem lists_pushOptionalScalar (value : Option String) :
    ((pushOptionalScalar g value).foldl Entry.apply fields).lists f = fields.lists f := by
  cases value <;> rfl

@[simp] theorem scalars_pushList (items : List String) :
    ((pushList g items).foldl Entry.apply fields).scalars f = fields.scalars f := by
  unfold pushList
  split <;> rfl

@[simp] theorem lists_pushList (items : List String) : ((pushList g items).foldl Entry.apply fields).lists f =
    if f = g ∧ items ≠ [] then some items else fields.lists f := by
  by_cases empty : items = []
  · simp [pushList, empty]
  · simp [pushList, empty, Entry.apply, ParsedReconFields.insertList]

end Lookup

/-- A list is not pushed when it is empty, and then read as empty. -/
theorem getD_pushed {α : Type} (values : List α) (render : α → String) :
    (if values = [] then none else some (values.map render)).getD [] = values.map render := by
  cases values with
  | nil => rfl
  | cons value values => rfl

@[simp] theorem reconFromValue_asStr {α : Type} [StringEnum α] (a : α) : reconFromValue α (asStr a) = .ok a := by
  simp [reconFromValue]

/-! ## Packets -/

theorem validateIdentifier_iff (value fieldName : String) :
    validateIdentifier value fieldName = .ok () ↔ SafeIdentifier value :=
  mapError_eq_ok.trans (validateSafeIdentifier_iff value fieldName)

theorem validateLiteral_iff (fieldName value expected : String) :
    validateLiteral fieldName value expected = .ok () ↔ value = expected := by
  simp [validateLiteral]

theorem requireRequiredList_iff {α : Type} (fieldName : String) (values : List α) :
    requireRequiredList fieldName values = .ok () ↔ values ≠ [] := by
  simp [requireRequiredList]

section Packet
variable [Rfc3339]

/-- What the contract says of single fields. -/
structure ReconPacketDocument.Valid (p : ReconPacketDocument) : Prop where
  schemaVersion : p.schemaVersion = "1.0"
  kind : p.kind = "recon_packet"
  reconPacketId : SafeIdentifier p.reconPacketId
  probeId : SafeIdentifier p.probeId
  emittedTaskId : WorkDocuments.OptionalIdentifier p.emittedTaskId
  emittedSpecId : WorkDocuments.OptionalIdentifier p.emittedSpecId
  createdBy : p.createdBy = "recon"
  relevantPaths : p.relevantPaths ≠ []
  semanticInvariants : p.semanticInvariants ≠ []

theorem ReconPacketDocument.valid_of_validate {p : ReconPacketDocument} (ok : p.validate = .ok ()) : p.Valid := by
  unfold ReconPacketDocument.validate at ok
  simp only [bind_unit_eq_ok, validateLiteral_iff, validateIdentifier_iff, optionForM_eq_ok,
    requireRequiredList_iff] at ok
  obtain ⟨schemaVersion, kind, reconPacketId, probeId, emittedTaskId, emittedSpecId, -, -, createdBy, relevantPaths,
    semanticInvariants, -⟩ := ok
  exact ⟨schemaVersion, kind, reconPacketId, probeId, emittedTaskId, emittedSpecId, createdBy, relevantPaths,
    semanticInvariants⟩

/-- The packet values that the markdown can carry. Identifiers and enumerations always can. -/
structure ReconPacketDocument.Canonical (p : ReconPacketDocument) : Prop where
  requestSummary : Inline p.requestSummary.toList
  interpretedGoal : Inline p.interpretedGoal.toList
  createdAt : OneLineTimestamp p.createdAt
  relevantPaths : ∀ finding ∈ p.relevantPaths, finding.Canonical
  relevantSymbols : InlineItems p.relevantSymbols
  relevantTests : ∀ finding ∈ p.relevantTests, finding.Canonical
  semanticInvariants : InlineItems p.semanticInvariants
  edgeCasesToPreserve : InlineItems p.edgeCasesToPreserve
  requiredCommands : InlineItems p.verificationPlan.requiredCommands
  focusedChecks : InlineItems p.verificationPlan.focusedChecks
  fallbackChecks : InlineItems p.verificationPlan.fallbackChecks
  openQuestions : InlineItems p.openQuestions

/-- The fields of a packet in the order they are rendered. -/
def packetFieldOrder : List ReconField := ReconField.all

theorem packetEntries_writes {p : ReconPacketDocument} (valid : p.Valid) (canonical : p.Canonical) :
    Writes packetFieldOrder (packetEntries p) := by
  have createdBy : Inline p.createdBy.toList := by
    rw [valid.createdBy]
    decide
  exact .cons (.scalar .reconPacketId valid.reconPacketId.inline)
    <| .cons (.scalar .probeId valid.probeId.inline)
    <| .cons (.scalar .decision (inline_asStr p.decision))
    <| .cons (.scalar .confidence (inline_asStr p.confidence))
    <| .cons (.scalar .riskLevel (inline_asStr p.riskLevel))
    <| .cons (.scalar .requestSummary canonical.requestSummary)
    <| .cons (.scalar .interpretedGoal canonical.interpretedGoal)
    <| .cons (.scalar .handoffTarget (inline_asStr p.handoffTarget))
    <| .cons (.optionalScalar .emittedTaskId valid.emittedTaskId.inline)
    <| .cons (.optionalScalar .emittedSpecId valid.emittedSpecId.inline)
    <| .cons (.scalar .createdAt (WorkDocuments.Timestamp.inline canonical.createdAt))
    <| .cons (.scalar .createdBy createdBy)
    <| .cons (.pathFindings .relevantPaths canonical.relevantPaths)
    <| .cons (.list .relevantSymbols canonical.relevantSymbols)
    <| .cons (.pathFindings .relevantTests canonical.relevantTests)
    <| .cons (.list .semanticInvariants canonical.semanticInvariants)
    <| .cons (.list .edgeCasesToPreserve canonical.edgeCasesToPreserve)
    <| .cons (.list .requiredCommands canonical.requiredCommands)
    <| .cons (.list .focusedChecks canonical.focusedChecks)
    <| .cons (.list .fallbackChecks canonical.fallbackChecks)
    <| .cons (.list .openQuestions canonical.openQuestions) .nil

theorem packetFromFields_entries {p : ReconPacketDocument} (accepted : p.validate = .ok ()) (canonical : p.Canonical) :
    packetFromFields ((packetEntries p).foldl Entry.apply .empty) = .ok p := by
  have valid := p.valid_of_validate accepted
  have paths := mapM_parsePathFinding_render canonical.relevantPaths
  have tests := mapM_parsePathFinding_render canonical.relevantTests
  simp [packetEntries, packetFromFields, requiredScalar, optionalScalar, requiredEnum, requiredList, optionalList,
    requiredTimestamp, pushPathFindings, requiredPathFindings, optionalPathFindings,
    WorkDocuments.Timestamp.parse_text, valid.relevantPaths, valid.semanticInvariants, getD_pushed, paths, tests, Except.mapError]
  rw [← valid.schemaVersion, ← valid.kind, accepted]
  rfl

theorem parseReconPacket_render {p : ReconPacketDocument} (accepted : p.validate = .ok ()) (canonical : p.Canonical)
    (sourceName : String) : parseReconPacketWithSource (renderReconPacket p) sourceName = .ok p := by
  have valid := p.valid_of_validate accepted
  have writes := packetEntries_writes valid canonical
  have heading : Inline ("Recon Packet " ++ p.reconPacketId).toList := by
    have inline := valid.reconPacketId.inline
    have trimmed := trimmed_cons_append (c := 'R') (s := "econ Packet ".toList) (by decide) inline.nonempty inline.trimmed
    have text : ("Recon Packet " ++ p.reconPacketId).toList = 'R' :: "econ Packet ".toList ++ p.reconPacketId.toList := by
      rw [String.toList_append]
      rfl
    rw [text]
    have oneLine : '\n' ∉ 'R' :: "econ Packet ".toList := by decide
    exact ⟨by simp, trimmed, by simp only [List.mem_append, not_or]; exact ⟨oneLine, inline.oneLine⟩⟩
  have distinct : ((packetEntries p).map Entry.field).Nodup :=
    List.Nodup.sublist writes.fields (show packetFieldOrder.Nodup by decide)
  exact bind_eq_ok.mpr ⟨_, parseMarkdownFields_entries sourceName heading writes.carried distinct,
    packetFromFields_entries accepted canonical⟩

section Reads
variable {fields : ParsedReconFields} (carried : fields.Carried) {f : ReconField}
include carried

omit [Rfc3339] in
theorem inline_requiredScalar {value : String} (read : requiredScalar fields f = .ok value) : Inline value.toList := by
  unfold requiredScalar at read
  split at read
  next held found => exact Except.ok.inj read ▸ carried.scalar f held found
  · cases read

omit [Rfc3339] in
theorem inline_optionalList : InlineItems (optionalList fields f) := by
  unfold optionalList
  cases found : fields.lists f with
  | none => exact fun item member => absurd member List.not_mem_nil
  | some items => exact carried.list f items found

omit [Rfc3339] in
theorem inline_requiredList {items : List String} (read : requiredList fields f = .ok items) : InlineItems items := by
  unfold requiredList at read
  split at read
  · cases read
  · exact Except.ok.inj read ▸ inline_optionalList carried

theorem oneLine_requiredTimestamp {t : Timestamp} (read : requiredTimestamp fields f = .ok t) : OneLineTimestamp t := by
  unfold requiredTimestamp at read
  obtain ⟨text, found, parsed⟩ := bind_eq_ok.mp read
  rw [OneLineTimestamp, WorkDocuments.Timestamp.text_of_parse (mapError_eq_ok.mp parsed)]
  exact (inline_requiredScalar carried found).oneLine

omit [Rfc3339] in
theorem canonical_requiredPathFindings {findings : List ReconPathFinding}
    (read : requiredPathFindings fields f = .ok findings) : ∀ x ∈ findings, x.Canonical := by
  unfold requiredPathFindings at read
  obtain ⟨values, reads, rest⟩ := bind_eq_ok.mp read
  simp only at rest
  split at rest
  · cases rest
  · obtain rfl := Except.ok.inj rest
    exact canonical_of_mapM_parsePathFinding (inline_optionalList carried) reads

end Reads

theorem canonical_of_parseReconPacket {raw sourceName : String} {p : ReconPacketDocument}
    (ok : parseReconPacketWithSource raw sourceName = .ok p) : p.Canonical := by
  obtain ⟨fields, read, parsed⟩ := bind_eq_ok.mp ok
  have carried := parseMarkdownFields_carried read
  unfold packetFromFields at parsed
  simp only [bind_eq_ok, pure_eq_ok] at parsed
  obtain ⟨_, -, _, -, _, -, _, -, _, -, _, requestSummary, _, interpretedGoal, _, relevantPaths, _, relevantTests,
    _, semanticInvariants, _, -, _, createdAt, _, -, rfl⟩ := parsed
  exact {
    requestSummary := inline_requiredScalar carried requestSummary
    interpretedGoal := inline_requiredScalar carried interpretedGoal
    createdAt := oneLine_requiredTimestamp carried createdAt
    relevantPaths := canonical_requiredPathFindings carried relevantPaths
    relevantSymbols := inline_optionalList carried
    relevantTests := canonical_of_mapM_parsePathFinding (inline_optionalList carried) relevantTests
    semanticInvariants := inline_requiredList carried semanticInvariants
    edgeCasesToPreserve := inline_optionalList carried
    requiredCommands := inline_optionalList carried
    focusedChecks := inline_optionalList carried
    fallbackChecks := inline_optionalList carried
    openQuestions := inline_optionalList carried }

/-- A packet that its contract accepts is read back from its markdown exactly when its free texts are nonempty lines
without white space at their ends, and no path of a finding holds the bar that ends it. -/
theorem parseReconPacket_render_iff (p : ReconPacketDocument) (accepted : p.validate = .ok ()) :
    parseReconPacket (renderReconPacket p) = .ok p ↔ p.Canonical :=
  ⟨canonical_of_parseReconPacket, fun canonical => parseReconPacket_render accepted canonical _⟩

end Packet

/-! ## Concrete packets -/

section Concrete
local instance utcOfPackets : Rfc3339 := ⟨WorkDocuments.parseUtcSeconds⟩

theorem packetStart_trimmed : trim "2026-04-15T00:00:00Z".toList = "2026-04-15T00:00:00Z".toList := by decide +kernel
theorem packetStart_nonempty : "2026-04-15T00:00:00Z" ≠ "" := by decide
theorem packetStart_parses : (Rfc3339.parse "2026-04-15T00:00:00Z").isOk = true := by decide +kernel

def packetStart : Timestamp := ⟨"2026-04-15T00:00:00Z", packetStart_trimmed, packetStart_nonempty, packetStart_parses⟩

/-- A packet that hands nothing on and found one path. -/
def foundPacket (path : String) : ReconPacketDocument where
  schemaVersion := "1.0"
  kind := "recon_packet"
  reconPacketId := "r1"
  probeId := "p1"
  decision := .noop
  confidence := .low
  riskLevel := .low
  requestSummary := "ask"
  interpretedGoal := "goal"
  relevantPaths := [⟨path, "why"⟩]
  relevantSymbols := []
  relevantTests := []
  semanticInvariants := ["kept"]
  edgeCasesToPreserve := []
  verificationPlan := ⟨[], [], []⟩
  openQuestions := []
  handoffTarget := .noop
  emittedTaskId := none
  emittedSpecId := none
  createdAt := packetStart
  createdBy := "recon"

theorem foundPacket_validate : (foundPacket "src/a.rs").validate = .ok () := by decide

theorem foundPacket_readBack : parseReconPacket (renderReconPacket (foundPacket "src/a.rs")) = .ok (foundPacket "src/a.rs") := by
  have none : InlineItems [] := fun item member => absurd member List.not_mem_nil
  have kept : InlineItems ["kept"] := by decide
  have finding : ∀ finding ∈ [(⟨"src/a.rs", "why"⟩ : ReconPathFinding)], finding.Canonical := by
    intro finding member
    rw [List.mem_singleton.mp member]
    exact ⟨by decide, by decide, by decide⟩
  refine (parseReconPacket_render_iff (foundPacket "src/a.rs") foundPacket_validate).mpr ?_
  exact ⟨by decide, by decide, by decide, finding, none,
    fun finding member => absurd member List.not_mem_nil, kept, none, none, none, none, none⟩

/-- A bar in the path of a finding ends it for the reader. -/
theorem barred_path_lost :
    (foundPacket "a|b").validate = .ok () ∧
      parseReconPacket (renderReconPacket (foundPacket "a|b")) ≠ .ok (foundPacket "a|b") := by
  refine ⟨by decide, fun read => ?_⟩
  have unsplit := ((canonical_of_parseReconPacket read).relevantPaths ⟨"a|b", "why"⟩ (List.mem_singleton_self _)).unsplit
  exact unsplit (by decide)

example : parsePathFinding "a|b | why" = .ok ⟨"a", "b | why"⟩ := by rfl

end Concrete

end Millrace.Recon
