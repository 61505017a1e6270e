import Millrace.Action
import Millrace.WorkDocuments.Documents
import Millrace.WorkDocuments.Reading

/-! Shared steps of the round trips: what a renderer pushes, what its reader gets, which values a line carries. -/

set_option autoImplicit false

namespace Millrace.WorkDocuments
open Millrace.Text Millrace.Contracts Millrace.Action

/-! ## Bullet lists -/

/-- Items of a bullet list. -/
def InlineItems (items : List String) : Prop := ∀ item ∈ items, Inline item.toList

/-- Items of a relationship list: none of them stands for the absence of a relationship. -/
def InlineRelationships (items : List String) : Prop :=
  ∀ item ∈ items, Inline item.toList ∧ isRelationshipPlaceholder item = false

instance (items : List String) : Decidable (InlineItems items) :=
  inferInstanceAs (Decidable (∀ item ∈ items, Inline item.toList))

instance (items : List String) : Decidable (InlineRelationships items) :=
  inferInstanceAs (Decidable (∀ item ∈ items, Inline item.toList ∧ isRelationshipPlaceholder item = false))

theorem normalizeListItems_of_inline {f : FieldName} {items : List String} (inline : InlineRelationships items) :
    normalizeListItems f items = items := by
  unfold normalizeListItems
  split
  · exact List.filter_eq_self.mpr fun item member => by simp [(inline item member).2]
  · rfl

theorem normalizeListItems_other {f : FieldName} (other : f ≠ .dependsOn ∧ f ≠ .blocks) (items : List String) :
    normalizeListItems f items = items := by
  simp [normalizeListItems, other]

/-! ## What a renderer pushes -/

/-- Carried entries for some of the given fields, in their order. -/
structure Writes (fs : List FieldName) (entries : List Entry) : Prop where
  fields : (entries.map Entry.field).Sublist fs
  carried : ∀ e ∈ entries, e.Carried

namespace Writes

theorem nil : Writes [] ([] : List (List Entry)).flatten := ⟨List.nil_sublist _, by simp⟩

theorem cons {f : FieldName} {fs : List FieldName} {pushed : List Entry} {pushes : List (List Entry)}
    (first : Writes [f] pushed) (rest : Writes fs pushes.flatten) : Writes (f :: fs) (pushed :: pushes).flatten := by
  refine ⟨?_, fun e member => ?_⟩
  · rw [List.flatten_cons, List.map_append]
    exact first.fields.append rest.fields
  · rw [List.flatten_cons] at member
    rcases List.mem_append.mp member with head | tail
    · exact first.carried e head
    · exact rest.carried e tail

theorem none (f : FieldName) : Writes [f] [] := ⟨List.nil_sublist _, by simp⟩

theorem scalar (f : FieldName) {value : String} (inline : Inline value.toList)
    (isScalar : f.kind = .scalar := by rfl) : Writes [f] (pushScalar f value) := by
  refine ⟨List.Sublist.refl _, ?_⟩
  simpa [pushScalar, Entry.Carried] using ⟨isScalar, inline⟩

theorem optionalScalar (f : FieldName) {value : Option String} (inline : ∀ v, value = some v → Inline v.toList)
    (isScalar : f.kind = .scalar := by rfl) : Writes [f] (pushOptionalScalar f value) := by
  cases value with
  | none => exact none f
  | some v => exact scalar f (inline v rfl) isScalar

theorem nonEmptyScalar (f : FieldName) {value : String} (inline : value = "" ∨ Inline value.toList)
    (isScalar : f.kind = .scalar := by rfl) : Writes [f] (pushOptionalNonEmptyScalar f value) := by
  unfold pushOptionalNonEmptyScalar
  split
  · exact none f
  next nonempty => exact scalar f (inline.resolve_left nonempty) isScalar

theorem relationships (f : FieldName) {items : List String} (inline : InlineRelationships items)
    (isList : f.kind = .list := by rfl) : Writes [f] (pushList f items) := by
  unfold pushList
  split
  · exact none f
  next nonempty =>
    refine ⟨List.Sublist.refl _, ?_⟩
    have each : ∀ item ∈ items, Inline item.toList := fun item member => (inline item member).1
    simpa [Entry.Carried] using ⟨isList, nonempty, each, normalizeListItems_of_inline inline⟩

theorem list (f : FieldName) {items : List String} (inline : InlineItems items)
    (isList : f.kind = .list := by rfl) (other : f ≠ .dependsOn ∧ f ≠ .blocks := by decide) :
    Writes [f] (pushList f items) := by
  have normal : normalizeListItems f items = items := by simp [normalizeListItems, other]
  unfold pushList
  split
  · exact none f
  next nonempty =>
    refine ⟨List.Sublist.refl _, ?_⟩
    simpa [Entry.Carried] using ⟨isList, nonempty, inline, normal⟩

theorem ite (f : FieldName) {entries : List Entry} (condition : Prop) [Decidable condition]
    (writes : condition → Writes [f] entries) : Writes [f] (if condition then entries else []) := by
  split
  next holds => exact writes holds
  · exact none f

theorem reads {fs : List FieldName} {title : String} {entries : List Entry} (writes : Writes fs entries)
    (distinct : fs.Nodup) (sourceName : String) (heading : Inline title.toList) :
    parseMarkdownFields (renderEntries title entries) sourceName =
      .ok (title, entries.foldl Entry.apply .empty) :=
  parseMarkdownFields_renderEntries sourceName heading writes.carried (distinct.sublist writes.fields)

end Writes

/-! ## What a reader keeps of a push -/

section Kept
variable (f : FieldName)

@[simp] theorem map_normalized_pushScalar (value : String) :
    (pushScalar f value).map Entry.normalized = pushScalar f value := rfl

@[simp] theorem map_normalized_pushOptionalScalar (value : Option String) :
    (pushOptionalScalar f value).map Entry.normalized = pushOptionalScalar f value := by
  cases value <;> rfl

@[simp] theorem map_normalized_pushOptionalNonEmptyScalar (value : String) :
    (pushOptionalNonEmptyScalar f value).map Entry.normalized = pushOptionalNonEmptyScalar f value := by
  unfold pushOptionalNonEmptyScalar
  split <;> rfl

theorem map_field_pushList (items : List String) :
    (pushList f items).map Entry.field = if items = [] then [] else [f] := by
  unfold pushList
  split <;> rfl

end Kept

/-! ## Fields after a push -/

section Lookup
variable (fields : ParsedFields) (f g : FieldName)

@[simp] theorem scalars_empty : ParsedFields.empty.scalars f = none := rfl
@[simp] theorem lists_empty : ParsedFields.empty.lists f = none := rfl

@[simp] theorem scalars_pushScalar (value : String) : ((pushScalar g value).foldl Entry.apply fields).scalars f =
    if f = g then some value else fields.scalars f := rfl

@[simp] theorem lists_pushScalar (value : String) :
    ((pushScalar g value).foldl Entry.apply fields).lists f = fields.lists f := rfl

@[simp] theorem scalars_pushOptionalScalar (value : Option String) :
    ((pushOptionalScalar g value).foldl Entry.apply fields).scalars f =
      if f = g then value.or (fields.scalars f) else fields.scalars f := by
  cases value with
  | none => simp [pushOptionalScalar]
  | some v => simp [pushOptionalScalar]

@[simp] theorem lists_pushOptionalScalar (value : Option String) :
    ((pushOptionalScalar g value).foldl Entry.apply fields).lists f = fields.lists f := by
  cases value <;> rfl

@[simp] theorem scalars_pushOptionalNonEmptyScalar (value : String) :
    ((pushOptionalNonEmptyScalar g value).foldl Entry.apply fields).scalars f =
      if f = g ∧ value ≠ "" then some value else fields.scalars f := by
  by_cases empty : value = ""
  · simp [pushOptionalNonEmptyScalar, empty]
  · simp [pushOptionalNonEmptyScalar, empty]

@[simp] theorem lists_pushOptionalNonEmptyScalar (value : String) :
    ((pushOptionalNonEmptyScalar g value).foldl Entry.apply fields).lists f = fields.lists f := by
  unfold pushOptionalNonEmptyScalar
  split <;> rfl

@[simp] theorem scalars_pushList (items : List String) :
    ((pushList g items).foldl Entry.apply fields).scalars f = fields.scalars f := by
  unfold pushList
  split <;> rfl

@[simp] theorem lists_pushList (items : List String) : ((pushList g items).foldl Entry.apply fields).lists f =
    if f = g ∧ items ≠ [] then some items else fields.lists f := by
  by_cases empty : items = []
  · simp [pushList, empty]
  · simp [pushList, empty, Entry.apply, ParsedFields.insertList]

@[simp] theorem scalars_normalized_pushList (items : List String) :
    (((pushList g items).map Entry.normalized).foldl Entry.apply fields).scalars f = fields.scalars f := by
  unfold pushList
  split <;> rfl

@[simp] theorem lists_normalized_pushList (items : List String) :
    (((pushList g items).map Entry.normalized).foldl Entry.apply fields).lists f =
      if f = g ∧ items ≠ [] then some (normalizeListItems g items) else fields.lists f := by
  by_cases empty : items = []
  · simp [pushList, empty]
  · simp [pushList, empty, Entry.apply, Entry.normalized, ParsedFields.insertList]

@[simp] theorem scalars_ite (condition : Prop) [Decidable condition] (a b : List Entry) :
    ((if condition then a else b).foldl Entry.apply fields).scalars f =
      if condition then (a.foldl Entry.apply fields).scalars f else (b.foldl Entry.apply fields).scalars f := by
  split <;> rfl

@[simp] theorem lists_ite (condition : Prop) [Decidable condition] (a b : List Entry) :
    ((if condition then a else b).foldl Entry.apply fields).lists f =
      if condition then (a.foldl Entry.apply fields).lists f else (b.foldl Entry.apply fields).lists f := by
  split <;> rfl

end Lookup

@[simp] theorem getD_ite_eq {α : Type} [DecidableEq α] (value absent : α) :
    (if value = absent then none else some value).getD absent = value := by
  split
  next same => exact same.symm
  · rfl

@[simp] theorem parsedEnum_asStr {α : Type} [StringEnum α] (a : α) : parsedEnum α (asStr a) = .ok a := by
  simp [parsedEnum, Except.mapError]

@[simp] theorem transposed_none {α : Type} (parse : String → Except WorkDocumentError α) :
    transposed parse none = .ok none := rfl

@[simp] theorem transposed_map {α : Type} {parse : String → Except WorkDocumentError α} {text : α → String}
    (inverse : ∀ a, parse (text a) = .ok a) (value : Option α) : transposed parse (value.map text) = .ok value := by
  cases value with
  | none => rfl
  | some a => simp [transposed, inverse, Except.map]

/-- An optional identifier is absent or safe. -/
def OptionalIdentifier (value : Option String) : Prop := ∀ v, value = some v → SafeIdentifier v

theorem OptionalIdentifier.inline {value : Option String} (safe : OptionalIdentifier value) :
    ∀ v, value = some v → Inline v.toList := fun v same => (safe v same).inline

theorem validateIdentifier_iff (fieldName value : String) :
    validateIdentifier fieldName value = .ok () ↔ SafeIdentifier value :=
  mapError_eq_ok.trans (validateSafeIdentifier_iff value fieldName)

theorem validateOptionalIdentifier_iff (fieldName : String) (value : Option String) :
    validateOptionalIdentifier fieldName value = .ok () ↔ OptionalIdentifier value := by
  cases value with
  | none => simp [validateOptionalIdentifier, OptionalIdentifier]
  | some v => simp [validateOptionalIdentifier, validateIdentifier_iff, OptionalIdentifier]

theorem validateRequiredList_iff (fieldName : String) (values : List String) :
    validateRequiredList fieldName values = .ok () ↔ values ≠ [] := by
  simp [validateRequiredList]

theorem inline_map_asStr {α : Type} [StringEnum α] (value : Option α) :
    ∀ v, value.map asStr = some v → Inline v.toList := by
  intro v same
  simp only [Option.map_eq_some_iff] at same
  obtain ⟨a, -, rfl⟩ := same
  exact inline_asStr a

section Timestamps
variable [Rfc3339]

def OneLineTimestamp (t : Timestamp) : Prop := '\n' ∉ t.text.toList

instance (t : Timestamp) : Decidable (OneLineTimestamp t) := inferInstanceAs (Decidable ('\n' ∉ t.text.toList))

theorem Timestamp.inline {t : Timestamp} (oneLine : OneLineTimestamp t) : Inline t.text.toList :=
  ⟨by simpa using t.nonempty, (trim_eq_self_iff _).mp t.trimmed, oneLine⟩

theorem inline_map_timestamp {value : Option Timestamp} (oneLine : ∀ t, value = some t → OneLineTimestamp t) :
    ∀ v, value.map Timestamp.text = some v → Inline v.toList := by
  intro v same
  simp only [Option.map_eq_some_iff] at same
  obtain ⟨t, held, rfl⟩ := same
  exact Timestamp.inline (oneLine t held)

end Timestamps

theorem validateIdentifiers_iff (fieldName : String) (values : List String) :
    validateIdentifiers fieldName values = .ok () ↔ ∀ v ∈ values, SafeIdentifier v := by
  induction values with
  | nil => simp [validateIdentifiers]
  | cons v rest ih => simp [validateIdentifiers, bind_unit_eq_ok, validateIdentifier_iff, ih]

/-! ## What parsed fields give -/

section Reads
variable {fields : ParsedFields} (carried : fields.Carried) {f : FieldName}
include carried

theorem inline_requiredScalar {value : String} (read : requiredScalar fields f = .ok value) : Inline value.toList := by
  unfold requiredScalar at read
  split at read
  next held found => exact Except.ok.inj read ▸ carried.scalar f held found
  · cases read

theorem inline_requiredTitle {headingTitle title : String} (read : requiredTitle fields headingTitle = .ok title) :
    Inline title.toList := by
  unfold requiredTitle at read
  obtain ⟨held, found, rest⟩ := bind_eq_ok.mp read
  simp only at rest
  split at rest
  · cases rest
  · exact Except.ok.inj rest ▸ inline_requiredScalar carried found

theorem inline_getD_optionalScalar :
    (optionalScalar fields f).getD "" = "" ∨ Inline ((optionalScalar fields f).getD "").toList := by
  unfold optionalScalar
  cases found : fields.scalars f with
  | none => exact .inl rfl
  | some value => exact .inr (carried.scalar f value found)

theorem inline_optionalList : InlineItems (optionalList fields f) := by
  unfold optionalList
  cases found : fields.lists f with
  | none => simp [InlineItems]
  | some items => exact (carried.list f items found).1

theorem inline_requiredList {items : List String} (read : requiredList fields f = .ok items) : InlineItems items := by
  unfold requiredList at read
  split at read
  · cases read
  · exact Except.ok.inj read ▸ inline_optionalList carried

theorem inline_relationships (relationship : f = .dependsOn ∨ f = .blocks) :
    InlineRelationships (optionalList fields f) := by
  unfold optionalList
  cases found : fields.lists f with
  | none => simp [InlineRelationships]
  | some items =>
    obtain ⟨inline, normal⟩ := carried.list f items found
    simp only [normalizeListItems, relationship, ↓reduceIte, List.filter_eq_self] at normal
    exact fun item member => ⟨inline item member, by simpa using normal item member⟩

theorem oneLine_requiredTimestamp [Rfc3339] {t : Timestamp} (read : requiredTimestamp fields f = .ok t) :
    OneLineTimestamp t := by
  unfold requiredTimestamp at read
  obtain ⟨text, found, parsed⟩ := bind_eq_ok.mp read
  rw [OneLineTimestamp, Timestamp.text_of_parse parsed]
  exact (inline_requiredScalar carried found).oneLine

theorem oneLine_optionalTimestamp [Rfc3339] {value : Option Timestamp} (read : optionalTimestamp fields f = .ok value) :
    ∀ t, value = some t → OneLineTimestamp t := by
  rintro t rfl
  unfold optionalTimestamp optionalScalar at read
  cases found : fields.scalars f with
  | none => simp [found, transposed] at read
  | some text =>
    simp only [found, transposed, map_eq_ok, Option.some.injEq] at read
    obtain ⟨t', parsed, rfl⟩ := read
    rw [OneLineTimestamp, Timestamp.text_of_parse parsed]
    exact (carried.scalar f text found).oneLine

end Reads

/-! ## Whole documents -/

/-- What every document reader does before its own fields: read them and check the document kind. -/
def readDocument {α : Type} (model : DocumentModel)
    (parseFromFields : String → ParsedFields → Except WorkDocumentError α) (raw sourceName : String) :
    Except WorkDocumentError α := do
  let (headingTitle, fields) ← parseMarkdownFields raw sourceName
  ensureModel fields model sourceName
  parseFromFields headingTitle fields

theorem readDocument_renderEntries {α : Type} {model : DocumentModel} {d : α} {title : String}
    {parseFromFields : String → ParsedFields → Except WorkDocumentError α} {fs : List FieldName}
    {entries : List Entry} (writes : Writes fs entries) (distinct : fs.Nodup) (heading : Inline title.toList)
    (sourceName : String) (inferred : inferModel (entries.foldl Entry.apply .empty) sourceName = .ok model)
    (parsed : parseFromFields title (entries.foldl Entry.apply .empty) = .ok d) :
    readDocument model parseFromFields (renderEntries title entries) sourceName = .ok d := by
  have checked : ensureModel (entries.foldl Entry.apply .empty) model sourceName = .ok () := by
    simp [ensureModel, inferred, pure, Except.pure]
  exact bind_eq_ok.mpr ⟨_, writes.reads distinct sourceName heading, bind_unit_eq_ok.mpr ⟨checked, parsed⟩⟩

theorem carried_of_readDocument {α : Type} {model : DocumentModel} {d : α} {raw sourceName : String}
    {parseFromFields : String → ParsedFields → Except WorkDocumentError α}
    (ok : readDocument model parseFromFields raw sourceName = .ok d) :
    ∃ title fields, fields.Carried ∧ parseFromFields title fields = .ok d := by
  obtain ⟨⟨title, fields⟩, read, rest⟩ := bind_eq_ok.mp ok
  obtain ⟨-, parsed⟩ := bind_unit_eq_ok.mp rest
  exact ⟨title, fields, (parseMarkdownFields_carried read).1, parsed⟩

end Millrace.WorkDocuments
