import Mathlib.Data.List.Nodup
import Millrace.WorkDocuments.Fields

/-! What the field reader accepts: the lines a renderer writes, and only values that a line can carry. -/

set_option autoImplicit false

namespace Millrace.WorkDocuments
open Millrace.Text Millrace.Contracts

/-! ## Labels -/

theorem mem_all (f : FieldName) : f ∈ FieldName.all := by cases f <;> decide

theorem labels_nodup : (FieldName.all.map FieldName.label).Nodup := by decide +kernel

theorem label_injective {f g : FieldName} (same : f.label = g.label) : f = g :=
  List.inj_on_of_nodup_map labels_nodup (mem_all f) (mem_all g) same

@[simp] theorem fieldSpecByLabel_label (f : FieldName) : fieldSpecByLabel f.label.toList = some f := by
  unfold fieldSpecByLabel
  rw [String.ofList_toList]
  cases found : FieldName.all.find? (·.label == f.label) with
  | none => simpa using List.find?_eq_none.mp found f (mem_all f)
  | some g =>
    have same : g.label = f.label := by simpa using List.find?_some found
    rw [label_injective same]

theorem labels_accepted : FieldName.all.all (fun f => isFieldLabel f.label.toList) = true := by decide +kernel

theorem isFieldLabel_label (f : FieldName) : isFieldLabel f.label.toList = true :=
  List.all_eq_true.mp labels_accepted f (mem_all f)

section Label
variable {label : List Char} (accepted : isFieldLabel label = true)
include accepted

theorem cons_of_isFieldLabel : ∃ first rest, label = first :: rest ∧ isWhitespace first = false := by
  cases label with
  | nil => simp [isFieldLabel] at accepted
  | cons first rest =>
    simp only [isFieldLabel, Bool.and_eq_true] at accepted
    exact ⟨first, rest, rfl, isWhitespace_of_alphanumeric first (by simp [isAsciiAlphanumeric, accepted.1])⟩

theorem not_mem_of_isFieldLabel (c : Char) (other : isAsciiAlphanumeric c = false) (dash : c ≠ '-') : c ∉ label := by
  intro member
  cases label with
  | nil => cases member
  | cons first rest =>
    simp only [isFieldLabel, Bool.and_eq_true] at accepted
    rcases List.mem_cons.mp member with rfl | later
    · simp [isAsciiAlphanumeric, accepted.1] at other
    · simpa [other, dash] using List.all_eq_true.mp accepted.2 c later

/-! ## Lines that renderers write -/

theorem trim_labelledValue {v : List Char} (inline : Inline v) :
    trim (label ++ ':' :: ' ' :: v) = label ++ ':' :: ' ' :: v := by
  obtain ⟨first, rest, same, solid⟩ := cons_of_isFieldLabel accepted
  rw [same]
  have trimmed := trimmed_cons_append (s := rest ++ [':', ' ']) solid inline.nonempty inline.trimmed
  simpa using trim_of_trimmed trimmed

theorem trim_labelled : trim (label ++ [':']) = label ++ [':'] := by
  obtain ⟨first, rest, same, solid⟩ := cons_of_isFieldLabel accepted
  rw [same]
  exact trim_between first ':' rest solid (by decide)

theorem parseFieldLine_labelledValue {v : List Char} (trimmed : Trimmed v) :
    parseFieldLine (label ++ ':' :: ' ' :: v) = some (label, v) := by
  have absent := not_mem_of_isFieldLabel accepted ':' (by decide) (by decide)
  simp [parseFieldLine, splitOnce_append ':' _ _ absent, accepted, trim_space_append trimmed]

theorem parseFieldLine_labelled : parseFieldLine (label ++ [':']) = some (label, []) := by
  have absent := not_mem_of_isFieldLabel accepted ':' (by decide) (by decide)
  simp [parseFieldLine, splitOnce_append ':' _ _ absent, accepted]

end Label

theorem not_mem_label (f : FieldName) (c : Char) (other : isAsciiAlphanumeric c = false) (dash : c ≠ '-') :
    c ∉ f.label.toList := not_mem_of_isFieldLabel (isFieldLabel_label f) c other dash

theorem trim_scalarLine (f : FieldName) {v : List Char} (inline : Inline v) :
    trim (f.label.toList ++ ':' :: ' ' :: v) = f.label.toList ++ ':' :: ' ' :: v :=
  trim_labelledValue (isFieldLabel_label f) inline

theorem trim_listLine (f : FieldName) : trim (f.label.toList ++ [':']) = f.label.toList ++ [':'] :=
  trim_labelled (isFieldLabel_label f)

theorem trim_bullet {item : List Char} (inline : Inline item) : trim ('-' :: ' ' :: item) = '-' :: ' ' :: item := by
  have solid : isWhitespace '-' = false := by decide
  exact trim_of_trimmed (trimmed_cons_append (s := [' ']) solid inline.nonempty inline.trimmed)

theorem parseFieldLine_scalar (f : FieldName) {v : List Char} (inline : Inline v) :
    parseFieldLine (f.label.toList ++ ':' :: ' ' :: v) = some (f.label.toList, v) :=
  parseFieldLine_labelledValue (isFieldLabel_label f) inline.trimmed

theorem parseFieldLine_list (f : FieldName) :
    parseFieldLine (f.label.toList ++ [':']) = some (f.label.toList, []) :=
  parseFieldLine_labelled (isFieldLabel_label f)

theorem parseFieldLine_bullet (text : List Char) : parseFieldLine ('-' :: text) = none := by
  unfold parseFieldLine
  split
  · rfl
  next label value split =>
    obtain ⟨same, -⟩ := splitOnce_eq_some split
    cases label with
    | nil => simp at same
    | cons first rest =>
      simp only [List.cons_append, List.cons.injEq] at same
      have unlabelled : isFieldLabel (first :: rest) = false := by
        rw [← same.1]
        simp [isFieldLabel, isAsciiAlphabetic, isAsciiUpper, isAsciiLower]
      simp [unlabelled]

theorem parseListItem_bullet {item : List Char} (inline : Inline item) :
    parseListItem ('-' :: ' ' :: item) = some item := by
  simp [parseListItem, inline.trim, inline.nonempty]

theorem parseFieldLine_nonempty {line : List Char} (found : (parseFieldLine line).isSome = true) : line ≠ [] := by
  rintro rfl
  simp [parseFieldLine, splitOnce] at found

/-! ## The field loop -/

section Loop
variable (sourceName : String)

theorem parseFieldLines_blank (line : List Char) (rest : List (List Char)) (fields : ParsedFields)
    (blank : trim line = []) :
    parseFieldLines sourceName (line :: rest) fields = parseFieldLines sourceName rest fields := by
  rw [parseFieldLines]
  simp [blank]

theorem parseFieldLines_scalar {line v : List Char} {f : FieldName} (rest : List (List Char))
    (fields : ParsedFields) (read : parseFieldLine (trim line) = some (f.label.toList, v)) (nonempty : v ≠ [])
    (scalar : f.kind = .scalar) (fresh : fields.contains f = false) :
    parseFieldLines sourceName (line :: rest) fields =
      parseFieldLines sourceName rest (fields.insertScalar f (String.ofList v)) := by
  have stripped : trim line ≠ [] := parseFieldLine_nonempty (by simp [read])
  rw [parseFieldLines]
  simp [stripped, read, fresh, nonempty, scalar]

theorem collectListItems_bullets (label : String) (items acc : List String) (rest : List (List Char))
    (inline : ∀ item ∈ items, Inline item.toList) :
    collectListItems sourceName label acc ((items.map fun item => '-' :: ' ' :: item.toList) ++ rest) =
      collectListItems sourceName label (acc ++ items) rest := by
  induction items generalizing acc with
  | nil => simp
  | cons item later ih =>
    have first := inline item List.mem_cons_self
    have others : ∀ x ∈ later, Inline x.toList := fun x member => inline x (List.mem_cons_of_mem _ member)
    simp only [List.map_cons, List.cons_append, collectListItems, trim_bullet first, parseFieldLine_bullet,
      parseListItem_bullet first]
    simpa using ih (acc ++ [item]) others

/-- A list read up to a blank line, a field line or the end of the document. -/
def Stops (rest : List (List Char)) : Prop :=
  rest = [] ∨ ∃ line tail, rest = line :: tail ∧ (trim line = [] ∨ (parseFieldLine (trim line)).isSome = true)

theorem parseFieldLines_list {f : FieldName} {items : List String} (rest : List (List Char))
    (fields : ParsedFields) (list : f.kind = .list) (fresh : fields.contains f = false) (nonempty : items ≠ [])
    (inline : ∀ item ∈ items, Inline item.toList) (stops : Stops rest) :
    parseFieldLines sourceName
        ((f.label.toList ++ [':']) :: ((items.map fun item => '-' :: ' ' :: item.toList) ++ rest)) fields =
      parseFieldLines sourceName rest (fields.insertList f (normalizeListItems f items)) := by
  have stripped : f.label.toList ++ [':'] ≠ [] := by simp
  have collected : ∀ label, ∃ remaining, collectListItems sourceName label []
      ((items.map fun item => '-' :: ' ' :: item.toList) ++ rest) = .ok (items, remaining) ∧
      ∀ g, parseFieldLines sourceName remaining g = parseFieldLines sourceName rest g := by
    intro label
    rw [collectListItems_bullets sourceName label items [] rest inline, List.nil_append]
    rcases stops with rfl | ⟨line, tail, rfl, blank | field⟩
    · exact ⟨[], by simp [collectListItems], fun _ => rfl⟩
    · exact ⟨tail, by simp [collectListItems, blank, nonempty], fun g => (parseFieldLines_blank sourceName line tail g blank).symm⟩
    · have solid := parseFieldLine_nonempty field
      exact ⟨line :: tail, by simp [collectListItems, solid, field], fun _ => rfl⟩
  obtain ⟨remaining, found, same⟩ := collected (String.ofList f.label.toList)
  rw [parseFieldLines]
  simp only [trim_listLine, stripped, ↓reduceIte, parseFieldLine_list, fieldSpecByLabel_label, fresh,
    Bool.false_eq_true, ne_eq, not_true_eq_false, list, reduceCtorEq]
  split
  next error rejected =>
    rw [found] at rejected
    cases rejected
  next found' remaining' ok =>
    rw [found] at ok
    simp only [Except.ok.injEq, Prod.mk.injEq] at ok
    rw [← ok.1, ← ok.2, same]

end Loop

/-! ## Rendered entries are read back -/

namespace Entry

/-- The values a document line can carry. -/
def Carried : Entry → Prop
  | .scalar f value => f.kind = .scalar ∧ Inline value.toList
  | .list f items => f.kind = .list ∧ items ≠ [] ∧ (∀ item ∈ items, Inline item.toList) ∧ normalizeListItems f items = items

/-- The values that a line shows to a reader, who may still drop items of a list. -/
def Legible : Entry → Prop
  | .scalar f value => f.kind = .scalar ∧ Inline value.toList
  | .list f items => f.kind = .list ∧ items ≠ [] ∧ ∀ item ∈ items, Inline item.toList

/-- What a reader keeps of an entry. -/
def normalized : Entry → Entry
  | .scalar f value => .scalar f value
  | .list f items => .list f (normalizeListItems f items)

theorem Carried.legible {e : Entry} (carried : e.Carried) : e.Legible := by
  cases e with
  | scalar f value => exact carried
  | list f items => exact ⟨carried.1, carried.2.1, carried.2.2.1⟩

theorem Carried.normalized {e : Entry} (carried : e.Carried) : e.normalized = e := by
  cases e with
  | scalar f value => rfl
  | list f items => exact congrArg (Entry.list f) carried.2.2.2

theorem map_normalized {entries : List Entry} (carried : ∀ e ∈ entries, e.Carried) :
    entries.map Entry.normalized = entries :=
  (List.map_congr_left fun e member => (carried e member).normalized).trans (List.map_id _)

def apply (fields : ParsedFields) : Entry → ParsedFields
  | .scalar f value => fields.insertScalar f value
  | .list f items => fields.insertList f items

theorem contains_apply (fields : ParsedFields) (e : Entry) (f : FieldName) (other : f ≠ e.field) :
    (apply fields e).contains f = fields.contains f := by
  cases e with
  | scalar g value =>
    have different : f ≠ g := other
    simp [apply, ParsedFields.contains, ParsedFields.insertScalar, different]
  | list g items =>
    have different : f ≠ g := other
    simp [apply, ParsedFields.contains, ParsedFields.insertList, different]

theorem stops_lines {e : Entry} (legible : e.Legible) (rest : List (List Char)) : Stops (e.lines ++ rest) := by
  right
  cases e with
  | scalar f value =>
    refine ⟨_, rest, rfl, .inr ?_⟩
    simp [trim_scalarLine f legible.2, parseFieldLine_scalar f legible.2]
  | list f items => exact ⟨[], _, rfl, .inl (by simp)⟩

end Entry

theorem parseFieldLines_entries (sourceName : String) (entries : List Entry) (fields : ParsedFields)
    (legible : ∀ e ∈ entries, e.Legible) (distinct : (entries.map Entry.field).Nodup)
    (fresh : ∀ e ∈ entries, fields.contains e.field = false) :
    parseFieldLines sourceName (entries.flatMap Entry.lines) fields =
      .ok ((entries.map Entry.normalized).foldl Entry.apply fields) := by
  induction entries generalizing fields with
  | nil => simp [parseFieldLines]
  | cons e later ih =>
    simp only [List.map_cons, List.nodup_cons] at distinct
    have fresh' : ∀ x ∈ later, (Entry.apply fields e.normalized).contains x.field = false := by
      intro x member
      have other : x.field ≠ e.field := fun same => distinct.1 (same ▸ List.mem_map_of_mem member)
      rw [Entry.contains_apply fields e.normalized x.field (by cases e <;> exact other)]
      exact fresh x (List.mem_cons_of_mem _ member)
    have tail := ih (Entry.apply fields e.normalized) (fun x member => legible x (List.mem_cons_of_mem _ member))
      distinct.2 fresh'
    have stops : Stops (later.flatMap Entry.lines) := by
      cases later with
      | nil => exact .inl rfl
      | cons next others =>
        exact Entry.stops_lines (legible next (List.mem_cons_of_mem _ List.mem_cons_self)) _
    have first := legible e List.mem_cons_self
    have unread := fresh e List.mem_cons_self
    cases e with
    | scalar f value =>
      obtain ⟨scalar, inline⟩ := first
      have read : parseFieldLine (trim (f.label.toList ++ ':' :: ' ' :: value.toList)) =
          some (f.label.toList, value.toList) := by
        rw [trim_scalarLine f inline, parseFieldLine_scalar f inline]
      have step := parseFieldLines_scalar sourceName (later.flatMap Entry.lines) fields read
        inline.nonempty scalar unread
      rw [String.ofList_toList] at step
      simpa [Entry.lines, Entry.apply, Entry.normalized] using step.trans tail
    | list f items =>
      obtain ⟨list, nonempty, inline⟩ := first
      have read := parseFieldLines_list sourceName _ fields list unread nonempty inline stops
      have start := parseFieldLines_blank sourceName []
        ((f.label.toList ++ [':']) :: ((items.map fun item => '-' :: ' ' :: item.toList) ++
          later.flatMap Entry.lines)) fields trim_nil
      simpa [Entry.lines, Entry.apply, Entry.normalized] using start.trans (read.trans tail)

theorem solid_line {front : List Char} {c : Char} (solid : isWhitespace c = false) (oneLine : '\n' ∉ front) :
    '\n' ∉ front ++ [c] ∧ stripCarriageReturn (front ++ [c]) = front ++ [c] := by
  refine ⟨?_, stripCarriageReturn_of_last solid⟩
  simp only [List.mem_append, List.mem_singleton, not_or]
  refine ⟨oneLine, ?_⟩
  rintro rfl
  simp [isWhitespace_newline] at solid

/-- A line that ends in an inline value is split off as it was written. -/
theorem solid_append (front : List Char) {v : List Char} (inline : Inline v) (oneLine : '\n' ∉ front) :
    '\n' ∉ front ++ v ∧ stripCarriageReturn (front ++ v) = front ++ v := by
  obtain ⟨before, last, same⟩ := (List.eq_nil_or_concat' v).resolve_left inline.nonempty
  have solid := inline.trimmed.2 before last same
  have part : '\n' ∉ front ++ before := by
    have whole := inline.oneLine
    rw [same] at whole
    simp only [List.mem_append, not_or] at whole ⊢
    exact ⟨oneLine, whole.1⟩
  rw [same, ← List.append_assoc]
  exact solid_line solid part

theorem Entry.solid_lines {e : Entry} (legible : e.Legible) :
    ∀ line ∈ e.lines, '\n' ∉ line ∧ stripCarriageReturn line = line := by
  have label : ∀ f : FieldName, '\n' ∉ f.label.toList := fun f => not_mem_label f '\n' (by decide) (by decide)
  cases e with
  | scalar f value =>
    intro line member
    simp only [Entry.lines, List.mem_singleton] at member
    have solid := solid_append (f.label.toList ++ [':', ' ']) legible.2 (by simp [label f])
    simpa [member] using solid
  | list f items =>
    intro line member
    simp only [Entry.lines, List.mem_cons, List.mem_map] at member
    rcases member with rfl | rfl | ⟨item, listed, rfl⟩
    · exact ⟨by simp, rfl⟩
    · exact solid_line (by decide) (label f)
    · exact solid_append ['-', ' '] (legible.2.2 item listed) (by decide)

/-- The document of an inline title and of legible entries reads back as that title and what is kept of them. -/
theorem parseMarkdownFields_renderLegible {title : String} {entries : List Entry} (sourceName : String)
    (heading : Inline title.toList) (legible : ∀ e ∈ entries, e.Legible)
    (distinct : (entries.map Entry.field).Nodup) :
    parseMarkdownFields (renderEntries title entries) sourceName =
      .ok (title, (entries.map Entry.normalized).foldl Entry.apply .empty) := by
  have solid : ∀ line ∈ headingLines title ++ entries.flatMap Entry.lines,
      '\n' ∉ line ∧ stripCarriageReturn line = line := by
    intro line member
    simp only [headingLines, List.cons_append, List.nil_append, List.mem_cons, List.mem_flatMap] at member
    rcases member with rfl | rfl | ⟨e, listed, member⟩
    · exact solid_append ['#', ' '] heading (by decide)
    · exact ⟨by simp, rfl⟩
    · exact Entry.solid_lines (legible e listed) line member
  have split : lines (renderEntries title entries).toList = headingLines title ++ entries.flatMap Entry.lines := by
    simpa [renderEntries, finishLines] using lines_unlines _ solid
  have first : trim ('#' :: ' ' :: title.toList) = '#' :: ' ' :: title.toList :=
    trim_of_trimmed (trimmed_cons_append (s := [' ']) (by decide) heading.nonempty heading.trimmed)
  have read : parseH1Title ('#' :: ' ' :: title.toList) = some title.toList := by
    have blank : isWhitespace ' ' = true := by decide
    simp [parseH1Title, first, blank, heading.trim]
  have fields := parseFieldLines_entries sourceName entries .empty legible distinct
    (fun _ _ => rfl)
  have rest : parseFieldLines sourceName ([] :: entries.flatMap Entry.lines) .empty =
      .ok ((entries.map Entry.normalized).foldl Entry.apply .empty) :=
    (parseFieldLines_blank _ _ _ _ trim_nil).trans fields
  unfold parseMarkdownFields parseMarkdownLines
  simp only [split, headingLines, List.cons_append, List.nil_append, first, read, rest]
  cases same : title.toList with
  | nil => exact absurd same heading.nonempty
  | cons c text => simp [← same]

/-- The document of an inline title and of carried entries reads back as that title and those entries. -/
theorem parseMarkdownFields_renderEntries {title : String} {entries : List Entry} (sourceName : String)
    (heading : Inline title.toList) (carried : ∀ e ∈ entries, e.Carried)
    (distinct : (entries.map Entry.field).Nodup) :
    parseMarkdownFields (renderEntries title entries) sourceName =
      .ok (title, entries.foldl Entry.apply .empty) := by
  rw [parseMarkdownFields_renderLegible sourceName heading (fun e member => (carried e member).legible) distinct,
    Entry.map_normalized carried]

/-! ## Accepted fields -/

theorem newline_not_mem_parseFieldLine {line label value : List Char} (oneLine : '\n' ∉ line)
    (read : parseFieldLine line = some (label, value)) : '\n' ∉ value := by
  unfold parseFieldLine at read
  split at read
  · simp at read
  next label' value' split =>
    split at read
    · simp only [Option.some.injEq, Prod.mk.injEq] at read
      obtain ⟨same, -⟩ := splitOnce_eq_some split
      intro member
      rw [← read.2] at member
      exact oneLine (same ▸ by simp [mem_of_mem_trim member])
    · simp at read

theorem inline_parseFieldLine {line label value : List Char} (oneLine : '\n' ∉ line)
    (read : parseFieldLine (trim line) = some (label, value)) (nonempty : value ≠ []) : Inline value := by
  refine ⟨nonempty, ?_, newline_not_mem_parseFieldLine (fun member => oneLine (mem_of_mem_trim member)) read⟩
  unfold parseFieldLine at read
  split at read
  · simp at read
  · split at read
    · simp only [Option.some.injEq, Prod.mk.injEq] at read
      exact read.2 ▸ trimmed_trim _
    · simp at read

theorem inline_parseListItem {line item : List Char} (oneLine : '\n' ∉ line)
    (read : parseListItem (trim line) = some item) : Inline item := by
  unfold parseListItem at read
  split at read
  next rest same =>
    split at read
    · simp at read
    next nonempty =>
      simp only [Option.some.injEq] at read
      have tail : '\n' ∉ rest := by
        intro member
        exact oneLine (mem_of_mem_trim (same ▸ by simp [member]))
      exact read ▸ inline_trim nonempty tail
  · simp at read

theorem inline_collectListItems {sourceName label : String} {acc items : List String} {ls rest : List (List Char)}
    (oneLine : ∀ line ∈ ls, '\n' ∉ line) (inline : ∀ item ∈ acc, Inline item.toList)
    (ok : collectListItems sourceName label acc ls = .ok (items, rest)) : ∀ item ∈ items, Inline item.toList := by
  induction ls generalizing acc with
  | nil =>
    simp only [collectListItems, Except.ok.injEq, Prod.mk.injEq] at ok
    exact ok.1 ▸ inline
  | cons line tail ih =>
    have first := oneLine line List.mem_cons_self
    have later : ∀ l ∈ tail, '\n' ∉ l := fun l member => oneLine l (List.mem_cons_of_mem _ member)
    simp only [collectListItems] at ok
    split at ok
    · split at ok
      · simp only [Except.ok.injEq, Prod.mk.injEq] at ok
        exact ok.1 ▸ inline
      · exact ih later inline ok
    · split at ok
      · simp only [Except.ok.injEq, Prod.mk.injEq] at ok
        exact ok.1 ▸ inline
      · split at ok
        · simp at ok
        next item read =>
          refine ih later (fun x member => ?_) ok
          rcases List.mem_append.mp member with old | new
          · exact inline x old
          · simp only [List.mem_singleton] at new
            simpa [new] using inline_parseListItem first read

/-- The loop only inserts fields that are not yet there, each with what its lines hold. -/
theorem parseFieldLines_preserves {sourceName : String} (P : ParsedFields → Prop) (ls : List (List Char))
    (fields out : ParsedFields) (oneLine : ∀ line ∈ ls, '\n' ∉ line)
    (scalar : ∀ fields f v, Inline v → fields.contains f = false → P fields →
      P (fields.insertScalar f (String.ofList v)))
    (list : ∀ fields f items, (∀ item ∈ items, Inline item.toList) → fields.contains f = false → P fields →
      P (fields.insertList f (normalizeListItems f items)))
    (holds : P fields) (ok : parseFieldLines sourceName ls fields = .ok out) : P out := by
  fun_induction parseFieldLines sourceName ls fields with
  | case1 fields => exact Except.ok.inj ok ▸ holds
  | case2 fields line rest stripped blank ih =>
    exact ih (fun l member => oneLine l (List.mem_cons_of_mem _ member)) holds ok
  | case3 fields line rest stripped solid read ih =>
    exact ih (fun l member => oneLine l (List.mem_cons_of_mem _ member)) holds ok
  | case4 fields line rest stripped solid label value read unknown ih =>
    refine ih (fun l member => oneLine l (List.mem_cons_of_mem _ ?_)) holds ok
    exact (skipUnknownFieldBlock_suffix rest).subset member
  | case5 => cases ok
  | case6 fields line rest stripped solid label value read f known fresh nonempty isList ih =>
    have inline := inline_parseFieldLine (oneLine line List.mem_cons_self) read nonempty
    refine ih (fun l member => oneLine l (List.mem_cons_of_mem _ member)) ?_ ok
    exact list fields f _ (by simpa using inline) (by simpa using fresh) holds
  | case7 fields line rest stripped solid label value read f known fresh nonempty isScalar ih =>
    have inline := inline_parseFieldLine (oneLine line List.mem_cons_self) read nonempty
    refine ih (fun l member => oneLine l (List.mem_cons_of_mem _ member)) ?_ ok
    exact scalar fields f value inline (by simpa using fresh) holds
  | case8 => cases ok
  | case9 fields line rest stripped solid label value read f known fresh empty isScalar remaining skipped ih =>
    refine ih (fun l member => oneLine l (List.mem_cons_of_mem _ ?_)) holds ok
    exact (skipBlankScalarBlock_suffix skipped).subset member
  | case10 => cases ok
  | case11 fields line rest stripped solid label value read f known fresh empty isList items remaining collected ih =>
    have inline : ∀ item ∈ items, Inline item.toList :=
      inline_collectListItems (fun l member => oneLine l (List.mem_cons_of_mem _ member)) (by simp) collected
    refine ih (fun l member => oneLine l (List.mem_cons_of_mem _ ?_)) ?_ ok
    · exact (collectListItems_suffix collected).subset member
    · exact list fields f items inline (by simpa using fresh) holds

/-- Every value that was read could have been rendered. -/
structure ParsedFields.Carried (fields : ParsedFields) : Prop where
  scalar : ∀ f value, fields.scalars f = some value → Inline value.toList
  list : ∀ f items, fields.lists f = some items →
    (∀ item ∈ items, Inline item.toList) ∧ normalizeListItems f items = items

theorem normalizeListItems_idempotent (f : FieldName) (items : List String) :
    normalizeListItems f (normalizeListItems f items) = normalizeListItems f items := by
  unfold normalizeListItems
  split
  · simp
  · rfl

theorem mem_of_mem_normalizeListItems {f : FieldName} {items : List String} {item : String}
    (member : item ∈ normalizeListItems f items) : item ∈ items := by
  unfold normalizeListItems at member
  split at member
  · exact List.mem_of_mem_filter member
  · exact member

theorem parseFieldLines_carried {sourceName : String} {ls : List (List Char)} {out : ParsedFields}
    (oneLine : ∀ line ∈ ls, '\n' ∉ line) (ok : parseFieldLines sourceName ls .empty = .ok out) : out.Carried := by
  refine parseFieldLines_preserves ParsedFields.Carried ls .empty out oneLine ?_ ?_ ?_ ok
  · intro fields f v inline _ carried
    refine ⟨fun g value found => ?_, carried.list⟩
    simp only [ParsedFields.insertScalar] at found
    split at found
    · simp only [Option.some.injEq] at found
      simpa [← found] using inline
    · exact carried.scalar g value found
  · intro fields f items inline _ carried
    refine ⟨carried.scalar, fun g found listed => ?_⟩
    simp only [ParsedFields.insertList] at listed
    split at listed
    next same =>
      simp only [Option.some.injEq] at listed
      rw [← listed, same]
      exact ⟨fun item member => inline item (mem_of_mem_normalizeListItems member),
        normalizeListItems_idempotent f items⟩
    · exact carried.list g found listed
  · exact ⟨fun f value found => by simp [ParsedFields.empty] at found,
      fun f items found => by simp [ParsedFields.empty] at found⟩

theorem parseMarkdownFields_carried {raw sourceName title : String} {fields : ParsedFields}
    (ok : parseMarkdownFields raw sourceName = .ok (title, fields)) :
    fields.Carried ∧ Inline title.toList := by
  have solid := newline_not_mem_lines raw.toList
  unfold parseMarkdownFields parseMarkdownLines at ok
  split at ok
  · simp at ok
  next first rest same =>
    rw [same] at solid
    split at ok
    · simp at ok
    · split at ok
      · simp at ok
      · simp at ok
      next heading nonempty read =>
        split at ok
        · simp at ok
        next out parsed =>
          simp only [Except.ok.injEq, Prod.mk.injEq] at ok
          refine ⟨ok.2 ▸ parseFieldLines_carried (fun l member => solid l (List.mem_cons_of_mem _ member)) parsed, ?_⟩
          rw [← ok.1, String.toList_ofList]
          unfold parseH1Title at read
          split at read
          next space text trimmed =>
            split at read
            · simp only [Option.some.injEq] at read
              have tail : '\n' ∉ text := by
                intro member
                exact solid first List.mem_cons_self (mem_of_mem_trim (trimmed ▸ by simp [member]))
              exact read ▸ inline_trim (fun none => nonempty (by rw [← read, none])) tail
            · simp at read
          · simp at read

/-! ## A field line is never skipped -/

theorem skipUnknownFieldBlock_reaches (before rest : List (List Char)) {line : List Char}
    (field : (parseFieldLine (trim line)).isSome = true) :
    ∃ kept, skipUnknownFieldBlock (before ++ line :: rest) = kept ++ line :: rest := by
  induction before with
  | nil => exact ⟨[], by simp [skipUnknownFieldBlock, field, parseFieldLine_nonempty field]⟩
  | cons first later ih =>
    obtain ⟨kept, same⟩ := ih
    simp only [List.cons_append, skipUnknownFieldBlock]
    split
    · exact ⟨kept, same⟩
    · split
      · exact ⟨first :: later, rfl⟩
      · exact ⟨kept, same⟩

theorem skipBlankScalarBlock_reaches {sourceName label : String} (before rest remaining : List (List Char))
    {line : List Char} (field : (parseFieldLine (trim line)).isSome = true)
    (ok : skipBlankScalarBlock sourceName label (before ++ line :: rest) = .ok remaining) :
    ∃ kept, remaining = kept ++ line :: rest := by
  induction before with
  | nil =>
    simp only [List.nil_append, skipBlankScalarBlock, parseFieldLine_nonempty field, field, ↓reduceIte] at ok
    exact ⟨[], (Except.ok.inj ok).symm⟩
  | cons first later ih =>
    simp only [List.cons_append, skipBlankScalarBlock] at ok
    split at ok
    · exact ih ok
    · split at ok
      · exact ⟨first :: later, (Except.ok.inj ok).symm⟩
      · split at ok
        · cases ok
        · exact ⟨first :: later, (Except.ok.inj ok).symm⟩

theorem collectListItems_reaches {sourceName label : String} {acc items : List String}
    (before rest remaining : List (List Char)) {line : List Char}
    (field : (parseFieldLine (trim line)).isSome = true)
    (ok : collectListItems sourceName label acc (before ++ line :: rest) = .ok (items, remaining)) :
    ∃ kept, remaining = kept ++ line :: rest := by
  induction before generalizing acc with
  | nil =>
    simp only [List.nil_append, collectListItems, parseFieldLine_nonempty field, field, ↓reduceIte] at ok
    exact ⟨[], (Prod.mk.inj (Except.ok.inj ok)).2.symm⟩
  | cons first later ih =>
    simp only [List.cons_append, collectListItems] at ok
    split at ok
    · split at ok
      · exact ⟨later, (Prod.mk.inj (Except.ok.inj ok)).2.symm⟩
      · exact ih ok
    · split at ok
      · exact ⟨first :: later, (Prod.mk.inj (Except.ok.inj ok)).2.symm⟩
      · split at ok
        · cases ok
        · exact ih ok

/-- What was read for a field stays. -/
theorem parseFieldLines_keeps {sourceName : String} {ls : List (List Char)} {fields out : ParsedFields}
    {f : FieldName} {value : String} (oneLine : ∀ line ∈ ls, '\n' ∉ line) (held : fields.scalars f = some value)
    (ok : parseFieldLines sourceName ls fields = .ok out) : out.scalars f = some value := by
  refine parseFieldLines_preserves (fun g => g.scalars f = some value) ls fields out oneLine ?_ ?_ held ok
  · intro g h v _ fresh found
    have other : f ≠ h := by
      rintro rfl
      simp [ParsedFields.contains, found] at fresh
    simpa [ParsedFields.insertScalar, other] using found
  · exact fun g h items _ _ found => found

/-- Whatever lines come before it, a scalar line of a document that reads decides its field. -/
theorem parseFieldLines_reaches {sourceName : String} {f : FieldName} {line v : List Char}
    {ls before rest : List (List Char)} {fields out : ParsedFields} (oneLine : ∀ l ∈ ls, '\n' ∉ l)
    (same : ls = before ++ line :: rest) (field : parseFieldLine (trim line) = some (f.label.toList, v))
    (nonempty : v ≠ []) (isScalar : f.kind = .scalar)
    (ok : parseFieldLines sourceName ls fields = .ok out) : out.scalars f = some (String.ofList v) := by
  have found : (parseFieldLine (trim line)).isSome = true := by simp [field]
  -- The line itself is the first one, or the induction hypothesis meets it further down.
  fun_induction parseFieldLines sourceName ls fields generalizing before with
  | case1 => simp at same
  | case2 fields first tail stripped blank =>
    rename_i ih
    have later : ∀ l ∈ tail, '\n' ∉ l := fun l member => oneLine l (List.mem_cons_of_mem _ member)
    cases before with
    | nil =>
      obtain ⟨rfl, rfl⟩ := List.cons.inj same
      exact absurd blank (parseFieldLine_nonempty found)
    | cons b before => exact ih later (List.cons.inj same).2 ok
  | case3 fields first tail stripped solid read =>
    rename_i ih
    have later : ∀ l ∈ tail, '\n' ∉ l := fun l member => oneLine l (List.mem_cons_of_mem _ member)
    cases before with
    | nil =>
      obtain ⟨rfl, rfl⟩ := List.cons.inj same
      simp [stripped, field] at read
    | cons b before => exact ih later (List.cons.inj same).2 ok
  | case4 fields first tail stripped solid label value read unknown =>
    rename_i ih
    have later : ∀ l ∈ skipUnknownFieldBlock tail, '\n' ∉ l := fun l member =>
      oneLine l (List.mem_cons_of_mem _ ((skipUnknownFieldBlock_suffix tail).subset member))
    cases before with
    | nil =>
      obtain ⟨rfl, rfl⟩ := List.cons.inj same
      rw [show parseFieldLine stripped = _ from field] at read
      simp only [Option.some.injEq, Prod.mk.injEq] at read
      simp [← read.1] at unknown
    | cons b before =>
      have shorter : tail = before ++ line :: rest := (List.cons.inj same).2
      obtain ⟨kept, rest'⟩ := skipUnknownFieldBlock_reaches before rest found
      rw [← shorter] at rest'
      exact ih later rest' ok
  | case5 => cases ok
  | case6 fields first tail stripped solid label value read g known fresh inline isList =>
    rename_i ih
    have later : ∀ l ∈ tail, '\n' ∉ l := fun l member => oneLine l (List.mem_cons_of_mem _ member)
    cases before with
    | nil =>
      obtain ⟨rfl, rfl⟩ := List.cons.inj same
      rw [show parseFieldLine stripped = _ from field] at read
      simp only [Option.some.injEq, Prod.mk.injEq] at read
      rw [← read.1, fieldSpecByLabel_label, Option.some.injEq] at known
      simp [← known, isScalar] at isList
    | cons b before => exact ih later (List.cons.inj same).2 ok
  | case7 fields first tail stripped solid label value read g known fresh inline scalar =>
    rename_i ih
    have later : ∀ l ∈ tail, '\n' ∉ l := fun l member => oneLine l (List.mem_cons_of_mem _ member)
    cases before with
    | nil =>
      obtain ⟨rfl, rfl⟩ := List.cons.inj same
      rw [show parseFieldLine stripped = _ from field] at read
      simp only [Option.some.injEq, Prod.mk.injEq] at read
      rw [← read.1, fieldSpecByLabel_label, Option.some.injEq] at known
      refine parseFieldLines_keeps later ?_ ok
      simp [ParsedFields.insertScalar, known, read.2]
    | cons b before => exact ih later (List.cons.inj same).2 ok
  | case8 => cases ok
  | case9 fields first tail stripped solid label value read g known fresh empty scalar remaining skipped =>
    rename_i ih
    have later : ∀ l ∈ remaining, '\n' ∉ l := fun l member =>
      oneLine l (List.mem_cons_of_mem _ ((skipBlankScalarBlock_suffix skipped).subset member))
    cases before with
    | nil =>
      obtain ⟨rfl, rfl⟩ := List.cons.inj same
      rw [show parseFieldLine stripped = _ from field] at read
      simp only [Option.some.injEq, Prod.mk.injEq] at read
      exact absurd (read.2 ▸ nonempty) empty
    | cons b before =>
      have shorter : tail = before ++ line :: rest := (List.cons.inj same).2
      rw [shorter] at skipped
      obtain ⟨kept, rest'⟩ := skipBlankScalarBlock_reaches before rest remaining found skipped
      exact ih later rest' ok
  | case10 => cases ok
  | case11 fields first tail stripped solid label value read g known fresh empty isList items remaining collected =>
    rename_i ih
    have later : ∀ l ∈ remaining, '\n' ∉ l := fun l member =>
      oneLine l (List.mem_cons_of_mem _ ((collectListItems_suffix collected).subset member))
    cases before with
    | nil =>
      obtain ⟨rfl, rfl⟩ := List.cons.inj same
      rw [show parseFieldLine stripped = _ from field] at read
      simp only [Option.some.injEq, Prod.mk.injEq] at read
      exact absurd (read.2 ▸ nonempty) empty
    | cons b before =>
      have shorter : tail = before ++ line :: rest := (List.cons.inj same).2
      rw [shorter] at collected
      obtain ⟨kept, rest'⟩ := collectListItems_reaches before rest remaining found collected
      exact ih later rest' ok

/-- A document with a scalar line, wherever it stands after the first, holds that scalar or does not read. -/
theorem parseMarkdownFields_reaches {raw sourceName title : String} {fields : ParsedFields} {f : FieldName}
    {first line v : List Char} {before rest : List (List Char)}
    (split : lines raw.toList = first :: (before ++ line :: rest))
    (field : parseFieldLine (trim line) = some (f.label.toList, v)) (nonempty : v ≠ [])
    (isScalar : f.kind = .scalar) (ok : parseMarkdownFields raw sourceName = .ok (title, fields)) :
    fields.scalars f = some (String.ofList v) := by
  have solid := newline_not_mem_lines raw.toList
  rw [split] at solid
  have later : ∀ l ∈ before ++ line :: rest, '\n' ∉ l := fun l member => solid l (List.mem_cons_of_mem _ member)
  unfold parseMarkdownFields at ok
  rw [split] at ok
  simp only [parseMarkdownLines] at ok
  repeat' split at ok
  all_goals try cases ok
  exact parseFieldLines_reaches later rfl field nonempty isScalar ‹_›

/-- The first entry of a rendered document starts a line of its own, whatever lines the title brings along. -/
theorem lines_renderEntries (title : String) (f : FieldName) {value : String} (entries : List Entry)
    (inline : Inline value.toList) : ∃ first before rest,
      lines (renderEntries title (.scalar f value :: entries)).toList =
        first :: (before ++ (f.label.toList ++ ':' :: ' ' :: value.toList) :: rest) := by
  have oneLine : '\n' ∉ f.label.toList ++ ':' :: ' ' :: value.toList := by
    have absent := not_mem_label f '\n' (by decide) (by decide)
    simp [absent, inline.oneLine]
  have trimmed : Trimmed (f.label.toList ++ ':' :: ' ' :: value.toList) :=
    (trim_eq_self_iff _).mp (trim_scalarLine f inline)
  have text : (renderEntries title (.scalar f value :: entries)).toList =
      ('#' :: ' ' :: title.toList ++ ['\n']) ++ '\n' :: ((f.label.toList ++ ':' :: ' ' :: value.toList) ++
        '\n' :: unlines (entries.flatMap Entry.lines)) := by
    simp [renderEntries, finishLines, headingLines, unlines, Entry.lines]
  rw [text, lines_append, lines_append_newline _ _ oneLine, stripCarriageReturn_of_trimmed trimmed]
  have heading : lines ('#' :: ' ' :: title.toList ++ ['\n'] ++ ['\n']) =
      lines ('#' :: ' ' :: title.toList ++ ['\n']) ++ lines ['\n'] := by
    simpa using lines_append ('#' :: ' ' :: title.toList) ['\n']
  have blank : lines ['\n'] = [[]] := by decide
  rw [heading, blank]
  cases opening : lines ('#' :: ' ' :: title.toList ++ ['\n']) with
  | nil => exact ⟨[], [], lines (unlines (entries.flatMap Entry.lines)), by simp⟩
  | cons first before =>
    exact ⟨first, before ++ [[]], lines (unlines (entries.flatMap Entry.lines)), by simp⟩

theorem parseMarkdownFields_firstScalar {title headingTitle sourceName : String} {fields : ParsedFields}
    (f : FieldName) {value : String} {entries : List Entry} (inline : Inline value.toList)
    (isScalar : f.kind = .scalar)
    (ok : parseMarkdownFields (renderEntries title (.scalar f value :: entries)) sourceName =
      .ok (headingTitle, fields)) : fields.scalars f = some value := by
  obtain ⟨first, before, rest, split⟩ := lines_renderEntries title f entries inline
  have field : parseFieldLine (trim (f.label.toList ++ ':' :: ' ' :: value.toList)) =
      some (f.label.toList, value.toList) := by
    rw [trim_scalarLine f inline, parseFieldLine_scalar f inline]
  simpa using parseMarkdownFields_reaches split field inline.nonempty isScalar ok

end Millrace.WorkDocuments
