import LintCorpus.Proofs.ExportFixes.Reading

/-!
Reading a document that holds notices gives one exported diagnostic for each of them, in order, and
it tells what the notice says (`read_of_holds`).  The fields of a message that stand beside those of
the diagnostic are kept first and put together at its end.
-/

namespace LintCorpus.ExportFixes

open Yaml

variable {doc : Document} {path : Path} {node : Node} {notice : Notice} {notices : List Notice}

/-- What a notice gives for a field of its message. -/
def Notice.value (notice : Notice) : MessageKey → Value
  | .message => .text notice.message
  | .path => .text notice.path
  | .offset => .nat notice.offset

/-- A kept field is one of the message, with the value of the notice, or another one. -/
inductive KeptForm (notice : Notice) : Option MessageKey → String × Content → Prop where
  | field (key : MessageKey) :
      KeptForm notice (some key) (key.name, .scalar (notice.value key))
  | other {text : String} {content : Content} (htext : ∀ key : MessageKey, text ≠ key.name) :
      KeptForm notice none (text, content)

theorem keeps_takeField :
    Keeps (KeptForm notice) (fun seen fields => fields = notice.messageFields seen) takeField := by
  rintro seen _ _ _ rfl hentry hnew
  refine ⟨_, ?_, rfl⟩
  cases hentry with
  | field key =>
      have hnew : key ∉ seen := hnew key rfl
      cases key <;>
        simp [takeField, MessageKey.name, Notice.value, textOf, offsetOf, Notice.messageFields,
          hnew]
  | other htext =>
      have hmessage := htext .message
      have hpath := htext .path
      have hoffset := htext .offset
      simp only [MessageKey.name] at hmessage hpath hoffset
      simp [takeField]

/-- The node of a field of the message can be kept, and what is kept is the value of the notice. -/
theorem readContent_of_fillsMessage {depth : Nat} {key : MessageKey}
    (hoffset : notice.offset ≤ Text.maxOffset) (hnode : notice.FillsMessage key node) :
    readContent doc depth path node = pure (.scalar (notice.value key)) := by
  cases key with
  | message =>
      obtain ⟨properties, style, rfl, htag, hvalue⟩ := hnode
      exact readContent_scalar htag hvalue trivial
  | path =>
      obtain ⟨properties, style, rfl, htag, hvalue⟩ := hnode
      exact readContent_scalar htag hvalue trivial
  | offset =>
      obtain ⟨properties, text, rfl, htag, hvalue⟩ := hnode
      exact readContent_scalar htag hvalue hoffset

/-- The field of the message that stands beside those of the diagnostic. -/
def DiagnosticKey.inline? : DiagnosticKey → Option MessageKey
  | .inline key => some key
  | _ => none

/-- What is known of the fields of a diagnostic when these were seen. -/
structure Notice.Known (notice : Notice) (seen : List DiagnosticKey) (fields : DiagnosticFields) :
    Prop where
  name : fields.name = if .check ∈ seen then some notice.check else none
  level_none : .level ∉ seen → fields.level = none
  level_some : .level ∈ seen → ∃ level, fields.level = some (some level) ∧
    Text.lowercaseAscii level.toList = notice.severity.name.toList
  nested : fields.nested = if .nested ∈ seen then some (some notice.content) else none
  kept : ∃ given, List.Forall₂ (KeptForm notice) given fields.kept ∧
    given.reduceOption = seen.filterMap DiagnosticKey.inline?

namespace Notice.Known

variable {seen : List DiagnosticKey} {fields : DiagnosticFields}

theorem nil : notice.Known [] ⟨none, none, none, []⟩ where
  name := rfl
  level_none := fun _ => rfl
  level_some := fun hlevel => absurd hlevel List.not_mem_nil
  nested := rfl
  kept := ⟨[], .nil, rfl⟩

theorem see_check (hknown : notice.Known seen fields) :
    notice.Known (seen ++ [.check]) { fields with name := some notice.check } where
  name := by simp
  level_none := by simpa using hknown.level_none
  level_some := by simpa using hknown.level_some
  nested := by simpa using hknown.nested
  kept := by simpa [List.filterMap_cons, DiagnosticKey.inline?] using hknown.kept

theorem see_level {level : String} (hknown : notice.Known seen fields)
    (hlevel : Text.lowercaseAscii level.toList = notice.severity.name.toList) :
    notice.Known (seen ++ [.level]) { fields with level := some (some level) } where
  name := by simpa using hknown.name
  level_none := by simp
  level_some := fun _ => ⟨level, rfl, hlevel⟩
  nested := by simpa using hknown.nested
  kept := by simpa [List.filterMap_cons, DiagnosticKey.inline?] using hknown.kept

theorem see_nested (hknown : notice.Known seen fields) :
    notice.Known (seen ++ [.nested]) { fields with nested := some (some notice.content) } where
  name := by simpa using hknown.name
  level_none := by simpa using hknown.level_none
  level_some := by simpa using hknown.level_some
  nested := by simp
  kept := by simpa [List.filterMap_cons, DiagnosticKey.inline?] using hknown.kept

theorem keep {field : Option MessageKey} {entry : String × Content}
    (hknown : notice.Known seen fields) (hentry : KeptForm notice field entry) :
    notice.Known (seen ++ (field.map .inline).toList)
      { fields with kept := fields.kept ++ [entry] } where
  name := by cases field <;> simpa using hknown.name
  level_none := by cases field <;> simpa using hknown.level_none
  level_some := by cases field <;> simpa using hknown.level_some
  nested := by cases field <;> simpa using hknown.nested
  kept := by
    obtain ⟨given, hkept, hgiven⟩ := hknown.kept
    refine ⟨given ++ [field], List.rel_append hkept (.cons hentry .nil), ?_⟩
    rw [List.reduceOption_append, hgiven, List.filterMap_append]
    cases field <;> rfl

end Notice.Known

theorem readOptional_message (hoffset : notice.offset ≤ Text.maxOffset)
    (hnode : MappingForm (MessageEntry notice) MessageKey.all node) :
    readOptional doc (readMessage doc path) node = pure (some notice.content) := by
  have hread := @readMessage_eq_pure doc path node notice hoffset hnode
  obtain ⟨properties, entries, rfl, -⟩ := hnode
  simp [readOptional, resolve, hread]

theorem keeps_readDiagnosticEntry (hoffset : notice.offset ≤ Text.maxOffset) :
    Keeps (DiagnosticEntry notice) notice.Known (readDiagnosticEntry doc path) := by
  rintro seen fields _ _ hknown hentry hnew
  cases hentry with
  | @field field key value hkey hvalue =>
      have hnew : field ∉ seen := hnew field rfl
      unfold readDiagnosticEntry
      rw [readKey, readText_of_isKey hkey, pure_bind]
      cases field with
      | check =>
          have hname : fields.name = none := by
            rw [hknown.name, if_neg hnew]
          refine ⟨_, ?_, hknown.see_check⟩
          simp [DiagnosticKey.name, hname, readText_of_isKey hvalue.isKey]
      | level =>
          obtain ⟨level, htext, hlevel⟩ := hvalue
          refine ⟨_, ?_, hknown.see_level hlevel⟩
          simp [DiagnosticKey.name, hknown.level_none hnew, readOptional_text htext]
      | nested =>
          have hnested : fields.nested = none := by
            rw [hknown.nested, if_neg hnew]
          refine ⟨_, ?_, hknown.see_nested⟩
          simp [DiagnosticKey.name, hnested, readOptional_message hoffset hvalue]
      | inline field =>
          have hcontent : ∀ path, readContent doc keptDepth path value =
              pure (.scalar (notice.value field)) :=
            fun path => readContent_of_fillsMessage hoffset hvalue
          refine ⟨_, ?_, hknown.keep (.field field)⟩
          cases field <;> simp [DiagnosticKey.name, MessageKey.name, hcontent]
  | @other text key value hkey htext hvalue =>
      have hcheck : text ≠ "DiagnosticName" := htext .check
      have hlevel : text ≠ "Level" := htext .level
      have hnested : text ≠ "DiagnosticMessage" := htext .nested
      have hother : ∀ field : MessageKey, text ≠ field.name := fun field => htext (.inline field)
      obtain ⟨content, hcontent⟩ := readContent_of_keepable hvalue doc (valuePath path key)
      have hkept : KeptForm notice none (text, content) := .other hother
      unfold readDiagnosticEntry
      rw [readKey, readText_of_isKey hkey, pure_bind]
      refine ⟨_, ?_, hknown.keep hkept⟩
      simp [hcontent]

/-- The exported diagnostic tells what the notice says. -/
structure Tells (exported : ExportedDiagnostic) (notice : Notice) : Prop where
  name : exported.name = notice.check
  level : ∃ level, exported.level = some level ∧
    Text.lowercaseAscii level.toList = notice.severity.name.toList
  content : exported.content = notice.content

theorem Notice.Known.done {seen : List DiagnosticKey} {fields : DiagnosticFields}
    (hknown : notice.Known seen fields)
    (hseen : seen.Perm nestedLayout ∨ seen.Perm inlineLayout) :
    ∃ exported, fields.done = pure exported ∧ Tells exported notice := by
  have hcheck : .check ∈ seen := by
    rcases hseen with hseen | hseen <;> simp [hseen.mem_iff, nestedLayout, inlineLayout]
  have hlevel : .level ∈ seen := by
    rcases hseen with hseen | hseen <;> simp [hseen.mem_iff, nestedLayout, inlineLayout]
  have hname : fields.name = some notice.check := by
    rw [hknown.name, if_pos hcheck]
  obtain ⟨level, hlevel, hlower⟩ := hknown.level_some hlevel
  obtain ⟨given, hkept, hgiven⟩ := hknown.kept
  have hnone : MessageFields.none = notice.messageFields [] := rfl
  have hnodup : ([] ++ given.reduceOption).Nodup := by
    rw [List.nil_append, hgiven]
    rcases hseen with hseen | hseen
    · exact (hseen.filterMap _).nodup_iff.mpr (by decide)
    · exact (hseen.filterMap _).nodup_iff.mpr (by decide)
  obtain ⟨inline, hinline, rfl⟩ := keeps_takeField.foldlM_eq_pure hkept hnodup hnone
  have hdone : fields.done = pure ⟨notice.check, some level, fields.nested.join,
      (notice.messageFields ([] ++ given.reduceOption)).done⟩ := by
    simp [DiagnosticFields.done, hname, hlevel, hinline]
  refine ⟨_, hdone, rfl, ⟨level, rfl, hlower⟩, ?_⟩
  rcases hseen with hseen | hseen
  · have hnested : fields.nested = some (some notice.content) := by
      rw [hknown.nested, if_pos (by simp [hseen.mem_iff, nestedLayout])]
    simp [ExportedDiagnostic.content, hnested]
  · have hnested : fields.nested = none := by
      rw [hknown.nested, if_neg (by simp [hseen.mem_iff, inlineLayout])]
    have hall : given.reduceOption.Perm MessageKey.all := hgiven ▸ hseen.filterMap _
    simp [ExportedDiagnostic.content, hnested, notice.done_messageFields hall]

theorem readDiagnostic_of_form (hoffset : notice.offset ≤ Text.maxOffset)
    (hnode : DiagnosticForm notice node) :
    ∃ exported, readDiagnostic doc path node = pure exported ∧ Tells exported notice := by
  have hlayout : ∃ layout, (layout = nestedLayout ∨ layout = inlineLayout) ∧
      MappingForm (DiagnosticEntry notice) layout node := by
    rcases hnode with hnode | hnode
    · exact ⟨_, .inl rfl, hnode⟩
    · exact ⟨_, .inr rfl, hnode⟩
  obtain ⟨layout, hlayout, properties, entries, rfl, hgives⟩ := hlayout
  have hnodup : layout.Nodup := by
    rcases hlayout with rfl | rfl <;> decide
  have hkeeps := @keeps_readDiagnosticEntry doc path notice hoffset
  obtain ⟨seen, fields, hseen, hread, hknown⟩ :=
    hkeeps.foldlM_of_gives hgives hnodup Notice.Known.nil
  have hperm : seen.Perm nestedLayout ∨ seen.Perm inlineLayout := by
    rcases hlayout with rfl | rfl
    · exact .inl hseen
    · exact .inr hseen
  obtain ⟨exported, hdone, htells⟩ := hknown.done hperm
  refine ⟨exported, ?_, htells⟩
  simp [readDiagnostic, resolve, hread, checkClosed, hdone, located_pure]

theorem readDiagnosticsFrom_of_forms (hoffsets : ∀ notice ∈ notices, notice.offset ≤ Text.maxOffset)
    {items : List Node} (hitems : List.Forall₂ DiagnosticForm notices items) (index : Nat) :
    ∃ exported, readDiagnosticsFrom doc path index items = pure exported ∧
      List.Forall₂ Tells exported notices := by
  induction hitems generalizing index with
  | nil => exact ⟨[], rfl, .nil⟩
  | @cons notice item notices items hitem hitems ih =>
      obtain ⟨hoffset, hoffsets⟩ := List.forall_mem_cons.mp hoffsets
      obtain ⟨first, hfirst, htells⟩ :=
        @readDiagnostic_of_form doc (.item index :: path) item notice hoffset hitem
      obtain ⟨rest, hrest, hall⟩ := ih hoffsets (index + 1)
      refine ⟨first :: rest, ?_, .cons htells hall⟩
      rw [readDiagnosticsFrom, hfirst, hrest]
      rfl

theorem readDiagnostics_of_form (hoffsets : ∀ notice ∈ notices, notice.offset ≤ Text.maxOffset)
    (hnode : SequenceForm notices node) :
    ∃ exported, readDiagnostics doc path node = pure exported ∧
      List.Forall₂ Tells exported notices := by
  obtain ⟨properties, items, rfl, hitems⟩ := hnode
  obtain ⟨exported, hread, htells⟩ :=
    @readDiagnosticsFrom_of_forms doc path notices hoffsets items hitems 0
  refine ⟨exported, ?_, htells⟩
  simp [readDiagnostics, resolve, hread, checkClosed]

/-- What is known of the diagnostics of a document when these fields were seen. -/
def RootKnown (notices : List Notice) (seen : List Unit)
    (found : Option (List ExportedDiagnostic)) : Prop :=
  (seen = [] → found = none) ∧
    (seen ≠ [] → ∃ exported, found = some exported ∧ List.Forall₂ Tells exported notices)

theorem keeps_readRootEntry (hoffsets : ∀ notice ∈ notices, notice.offset ≤ Text.maxOffset) :
    Keeps (RootEntry notices) (RootKnown notices) (readRootEntry doc) := by
  rintro seen found _ _ hknown hentry hnew
  cases hentry with
  | @field field key value hkey hvalue =>
      have hnil : seen = [] := List.eq_nil_iff_forall_not_mem.mpr fun _ => hnew () rfl
      obtain ⟨exported, hread, htells⟩ :=
        @readDiagnostics_of_form doc (valuePath [] key) value notices hoffsets hvalue
      unfold readRootEntry
      rw [readKey, readText_of_isKey hkey, pure_bind]
      refine ⟨some exported, ?_, ?_, fun _ => ⟨exported, rfl, htells⟩⟩
      · simp [hknown.1 hnil, hread]
      · simp
  | @other text key value hkey htext hvalue =>
      have htext : text ≠ "Diagnostics" := htext ()
      unfold readRootEntry
      rw [readKey, readText_of_isKey hkey, pure_bind]
      refine ⟨found, ?_, ?_⟩
      · simp [ignore, hvalue]
      · simpa using hknown

/-- A document that holds notices reads as exported diagnostics that tell them, in order. -/
theorem read_of_holds {text : String} (hdoc : Holds (Document.ofText text.toList) notices)
    (hoffsets : ∀ notice ∈ notices, notice.offset ≤ Text.maxOffset) :
    ∃ exported, read text = .ok exported ∧ List.Forall₂ Tells exported notices := by
  obtain ⟨hfault, hsingle, node, hroot, properties, entries, rfl, hgives⟩ := hdoc
  have hkeeps := @keeps_readRootEntry (Document.ofText text.toList) notices hoffsets
  have hstart : RootKnown notices [] none := ⟨fun _ => rfl, fun hne => absurd rfl hne⟩
  obtain ⟨seen, found, hseen, hread, hknown⟩ :=
    hkeeps.foldlM_of_gives hgives (by decide) hstart
  have hne : seen ≠ [] := by
    rintro rfl
    exact absurd hseen.length_eq (by simp)
  obtain ⟨exported, rfl, htells⟩ := hknown.2 hne
  have hreadRoot : readRoot (Document.ofText text.toList) = pure exported := by
    simp [readRoot, hroot, resolve, hread, checkClosed, located_pure]
  refine ⟨exported, ?_, htells⟩
  simp only [read, hreadRoot, hfault, hsingle]
  rfl

end LintCorpus.ExportFixes
