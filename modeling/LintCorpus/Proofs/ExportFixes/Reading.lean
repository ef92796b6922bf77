import LintCorpus.Proofs.ExportFixes.Document

/-!
Reading a document of exported fixes that holds notices.
-/

namespace LintCorpus.ExportFixes

open Yaml

variable {doc : Document} {path : Path} {node : Node}

theorem boundedNumeral?_of_le {base n wide narrow : Nat} {cs : List Char} (hn : n ≤ narrow)
    (hwide : Text.boundedNumeral? base wide cs = some n) :
    Text.boundedNumeral? base narrow cs = some n := by
  rw [Text.boundedNumeral?, Option.filter_eq_some_iff] at hwide ⊢
  exact ⟨hwide.1, decide_eq_true hn⟩

theorem magnitude?_of_le {n wide narrow : Nat} {cs : List Char} (hn : n ≤ narrow)
    (hwide : magnitude? wide cs = some n) : magnitude? narrow cs = some n := by
  unfold magnitude? at hwide ⊢
  split at hwide
  · exact boundedNumeral?_of_le hn hwide
  · exact boundedNumeral?_of_le hn hwide
  · exact boundedNumeral?_of_le hn hwide
  · simp only [Option.ite_none_left_eq_some] at hwide ⊢
    exact ⟨hwide.1, boundedNumeral?_of_le hn hwide.2⟩

/-- A number that is read within one bound is read within every bound that it keeps. -/
theorem natOf?_of_le {n wide narrow : Nat} {cs : List Char} (hn : n ≤ narrow)
    (hwide : natOf? wide cs = some n) : natOf? narrow cs = some n := by
  unfold natOf? at hwide ⊢
  split at hwide
  · exact magnitude?_of_le hn hwide
  · exact magnitude?_of_le hn hwide

theorem natOf?_of_integerOf? {n : Nat} {cs : List Char} (hn : n ≤ Text.maxOffset)
    (hinteger : integerOf? cs = some (.nat n)) : natOf? Text.maxOffset cs = some n := by
  simp only [integerOf?, Option.or_eq_some_iff, Option.map_eq_some_iff, Value.nat.injEq,
    reduceCtorEq, and_false, exists_false, or_false, exists_eq_right] at hinteger
  rcases hinteger with hnarrow | ⟨-, hwide⟩
  · exact hnarrow
  · exact natOf?_of_le hn hwide

theorem integerOf?_of_ofPlain {n : Nat} {s : String} (hvalue : Value.ofPlain s = .nat n) :
    integerOf? s.toList = some (.nat n) := by
  unfold Value.ofPlain at hvalue
  split at hvalue
  · contradiction
  · split at hvalue
    · contradiction
    · split at hvalue
      · rename_i value hinteger
        rw [hinteger, hvalue]
      · split at hvalue
        · contradiction
        · split at hvalue <;> contradiction

theorem integerOf?_of_ofScalar {n : Nat} {s : String} {tag : Option Tag}
    (hvalue : Value.ofScalar tag s .plain = .ok (.nat n)) :
    integerOf? s.toList = some (.nat n) := by
  cases tag with
  | none => exact integerOf?_of_ofPlain (by simpa [Value.ofScalar] using hvalue)
  | some tag =>
      simp only [Value.ofScalar, Value.ofTagged] at hvalue
      split at hvalue
      · split at hvalue <;> simp at hvalue
      split at hvalue
      · split at hvalue
        · rename_i value hinteger
          rw [hinteger, Except.ok.inj hvalue]
        · simp at hvalue
      split at hvalue
      · split at hvalue <;> simp at hvalue
      split at hvalue
      · split at hvalue <;> simp at hvalue
      split at hvalue
      · exact integerOf?_of_ofPlain (Except.ok.inj hvalue)
      · simp at hvalue

theorem readText_of_isKey {expected s : String} (hkey : IsKey node s) :
    readText doc expected path node = pure s := by
  obtain ⟨properties, style, rfl⟩ := hkey
  simp [readText, resolve]

theorem IsText.isKey {s : String} (htext : IsText node s) : IsKey node s := by
  obtain ⟨properties, style, rfl, -, -⟩ := htext
  exact ⟨properties, style, rfl⟩

/-- A scalar that stands for something is not read as nothing. -/
theorem isNothing_of_value {properties : Properties} {s : String} {style : Style} {value : Value}
    (hvalue : Value.ofScalar properties.tag s style = .ok value) (hnull : value ≠ .null) :
    isNothing properties s style = pure false := by
  by_cases hstyle : style = .plain
  · subst hstyle
    cases htag : properties.tag with
    | none =>
        have hplain : Value.ofPlain s = value := by
          simpa [Value.ofScalar, htag] using hvalue
        have hsome : (s.isEmpty || isNullText s) = false := by
          by_contra hempty
          exact hnull (by simp [← hplain, Value.ofPlain, hempty])
        simp [isNothing, htag, hsome]
    | some tag =>
        by_cases hnullTag : tag = nullTag
        · have hother : nullTag ≠ boolTag ∧ nullTag ≠ intTag ∧ nullTag ≠ floatTag := by
            decide +kernel
          rw [htag, hnullTag, Value.ofScalar, Value.ofTagged, if_neg hother.1, if_neg hother.2.1,
            if_neg hother.2.2, if_pos rfl] at hvalue
          split at hvalue
          · exact absurd (Except.ok.inj hvalue).symm hnull
          · contradiction
        · simp [isNothing, htag, hnullTag]
  · simp [isNothing, hstyle]

theorem readOptional_of_value {properties : Properties} {s : String} {style : Style} {value : Value}
    {α : Type} {read : Node → Decode α}
    (hvalue : Value.ofScalar properties.tag s style = .ok value) (hnull : value ≠ .null) :
    readOptional doc read (.scalar properties s style) =
      some <$> read (.scalar properties s style) := by
  simp [readOptional, resolve, isNothing_of_value hvalue hnull]

theorem readOptional_text {expected s : String} (htext : IsText node s) :
    readOptional doc (readText doc expected path) node = pure (some s) := by
  obtain ⟨properties, style, rfl, -, hvalue⟩ := htext
  rw [readOptional_of_value hvalue (by simp), readText_of_isKey ⟨_, _, rfl⟩, map_pure]

theorem readOptional_offset {n : Nat} (hnumber : IsNumber node n) (hn : n ≤ Text.maxOffset) :
    readOptional doc (readOffset doc path) node = pure (some n) := by
  obtain ⟨properties, text, rfl, -, hvalue⟩ := hnumber
  rw [readOptional_of_value hvalue (by simp)]
  simp [readOffset, resolve, natOf?_of_integerOf? hn (integerOf?_of_ofScalar hvalue)]

theorem located_pure {α : Type} (mark : Mark) (a : α) :
    located mark path (pure a) = pure a := by
  rfl

theorem checkSize_of_isSmall {value : Value} (hsmall : IsSmall value) :
    checkSize value = pure () := by
  have hnot : ∀ {n bound : Nat}, n ≤ bound → ¬ bound < n := Nat.not_lt.mpr
  cases value with
  | nat n => simp [checkSize, hnot hsmall]
  | minus n => simp [checkSize, hnot hsmall]
  | _ => simp [checkSize]

theorem checkTag_of_untagged {properties : Properties} (htag : Untagged properties) :
    checkTag properties = pure () := by
  rw [Untagged] at htag
  simp [checkTag, htag]

theorem readContent_scalar {depth : Nat} {properties : Properties} {s : String} {style : Style}
    {value : Value} (htag : Untagged properties)
    (hvalue : Value.ofScalar properties.tag s style = .ok value) (hsmall : IsSmall value) :
    readContent doc depth path (.scalar properties s style) = pure (.scalar value) := by
  rw [readContent]
  simp [resolve, checkTag_of_untagged htag, hvalue, checkSize_of_isSmall hsmall, located_pure]

theorem readItems_eq_pure {depth index : Nat} {items : List Node}
    (hitems : ∀ item ∈ items, ∀ path, ∃ content, readContent doc depth path item = pure content) :
    readItems doc depth path index items = pure () := by
  induction items generalizing index with
  | nil => rw [readItems]
  | cons item items ih =>
      obtain ⟨hitem, hitems⟩ := List.forall_mem_cons.mp hitems
      obtain ⟨content, hcontent⟩ := hitem (.item index :: path)
      rw [readItems, hcontent, ih hitems]
      rfl

theorem readEntries_eq_pure {depth : Nat} {entries : List (Node × Node)}
    (hkeys : ∀ entry ∈ entries, ∀ path, ∃ content,
      readContent doc depth path entry.1 = pure content)
    (hvalues : ∀ entry ∈ entries, ∀ path, ∃ content,
      readContent doc depth path entry.2 = pure content) :
    readEntries doc depth path entries = pure () := by
  induction entries with
  | nil => rw [readEntries]
  | cons entry entries ih =>
      obtain ⟨hkey, hkeys⟩ := List.forall_mem_cons.mp hkeys
      obtain ⟨hvalue, hvalues⟩ := List.forall_mem_cons.mp hvalues
      obtain ⟨keyContent, hkey⟩ := hkey path
      obtain ⟨content, hvalue⟩ := hvalue (valuePath path entry.1)
      rw [readEntries, hkey, hvalue, ih hkeys hvalues]
      rfl

theorem readContent_of_keepable {depth : Nat} (hkeepable : Keepable depth node) (doc : Document)
    (path : Path) :
    ∃ content, readContent doc depth path node = pure content := by
  induction hkeepable generalizing path with
  | scalar htag hvalue hsmall => exact ⟨_, readContent_scalar htag hvalue hsmall⟩
  | sequence htag hitems ih =>
      refine ⟨.sequence, ?_⟩
      rw [readContent]
      simp [resolve, checkTag_of_untagged htag, readItems_eq_pure ih, checkClosed, located_pure]
  | mapping htag hkeys hvalues ihKeys ihValues =>
      refine ⟨.mapping, ?_⟩
      rw [readContent]
      simp [resolve, checkTag_of_untagged htag, readEntries_eq_pure ihKeys ihValues, checkClosed,
        located_pure]

/-- A step over an entry that gives a new field succeeds and keeps what is known of the state, which
is told by the fields that were seen. -/
def Keeps {κ ε σ : Type} (form : Option κ → ε → Prop) (known : List κ → σ → Prop)
    (step : σ → ε → Decode σ) : Prop :=
  ∀ seen state field entry, known seen state → form field entry → (∀ key ∈ field, key ∉ seen) →
    ∃ next, step state entry = pure next ∧ known (seen ++ field.toList) next

namespace Keeps

variable {κ ε σ : Type} {form : Option κ → ε → Prop} {known : List κ → σ → Prop}
  {step : σ → ε → Decode σ}

theorem foldlM_eq_pure (hkeeps : Keeps form known step) {given : List (Option κ)}
    {entries : List ε} (hform : List.Forall₂ form given entries) {seen : List κ}
    (hnodup : (seen ++ given.reduceOption).Nodup) {state : σ} (hstate : known seen state) :
    ∃ last, entries.foldlM step state = pure last ∧ known (seen ++ given.reduceOption) last := by
  induction hform generalizing seen state with
  | nil => exact ⟨state, rfl, by simpa using hstate⟩
  | @cons field entry given entries hentry hform ih =>
      have hsplit : seen ++ (field :: given).reduceOption =
          (seen ++ field.toList) ++ given.reduceOption := by
        cases field <;> simp [List.reduceOption_cons_of_none, List.reduceOption_cons_of_some]
      rw [hsplit] at hnodup ⊢
      have hnew : ∀ key ∈ field, key ∉ seen := by
        intro key hkey hseen
        have hdisjoint := (List.nodup_append.mp (List.nodup_append.mp hnodup).1).2.2
        exact hdisjoint key hseen key (Option.mem_toList.mpr hkey) rfl
      obtain ⟨next, hnext, hstate⟩ := hkeeps seen state field entry hstate hentry hnew
      obtain ⟨last, hlast, hstate⟩ := ih hnodup hstate
      exact ⟨last, by rw [List.foldlM_cons, hnext, pure_bind, hlast], hstate⟩

/-- A pass over entries that give the fields ends with a state that has seen them all. -/
theorem foldlM_of_gives (hkeeps : Keeps form known step) {fields : List κ} {entries : List ε}
    (hgives : Gives form fields entries) (hnodup : fields.Nodup) {state : σ}
    (hstate : known [] state) :
    ∃ seen last, seen.Perm fields ∧ entries.foldlM step state = pure last ∧ known seen last := by
  obtain ⟨given, hform, hperm⟩ := hgives
  have hnodup : ([] ++ given.reduceOption).Nodup := hperm.nodup_iff.mpr hnodup
  obtain ⟨last, hlast, hseen⟩ := hkeeps.foldlM_eq_pure hform hnodup hstate
  exact ⟨given.reduceOption, last, hperm, hlast, hseen⟩

end Keeps

/-- What is read of a message when these fields were seen. -/
def Notice.messageFields (notice : Notice) (seen : List MessageKey) : MessageFields where
  message := if .message ∈ seen then some (some notice.message) else none
  filePath := if .path ∈ seen then some (some notice.path) else none
  fileOffset := if .offset ∈ seen then some (some notice.offset) else none

/-- The message of a notice. -/
def Notice.content (notice : Notice) : ExportedMessage :=
  ⟨some notice.message, some notice.path, some notice.offset⟩

theorem Notice.done_messageFields (notice : Notice) {seen : List MessageKey}
    (hseen : seen.Perm MessageKey.all) : (notice.messageFields seen).done = notice.content := by
  have hall : ∀ key, key ∈ seen := by
    intro key
    rw [hseen.mem_iff]
    cases key <;> decide
  simp [messageFields, hall, MessageFields.done, content]

theorem keeps_readMessageEntry {notice : Notice} (hoffset : notice.offset ≤ Text.maxOffset) :
    Keeps (MessageEntry notice) (fun seen fields => fields = notice.messageFields seen)
      (readMessageEntry doc path) := by
  rintro seen _ _ _ rfl hentry hnew
  refine ⟨_, ?_, rfl⟩
  cases hentry with
  | @field field key value hkey hvalue =>
      have hnew : field ∉ seen := hnew field rfl
      unfold readMessageEntry
      rw [readKey, readText_of_isKey hkey, pure_bind]
      cases field with
      | message =>
          simp [MessageKey.name, Notice.messageFields, hnew, readOptional_text hvalue]
      | path =>
          simp [MessageKey.name, Notice.messageFields, hnew, readOptional_text hvalue]
      | offset =>
          simp [MessageKey.name, Notice.messageFields, hnew, readOptional_offset hvalue hoffset]
  | @other text key value hkey htext hvalue =>
      have hmessage : text ≠ "Message" := htext .message
      have hpath : text ≠ "FilePath" := htext .path
      have hoffset : text ≠ "FileOffset" := htext .offset
      unfold readMessageEntry
      rw [readKey, readText_of_isKey hkey, pure_bind]
      simp [ignore, hvalue]

theorem readMessage_eq_pure {notice : Notice} (hoffset : notice.offset ≤ Text.maxOffset)
    (hnode : MappingForm (MessageEntry notice) MessageKey.all node) :
    readMessage doc path node = pure notice.content := by
  obtain ⟨properties, entries, rfl, hgives⟩ := hnode
  have hkeeps := @keeps_readMessageEntry doc path notice hoffset
  have hnone : MessageFields.none = notice.messageFields [] := rfl
  obtain ⟨seen, _, hseen, hread, rfl⟩ := hkeeps.foldlM_of_gives hgives (by decide) hnone
  simp [readMessage, resolve, hread, checkClosed, notice.done_messageFields hseen, located_pure]

end LintCorpus.ExportFixes
