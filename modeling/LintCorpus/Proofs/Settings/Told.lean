import LintCorpus.Proofs.Json.Grammar
import LintCorpus.Text.Basic
import LintCorpus.Settings

/-!
What the members of an object tell about settings.  An object tells the settings when its keys are
known and do not repeat, each value shows what the settings have under its key, and what has no key
is unset (`Settings.IsToldBy`).  The order of the members does not count, and a `null` is as good as
no member.  A reader meets the members one after the other; `Settings.adds_cons_iff` says what is
left to do behind each of them.
-/

namespace LintCorpus

namespace SettingsKey

theorem mem_all (key : SettingsKey) : key ∈ all := by
  cases key
  all_goals decide

theorem eq_of_name_eq {first second : SettingsKey} (hname : first.name = second.name) :
    first = second := by
  have hall : ∀ first ∈ all, ∀ second ∈ all, first.name = second.name → first = second := by
    decide
  exact hall first (mem_all first) second (mem_all second) hname

theorem ofName?_eq_some_iff {s : String} {key : SettingsKey} :
    ofName? s = some key ↔ key.name = s := by
  rw [ofName?]
  constructor
  · intro hfind
    have hname := List.find?_some hfind
    exact of_decide_eq_true hname
  · rintro rfl
    have hall : ∀ key ∈ all, all.find? (fun other => other.name = key.name) = some key := by
      decide
    exact hall key (mem_all key)

end SettingsKey

namespace Settings

open Json (Value)

/-- What the settings have under one key. -/
inductive Field where
  | text (s : Option String)
  | list (texts : Option (List String))
  | tolerance (n : Option Nat)
  | flag (b : Option Bool)

/-- What the settings have under the key. -/
def field (settings : Settings) : SettingsKey → Field
  | .compiler => .text settings.compiler
  | .standard => .text settings.standard
  | .extraArgs => .list settings.extraArgs
  | .lineTolerance => .tolerance settings.lineTolerance
  | .ignoreChecks => .list settings.ignoreChecks
  | .strict => .flag settings.strict

/-- The value is `null` when there is nothing, and else shows what there is. -/
def ShowsOptional {α : Type} (shows : α → Value → Prop) : Option α → Value → Prop
  | none, value => value = .null
  | some a, value => shows a value

def ShowsText (s : String) (value : Value) : Prop :=
  value = .str s

def ShowsTexts (texts : List String) (value : Value) : Prop :=
  value = .list (texts.map .str)

/-- A tolerance is a word of 32 bits, written by its digits. -/
def ShowsTolerance (n : Nat) (value : Value) : Prop :=
  n ≤ Text.maxPosition ∧ ∃ numeral : Json.Numeral, numeral.IsNatural n ∧ value = .number numeral

def ShowsFlag (b : Bool) (value : Value) : Prop :=
  value = .bool b

def Field.Shows : Field → Value → Prop
  | .text s => ShowsOptional ShowsText s
  | .list texts => ShowsOptional ShowsTexts texts
  | .tolerance n => ShowsOptional ShowsTolerance n
  | .flag b => ShowsOptional ShowsFlag b

/-- The members, in any order, are an object that tells the settings and nothing else. -/
structure IsToldBy (settings : Settings) (members : List (String × Value)) : Prop where
  nodup : (members.map Prod.fst).Nodup
  known : ∀ member ∈ members, ∃ key : SettingsKey, key.name = member.1 ∧
    (settings.field key).Shows member.2
  /-- A key that is left out is as one whose value is `null`. -/
  absent : ∀ key : SettingsKey, key.name ∉ members.map Prod.fst → (settings.field key).Shows .null

/-- The number under the key of the tolerance is written by the digits of a word of 32 bits. -/
theorem IsToldBy.exists_isNatural {settings : Settings} {members : List (String × Value)}
    (htold : settings.IsToldBy members) {numeral : Json.Numeral}
    (hmember : (SettingsKey.lineTolerance.name, .number numeral) ∈ members) :
    ∃ n ≤ Text.maxPosition, numeral.IsNatural n := by
  obtain ⟨key, hname, hshows⟩ := htold.known _ hmember
  obtain rfl : key = .lineTolerance := SettingsKey.eq_of_name_eq hname
  rw [field, Field.Shows] at hshows
  cases htolerance : settings.lineTolerance with
  | none =>
      rw [htolerance] at hshows
      cases hshows
  | some n =>
      rw [htolerance] at hshows
      obtain ⟨hn, written, hnatural, heq⟩ := hshows
      obtain rfl := Value.number.inj heq
      exact ⟨n, hn, hnatural⟩

/-- A text with something else than blanks. -/
def HasInk (s : String) : Prop :=
  ∃ c ∈ s.toList, Text.isBlank c = false

/-- Nothing speaks against the values of the settings. -/
structure Acceptable (settings : Settings) : Prop where
  compiler : ∀ s, settings.compiler = some s → HasInk s
  standard : ∀ s, settings.standard = some s → HasInk s ∧ ¬ "-std=".toList <+: s.toList

theorem isBlankText_eq_false_iff {s : String} : isBlankText s = false ↔ HasInk s := by
  simp [isBlankText, Text.allBlank, HasInk]

theorem isMalformedStandard_eq_false_iff {s : String} :
    isMalformedStandard s = false ↔ HasInk s ∧ ¬ "-std=".toList <+: s.toList := by
  rw [isMalformedStandard, Bool.or_eq_false_iff, isBlankText_eq_false_iff,
    ← List.isPrefixOf_iff_prefix, Bool.not_eq_true]

theorem fault?_eq_none_iff {settings : Settings} :
    settings.fault? = none ↔ settings.Acceptable := by
  have hboth : settings.fault? = none ↔ settings.compiler.any isBlankText = false ∧
      settings.standard.filter isMalformedStandard = none := by
    by_cases hcompiler : settings.compiler.any isBlankText = true
    all_goals simp [fault?, hcompiler]
  rw [hboth, Option.any_eq_false, Option.filter_eq_none_iff]
  simp only [isBlankText_eq_false_iff, Bool.not_eq_true, isMalformedStandard_eq_false_iff]
  constructor
  · intro hboth
    exact ⟨hboth.1, hboth.2⟩
  · intro hacceptable
    exact ⟨hacceptable.compiler, hacceptable.standard⟩

theorem eq_of_field_eq {first second : Settings}
    (hfield : ∀ key, first.field key = second.field key) : first = second := by
  rcases first with ⟨compiler, standard, extraArgs, lineTolerance, ignoreChecks, strict⟩
  rcases second with ⟨_, _, _, _, _, _⟩
  obtain rfl := Field.text.inj (hfield .compiler)
  obtain rfl := Field.text.inj (hfield .standard)
  obtain rfl := Field.list.inj (hfield .extraArgs)
  obtain rfl := Field.tolerance.inj (hfield .lineTolerance)
  obtain rfl := Field.list.inj (hfield .ignoreChecks)
  obtain rfl := Field.flag.inj (hfield .strict)
  rfl

/-- The settings `next` have what the value shows under the key, and are `settings` otherwise. -/
structure Puts (settings : Settings) (key : SettingsKey) (value : Value) (next : Settings) :
    Prop where
  shows : (next.field key).Shows value
  kept : ∀ other ≠ key, next.field other = settings.field other

/-- What `members` make of the settings when the keys in `seen` were there before. -/
structure Adds (settings : Settings) (seen : List SettingsKey) (members : List (String × Value))
    (last : Settings) : Prop where
  nodup : (members.map Prod.fst).Nodup
  known : ∀ member ∈ members, ∃ key : SettingsKey, key ∉ seen ∧ key.name = member.1 ∧
    (last.field key).Shows member.2
  kept : ∀ key : SettingsKey, key.name ∉ members.map Prod.fst →
    last.field key = settings.field key

theorem adds_nil_iff {settings last : Settings} {seen : List SettingsKey} :
    Adds settings seen [] last ↔ last = settings := by
  constructor
  · intro hadds
    exact eq_of_field_eq fun key => hadds.kept key (by simp)
  · rintro rfl
    exact ⟨List.nodup_nil, by simp, fun _ _ => rfl⟩

/-- The settings with what `other` has under the key. -/
def taking (settings other : Settings) : SettingsKey → Settings
  | .compiler => { settings with compiler := other.compiler }
  | .standard => { settings with standard := other.standard }
  | .extraArgs => { settings with extraArgs := other.extraArgs }
  | .lineTolerance => { settings with lineTolerance := other.lineTolerance }
  | .ignoreChecks => { settings with ignoreChecks := other.ignoreChecks }
  | .strict => { settings with strict := other.strict }

theorem field_taking (settings other : Settings) (key : SettingsKey) :
    (settings.taking other key).field key = other.field key := by
  cases key
  all_goals rfl

theorem field_taking_of_ne (settings other : Settings) {key kept : SettingsKey} (hne : kept ≠ key) :
    (settings.taking other key).field kept = settings.field kept := by
  cases key <;> cases kept <;> first | rfl | exact absurd rfl hne

/-- What a member puts is all that it takes from the settings behind it. -/
theorem Puts.taking_eq {settings next : Settings} {key : SettingsKey} {value : Value}
    (hputs : settings.Puts key value next) : settings.taking next key = next := by
  apply eq_of_field_eq
  intro other
  by_cases hne : other = key
  · rw [hne, field_taking]
  · rw [field_taking_of_ne _ _ hne, hputs.kept other hne]

section Cons

variable {settings next last : Settings} {seen : List SettingsKey} {key : SettingsKey}
  {name : String} {value : Value} {members : List (String × Value)}

theorem Adds.not_mem (hadds : Adds settings (key :: seen) members last) :
    key.name ∉ members.map Prod.fst := by
  intro hmem
  obtain ⟨member, hmember, hsame⟩ := List.mem_map.mp hmem
  obtain ⟨other, hother, hname, -⟩ := hadds.known member hmember
  obtain rfl := SettingsKey.eq_of_name_eq (hname.trans hsame)
  exact hother List.mem_cons_self

/-- A member with a new key goes before the members that do not have it. -/
theorem Adds.cons (hseen : key ∉ seen) (hputs : settings.Puts key value next)
    (hadds : Adds next (key :: seen) members last) :
    Adds settings seen ((key.name, value) :: members) last := by
  refine ⟨List.nodup_cons.mpr ⟨hadds.not_mem, hadds.nodup⟩, List.forall_mem_cons.mpr ⟨?_, ?_⟩, ?_⟩
  · refine ⟨key, hseen, rfl, ?_⟩
    rw [hadds.kept key hadds.not_mem]
    exact hputs.shows
  · intro member hmember
    obtain ⟨other, hother, hsame, hshows⟩ := hadds.known member hmember
    exact ⟨other, List.not_mem_of_not_mem_cons hother, hsame, hshows⟩
  · intro other hother
    rw [List.map_cons, List.mem_cons, not_or] at hother
    rw [hadds.kept other hother.2]
    exact hputs.kept other fun hsame => hother.1 (congrArg SettingsKey.name hsame)

/-- The first member takes its field from the last settings, and the others are left with the rest
of the keys. -/
theorem Adds.exists_puts (hadds : Adds settings seen ((name, value) :: members) last) :
    ∃ key next, key ∉ seen ∧ key.name = name ∧ settings.Puts key value next ∧
      Adds next (key :: seen) members last := by
  obtain ⟨hname, hrest⟩ := List.nodup_cons.mp hadds.nodup
  obtain ⟨⟨key, hseen, rfl, hshows⟩, hbehind⟩ := List.forall_mem_cons.mp hadds.known
  refine ⟨key, settings.taking last key, hseen, rfl, ⟨?_, ?_⟩, hrest, ?_, ?_⟩
  · rwa [field_taking]
  · intro other hne
    exact field_taking_of_ne _ _ hne
  · intro member hmember
    obtain ⟨other, hother, hsame, hothers⟩ := hbehind member hmember
    refine ⟨other, List.not_mem_cons_of_ne_of_not_mem ?_ hother, hsame, hothers⟩
    rintro rfl
    have hrepeated : member.1 ∈ members.map Prod.fst := List.mem_map_of_mem hmember
    rw [← hsame] at hrepeated
    exact hname hrepeated
  · intro other hother
    by_cases hne : other = key
    · rw [hne, field_taking]
    · rw [field_taking_of_ne _ _ hne]
      apply hadds.kept
      rw [List.map_cons, List.mem_cons, not_or]
      exact ⟨fun hsame => hne (SettingsKey.eq_of_name_eq hsame), hother⟩

theorem adds_cons_iff :
    Adds settings seen ((name, value) :: members) last ↔
      ∃ key next, key ∉ seen ∧ key.name = name ∧ settings.Puts key value next ∧
        Adds next (key :: seen) members last := by
  constructor
  · intro hadds
    exact hadds.exists_puts
  · rintro ⟨key, next, hseen, rfl, hputs, hadds⟩
    exact hadds.cons hseen hputs

end Cons

theorem shows_null_iff {settings : Settings} {key : SettingsKey} :
    (settings.field key).Shows .null ↔ settings.field key = empty.field key := by
  have hoptional {α : Type} {shows : α → Value → Prop} (hnull : ∀ a, ¬ shows a .null)
      (o : Option α) : ShowsOptional shows o .null ↔ o = none := by
    cases o with
    | none => simp [ShowsOptional]
    | some a => simp [ShowsOptional, hnull]
  cases key
  all_goals
    simp [field, empty, Field.Shows, hoptional, ShowsText, ShowsTexts, ShowsTolerance, ShowsFlag]

/-- An object tells what its members make of settings that say nothing. -/
theorem adds_empty_iff {settings : Settings} {members : List (String × Value)} :
    Adds empty [] members settings ↔ settings.IsToldBy members := by
  constructor
  · rintro ⟨hnodup, hknown, hkept⟩
    refine ⟨hnodup, ?_, fun key hkey => shows_null_iff.mpr (hkept key hkey)⟩
    intro member hmember
    obtain ⟨key, -, hkey⟩ := hknown member hmember
    exact ⟨key, hkey⟩
  · rintro ⟨hnodup, hknown, habsent⟩
    refine ⟨hnodup, ?_, fun key hkey => shows_null_iff.mp (habsent key hkey)⟩
    intro member hmember
    obtain ⟨key, hkey⟩ := hknown member hmember
    exact ⟨key, List.not_mem_nil, hkey⟩

end Settings

end LintCorpus
