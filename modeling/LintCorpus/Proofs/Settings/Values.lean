import LintCorpus.Proofs.Json.Spelled
import LintCorpus.Proofs.Settings.Told
import LintCorpus.Settings.Reader

/-!
Reading the value of a key.  A reader takes from a spelled value what the value shows, and refuses
every other value (`Decodes`); so what a member puts under its key is told by the value alone
(`readValue_eq_ok_iff`).
-/

namespace LintCorpus.Settings

open Json

section Except

variable {α β ε : Type} {x : Except ε α} {b : β}

theorem map_eq_ok_iff {f : α → β} : x.map f = .ok b ↔ ∃ a, x = .ok a ∧ f a = b := by
  constructor
  · exact ok_of_map
  · rintro ⟨a, rfl, rfl⟩
    rfl

theorem bind_eq_ok_iff {f : α → Except ε β} : (x >>= f) = .ok b ↔ ∃ a, x = .ok a ∧ f a = .ok b := by
  constructor
  · exact ok_of_bind
  · rintro ⟨a, rfl, hb⟩
    exact hb

end Except

/-- The reader takes the values that show something, and what they show, and stops behind them. -/
def Decodes {α : Type} (read : Tokens → Reading α) (shows : α → Value → Prop) : Prop :=
  ∀ (rest : List Char) (value : Value) (ts : Tokens), Begins rest value ts → ∀ a more,
    read ts = .ok (a, more) ↔ shows a value ∧ more = tokens rest

theorem decodes_readText : Decodes readText ShowsText := by
  intro rest value ts hbegins s more
  cases hbegins
  all_goals simp [readText, readSingle, text?, ShowsText, eq_comm]

theorem decodes_readFlag : Decodes readFlag ShowsFlag := by
  intro rest value ts hbegins b more
  cases hbegins
  all_goals simp [readFlag, readSingle, flag?, ShowsFlag, eq_comm]

theorem showsTolerance_number_iff {numeral : Numeral} {n : Nat} :
    ShowsTolerance n (.number numeral) ↔ n ≤ Text.maxPosition ∧ numeral.IsNatural n := by
  simp [ShowsTolerance]

theorem decodes_readTolerance : Decodes readTolerance ShowsTolerance := by
  have hwide : Text.maxPosition ≤ Text.maxOffset := by decide
  intro rest value ts hbegins n more
  cases hbegins with
  | @natural start numeral written hnatural =>
      rw [showsTolerance_number_iff, readTolerance]
      constructor
      · intro hread
        split at hread
        · rename_i hle
          obtain ⟨rfl, rfl⟩ := Prod.mk.inj (Except.ok.inj hread)
          exact ⟨⟨hle, hnatural⟩, rfl⟩
        · cases hread
      · rintro ⟨⟨hle, hn⟩, rfl⟩
        obtain rfl := hnatural.unique hn
        rw [if_pos hle]
  | @number start back behind numeral number hnumber hnumeral =>
      rw [showsTolerance_number_iff]
      apply iff_of_false
      · intro hread
        cases number with
        | nat written => exact hnumber written rfl
        | negative written => cases hread
        | binary isNegative x => cases hread
      · rintro ⟨⟨hle, hn⟩, -⟩
        exact hnumeral n (Nat.le_trans hle hwide) hn
  | broken start trouble hnumeral =>
      rw [showsTolerance_number_iff]
      apply iff_of_false
      · intro hread
        cases hread
      · rintro ⟨⟨hle, hn⟩, -⟩
        exact hnumeral n (Nat.le_trans hle hwide) hn
  | _ => simp [readTolerance, ShowsTolerance]

theorem decodes_readOptional {α : Type} {read : Tokens → Reading α} {shows : α → Value → Prop}
    (hread : Decodes read shows) (hnull : ∀ a, ¬ shows a .null) :
    Decodes (readOptional read) (ShowsOptional shows) := by
  intro rest value ts hbegins o more
  by_cases hvalue : value = .null
  · subst hvalue
    cases hbegins
    cases o with
    | none => simp [readOptional, ShowsOptional, eq_comm]
    | some a => simp [readOptional, ShowsOptional, hnull]
  · have hts : readOptional read ts = (read ts).map fun p => (some p.1, p.2) := by
      cases hbegins
      case null => exact absurd rfl hvalue
      all_goals rfl
    rw [hts, map_eq_ok_iff]
    cases o with
    | none => simp [ShowsOptional, hvalue]
    | some a =>
      simp only [ShowsOptional, Prod.exists, Prod.mk.injEq, Option.some.injEq]
      rw [← hread rest value ts hbegins]
      constructor
      · rintro ⟨_, _, hok, rfl, rfl⟩
        exact hok
      · intro hok
        exact ⟨a, more, hok, rfl, rfl⟩

/-- Reads the texts of a list that is not empty. -/
def readTextsFrom : Tokens → Reading (List String)
  | .token _ (.str s) _ more => (readMoreTexts more).map fun p => (s :: p.1, p.2)
  | ts => .error (wrongType "a string" ts)

/-- Behind a comma a list goes on as one that is not empty. -/
theorem readMoreTexts_comma_iff {start back : List Char} {ts : Tokens}
    {result : List String × Tokens} :
    readMoreTexts (.token start .comma back ts) = .ok result ↔ readTextsFrom ts = .ok result := by
  cases ts with
  | token next token rest more =>
      cases token
      all_goals simp [readMoreTexts, readTextsFrom]
  | _ => simp [readMoreTexts, readTextsFrom]

section List

variable {rest : List Char} {texts : List String} {more : Tokens}

section Item

variable {value : Value} {ts : Tokens} (hbegins : Begins rest value ts)

include hbegins

theorem readTexts_openList_iff {start back : List Char} :
    readTexts (.token start .openList back ts) = .ok (texts, more) ↔
      readTextsFrom ts = .ok (texts, more) := by
  cases hbegins
  all_goals simp [readTexts, readTextsFrom]

theorem readTextsFrom_eq_ok_iff : readTextsFrom ts = .ok (texts, more) ↔ ∃ s others,
    value = .str s ∧ texts = s :: others ∧ readMoreTexts (tokens rest) = .ok (others, more) := by
  cases hbegins with
  | str start s =>
      rw [readTextsFrom, map_eq_ok_iff]
      constructor
      · rintro ⟨⟨others, behind⟩, hread, heq⟩
        obtain ⟨rfl, rfl⟩ := Prod.mk.inj heq
        exact ⟨s, others, rfl, rfl, hread⟩
      · rintro ⟨_, others, ⟨rfl⟩, rfl, hread⟩
        exact ⟨_, hread, rfl⟩
  | _ => simp [readTextsFrom]

end Item

/-- What is read of a list without items. -/
theorem ok_nil_eq_ok_iff : (.ok ([], tokens rest) : Reading (List String)) = .ok (texts, more) ↔
    ([] : List Value) = texts.map .str ∧ more = tokens rest := by
  rw [Except.ok.injEq, Prod.mk.injEq, eq_comm, eq_comm (b := more), eq_comm (a := []),
    List.map_eq_nil_iff]

theorem cons_eq_map_str_iff {item : Value} {items : List Value} :
    item :: items = texts.map .str ↔ ∃ s others, item = .str s ∧ texts = s :: others ∧
      items = others.map .str := by
  rw [eq_comm, List.map_eq_cons_iff]
  constructor
  · rintro ⟨s, others, rfl, rfl, rfl⟩
    exact ⟨s, others, rfl, rfl, rfl⟩
  · rintro ⟨s, others, rfl, rfl, rfl⟩
    exact ⟨s, others, rfl, rfl, rfl⟩

/-- The first item of a list has to be a text, and what is behind it texts. -/
theorem readTextsFrom_items_iff {item : Value} {items : List Value} {body : List Char}
    (hitems : Separated Spells (item :: items) body)
    (hmore : ∀ {ts others}, GoesOn Spells ']' .closeList rest items ts →
      (readMoreTexts ts = .ok (others, more) ↔ items = others.map .str ∧ more = tokens rest)) :
    readTextsFrom (tokens (body ++ ']' :: rest)) = .ok (texts, more) ↔
      item :: items = texts.map .str ∧ more = tokens rest := by
  obtain ⟨cs, back, ts, hitem, hends, htokens, hts, hbehind⟩ := hitems.exists_item .list rest
  rw [htokens, readTextsFrom_eq_ok_iff (hitem.begins hends), hts, cons_eq_map_str_iff]
  simp only [hmore hbehind, ← and_assoc, exists_and_right]

theorem readMoreTexts_eq_ok_iff {items : List Value} {ts : Tokens}
    (hbehind : GoesOn Spells ']' .closeList rest items ts) :
    readMoreTexts ts = .ok (texts, more) ↔ items = texts.map .str ∧ more = tokens rest := by
  induction items generalizing ts texts with
  | nil =>
      cases hbehind with
      | closed start =>
          rw [readMoreTexts, ok_nil_eq_ok_iff]
  | cons item items ih =>
      cases hbehind with
      | comma start hitems =>
          rw [readMoreTexts_comma_iff]
          exact readTextsFrom_items_iff hitems ih

end List

theorem decodes_readTexts : Decodes readTexts ShowsTexts := by
  intro rest value ts hbegins texts more
  cases hbegins with
  | @list start items body hitems =>
      rw [ShowsTexts, Value.list.injEq]
      cases items with
      | nil =>
          rw [hitems.tokens_nil .list, readTexts, ok_nil_eq_ok_iff]
      | cons item items =>
          obtain ⟨cs, back, ts, hitem, hends, htokens, -⟩ := hitems.exists_item .list rest
          have hfirst := hitem.begins hends
          rw [← htokens] at hfirst
          rw [readTexts_openList_iff hfirst]
          exact readTextsFrom_items_iff hitems readMoreTexts_eq_ok_iff
  | _ => simp [readTexts, ShowsTexts]

/-- A value that is read into its field is put under its key. -/
theorem readField_eq_ok_iff {α : Type} {read : Tokens → Reading α} {shows : α → Value → Prop}
    (hread : Decodes read shows) {settings : Settings} (key : SettingsKey) (put : α → Settings)
    (get : Settings → α) (hget : ∀ a, get (put a) = a)
    (hput : ∀ next : Settings, settings.taking next key = put (get next))
    (hshows : ∀ next : Settings, (next.field key).Shows = shows (get next))
    {rest : List Char} {value : Value} {ts more : Tokens} (hbegins : Begins rest value ts)
    {next : Settings} :
    ((read ts).map fun p => (put p.1, p.2)) = .ok (next, more) ↔
      settings.Puts key value next ∧ more = tokens rest := by
  rw [map_eq_ok_iff]
  constructor
  · rintro ⟨⟨a, behind⟩, hok, heq⟩
    obtain ⟨rfl, rfl⟩ := Prod.mk.inj heq
    obtain ⟨ha, hmore⟩ := (hread rest value ts hbegins a behind).mp hok
    refine ⟨⟨?_, ?_⟩, hmore⟩
    · rwa [hshows, hget]
    · intro other hne
      have hsame := hput (put a)
      rw [hget] at hsame
      rw [← hsame, field_taking_of_ne _ _ hne]
  · rintro ⟨hputs, rfl⟩
    refine ⟨(get next, tokens rest), ?_, ?_⟩
    · rw [hread rest value ts hbegins, ← hshows]
      exact ⟨hputs.shows, rfl⟩
    · rw [← hput, hputs.taking_eq]

theorem readValue_eq_ok_iff {settings next : Settings} {key : SettingsKey} {rest : List Char}
    {value : Value} {ts more : Tokens} (hbegins : Begins rest value ts) :
    readValue settings key ts = .ok (next, more) ↔
      settings.Puts key value next ∧ more = tokens rest := by
  have htext := decodes_readOptional decodes_readText (by simp [ShowsText])
  have htexts := decodes_readOptional decodes_readTexts (by simp [ShowsTexts])
  have htolerance := decodes_readOptional decodes_readTolerance (by simp [ShowsTolerance])
  have hflag := decodes_readOptional decodes_readFlag (by simp [ShowsFlag])
  cases key with
  | compiler =>
      exact readField_eq_ok_iff htext .compiler ({ settings with compiler := · })
        Settings.compiler (fun _ => rfl) (fun _ => rfl) (fun _ => rfl) hbegins
  | standard =>
      exact readField_eq_ok_iff htext .standard ({ settings with standard := · })
        Settings.standard (fun _ => rfl) (fun _ => rfl) (fun _ => rfl) hbegins
  | extraArgs =>
      exact readField_eq_ok_iff htexts .extraArgs ({ settings with extraArgs := · })
        Settings.extraArgs (fun _ => rfl) (fun _ => rfl) (fun _ => rfl) hbegins
  | lineTolerance =>
      exact readField_eq_ok_iff htolerance .lineTolerance ({ settings with lineTolerance := · })
        Settings.lineTolerance (fun _ => rfl) (fun _ => rfl) (fun _ => rfl) hbegins
  | ignoreChecks =>
      exact readField_eq_ok_iff htexts .ignoreChecks ({ settings with ignoreChecks := · })
        Settings.ignoreChecks (fun _ => rfl) (fun _ => rfl) (fun _ => rfl) hbegins
  | strict =>
      exact readField_eq_ok_iff hflag .strict ({ settings with strict := · })
        Settings.strict (fun _ => rfl) (fun _ => rfl) (fun _ => rfl) hbegins

end LintCorpus.Settings
