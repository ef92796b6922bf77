import LintCorpus.Json.Token
import LintCorpus.Settings
import LintCorpus.Text.Quoted

/-!
Reading a settings file: an object with some of the keys, each once, or a list of all the values in
the order of the keys.  Whatever is wrong first in the order of the text is what is reported.
-/

namespace LintCorpus.Settings

open Json

/-- Why a text holds no settings. -/
inductive Problem where
  /-- The text is not well formed. -/
  | form (trouble : Trouble)
  /-- The text is well formed up to here, and says something else than settings. -/
  | content (message : String) (place : Place)
  | refused (fault : SettingsFault)
deriving DecidableEq, Repr

/-- A value that was read, and the tokens behind it. -/
abbrev Reading (α : Type) := Except Problem (α × Tokens)

/-- The place of a fault that is noticed at the next token: behind its first byte. -/
def noticed (fault : Fault) (start : List Char) : Problem :=
  .form ⟨fault, start, 1⟩

/-- The text broke off. -/
def ended (fault : Fault) : Problem :=
  .form ⟨fault, [], 0⟩

/-- A number in an error text. -/
def describeNumber : Number → String
  | .nat n => "integer `" ++ toString n ++ "`"
  | .negative n => "integer `-" ++ toString n ++ "`"
  | .binary isNegative x =>
      "floating point `" ++ (if isNegative then "-" else "") ++ x.text ++ "`"

/-- The kind of a value in an error text. -/
def describe : Token → Option String
  | .openList => some "sequence"
  | .openObject => some "map"
  | .null => some "null"
  | .bool b => some ("boolean `" ++ (if b then "true" else "false") ++ "`")
  | .number n => some (describeNumber n)
  | .str s => some ("string " ++ Text.quoted s)
  | _ => none

/-- The problem with a value that is not of the kind `expected`.  Lists and objects are noticed at
their bracket, all other values when they have been read. -/
def wrongType (expected : String) : Tokens → Problem
  | .done => ended .endInValue
  | .broken _ trouble => .form trouble
  | .token start token rest _ =>
      match describe token with
      | none => noticed .expectedValue start
      | some kind =>
          let place := if token = .openList ∨ token = .openObject then start else rest
          .content ("invalid type: " ++ kind ++ ", expected " ++ expected) ⟨place, 0⟩

/-- Reads a value that is a single token. -/
def readSingle {α : Type} (expected : String) (value? : Token → Option α) : Tokens → Reading α
  | .token start token rest more =>
      match value? token with
      | some a => .ok (a, more)
      | none => .error (wrongType expected (.token start token rest more))
  | tokens => .error (wrongType expected tokens)

def text? : Token → Option String
  | .str s => some s
  | _ => none

def flag? : Token → Option Bool
  | .bool b => some b
  | _ => none

def readText : Tokens → Reading String :=
  readSingle "a string" text?

/-- Reads a truth value. -/
def readFlag : Tokens → Reading Bool :=
  readSingle "a boolean" flag?

/-- The problem with an integer that is no tolerance. -/
def outOfRange (n : Number) (rest : List Char) : Problem :=
  .content ("invalid value: " ++ describeNumber n ++ ", expected u32") ⟨rest, 0⟩

def readTolerance : Tokens → Reading Nat
  | .token _ (.number (.nat n)) rest more =>
      if n ≤ Text.maxPosition then .ok (n, more) else .error (outOfRange (.nat n) rest)
  | .token _ (.number (.negative n)) rest _ => .error (outOfRange (.negative n) rest)
  | tokens => .error (wrongType "u32" tokens)

/-- Reads the texts of a list behind its first one. -/
def readMoreTexts : Tokens → Reading (List String)
  | .done => .error (ended .endInList)
  | .token _ .closeList _ more => .ok ([], more)
  | .token _ .comma _ (.token _ (.str s) _ more) =>
      (readMoreTexts more).map fun p => (s :: p.1, p.2)
  | .token _ .comma _ (.token start .closeList _ _) => .error (noticed .trailingComma start)
  | .token _ .comma _ more => .error (wrongType "a string" more)
  | .token start _ _ _ => .error (noticed .expectedListCommaOrEnd start)
  | .broken start _ => .error (noticed .expectedListCommaOrEnd start)

def readTexts : Tokens → Reading (List String)
  | .token _ .openList _ .done => .error (ended .endInList)
  | .token _ .openList _ (.token _ .closeList _ more) => .ok ([], more)
  | .token _ .openList _ (.token _ (.str s) _ more) =>
      (readMoreTexts more).map fun p => (s :: p.1, p.2)
  | .token _ .openList _ more => .error (wrongType "a string" more)
  | tokens => .error (wrongType "a sequence" tokens)

/-- Reads a value that may be left open by `null`. -/
def readOptional {α : Type} (read : Tokens → Reading α) : Tokens → Reading (Option α)
  | .token _ .null _ more => .ok (none, more)
  | tokens => (read tokens).map fun p => (some p.1, p.2)

def readValue (settings : Settings) (key : SettingsKey) (tokens : Tokens) : Reading Settings :=
  match key with
  | .compiler =>
      (readOptional readText tokens).map fun p => ({ settings with compiler := p.1 }, p.2)
  | .standard =>
      (readOptional readText tokens).map fun p => ({ settings with standard := p.1 }, p.2)
  | .extraArgs =>
      (readOptional readTexts tokens).map fun p => ({ settings with extraArgs := p.1 }, p.2)
  | .lineTolerance =>
      (readOptional readTolerance tokens).map fun p => ({ settings with lineTolerance := p.1 }, p.2)
  | .ignoreChecks =>
      (readOptional readTexts tokens).map fun p => ({ settings with ignoreChecks := p.1 }, p.2)
  | .strict =>
      (readOptional readFlag tokens).map fun p => ({ settings with strict := p.1 }, p.2)

/-- Where reading stands when a key is refused: behind the object's end if that follows, and else
before the next token. -/
def behindKey : Tokens → Place
  | .done => ⟨[], 0⟩
  | .broken start _ => ⟨start, 0⟩
  | .token _ .closeObject rest _ => ⟨rest, 0⟩
  | .token start _ _ _ => ⟨start, 0⟩

/-- The keys in an error text. -/
def keyList : String :=
  ", ".intercalate (SettingsKey.all.map fun key => "`" ++ key.name ++ "`")

/-- The key that is written so, unless it is unknown or was there before. -/
def readKey (seen : List SettingsKey) (s : String) (more : Tokens) : Except Problem SettingsKey :=
  match SettingsKey.ofName? s with
  | none =>
      .error
        (.content ("unknown field `" ++ s ++ "`, expected one of " ++ keyList) (behindKey more))
  | some key =>
      if seen.contains key then
        .error (.content ("duplicate field `" ++ s ++ "`") (behindKey more))
      else .ok key

/-- Passes over the colon behind a key. -/
def passColon : Tokens → Except Problem Tokens
  | .token _ .colon _ more => .ok more
  | .done => .error (ended .endInObject)
  | .broken start _ => .error (noticed .expectedColon start)
  | .token start _ _ _ => .error (noticed .expectedColon start)

def readKeyText : Tokens → Reading String
  | .done => .error (ended .endInValue)
  | .token _ (.str s) _ more => .ok (s, more)
  | .token start _ _ _ => .error (noticed .keyNotString start)
  | .broken start trouble =>
      if ['"'].isPrefixOf start then .error (.form trouble)
      else .error (noticed .keyNotString start)

def readEntry (settings : Settings) (seen : List SettingsKey) (tokens : Tokens) :
    Except Problem ((SettingsKey × Settings) × Tokens) := do
  let (s, more) ← readKeyText tokens
  let key ← readKey seen s more
  let more ← passColon more
  let (settings, more) ← readValue settings key more
  return ((key, settings), more)

theorem count_readOptional {α : Type} {read : Tokens → Reading α} {ts more : Tokens}
    {a : Option α} (hread : ∀ {a : α}, read ts = .ok (a, more) → more.count ≤ ts.count)
    (h : readOptional read ts = .ok (a, more)) : more.count ≤ ts.count := by
  unfold readOptional at h
  split at h
  · simp only [Except.ok.injEq, Prod.mk.injEq] at h
    rw [← h.2]
    simp [Tokens.count]
  · obtain ⟨⟨b, rest⟩, hp, hq⟩ := ok_of_map h
    simp only [Prod.mk.injEq] at hq
    rw [hq.2] at hp
    exact hread hp

theorem count_readSingle {α : Type} {expected : String} {value? : Token → Option α}
    {ts more : Tokens} {a : α} (h : readSingle expected value? ts = .ok (a, more)) :
    more.count ≤ ts.count := by
  unfold readSingle at h
  split at h
  · split at h
    · simp only [Except.ok.injEq, Prod.mk.injEq] at h
      rw [← h.2]
      simp [Tokens.count]
    · simp at h
  · simp at h

theorem count_readTolerance {ts more : Tokens} {n : Nat} (h : readTolerance ts = .ok (n, more)) :
    more.count ≤ ts.count := by
  unfold readTolerance at h
  split at h
  · split at h
    · simp only [Except.ok.injEq, Prod.mk.injEq] at h
      rw [← h.2]
      simp [Tokens.count]
    · simp at h
  · simp at h
  · simp at h

theorem count_readMoreTexts {ts more : Tokens} {texts : List String}
    (h : readMoreTexts ts = .ok (texts, more)) : more.count ≤ ts.count := by
  fun_induction readMoreTexts ts generalizing texts with
  | case2 =>
      simp only [Except.ok.injEq, Prod.mk.injEq] at h
      rw [← h.2]
      simp [Tokens.count]
  | case3 _ _ _ _ _ tail ih =>
      obtain ⟨⟨others, rest⟩, hp, hq⟩ := ok_of_map h
      simp only [Prod.mk.injEq] at hq
      rw [hq.2] at hp
      have hmore := ih hp
      simp only [Tokens.count]
      omega
  | _ => simp at h

theorem count_readTexts {ts more : Tokens} {texts : List String}
    (h : readTexts ts = .ok (texts, more)) : more.count ≤ ts.count := by
  unfold readTexts at h
  split at h
  case h_2 =>
    simp only [Except.ok.injEq, Prod.mk.injEq] at h
    rw [← h.2]
    simp only [Tokens.count]
    omega
  case h_3 =>
    obtain ⟨⟨others, rest⟩, hp, hq⟩ := ok_of_map h
    simp only [Prod.mk.injEq] at hq
    rw [hq.2] at hp
    have hmore := count_readMoreTexts hp
    simp only [Tokens.count]
    omega
  all_goals simp at h

theorem count_readValue {settings result : Settings} {key : SettingsKey} {ts more : Tokens}
    (h : readValue settings key ts = .ok (result, more)) : more.count ≤ ts.count := by
  unfold readValue at h
  split at h <;> obtain ⟨p, hp, hq⟩ := ok_of_map h <;> simp only [Prod.mk.injEq] at hq <;>
    obtain ⟨-, rfl⟩ := hq
  · exact count_readOptional count_readSingle hp
  · exact count_readOptional count_readSingle hp
  · exact count_readOptional count_readTexts hp
  · exact count_readOptional count_readTolerance hp
  · exact count_readOptional count_readTexts hp
  · exact count_readOptional count_readSingle hp

theorem ok_of_bind {α β ε : Type} {x : Except ε α} {f : α → Except ε β} {b : β}
    (h : (x >>= f) = .ok b) : ∃ a, x = .ok a ∧ f a = .ok b := by
  cases x with
  | error e => simp [bind, Except.bind] at h
  | ok a => exact ⟨a, rfl, h⟩

theorem count_readKeyText {ts more : Tokens} {s : String} (h : readKeyText ts = .ok (s, more)) :
    more.count < ts.count := by
  unfold readKeyText at h
  split at h
  · simp at h
  · simp only [Except.ok.injEq, Prod.mk.injEq] at h
    rw [← h.2]
    simp [Tokens.count]
  · simp at h
  · split at h <;> simp at h

theorem count_passColon {ts more : Tokens} (h : passColon ts = .ok more) :
    more.count < ts.count := by
  unfold passColon at h
  split at h
  · simp only [Except.ok.injEq] at h
    rw [← h]
    simp [Tokens.count]
  all_goals simp at h

theorem count_readEntry {settings : Settings} {seen : List SettingsKey} {ts more : Tokens}
    {result : SettingsKey × Settings} (h : readEntry settings seen ts = .ok (result, more)) :
    more.count < ts.count := by
  obtain ⟨⟨s, ts₁⟩, h₁, h⟩ := ok_of_bind h
  obtain ⟨key, -, h⟩ := ok_of_bind h
  obtain ⟨ts₂, h₂, h⟩ := ok_of_bind h
  obtain ⟨⟨result', ts₃⟩, h₃, h⟩ := ok_of_bind h
  simp only [pure, Except.pure, Except.ok.injEq, Prod.mk.injEq] at h
  have hkey := count_readKeyText h₁
  have hcolon := count_passColon h₂
  have hvalue := count_readValue h₃
  rw [← h.2]
  omega

/-- Reads the entries of an object behind its first one. -/
def readMoreEntries (settings : Settings) (seen : List SettingsKey) (tokens : Tokens) :
    Reading Settings :=
  match tokens with
  | .done => .error (ended .endInObject)
  | .token _ .closeObject _ more => .ok (settings, more)
  | .token _ .comma _ (.token start .closeObject _ _) => .error (noticed .trailingComma start)
  | .token _ .comma _ more =>
      match _h : readEntry settings seen more with
      | .error problem => .error problem
      | .ok ((key, settings), more) => readMoreEntries settings (key :: seen) more
  | .token start _ _ _ => .error (noticed .expectedObjectCommaOrEnd start)
  | .broken start _ => .error (noticed .expectedObjectCommaOrEnd start)
termination_by tokens.count
decreasing_by
  have hentry := count_readEntry _h
  simp only [Tokens.count]
  omega

def readEntries : Tokens → Reading Settings
  | .done => .error (ended .endInObject)
  | .token _ .closeObject _ more => .ok (empty, more)
  | tokens =>
      match readEntry empty [] tokens with
      | .error problem => .error problem
      | .ok ((key, settings), more) => readMoreEntries settings [key] more

/-- Passes over the end of a list of all the values. -/
def passListEnd : Tokens → Except Problem Tokens
  | .done => .error (ended .endInList)
  | .token _ .closeList _ more => .ok more
  | .token _ .comma _ (.token start .closeList _ _) => .error (noticed .trailingComma start)
  | .token _ .comma _ .done => .error (ended .trailingCharacters)
  | .token _ .comma _ (.token start _ _ _) => .error (noticed .trailingCharacters start)
  | .token _ .comma _ (.broken start _) => .error (noticed .trailingCharacters start)
  | .token start _ _ _ => .error (noticed .trailingCharacters start)
  | .broken start _ => .error (noticed .trailingCharacters start)

/-- The problem with a list that ends after so many values. -/
def tooShort (count : Nat) (rest : List Char) : Problem :=
  .content ("invalid length " ++ toString count ++ ", expected struct ConfigFile with 6 elements")
    ⟨rest, 0⟩

/-- Passes over what stands before the next value of a list that already has so many. -/
def passToValue (count : Nat) : Tokens → Except Problem Tokens
  | .done => .error (ended .endInList)
  | .token _ .closeList rest _ => .error (tooShort count rest)
  | .token start token rest more =>
      if count = 0 then .ok (.token start token rest more)
      else
        match token, more with
        | .comma, .token start .closeList _ _ => .error (noticed .trailingComma start)
        | .comma, more => .ok more
        | _, _ => .error (noticed .expectedListCommaOrEnd start)
  | .broken start trouble =>
      if count = 0 then .ok (.broken start trouble)
      else .error (noticed .expectedListCommaOrEnd start)

/-- Reads the values of the keys from a list, behind `count` values. -/
def readValues (settings : Settings) (count : Nat) :
    List SettingsKey → Tokens → Except Problem (Settings × Tokens)
  | [], tokens => do
      let more ← passListEnd tokens
      return (settings, more)
  | key :: keys, tokens => do
      let tokens ← passToValue count tokens
      let (settings, more) ← readValue settings key tokens
      readValues settings (count + 1) keys more

def readSettings : Tokens → Reading Settings
  | .token _ .openObject _ more => readEntries more
  | .token _ .openList _ more => readValues empty 0 SettingsKey.all more
  | tokens => .error (wrongType "struct ConfigFile" tokens)

/-- Nothing follows. -/
def passEnd : Tokens → Except Problem Unit
  | .done => .ok ()
  | .token start _ _ _ => .error (noticed .trailingCharacters start)
  | .broken start _ => .error (noticed .trailingCharacters start)

def read (text : String) : Except Problem Settings := do
  let (settings, more) ← readSettings (tokens text.toList)
  passEnd more
  match settings.fault? with
  | some fault => .error (.refused fault)
  | none => .ok settings

/-- The place of a problem in the text, as a message tells it. -/
def placeText (place : Place) (text : String) : String :=
  let mark := place.mark text.toList
  " at line " ++ toString mark.line ++ " column " ++ toString mark.column

/-- The problem in words, without its place. -/
def Problem.wording : Problem → String
  | .form trouble => trouble.fault.message
  | .content message _ => message
  | .refused fault => fault.message

def Problem.message (problem : Problem) (text : String) : String :=
  match problem with
  | .form trouble => problem.wording ++ placeText trouble.place text
  | .content _ place => problem.wording ++ placeText place text
  | .refused _ => problem.wording

end LintCorpus.Settings
