import LintCorpus.Proofs.Settings.Values

/-!
Reading settings from an object.  Its members are read one after the other, and each has a key that
is known and new and a value that fits it, so what is read in the end are the settings that the
members tell together (`readEntries_eq_ok_iff`).  The whole text adds nothing but blanks, and the
refusal of settings whose values are not acceptable (`read_object`).
-/

namespace LintCorpus.Settings

open Json

theorem readKey_eq_ok_iff {seen : List SettingsKey} {s : String} {more : Tokens}
    {key : SettingsKey} : readKey seen s more = .ok key ↔ key ∉ seen ∧ key.name = s := by
  rw [readKey, ← SettingsKey.ofName?_eq_some_iff]
  cases SettingsKey.ofName? s with
  | none => simp
  | some known =>
      dsimp only
      split
      · rename_i hseen
        apply iff_of_false
        · simp
        · rintro ⟨hnew, ⟨rfl⟩⟩
          exact hnew (List.contains_iff_mem.mp hseen)
      · rename_i hseen
        constructor
        · rintro ⟨rfl⟩
          exact ⟨mt List.contains_iff_mem.mpr hseen, rfl⟩
        · rintro ⟨-, ⟨rfl⟩⟩
          rfl

/-- Reads the members of an object that is not empty. -/
def readFrom (settings : Settings) (seen : List SettingsKey) (ts : Tokens) : Reading Settings :=
  match readEntry settings seen ts with
  | .error problem => .error problem
  | .ok ((key, next), more) => readMoreEntries next (key :: seen) more

section Members

variable {settings last : Settings} {seen : List SettingsKey} {rest : List Char} {more : Tokens}

theorem readEntry_eq_ok_iff {name : String} {value : Value} {cs : List Char}
    (hmember : SpellsMember Spells (name, value) cs) (hrest : EndsNumber rest) {key : SettingsKey}
    {next : Settings} :
    readEntry settings seen (tokens (cs ++ rest)) = .ok ((key, next), more) ↔
      (key ∉ seen ∧ key.name = name ∧ settings.Puts key value next) ∧ more = tokens rest := by
  cases hmember with
  | @member _ _ quoted before after cs hname hbefore hafter hvalue =>
      have hbegins := hvalue.begins hrest
      have hcolon : tokens (before ++ ':' :: (after ++ (cs ++ rest))) =
          .token (':' :: (after ++ (cs ++ rest))) .colon (after ++ (cs ++ rest))
            (tokens (cs ++ rest)) := by
        rw [hbefore.tokens_append, tokens_cons rfl rfl, hafter.tokens_append]
      simp only [List.append_assoc, List.cons_append]
      rw [hname.tokens_append, hcolon]
      change (readKey seen name _ >>= fun key => readValue settings key (tokens (cs ++ rest)) >>=
        fun p => .ok ((key, p.1), p.2)) = _ ↔ _
      simp only [bind_eq_ok_iff, readKey_eq_ok_iff, Prod.exists, readValue_eq_ok_iff hbegins,
        Except.ok.injEq, Prod.mk.injEq]
      constructor
      · rintro ⟨_, ⟨hseen, hkey⟩, _, _, ⟨hputs, hmore⟩, ⟨rfl, rfl⟩, rfl⟩
        exact ⟨⟨hseen, hkey, hputs⟩, hmore⟩
      · rintro ⟨⟨hseen, hkey, hputs⟩, hmore⟩
        exact ⟨key, ⟨hseen, hkey⟩, next, more, ⟨hputs, hmore⟩, ⟨rfl, rfl⟩, rfl⟩

/-- Behind a comma an object goes on as one that is not empty. -/
theorem readMoreEntries_comma_iff {start back : List Char} {ts : Tokens}
    {result : Settings × Tokens} :
    readMoreEntries settings seen (.token start .comma back ts) = .ok result ↔
      readFrom settings seen ts = .ok result := by
  by_cases hclose : ∃ next behind more, ts = .token next .closeObject behind more
  · obtain ⟨next, behind, more, rfl⟩ := hclose
    simp [readMoreEntries, readFrom, readEntry, readKeyText, bind, Except.bind]
  · rw [readMoreEntries, readFrom]
    · split
      · rename_i hentry
        rw [hentry]
      · rename_i hentry
        rw [hentry]
    · intro next behind more hts
      exact hclose ⟨next, behind, more, hts⟩

theorem readEntries_str (start back : List Char) (s : String) :
    readEntries (.token start (.str s) back more) =
      readFrom empty [] (.token start (.str s) back more) :=
  rfl

/-- The first member has a new key, and the others are read with what it puts. -/
theorem readFrom_eq_ok_iff {name : String} {value : Value} {cs : List Char}
    (hmember : SpellsMember Spells (name, value) cs) (hrest : EndsNumber rest)
    {result : Settings × Tokens} :
    readFrom settings seen (tokens (cs ++ rest)) = .ok result ↔ ∃ key next,
      (key ∉ seen ∧ key.name = name ∧ settings.Puts key value next) ∧
        readMoreEntries next (key :: seen) (tokens rest) = .ok result := by
  constructor
  · intro hread
    rw [readFrom] at hread
    split at hread
    · cases hread
    · rename_i key next more hentry
      obtain ⟨hmember, rfl⟩ := (readEntry_eq_ok_iff hmember hrest).mp hentry
      exact ⟨key, next, hmember, hread⟩
  · rintro ⟨key, next, hstep, hread⟩
    rw [readFrom, (readEntry_eq_ok_iff hmember hrest).mpr ⟨hstep, rfl⟩]
    exact hread

/-- What is read of an object without members. -/
theorem ok_same_eq_ok_iff : (.ok (settings, tokens rest) : Reading Settings) = .ok (last, more) ↔
    Adds settings seen [] last ∧ more = tokens rest := by
  rw [adds_nil_iff, Except.ok.injEq, Prod.mk.injEq, eq_comm, eq_comm (b := more)]

/-- The first member of an object is read, and what is behind it with what the first one puts. -/
theorem readFrom_members_iff {member : String × Value} {members : List (String × Value)}
    {body : List Char} (hmembers : Separated (SpellsMember Spells) (member :: members) body)
    (hmore : ∀ {next seen ts}, GoesOn (SpellsMember Spells) '}' .closeObject rest members ts →
      (readMoreEntries next seen ts = .ok (last, more) ↔
        Adds next seen members last ∧ more = tokens rest)) :
    readFrom settings seen (tokens (body ++ '}' :: rest)) = .ok (last, more) ↔
      Adds settings seen (member :: members) last ∧ more = tokens rest := by
  obtain ⟨cs, back, ts, hmember, hends, htokens, hts, hbehind⟩ := hmembers.exists_item .object rest
  rw [htokens, readFrom_eq_ok_iff hmember hends, hts, adds_cons_iff]
  simp only [hmore hbehind, ← and_assoc, exists_and_right]

theorem readMoreEntries_eq_ok_iff {members : List (String × Value)} {ts : Tokens}
    (hbehind : GoesOn (SpellsMember Spells) '}' .closeObject rest members ts) :
    readMoreEntries settings seen ts = .ok (last, more) ↔
      Adds settings seen members last ∧ more = tokens rest := by
  induction members generalizing settings seen ts with
  | nil =>
      cases hbehind with
      | closed start =>
          rw [readMoreEntries]
          exact ok_same_eq_ok_iff
  | cons member members ih =>
      cases hbehind with
      | comma start hmembers =>
          rw [readMoreEntries_comma_iff]
          exact readFrom_members_iff hmembers ih

theorem readEntries_eq_ok_iff {members : List (String × Value)} {body : List Char}
    (hmembers : Separated (SpellsMember Spells) members body) :
    readEntries (tokens (body ++ '}' :: rest)) = .ok (last, more) ↔
      last.IsToldBy members ∧ more = tokens rest := by
  rw [← adds_empty_iff]
  cases members with
  | nil =>
      rw [hmembers.tokens_nil .object, readEntries]
      exact ok_same_eq_ok_iff
  | cons member members =>
      obtain ⟨cs, back, ts, hmember, -, htokens, -⟩ := hmembers.exists_item .object rest
      obtain ⟨start, s, behind, tail, hfirst⟩ := hmember.exists_str back
      rw [htokens, hfirst, readEntries_str, ← hfirst, ← htokens]
      exact readFrom_members_iff hmembers readMoreEntries_eq_ok_iff

end Members

section Text

variable {text : String} {members : List (String × Value)}
  (hdocument : IsDocument (.object members) text.toList)

include hdocument

/-- What is left to do with a text that is an object: its members are read, and nothing follows. -/
theorem exists_readEntries : ∃ body after, Separated (SpellsMember Spells) members body ∧
    IsBlanks after ∧
      readSettings (tokens text.toList) = readEntries (tokens (body ++ '}' :: after)) := by
  generalize htext : text.toList = cs at hdocument
  cases hdocument with
  | @document before cs after hbefore hvalue hafter =>
      cases hvalue with
      | @object _ body hmembers =>
          refine ⟨body, after, hmembers, hafter, ?_⟩
          simp only [List.cons_append, List.append_assoc]
          rw [hbefore.tokens_append, tokens_cons rfl rfl]
          rfl

theorem read_of_isToldBy {settings : Settings} (htold : settings.IsToldBy members) :
    read text = match settings.fault? with
      | some fault => .error (.refused fault)
      | none => .ok settings := by
  obtain ⟨body, after, hmembers, hafter, hread⟩ := exists_readEntries hdocument
  rw [read, hread, (readEntries_eq_ok_iff hmembers).mpr ⟨htold, rfl⟩, hafter.tokens]
  rfl

theorem isToldBy_of_read {settings : Settings} (hok : read text = .ok settings) :
    settings.IsToldBy members ∧ settings.fault? = none := by
  obtain ⟨body, after, hmembers, -, hread⟩ := exists_readEntries hdocument
  rw [read, hread] at hok
  obtain ⟨⟨last, more⟩, hentries, hok⟩ := ok_of_bind hok
  obtain ⟨_, -, hok⟩ := ok_of_bind hok
  split at hok
  · cases hok
  · rename_i hfault
    obtain rfl := Except.ok.inj hok
    exact ⟨((readEntries_eq_ok_iff hmembers).mp hentries).1, hfault⟩

/-- From an object, whatever its blanks and escapes and in whatever order its members stand, the
settings are read that it tells, unless their values are refused.  An object with a repeated or an
unknown key, or with a number that is no tolerance, tells none. -/
theorem read_object :
    (∀ settings : Settings, read text = .ok settings ↔
      settings.IsToldBy members ∧ settings.Acceptable) ∧
    (∀ settings : Settings, settings.IsToldBy members → ¬ settings.Acceptable →
      ∃ fault, settings.fault? = some fault ∧ read text = .error (.refused fault)) ∧
    (¬ (members.map Prod.fst).Nodup ∨
        (∃ member ∈ members, ∀ key : SettingsKey, key.name ≠ member.1) ∨
        (∃ numeral : Numeral, ("line_tolerance", .number numeral) ∈ members ∧
          ∀ n ≤ Text.maxPosition, ¬ numeral.IsNatural n) →
      ∃ problem, read text = .error problem) := by
  refine ⟨?_, ?_, ?_⟩
  · intro settings
    rw [← fault?_eq_none_iff]
    constructor
    · exact isToldBy_of_read hdocument
    · rintro ⟨htold, hfault⟩
      rw [read_of_isToldBy hdocument htold, hfault]
  · intro settings htold hrefused
    obtain ⟨fault, hfault⟩ := Option.ne_none_iff_exists'.mp (mt fault?_eq_none_iff.mp hrefused)
    refine ⟨fault, hfault, ?_⟩
    rw [read_of_isToldBy hdocument htold, hfault]
  · intro hwrong
    cases hread : read text with
    | error problem => exact ⟨problem, rfl⟩
    | ok settings =>
        obtain ⟨htold, -⟩ := isToldBy_of_read hdocument hread
        rcases hwrong with hrepeats | ⟨member, hmember, hunknown⟩ | ⟨numeral, hmember, hnumeral⟩
        · exact absurd htold.nodup hrepeats
        · obtain ⟨key, hkey, -⟩ := htold.known member hmember
          exact absurd hkey (hunknown key)
        · obtain ⟨n, hn, hnatural⟩ := htold.exists_isNatural hmember
          exact absurd hnatural (hnumeral n hn)

end Text

namespace ReadingWitness

/-- The keys stand in another order than the fields, one of them has `null`, and the plus signs of
the standard are written in two ways. -/
def text : String :=
  "\x7b \"strict\" :true,\n\t\"line_tolerance\": 12 ,\"compiler\":null, \"std\":\"c+\\u002B20\"\x7d\n"

def twelve : Numeral where
  isNegative := false
  whole := ['1', '2']
  fraction := []
  exponent := []
  whole_digits := by decide
  whole_front := by simp
  fraction_form := .none
  exponent_form := .none

def members : List (String × Value) :=
  [("strict", .bool true), ("line_tolerance", .number twelve), ("compiler", .null),
    ("std", .str "c++20")]

def settings : Settings where
  compiler := none
  standard := some "c++20"
  extraArgs := none
  lineTolerance := some 12
  ignoreChecks := none
  strict := some true

theorem spellsText_standard : SpellsText "c++20" "\"c+\\u002B20\"".toList := by
  have hzero : IsHexDigit '0' 0 := ⟨by decide, .inl rfl⟩
  have htwo : IsHexDigit '2' 2 := ⟨by decide, .inl rfl⟩
  have heleven : IsHexDigit 'B' 11 := ⟨by decide, .inr rfl⟩
  have hplus : SpellsUnit '+'.toNat ['0', '0', '2', 'B'] := .digits hzero hzero htwo heleven
  have hself {c : Char} (hc : 32 ≤ c.toNat ∧ c ≠ '"' ∧ c ≠ '\\') : SpellsChar c [c] :=
    .self hc.1 hc.2.1 hc.2.2
  have hparts : List.Forall₂ SpellsChar "c++20".toList
      [['c'], ['+'], '\\' :: 'u' :: ['0', '0', '2', 'B'], ['2'], ['0']] :=
    .cons (hself (by decide)) (.cons (hself (by decide)) (.cons (.unit hplus)
      (.cons (hself (by decide)) (.cons (hself (by decide)) .nil))))
  exact .quoted hparts

theorem isDocument_text : IsDocument (.object members) text.toList := by
  have hnone : IsBlanks [] := by decide
  have hspace : IsBlanks [' '] := by decide
  have hfeed : IsBlanks ['\n'] := by decide
  have hindent : IsBlanks ['\n', '\t'] := by decide
  have hstrict := SpellsMember.member (spellsText_quote "strict") hspace hnone Spells.truth
  have htolerance := SpellsMember.member (spellsText_quote "line_tolerance") hnone hspace
    (Spells.number twelve)
  have hcompiler := SpellsMember.member (spellsText_quote "compiler") hnone hnone Spells.null
  have hstandard := SpellsMember.member (spellsText_quote "std") hnone hnone
    (Spells.str spellsText_standard)
  exact .document hnone (.object (.more hspace hstrict hnone (.more hindent htolerance hspace
    (.more hnone hcompiler hnone (.one hspace hstandard hnone))))) hfeed

theorem isToldBy_members : settings.IsToldBy members := by
  refine ⟨by decide, ?_, ?_⟩
  · simp only [members, List.forall_mem_cons]
    refine ⟨⟨.strict, rfl, rfl⟩, ⟨.lineTolerance, rfl, by decide, twelve, ?_, rfl⟩,
      ⟨.compiler, rfl, rfl⟩, ⟨.standard, rfl, rfl⟩, by simp⟩
    exact ⟨rfl, ⟨twelve.whole_digits.1, twelve.whole_digits.2, rfl⟩, rfl, rfl⟩
  · intro key hkey
    cases key
    case extraArgs => rfl
    case ignoreChecks => rfl
    all_goals exact absurd hkey (by decide)

/-- The compiler of these settings is blank. -/
def blank : Settings :=
  { empty with compiler := some " " }

theorem isDocument_blank :
    IsDocument (.object [("compiler", .str " ")]) "\x7b\"compiler\":\" \"\x7d".toList := by
  have hnone : IsBlanks [] := by decide
  have hcompiler := SpellsMember.member (spellsText_quote "compiler") hnone hnone
    (Spells.str (spellsText_quote " "))
  exact .document hnone (.object (.one hnone hcompiler hnone)) hnone

theorem isDocument_repeated : IsDocument (.object [("strict", .null), ("strict", .bool true)])
    "\x7b\"strict\":null,\"strict\":true\x7d".toList := by
  have hnone : IsBlanks [] := by decide
  have hstrict := spellsText_quote "strict"
  have hnull := SpellsMember.member hstrict hnone hnone Spells.null
  have htrue := SpellsMember.member hstrict hnone hnone Spells.truth
  exact .document hnone (.object (.more hnone hnull hnone (.one hnone htrue hnone))) hnone

theorem read_object_standard :
    (IsDocument (.object members) text.toList ∧ settings.IsToldBy members ∧
        settings.Acceptable ∧ read text = .ok settings) ∧
      (blank.IsToldBy [("compiler", .str " ")] ∧ ¬ blank.Acceptable ∧
        read "\x7b\"compiler\":\" \"\x7d" = .error (.refused .blankCompiler)) ∧
      ∃ problem, read "\x7b\"strict\":null,\"strict\":true\x7d" = .error problem := by
  have hacceptable : settings.Acceptable := fault?_eq_none_iff.mp (by decide)
  have hread := ((read_object isDocument_text).1 settings).mpr ⟨isToldBy_members, hacceptable⟩
  have hblank : blank.IsToldBy [("compiler", .str " ")] := by
    refine ⟨by decide, ?_, ?_⟩
    · rw [List.forall_mem_singleton]
      exact ⟨.compiler, rfl, rfl⟩
    · intro key hkey
      cases key
      case compiler => exact absurd hkey (by decide)
      all_goals rfl
  have hrefused : ¬ blank.Acceptable := mt fault?_eq_none_iff.mpr (by decide)
  obtain ⟨fault, hfault, herror⟩ := (read_object isDocument_blank).2.1 blank hblank hrefused
  obtain rfl := Option.some.inj hfault
  refine ⟨⟨isDocument_text, isToldBy_members, hacceptable, hread⟩, ⟨hblank, hrefused, herror⟩, ?_⟩
  exact (read_object isDocument_repeated).2.2 (Or.inl (by decide))

end ReadingWitness

end LintCorpus.Settings
