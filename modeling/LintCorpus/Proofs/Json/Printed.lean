import LintCorpus.Json.Tree
import LintCorpus.Proofs.Json.Lexical

/-!
Printed values are read back.  Reading goes on behind the printed form of a value with that value
and with the tokens of what follows it (`Readable.readValue_render`), by induction on the value: a
list or an object puts a frame on the stack, and every part behind the first one extends that frame.
-/

namespace LintCorpus.Json

/-- The value opens at most so many lists and objects at once, and all its numbers are natural
numbers of 64 bits. -/
inductive Readable : Nat → Json → Prop where
  | null (room : Nat) : Readable room .null
  | bool (room : Nat) (b : Bool) : Readable room (.bool b)
  | nat (room : Nat) {n : Nat} (hn : n ≤ Text.maxOffset) : Readable room (.nat n)
  | str (room : Nat) (s : String) : Readable room (.str s)
  | arr {room : Nat} {items : List Json} (hitems : ∀ item ∈ items, Readable room item) :
      Readable (room + 1) (.arr items)
  | obj {room : Nat} {fields : List (String × Json)}
      (hfields : ∀ field ∈ fields, Readable room field.2) : Readable (room + 1) (.obj fields)

theorem trees_eq_map (items : List Json) : trees items = items.map tree := by
  induction items with
  | nil => rfl
  | cons item items ih => rw [trees, ih, List.map_cons]

theorem members_eq_map (fields : List (String × Json)) :
    members fields = fields.map fun field => (field.1, field.2.tree) := by
  induction fields with
  | nil => rfl
  | cons field fields ih => rw [members, ih, List.map_cons]

/-- Below so many open lists and objects, the printed value is read back, and reading goes on behind
it. -/
def ReadsBack (room : Nat) (value : Json) : Prop :=
  ∀ (stack : List Frame) (depth : Nat) (rest : List Char), stack.length + room ≤ maxNesting →
    EndsNumber rest →
      readValue stack (tokens (render depth value ++ rest)) =
        readBehind stack value.tree (tokens rest)

/-- What stands at the end of a list or an object: a line of its own with the closing bracket. -/
def closing (depth : Nat) (bracket : Char) (rest : List Char) : List Char :=
  indent depth ++ bracket :: rest

section Parts

variable (depth outer : Nat) (rest : List Char)

theorem tokens_colon (cs : List Char) :
    tokens (':' :: ' ' :: cs) = .token (':' :: ' ' :: cs) .colon (' ' :: cs) (tokens cs) := by
  have hspace : IsBlanks [' '] := by decide
  rw [tokens_cons rfl rfl, ← hspace.tokens_append cs]
  rfl

theorem endsNumber_closing (bracket : Char) : EndsNumber (closing outer bracket rest) :=
  endsNumber_cons (by decide) _

theorem endsNumber_renderItems (items : List Json) (bracket : Char) :
    EndsNumber (renderItems depth items ++ closing outer bracket rest) := by
  cases items with
  | nil => exact endsNumber_closing outer rest bracket
  | cons item items =>
      rw [renderItems]
      exact endsNumber_cons (by decide) _

theorem endsNumber_renderFields (fields : List (String × Json)) (bracket : Char) :
    EndsNumber (renderFields depth fields ++ closing outer bracket rest) := by
  cases fields with
  | nil => exact endsNumber_closing outer rest bracket
  | cons field fields =>
      rw [renderFields]
      exact endsNumber_cons (by decide) _

/-- The items behind the first one, and the end of the list. -/
theorem readBehind_renderItems {room : Nat} {items : List Json}
    (hitems : ∀ item ∈ items, ReadsBack room item) {stack : List Frame}
    (hroom : stack.length + 1 + room ≤ maxNesting) (before : List Tree) (value : Tree) :
    readBehind (.list before :: stack) value
        (tokens (renderItems depth items ++ closing outer ']' rest)) =
      readBehind stack (.list ((value :: before).reverse ++ trees items)) (tokens rest) := by
  induction items generalizing before value with
  | nil =>
      rw [renderItems, List.nil_append, closing, tokens_indent, tokens_cons rfl rfl, readBehind,
        trees, List.append_nil]
  | cons item items ih =>
      obtain ⟨hitem, hitems⟩ := List.forall_mem_cons.mp hitems
      rw [renderItems, List.cons_append, tokens_cons rfl rfl, readBehind, List.append_assoc,
        List.append_assoc, tokens_indent,
        hitem (.list (value :: before) :: stack) depth _ hroom
          (endsNumber_renderItems depth outer rest items ']'), ih hitems]
      simp [trees]

/-- The key in front of a value, behind the comma or the bracket. -/
theorem tokens_key (key : String) (cs : List Char) :
    ∃ start behind start' behind', tokens (indent depth ++ quote key.toList ++ [':', ' '] ++ cs) =
      .token start (.str key) behind (.token start' .colon behind' (tokens cs)) := by
  rw [List.append_assoc, List.append_assoc, tokens_indent, tokens_quote]
  rw [show [':', ' '] ++ cs = ':' :: ' ' :: cs from rfl, tokens_colon]
  exact ⟨_, _, _, _, rfl⟩

/-- The fields behind the first one, and the end of the object. -/
theorem readBehind_renderFields {room : Nat} {fields : List (String × Json)}
    (hfields : ∀ field ∈ fields, ReadsBack room field.2) {stack : List Frame}
    (hroom : stack.length + 1 + room ≤ maxNesting) (before : List (String × Tree)) (key : String)
    (value : Tree) :
    readBehind (.object before key :: stack) value
        (tokens (renderFields depth fields ++ closing outer '}' rest)) =
      readBehind stack (.object (((key, value) :: before).reverse ++ members fields))
        (tokens rest) := by
  induction fields generalizing before key value with
  | nil =>
      rw [renderFields, List.nil_append, closing, tokens_indent, tokens_cons rfl rfl, readBehind,
        members, List.append_nil]
  | cons field fields ih =>
      obtain ⟨next, item⟩ := field
      obtain ⟨hitem, hfields⟩ := List.forall_mem_cons.mp hfields
      obtain ⟨_, _, _, _, hkey⟩ := tokens_key depth next
        (render depth item ++ (renderFields depth fields ++ closing outer '}' rest))
      rw [renderFields, List.cons_append, tokens_cons rfl rfl, List.append_assoc, List.append_assoc,
        hkey, readBehind, hitem (.object ((key, value) :: before) next :: stack) depth _ hroom
          (endsNumber_renderFields depth outer rest fields '}'), ih hfields]
      simp [members]

end Parts

/-- A value that is printed as one word is one token. -/
theorem readsBack_word {room : Nat} {value : Json} {token : Token} {c : Char} {word : List Char}
    (hrender : ∀ depth, render depth value = c :: word) (hblank : isBlank c = false)
    (hscan : ∀ rest, scanToken (c :: (word ++ rest)) = .ok (token, rest))
    (hread : ∀ stack start rest more,
      readValue stack (.token start token rest more) = readBehind stack value.tree more) :
    ReadsBack room value := by
  intro stack depth rest _ _
  rw [hrender, List.cons_append, tokens_cons hblank (hscan rest), hread]

theorem readsBack_arr {room : Nat} {items : List Json}
    (hitems : ∀ item ∈ items, ReadsBack room item) : ReadsBack (room + 1) (.arr items) := by
  intro stack depth rest hroom _
  have hlt : stack.length < maxNesting := by omega
  cases items with
  | nil =>
      rw [render, List.cons_append, List.cons_append, List.nil_append, tokens_cons rfl rfl,
        readValue, if_pos hlt, tokens_cons rfl rfl, readValue]
      rfl
  | cons item items =>
      obtain ⟨hitem, hitems⟩ := List.forall_mem_cons.mp hitems
      have hparts : render depth (.arr (item :: items)) ++ rest =
          '[' :: (indent (depth + 1) ++ (render (depth + 1) item ++
            (renderItems (depth + 1) items ++ closing depth ']' rest))) := by
        simp [render, closing]
      have hinner : (Frame.list [] :: stack).length + room ≤ maxNesting := by
        rw [List.length_cons]
        omega
      rw [hparts, tokens_cons rfl rfl, readValue, if_pos hlt, tokens_indent,
        hitem (.list [] :: stack) (depth + 1) _ hinner
          (endsNumber_renderItems (depth + 1) depth rest items ']'),
        readBehind_renderItems (depth + 1) depth rest hitems hinner]
      rfl

theorem readsBack_obj {room : Nat} {fields : List (String × Json)}
    (hfields : ∀ field ∈ fields, ReadsBack room field.2) : ReadsBack (room + 1) (.obj fields) := by
  intro stack depth rest hroom _
  have hlt : stack.length < maxNesting := by omega
  cases fields with
  | nil =>
      rw [render, List.cons_append, List.cons_append, List.nil_append, tokens_cons rfl rfl,
        tokens_cons rfl rfl, readValue, if_pos hlt]
      rfl
  | cons field fields =>
      obtain ⟨key, item⟩ := field
      obtain ⟨hitem, hfields⟩ := List.forall_mem_cons.mp hfields
      have hparts : render depth (.obj ((key, item) :: fields)) ++ rest =
          '{' :: (indent (depth + 1) ++ quote key.toList ++ [':', ' '] ++
            (render (depth + 1) item ++
              (renderFields (depth + 1) fields ++ closing depth '}' rest))) := by
        simp [render, closing]
      have hinner : (Frame.object [] key :: stack).length + room ≤ maxNesting := by
        rw [List.length_cons]
        omega
      obtain ⟨_, _, _, _, hkey⟩ := tokens_key (depth + 1) key
        (render (depth + 1) item ++ (renderFields (depth + 1) fields ++ closing depth '}' rest))
      rw [hparts, tokens_cons rfl rfl, hkey, readValue, if_pos hlt,
        hitem (.object [] key :: stack) (depth + 1) _ hinner
          (endsNumber_renderFields (depth + 1) depth rest fields '}'),
        readBehind_renderFields (depth + 1) depth rest hfields hinner]
      rfl

theorem Readable.readsBack {room : Nat} {value : Json} (hreadable : Readable room value) :
    ReadsBack room value := by
  induction hreadable with
  | null room =>
      exact readsBack_word (fun _ => rfl) rfl (fun _ => rfl) fun _ _ _ _ => by rw [readValue, tree]
  | bool room b =>
      cases b
      all_goals
        exact readsBack_word (fun _ => rfl) rfl (fun _ => rfl) fun _ _ _ _ => by rw [readValue, tree]
  | nat room hn =>
      intro stack depth rest _ hrest
      rw [render, tokens_toString hn hrest, readValue, tree]
  | str room s =>
      intro stack depth rest _ _
      rw [render, tokens_quote, readValue, tree]
  | arr _ ih => exact readsBack_arr ih
  | obj _ ih => exact readsBack_obj ih

/-- The text of a value holds that value. -/
theorem Readable.ofText?_pretty {value : Json} (hreadable : Readable maxNesting value) :
    Tree.ofText? value.pretty = some value.tree := by
  have hread := hreadable.readsBack [] 0 [] (Nat.le_refl _) endsNumber_nil
  rw [List.append_nil] at hread
  rw [Tree.ofText?, pretty, String.toList_ofList, hread, tokens_nil, readBehind]

end LintCorpus.Json
