import VectorFetch.Proofs.Json.Layout
import VectorFetch.Proofs.Json.Lexer
import VectorFetch.Proofs.Json.Scope

/-!
# The lines of a document

* `Value.compact`, `Value.parts`: a value without any white space, and how many members and elements
  it has.
* `Opens`, `Cursor.behind`: where a value may stand, and what comes of it.
* `lays_word`, `lays_quoted`: words and strings keep to the layout.
* `KeepsLayout`, `keepsLayout_of_readable`, `lays_pretty`: so do the documents of all values that can
  be read.
-/

namespace VectorFetch.Json

/-! ## Compact documents -/

mutual

/-- The document of a value without any white space between its tokens. -/
def Value.compact : Value → List Char
  | .null => ['n', 'u', 'l', 'l']
  | .bool true => ['t', 'r', 'u', 'e']
  | .bool false => ['f', 'a', 'l', 's', 'e']
  | .number text => text.toList
  | .string text => (quoted text).toList
  | .array [] => ['[', ']']
  | .array (item :: items) => '[' :: item.compact ++ compactItems items
  | .object [] => ['{', '}']
  | .object ((name, value) :: members) =>
    '{' :: (quoted name).toList ++ ':' :: value.compact ++ compactMembers members

/-- The items behind the first one, and the end of the array. -/
def compactItems : List Value → List Char
  | [] => [']']
  | item :: items => ',' :: item.compact ++ compactItems items

/-- The members behind the first one, and the end of the object. -/
def compactMembers : List (String × Value) → List Char
  | [] => ['}']
  | (name, value) :: members =>
    ',' :: (quoted name).toList ++ ':' :: value.compact ++ compactMembers members

end

mutual

/-- How many members and elements a value has, those inside of them included. -/
def Value.parts : Value → Nat
  | .array items => partsOfItems items
  | .object members => partsOfMembers members
  | .null | .bool _ | .number _ | .string _ => 0

def partsOfItems : List Value → Nat
  | [] => 0
  | item :: items => 1 + item.parts + partsOfItems items

def partsOfMembers : List (String × Value) → Nat
  | [] => 0
  | (_, value) :: members => 1 + value.parts + partsOfMembers members

end

/-! ## Where values stand -/

/-- How many members and elements have begun once something stands at a scope. -/
def Scope.begun (s : Scope) : Nat := if s.awaits then s.parts + 1 else s.parts

/-- A value, or the name of a member, may stand inside so many containers. -/
structure Opens (depth : Nat) (s : Cursor) : Prop where
  outside : s.scope.quoting = .outside
  inner : s.scope.depth = depth
  first : s.scope.awaits → s.column = .blank (4 * depth)
  column : ∀ n, s.column = .blank n → n = 4 * depth

/-- Behind a value, or the name of a member, inside so many containers. -/
def Cursor.behind (depth parts : Nat) : Cursor := ⟨⟨.outside, depth, false, parts⟩, .filled false⟩

variable {s last : Cursor} {scope : Scope} {depth parts : Nat} {c : Char} {text : List Char}

theorem lays_one (allowed : s.Allows c) (step : s.step c = last) :
    Lays s [c] last (if s.scope.skips c then [] else [c]) := by
  have alone := Lays.cons allowed (.nil _)
  rwa [List.append_nil, step] at alone

theorem Scope.step_of_blank (outside : scope.quoting = .outside) (blank : isBlank c) :
    scope.step c = scope := by
  simp only [step, outside, blank, if_true]

theorem ne_of_not_isBlank {blank : Char} (notBlank : ¬isBlank c) (isBlank : isBlank blank) :
    c ≠ blank := by
  rintro rfl
  exact notBlank isBlank

/-- Behind what is no white space a line goes on. -/
theorem Column.step_of_not_isBlank (notBlank : ¬isBlank c) (column : Column) :
    column.step c = .filled false := by
  have space : c ≠ ' ' := ne_of_not_isBlank notBlank rfl
  have newline : c ≠ '\n' := ne_of_not_isBlank notBlank rfl
  cases column with
  | blank n => simp [step, space, newline, notBlank]
  | filled spaced => simp [step, newline, notBlank]

/-- Behind other characters of a line anything goes that ends no line and begins no part. -/
theorem allows_of_filled {spaced : Bool} (column : s.column = .filled spaced)
    (awaits : s.scope.awaits = false) (newline : c ≠ '\n') : s.Allows c where
  newline same := absurd same newline
  indented n blank := by
    rw [column] at blank
    cases blank
  begins begins := by simp [Scope.begins, awaits] at begins
  empty _ there := by
    rw [awaits] at there
    cases there

/-! ### White space -/

theorem lays_newline (outside : scope.quoting = .outside) :
    Lays ⟨scope, .filled false⟩ ['\n'] ⟨scope, .blank 0⟩ [] := by
  have allowed : Cursor.Allows ⟨scope, .filled false⟩ '\n' := {
    newline := fun _ => ⟨outside, rfl⟩
    indented := nofun
    begins := fun begins => by simp [Scope.begins, isBlank] at begins
    empty := fun _ _ closes => by cases closes }
  have step : Cursor.step ⟨scope, .filled false⟩ '\n' = ⟨scope, .blank 0⟩ := by
    rw [Cursor.step, Scope.step_of_blank outside rfl]
    rfl
  simpa [Scope.skips, outside, isBlank] using lays_one allowed step

theorem lays_spaces (outside : scope.quoting = .outside) (m n : Nat) :
    Lays ⟨scope, .blank m⟩ (List.replicate n ' ') ⟨scope, .blank (m + n)⟩ [] := by
  induction n with
  | zero => exact .nil _
  | succ n ih =>
    have allowed : Cursor.Allows ⟨scope, .blank (m + n)⟩ ' ' := {
      newline := nofun
      indented := fun _ _ space => absurd rfl space
      begins := fun begins => by simp [Scope.begins, isBlank] at begins
      empty := fun _ _ closes => by cases closes }
    have step : Cursor.step ⟨scope, .blank (m + n)⟩ ' ' = ⟨scope, .blank (m + (n + 1))⟩ := by
      rw [Cursor.step, Scope.step_of_blank outside rfl]
      rfl
    rw [List.replicate_succ']
    simpa [Scope.skips, outside, isBlank] using ih.append (lays_one allowed step)

theorem lays_indent (outside : scope.quoting = .outside) (depth : Nat) :
    Lays ⟨scope, .filled false⟩ ('\n' :: (indent depth).toList) ⟨scope, .blank (4 * depth)⟩ [] := by
  have spaces := lays_spaces outside 0 (4 * depth)
  rw [Nat.zero_add] at spaces
  rw [indent, String.toList_ofList]
  exact (lays_newline outside).append spaces

/-! ### Tokens -/

theorem Opens.allows (opens : Opens depth s) (notBlank : ¬isBlank c)
    (notClosing : closesBracket c = false) : s.Allows c where
  newline same := absurd same (ne_of_not_isBlank notBlank rfl)
  indented n column _ _ := by
    refine ⟨depth, opens.column n column, ?_⟩
    rw [notClosing, opens.inner]
    rfl
  begins begins := by
    simp only [Scope.begins, Bool.and_eq_true] at begins
    exact ⟨_, opens.first begins.1.1.2⟩
  empty _ _ closes := by
    rw [notClosing] at closes
    cases closes

/-- The first character of a value, or of the name of a member. -/
theorem Opens.lays (opens : Opens depth s) (notBlank : ¬isBlank c)
    (notClosing : closesBracket c = false) :
    Lays s [c] ⟨⟨if c = '"' then .inside else .outside,
      if opensBracket c then depth + 1 else depth, opensBracket c || c = ',', s.scope.begun⟩,
      .filled false⟩ [c] := by
  have begins : s.scope.begins c = s.scope.awaits := by
    simp [Scope.begins, opens.outside, notBlank, notClosing]
  have step : s.step c = ⟨⟨if c = '"' then .inside else .outside,
      if opensBracket c then depth + 1 else depth, opensBracket c || c = ',', s.scope.begun⟩,
      .filled false⟩ := by
    rw [Cursor.step, Column.step_of_not_isBlank notBlank]
    simp [Scope.step, opens.outside, notBlank, notClosing, opens.inner, begins, Scope.begun]
  simpa [Scope.skips, notBlank] using lays_one (opens.allows notBlank notClosing) step

/-- A token behind other ones on its line, that is no bracket and begins no string. -/
theorem lays_behind {spaced : Bool} (notBlank : ¬isBlank c) (notQuote : c ≠ '"')
    (notBracket : opensBracket c = false ∧ closesBracket c = false) :
    Lays ⟨⟨.outside, depth, false, parts⟩, .filled spaced⟩ [c]
      ⟨⟨.outside, depth, decide (c = ','), parts⟩, .filled false⟩ [c] := by
  have newline : c ≠ '\n' := ne_of_not_isBlank notBlank rfl
  have step : Cursor.step ⟨⟨.outside, depth, false, parts⟩, .filled spaced⟩ c =
      ⟨⟨.outside, depth, decide (c = ','), parts⟩, .filled false⟩ := by
    rw [Cursor.step, Column.step_of_not_isBlank notBlank]
    simp [Scope.step, Scope.begins, notBlank, notQuote, notBracket]
  simpa [Scope.skips, notBlank] using lays_one (allows_of_filled rfl rfl newline) step

theorem lays_close {awaits : Bool} {column : Column} (closes : closesBracket c)
    (together : awaits → column = .filled false) (indented : ∀ n, column = .blank n → n = 4 * depth) :
    Lays ⟨⟨.outside, depth + 1, awaits, parts⟩, column⟩ [c] (.behind depth parts) [c] := by
  have bracket : c = ']' ∨ c = '}' := by simpa [closesBracket] using closes
  have notBlank : ¬isBlank c := by rcases bracket with rfl | rfl <;> decide
  have allowed : Cursor.Allows ⟨⟨.outside, depth + 1, awaits, parts⟩, column⟩ c := {
    newline := fun same => absurd same (ne_of_not_isBlank notBlank rfl)
    indented := fun n blank _ _ => ⟨depth, indented n blank, by simp [closes]⟩
    begins := fun begins => by simp [Scope.begins, closes] at begins
    empty := fun _ there _ => together there }
  have step : Cursor.step ⟨⟨.outside, depth + 1, awaits, parts⟩, column⟩ c =
      .behind depth parts := by
    rw [Cursor.step, Column.step_of_not_isBlank notBlank]
    rcases bracket with rfl | rfl
    · simp [Scope.step, Scope.begins, isBlank, opensBracket, closesBracket, Cursor.behind]
    · simp [Scope.step, Scope.begins, isBlank, opensBracket, closesBracket, Cursor.behind]
  simpa [Scope.skips, notBlank] using lays_one allowed step

/-! ### Words and strings -/

theorem IsWordChar.ne {other : Char} (word : IsWordChar c) (notWord : ¬IsWordChar other) :
    c ≠ other := by
  rintro rfl
  exact notWord word

theorem IsWordChar.plain (word : IsWordChar c) :
    ¬isBlank c ∧ opensBracket c = false ∧ closesBracket c = false ∧ c ≠ '"' ∧ c ≠ ',' := by
  refine ⟨?_, ?_, ?_, word.ne (by decide), word.ne (by decide)⟩
  · simp [isBlank, word.ne (show ¬IsWordChar ' ' by decide),
      word.ne (show ¬IsWordChar '\t' by decide), word.ne (show ¬IsWordChar '\n' by decide),
      word.ne (show ¬IsWordChar '\r' by decide)]
  · simp [opensBracket, word.ne (show ¬IsWordChar '[' by decide),
      word.ne (show ¬IsWordChar '{' by decide)]
  · simp [closesBracket, word.ne (show ¬IsWordChar ']' by decide),
      word.ne (show ¬IsWordChar '}' by decide)]

theorem lays_word {word : List Char} (opens : Opens depth s) (filled : word ≠ [])
    (letters : ∀ c ∈ word, IsWordChar c) :
    Lays s word (.behind depth s.scope.begun) word := by
  obtain ⟨c, rest, rfl⟩ := List.exists_cons_of_ne_nil filled
  obtain ⟨first, others⟩ := List.forall_mem_cons.1 letters
  obtain ⟨notBlank, notOpening, notClosing, notQuote, notComma⟩ := first.plain
  -- The first letter may begin a part. The others follow it on its line and begin nothing.
  have begins := opens.lays notBlank notClosing
  simp only [notOpening, notQuote, notComma, decide_false, Bool.or_self, Bool.false_eq_true,
    if_false] at begins
  have goesOn : ∀ rest : List Char, (∀ c ∈ rest, IsWordChar c) →
      Lays (.behind depth s.scope.begun) rest (.behind depth s.scope.begun) rest := by
    intro rest letters
    induction rest with
    | nil => exact .nil _
    | cons c rest ih =>
      obtain ⟨letter, others⟩ := List.forall_mem_cons.1 letters
      obtain ⟨notBlank, notOpening, notClosing, notQuote, notComma⟩ := letter.plain
      have one : Lays (.behind depth s.scope.begun) [c]
          ⟨⟨.outside, depth, decide (c = ','), s.scope.begun⟩, .filled false⟩ [c] :=
        lays_behind notBlank notQuote ⟨notOpening, notClosing⟩
      rw [decide_eq_false notComma] at one
      exact one.append (ih others)
  exact begins.append (goesOn rest others)

/-- Inside a string. -/
def Cursor.within (quoting : Quoting) (depth parts : Nat) (spaced : Bool) : Cursor :=
  ⟨⟨quoting, depth, false, parts⟩, .filled spaced⟩

theorem lays_within {quoting next : Quoting} {spaced : Bool} (inside : quoting ≠ .outside)
    (newline : c ≠ '\n')
    (step : Scope.step ⟨quoting, depth, false, parts⟩ c = ⟨next, depth, false, parts⟩) :
    Lays (.within quoting depth parts spaced) [c] (.within next depth parts (isBlank c)) [c] := by
  have goes : (Cursor.within quoting depth parts spaced).step c =
      .within next depth parts (isBlank c) := by
    simp only [Cursor.within, Cursor.step, step, Column.step, if_neg newline]
  simpa [Scope.skips, Cursor.within, inside] using lays_one (allows_of_filled rfl rfl newline) goes

theorem lays_plain {spaced : Bool} (newline : c ≠ '\n') (notQuote : c ≠ '"')
    (notBackslash : c ≠ '\\') :
    Lays (.within .inside depth parts spaced) [c] (.within .inside depth parts (isBlank c)) [c] :=
  lays_within nofun newline (by simp [Scope.step, notQuote, notBackslash])

theorem lays_escape {spaced : Bool} (newline : c ≠ '\n') :
    Lays (.within .inside depth parts spaced) ['\\', c] (.within .inside depth parts (isBlank c))
      ['\\', c] := by
  have backslash : Lays (.within .inside depth parts spaced) ['\\']
      (.within .escaped depth parts false) ['\\'] := lays_within nofun (by decide) rfl
  have escaped : Lays (.within .escaped depth parts false) [c]
      (.within .inside depth parts (isBlank c)) [c] := lays_within nofun newline rfl
  exact backslash.append escaped

theorem lays_escapeChar (c : Char) (depth parts : Nat) (spaced : Bool) :
    ∃ behind, Lays (.within .inside depth parts spaced) (escapeChar c)
      (.within .inside depth parts behind) (escapeChar c) := by
  unfold escapeChar
  split
  -- All other cases are a backslash and a letter.
  case h_8 notQuote notBackslash _ _ newline _ _ =>
    split
    next control =>
      -- Four characters behind the letter, and none of them means anything in a string.
      have digit : ∀ n < 16, n.digitChar ≠ '\n' ∧ n.digitChar ≠ '"' ∧ n.digitChar ≠ '\\' := by
        decide
      have small : c.toNat / 16 < 16 := by omega
      obtain ⟨newline, quote, backslash⟩ := digit (c.toNat / 16) small
      obtain ⟨newline', quote', backslash'⟩ := digit (c.toNat % 16) (Nat.mod_lt _ (by decide))
      have zero : ∀ spaced, Lays (.within .inside depth parts spaced) ['0']
          (.within .inside depth parts false) ['0'] := fun _ =>
        lays_plain (by decide) (by decide) (by decide)
      have letter : Lays (.within .inside depth parts spaced) ['\\', 'u']
          (.within .inside depth parts false) ['\\', 'u'] := lays_escape (by decide)
      exact ⟨_, (((letter.append (zero _)).append (zero _)).append
        (lays_plain newline quote backslash)).append (lays_plain newline' quote' backslash')⟩
    next => exact ⟨_, lays_plain newline notQuote notBackslash⟩
  all_goals exact ⟨_, lays_escape (by decide)⟩

theorem lays_quoted (opens : Opens depth s) (text : String) :
    Lays s (quoted text).toList (.behind depth s.scope.begun) (quoted text).toList := by
  have begins : Lays s ['"'] (.within .inside depth s.scope.begun false) ['"'] :=
    opens.lays (by decide) rfl
  -- By induction on the characters, with whatever the last one has left behind.
  have body : ∀ (chars : List Char) (spaced : Bool), ∃ behind,
      Lays (.within .inside depth s.scope.begun spaced) (chars.flatMap escapeChar)
        (.within .inside depth s.scope.begun behind) (chars.flatMap escapeChar) := by
    intro chars
    induction chars with
    | nil => exact fun spaced => ⟨spaced, .nil _⟩
    | cons c chars ih =>
      intro spaced
      obtain ⟨mid, first⟩ := lays_escapeChar c depth s.scope.begun spaced
      obtain ⟨behind, rest⟩ := ih mid
      exact ⟨behind, first.append rest⟩
  obtain ⟨behind, inside⟩ := body text.toList false
  have ends : Lays (.within .inside depth s.scope.begun behind) ['"'] (.behind depth s.scope.begun)
      ['"'] := lays_within nofun (by decide) rfl
  rw [quoted, String.toList_ofList]
  exact (begins.append inside).append ends

/-! ### Containers -/

/-- Before a member or an element, at the start of its line. -/
def Cursor.line (depth parts : Nat) : Cursor :=
  ⟨⟨.outside, depth, true, parts⟩, .blank (4 * depth)⟩

theorem opens_line (depth parts : Nat) : Opens depth (.line depth parts) where
  outside := rfl
  inner := rfl
  first _ := rfl
  column _ := by
    rintro ⟨⟩
    rfl

/-- The bracket that a container begins with. -/
theorem Opens.lays_bracket (opens : Opens depth s) (bracket : opensBracket c) :
    Lays s [c] ⟨⟨.outside, depth + 1, true, s.scope.begun⟩, .filled false⟩ [c] := by
  have same : c = '[' ∨ c = '{' := by simpa [opensBracket] using bracket
  rcases same with rfl | rfl
  · exact opens.lays (by decide) rfl
  · exact opens.lays (by decide) rfl

theorem lays_open (opens : Opens depth s) (bracket : opensBracket c) :
    Lays s (c :: '\n' :: (indent (depth + 1)).toList) (.line (depth + 1) s.scope.begun) [c] :=
  (opens.lays_bracket bracket).append (lays_indent rfl (depth + 1))

theorem lays_empty {closing : Char} (opens : Opens depth s) (bracket : opensBracket c)
    (closes : closesBracket closing) :
    Lays s [c, closing] (.behind depth s.scope.begun) [c, closing] :=
  (opens.lays_bracket bracket).append (lays_close closes (fun _ => rfl) nofun)

theorem lays_comma (depth parts : Nat) :
    Lays (.behind depth parts) (',' :: '\n' :: (indent depth).toList) (.line depth parts) [','] := by
  have comma : Lays (.behind depth parts) [','] ⟨⟨.outside, depth, true, parts⟩, .filled false⟩ [','] :=
    lays_behind (by decide) (by decide) ⟨rfl, rfl⟩
  exact comma.append (lays_indent rfl depth)

theorem lays_end (depth parts : Nat) (closes : closesBracket c) :
    Lays (.behind (depth + 1) parts) ('\n' :: (indent depth).toList ++ [c]) (.behind depth parts)
      [c] := by
  have line : Lays (.behind (depth + 1) parts) ('\n' :: (indent depth).toList)
      ⟨⟨.outside, depth + 1, false, parts⟩, .blank (4 * depth)⟩ [] := lays_indent rfl depth
  refine line.append (lays_close closes nofun ?_)
  rintro n ⟨⟩
  rfl

theorem lays_colon (depth parts : Nat) :
    Lays (.behind depth parts) [':', ' '] ⟨⟨.outside, depth, false, parts⟩, .filled true⟩ [':'] := by
  have colon : Lays (.behind depth parts) [':'] (.behind depth parts) [':'] :=
    lays_behind (by decide) (by decide) ⟨rfl, rfl⟩
  have space : Lays (.behind depth parts) [' '] ⟨⟨.outside, depth, false, parts⟩, .filled true⟩ [] :=
    lays_one (allows_of_filled rfl rfl (by decide)) rfl
  exact colon.append space

/-! ### Values -/

/-- The document of a value keeps to the layout wherever the value may stand. -/
def KeepsLayout (value : Value) : Prop :=
  ∀ (depth : Nat) (s : Cursor), Opens depth s →
    Lays s (textOf (value.fragments depth)) (.behind depth (s.scope.begun + value.parts))
      value.compact

theorem KeepsLayout.line {value : Value} (keeps : KeepsLayout value) (depth parts : Nat) :
    Lays (.line depth parts) (textOf (value.fragments depth))
      (.behind depth (parts + (1 + value.parts))) value.compact := by
  rw [← Nat.add_assoc]
  exact keeps depth _ (opens_line depth parts)

theorem KeepsLayout.member {value : Value} (keeps : KeepsLayout value) (name : String)
    (depth parts : Nat) :
    Lays (.line depth parts)
      ((quoted name).toList ++ ':' :: ' ' :: textOf (value.fragments depth))
      (.behind depth (parts + (1 + value.parts))) ((quoted name).toList ++ ':' :: value.compact) := by
  have opens : Opens depth ⟨⟨.outside, depth, false, parts + 1⟩, .filled true⟩ :=
    ⟨rfl, rfl, nofun, nofun⟩
  rw [← Nat.add_assoc]
  exact (lays_quoted (opens_line depth parts) name).append
    ((lays_colon depth (parts + 1)).append (keeps depth _ opens))

theorem lays_itemFragments {items : List Value} (each : ∀ item ∈ items, KeepsLayout item)
    (depth parts : Nat) : Lays (.behind (depth + 1) parts) (textOf (itemFragments depth items))
      (.behind depth (parts + partsOfItems items)) (compactItems items) := by
  induction items generalizing parts with
  | nil =>
    have ends : closesBracket ']' := rfl
    simpa [textOf, itemFragments, partsOfItems, compactItems] using lays_end depth parts ends
  | cons item items ih =>
    obtain ⟨keeps, others⟩ := List.forall_mem_cons.1 each
    have one := (lays_comma (depth + 1) parts).append (keeps.line (depth + 1) parts)
    have all := one.append (ih others _)
    rw [partsOfItems, ← Nat.add_assoc]
    simpa [textOf, itemFragments, compactItems] using all

theorem lays_memberFragments {members : Members} (each : ∀ member ∈ members, KeepsLayout member.2)
    (depth parts : Nat) : Lays (.behind (depth + 1) parts) (textOf (memberFragments depth members))
      (.behind depth (parts + partsOfMembers members)) (compactMembers members) := by
  induction members generalizing parts with
  | nil =>
    have ends : closesBracket '}' := rfl
    simpa [textOf, memberFragments, partsOfMembers, compactMembers] using lays_end depth parts ends
  | cons member members ih =>
    obtain ⟨name, value⟩ := member
    obtain ⟨keeps, others⟩ := List.forall_mem_cons.1 each
    have one := (lays_comma (depth + 1) parts).append (keeps.member name (depth + 1) parts)
    have all := one.append (ih others _)
    rw [partsOfMembers, ← Nat.add_assoc]
    simpa [textOf, memberFragments, compactMembers] using all

/-- The documents of the values that can be read keep to the layout. -/
theorem keepsLayout_of_readable {value : Value} (readable : Readable value) : KeepsLayout value := by
  -- The depth is not fixed: the parts of a container stand one deeper, and its end is back at its own.
  induction readable with
  | null => exact fun depth s opens => lays_word opens nofun (isWordChar_of_all rfl)
  | bool b =>
    intro depth s opens
    cases b with
    | false => exact lays_word opens nofun (isWordChar_of_all rfl)
    | true => exact lays_word opens nofun (isWordChar_of_all rfl)
  | @number n normal =>
    intro depth s opens
    have filled : n.text ≠ [] := by simp [n.text_eq, n.isDigits.ne_nil]
    have word := lays_word opens filled fun c member => .inr (n.isNumberChar c member)
    simpa [textOf, Value.fragments, Value.compact, Value.parts] using word
  | string text =>
    intro depth s opens
    simpa [textOf, Value.fragments, Value.compact, Value.parts] using lays_quoted opens text
  | @array items each ih =>
    intro depth s opens
    cases items with
    | nil => exact lays_empty opens rfl rfl
    | cons item items =>
      obtain ⟨keeps, others⟩ := List.forall_mem_cons.1 ih
      have first := (lays_open opens (c := '[') rfl).append (keeps.line (depth + 1) s.scope.begun)
      have all := first.append (lays_itemFragments others depth _)
      rw [Value.parts, partsOfItems, ← Nat.add_assoc]
      simpa [textOf, Value.fragments, Value.compact] using all
  | @object members each distinct unmarked ih =>
    intro depth s opens
    cases members with
    | nil => exact lays_empty opens rfl rfl
    | cons member members =>
      obtain ⟨name, value⟩ := member
      obtain ⟨keeps, others⟩ := List.forall_mem_cons.1 ih
      have first := (lays_open opens (c := '{') rfl).append
        (keeps.member name (depth + 1) s.scope.begun)
      have all := first.append (lays_memberFragments others depth _)
      rw [Value.parts, partsOfMembers, ← Nat.add_assoc]
      simpa [textOf, Value.fragments, Value.compact] using all

theorem lays_pretty {value : Value} (readable : Readable value) :
    Lays .start value.pretty.toList (.behind 0 value.parts) value.compact := by
  have opens : Opens 0 .start := {
    outside := rfl
    inner := rfl
    first := nofun
    column := fun n => by
      rintro ⟨⟩
      rfl }
  have lays := keepsLayout_of_readable readable 0 _ opens
  rw [show Cursor.start.scope.begun = 0 from rfl, Nat.zero_add] at lays
  rwa [Value.pretty, String.toList_join]

end VectorFetch.Json
