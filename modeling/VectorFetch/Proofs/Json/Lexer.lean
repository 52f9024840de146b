import VectorFetch.Proofs.Json.Escapes

/-!
# Tokens of JSON

A text is cut into tokens from its front, without knowing what may follow what.

* `Lexeme`: a token.
* `escape?`, `stringRest?`, `word?`: what stands behind a backslash, behind a quote, and
  between marks and white space.
* `lexemes?`: the tokens of a text.
* `lexemes?_of_document`: a text that the grammar derives has the tokens of its tree.
* `lexemes_injective`: the tokens settle the tree.
-/

namespace VectorFetch.Json

/-! ## Tokens -/

/-- A token, with numbers of some kind. -/
inductive Lexeme (ν : Type) where
  | openBrace
  | closeBrace
  | openBracket
  | closeBracket
  | colon
  | comma
  | null
  | bool (value : Bool)
  | number (n : ν)
  | string (s : String)
  deriving DecidableEq

/-- The same token with another kind of number. -/
def Lexeme.map {μ ν : Type} (f : μ → ν) : Lexeme μ → Lexeme ν
  | .openBrace => .openBrace
  | .closeBrace => .closeBrace
  | .openBracket => .openBracket
  | .closeBracket => .closeBracket
  | .colon => .colon
  | .comma => .comma
  | .null => .null
  | .bool b => .bool b
  | .number n => .number (f n)
  | .string s => .string s

/-! ## Strings -/

/-- The character of a surrogate pair behind its first half, and the rest. -/
def lowHalf? (high : Nat) : List Char → Option (Char × List Char)
  | '\\' :: 'u' :: a :: b :: c :: d :: rest =>
    match codeUnit? [a, b, c, d] with
    | some low => if IsLowSurrogate low then some (pairedChar high low, rest) else none
    | none => none
  | _ => none

/-- The character of an escape behind its backslash, and the rest. -/
def escape? : List Char → Option (Char × List Char)
  | 'u' :: a :: b :: c :: d :: rest =>
    match codeUnit? [a, b, c, d] with
    | none => none
    | some n =>
      if IsLowSurrogate n then none
      else if IsHighSurrogate n then lowHalf? n rest
      else some (Char.ofNat n, rest)
  | x :: rest => (escapedChar? x).map fun c => (c, rest)
  | [] => none

theorem length_of_lowHalf? {high : Nat} {text rest : List Char} {c : Char}
    (read : lowHalf? high text = some (c, rest)) : rest.length < text.length := by
  unfold lowHalf? at read
  split at read
  next =>
    split at read
    next =>
      split at read
      next =>
        obtain ⟨-, rfl⟩ := Prod.mk.inj (Option.some.inj read)
        simp only [List.length_cons]
        omega
      next => cases read
    next => cases read
  next => cases read

theorem length_of_escape? {text rest : List Char} {c : Char}
    (read : escape? text = some (c, rest)) : rest.length < text.length := by
  unfold escape? at read
  split at read
  next =>
    split at read
    next => cases read
    next =>
      split at read
      next => cases read
      next =>
        split at read
        next =>
          have := length_of_lowHalf? read
          simp only [List.length_cons]
          omega
        next =>
          obtain ⟨-, rfl⟩ := Prod.mk.inj (Option.some.inj read)
          simp only [List.length_cons]
          omega
  next =>
    obtain ⟨_, -, same⟩ := Option.map_eq_some_iff.1 read
    cases same
    exact Nat.lt_succ_self _
  next => cases read

/-- The characters of a string behind its quote, and what follows it. -/
def stringRest? : List Char → Option (List Char × List Char)
  | [] => none
  | '"' :: rest => some ([], rest)
  | '\\' :: rest =>
    match _read : escape? rest with
    | some (c, rest) => (stringRest? rest).map fun (s, rest) => (c :: s, rest)
    | none => none
  | c :: rest =>
    if c.toNat < 0x20 then none else (stringRest? rest).map fun (s, rest) => (c :: s, rest)
termination_by text => text.length
decreasing_by
  · have := length_of_escape? _read
    simp only [List.length_cons]
    omega
  · simp

theorem length_of_stringRest? {text rest s : List Char}
    (read : stringRest? text = some (s, rest)) : rest.length < text.length := by
  fun_induction stringRest? text generalizing s with
  | case1 => cases read
  | case2 rest => cases read; simp
  | case3 _ c rest escaped ih =>
    obtain ⟨⟨s', rest'⟩, more, same⟩ := Option.map_eq_some_iff.1 read
    cases same
    have := ih more
    have := length_of_escape? escaped
    simp only [List.length_cons]
    omega
  | case4 => cases read
  | case5 => cases read
  | case6 _ _ _ _ _ ih =>
    obtain ⟨⟨s', rest'⟩, more, same⟩ := Option.map_eq_some_iff.1 read
    cases same
    have := ih more
    simp only [List.length_cons]
    omega

/-! ## Cutting a text -/

/-- A character of a word or a number. -/
def IsWordChar (c : Char) : Prop := c.isAlpha ∨ IsNumberChar c

instance (c : Char) : Decidable (IsWordChar c) := inferInstanceAs (Decidable (_ ∨ _))

theorem isWordChar_of_all {w : List Char} (letters : w.all Char.isAlpha) :
    ∀ c ∈ w, IsWordChar c :=
  fun c member => .inl (List.all_eq_true.1 letters c member)

/-- The token that a word or a number is. -/
def word? (w : List Char) : Option (Lexeme Numeral) :=
  if w = ['n', 'u', 'l', 'l'] then some .null
  else if w = ['t', 'r', 'u', 'e'] then some (.bool true)
  else if w = ['f', 'a', 'l', 's', 'e'] then some (.bool false)
  else (Numeral.ofText? w).map .number

/-- The token at the front of a text, and the rest. -/
def lexeme? : List Char → Option (Lexeme Numeral × List Char)
  | [] => none
  | '{' :: rest => some (.openBrace, rest)
  | '}' :: rest => some (.closeBrace, rest)
  | '[' :: rest => some (.openBracket, rest)
  | ']' :: rest => some (.closeBracket, rest)
  | ':' :: rest => some (.colon, rest)
  | ',' :: rest => some (.comma, rest)
  | '"' :: rest => (stringRest? rest).map fun (s, rest) => (.string (String.ofList s), rest)
  | text =>
    (word? (text.takeWhile IsWordChar)).map fun token => (token, text.dropWhile IsWordChar)

theorem length_of_lexeme? {text rest : List Char} {token : Lexeme Numeral}
    (read : lexeme? text = some (token, rest)) : rest.length < text.length := by
  unfold lexeme? at read
  split at read
  case h_1 => cases read
  case h_8 =>
    obtain ⟨⟨s, rest⟩, inside, same⟩ := Option.map_eq_some_iff.1 read
    cases same
    have := length_of_stringRest? inside
    simp only [List.length_cons]
    omega
  case h_9 =>
    obtain ⟨token, found, same⟩ := Option.map_eq_some_iff.1 read
    cases same
    have whole := congrArg List.length
      (List.takeWhile_append_dropWhile (p := fun c => decide (IsWordChar c)) (l := text))
    -- A word has a character at least, because no lexeme is an empty word.
    have present : text.takeWhile (fun c => decide (IsWordChar c)) ≠ [] := by
      intro none
      rw [none] at found
      cases found
    have := List.length_pos_iff.2 present
    rw [List.length_append] at whole
    omega
  all_goals cases read; exact Nat.lt_succ_self _

def lexemes? : List Char → Option (List (Lexeme Numeral))
  | [] => some []
  | c :: rest =>
    if c = ' ' ∨ c = '\t' ∨ c = '\n' ∨ c = '\r' then lexemes? rest
    else
      match _read : lexeme? (c :: rest) with
      | some (token, rest) => (lexemes? rest).map (token :: ·)
      | none => none
termination_by text => text.length
decreasing_by
  · simp
  · exact length_of_lexeme? _read

/-! ## Tokens of the grammar -/

theorem escape?_spelled {c : Char} {tail : List Char} (escape : SpellsEscape c ('\\' :: tail))
    (rest : List Char) : escape? (tail ++ rest) = some (c, rest) := by
  generalize whole : '\\' :: tail = text at escape
  cases escape with
  | letter escaped =>
    cases whole
    obtain ⟨-, -, -, -, notUnit⟩ := escapedChar?_eq_some escaped
    unfold escape?
    split
    next same => exact absurd (List.cons.inj same).1 notUnit
    next same => cases same; rw [escaped]; rfl
    next same => cases same
  | unit code high low =>
    cases whole
    obtain ⟨p, q, r, s, rfl, -⟩ := codeUnit?_eq_some code
    simp only [List.cons_append, List.nil_append, escape?, code, if_neg low, if_neg high]
  | @pair _ _ m n first high second low =>
    cases whole
    obtain ⟨p, q, r, s, rfl, -⟩ := codeUnit?_eq_some first
    obtain ⟨p', q', r', s', rfl, -⟩ := codeUnit?_eq_some second
    simp only [List.append_eq, List.cons_append, List.nil_append, escape?, first, if_neg high.not_low,
      if_pos high, lowHalf?, second, if_pos low]

theorem stringRest?_spelled {s text : List Char} (spelled : SpellsText s text) (rest : List Char) :
    stringRest? (text ++ '"' :: rest) = some (s, rest) := by
  induction spelled with
  | nil => rw [List.nil_append, stringRest?]
  | @plain c s text plain _ ih =>
    -- The patterns of `stringRest?` overlap, so its equations would ask for inequalities.
    have control : ¬c.toNat < 0x20 := by have := plain.notControl; omega
    rw [List.cons_append, stringRest?.eq_def]
    split
    next same => cases same
    next same => exact absurd (List.cons.inj same).1 plain.notQuote
    next same => exact absurd (List.cons.inj same).1 plain.notBackslash
    next same =>
      cases same
      rw [if_neg control, ih]
      rfl
  | @escape c text s more first _ ih =>
    obtain ⟨tail, rfl⟩ := first.eq_cons
    have read := escape?_spelled first (more ++ '"' :: rest)
    rw [List.append_assoc, List.cons_append, stringRest?.eq_def]
    split
    next same => cases same
    next same => cases same
    next same =>
      cases same
      split
      next read' =>
        cases read.symm.trans read'
        rw [ih]
        rfl
      next none => cases read.symm.trans none
    next notBackslash same => cases same; exact (notBackslash rfl).elim

/-- Nothing that would make a word or a number longer stands at the front. -/
def Stops (text : List Char) : Prop := ∀ c ∈ text.head?, ¬IsWordChar c

theorem stops_cons {c : Char} (mark : ¬IsWordChar c) (text : List Char) : Stops (c :: text) := by
  simpa [Stops] using mark

theorem Stops.blank {w rest : List Char} (blank : Blank w) (stops : Stops rest) :
    Stops (w ++ rest) := by
  cases w with
  | nil => exact stops
  | cons c w =>
    refine stops_cons ?_ _
    rcases blank c (by simp) with rfl | rfl | rfl | rfl <;> decide

theorem lexeme?_word {w rest : List Char} {token : Lexeme Numeral} (inside : ∀ c ∈ w, IsWordChar c)
    (found : word? w = some token) (stops : Stops rest) :
    lexeme? (w ++ rest) = some (token, rest) := by
  have front : rest.takeWhile (fun c => decide (IsWordChar c)) = [] ∧
      rest.dropWhile (fun c => decide (IsWordChar c)) = rest := by
    cases rest with
    | nil => simp
    | cons c rest => simp [stops c (by simp)]
  have all : ∀ c ∈ w, decide (IsWordChar c) := fun c member => decide_eq_true (inside c member)
  cases w with
  | nil => cases found
  | cons c w =>
    have first := inside c (by simp)
    rw [List.cons_append, lexeme?]
    · rw [← List.cons_append, List.takeWhile_append_of_pos all, List.dropWhile_append_of_pos all,
        front.1, front.2, List.append_nil, found]
      rfl
    · intro none
      cases none
    -- No mark is a character of a word.
    all_goals
      rintro _ same
      cases same
      revert first
      decide

theorem lexemes?_cons {c : Char} {text rest : List Char} {token : Lexeme Numeral}
    (read : lexeme? (c :: text) = some (token, rest)) (dense : ¬Blank [c]) :
    lexemes? (c :: text) = (lexemes? rest).map (token :: ·) := by
  rw [lexemes?, if_neg (by simpa [Blank] using dense)]
  split
  next read' =>
    cases read.symm.trans read'
    rfl
  next none => cases read.symm.trans none

theorem lexemes?_blank {w : List Char} (blank : Blank w) (rest : List Char) :
    lexemes? (w ++ rest) = lexemes? rest := by
  induction w with
  | nil => rfl
  | cons c w ih =>
    rw [List.cons_append, lexemes?, if_pos (blank c (by simp))]
    exact ih fun d member => blank d (by simp [member])

/-! ## Tokens of trees -/

mutual

def Tree.lexemes : Tree → List (Lexeme Numeral)
  | .null => [.null]
  | .bool b => [.bool b]
  | .number n => [.number n]
  | .string s => [.string s]
  | .array [] => [.openBracket, .closeBracket]
  | .array (item :: items) =>
    .openBracket :: (item.lexemes ++ (lexemesOfItems items ++ [.closeBracket]))
  | .object [] => [.openBrace, .closeBrace]
  | .object ((name, tree) :: members) =>
    .openBrace :: .string name :: .colon ::
      (tree.lexemes ++ (lexemesOfMembers members ++ [.closeBrace]))

/-- The tokens of the items behind the first one. -/
def lexemesOfItems : List Tree → List (Lexeme Numeral)
  | [] => []
  | item :: items => .comma :: (item.lexemes ++ lexemesOfItems items)

/-- The tokens of the members behind the first one. -/
def lexemesOfMembers : List (String × Tree) → List (Lexeme Numeral)
  | [] => []
  | (name, tree) :: members =>
    .comma :: .string name :: .colon :: (tree.lexemes ++ lexemesOfMembers members)

end

/-! ## The tokens of a text are those of its tree -/

/-- `Cuts text tokens`: in front of a text that cannot make it longer, the text is cut into
these tokens. -/
def Cuts (text : List Char) (tokens : List (Lexeme Numeral)) : Prop :=
  ∀ rest more, Stops rest → lexemes? rest = some more →
    lexemes? (text ++ rest) = some (tokens ++ more)

theorem Cuts.word {w : List Char} {token : Lexeme Numeral} (inside : ∀ c ∈ w, IsWordChar c)
    (found : word? w = some token) : Cuts w [token] := by
  intro rest more stops read
  have first := lexeme?_word inside found stops
  cases w with
  | nil => cases found
  | cons c w =>
    have dense : ¬Blank [c] := by
      intro blank
      have char := inside c (by simp)
      rcases blank c (by simp) with rfl | rfl | rfl | rfl <;> revert char <;> decide
    rw [List.cons_append] at first ⊢
    rw [lexemes?_cons first dense, read]
    rfl

theorem lexemes?_mark {c : Char} {rest : List Char} {token : Lexeme Numeral}
    {more : List (Lexeme Numeral)} (mark : lexeme? (c :: rest) = some (token, rest))
    (dense : ¬Blank [c]) (read : lexemes? rest = some more) :
    lexemes? (c :: rest) = some (token :: more) := by
  rw [lexemes?_cons mark dense, read]
  rfl

theorem lexemes?_string {s : String} {text rest : List Char} {more : List (Lexeme Numeral)}
    (spelled : SpellsString s text) (read : lexemes? rest = some more) :
    lexemes? (text ++ rest) = some (.string s :: more) := by
  obtain ⟨body⟩ := spelled
  rename_i text
  have first : lexeme? ('"' :: (text ++ '"' :: rest)) = some (.string s, rest) := by
    rw [lexeme?, stringRest?_spelled body rest]
    simp
  have cut := lexemes?_cons first (by simp [Blank])
  rw [read] at cut
  simpa using cut

theorem word?_numeral (n : Numeral) : word? n.text = some (.number n) := by
  have notWord : ∀ {w : List Char}, Numeral.ofText? w = none → n.text ≠ w := by
    rintro w none rfl
    rw [Numeral.ofText?_text] at none
    cases none
  rw [word?, if_neg (notWord (by decide)), if_neg (notWord (by decide)),
    if_neg (notWord (by decide)), Numeral.ofText?_text]
  rfl

theorem lexemes?_name {name : String} {head rest : List Char} {more : List (Lexeme Numeral)}
    (named : SpellsName name head) (read : lexemes? rest = some more) :
    lexemes? (head ++ rest) = some (.string name :: .colon :: more) := by
  obtain ⟨before, spelled, behind⟩ := named
  have colon := lexemes?_mark (c := ':') rfl (by simp [Blank]) read
  have back := (lexemes?_blank behind _).trans colon
  simpa using (lexemes?_blank before _).trans (lexemes?_string spelled back)

theorem comma_tail_items {items : List Tree} {text : List Char} (spelled : SpellsItems items text)
    (more : List (Lexeme Numeral)) :
    .comma :: ((lexemesOfItems items).tail ++ more) = lexemesOfItems items ++ more := by
  cases spelled <;> rfl

theorem comma_tail_members {members : List (String × Tree)} {text : List Char}
    (spelled : SpellsMembers members text) (more : List (Lexeme Numeral)) :
    .comma :: ((lexemesOfMembers members).tail ++ more) = lexemesOfMembers members ++ more := by
  cases spelled <;> rfl

theorem Cuts.before {text w rest : List Char} {tokens more : List (Lexeme Numeral)} {c : Char}
    (cuts : Cuts text tokens) (blank : Blank w) (mark : ¬IsWordChar c)
    (read : lexemes? (c :: rest) = some more) :
    lexemes? (text ++ (w ++ c :: rest)) = some (tokens ++ more) :=
  cuts _ _ (.blank blank (stops_cons mark rest)) ((lexemes?_blank blank _).trans read)

mutual

theorem cuts_of_spells {tree : Tree} {text : List Char} (spelled : Spells tree text) :
    Cuts text tree.lexemes := by
  cases spelled with
  | null => exact .word (isWordChar_of_all rfl) rfl
  | true => exact .word (isWordChar_of_all rfl) rfl
  | false => exact .word (isWordChar_of_all rfl) rfl
  | number n => exact .word (fun c member => .inr (n.isNumberChar c member)) (word?_numeral n)
  | string spelled => exact fun rest more _ read => lexemes?_string spelled read
  -- Behind a mark nothing needs to stop, so that what follows it is cut as it is alone.
  | @emptyArray w blank =>
    intro rest more _ read
    have closing := lexemes?_mark (c := ']') rfl (by simp [Blank]) read
    have inside := (lexemes?_blank blank _).trans closing
    simpa [Tree.lexemes] using lexemes?_mark (c := '[') rfl (by simp [Blank]) inside
  | @array items text spelled =>
    intro rest more _ read
    have inside := lexemes?_items spelled read
    cases items with
    | nil => cases spelled
    | cons item items =>
      rw [lexemesOfItems, List.tail_cons] at inside
      simpa [Tree.lexemes] using lexemes?_mark (c := '[') rfl (by simp [Blank]) inside
  | @emptyObject w blank =>
    intro rest more _ read
    have closing := lexemes?_mark (c := '}') rfl (by simp [Blank]) read
    have inside := (lexemes?_blank blank _).trans closing
    simpa [Tree.lexemes] using lexemes?_mark (c := '{') rfl (by simp [Blank]) inside
  | @object members text spelled =>
    intro rest more _ read
    have inside := lexemes?_members spelled read
    cases members with
    | nil => cases spelled
    | cons member members =>
      rw [lexemesOfMembers, List.tail_cons] at inside
      simpa [Tree.lexemes] using lexemes?_mark (c := '{') rfl (by simp [Blank]) inside
termination_by sizeOf tree

theorem lexemes?_items {items : List Tree} {text rest : List Char}
    {more : List (Lexeme Numeral)} (spelled : SpellsItems items text)
    (read : lexemes? rest = some more) :
    lexemes? (text ++ ']' :: rest) = some ((lexemesOfItems items).tail ++ .closeBracket :: more) := by
  cases spelled with
  | last before spelled behind =>
    have closing := lexemes?_mark (c := ']') rfl (by simp [Blank]) read
    have first := (cuts_of_spells spelled).before behind (by decide) closing
    simpa [lexemesOfItems] using (lexemes?_blank before _).trans first
  | cons before spelled behind others =>
    have comma := lexemes?_mark (c := ',') rfl (by simp [Blank]) (lexemes?_items others read)
    rw [comma_tail_items others] at comma
    have first := (cuts_of_spells spelled).before behind (by decide) comma
    simpa [lexemesOfItems] using (lexemes?_blank before _).trans first
termination_by sizeOf items

theorem lexemes?_members {members : List (String × Tree)} {text rest : List Char}
    {more : List (Lexeme Numeral)} (spelled : SpellsMembers members text)
    (read : lexemes? rest = some more) :
    lexemes? (text ++ '}' :: rest) =
      some ((lexemesOfMembers members).tail ++ .closeBrace :: more) := by
  cases spelled with
  | last named before spelled behind =>
    have closing := lexemes?_mark (c := '}') rfl (by simp [Blank]) read
    have value := (cuts_of_spells spelled).before behind (by decide) closing
    have first := (lexemes?_blank before _).trans value
    simpa [lexemesOfMembers] using lexemes?_name named first
  | cons named before spelled behind others =>
    have comma := lexemes?_mark (c := ',') rfl (by simp [Blank]) (lexemes?_members others read)
    rw [comma_tail_members others] at comma
    have value := (cuts_of_spells spelled).before behind (by decide) comma
    have first := (lexemes?_blank before _).trans value
    simpa [lexemesOfMembers] using lexemes?_name named first
termination_by sizeOf members

end

/-- A text that the grammar derives has the tokens of its tree. -/
theorem lexemes?_of_document {tree : Tree} {text : List Char} (spelled : SpellsDocument tree text) :
    lexemes? text = some tree.lexemes := by
  obtain ⟨before, spelled, behind⟩ := spelled
  have ends : lexemes? [] = some [] := by rw [lexemes?]
  have back := (lexemes?_blank behind []).trans ends
  have stops := Stops.blank behind (show Stops [] by simp [Stops])
  simpa using (lexemes?_blank before _).trans (cuts_of_spells spelled _ _ stops back)

/-! ## The tokens settle the tree -/

/-- No value begins with the end of an array. -/
theorem lexemes_append_ne_closeBracket (tree : Tree) (rest rest' more : List (Lexeme Numeral)) :
    tree.lexemes ++ rest ++ rest' ≠ .closeBracket :: more := by
  match tree with
  | .null | .bool _ | .number _ | .string _ | .array [] | .array (_ :: _) | .object []
  | .object ((_, _) :: _) => simp [Tree.lexemes]

theorem lexemes_array (items : List Tree) :
    (Tree.array items).lexemes = .openBracket :: ((lexemesOfItems items).tail ++ [.closeBracket]) := by
  cases items <;> simp [Tree.lexemes, lexemesOfItems]

theorem lexemes_object (members : List (String × Tree)) :
    (Tree.object members).lexemes =
      .openBrace :: ((lexemesOfMembers members).tail ++ [.closeBrace]) := by
  cases members <;> simp [Tree.lexemes, lexemesOfMembers]

mutual

theorem eq_of_lexemes {a b : Tree} {r s : List (Lexeme Numeral)}
    (same : a.lexemes ++ r = b.lexemes ++ s) : a = b ∧ r = s := by
  cases a <;> cases b <;>
    simp only [lexemes_array, lexemes_object, Tree.lexemes, List.cons_append, List.nil_append,
      List.append_assoc, List.cons.injEq, Lexeme.bool.injEq, Lexeme.number.injEq,
      Lexeme.string.injEq, reduceCtorEq, false_and, true_and] at same
  case null => exact ⟨rfl, same⟩
  case bool => exact ⟨by rw [same.1], same.2⟩
  case number => exact ⟨by rw [same.1], same.2⟩
  case string => exact ⟨by rw [same.1], same.2⟩
  case array as bs =>
    -- With a comma in front of each item, lists are compared item by item. An empty array is
    -- the exception, since no value begins with a closing bracket.
    have behind (items : lexemesOfItems as ++ .closeBracket :: r =
        lexemesOfItems bs ++ .closeBracket :: s) : as = bs ∧ r = s := eq_of_lexemesOfItems items
    rw [Tree.array.injEq]
    cases as with
    | nil =>
      cases bs with
      | nil => exact behind (congrArg _ same)
      | cons y ys => exact absurd same.symm (lexemes_append_ne_closeBracket y _ _ r)
    | cons x xs =>
      cases bs with
      | nil => exact absurd same (lexemes_append_ne_closeBracket x _ _ s)
      | cons y ys => exact behind (by simpa [lexemesOfItems] using same)
  case object as bs =>
    -- Here a name stands in front, so a brace settles it.
    have behind (members : lexemesOfMembers as ++ .closeBrace :: r =
        lexemesOfMembers bs ++ .closeBrace :: s) : as = bs ∧ r = s := eq_of_lexemesOfMembers members
    rw [Tree.object.injEq]
    cases as with
    | nil =>
      cases bs with
      | nil => exact behind (congrArg _ same)
      | cons y ys => cases same
    | cons x xs =>
      cases bs with
      | nil => cases same
      | cons y ys => exact behind (by simpa [lexemesOfMembers] using same)
termination_by sizeOf a

theorem eq_of_lexemesOfItems {as bs : List Tree} {r s : List (Lexeme Numeral)}
    (same : lexemesOfItems as ++ .closeBracket :: r = lexemesOfItems bs ++ .closeBracket :: s) :
    as = bs ∧ r = s := by
  match as, bs with
  | [], [] => simpa [lexemesOfItems] using same
  | [], _ :: _ => simp [lexemesOfItems] at same
  | _ :: _, [] => simp [lexemesOfItems] at same
  | x :: xs, y :: ys =>
    simp only [lexemesOfItems, List.cons_append, List.append_assoc, List.cons.injEq,
      true_and] at same
    obtain ⟨rfl, others⟩ := eq_of_lexemes same
    obtain ⟨rfl, rest⟩ := eq_of_lexemesOfItems others
    exact ⟨rfl, rest⟩
termination_by sizeOf as

theorem eq_of_lexemesOfMembers {as bs : List (String × Tree)} {r s : List (Lexeme Numeral)}
    (same : lexemesOfMembers as ++ .closeBrace :: r = lexemesOfMembers bs ++ .closeBrace :: s) :
    as = bs ∧ r = s := by
  match as, bs with
  | [], [] => simpa [lexemesOfMembers] using same
  | [], _ :: _ => simp [lexemesOfMembers] at same
  | _ :: _, [] => simp [lexemesOfMembers] at same
  | (m, x) :: xs, (n, y) :: ys =>
    simp only [lexemesOfMembers, List.cons_append, List.append_assoc, List.cons.injEq,
      Lexeme.string.injEq, true_and] at same
    obtain ⟨rfl, value⟩ := same
    obtain ⟨rfl, others⟩ := eq_of_lexemes value
    obtain ⟨rfl, rest⟩ := eq_of_lexemesOfMembers others
    exact ⟨rfl, rest⟩
termination_by sizeOf as

end

/-- A tree is settled by its tokens. -/
theorem lexemes_injective {a b : Tree} (same : a.lexemes = b.lexemes) : a = b :=
  (eq_of_lexemes (r := []) (s := []) (by rw [same])).1

end VectorFetch.Json
