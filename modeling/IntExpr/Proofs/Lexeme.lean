/-
This file says what the pieces of a source text are: gaps of white space and comments between
tokens, and the lexemes of tokens. A lexeme is the longest text of its kind at its place, so
what it is depends on the text that follows it. Scanning at the head of a text finds exactly the
gap and the lexeme that stand there.
-/

import IntExpr.Cursor
import Mathlib.Data.List.Basic
import Mathlib.Data.List.TakeWhile
import Mathlib.Data.Nat.Digits.Defs

namespace IntExpr

/-! ### Gaps -/

/-- A row of white space and comments in front of some text. A comment reaches up to the next
line feed, or to the end of the text. -/
inductive Gap : List Char → List Char → Prop
  | nil (following : List Char) : Gap [] following
  | blank (character : Char) (gap following : List Char)
      (white : Text.isBlank character = true) (others : Gap gap following) :
    Gap (character :: gap) following
  | comment (body gap following : List Char) (inLine : '\n' ∉ body)
      (lineEnd : ∀ next ∈ (gap ++ following).head?, next = '\n') (others : Gap gap following) :
    Gap ('/' :: '/' :: (body ++ gap)) following

/-- Whether a text starts with white space or a comment. -/
def StartsGap (text : List Char) : Prop :=
  (∃ character ∈ text.head?, Text.isBlank character = true) ∨ ['/', '/'] <+: text

/-! ### Lexemes -/

/-- The operators and punctuation marks with their spellings. -/
def marks : List (List Char × TokenType) :=
  [(['<', '<'], .operator .shiftLeft), (['>', '>'], .operator .shiftRight),
    (['=', '='], .operator .equal), (['&', '&'], .operator .and), (['|', '|'], .operator .or),
    ([':', ':'], .colon), (['+'], .operator .plus), (['-'], .operator .minus),
    (['*'], .operator .times), (['/'], .operator .divide), (['&'], .operator .bitAnd),
    (['|'], .operator .bitOr), (['<'], .operator .less), (['>'], .operator .greater),
    (['?'], .question), ([':'], .colon), (['('], .leftParen), ([')'], .rightParen)]

/-- The keywords with their spellings. -/
def keywords : List (List Char × TokenType) :=
  [("declare".toList, .declare), ("print".toList, .print)]

/-- A word: a row of word characters, the first of which can start one. -/
def IsWord (word : List Char) : Prop :=
  (∃ first ∈ word.head?, isWordStart first = true) ∧ ∀ character ∈ word, isWordPart character = true

/-- A token type, a value and a lexeme that is the longest of its kind in front of some text. -/
inductive Lexeme : TokenType → TokenValue → List Char → List Char → Prop
  | integer (digits following : List Char) (someDigit : digits ≠ [])
      (allDigits : ∀ digit ∈ digits, digit.isDigit = true)
      (longest : ∀ next ∈ following.head?, next.isDigit = false) :
    Lexeme .integer (.number (Nat.ofDigits 10 (digits.reverse.map Decimal.digitValue))) digits
      following
  | keyword (type : TokenType) (word following : List Char) (listed : (word, type) ∈ keywords)
      (longest : ∀ next ∈ following.head?, isWordPart next = false) :
    Lexeme type .none word following
  | identifier (word following : List Char) (isWord : IsWord word)
      (unlisted : ∀ keyword ∈ keywords, keyword.1 ≠ word)
      (longest : ∀ next ∈ following.head?, isWordPart next = false) :
    Lexeme .identifier (.name (String.ofList word)) word following
  | mark (type : TokenType) (mark following : List Char) (listed : (mark, type) ∈ marks)
      (longest : ∀ other ∈ marks, other.1 <+: mark ++ following → other.1.length ≤ mark.length)
      (noComment : ¬ ['/', '/'] <+: mark ++ following) :
    Lexeme type .none mark following

/-- A character that neither a gap nor a lexeme starts with, with the text behind it. -/
structure StartsNothing (character : Char) (rest : List Char) : Prop where
  noGap : ¬ StartsGap (character :: rest)
  noDigit : character.isDigit = false
  noWord : isWordStart character = false
  noMark : ∀ mark ∈ marks, ¬ mark.1 <+: character :: rest

/-! ### Gaps as scanning finds them -/

theorem not_startsGap_nil : ¬ StartsGap [] := by
  simp [StartsGap]

theorem not_startsGap_cons {character : Char} {rest : List Char}
    (solid : ¬ Text.isBlank character = true)
    (noComment : ∀ others, character = '/' → rest = '/' :: others → False) :
    ¬ StartsGap (character :: rest) := by
  rintro (⟨first, here, white⟩ | ⟨others, same⟩)
  · cases here
    exact solid white
  · injection same with slash shape
    exact noComment others slash.symm shape.symm

/-- Every text is a gap and a rest that does not start with one. -/
theorem exists_gap (text : List Char) :
    ∃ gap rest, text = gap ++ rest ∧ Gap gap rest ∧ ¬ StartsGap rest := by
  -- The second motive is for the text of a comment, whose body ends the gap it stands in.
  induction text using gapLength.induct _
    (fun text => ∃ body gap rest, text = body ++ (gap ++ rest) ∧ '\n' ∉ body ∧
      (∀ next ∈ (gap ++ rest).head?, next = '\n') ∧ Gap gap rest ∧ ¬ StartsGap rest) with
  | case1 => exact ⟨[], [], rfl, .nil [], not_startsGap_nil⟩
  | case2 =>
    exact ⟨[], ['/'], rfl, .nil _, not_startsGap_cons (by decide) (fun _ _ shape => by cases shape)⟩
  | case3 text inductionHypothesis =>
    obtain ⟨body, gap, rest, rfl, inLine, lineEnd, layout, noGap⟩ := inductionHypothesis
    exact ⟨'/' :: '/' :: (body ++ gap), rest, by simp, .comment body gap rest inLine lineEnd layout,
      noGap⟩
  | case4 character text _ _ white inductionHypothesis =>
    obtain ⟨gap, rest, rfl, layout, noGap⟩ := inductionHypothesis
    exact ⟨character :: gap, rest, rfl, .blank character gap rest white layout, noGap⟩
  | case5 character text _ noComment solid =>
    exact ⟨[], character :: text, rfl, .nil _, not_startsGap_cons solid noComment⟩
  | case6 => exact ⟨[], [], [], rfl, by simp, by simp, .nil [], not_startsGap_nil⟩
  | case7 text inductionHypothesis =>
    obtain ⟨gap, rest, rfl, layout, noGap⟩ := inductionHypothesis
    exact ⟨[], '\n' :: gap, rest, rfl, by simp, by simp, .blank '\n' gap rest (by decide) layout,
      noGap⟩
  | case8 character text inLine inductionHypothesis =>
    obtain ⟨body, gap, rest, rfl, bodyInLine, lineEnd, layout, noGap⟩ := inductionHypothesis
    refine ⟨character :: body, gap, rest, rfl, ?_, lineEnd, layout, noGap⟩
    simp [Ne.symm inLine, bodyInLine]

theorem gapLength_of_not_startsGap {text : List Char} (noGap : ¬ StartsGap text) :
    gapLength text = 0 := by
  unfold gapLength
  split
  · rfl
  · rfl
  · rename_i rest
    exact absurd (.inr ⟨rest, rfl⟩) noGap
  · rename_i character rest _ _
    exact if_neg fun white => noGap (.inl ⟨character, rfl, white⟩)

theorem gapLength_blank {character : Char} (rest : List Char)
    (white : Text.isBlank character = true) :
    gapLength (character :: rest) = gapLength rest + 1 := by
  have noSlash : character ≠ '/' := by
    rintro rfl
    exact absurd white (by decide)
  rw [gapLength.eq_4 _ _ (fun slash _ => noSlash slash) (fun _ slash _ => noSlash slash),
    if_pos white]

/-- Behind the body of a comment the gap goes on. -/
theorem commentLength_append (body text : List Char) (inLine : '\n' ∉ body)
    (lineEnd : ∀ next ∈ text.head?, next = '\n') :
    commentLength (body ++ text) = body.length + gapLength text := by
  induction body with
  | nil =>
    cases text with
    | nil => simp [commentLength, gapLength]
    | cons next rest =>
      cases lineEnd next rfl
      rw [List.nil_append, commentLength, if_pos rfl, gapLength_blank rest (by decide)]
      simp
  | cons character body inductionHypothesis =>
    rw [List.mem_cons, not_or] at inLine
    rw [List.cons_append, commentLength, if_neg (Ne.symm inLine.1), inductionHypothesis inLine.2,
      List.length_cons]
    omega

/-- Scanning finds the whole of a gap that no other gap follows. -/
theorem gapLength_append {gap rest : List Char} (layout : Gap gap rest)
    (noGap : ¬ StartsGap rest) : gapLength (gap ++ rest) = gap.length := by
  induction layout with
  | nil following => exact gapLength_of_not_startsGap noGap
  | blank character gap following white _ inductionHypothesis =>
    rw [List.cons_append, gapLength_blank _ white, inductionHypothesis noGap, List.length_cons]
  | comment body gap following inLine lineEnd _ inductionHypothesis =>
    rw [List.cons_append, List.cons_append, List.append_assoc, gapLength,
      commentLength_append body _ inLine lineEnd, inductionHypothesis noGap]
    simp [Nat.add_assoc]

/-! ### Marks as scanning finds them -/

theorem mark_length : ∀ mark ∈ marks, mark.1.length = 1 ∨ mark.1.length = 2 := by
  decide

theorem pairType_of_mem_marks :
    ∀ mark ∈ marks, ∀ first second, mark.1 = [first, second] →
      pairType first second = some mark.2 := by
  simp [marks, pairType]

theorem markType_of_mem_marks :
    ∀ mark ∈ marks, ∀ character, mark.1 = [character] → markType character = some mark.2 := by
  simp [marks, markType]

theorem mem_marks_of_pairType {first second : Char} {type : TokenType}
    (found : pairType first second = some type) : ([first, second], type) ∈ marks := by
  unfold pairType at found
  split at found <;> cases found <;> decide

theorem mem_marks_of_markType {character : Char} {type : TokenType}
    (found : markType character = some type) : ([character], type) ∈ marks := by
  unfold markType at found
  split at found <;> cases found <;> decide

/-- No mark starts like a gap, a number or a word. -/
theorem mark_head : ∀ mark ∈ marks, ∀ first ∈ mark.1.head?,
    Text.isBlank first = false ∧ first.isDigit = false ∧ isWordStart first = false := by
  have checked : ∀ mark ∈ marks, mark.1.head?.all (fun first =>
      !Text.isBlank first && !first.isDigit && !isWordStart first) = true := by decide
  intro mark listed first head
  have plain := checked mark listed
  rw [Option.mem_def.1 head, Option.all_some] at plain
  simpa [and_assoc] using plain

/-- A mark that stands at the head of a text is one character or two. -/
theorem mark_cases {mark text : List Char} {type : TokenType} (listed : (mark, type) ∈ marks)
    (here : mark <+: text) :
    (∃ first rest, text = first :: rest ∧ mark = [first] ∧ markType first = some type) ∨
      ∃ first second rest, text = first :: second :: rest ∧ mark = [first, second] ∧
        pairType first second = some type := by
  obtain ⟨rest, rfl⟩ := here
  rcases mark_length _ listed with one | two
  · obtain ⟨first, rfl⟩ := List.length_eq_one_iff.1 one
    exact .inl ⟨first, rest, rfl, rfl, markType_of_mem_marks _ listed first rfl⟩
  · obtain ⟨first, second, rfl⟩ := List.length_eq_two.1 two
    exact .inr ⟨first, second, rest, rfl, rfl, pairType_of_mem_marks _ listed first second rfl⟩

/-- Scanning takes the longest mark at the head of a text. -/
theorem leadingMark_of_longest {type : TokenType} {mark text : List Char}
    (listed : (mark, type) ∈ marks) (here : mark <+: text)
    (longest : ∀ other ∈ marks, other.1 <+: text → other.1.length ≤ mark.length) :
    leadingMark text = some (type, mark) := by
  rcases mark_cases listed here with ⟨first, rest, rfl, rfl, single⟩ |
    ⟨first, second, rest, rfl, rfl, pair⟩
  · cases rest with
    | nil => simp [leadingMark, single]
    | cons second rest =>
      cases pair : pairType first second with
      | none => simp [leadingMark, single, pair]
      | some other =>
        have bound := longest _ (mem_marks_of_pairType pair) ⟨rest, rfl⟩
        exact absurd bound (by simp)
  · simp [leadingMark, pair]

/-- What scanning takes for a mark is the longest one at the head of the text. -/
theorem leadingMark_eq_some {type : TokenType} {mark text : List Char}
    (found : leadingMark text = some (type, mark)) :
    (mark, type) ∈ marks ∧ mark <+: text ∧
      ∀ other ∈ marks, other.1 <+: text → other.1.length ≤ mark.length := by
  match text, found with
  | [], found => cases found
  | [character], found =>
    obtain ⟨type, single, same⟩ := Option.map_eq_some_iff.1 found
    cases same
    exact ⟨mem_marks_of_markType single, List.prefix_rfl, fun _ _ here => here.length_le⟩
  | first :: second :: rest, found =>
    cases pair : pairType first second with
    | some other =>
      simp only [leadingMark, pair] at found
      cases found
      refine ⟨mem_marks_of_pairType pair, ⟨rest, rfl⟩, fun other listed _ => ?_⟩
      rcases mark_length other listed with length | length <;> simp [length]
    | none =>
      simp only [leadingMark, pair] at found
      obtain ⟨type, single, same⟩ := Option.map_eq_some_iff.1 found
      cases same
      refine ⟨mem_marks_of_markType single, ⟨second :: rest, rfl⟩, fun other listed here => ?_⟩
      rcases mark_cases listed here with ⟨_, _, _, single, _⟩ | ⟨_, _, _, same, _, otherPair⟩
      · simp [single]
      · cases same
        rw [pair] at otherPair
        cases otherPair

/-- Where scanning finds no mark there is none. -/
theorem leadingMark_eq_none {text : List Char} (lost : leadingMark text = none) :
    ∀ mark ∈ marks, ¬ mark.1 <+: text := by
  intro mark listed here
  rcases mark_cases listed here with ⟨first, rest, rfl, _, single⟩ |
    ⟨first, second, rest, rfl, _, pair⟩
  · cases rest with
    | nil => simp [leadingMark, single] at lost
    | cons second rest =>
      simp only [leadingMark] at lost
      split at lost
      · cases lost
      · simp [single] at lost
  · simp [leadingMark, pair] at lost

/-! ### Characters of numbers and words -/

theorem isBlank_eq_false_of_visible {character : Char} (lower : 0x20 < character.toNat)
    (upper : character.toNat < 0x7F) : Text.isBlank character = false := by
  simp [Text.isBlank, Text.blankCodes, Text.CodeRanges.covers]
  omega

theorem isDigit_iff (character : Char) :
    character.isDigit = true ↔ 0x30 ≤ character.toNat ∧ character.toNat ≤ 0x39 := by
  simp only [Char.isDigit, Bool.and_eq_true, decide_eq_true_eq, UInt32.le_iff_toNat_le]
  rfl

theorem isWordStart_iff (character : Char) :
    isWordStart character = true ↔
      (0x41 ≤ character.toNat ∧ character.toNat ≤ 0x5A) ∨
        (0x61 ≤ character.toNat ∧ character.toNat ≤ 0x7A) ∨ character.toNat = 0x5F := by
  have ranges : isWordStart character =
      (decide (character.val ≥ 0x41 ∧ character.val ≤ 0x5A) ||
        character.val ≥ 0x61 && character.val ≤ 0x7A || character = '_') := rfl
  simp only [ranges, Bool.or_eq_true, Bool.and_eq_true, decide_eq_true_eq,
    UInt32.le_iff_toNat_le, or_assoc, Char.ext_iff, UInt32.ext_iff]
  rfl

theorem isDigit_eq_false_of_isWordStart {character : Char} (start : isWordStart character = true) :
    character.isDigit = false := by
  rw [isWordStart_iff] at start
  rw [← Bool.not_eq_true, isDigit_iff]
  omega

/-- Neither a number nor a word starts like a gap. -/
theorem not_startsGap_of_start {character : Char} (rest : List Char)
    (start : character.isDigit = true ∨ isWordStart character = true) :
    ¬ StartsGap (character :: rest) := by
  rw [isDigit_iff, isWordStart_iff] at start
  refine not_startsGap_cons ?_ fun others slash _ => ?_
  · rw [isBlank_eq_false_of_visible (by omega) (by omega)]
    exact Bool.false_ne_true
  · subst slash
    revert start
    decide

/-! ### Lexemes as scanning finds them -/

/-- A run of characters of some kind is what scanning takes of them, if another kind follows. -/
theorem takeWhile_append_eq {kind : Char → Bool} {run following : List Char}
    (members : ∀ character ∈ run, kind character = true)
    (longest : ∀ next ∈ following.head?, kind next = false) :
    (run ++ following).takeWhile kind = run := by
  rw [List.takeWhile_append_of_pos members]
  cases following with
  | nil => simp
  | cons next rest => simp [longest next rfl]

theorem dropWhile_append_eq {kind : Char → Bool} {run following : List Char}
    (members : ∀ character ∈ run, kind character = true)
    (longest : ∀ next ∈ following.head?, kind next = false) :
    (run ++ following).dropWhile kind = following := by
  rw [List.dropWhile_append_of_pos members]
  cases following with
  | nil => rfl
  | cons next rest => rw [List.dropWhile_cons_of_neg (by simp [longest next rfl])]

/-- A text starts with the longest run of some kind in one way only. -/
theorem run_unique {kind : Char → Bool} {run other rest others : List Char}
    (same : run ++ rest = other ++ others)
    (members : ∀ character ∈ run, kind character = true)
    (otherMembers : ∀ character ∈ other, kind character = true)
    (longest : ∀ next ∈ rest.head?, kind next = false)
    (otherLongest : ∀ next ∈ others.head?, kind next = false) :
    run = other ∧ rest = others := by
  have sameRun : run = other := by
    rw [← takeWhile_append_eq members longest, same, takeWhile_append_eq otherMembers otherLongest]
  exact ⟨sameRun, List.append_cancel_left (sameRun ▸ same)⟩

/-- What follows the longest run of a kind is of another kind. -/
theorem head_dropWhile_eq_false (kind : Char → Bool) (text : List Char) :
    ∀ next ∈ (text.dropWhile kind).head?, kind next = false := by
  intro next here
  have other := List.head?_dropWhile_not kind text
  rw [Option.mem_def.1 here] at other
  exact other

theorem wordType_of_mem_keywords :
    ∀ keyword ∈ keywords, wordType (String.ofList keyword.1) = keyword.2 := by
  decide

theorem isWord_of_mem_keywords : ∀ keyword ∈ keywords, IsWord keyword.1 := by
  have checked : ∀ keyword ∈ keywords, keyword.1.head?.any isWordStart = true ∧
      keyword.1.all isWordPart = true := by decide
  intro keyword listed
  obtain ⟨starts, parts⟩ := checked keyword listed
  obtain ⟨first, head, start⟩ := Option.any_eq_true _ _ |>.1 starts
  exact ⟨⟨first, head, start⟩, List.all_eq_true.1 parts⟩

/-- A word is a keyword of its type or an identifier. -/
theorem wordType_cases (word : List Char) :
    (word, wordType (String.ofList word)) ∈ keywords ∨
      (∀ keyword ∈ keywords, keyword.1 ≠ word) ∧
        wordType (String.ofList word) = .identifier := by
  by_cases listed : ∃ keyword ∈ keywords, keyword.1 = word
  · obtain ⟨keyword, member, rfl⟩ := listed
    rw [wordType_of_mem_keywords keyword member]
    exact .inl member
  · refine .inr ⟨fun keyword member same => listed ⟨keyword, member, same⟩, ?_⟩
    have other (name : String) (member : ∃ type, (name.toList, type) ∈ keywords) :
        String.ofList word ≠ name := by
      rintro rfl
      obtain ⟨type, member⟩ := member
      exact listed ⟨_, member, String.toList_ofList⟩
    rw [wordType, if_neg (other "declare" ⟨.declare, by decide⟩),
      if_neg (other "print" ⟨.print, by decide⟩)]

/-- Scanning takes a word that ends where it cannot go on. -/
theorem leadingLexeme_word {word following : List Char} (isWord : IsWord word)
    (longest : ∀ next ∈ following.head?, isWordPart next = false) :
    leadingLexeme (word ++ following) = some (wordType (String.ofList word), word) := by
  obtain ⟨⟨first, here, start⟩, parts⟩ := isWord
  obtain ⟨others, rfl⟩ := List.head?_eq_some_iff.1 here
  have whole := takeWhile_append_eq parts longest
  rw [List.cons_append] at whole ⊢
  simp only [leadingLexeme, isDigit_eq_false_of_isWordStart start, start, whole,
    Bool.false_eq_true, if_false, if_true]

/-- Scanning takes the lexeme that stands at the head of a text. -/
theorem leadingLexeme_of_lexeme {type : TokenType} {value : TokenValue}
    {lexeme following : List Char} (found : Lexeme type value lexeme following) :
    leadingLexeme (lexeme ++ following) = some (type, lexeme) := by
  cases found with
  | integer _ _ someDigit allDigits longest =>
    have whole := takeWhile_append_eq allDigits longest
    cases lexeme with
    | nil => exact absurd rfl someDigit
    | cons digit digits =>
      rw [List.cons_append] at whole ⊢
      simp only [leadingLexeme, allDigits digit List.mem_cons_self, whole, if_true]
  | keyword _ _ _ listed longest =>
    rw [leadingLexeme_word (isWord_of_mem_keywords _ listed) longest,
      wordType_of_mem_keywords _ listed]
  | identifier _ _ isWord unlisted longest =>
    rcases wordType_cases lexeme with listed | ⟨_, type⟩
    · exact absurd rfl (unlisted _ listed)
    · rw [leadingLexeme_word isWord longest, type]
  | mark _ _ _ listed longest noComment =>
    have taken := leadingMark_of_longest listed (List.prefix_append lexeme following) longest
    cases lexeme with
    | nil => exact absurd (mark_length _ listed) (by simp)
    | cons first rest =>
      obtain ⟨_, noDigit, noWord⟩ := mark_head _ listed first rfl
      rw [List.cons_append] at taken ⊢
      simp only [leadingLexeme, noDigit, noWord, taken, Bool.false_eq_true, if_false]

/-- A digit starts a numeral. -/
theorem exists_integer {character : Char} (rest : List Char) (digit : character.isDigit = true) :
    ∃ value lexeme following, character :: rest = lexeme ++ following ∧
      Lexeme .integer value lexeme following := by
  refine ⟨_, _, _, List.takeWhile_append_dropWhile.symm, .integer _ _ ?_
    (fun _ member => List.mem_takeWhile_imp member) (head_dropWhile_eq_false Char.isDigit _)⟩
  rw [List.takeWhile_cons_of_pos digit]
  exact List.cons_ne_nil _ _

/-- A letter or an underscore starts a keyword or an identifier. -/
theorem exists_word {character : Char} (rest : List Char) (start : isWordStart character = true) :
    ∃ type value lexeme following, character :: rest = lexeme ++ following ∧
      Lexeme type value lexeme following := by
  have part : isWordPart character = true := by rw [isWordPart, start, Bool.true_or]
  have split : character :: rest =
      (character :: rest).takeWhile isWordPart ++ (character :: rest).dropWhile isWordPart :=
    List.takeWhile_append_dropWhile.symm
  have longest := head_dropWhile_eq_false isWordPart (character :: rest)
  rcases wordType_cases ((character :: rest).takeWhile isWordPart) with listed | ⟨unlisted, _⟩
  · exact ⟨_, _, _, _, split, .keyword _ _ _ listed longest⟩
  · refine ⟨_, _, _, _, split, .identifier _ _ ⟨⟨character, ?_, start⟩, ?_⟩ unlisted longest⟩
    · rw [List.takeWhile_cons_of_pos part]
      rfl
    · exact fun _ member => List.mem_takeWhile_imp member

/-- What stands behind a gap: nothing, a lexeme, or a character that starts nothing. -/
theorem lexeme_cases {text : List Char} (noGap : ¬ StartsGap text) :
    text = [] ∨
      (∃ type value lexeme following, text = lexeme ++ following ∧
        Lexeme type value lexeme following) ∨
      ∃ character rest, text = character :: rest ∧ StartsNothing character rest := by
  cases text with
  | nil => exact .inl rfl
  | cons character rest =>
    cases digit : character.isDigit with
    | true => exact .inr (.inl ⟨.integer, exists_integer rest digit⟩)
    | false =>
      cases start : isWordStart character with
      | true => exact .inr (.inl (exists_word rest start))
      | false =>
        cases taken : leadingMark (character :: rest) with
        | none =>
          exact .inr (.inr ⟨character, rest, rfl, noGap, digit, start, leadingMark_eq_none taken⟩)
        | some found =>
          obtain ⟨listed, ⟨following, same⟩, longest⟩ := leadingMark_eq_some taken
          refine .inr (.inl ⟨_, _, _, following, same.symm, .mark found.1 found.2 _ listed ?_ ?_⟩)
          · rw [same]
            exact longest
          · rw [same]
            exact fun comment => noGap (.inr comment)

/-- Scanning finds no lexeme where nothing starts. -/
theorem leadingLexeme_of_startsNothing {character : Char} {rest : List Char}
    (lost : StartsNothing character rest) : leadingLexeme (character :: rest) = none := by
  simp only [leadingLexeme, lost.noDigit, lost.noWord, Bool.false_eq_true, if_false]
  cases taken : leadingMark (character :: rest) with
  | none => rfl
  | some found =>
    obtain ⟨listed, here, _⟩ := leadingMark_eq_some taken
    exact absurd here (lost.noMark _ listed)

/-! ### What lexemes are not -/

theorem Lexeme.ne_nil {type : TokenType} {value : TokenValue} {lexeme following : List Char}
    (found : Lexeme type value lexeme following) : lexeme ≠ [] :=
  leadingLexeme_ne_nil (leadingLexeme_of_lexeme found)

/-- No lexeme is the end of the input. -/
theorem Lexeme.type_ne_endOfInput {type : TokenType} {value : TokenValue}
    {lexeme following : List Char} (found : Lexeme type value lexeme following) :
    type ≠ .endOfInput := by
  have keywordType : ∀ keyword ∈ keywords, keyword.2 ≠ .endOfInput := by decide
  have markType : ∀ mark ∈ marks, mark.2 ≠ .endOfInput := by decide
  cases found with
  | integer => exact TokenType.noConfusion
  | keyword _ _ _ listed _ => exact keywordType _ listed
  | identifier => exact TokenType.noConfusion
  | mark _ _ _ listed _ _ => exact markType _ listed

/-- No lexeme starts a gap. -/
theorem Lexeme.not_startsGap {type : TokenType} {value : TokenValue}
    {lexeme following : List Char} (found : Lexeme type value lexeme following) :
    ¬ StartsGap (lexeme ++ following) := by
  cases found with
  | integer _ _ someDigit allDigits _ =>
    cases lexeme with
    | nil => exact absurd rfl someDigit
    | cons digit digits =>
      exact not_startsGap_of_start _ (.inl (allDigits digit List.mem_cons_self))
  | keyword _ _ _ listed _ =>
    obtain ⟨⟨first, here, start⟩, _⟩ := isWord_of_mem_keywords _ listed
    obtain ⟨others, rfl⟩ := List.head?_eq_some_iff.1 here
    exact not_startsGap_of_start _ (.inr start)
  | identifier _ _ isWord _ _ =>
    obtain ⟨⟨first, here, start⟩, _⟩ := isWord
    obtain ⟨others, rfl⟩ := List.head?_eq_some_iff.1 here
    exact not_startsGap_of_start _ (.inr start)
  | mark _ _ _ listed _ noComment =>
    rintro (⟨first, here, white⟩ | comment)
    · cases lexeme with
      | nil => exact absurd (mark_length _ listed) (by simp)
      | cons character rest =>
        cases here
        rw [(mark_head _ listed first rfl).1] at white
        cases white
    · exact noComment comment

/-! ### Values -/

theorem Decimal.value_eq_ofDigits (digits : List Char) :
    Decimal.value digits = Nat.ofDigits 10 (digits.reverse.map Decimal.digitValue) := by
  rw [Nat.ofDigits_eq_foldr, List.map_reverse, List.foldr_reverse, List.foldl_map, Decimal.value]
  simp [Nat.add_comm]

/-- The token of a lexeme has its value. -/
theorem Lexeme.value_eq {type : TokenType} {value : TokenValue} {lexeme following : List Char}
    (found : Lexeme type value lexeme following) (location : Location) :
    (⟨type, String.ofList lexeme, location⟩ : Token).value = value := by
  have keywordValue : ∀ keyword ∈ keywords, ∀ lexeme,
      (⟨keyword.2, lexeme, location⟩ : Token).value = .none := by
    simp [keywords, Token.value]
  have markValue : ∀ mark ∈ marks, ∀ lexeme,
      (⟨mark.2, lexeme, location⟩ : Token).value = .none := by
    simp [marks, Token.value]
  cases found with
  | integer =>
    show TokenValue.number (Decimal.value (String.ofList lexeme).toList) = _
    rw [String.toList_ofList, Decimal.value_eq_ofDigits]
  | keyword _ _ _ listed _ => exact keywordValue _ listed _
  | identifier => rfl
  | mark _ _ _ listed _ _ => exact markValue _ listed _

end IntExpr
