/-
This file proves that scanning undoes layout. Lexemes that are written one behind the other, with
a gap between each two that starts with white space, are read back in order, and each as the token
that it is alone. Behind its first character a gap is any mix of white space and comments, and a
comment may hold whatever looks like a token. In particular the lexemes of a text may be joined by
spaces.
-/

import IntExpr.Proofs.Outline
import IntExpr.Proofs.Spelling
import Mathlib.Data.List.Forall2

namespace IntExpr

/-! ### Gaps to write -/

/-- Any mix of white space and of comments that a line feed ends. -/
inductive Padding : List Char → Prop
  | nil : Padding []
  | blank (character : Char) (padding : List Char) (white : Text.isBlank character = true)
      (others : Padding padding) : Padding (character :: padding)
  | comment (body padding : List Char) (inLine : '\n' ∉ body) (others : Padding padding) :
    Padding ('/' :: '/' :: (body ++ '\n' :: padding))

/-- A gap that keeps two lexemes apart: white space, and behind it any padding. -/
inductive Spacing : List Char → Prop
  | blank (character : Char) (padding : List Char) (white : Text.isBlank character = true)
      (others : Padding padding) : Spacing (character :: padding)

/-- A gap behind the last lexeme. Its last comment may go on to the end of the text. -/
inductive Trailing : List Char → Prop
  | nil : Trailing []
  | spacing (gap : List Char) (spaced : Spacing gap) : Trailing gap
  | comment (gap body : List Char) (spaced : Spacing gap) (inLine : '\n' ∉ body) :
    Trailing (gap ++ '/' :: '/' :: body)

theorem Padding.gap {padding : List Char} (padded : Padding padding) (following : List Char) :
    Gap padding following := by
  induction padded with
  | nil => exact .nil following
  | blank character padding white _ inductionHypothesis =>
    exact .blank character padding following white inductionHypothesis
  | comment body padding inLine _ inductionHypothesis =>
    exact .comment body ('\n' :: padding) following inLine (by simp)
      (.blank '\n' padding following (by decide) inductionHypothesis)

theorem Spacing.gap {spacing : List Char} (spaced : Spacing spacing) (following : List Char) :
    Gap spacing following := by
  cases spaced with
  | blank character padding white others =>
    exact .blank character padding following white (others.gap following)

theorem Trailing.gap {last : List Char} (trailing : Trailing last) : Gap last [] := by
  cases trailing with
  | nil => exact .nil []
  | spacing _ spaced => exact spaced.gap []
  | comment gap body spaced inLine =>
    have comment := Gap.comment body [] [] inLine (by simp) (.nil [])
    rw [List.append_nil] at comment
    exact (spaced.gap _).append comment

theorem Spacing.separates {spacing : List Char} (spaced : Spacing spacing)
    (following : List Char) : ∀ next ∈ (spacing ++ following).head?, Separates next := by
  cases spaced with
  | blank character _ white _ =>
    intro next here
    cases here
    exact separates_of_isBlank white

theorem Trailing.separates {last : List Char} (trailing : Trailing last) :
    ∀ next ∈ last.head?, Separates next := by
  cases trailing with
  | nil => simp
  | spacing _ spaced => simpa using spaced.separates []
  | comment _ _ spaced _ => exact spaced.separates _

/-! ### Lexemes to write -/

/-- A text that is a lexeme: a numeral that is not too long to be read, a keyword or another word,
or a mark. -/
inductive IsLexeme : List Char → Prop
  | numeral (digits : List Char) (someDigit : digits ≠ [])
      (allDigits : ∀ digit ∈ digits, digit.isDigit = true)
      (short : digits.length ≤ digitLimit) : IsLexeme digits
  | word (word : List Char) (isWord : IsWord word) : IsLexeme word
  | mark (mark : List Char) (type : TokenType) (listed : (mark, type) ∈ marks) : IsLexeme mark

namespace Token

/-- What a token is, wherever it stands. -/
def content (token : Token) : TokenType × String × TokenValue :=
  (token.type, token.lexeme, token.value)

/-- A token that its lexeme is read as when there is nothing else in a text. -/
structure Alone (token : Token) : Prop where
  lexeme : Lexeme token.type token.value token.lexeme.toList []
  readable : Readable token

/-- A token that stands nowhere. -/
def unplaced (type : TokenType) (lexeme : String) : Token := ⟨type, lexeme, .unknown⟩

theorem alone_of_lexeme {type : TokenType} {value : TokenValue} {lexeme : String}
    (found : Lexeme type value lexeme.toList [])
    (readable : type = .integer → lexeme.length ≤ digitLimit) :
    (unplaced type lexeme).Alone := by
  have sameValue := found.value_eq .unknown
  rw [String.ofList_toList] at sameValue
  exact ⟨by rwa [unplaced, sameValue], readable⟩

theorem alone_of_mem_marks {mark : String} {type : TokenType}
    (listed : (mark.toList, type) ∈ marks) : (unplaced type mark).Alone := by
  have noNumeral : ∀ mark ∈ marks, mark.2 ≠ .integer := by decide
  exact alone_of_lexeme (lexeme_of_mem_marks listed (by simp)) fun integer =>
    absurd integer (noNumeral _ listed)

end Token

/-- A token is what its lexeme is alone, whatever text it was read in. -/
theorem Lexeme.alone {token : Token} {following : List Char}
    (found : Lexeme token.type token.value token.lexeme.toList following)
    (readable : Readable token) : token.Alone :=
  ⟨found.refollow (.of_head (by simp)), readable⟩

/-- Every lexeme is that of a token. -/
theorem IsLexeme.exists_alone {lexeme : String} (isLexeme : IsLexeme lexeme.toList) :
    ∃ token : Token, token.lexeme = lexeme ∧ token.Alone := by
  cases isLexeme with
  | numeral someDigit allDigits short =>
    exact ⟨.unplaced .integer lexeme, rfl,
      Token.alone_of_lexeme (.integer _ [] someDigit allDigits (by simp)) fun _ => short⟩
  | word isWord =>
    rcases wordType_cases lexeme.toList with listed | ⟨unlisted, _⟩
    · have noNumeral : ∀ keyword ∈ keywords, keyword.2 ≠ .integer := by decide
      exact ⟨.unplaced _ lexeme, rfl, Token.alone_of_lexeme (.keyword _ _ [] listed (by simp))
        fun integer => absurd integer (noNumeral _ listed)⟩
    · exact ⟨.unplaced .identifier lexeme, rfl,
        Token.alone_of_lexeme (.identifier _ [] isWord unlisted (by simp)) (by simp)⟩
  | mark type listed =>
    exact ⟨.unplaced type lexeme, rfl, Token.alone_of_mem_marks listed⟩

theorem exists_alone_of_isLexeme {lexemes : List String}
    (areLexemes : ∀ lexeme ∈ lexemes, IsLexeme lexeme.toList) :
    ∃ tokens : List Token, tokens.map Token.lexeme = lexemes ∧ ∀ token ∈ tokens, token.Alone := by
  induction lexemes with
  | nil => exact ⟨[], rfl, by simp⟩
  | cons lexeme lexemes inductionHypothesis =>
    rw [List.forall_mem_cons] at areLexemes
    obtain ⟨token, rfl, alone⟩ := areLexemes.1.exists_alone
    obtain ⟨tokens, rfl, others⟩ := inductionHypothesis areLexemes.2
    exact ⟨token :: tokens, rfl, List.forall_mem_cons.2 ⟨alone, others⟩⟩

/-! ### Lexemes with gaps between them -/

/-- Lexemes one behind the other with the gaps between them. -/
def spread (gaps : Nat → String) : List String → String
  | [] => ""
  | [lexeme] => lexeme
  | lexeme :: next :: others =>
    lexeme ++ gaps 0 ++ spread (fun index => gaps (index + 1)) (next :: others)

theorem spread_const (gap : String) (lexemes : List String) :
    spread (fun _ => gap) lexemes = gap.intercalate lexemes := by
  induction lexemes with
  | nil => simp [spread]
  | cons lexeme others inductionHypothesis =>
    cases others with
    | nil => simp [spread]
    | cons next others => rw [spread, inductionHypothesis, String.intercalate_cons_cons]

/-- A token may be put in front of a text that separates. -/
theorem Spells.ofAlone {filename : String} {before text : List Char} {tokens : List Token}
    {token : Token} (alone : token.Alone) (separate : ∀ next ∈ text.head?, Separates next)
    (spelled : Spells filename (before ++ token.lexeme.toList) text tokens) :
    Spells filename before (token.lexeme.toList ++ text)
      ({ token with location := .behind filename before } :: tokens) := by
  have found := alone.lexeme.refollow (.of_head separate)
  have grown := spelled.ofLexeme_nil before found alone.readable
  rwa [String.ofList_toList] at grown

/-- The lexemes of tokens, with gaps between them and behind the last one, spell the tokens. -/
theorem Spells.ofSpread (filename : String) (before : List Char) (gaps : Nat → String)
    {last : List Char} {tokens : List Token} (alone : ∀ token ∈ tokens, token.Alone)
    (spaced : ∀ index, index + 1 < tokens.length → Spacing (gaps index).toList)
    (trailing : Trailing last) :
    ∃ moved, moved.map Token.content = tokens.map Token.content ∧
      Spells filename before ((spread gaps (tokens.map Token.lexeme)).toList ++ last) moved := by
  -- What a lexeme is depends on the text behind it, so the text is put together from its end. The
  -- last token has no gap behind it that keeps it from another, which sets a single one apart.
  induction tokens generalizing before gaps with
  | nil =>
    have nothing := (Spells.nil filename (before ++ last)).ofGap trailing.gap
    exact ⟨[], rfl, by simpa [spread] using nothing⟩
  | cons token others inductionHypothesis =>
    rw [List.forall_mem_cons] at alone
    cases others with
    | nil =>
      have nothing := (Spells.nil filename (before ++ token.lexeme.toList ++ last)).ofGap
        trailing.gap
      rw [List.append_nil] at nothing
      exact ⟨[{ token with location := .behind filename before }], rfl,
        nothing.ofAlone alone.1 trailing.separates⟩
    | cons next others =>
      have gapSpaced : Spacing (gaps 0).toList := spaced 0 (by simp)
      obtain ⟨moved, sameContent, spelled⟩ := inductionHypothesis
        (before ++ token.lexeme.toList ++ (gaps 0).toList) (fun index => gaps (index + 1)) alone.2
        fun index inside => spaced (index + 1) (Nat.succ_lt_succ inside)
      have grown := (spelled.ofGap (gapSpaced.gap _)).ofAlone alone.1 (gapSpaced.separates _)
      refine ⟨{ token with location := .behind filename before } :: moved, ?_, ?_⟩
      · exact congrArg (token.content :: ·) sameContent
      · simpa [spread] using grown

/-! ### The tokens of a text that is written so -/

/-- The last token of a text has no lexeme. -/
theorem content_of_textTape {filename source : String} {tokens : List Token} {ending : Token}
    (tape : textTape filename source = ⟨tokens, .ok ending⟩) :
    ending.content = (.endOfInput, "", .none) := by
  obtain ⟨_, _, _, _, _, stops⟩ := (textTape_eq_iff ..).1 tape
  cases stops
  rfl

/-- The tokens of a text are what their lexemes are alone. -/
theorem alone_of_textTape {filename source : String} {tokens : List Token}
    {ending : Except ScanError Token} (tape : textTape filename source = ⟨tokens, ending⟩) :
    ∀ token ∈ tokens, token.Alone := by
  obtain ⟨_, _, _, tiling, readable, _⟩ := (textTape_eq_iff ..).1 tape
  intro token member
  obtain ⟨following, found⟩ := tiling.exists_lexeme_of_mem token member
  exact found.alone (readable token member)

/-- The lexemes of tokens, with gaps around them, are scanned to the tokens. -/
theorem tokenize_of_alone (filename first last : String) (gaps : Nat → String)
    {tokens : List Token} (alone : ∀ token ∈ tokens, token.Alone) (padded : Padding first.toList)
    (spaced : ∀ index, index + 1 < tokens.length → Spacing (gaps index).toList)
    (trailing : Trailing last.toList) :
    ∃ moved ending,
      tokenize filename (first ++ spread gaps (tokens.map Token.lexeme) ++ last) =
        .ok (moved ++ [ending]) ∧
      ending.content = (.endOfInput, "", .none) ∧
      moved.map Token.content = tokens.map Token.content := by
  obtain ⟨moved, sameContent, spelled⟩ :=
    Spells.ofSpread filename ([] ++ first.toList) gaps alone spaced trailing
  have whole := spelled.ofGap (padded.gap _)
  rw [← String.toList_append, ← String.toList_append, ← String.append_assoc, spells_iff] at whole
  obtain ⟨ending, tape⟩ := whole
  exact ⟨moved, ending, (tokenize_eq_ok_iff ..).2 ⟨moved, ending, tape, rfl⟩,
    content_of_textTape tape, sameContent⟩

/-- A lexeme that is a whole text is scanned to the token that it is alone. -/
theorem Token.Alone.tokenize {token : Token} (alone : token.Alone) (filename : String) :
    ∃ moved ending, IntExpr.tokenize filename token.lexeme = .ok [moved, ending] ∧
      ending.content = (.endOfInput, "", .none) ∧ moved.content = token.content := by
  obtain ⟨moved, ending, tokenized, isEnd, sameContent⟩ :=
    tokenize_of_alone filename "" "" (fun _ => "") (List.forall_mem_singleton.2 alone) .nil
      (by simp) .nil
  obtain ⟨single, rfl, same⟩ := List.map_eq_singleton_iff.1 sameContent
  exact ⟨single, ending, by simpa [spread] using tokenized, isEnd, same⟩

/-- The lexemes of tokens, joined by spaces, are scanned to the tokens. -/
theorem tokenize_intercalate (filename last : String) {tokens : List Token}
    (alone : ∀ token ∈ tokens, token.Alone) (trailing : Trailing last.toList) :
    ∃ moved ending,
      tokenize filename (" ".intercalate (tokens.map Token.lexeme) ++ last) =
        .ok (moved ++ [ending]) ∧
      ending.content = (.endOfInput, "", .none) ∧
      moved.map Token.content = tokens.map Token.content := by
  have scanned := tokenize_of_alone filename "" last (fun _ => " ") alone .nil
    (fun _ _ => .blank ' ' [] (by decide) .nil) trailing
  rwa [String.empty_append, spread_const] at scanned

/-- An empty text behind others adds no more than a gap. -/
theorem intercalate_append_empty (gap : String) (lexemes : List String) :
    gap.intercalate (lexemes ++ [""]) =
      gap.intercalate lexemes ++ if lexemes = [] then "" else gap := by
  induction lexemes with
  | nil => simp
  | cons lexeme others inductionHypothesis =>
    cases others with
    | nil => simp
    | cons next others =>
      rw [List.cons_append, List.cons_append, String.intercalate_cons_cons,
        String.intercalate_cons_cons, ← List.cons_append, inductionHypothesis]
      simp [String.append_assoc]

/-- Scanning undoes layout. Lexemes with padding in front of them, a gap between each two that
keeps them apart and a gap behind the last one are scanned to one token each and the end of the
input; each token has the lexeme it comes from, and the type and the value that the lexeme has
alone. And from the lexemes of a text, joined by spaces, the same tokens are scanned as from the
text, whether or not the empty lexeme of the end of the input is joined to them. -/
theorem tokenize_undoes_layout (filename : String) :
    (∀ (first last : String) (gaps : Nat → String) (lexemes : List String),
      Padding first.toList →
      (∀ index, index + 1 < lexemes.length → Spacing (gaps index).toList) →
      Trailing last.toList → (∀ lexeme ∈ lexemes, IsLexeme lexeme.toList) →
      ∃ tokens ending,
        tokenize filename (first ++ spread gaps lexemes ++ last) = .ok (tokens ++ [ending]) ∧
        ending.content = (.endOfInput, "", .none) ∧
        List.Forall₂ (fun token lexeme => token.lexeme = lexeme ∧ token.Alone ∧
          ∃ single singleEnding, tokenize filename lexeme = .ok [single, singleEnding] ∧
            single.content = token.content) tokens lexemes) ∧
    ∀ source tokens, tokenize filename source = .ok tokens →
      ∀ written ∈ [tokens, tokens.dropLast],
        ∃ others, tokenize filename (" ".intercalate (written.map Token.lexeme)) = .ok others ∧
          others.map Token.content = tokens.map Token.content := by
  constructor
  · intro first last gaps lexemes padded spaced trailing areLexemes
    obtain ⟨tokens, rfl, alone⟩ := exists_alone_of_isLexeme areLexemes
    rw [List.length_map] at spaced
    obtain ⟨moved, ending, tokenized, isEnd, sameContent⟩ :=
      tokenize_of_alone filename first last gaps alone padded spaced trailing
    refine ⟨moved, ending, tokenized, isEnd, ?_⟩
    have sameLexemes : moved.map Token.lexeme = tokens.map Token.lexeme := by
      simpa [Function.comp_def, Token.content] using
        congrArg (List.map fun content => content.2.1) sameContent
    rw [← sameLexemes, List.forall₂_map_right_iff, List.forall₂_same]
    intro token member
    have tokenAlone := alone_of_textTape (textTape_of_tokenize tokenized) token member
    obtain ⟨single, singleEnding, singleTokenized, _, singleContent⟩ :=
      tokenAlone.tokenize filename
    exact ⟨rfl, tokenAlone, single, singleEnding, singleTokenized, singleContent⟩
  · intro source tokens tokenized
    obtain ⟨read, ending, tape, rfl⟩ := (tokenize_eq_ok_iff ..).1 tokenized
    have isEnd := content_of_textTape tape
    have joined (last : String) (trailing : Trailing last.toList) :
        ∃ others, tokenize filename (" ".intercalate (read.map Token.lexeme) ++ last) =
          .ok others ∧ others.map Token.content = (read ++ [ending]).map Token.content := by
      obtain ⟨moved, final, scanned, finalIsEnd, sameContent⟩ :=
        tokenize_intercalate filename last (alone_of_textTape tape) trailing
      exact ⟨_, scanned, by simp [sameContent, finalIsEnd, isEnd]⟩
    have noLexeme : ending.lexeme = "" := congrArg (fun content => content.2.1) isEnd
    intro written choice
    rw [List.mem_pair, List.dropLast_concat] at choice
    rcases choice with rfl | rfl
    · rw [List.map_append, List.map_singleton, noLexeme, intercalate_append_empty]
      split
      · exact joined "" .nil
      · exact joined " " (.spacing _ (.blank ' ' [] (by decide) .nil))
    · have scanned := joined "" .nil
      rwa [String.append_empty] at scanned

/-- Spaces of another script and comments that hold operators make no difference to what is scanned,
and two colons that they keep apart stay two. -/
theorem layout_with_comments :
    ∃ tokens ending,
      tokenize "input" ("// 1 +\n" ++
        spread (fun _ => "\u2003// << :\n\t") ["012", "<<", "declare", "x_1", ":", ":"] ++
        "\n// end") = .ok (tokens ++ [ending]) ∧
      ending.content = (.endOfInput, "", .none) ∧
      List.Forall₂ (fun token lexeme => token.lexeme = lexeme ∧ token.Alone ∧
        ∃ single singleEnding, tokenize "input" lexeme = .ok [single, singleEnding] ∧
          single.content = token.content)
        tokens ["012", "<<", "declare", "x_1", ":", ":"] ∧
      ∃ others,
        tokenize "input" (" ".intercalate ((tokens ++ [ending]).map Token.lexeme)) = .ok others ∧
        others.map Token.content = (tokens ++ [ending]).map Token.content := by
  have padded : Padding "// 1 +\n".toList :=
    .comment [' ', '1', ' ', '+'] [] (by decide) .nil
  have spaced : Spacing "\u2003// << :\n\t".toList :=
    .blank '\u2003' _ (by decide) (.comment [' ', '<', '<', ' ', ':'] _ (by decide)
      (.blank '\t' [] (by decide) .nil))
  have trailing : Trailing "\n// end".toList :=
    .comment ['\n'] [' ', 'e', 'n', 'd'] (.blank '\n' [] (by decide) .nil) (by decide)
  have areLexemes :
      ∀ lexeme ∈ ["012", "<<", "declare", "x_1", ":", ":"], IsLexeme lexeme.toList := by
    simp only [List.forall_mem_cons, List.not_mem_nil, false_implies, implies_true, and_true]
    refine ⟨.numeral _ (by decide) (List.all_eq_true.1 (by decide)) (by decide),
      .mark _ (.operator .shiftLeft) (by decide), ?_, ?_, .mark _ .colon (by decide),
      .mark _ .colon (by decide)⟩
    · exact .word _ (isWord_of_mem_keywords (_, .declare) (by decide))
    · exact .word _ ⟨⟨'x', by decide, by decide⟩, List.all_eq_true.1 (by decide)⟩
  obtain ⟨undone, again⟩ := tokenize_undoes_layout "input"
  obtain ⟨tokens, ending, tokenized, isEnd, areTheirs⟩ :=
    undone _ _ _ _ padded (fun _ _ => spaced) trailing areLexemes
  exact ⟨tokens, ending, tokenized, isEnd, areTheirs,
    again _ _ tokenized _ List.mem_cons_self⟩

end IntExpr
