/-
This file puts texts together from parts. What a lexeme is depends on the text behind it, but on
no more of it than the first character, and a gap depends on even less: only a comment has to know
whether a line feed follows. So the text behind a token can be replaced by another one that starts
in the same way, or by one that starts with a character that ends every lexeme. A line feed is
such a character and ends comments too, which is why any text can stand in front of it and keep
its tokens; they only move to another place.
-/

import IntExpr.Proofs.Tiling
import IntExpr.Proofs.Words

namespace IntExpr

/-! ### Another text behind a lexeme -/

/-- A character that no lexeme can go on with. -/
structure Separates (character : Char) : Prop where
  noPart : isWordPart character = false
  noMark : ∀ mark ∈ marks, character ∉ mark.1.tail
  noSlash : character ≠ '/'

/-- White space separates. -/
theorem separates_of_isBlank {character : Char} (white : Text.isBlank character = true) :
    Separates character := by
  have noMark : ∀ mark ∈ marks, mark.1.tail.all (fun other => !Text.isBlank other) = true := by
    decide
  refine ⟨?_, fun mark listed inMark => ?_, ?_⟩
  · rw [← Bool.not_eq_true, isWordPart, Bool.or_eq_true, isDigit_iff, isWordStart_iff]
    intro part
    rw [isBlank_eq_false_of_visible (by omega) (by omega)] at white
    exact Bool.false_ne_true white
  · have solid := List.all_eq_true.1 (noMark mark listed) character inMark
    rw [white] at solid
    exact Bool.false_ne_true solid
  · rintro rfl
    exact absurd white (by decide)

theorem separates_lineFeed : Separates '\n' := separates_of_isBlank (by decide)

theorem separates_leftParen : Separates '(' := ⟨by decide, by decide, by decide⟩

/-- One text starts like another one, or with a character of some kind. -/
def StartsLike (kind : Char → Prop) (text other : List Char) : Prop :=
  ∀ next ∈ text.head?, next ∈ other.head? ∨ kind next

namespace StartsLike

variable {kind : Char → Prop} {text other : List Char}

theorem of_head (first : ∀ next ∈ text.head?, kind next) : StartsLike kind text other :=
  fun next here => .inr (first next here)

/-- Texts with the same first part start alike. -/
theorem of_append {first : List Char} (someFirst : first ≠ []) (others : List Char) :
    StartsLike kind (first ++ others) (first ++ text) := by
  intro next here
  rw [List.head?_append_of_ne_nil _ someFirst] at here ⊢
  exact .inl here

/-- A text starts like itself with a text of some kind behind it. -/
theorem more {others : List Char} (first : ∀ next ∈ others.head?, kind next) :
    StartsLike kind (text ++ others) text := by
  cases text with
  | nil => exact of_head first
  | cons character rest => exact fun next here => .inl here

/-- Where the text that follows is told apart only by how it starts, it makes no difference. -/
theorem forall_head {wanted : Char → Prop} (like : StartsLike kind text other)
    (ofKind : ∀ next, kind next → wanted next) (holds : ∀ next ∈ other.head?, wanted next) :
    ∀ next ∈ text.head?, wanted next :=
  fun next here => (like next here).elim (holds next) (ofKind next)

/-- Two characters are at the head of a lexeme with a text behind it no matter how that text goes
on behind its first character. -/
theorem prefix_append {pair lexeme : List Char} (like : StartsLike kind text other)
    (someLexeme : lexeme ≠ []) (short : pair.length ≤ 2)
    (ofKind : ∀ next, kind next → next ∉ pair.tail) (here : pair <+: lexeme ++ text) :
    pair <+: lexeme ++ other := by
  obtain ⟨character, lexeme, rfl⟩ := List.exists_cons_of_ne_nil someLexeme
  match pair, lexeme with
  | [], _ => exact List.nil_prefix
  | [first], _ => simpa using here
  | [first, second], _ :: _ => simpa using here
  | [first, second], [] =>
    cases text with
    | nil => simp at here
    | cons next rest =>
      simp only [List.cons_append, List.nil_append, List.cons_prefix_cons, List.nil_prefix,
        and_true] at here
      obtain ⟨rfl, rfl⟩ := here
      obtain same | isKind := like second rfl
      · obtain ⟨behind, rfl⟩ := List.head?_eq_some_iff.1 same
        exact ⟨behind, rfl⟩
      · exact absurd (List.mem_singleton_self second) (ofKind second isKind)

end StartsLike

/-- A lexeme stays what it is in front of a text that starts in the same way, or separates. -/
theorem Lexeme.refollow {type : TokenType} {value : TokenValue} {lexeme following other : List Char}
    (found : Lexeme type value lexeme following)
    (like : StartsLike Separates other following) : Lexeme type value lexeme other := by
  cases found with
  | integer _ _ someDigit allDigits longest =>
    refine .integer lexeme other someDigit allDigits
      (like.forall_head (fun next ends => ?_) longest)
    exact (Bool.or_eq_false_iff.1 ends.noPart).2
  | keyword _ _ _ listed longest =>
    exact .keyword type lexeme other listed (like.forall_head (fun _ ends => ends.noPart) longest)
  | identifier _ _ isWord unlisted longest =>
    exact .identifier lexeme other isWord unlisted
      (like.forall_head (fun _ ends => ends.noPart) longest)
  | mark _ _ _ listed longest noComment =>
    have someMark : lexeme ≠ [] := by
      rintro rfl
      exact absurd (mark_length _ listed) (by simp)
    refine .mark type lexeme other listed (fun mark member here => ?_) fun here => noComment ?_
    · have short : mark.1.length ≤ 2 := by
        have length := mark_length mark member
        omega
      exact longest mark member
        (like.prefix_append someMark short (fun next ends => ends.noMark mark member) here)
    · refine like.prefix_append someMark (Nat.le_refl 2) (fun next ends => ?_) here
      simpa using ends.noSlash

/-- What a lexeme is a lexeme of does not depend on the text behind it. -/
theorem Lexeme.unique {type otherType : TokenType} {value otherValue : TokenValue}
    {lexeme following other : List Char} (found : Lexeme type value lexeme following)
    (otherFound : Lexeme otherType otherValue lexeme other) :
    type = otherType ∧ value = otherValue := by
  have alone : Lexeme type value lexeme [] := found.refollow (.of_head (by simp))
  have otherAlone : Lexeme otherType otherValue lexeme [] :=
    otherFound.refollow (.of_head (by simp))
  have taken := leadingLexeme_of_lexeme alone
  rw [leadingLexeme_of_lexeme otherAlone] at taken
  cases taken
  exact ⟨rfl, (found.value_eq .unknown).symm.trans (otherFound.value_eq .unknown)⟩

/-- A gap stays one in front of a text that starts in the same way, or with a line feed. -/
theorem Gap.refollow {gap following other : List Char} (layout : Gap gap following)
    (like : StartsLike (· = '\n') other following) : Gap gap other := by
  induction layout with
  | nil => exact .nil other
  | blank character gap _ white _ inductionHypothesis =>
    exact .blank character gap other white (inductionHypothesis like)
  | comment body gap following inLine lineEnd _ inductionHypothesis =>
    refine .comment body gap other inLine ?_ (inductionHypothesis like)
    cases gap with
    | nil => exact like.forall_head (fun _ same => same) lineEnd
    | cons => exact lineEnd

theorem Gap.append {first second following : List Char} (layout : Gap first (second ++ following))
    (others : Gap second following) : Gap (first ++ second) following := by
  generalize text : second ++ following = behind at layout
  induction layout with
  | nil => exact others
  | blank character gap _ white _ inductionHypothesis =>
    exact .blank character _ following white (inductionHypothesis text)
  | comment body gap _ inLine lineEnd _ inductionHypothesis =>
    subst text
    rw [List.cons_append, List.cons_append, List.append_assoc]
    exact .comment body _ following inLine (by rwa [List.append_assoc]) (inductionHypothesis rfl)

/-! ### Marks behind which anything may follow -/

/-- A mark is one in front of every text that starts with a character that separates. -/
theorem lexeme_of_mem_marks {mark following : List Char} {type : TokenType}
    (listed : (mark, type) ∈ marks) (separate : ∀ next ∈ following.head?, Separates next) :
    Lexeme type .none mark following := by
  have noComment : ∀ mark ∈ marks, ¬ ['/', '/'] <+: mark.1 := by decide
  refine Lexeme.refollow (.mark type mark [] listed ?_ ?_) (.of_head separate)
  · rw [List.append_nil]
    exact fun _ _ here => here.length_le
  · rw [List.append_nil]
    exact noComment _ listed

/-- A mark that no other mark goes on is one in front of every text. -/
theorem lexeme_of_alone {character : Char} {type : TokenType}
    (listed : ([character], type) ∈ marks) (alone : ∀ next, pairType character next = none)
    (noSlash : character ≠ '/') (following : List Char) :
    Lexeme type .none [character] following := by
  refine .mark type [character] following listed (fun other member here => ?_) ?_
  · rcases mark_cases member here with ⟨_, _, _, single, _⟩ | ⟨_, _, _, same, _, pair⟩
    · rw [single]
      rfl
    · cases same
      rw [alone] at pair
      cases pair
  · rintro ⟨rest, same⟩
    cases same
    exact noSlash rfl

theorem lexeme_leftParen (following : List Char) : Lexeme .leftParen .none ['('] following :=
  lexeme_of_alone (by decide) (fun _ => by simp [pairType]) (by decide) following

theorem lexeme_rightParen (following : List Char) : Lexeme .rightParen .none [')'] following :=
  lexeme_of_alone (by decide) (fun _ => by simp [pairType]) (by decide) following

theorem lexeme_question (following : List Char) : Lexeme .question .none ['?'] following :=
  lexeme_of_alone (by decide) (fun _ => by simp [pairType]) (by decide) following

/-! ### Another text behind a token -/

/-- A text with a tiling can be cut behind the lexeme of any of its tokens. Another text behind
the cut, if the lexeme is one in front of it too, leaves the tokens up to there as they are. -/
theorem Tiling.exists_cut {filename : String} {before text rest : List Char}
    {front back : List Token} {token : Token}
    (tiling : Tiling filename before text (front ++ token :: back) rest) :
    ∃ read following, text = read ++ (token.lexeme.toList ++ following) ∧
      token.location = .behind filename (before ++ read) ∧
      Lexeme token.type token.value token.lexeme.toList following ∧
      ∀ other others left, Lexeme token.type token.value token.lexeme.toList other →
        Tiling filename (before ++ read ++ token.lexeme.toList) other others left →
        Tiling filename before (read ++ (token.lexeme.toList ++ other))
          (front ++ token :: others) left := by
  induction front generalizing before text with
  | nil =>
    cases tiling with
    | token _ gap following _ _ _ layout lexeme place _ =>
      refine ⟨gap, following, rfl, place, lexeme, fun other others left otherLexeme tiled => ?_⟩
      have sameGap : Gap gap (token.lexeme.toList ++ other) :=
        layout.refollow (.of_append lexeme.ne_nil other)
      exact .token before gap other left token others sameGap otherLexeme place tiled
  | cons first front inductionHypothesis =>
    cases tiling with
    | token _ gap following _ _ _ layout lexeme place tiled =>
      obtain ⟨read, behind, rfl, tokenPlace, tokenLexeme, replace⟩ := inductionHypothesis tiled
      refine ⟨gap ++ (first.lexeme.toList ++ read), behind, by simp, by simpa using tokenPlace,
        tokenLexeme, fun other others left otherLexeme otherTiled => ?_⟩
      have sameStart : StartsLike Separates (read ++ (token.lexeme.toList ++ other))
          (read ++ (token.lexeme.toList ++ behind)) := by
        rw [← List.append_assoc, ← List.append_assoc read]
        exact .of_append (List.append_ne_nil_of_right_ne_nil _ tokenLexeme.ne_nil) other
      have sameGap : Gap gap (first.lexeme.toList ++ (read ++ (token.lexeme.toList ++ other))) :=
        layout.refollow (.of_append lexeme.ne_nil _)
      have grown := Tiling.token before gap _ left first _ sameGap (lexeme.refollow sameStart)
        place (replace other others left otherLexeme (by simpa using otherTiled))
      simpa using grown

/-- Another text has the tokens of a text up to a token whose lexeme it agrees with it up to, if
the lexeme is one of its lexemes too. -/
theorem textTape_of_cut {filename source other : String} {front back : List Token} {token : Token}
    {ending : Except ScanError Token}
    (tape : textTape filename source = ⟨front ++ token :: back, ending⟩)
    (same : other.toList.take (token.location.offset + token.lexeme.length) =
      source.toList.take (token.location.offset + token.lexeme.length))
    (again : ∃ found ∈ (textTape filename other).tokens,
      found.lexeme = token.lexeme ∧ found.location.offset = token.location.offset) :
    ∃ others otherEnding, textTape filename other = ⟨front ++ token :: others, otherEnding⟩ := by
  obtain ⟨_, _, _, tiling, readable, _⟩ := (textTape_eq_iff ..).1 tape
  obtain ⟨read, following, text, place, lexeme, replace⟩ := tiling.exists_cut
  obtain ⟨found, member, sameLexeme, sameOffset⟩ := again
  obtain ⟨otherTokens, otherEnding, otherScans⟩ := exists_scansTo filename [] other.toList
  rw [(textTape_eq_iff ..).2 otherScans] at member
  obtain ⟨otherFront, otherBack, rfl⟩ := List.append_of_mem member
  obtain ⟨_, _, _, otherTiling, _, _⟩ := otherScans
  obtain ⟨otherRead, otherFollowing, otherText, otherPlace, otherLexeme, _⟩ :=
    otherTiling.exists_cut
  rw [sameLexeme] at otherText otherLexeme
  have length : otherRead.length = read.length := by
    rwa [otherPlace, place] at sameOffset
  have offset : token.location.offset = read.length := by rw [place]; rfl
  have sameRead : otherRead = read := by
    rw [text, otherText, offset, ← List.append_assoc, ← List.append_assoc read,
      List.take_left' (by rw [List.length_append, length, String.length_toList]),
      List.take_left' (by rw [List.length_append, String.length_toList])] at same
    exact List.append_cancel_right same
  subst sameRead
  obtain ⟨sameType, sameValue⟩ := otherLexeme.unique lexeme
  rw [sameType, sameValue] at otherLexeme
  obtain ⟨others, ending, reached, rest, shape, scans, othersReadable, stops⟩ :=
    exists_scansTo filename (otherRead ++ token.lexeme.toList) otherFollowing
  refine ⟨others, ending, (textTape_eq_iff ..).2 ⟨reached, rest, ?_, ?_, ?_, stops⟩⟩
  · rw [otherText, ← shape]
    simp
  · rw [otherText]
    exact replace _ _ _ otherLexeme scans
  · rw [List.forall_mem_append, List.forall_mem_cons] at readable ⊢
    exact ⟨readable.1, readable.2.1, othersReadable⟩

/-! ### Texts that spell tokens -/

/-- Behind some part of a text, what follows is a row of tokens that can be read, and nothing
else. -/
structure Spells (filename : String) (before text : List Char) (tokens : List Token) : Prop where
  tiling : Tiling filename before text tokens []
  readable : ∀ token ∈ tokens, Readable token

/-- A text is scanned to some tokens and the end of the input exactly if it spells the tokens. -/
theorem spells_iff (filename source : String) (tokens : List Token) :
    Spells filename [] source.toList tokens ↔
      ∃ last, textTape filename source = ⟨tokens, .ok last⟩ := by
  simp only [textTape_eq_iff]
  constructor
  · rintro ⟨tiling, readable⟩
    exact ⟨_, source.toList, [], by simp, tiling, readable, .endOfInput _⟩
  · rintro ⟨last, reached, rest, place, tiling, readable, stops⟩
    cases stops
    exact ⟨tiling, readable⟩

/-- A tiling may start behind a gap. -/
theorem Tiling.ofGap {filename : String} {before gap text rest : List Char} {tokens : List Token}
    (layout : Gap gap text) (tiling : Tiling filename (before ++ gap) text tokens rest) :
    Tiling filename before (gap ++ text) tokens rest := by
  cases tiling with
  | stop _ other rest otherLayout =>
    rw [← List.append_assoc]
    exact .stop before (gap ++ other) rest (layout.append otherLayout)
  | token _ other following rest token tokens otherLayout lexeme place others =>
    rw [← List.append_assoc]
    exact .token before (gap ++ other) following rest token tokens (layout.append otherLayout)
      lexeme (by rwa [← List.append_assoc]) (by rwa [← List.append_assoc before])

namespace Spells

variable {filename : String} {before text : List Char} {tokens : List Token}

theorem nil (filename : String) (before : List Char) : Spells filename before [] [] :=
  ⟨.stop before [] [] (.nil []), by simp⟩

/-- A gap may be put in front. -/
theorem ofGap {gap : List Char} (layout : Gap gap text)
    (spelled : Spells filename (before ++ gap) text tokens) :
    Spells filename before (gap ++ text) tokens :=
  ⟨.ofGap layout spelled.tiling, spelled.readable⟩

/-- A lexeme that can be read may be put in front, with a gap in front of it. -/
theorem ofLexeme {gap lexeme : List Char} {type : TokenType} {value : TokenValue}
    (layout : Gap gap (lexeme ++ text)) (found : Lexeme type value lexeme text)
    (readable : type = .integer → lexeme.length ≤ digitLimit)
    (spelled : Spells filename (before ++ gap ++ lexeme) text tokens) :
    Spells filename before (gap ++ (lexeme ++ text))
      (⟨type, String.ofList lexeme, .behind filename (before ++ gap)⟩ :: tokens) := by
  refine ⟨.ofLexeme layout found spelled.tiling, List.forall_mem_cons.2 ⟨?_, spelled.readable⟩⟩
  intro integer
  rw [String.length_ofList]
  exact readable integer

/-- A lexeme that can be read may be put in front with no gap. -/
theorem ofLexeme_nil (before : List Char) {lexeme : List Char} {type : TokenType}
    {value : TokenValue} (found : Lexeme type value lexeme text)
    (readable : type = .integer → lexeme.length ≤ digitLimit)
    (spelled : Spells filename (before ++ lexeme) text tokens) :
    Spells filename before (lexeme ++ text)
      (⟨type, String.ofList lexeme, .behind filename before⟩ :: tokens) := by
  have behindNil : Spells filename (before ++ [] ++ lexeme) text tokens := by
    rwa [List.append_nil]
  have grown := behindNil.ofLexeme (.nil _) found readable
  rwa [List.append_nil] at grown

/-- A mark may be put in front. -/
theorem ofMark (before : List Char) {mark : List Char} {type : TokenType}
    (found : Lexeme type .none mark text) (plain : type ≠ .integer)
    (spelled : Spells filename (before ++ mark) text tokens) :
    ∃ token, token.type = type ∧ Spells filename before (mark ++ text) (token :: tokens) :=
  ⟨_, rfl, spelled.ofLexeme_nil before found fun integer => absurd integer plain⟩

/-- A text spells the same words at any other place, and in front of a line feed. -/
theorem embed {otherName : String} {elsewhere : List Char} {others : List Token}
    (spelled : Spells otherName elsewhere text tokens) (before more : List Char)
    (lineFeed : ∀ next ∈ more.head?, next = '\n')
    (behind : Spells filename (before ++ text) more others) :
    ∃ moved, SameWords moved tokens ∧
      Spells filename before (text ++ more) (moved ++ others) := by
  obtain ⟨tiling, readable⟩ := spelled
  generalize left : ([] : List Char) = rest at tiling
  induction tiling generalizing before with
  | stop _ gap rest layout =>
    subst left
    rw [List.append_nil] at behind ⊢
    exact ⟨[], rfl, behind.ofGap (layout.refollow (.of_head lineFeed))⟩
  | token _ gap following rest token tokens layout lexeme _ _ inductionHypothesis =>
    rw [List.forall_mem_cons] at readable
    obtain ⟨moved, sameWords, spelled⟩ := inductionHypothesis
      (before ++ gap ++ token.lexeme.toList) (by simpa using behind) readable.2 left
    have separate : ∀ next ∈ more.head?, Separates next := by
      intro next here
      rw [lineFeed next here]
      exact separates_lineFeed
    have grown := spelled.ofLexeme (layout.refollow (.of_append lexeme.ne_nil (following ++ more)))
      (lexeme.refollow (.more separate)) readable.1
    refine ⟨⟨token.type, token.lexeme, .behind filename (before ++ gap)⟩ :: moved, ?_, ?_⟩
    · exact congrArg (token.word :: ·) sameWords
    · simpa using grown

end Spells

end IntExpr
