/-
This file proves which tokens of a text each node of its tree stands for: a stretch of tokens that
follow one another, made up of the stretches of its parts and of the signs between and around them,
so that no token is left out and none is in two parts. The stretch of the whole tree is all tokens
but the one that ends the text, and the span of every node reaches from the first token of its
stretch to the last. The parser takes the end of a span from the token that it took last; a node is
built when that is the last token of its own stretch.
-/

import IntExpr.Proofs.Blame
import IntExpr.Proofs.StatefulParser

namespace IntExpr

/-! ### Stretches of tokens -/

/-- A span is known and reaches from the token at one position to the token at another. -/
def Spans (tokens : List Token) (first last : Nat) (span : Option Span) : Prop :=
  ∃ opening closing, tokens[first]? = some opening ∧ tokens[last]? = some closing ∧
    span = some ⟨opening.location, closing.location⟩

/-- The tokens from one position to another, both included, are those of a node: the tokens of its
parts with its own signs around and between them, without gaps. Each node spans its tokens. -/
inductive Covers (tokens : List Token) : Nat → Nat → Expr → Prop
  | literal (position : Nat) (token : Token) (value : Nat) (span : Option Span)
      (found : tokens[position]? = some token) (type : token.type = .integer)
      (carried : token.value = .number value) (spans : Spans tokens position position span) :
    Covers tokens position position (.literal value span)
  | identifier (position : Nat) (token : Token) (name : String) (span : Option Span)
      (found : tokens[position]? = some token) (type : token.type = .identifier)
      (carried : token.value = .name name) (spans : Spans tokens position position span) :
    Covers tokens position position (.identifier name span)
  | group (first last : Nat) (opening closing : Token) (inner : Expr) (span : Option Span)
      (opens : tokens[first]? = some opening) (openingType : opening.type = .leftParen)
      (innerCovers : Covers tokens (first + 1) last inner)
      (closes : tokens[last + 1]? = some closing) (closingType : closing.type = .rightParen)
      (spans : Spans tokens first (last + 1) span) :
    Covers tokens first (last + 1) (.group inner span)
  | binary (first middle last : Nat) (op : Operator) (sign : Token) (left right : Expr)
      (span : Option Span) (leftCovers : Covers tokens first middle left)
      (found : tokens[middle + 1]? = some sign) (signType : sign.type = .operator op)
      (rightCovers : Covers tokens (middle + 2) last right)
      (spans : Spans tokens first last span) :
    Covers tokens first last (.binary left op right span)
  | conditional (first middle next last : Nat) (question colon : Token)
      (condition whenTrue whenFalse : Expr) (span : Option Span)
      (conditionCovers : Covers tokens first middle condition)
      (asks : tokens[middle + 1]? = some question) (questionType : question.type = .question)
      (trueCovers : Covers tokens (middle + 2) next whenTrue)
      (parts : tokens[next + 1]? = some colon) (colonType : colon.type = .colon)
      (falseCovers : Covers tokens (next + 2) last whenFalse)
      (spans : Spans tokens first last span) :
    Covers tokens first last (.conditional condition whenTrue whenFalse span)

section

variable {tokens : List Token} {first middle next last : Nat}

/-- From the first token of one stretch to the last token of another. -/
theorem Spans.cover {left right : Option Span} (leftSpans : Spans tokens first middle left)
    (rightSpans : Spans tokens next last right) :
    Spans tokens first last (Span.cover left right) := by
  obtain ⟨opening, _, opens, _, rfl⟩ := leftSpans
  obtain ⟨_, closing, _, closes, rfl⟩ := rightSpans
  exact ⟨opening, closing, opens, closes, rfl⟩

theorem Spans.single {position : Nat} {token : Token} (found : tokens[position]? = some token) :
    Spans tokens position position (some (.single token.location)) :=
  ⟨token, token, found, found, rfl⟩

theorem Covers.spans {expr : Expr} (covers : Covers tokens first last expr) :
    Spans tokens first last expr.span := by
  cases covers <;> assumption

end

/-! ### Readings cover their tokens -/

/-- A row of tokens stands at a position among others. -/
def StandsAt (all : List Token) (position : Nat) (tokens : List Token) : Prop :=
  ∃ before behind, all = before ++ (tokens ++ behind) ∧ before.length = position

namespace StandsAt

variable {all tokens first second : List Token} {token : Token} {position next : Nat}

theorem self (tokens behind : List Token) : StandsAt (tokens ++ behind) 0 tokens :=
  ⟨[], behind, rfl, rfl⟩

theorem left (stands : StandsAt all position (first ++ second)) :
    StandsAt all position first := by
  obtain ⟨before, behind, rfl, rfl⟩ := stands
  exact ⟨before, second ++ behind, by rw [List.append_assoc], rfl⟩

theorem right (stands : StandsAt all position (first ++ second))
    (meets : position + first.length = next) : StandsAt all next second := by
  obtain ⟨before, behind, rfl, rfl⟩ := stands
  exact ⟨before ++ first, behind, by simp only [List.append_assoc],
    by rw [List.length_append, meets]⟩

theorem tail (stands : StandsAt all position (token :: tokens)) (meets : position + 1 = next) :
    StandsAt all next tokens :=
  have stands : StandsAt all position ([token] ++ tokens) := stands
  stands.right meets

theorem getElem?_eq (stands : StandsAt all position (token :: tokens)) :
    all[position]? = some token := by
  obtain ⟨before, behind, rfl, rfl⟩ := stands
  rw [List.getElem?_append_right (Nat.le_refl _), Nat.sub_self, List.cons_append,
    List.getElem?_cons_zero]

end StandsAt

namespace ReadAs

/-- No reading is of no tokens, so that it has a last one. -/
theorem exists_last {level : Level} {tokens : List Token} {expr : Expr}
    (reading : ReadAs level tokens expr) (first : Nat) :
    ∃ last, first + tokens.length = last + 1 := by
  have nonempty := List.length_pos_of_ne_nil reading.derives.tokens_ne_nil
  exact ⟨first + tokens.length - 1, by omega⟩

/-- A tree covers the tokens that it is read from, wherever these stand among others. -/
theorem covers {all : List Token} {level : Level} {tokens : List Token} {expr : Expr}
    (reading : ReadAs level tokens expr) {first last : Nat} (stands : StandsAt all first tokens)
    (ends : first + tokens.length = last + 1) : Covers all first last expr := by
  -- Each part is handed the position at which its own tokens stand. Where two parts meet, the end
  -- of the first is a position since no reading is of no tokens.
  induction reading generalizing first last with
  | integer token type =>
    obtain rfl : first = last := by simpa using ends
    have found := stands.getElem?_eq
    exact .literal first token _ _ found type (by rw [Token.value, type]) (.single found)
  | identifier token type =>
    obtain rfl : first = last := by simpa using ends
    have found := stands.getElem?_eq
    exact .identifier first token _ _ found type (by rw [Token.value, type]) (.single found)
  | group opening closing tokens inner openingType _ closingType inductionHypothesis =>
    rw [List.length_append, List.length_cons, List.length_singleton] at ends
    obtain ⟨inside, rfl⟩ : ∃ inside, last = inside + 1 := ⟨first + tokens.length, by omega⟩
    have opens := stands.left.getElem?_eq
    have closes : all[inside + 1]? = some closing :=
      (stands.right (by rw [List.length_cons]; omega)).getElem?_eq
    have innerCovers : Covers all (first + 1) inside inner :=
      inductionHypothesis (stands.left.tail rfl) (by omega)
    exact .group first inside opening closing inner _ opens openingType innerCovers closes
      closingType ⟨opening, closing, opens, closes, rfl⟩
  | operand _ _ _ _ inductionHypothesis => exact inductionHypothesis stands ends
  | unconditional _ _ _ inductionHypothesis => exact inductionHypothesis stands ends
  | operation op sign leftTokens rightTokens left right leftReading signType _ leftHypothesis
      rightHypothesis =>
    rw [List.length_append, List.length_cons] at ends
    obtain ⟨middle, leftEnds⟩ := leftReading.exists_last first
    have behindLeft := stands.right leftEnds
    have leftCovers : Covers all first middle left := leftHypothesis stands.left leftEnds
    have rightCovers : Covers all (middle + 2) last right :=
      rightHypothesis (behindLeft.tail rfl) (by omega)
    exact .binary first middle last op sign left right _ leftCovers behindLeft.getElem?_eq signType
      rightCovers (leftCovers.spans.cover rightCovers.spans)
  | conditional question colon conditionTokens trueTokens falseTokens condition whenTrue whenFalse
      conditionReading questionType trueReading colonType _ conditionHypothesis trueHypothesis
      falseHypothesis =>
    rw [List.length_append, List.length_cons, List.length_append, List.length_cons] at ends
    obtain ⟨middle, conditionEnds⟩ := conditionReading.exists_last first
    obtain ⟨next, trueEnds⟩ := trueReading.exists_last (middle + 2)
    have behindCondition := stands.right conditionEnds
    have behindQuestion : StandsAt all (middle + 2) _ := behindCondition.tail rfl
    have behindTrue := behindQuestion.right trueEnds
    have conditionCovers : Covers all first middle condition :=
      conditionHypothesis stands.left conditionEnds
    have trueCovers : Covers all (middle + 2) next whenTrue :=
      trueHypothesis behindQuestion.left trueEnds
    have falseCovers : Covers all (next + 2) last whenFalse :=
      falseHypothesis (behindTrue.tail rfl) (by omega)
    exact .conditional first middle next last question colon condition whenTrue whenFalse _
      conditionCovers behindCondition.getElem?_eq questionType trueCovers behindTrue.getElem?_eq
      colonType falseCovers (conditionCovers.spans.cover falseCovers.spans)

end ReadAs

/-! ### The tree of a text -/

/-- The tree of a text covers all its tokens but the one that ends the text. It is the tree that a
parser returns which ends spans at the token it took last, whatever that parser has been used for
before. -/
theorem parseText_covers_tokens {filename source : String} {expr : Expr}
    (parsed : parseText filename source = .ok expr) :
    (∃ tokens last, tokenize filename source = .ok (tokens ++ [last]) ∧
      last.type = .endOfInput ∧ 0 < tokens.length ∧
      Covers (tokens ++ [last]) 0 (tokens.length - 1) expr) ∧
    ∀ (beyond : Level → StatefulParse Expr) (state : ParserState),
      state.scanner.filename = filename →
      ∃ after, StatefulParse.whole beyond source state = .ok expr after := by
  constructor
  · obtain ⟨tokens, last, tape, reading, _⟩ := (parseText_eq_ok_iff _ _ _).1 parsed
    have endsOnce := endsOnce_textTape filename source
    rw [tape] at endsOnce
    have nonempty : 0 < tokens.length :=
      List.length_pos_of_ne_nil reading.derives.tokens_ne_nil
    refine ⟨tokens, last, (tokenize_eq_ok_iff _ _ _).2 ⟨tokens, last, tape, rfl⟩,
      endsOnce.2 last rfl, nonempty, ?_⟩
    exact reading.covers (.self tokens [last]) (by omega)
  · rintro beyond state rfl
    have restarts : parse source state.scanner =
        parse source (.start state.scanner.filename "") := rfl
    obtain ⟨after, _, ⟨tree, ran, plain⟩ | ⟨cause, _, plain⟩⟩ :=
      StatefulParse.whole_cases beyond source state
    · rw [parseText, ← restarts, plain] at parsed
      cases parsed
      exact ⟨after, ran⟩
    · rw [parseText, ← restarts, plain] at parsed
      cases parsed

/-- In `(12 + a) ? 3 : b` the conditional covers nine tokens. -/
theorem conditional_covers_nine_tokens :
    ∃ expr tokens last, parseText "expr" "(12 + a) ? 3 : b" = .ok expr ∧
      expr.span = some ⟨⟨"expr", 1, 1, 0⟩, ⟨"expr", 1, 16, 15⟩⟩ ∧
      tokenize "expr" "(12 + a) ? 3 : b" = .ok (tokens ++ [last]) ∧
      tokens.length = 9 ∧ Covers (tokens ++ [last]) 0 8 expr := by
  have spanned : (parseText "expr" "(12 + a) ? 3 : b").toOption.map Expr.span =
      some (some ⟨⟨"expr", 1, 1, 0⟩, ⟨"expr", 1, 16, 15⟩⟩) := by decide +kernel
  have counted : (tokenize "expr" "(12 + a) ? 3 : b").toOption.map List.length = some 10 := by
    decide +kernel
  cases parsed : parseText "expr" "(12 + a) ? 3 : b" with
  | error cause =>
    rw [parsed] at spanned
    cases spanned
  | ok expr =>
    obtain ⟨tokens, last, tokenized, _, _, covers⟩ := (parseText_covers_tokens parsed).1
    rw [parsed] at spanned
    rw [tokenized] at counted
    have nine : tokens.length = 9 := by simpa [Except.toOption] using counted
    rw [nine] at covers
    exact ⟨expr, tokens, last, rfl, Option.some_inj.1 spanned, tokenized, nine, covers⟩

end IntExpr
