/-
This file proves which texts are read as bindings, and what a binding that was read is good for. A
text is cut into seven pieces, from the white space in front of the name to that behind the digits.
Each of them goes on for as long as it can, so there is at most one way to cut a text, and reading
finds it. What is read as a name is a word, as the names in expressions are. But two of the words
are keywords, and a keyword is no expression, so the binding of one can never be used.
-/

import IntExpr.Binding
import IntExpr.Calculation
import IntExpr.Proofs.Decision
import IntExpr.Proofs.Layout
import Mathlib.Data.Set.Subsingleton

namespace IntExpr

namespace Binding

/-! ### The form of a binding -/

/-- A row of white space. -/
def Blank (gap : List Char) : Prop := ∀ character ∈ gap, Text.isBlank character = true

/-- A sign, or none. -/
def Sign (sign : List Char) : Prop := sign = [] ∨ sign = ['+'] ∨ sign = ['-']

/-- A row of digits, of at least one. -/
def Numeral (digits : List Char) : Prop := digits ≠ [] ∧ ∀ digit ∈ digits, digit.isDigit = true

/-- The pieces of a binding. The equals sign stands between the two gaps. -/
structure Pieces where
  margin : List Char
  name : List Char
  nameGap : List Char
  valueGap : List Char
  sign : List Char
  digits : List Char
  trail : List Char

namespace Pieces

/-- The pieces are of the kinds that a binding has, and a text consists of them. -/
structure Form (pieces : Pieces) (text : List Char) : Prop where
  margin : Blank pieces.margin
  name : IsWord pieces.name
  nameGap : Blank pieces.nameGap
  valueGap : Blank pieces.valueGap
  sign : Sign pieces.sign
  digits : Numeral pieces.digits
  trail : Blank pieces.trail
  whole : text = pieces.margin ++ (pieces.name ++ (pieces.nameGap ++ '=' ::
    (pieces.valueGap ++ (pieces.sign ++ (pieces.digits ++ pieces.trail)))))

/-- The decimal value of the digits, with the sign. -/
def value (pieces : Pieces) : Int :=
  let magnitude : Nat := Nat.ofDigits 10 (pieces.digits.reverse.map Decimal.digitValue)
  if pieces.sign = ['-'] then -(magnitude : Int) else magnitude

/-- What reading keeps of the pieces. -/
def parts (pieces : Pieces) : Parts :=
  ⟨pieces.name, decide (pieces.sign = ['-']), pieces.digits⟩

end Pieces

/-! ### Where a piece ends -/

/-- Neither a digit nor what a word starts with is white space. -/
theorem isBlank_eq_false_of_isWordPart {character : Char} (part : isWordPart character = true) :
    Text.isBlank character = false := by
  rw [isWordPart, Bool.or_eq_true, isDigit_iff, isWordStart_iff] at part
  exact isBlank_eq_false_of_visible (by omega) (by omega)

theorem head_word_append {word : List Char} (isWord : IsWord word) (rest : List Char) :
    ∀ next ∈ (word ++ rest).head?, Text.isBlank next = false := by
  obtain ⟨⟨first, here, _⟩, parts⟩ := isWord
  obtain ⟨others, rfl⟩ := List.head?_eq_some_iff.1 here
  rintro _ ⟨⟩
  exact isBlank_eq_false_of_isWordPart (parts first List.mem_cons_self)

theorem head_gap_append {gap : List Char} (blank : Blank gap) (rest : List Char) :
    ∀ next ∈ (gap ++ '=' :: rest).head?, isWordPart next = false := by
  cases gap with
  | nil =>
    rintro _ ⟨⟩
    decide
  | cons first others =>
    rintro _ ⟨⟩
    exact (separates_of_isBlank (blank first List.mem_cons_self)).noPart

theorem head_equals (rest : List Char) :
    ∀ next ∈ ('=' :: rest).head?, Text.isBlank next = false := by
  rintro _ ⟨⟩
  decide

theorem head_numeral_append {digits : List Char} (numeral : Numeral digits) (rest : List Char) :
    ∃ first others, digits ++ rest = first :: others ∧ first.isDigit = true := by
  obtain ⟨first, others, rfl⟩ := List.exists_cons_of_ne_nil numeral.1
  exact ⟨first, others ++ rest, rfl, numeral.2 first List.mem_cons_self⟩

theorem head_signed {sign digits : List Char} (isSign : Sign sign)
    (numeral : Numeral digits) (rest : List Char) :
    ∀ next ∈ (sign ++ (digits ++ rest)).head?, Text.isBlank next = false := by
  obtain ⟨first, others, same, digit⟩ := head_numeral_append numeral rest
  rw [same]
  rcases isSign with rfl | rfl | rfl
  · rintro _ ⟨⟩
    exact isBlank_eq_false_of_isWordPart (by rw [isWordPart, digit, Bool.or_true])
  · rintro _ ⟨⟩
    decide
  · rintro _ ⟨⟩
    decide

theorem head_trail {trail : List Char} (blank : Blank trail) :
    ∀ next ∈ trail.head?, next.isDigit = false := by
  intro next here
  have noPart := (separates_of_isBlank (blank next (List.mem_of_mem_head? here))).noPart
  rw [isWordPart, Bool.or_eq_false_iff] at noPart
  exact noPart.2

/-! ### One form at most -/

theorem splitSign_append {sign digits : List Char} (isSign : Sign sign)
    (numeral : Numeral digits) (rest : List Char) :
    splitSign (sign ++ (digits ++ rest)) = (decide (sign = ['-']), digits ++ rest) := by
  obtain ⟨first, others, same, digit⟩ := head_numeral_append numeral rest
  rw [same]
  rcases isSign with rfl | rfl | rfl
  · rw [List.nil_append, splitSign]
    · simp
    · rintro _ ⟨⟩
      cases digit
    · rintro _ ⟨⟩
      cases digit
  · rfl
  · rfl

/-- The sign does not go on for as long as it can, but what splits it off finds it. -/
theorem sign_unique {sign other digits otherDigits rest others : List Char}
    (same : sign ++ (digits ++ rest) = other ++ (otherDigits ++ others))
    (isSign : Sign sign) (otherIsSign : Sign other)
    (numeral : Numeral digits) (otherNumeral : Numeral otherDigits) :
    sign = other ∧ digits ++ rest = otherDigits ++ others := by
  have behind := congrArg splitSign same
  rw [splitSign_append isSign numeral, splitSign_append otherIsSign otherNumeral] at behind
  have sameNumber := (Prod.mk.inj behind).2
  rw [sameNumber] at same
  exact ⟨List.append_cancel_right same, sameNumber⟩

theorem form_subsingleton (text : List Char) :
    {pieces : Pieces | pieces.Form text}.Subsingleton := by
  intro pieces form others otherForm
  obtain ⟨margin, behindMargin⟩ := run_unique (form.whole.symm.trans otherForm.whole) form.margin
    otherForm.margin (head_word_append form.name _) (head_word_append otherForm.name _)
  obtain ⟨name, behindName⟩ := run_unique behindMargin form.name.2 otherForm.name.2
    (head_gap_append form.nameGap _) (head_gap_append otherForm.nameGap _)
  obtain ⟨nameGap, behindNameGap⟩ := run_unique behindName form.nameGap otherForm.nameGap
    (head_equals _) (head_equals _)
  obtain ⟨valueGap, behindValueGap⟩ := run_unique (List.cons.inj behindNameGap).2 form.valueGap
    otherForm.valueGap (head_signed form.sign form.digits _)
    (head_signed otherForm.sign otherForm.digits _)
  obtain ⟨sign, behindSign⟩ :=
    sign_unique behindValueGap form.sign otherForm.sign form.digits otherForm.digits
  obtain ⟨digits, trail⟩ := run_unique behindSign form.digits.2 otherForm.digits.2
    (head_trail form.trail) (head_trail otherForm.trail)
  cases pieces
  cases others
  simp_all

/-! ### Reading finds the form -/

theorem splitInteger_append {sign digits trail : List Char} (isSign : Sign sign)
    (numeral : Numeral digits) (blank : Blank trail) :
    splitInteger (sign ++ (digits ++ trail)) = some (decide (sign = ['-']), digits) := by
  have taken := takeWhile_append_eq numeral.2 (head_trail blank)
  have skipped : skipBlank trail = [] := List.dropWhile_eq_nil_iff.2 blank
  have someDigit : digits.isEmpty = false := by simpa using numeral.1
  simp only [splitInteger, splitSign_append isSign numeral, taken, someDigit, List.drop_left,
    skipped, List.isEmpty_nil, Bool.false_eq_true, if_false, if_true]

theorem Pieces.Form.split_eq {pieces : Pieces} {text : List Char} (form : pieces.Form text) :
    split text = some pieces.parts := by
  obtain ⟨⟨first, here, start⟩, wordParts⟩ := form.name
  obtain ⟨others, shape⟩ := List.head?_eq_some_iff.1 here
  rw [form.whole]
  simp only [split, skipBlank, dropWhile_append_eq form.margin (head_word_append form.name _),
    takeWhile_append_eq wordParts (head_gap_append form.nameGap _), List.drop_left,
    dropWhile_append_eq form.nameGap (head_equals _)]
  simp only [shape, start, if_true,
    dropWhile_append_eq form.valueGap (head_signed form.sign form.digits _),
    splitInteger_append form.sign form.digits form.trail, Option.map_some, Pieces.parts]

/-! ### Only a form is read -/

theorem exists_blank (text : List Char) : ∃ gap, Blank gap ∧ text = gap ++ skipBlank text :=
  ⟨text.takeWhile Text.isBlank, fun _ => List.mem_takeWhile_imp,
    List.takeWhile_append_dropWhile.symm⟩

theorem eq_takeWhile_append_drop (kind : Char → Bool) (text : List Char) :
    text = text.takeWhile kind ++ text.drop (text.takeWhile kind).length :=
  (List.prefix_iff_eq_append.1 (List.takeWhile_prefix kind)).symm

theorem exists_sign (text : List Char) :
    ∃ sign, Sign sign ∧ text = sign ++ (splitSign text).2 ∧
      (splitSign text).1 = decide (sign = ['-']) := by
  unfold splitSign
  split
  · exact ⟨['-'], .inr (.inr rfl), rfl, rfl⟩
  · exact ⟨['+'], .inr (.inl rfl), rfl, rfl⟩
  · exact ⟨[], .inl rfl, rfl, rfl⟩

theorem exists_of_splitInteger {text digits : List Char} {negative : Bool}
    (found : splitInteger text = some (negative, digits)) :
    ∃ sign trail, Sign sign ∧ Numeral digits ∧ Blank trail ∧
      text = sign ++ (digits ++ trail) ∧ negative = decide (sign = ['-']) := by
  obtain ⟨sign, isSign, whole, isMinus⟩ := exists_sign text
  simp only [splitInteger] at found
  split at found
  · cases found
  · rename_i someDigit
    split at found
    · rename_i ended
      cases found
      refine ⟨sign, _, isSign, ⟨by simpa using someDigit, fun _ => List.mem_takeWhile_imp⟩,
        List.dropWhile_eq_nil_iff.1 (List.isEmpty_iff.1 ended), ?_, isMinus⟩
      rw [← eq_takeWhile_append_drop, ← whole]
    · cases found

theorem exists_form_of_split {text : List Char} {parts : Parts} (found : split text = some parts) :
    ∃ pieces : Pieces, pieces.Form text ∧ parts = pieces.parts := by
  simp only [split] at found
  split at found
  · rename_i first others rest word equals
    split at found
    · rename_i start
      obtain ⟨⟨negative, digits⟩, integer, rfl⟩ := Option.map_eq_some_iff.1 found
      obtain ⟨sign, trail, isSign, numeral, trailBlank, signed, rfl⟩ :=
        exists_of_splitInteger integer
      obtain ⟨margin, marginBlank, behindMargin⟩ := exists_blank text
      obtain ⟨nameGap, nameGapBlank, behindName⟩ := exists_blank
        ((skipBlank text).drop ((skipBlank text).takeWhile isWordPart).length)
      obtain ⟨valueGap, valueGapBlank, behindEquals⟩ := exists_blank rest
      have behindBlank := eq_takeWhile_append_drop isWordPart (skipBlank text)
      have isWord : IsWord (first :: others) :=
        ⟨⟨first, rfl, start⟩, fun _ member => List.mem_takeWhile_imp (word ▸ member)⟩
      refine ⟨⟨margin, first :: others, nameGap, valueGap, sign, digits, trail⟩,
        ⟨marginBlank, isWord, nameGapBlank, valueGapBlank, isSign, numeral, trailBlank, ?_⟩, ?_⟩
      · rw [behindName, equals, word, behindEquals, signed] at behindBlank
        rw [← behindBlank, ← behindMargin]
      · rw [Pieces.parts, word]
    · cases found
  · cases found

/-! ### What reading a text comes to -/

theorem Pieces.Form.read_eq {pieces : Pieces} {text : String} (form : pieces.Form text.toList) :
    read text =
      if pieces.digits.length ≤ digitLimit then .ok (String.ofList pieces.name, pieces.value)
      else .error (.tooLong (.reading pieces.digits.length)) := by
  rw [read, form.split_eq]
  by_cases short : pieces.digits.length ≤ digitLimit
  · have magnitude : Decimal.read pieces.digits = .ok (Decimal.value pieces.digits) := if_pos short
    simp only [Pieces.parts, magnitude, if_pos short, decide_eq_true_eq, Pieces.value,
      Decimal.value_eq_ofDigits]
  · have refused : Decimal.read pieces.digits = .error (.reading pieces.digits.length) :=
      if_neg short
    simp only [Pieces.parts, refused, if_neg short]

/-- A text of the form of a binding has digits that can be read or too many of them, and any other
text is refused. -/
theorem read_cases (text : String) :
    (∃ pieces : Pieces, pieces.Form text.toList ∧ pieces.digits.length ≤ digitLimit ∧
      read text = .ok (String.ofList pieces.name, pieces.value)) ∨
    (∃ pieces : Pieces, pieces.Form text.toList ∧ digitLimit < pieces.digits.length ∧
      read text = .error (.tooLong (.reading pieces.digits.length))) ∨
    (¬ ∃ pieces : Pieces, pieces.Form text.toList) ∧ read text = .error (.malformed text) := by
  cases found : split text.toList with
  | none =>
    refine .inr (.inr ⟨?_, by rw [read, found]⟩)
    rintro ⟨pieces, form⟩
    rw [form.split_eq] at found
    cases found
  | some parts =>
    obtain ⟨pieces, form, _⟩ := exists_form_of_split found
    rcases Nat.lt_or_ge digitLimit pieces.digits.length with long | short
    · exact .inr (.inl ⟨pieces, form, long, by rw [form.read_eq, if_neg (Nat.not_le_of_lt long)]⟩)
    · exact .inl ⟨pieces, form, short, by rw [form.read_eq, if_pos short]⟩

/-- A text is read exactly if it has the form of a binding and no more digits than can be read; what
is read is the name and the decimal value with its sign. With more digits it is refused for them,
and without the form for the form. No text has the form in two ways. -/
theorem read_follows_form (text : String) :
    (∀ name value, read text = .ok (name, value) ↔
      ∃ pieces : Pieces, pieces.Form text.toList ∧ pieces.digits.length ≤ digitLimit ∧
        name = String.ofList pieces.name ∧ value = pieces.value) ∧
    (∀ cause, read text = .error (.tooLong cause) ↔
      ∃ pieces : Pieces, pieces.Form text.toList ∧ digitLimit < pieces.digits.length ∧
        cause = .reading pieces.digits.length) ∧
    (∀ refused, read text = .error (.malformed refused) ↔
      refused = text ∧ ¬ ∃ pieces : Pieces, pieces.Form text.toList) ∧
    {pieces : Pieces | pieces.Form text.toList}.Subsingleton := by
  refine ⟨fun name value => ⟨fun same => ?_, ?_⟩, fun cause => ⟨fun same => ?_, ?_⟩,
    fun refused => ⟨fun same => ?_, ?_⟩, form_subsingleton text.toList⟩
  · rcases read_cases text with ⟨pieces, form, short, ended⟩ | ⟨_, _, _, ended⟩ | ⟨_, ended⟩ <;>
      cases ended.symm.trans same
    exact ⟨pieces, form, short, rfl, rfl⟩
  · rintro ⟨pieces, form, short, rfl, rfl⟩
    rw [form.read_eq, if_pos short]
  · rcases read_cases text with ⟨_, _, _, ended⟩ | ⟨pieces, form, long, ended⟩ | ⟨_, ended⟩ <;>
      cases ended.symm.trans same
    exact ⟨pieces, form, long, rfl⟩
  · rintro ⟨pieces, form, long, rfl⟩
    rw [form.read_eq, if_neg (Nat.not_le_of_lt long)]
  · rcases read_cases text with ⟨_, _, _, ended⟩ | ⟨_, _, _, ended⟩ | ⟨noForm, ended⟩ <;>
      cases ended.symm.trans same
    exact ⟨rfl, noForm⟩
  · rintro ⟨rfl, noForm⟩
    rcases read_cases refused with ⟨pieces, form, _⟩ | ⟨pieces, form, _⟩ | ⟨_, ended⟩
    · exact absurd ⟨pieces, form⟩ noForm
    · exact absurd ⟨pieces, form⟩ noForm
    · exact ended

example : read "\u2003x_1 =\t-007\n" = .ok ("x_1", -7) := by decide +kernel

/-! ### Names that are keywords -/

theorem isWord_of_read {text name : String} {value : Int} (bound : read text = .ok (name, value)) :
    IsWord name.toList := by
  rcases read_cases text with ⟨pieces, form, _, ended⟩ | ⟨_, _, _, ended⟩ | ⟨_, ended⟩ <;>
    cases ended.symm.trans bound
  rw [String.toList_ofList]
  exact form.name

end Binding

/-- A word is alone what its spelling makes it, a keyword or an identifier. -/
theorem alone_of_isWord {word : String} (isWord : IsWord word.toList) :
    (Token.unplaced (wordType word) word).Alone := by
  have noNumeral : ∀ keyword ∈ keywords, keyword.2 ≠ .integer := by decide
  rcases wordType_cases word.toList with listed | ⟨unlisted, type⟩
  · rw [String.ofList_toList] at listed
    exact Token.alone_of_lexeme (.keyword _ _ [] listed (by simp)) fun integer =>
      absurd integer (noNumeral _ listed)
  · rw [String.ofList_toList] at type
    rw [type]
    exact Token.alone_of_lexeme (.identifier _ [] isWord unlisted (by simp)) (by simp)

/-- A text that is a word is scanned to the token that the word is alone. -/
theorem tokenize_of_isWord (filename : String) {word : String} (isWord : IsWord word.toList) :
    ∃ token ending, tokenize filename word = .ok [token, ending] ∧
      ending.content = (.endOfInput, "", .none) ∧ token.type = wordType word ∧
      token.content = (Token.unplaced (wordType word) word).content := by
  obtain ⟨token, ending, tokenized, isEnd, content⟩ := (alone_of_isWord isWord).tokenize filename
  exact ⟨token, ending, tokenized, isEnd, congrArg Prod.fst content, content⟩

section

variable {source : String} {token ending : Token}
  (tokenized : tokenize inputName source = .ok [token, ending])

include tokenized

/-- A text of one identifier comes to the value that the identifier is bound to. -/
theorem calculateText_of_identifier (type : token.type = .identifier)
    (symbols : List (String × Int)) :
    calculateText source symbols =
      (valueOf (some (Bindings.ofList symbols)) token.lexeme (some token.location)).mapError
        .evaluation := by
  have reading : ReadAs .conditional [token] _ :=
    (ReadAs.identifier token type).loosen (Level.strength_le .conditional)
  have tape : textTape inputName source = ⟨[token], .ok ending⟩ := textTape_of_tokenize tokenized
  have parsed := (parseText_eq_ok_iff inputName source _).2
    ⟨[token], ending, tape, reading, Nat.le_add_left 1 255⟩
  rw [calculateText_of_ok symbols parsed, Expr.evaluate]
  rfl

/-- A text of one token that no expression starts with is refused for it. -/
theorem calculateText_of_refused (refused : token.type ∉ operandStart)
    (symbols : List (String × Int)) :
    calculateText source symbols =
      .error (.parse (.grammar (.unexpected operandStart token))) := by
  have rejected : Rejected [] (.unexpected operandStart token) :=
    .stuck _ (.here (.noOperand 255 .conditional token refused))
  have tape : textTape inputName source = (⟨[token], .ok ending⟩ : Tape).prepend [] :=
    textTape_of_tokenize tokenized
  exact calculateText_of_error symbols (rejected.parseText_eq tape rfl)

end

/-- What is read as a name is the text of a single token. Unless the name is a keyword, the token is
the identifier of that name, and the name as an expression comes to the value that was read with
it. A keyword is read as a name all the same, but its token is that keyword, and no expression can
start with it. -/
theorem Binding.usable_unless_keyword (filename : String) {text name : String} {value : Int}
    (bound : read text = .ok (name, value)) :
    ∃ token ending, tokenize filename name = .ok [token, ending] ∧
      ending.content = (.endOfInput, "", .none) ∧
      ((name ≠ "declare" ∧ name ≠ "print" ∧ token.content = (.identifier, name, .name name) ∧
          calculateText name [(name, value)] = .ok value) ∨
        ((name = "declare" ∨ name = "print") ∧ token.content = (wordType name, name, .none) ∧
          token.type.isKeyword = true ∧
          ∃ found, found.content = token.content ∧
            calculateText name [(name, value)] =
              .error (.parse (.grammar (.unexpected operandStart found))))) := by
  have isWord := isWord_of_read bound
  obtain ⟨token, ending, tokenized, isEnd, type, content⟩ := tokenize_of_isWord filename isWord
  obtain ⟨found, foundEnding, foundTokenized, _, foundType, foundContent⟩ :=
    tokenize_of_isWord inputName isWord
  refine ⟨token, ending, tokenized, isEnd, ?_⟩
  by_cases keyword : name = "declare" ∨ name = "print"
  · have isKeyword : (wordType name).isKeyword = true := by
      rcases keyword with rfl | rfl <;> rfl
    refine .inr ⟨keyword, ?_, by rwa [type], found, foundContent.trans content.symm, ?_⟩
    · rw [content]
      rcases keyword with rfl | rfl <;> rfl
    · refine calculateText_of_refused foundTokenized ?_ _
      rw [foundType]
      rcases keyword with rfl | rfl <;> decide
  · obtain ⟨notDeclare, notPrint⟩ := not_or.1 keyword
    have identifier : wordType name = .identifier := by
      rw [wordType, if_neg notDeclare, if_neg notPrint]
    refine .inl ⟨notDeclare, notPrint, ?_, ?_⟩
    · rw [content, identifier]
      rfl
    · have sameName : found.lexeme = name :=
        congrArg (fun content => content.2.1) foundContent
      have lookup : (Bindings.ofList [(name, value)]).lookup name = some ⟨name, value, none⟩ :=
        Bindings.lookup_store_self .empty ⟨name, value, none⟩
      rw [calculateText_of_identifier foundTokenized (foundType.trans identifier), sameName,
        valueOf, Bindings.get, lookup]
      rfl

/-- A name that is given with spaces and a line end around it can be used. -/
theorem Binding.spaced_name_usable :
    read " x_1 =\n-5" = .ok ("x_1", -5) ∧
      ∃ token ending, tokenize "<string>" "x_1" = .ok [token, ending] ∧
        ending.content = (.endOfInput, "", .none) ∧
        token.content = (.identifier, "x_1", .name "x_1") ∧
        calculateText "x_1" [("x_1", -5)] = .ok (-5) := by
  have bound : read " x_1 =\n-5" = .ok ("x_1", -5) := by decide +kernel
  obtain ⟨token, ending, tokenized, isEnd, ⟨_, _, content, value⟩ | ⟨keyword, _⟩⟩ :=
    usable_unless_keyword "<string>" bound
  · exact ⟨bound, token, ending, tokenized, isEnd, content, value⟩
  · exact absurd keyword (by decide)

/-- Not every name that is bound can be used: `print` is read as a name, but scanned as a
keyword. -/
theorem Binding.keyword_bound_unusable :
    read "print=1" = .ok ("print", 1) ∧
      tokenize "<string>" "print" = .ok
        [⟨.print, "print", ⟨"<string>", 1, 1, 0⟩⟩, ⟨.endOfInput, "", ⟨"<string>", 1, 6, 5⟩⟩] ∧
      calculateText "print" [("print", 1)] = .error
        (.parse (.grammar (.unexpected operandStart ⟨.print, "print", ⟨"<input>", 1, 1, 0⟩⟩))) :=
  ⟨by decide +kernel, by decide +kernel, rfl⟩

end IntExpr
