/-
This file proves that the tokens of a text tile it. The text is a gap, a lexeme, a gap, a
lexeme, and so on up to a last gap; each lexeme is the longest of its kind at its place, and each
token says where its lexeme stands and what it is. A scan that fails has tiled the text up to
the place of the fault, and what stands there is no token that can be read. Conversely nothing
else tiles a text, so the tokens are determined by it.
-/

import IntExpr.Proofs.Lexeme
import IntExpr.Proofs.Place
import IntExpr.Proofs.Tape

namespace IntExpr

/-! ### Tilings -/

/-- Behind some part of a text, what follows is a row of tokens, each with a gap in front of it,
up to a last gap and a rest that is left over. -/
inductive Tiling (filename : String) : List Char → List Char → List Token → List Char → Prop
  | stop (before gap rest : List Char) (layout : Gap gap rest) :
    Tiling filename before (gap ++ rest) [] rest
  | token (before gap following rest : List Char) (token : Token) (tokens : List Token)
      (layout : Gap gap (token.lexeme.toList ++ following))
      (lexeme : Lexeme token.type token.value token.lexeme.toList following)
      (place : token.location = .behind filename (before ++ gap))
      (others : Tiling filename (before ++ gap ++ token.lexeme.toList) following tokens rest) :
    Tiling filename before (gap ++ (token.lexeme.toList ++ following)) (token :: tokens) rest

/-- A token whose lexeme is no numeral that is too long to be read. -/
def Readable (token : Token) : Prop :=
  token.type = .integer → token.lexeme.length ≤ digitLimit

/-- What scanning comes upon behind some part of a text where no token can be read: the end of
the input, a character that starts nothing, or a numeral that is too long. -/
inductive Ending (filename : String) : List Char → List Char → Except ScanError Token → Prop
  | endOfInput (before : List Char) :
    Ending filename before [] (.ok ⟨.endOfInput, "", .behind filename before⟩)
  | invalidCharacter (before : List Char) (character : Char) (rest : List Char)
      (lost : StartsNothing character rest) :
    Ending filename before (character :: rest)
      (.error (.invalidCharacter character (.behind filename before)))
  | numeralTooLong (before : List Char) (value : TokenValue) (digits following : List Char)
      (numeral : Lexeme .integer value digits following) (long : digitLimit < digits.length) :
    Ending filename before (digits ++ following) (.error (.numeralTooLong digits.length))

/-- Behind some part of a text, scanning reads certain tokens and then comes upon what it stops
at: the tokens can be read and tile the text up to that. -/
def ScansTo (filename : String) (before text : List Char) (tokens : List Token)
    (ending : Except ScanError Token) : Prop :=
  ∃ reached rest, before ++ text = reached ++ rest ∧ Tiling filename before text tokens rest ∧
    (∀ token ∈ tokens, Readable token) ∧ Ending filename reached rest ending

theorem Ending.not_startsGap {filename : String} {before rest : List Char}
    {ending : Except ScanError Token} (stops : Ending filename before rest ending) :
    ¬ StartsGap rest := by
  cases stops with
  | endOfInput => exact not_startsGap_nil
  | invalidCharacter _ _ lost => exact lost.noGap
  | numeralTooLong _ _ _ numeral _ => exact numeral.not_startsGap

/-- A tiling grows by the token of a lexeme in front of it. -/
theorem Tiling.ofLexeme {filename : String} {before gap lexeme following rest : List Char}
    {type : TokenType} {value : TokenValue} {tokens : List Token}
    (layout : Gap gap (lexeme ++ following)) (found : Lexeme type value lexeme following)
    (others : Tiling filename (before ++ gap ++ lexeme) following tokens rest) :
    Tiling filename before (gap ++ (lexeme ++ following))
      (⟨type, String.ofList lexeme, .behind filename (before ++ gap)⟩ :: tokens) rest := by
  have grown := @Tiling.token filename before gap following rest
    ⟨type, String.ofList lexeme, .behind filename (before ++ gap)⟩ tokens
  simp only [String.toList_ofList] at grown
  refine grown layout ?_ trivial others
  rw [found.value_eq]
  exact found

/-- What is left over behind a tiling is the end of the text. -/
theorem Tiling.exists_reached {filename : String} {before text rest : List Char}
    {tokens : List Token} (tiling : Tiling filename before text tokens rest) :
    ∃ reached, before ++ text = reached ++ rest := by
  induction tiling with
  | stop before gap rest _ => exact ⟨before ++ gap, by rw [List.append_assoc]⟩
  | token _ _ _ _ _ _ _ _ _ _ inductionHypothesis =>
    obtain ⟨reached, place⟩ := inductionHypothesis
    exact ⟨reached, by rw [← place]; simp⟩

/-- In a tiling each token stands where it says. -/
theorem Tiling.place_of_mem {filename : String} {before text rest : List Char}
    {tokens : List Token} (tiling : Tiling filename before text tokens rest) :
    ∀ token ∈ tokens, ∃ front back, before ++ text = front ++ (token.lexeme.toList ++ back) ∧
      token.location = .behind filename front := by
  induction tiling with
  | stop => simp
  | token before gap following rest token tokens _ _ place _ inductionHypothesis =>
    refine List.forall_mem_cons.2 ⟨⟨before ++ gap, following, by simp, place⟩, ?_⟩
    intro other member
    obtain ⟨front, back, same, otherPlace⟩ := inductionHypothesis other member
    exact ⟨front, back, by rw [← same]; simp, otherPlace⟩

/-- The end of the input is not among the tokens that tile a text. -/
theorem Tiling.type_ne_endOfInput {filename : String} {before text rest : List Char}
    {tokens : List Token} (tiling : Tiling filename before text tokens rest) :
    ∀ token ∈ tokens, token.type ≠ .endOfInput := by
  induction tiling with
  | stop => simp
  | token _ _ _ _ _ _ _ lexeme _ _ inductionHypothesis =>
    exact List.forall_mem_cons.2 ⟨lexeme.type_ne_endOfInput, inductionHypothesis⟩

/-! ### One scan -/

namespace Cursor

/-- A scan goes over the gap first. -/
theorem scan_behind_gap (filename : String) (before : List Char) {gap rest : List Char}
    (layout : Gap gap rest) (noGap : ¬ StartsGap rest) :
    (behind before (gap ++ rest)).scan filename =
      (behind (before ++ gap) rest).scanToken filename := by
  have past : (behind before (gap ++ rest)).pastGap = behind (before ++ gap) rest := by
    show (behind before (gap ++ rest)).skip (gapLength (gap ++ rest)) = _
    rw [gapLength_append layout noGap, skip_behind]
  rw [scan, past]

/-- What a scan makes of a lexeme at the cursor. -/
theorem scanToken_of_lexeme (filename : String) (before : List Char) {type : TokenType}
    {value : TokenValue} {lexeme following : List Char}
    (found : Lexeme type value lexeme following) :
    (behind before (lexeme ++ following)).scanToken filename =
      if type = .integer ∧ digitLimit < lexeme.length then
        (.error (.numeralTooLong lexeme.length), behind (before ++ lexeme) following)
      else
        (.ok ⟨type, String.ofList lexeme, .behind filename before⟩,
          behind (before ++ lexeme) following) := by
  have taken := leadingLexeme_of_lexeme found
  rw [← skip_behind]
  obtain ⟨first, others, rfl⟩ := List.exists_cons_of_ne_nil found.ne_nil
  simp only [scanToken, behind, List.cons_append] at taken ⊢
  rw [taken]
  rfl

/-- A scan that is at the end, or where no token can be read, comes out with just that. -/
theorem scanToken_of_ending {filename : String} {before rest : List Char}
    {ending : Except ScanError Token} (stops : Ending filename before rest ending) :
    ∃ after, (behind before rest).scanToken filename = (ending, after) := by
  cases stops with
  | endOfInput => exact ⟨_, rfl⟩
  | invalidCharacter character rest lost =>
    refine ⟨behind before (character :: rest), ?_⟩
    have taken := leadingLexeme_of_startsNothing lost
    simp only [scanToken, behind, taken]
    rfl
  | numeralTooLong value digits following numeral long =>
    exact ⟨_, by rw [scanToken_of_lexeme filename before numeral, if_pos ⟨rfl, long⟩]⟩

/-! ### The tape of a tiled text -/

/-- The tape of a text that scans to some tokens and an end holds just these. -/
theorem tape_of_tiling {filename : String} {before text rest reached : List Char}
    {tokens : List Token} {ending : Except ScanError Token}
    (tiling : Tiling filename before text tokens rest)
    (readable : ∀ token ∈ tokens, Readable token) (place : before ++ text = reached ++ rest)
    (stops : Ending filename reached rest ending) :
    (behind before text).tape filename = ⟨tokens, ending⟩ := by
  induction tiling with
  | stop before gap rest layout =>
    rw [← List.append_assoc] at place
    obtain rfl := List.append_cancel_right place
    obtain ⟨after, scanned⟩ := scanToken_of_ending stops
    rw [← scan_behind_gap filename before layout stops.not_startsGap] at scanned
    cases ending with
    | error cause => exact tape_of_scan_error scanned
    | ok last =>
      rw [tape_of_scan_ok scanned]
      cases stops
      exact Tape.push_of_end _ rfl
  | token before gap following rest token tokens layout lexeme location _ inductionHypothesis =>
    rw [List.forall_mem_cons] at readable
    have scanned := scan_behind_gap filename before layout lexeme.not_startsGap
    rw [scanToken_of_lexeme filename _ lexeme, if_neg, String.ofList_toList, ← location] at scanned
    · rw [tape_of_scan_ok scanned, inductionHypothesis readable.2 (by rw [← place]; simp) stops]
      exact Tape.push_of_more _ lexeme.type_ne_endOfInput
    · rintro ⟨integer, long⟩
      exact absurd (readable.1 integer) (Nat.not_le.2 long)

end Cursor

/-- A gap leads to what scanning stops at behind it. -/
theorem ScansTo.ofEnding {filename : String} {before gap rest : List Char}
    {ending : Except ScanError Token} (layout : Gap gap rest)
    (stops : Ending filename (before ++ gap) rest ending) :
    ScansTo filename before (gap ++ rest) [] ending :=
  ⟨before ++ gap, rest, by rw [List.append_assoc], .stop before gap rest layout, by simp, stops⟩

/-- A gap and a lexeme that can be read lead to what the text behind them scans to. -/
theorem ScansTo.ofLexeme {filename : String} {before gap lexeme following : List Char}
    {type : TokenType} {value : TokenValue} {tokens : List Token}
    {ending : Except ScanError Token} (layout : Gap gap (lexeme ++ following))
    (found : Lexeme type value lexeme following)
    (readable : type = .integer → lexeme.length ≤ digitLimit)
    (others : ScansTo filename (before ++ gap ++ lexeme) following tokens ending) :
    ScansTo filename before (gap ++ (lexeme ++ following))
      (⟨type, String.ofList lexeme, .behind filename (before ++ gap)⟩ :: tokens) ending := by
  obtain ⟨reached, rest, place, tiling, othersReadable, stops⟩ := others
  refine ⟨reached, rest, by rw [← place]; simp, .ofLexeme layout found tiling,
    List.forall_mem_cons.2 ⟨?_, othersReadable⟩, stops⟩
  intro integer
  rw [String.length_ofList]
  exact readable integer

/-- Every text scans to some tokens and some end. -/
theorem exists_scansTo (filename : String) (before text : List Char) :
    ∃ tokens ending, ScansTo filename before text tokens ending := by
  induction size : text.length using Nat.strong_induction_on generalizing before text with
  | _ size inductionHypothesis =>
    subst size
    obtain ⟨gap, rest, rfl, layout, noGap⟩ := exists_gap text
    rcases lexeme_cases noGap with rfl | ⟨type, value, lexeme, following, rfl, found⟩ |
      ⟨character, others, rfl, lost⟩
    · exact ⟨_, _, .ofEnding layout (.endOfInput _)⟩
    · by_cases long : type = .integer ∧ digitLimit < lexeme.length
      · obtain ⟨rfl, long⟩ := long
        exact ⟨_, _, .ofEnding layout (.numeralTooLong _ value lexeme following found long)⟩
      · have shorter := List.length_pos_iff.2 found.ne_nil
        obtain ⟨tokens, ending, others⟩ :=
          inductionHypothesis following.length (by simp only [List.length_append]; omega)
            (before ++ gap ++ lexeme) following rfl
        exact ⟨_, _, .ofLexeme layout found
          (fun integer => Nat.not_lt.1 fun more => long ⟨integer, more⟩) others⟩
    · exact ⟨_, _, .ofEnding layout (.invalidCharacter _ character others lost)⟩

/-- The tape of a text holds the tokens and the end that the text scans to, and no others. -/
theorem textTape_eq_iff (filename source : String) (tokens : List Token)
    (ending : Except ScanError Token) :
    textTape filename source = ⟨tokens, ending⟩ ↔
      ScansTo filename [] source.toList tokens ending := by
  have tapeOf {tokens : List Token} {ending : Except ScanError Token}
      (scans : ScansTo filename [] source.toList tokens ending) :
      textTape filename source = ⟨tokens, ending⟩ := by
    obtain ⟨reached, rest, place, tiling, readable, stops⟩ := scans
    exact Cursor.tape_of_tiling tiling readable place stops
  constructor
  · intro tape
    obtain ⟨read, found, scans⟩ := exists_scansTo filename [] source.toList
    rw [tapeOf scans] at tape
    cases tape
    exact scans
  · exact tapeOf

/-! ### The tokens of a text -/

/-- The tokens of a text tile all of it, and the end of the input comes last. Scanning fails at a
character exactly if the text is tiled up to the character and it starts nothing, and it fails at
a numeral exactly if the text is tiled up to the numeral and it is too long; in both cases no
earlier numeral is too long. -/
theorem tokenize_tiles (filename source : String) :
    (∀ tokens, tokenize filename source = .ok tokens ↔
      ∃ read, tokens = read ++ [⟨.endOfInput, "", .behind filename source.toList⟩] ∧
        Tiling filename [] source.toList read [] ∧ (∀ token ∈ read, Readable token) ∧
        ∀ token ∈ read, token.type ≠ .endOfInput ∧ ∃ before following,
          source.toList = before ++ (token.lexeme.toList ++ following) ∧
            token.location = .behind filename before) ∧
    (∀ character location,
      tokenize filename source = .error (.invalidCharacter character location) ↔
        ∃ read before rest, source.toList = before ++ character :: rest ∧
          Tiling filename [] source.toList read (character :: rest) ∧
          (∀ token ∈ read, Readable token) ∧ StartsNothing character rest ∧
          location = .behind filename before) ∧
    ∀ length, tokenize filename source = .error (.numeralTooLong length) ↔
      ∃ read value digits following,
        Tiling filename [] source.toList read (digits ++ following) ∧
          (∀ token ∈ read, Readable token) ∧ Lexeme .integer value digits following ∧
          digits.length = length ∧ digitLimit < length := by
  refine ⟨fun tokens => ?_, fun character location => ?_, fun length => ?_⟩
  · rw [tokenize_eq_ok_iff]
    constructor
    · rintro ⟨read, last, tape, rfl⟩
      obtain ⟨reached, rest, place, tiling, readable, stops⟩ := (textTape_eq_iff ..).1 tape
      cases stops
      rw [List.append_nil] at place
      subst place
      refine ⟨read, rfl, tiling, readable, fun token member => ⟨?_, ?_⟩⟩
      · exact tiling.type_ne_endOfInput token member
      · exact tiling.place_of_mem token member
    · rintro ⟨read, rfl, tiling, readable, _⟩
      exact ⟨read, _, (textTape_eq_iff ..).2
        ⟨source.toList, [], by simp, tiling, readable, .endOfInput _⟩, rfl⟩
  · rw [tokenize_eq_error_iff]
    constructor
    · rintro ⟨read, tape⟩
      obtain ⟨reached, rest, place, tiling, readable, stops⟩ := (textTape_eq_iff ..).1 tape
      cases stops with
      | invalidCharacter character rest lost =>
        exact ⟨read, reached, rest, place, tiling, readable, lost, rfl⟩
    · rintro ⟨read, before, rest, place, tiling, readable, lost, rfl⟩
      exact ⟨read, (textTape_eq_iff ..).2
        ⟨before, _, place, tiling, readable, .invalidCharacter before character rest lost⟩⟩
  · rw [tokenize_eq_error_iff]
    constructor
    · rintro ⟨read, tape⟩
      obtain ⟨reached, rest, place, tiling, readable, stops⟩ := (textTape_eq_iff ..).1 tape
      cases stops with
      | numeralTooLong value digits following numeral long =>
        exact ⟨read, value, digits, following, tiling, readable, numeral, rfl, long⟩
    · rintro ⟨read, value, digits, following, tiling, readable, numeral, rfl, long⟩
      obtain ⟨reached, place⟩ := tiling.exists_reached
      exact ⟨read, (textTape_eq_iff ..).2 ⟨reached, _, place, tiling, readable,
        .numeralTooLong reached value digits following numeral long⟩⟩

end IntExpr
