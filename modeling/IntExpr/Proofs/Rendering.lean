/-
This file proves that an outline tells all of a tree but its spans. Written by recursion, an outline
is the line of a node and then the outlines of its children, a level further in. The line of a
node names its kind, and so tells how many children follow; and it names the constant, the
identifier or the operator. So the lines alone tell the tree, in the way in which operators
written in front of their operands need no parentheses, and the indentation may well be empty.
-/

import IntExpr.Proofs.Shape

namespace IntExpr

/-! ### Integers as they are written -/

theorem isDigit_of_mem_repr (number : Nat) :
    ∀ digit ∈ (Nat.repr number).toList, digit.isDigit = true := by
  rw [Nat.toList_repr]
  exact fun digit member => Nat.isDigit_of_mem_toDigits (by decide) (by decide) member

/-- An integer is read back from its text. -/
theorem Decimal.signedValue_text (number : Int) :
    Decimal.signedValue (Decimal.text number).toList = number := by
  cases number with
  | ofNat magnitude =>
    have digits := isDigit_of_mem_repr magnitude
    rw [Decimal.text, Decimal.signedValue, Decimal.value_repr]
    · rfl
    · intro rest same
      rw [same] at digits
      cases digits '-' List.mem_cons_self
    · intro rest same
      rw [same] at digits
      cases digits '+' List.mem_cons_self
  | negSucc predecessor =>
    rw [Decimal.text, String.toList_append]
    show -(Decimal.value (Nat.repr (predecessor + 1)).toList : Int) = _
    rw [Decimal.value_repr]
    rfl

theorem Decimal.text_injective {first second : Int}
    (same : Decimal.text first = Decimal.text second) : first = second := by
  rw [← Decimal.signedValue_text first, same, Decimal.signedValue_text]

theorem Decimal.lineFeed_not_mem_text (number : Int) : '\n' ∉ (Decimal.text number).toList := by
  have noDigit (magnitude : Nat) : '\n' ∉ (Nat.repr magnitude).toList := fun member => by
    cases isDigit_of_mem_repr magnitude '\n' member
  cases number with
  | ofNat magnitude => exact noDigit magnitude
  | negSucc predecessor =>
    rw [Decimal.text, String.toList_append, List.mem_append, not_or]
    exact ⟨by decide, noDigit (predecessor + 1)⟩

/-! ### The lines of operations -/

theorem Operator.quote_not_mem_symbol (op : Operator) :
    ∀ character ∈ op.symbol.toList, (character != '\'') = true := by
  have checked : ∀ op ∈ Operator.all, op.symbol.toList.all (· != '\'') = true := by decide
  exact List.all_eq_true.1 (checked op op.mem_all)

theorem Operator.title_injective {first second : Operator} (same : first.title = second.title) :
    first = second := by
  have symbols : ∀ first ∈ Operator.all, ∀ second ∈ Operator.all,
      first.symbol = second.symbol → first = second := by decide
  refine symbols first first.mem_all second second.mem_all (String.toList_inj.1 ?_)
  simp only [Operator.title, String.append_assoc, String.append_right_inj] at same
  have letters := congrArg String.toList same
  simp only [String.toList_append] at letters
  exact (run_unique letters first.quote_not_mem_symbol second.quote_not_mem_symbol
    (by simp) (by simp)).1

theorem Operator.lineFeed_not_mem_title (op : Operator) : '\n' ∉ op.title.toList := by
  have noSymbol : ∀ op ∈ Operator.all, '\n' ∉ op.symbol.toList := by decide
  have noName : '\n' ∉ op.tier.name.toList := by cases op.tier <;> decide
  simp [Operator.title, noSymbol op op.mem_all, noName]

namespace Expr

/-! ### Renderings -/

/-- The outline of a part of a tree at some level, by recursion: the line of the node, and behind it
the outlines of its children at the next level. -/
def rendering (indent : String) (level : Nat) : Expr → String
  | group inner span =>
    indentation indent level ++ (group inner span).title ++ "\n" ++
      inner.rendering indent (level + 1)
  | binary left op right span =>
    indentation indent level ++ (binary left op right span).title ++ "\n" ++
      (left.rendering indent (level + 1) ++ "\n" ++ right.rendering indent (level + 1))
  | conditional condition whenTrue whenFalse span =>
    indentation indent level ++ (conditional condition whenTrue whenFalse span).title ++ "\n" ++
      (condition.rendering indent (level + 1) ++ "\n" ++
        (whenTrue.rendering indent (level + 1) ++ "\n" ++ whenFalse.rendering indent (level + 1)))
  | leaf => indentation indent level ++ leaf.title

/-- No value that is no expression stands in a tree. -/
def Genuine : Expr → Prop
  | literal _ _ | identifier _ _ => True
  | group inner _ => inner.Genuine
  | binary left _ right _ => left.Genuine ∧ right.Genuine
  | conditional condition whenTrue whenFalse _ =>
    condition.Genuine ∧ whenTrue.Genuine ∧ whenFalse.Genuine
  | foreign _ => False

/-- Every name in a tree is a word. -/
def Worded : Expr → Prop
  | identifier name _ => IsWord name.toList
  | group inner _ => inner.Worded
  | binary left _ right _ => left.Worded ∧ right.Worded
  | conditional condition whenTrue whenFalse _ =>
    condition.Worded ∧ whenTrue.Worded ∧ whenFalse.Worded
  | literal _ _ | foreign _ => True

/-- A tree whose outline tells all of it: its constants can be written, its names are words, and
nothing stands in it that is no expression. -/
structure Legible (expr : Expr) : Prop where
  genuine : expr.Genuine
  writable : expr.Writable
  worded : expr.Worded

/-! ### The loop writes the rendering -/

theorem preorder_ne_nil (level : Nat) (expr : Expr) : expr.preorder level ≠ [] := by
  rw [preorder_eq]
  exact List.cons_ne_nil _ _

/-- The rendering is made of the lines of the nodes in order. -/
theorem rendering_eq (indent : String) (level : Nat) (expr : Expr) :
    expr.rendering indent level =
      "\n".intercalate ((expr.preorder level).map (margined indent)) := by
  have some (level : Nat) (part : Expr) : (part.preorder level).map (margined indent) ≠ [] := by
    simpa using preorder_ne_nil level part
  induction expr generalizing level with
  | literal | identifier | foreign => simp [preorder, rendering, margined]
  | group inner span inductionHypothesis =>
    rw [rendering, preorder, List.map_cons, String.intercalate_cons_of_ne_nil (some _ _),
      inductionHypothesis]
    rfl
  | binary left op right span leftHypothesis rightHypothesis =>
    rw [rendering, preorder, List.map_cons, List.map_append,
      String.intercalate_cons_of_ne_nil (List.append_ne_nil_of_left_ne_nil (some _ _) _),
      String.intercalate_append_of_ne_nil (some _ _) (some _ _), leftHypothesis, rightHypothesis]
    rfl
  | conditional condition whenTrue whenFalse span conditionHypothesis trueHypothesis
      falseHypothesis =>
    rw [rendering, preorder, List.map_cons, List.map_append, List.map_append,
      String.intercalate_cons_of_ne_nil (List.append_ne_nil_of_left_ne_nil (some _ _) _),
      String.intercalate_append_of_ne_nil (some _ _)
        (List.append_ne_nil_of_left_ne_nil (some _ _) _),
      String.intercalate_append_of_ne_nil (some _ _) (some _ _), conditionHypothesis,
      trueHypothesis, falseHypothesis]
    rfl

/-- The outline of a tree whose constants can be written is its rendering. -/
theorem Writable.outline_eq {expr : Expr} (writable : expr.Writable) (indent : String) :
    expr.outline indent = .ok (expr.rendering indent 0) := by
  rw [writable.outline_eq_intercalate, rendering_eq]

/-! ### Lines are read back -/

/-- Lines without line feeds are told from the text they are joined to. -/
theorem lines_eq_of_intercalate_eq {lines others : List String}
    (oneLine : ∀ line ∈ lines, '\n' ∉ line.toList)
    (otherOneLine : ∀ line ∈ others, '\n' ∉ line.toList)
    (some : lines ≠ []) (otherSome : others ≠ [])
    (same : "\n".intercalate lines = "\n".intercalate others) : lines = others := by
  have split {lines : List String} (oneLine : ∀ line ∈ lines, '\n' ∉ line.toList)
      (some : lines ≠ []) :
      ("\n".intercalate lines).toList.splitOn '\n' = lines.map String.toList := by
    rw [String.toList_intercalate]
    exact List.splitOn_intercalate '\n' (List.forall_mem_map.2 oneLine) (by simpa using some)
  have texts := split oneLine some
  rw [same, split otherOneLine otherSome] at texts
  exact (List.map_inj_right fun _ _ => String.toList_inj.1).1 texts.symm

theorem lineFeed_not_mem_title {expr : Expr} (genuine : expr.Genuine) (worded : expr.Worded) :
    '\n' ∉ expr.title.toList := by
  cases expr with
  | literal value span => simp [title, Decimal.lineFeed_not_mem_text value]
  | identifier name span =>
    have parts : ∀ character ∈ name.toList, isWordPart character = true := worded.2
    have noPart : '\n' ∉ name.toList := fun member => absurd (parts _ member) (by decide)
    simp [title, noPart]
  | binary left op right span => exact op.lineFeed_not_mem_title
  | foreign => exact genuine.elim
  | _ => simp [title]

theorem Genuine.children {expr : Expr} (genuine : expr.Genuine) :
    ∀ child ∈ expr.children, child.Genuine := by
  cases expr <;> simp_all [Expr.children, Genuine]

theorem Worded.children {expr : Expr} (worded : expr.Worded) :
    ∀ child ∈ expr.children, child.Worded := by
  cases expr <;> simp_all [Expr.children, Worded]

theorem Legible.children {expr : Expr} (legible : expr.Legible) :
    ∀ child ∈ expr.children, child.Legible := fun child member =>
  ⟨legible.genuine.children child member, legible.writable.children child member,
    legible.worded.children child member⟩

/-- No title of an expression starts with a space. -/
theorem Genuine.head_title_ne_space {expr : Expr} (genuine : expr.Genuine) :
    ∀ first ∈ expr.title.toList.head?, (first == ' ') = false := by
  cases expr with
  | foreign => exact genuine.elim
  | _ => simp [title, Operator.title]

theorem indentation_blank {indent : String}
    (blank : ∀ character ∈ indent.toList, character = ' ') (level : Nat) :
    ∀ character ∈ (indentation indent level).toList, (character == ' ') = true := by
  induction level with
  | zero => simp [indentation]
  | succ level inductionHypothesis =>
    rw [indentation, String.toList_append, List.forall_mem_append]
    exact ⟨fun character member => beq_iff_eq.2 (blank character member), inductionHypothesis⟩

/-- A line without the spaces it starts with. -/
def unindented (line : String) : String :=
  String.ofList (line.toList.dropWhile (· == ' '))

theorem unindented_margined {indent : String}
    (blank : ∀ character ∈ indent.toList, character = ' ') {entry : Nat × Expr}
    (genuine : entry.2.Genuine) : unindented (margined indent entry) = entry.2.title := by
  rw [unindented, margined, String.toList_append,
    dropWhile_append_eq (indentation_blank blank _) genuine.head_title_ne_space,
    String.ofList_toList]

/-- The lines of a tree in order, without their indentation. -/
def titles : Expr → List String
  | group inner span => (group inner span).title :: inner.titles
  | binary left op right span => (binary left op right span).title :: (left.titles ++ right.titles)
  | conditional condition whenTrue whenFalse span =>
    (conditional condition whenTrue whenFalse span).title ::
      (condition.titles ++ (whenTrue.titles ++ whenFalse.titles))
  | leaf => [leaf.title]

theorem titles_eq (level : Nat) (expr : Expr) :
    (expr.preorder level).map (fun entry => entry.2.title) = expr.titles := by
  induction expr generalizing level <;> simp_all [preorder, titles]

/-- The lines of a tree are told from its outline, when it is spaces that indent them. -/
theorem titles_eq_of_rendering_eq {indent : String}
    (blank : ∀ character ∈ indent.toList, character = ' ') {first second : Expr}
    (legible : first.Legible) (otherLegible : second.Legible)
    (same : first.rendering indent 0 = second.rendering indent 0) :
    first.titles = second.titles := by
  have each {expr : Expr} (legible : expr.Legible) :
      ∀ entry ∈ expr.preorder 0, entry.2.Legible :=
    forall_mem_preorder (fun _ => Legible.children) legible 0
  have oneLine {expr : Expr} (legible : expr.Legible) :
      ∀ line ∈ (expr.preorder 0).map (margined indent), '\n' ∉ line.toList := by
    refine List.forall_mem_map.2 fun entry member => ?_
    have here := each legible entry member
    rw [margined, String.toList_append, List.mem_append, not_or]
    exact ⟨fun margin => absurd (indentation_blank blank _ _ margin) (by decide),
      lineFeed_not_mem_title here.genuine here.worded⟩
  have stripped {expr : Expr} (legible : expr.Legible) :
      ((expr.preorder 0).map (margined indent)).map unindented = expr.titles := by
    rw [List.map_map, ← titles_eq 0]
    exact List.map_congr_left fun entry member =>
      unindented_margined blank (each legible entry member).genuine
  rw [rendering_eq, rendering_eq] at same
  rw [← stripped legible, ← stripped otherLegible, lines_eq_of_intercalate_eq (oneLine legible)
    (oneLine otherLegible) (by simpa using preorder_ne_nil 0 first)
    (by simpa using preorder_ne_nil 0 second) same]

/-! ### Trees are read back -/

/-- The line of a node starts with the word for its kind. -/
theorem exists_title_eq (expr : Expr) : ∃ detail : List Char,
    expr.title.toList = expr.kind.toList ++ detail ∧
      ∀ next ∈ detail.head?, next.isAlpha = false := by
  cases expr with
  | literal value span => exact ⟨' ' :: (Decimal.text value).toList, by simp [title, kind], by simp⟩
  | identifier name span => exact ⟨' ' :: name.toList, by simp [title, kind], by simp⟩
  | binary left op right span =>
    exact ⟨' ' :: '\'' :: (op.symbol ++ "' (" ++ op.tier.name ++ ")").toList,
      by simp [title, kind, Operator.title], by simp⟩
  | _ => exact ⟨[], by simp [title, kind], by simp⟩

theorem Genuine.kind_isAlpha {expr : Expr} (genuine : expr.Genuine) :
    ∀ letter ∈ expr.kind.toList, letter.isAlpha = true := by
  cases expr with
  | foreign => exact genuine.elim
  | _ => simp [kind]

/-- The kind of a node is told from its line. -/
theorem Genuine.kind_eq_of_title_eq {first second : Expr} (genuine : first.Genuine)
    (otherGenuine : second.Genuine) (same : first.title = second.title) :
    first.kind = second.kind := by
  obtain ⟨detail, written, behind⟩ := first.exists_title_eq
  obtain ⟨otherDetail, otherWritten, otherBehind⟩ := second.exists_title_eq
  rw [same, otherWritten] at written
  exact String.toList_inj.1
    (run_unique written otherGenuine.kind_isAlpha genuine.kind_isAlpha otherBehind behind).1.symm

/-- The line of a node tells its kind also when more lines follow. -/
theorem Genuine.heads_eq {first second : Expr} (genuine : first.Genuine)
    (otherGenuine : second.Genuine) {rest others : List String}
    (same : first.titles ++ rest = second.titles ++ others) :
    first.title = second.title ∧ first.kind = second.kind := by
  have head (expr : Expr) (rest : List String) :
      (expr.titles ++ rest).head? = some expr.title := by
    cases expr <;> rfl
  have sameTitle := congrArg List.head? same
  rw [head, head, Option.some_inj] at sameTitle
  exact ⟨sameTitle, genuine.kind_eq_of_title_eq otherGenuine sameTitle⟩

/-- Where the lines of a tree end is told from them, and so is the tree. -/
theorem Genuine.alike_of_titles {first second : Expr} (genuine : first.Genuine)
    (otherGenuine : second.Genuine) {rest others : List String}
    (same : first.titles ++ rest = second.titles ++ others) :
    first.Alike second ∧ rest = others := by
  -- The kind in the first line fixes the number of children, each of which takes its own lines.
  induction first generalizing second rest others with
  | literal value span =>
    obtain ⟨sameTitle, sameKind⟩ := genuine.heads_eq otherGenuine same
    cases second with
    | literal other otherSpan =>
      rw [title, title, String.append_right_inj] at sameTitle
      cases Decimal.text_injective sameTitle
      exact ⟨rfl, (List.cons.inj same).2⟩
    | foreign => exact otherGenuine.elim
    | _ => simp [kind] at sameKind
  | identifier name span =>
    obtain ⟨sameTitle, sameKind⟩ := genuine.heads_eq otherGenuine same
    cases second with
    | identifier other otherSpan =>
      rw [title, title, String.append_right_inj] at sameTitle
      cases sameTitle
      exact ⟨rfl, (List.cons.inj same).2⟩
    | foreign => exact otherGenuine.elim
    | _ => simp [kind] at sameKind
  | group inner span inductionHypothesis =>
    obtain ⟨_, sameKind⟩ := genuine.heads_eq otherGenuine same
    cases second with
    | group otherInner otherSpan =>
      have innerGenuine : otherInner.Genuine := otherGenuine
      obtain ⟨alike, sameRest⟩ := inductionHypothesis genuine innerGenuine (List.cons.inj same).2
      exact ⟨congrArg (group · none) alike, sameRest⟩
    | foreign => exact otherGenuine.elim
    | _ => simp [kind] at sameKind
  | binary left op right span leftHypothesis rightHypothesis =>
    obtain ⟨sameTitle, sameKind⟩ := genuine.heads_eq otherGenuine same
    cases second with
    | binary otherLeft otherOp otherRight otherSpan =>
      cases Operator.title_injective sameTitle
      simp only [titles, List.cons_append, List.append_assoc, List.cons.injEq] at same
      obtain ⟨leftAlike, behindLeft⟩ := leftHypothesis genuine.1 otherGenuine.1 same.2
      obtain ⟨rightAlike, sameRest⟩ := rightHypothesis genuine.2 otherGenuine.2 behindLeft
      exact ⟨congrArg₂ (binary · op · none) leftAlike rightAlike, sameRest⟩
    | foreign => exact otherGenuine.elim
    | _ => simp [kind] at sameKind
  | conditional condition whenTrue whenFalse span conditionHypothesis trueHypothesis
      falseHypothesis =>
    obtain ⟨_, sameKind⟩ := genuine.heads_eq otherGenuine same
    cases second with
    | conditional otherCondition otherTrue otherFalse otherSpan =>
      simp only [titles, List.cons_append, List.append_assoc, List.cons.injEq] at same
      obtain ⟨conditionAlike, behindCondition⟩ :=
        conditionHypothesis genuine.1 otherGenuine.1 same.2
      obtain ⟨trueAlike, behindTrue⟩ :=
        trueHypothesis genuine.2.1 otherGenuine.2.1 behindCondition
      obtain ⟨falseAlike, sameRest⟩ :=
        falseHypothesis genuine.2.2 otherGenuine.2.2 behindTrue
      refine ⟨?_, sameRest⟩
      rw [Alike, withoutSpans, withoutSpans, conditionAlike, trueAlike, falseAlike]
    | foreign => exact otherGenuine.elim
    | _ => simp [kind] at sameKind
  | foreign => exact genuine.elim

/-! ### Outlines -/

/-- The outline of a tree of expressions is its rendering by recursion, whatever it is indented by,
as long as its constants can be written. Indented by spaces, or not at all, it is that of no tree
with other constants, names or operators, or of another shape. -/
theorem outline_faithful (indent : String) :
    (∀ expr : Expr, expr.Genuine → expr.Writable →
      expr.outline indent = .ok (expr.rendering indent 0)) ∧
    ((∀ character ∈ indent.toList, character = ' ') →
      ∀ first second : Expr, first.Legible → second.Legible →
        (first.outline indent = second.outline indent ↔ first.Alike second)) := by
  refine ⟨fun expr _ writable => writable.outline_eq indent, ?_⟩
  intro blank first second legible otherLegible
  refine ⟨fun same => ?_, fun alike => alike.outline_eq indent⟩
  rw [legible.writable.outline_eq, otherLegible.writable.outline_eq, Except.ok.injEq] at same
  have sameTitles : first.titles ++ [] = second.titles ++ [] := by
    rw [titles_eq_of_rendering_eq blank legible otherLegible same]
  exact (legible.genuine.alike_of_titles otherLegible.genuine sameTitles).1

/-- `1 - 2 - 3` and `1 - (2 - 3)`, the parentheses left out of the tree, are told apart although
nothing is indented. -/
theorem groupings_told_apart :
    (binary (binary (literal 1 none) .minus (literal 2 none) none) .minus (literal 3 none)
        none).outline "" =
      .ok ("BinaryOp '-' (additive)\nBinaryOp '-' (additive)\nIntegerLiteral 1\n" ++
        "IntegerLiteral 2\nIntegerLiteral 3") ∧
    (binary (binary (literal 1 none) .minus (literal 2 none) none) .minus (literal 3 none)
        none).outline "" ≠
      (binary (literal 1 none) .minus (binary (literal 2 none) .minus (literal 3 none) none)
        none).outline "" := by
  have one : Decimal.Writable 1 := by decide +kernel
  have two : Decimal.Writable 2 := by decide +kernel
  have three : Decimal.Writable 3 := by decide +kernel
  have chainLegible : (binary (binary (literal 1 none) .minus (literal 2 none) none) .minus
      (literal 3 none) none).Legible :=
    ⟨⟨⟨trivial, trivial⟩, trivial⟩, ⟨⟨one, two⟩, three⟩, ⟨trivial, trivial⟩, trivial⟩
  have nestedLegible : (binary (literal 1 none) .minus
      (binary (literal 2 none) .minus (literal 3 none) none) none).Legible :=
    ⟨⟨trivial, trivial, trivial⟩, ⟨one, two, three⟩, trivial, trivial, trivial⟩
  have faithful := outline_faithful ""
  refine ⟨faithful.1 _ chainLegible.genuine chainLegible.writable, ?_⟩
  exact fun same => absurd
    ((faithful.2 (by simp) _ _ chainLegible nestedLegible).1 same) (by decide)

end Expr

end IntExpr
