/-
This file proves that a run over several expressions is made up of the runs over each of them
alone. Up to the first that fails they write what each writes alone, one after the other; the one
that fails is reported as it is alone, under the name that it has among several; and those behind
it make no difference. The runs share their bindings, in which a name has the value that it was
given last.
-/

import IntExpr.Proofs.Declarations
import IntExpr.Proofs.Renaming
import IntExpr.Proofs.Run

namespace IntExpr.CommandLine

/-! ### The name of a text -/

section

variable {bindings : Bindings} {filename source : String} (other : String)

theorem Yields.under {value : Int} (yields : Yields bindings (filename, source) value) :
    Yields bindings (other, source) value := by
  refine ⟨?_, yields.2⟩
  rw [calculate_under filename other, yields.1]
  rfl

theorem Reports.under {fault : Fault} {diagnostic : Diagnostic}
    (reports : Reports bindings (filename, source) fault diagnostic) :
    Reports bindings (other, source) fault (diagnostic.under other) := by
  obtain ⟨failure, calculated, report⟩ := reports
  refine ⟨failure.under other, ?_, ?_⟩
  · rw [calculate_under filename other, calculated]
    rfl
  · rw [report_under_of_calculate filename calculated, report]
    rfl

/-- A report of a text names that text already. -/
theorem Reports.under_self {fault : Fault} {diagnostic : Diagnostic}
    (reports : Reports bindings (filename, source) fault diagnostic) :
    diagnostic.under filename = diagnostic := by
  obtain ⟨other, calculated, report⟩ := reports.under filename
  obtain ⟨failure, sameCalculated, sameReport⟩ := reports
  cases calculated.symm.trans sameCalculated
  exact (Report.diagnosed.inj (report.symm.trans sameReport)).2

theorem shownTree_under (tree : Bool) (filename source : String) :
    shownTree tree (other, source) = shownTree tree (filename, source) := by
  have same : treeLines (parseText other source) = treeLines (parseText filename source) := by
    rw [parseText_under filename other]
    cases parseText filename source with
    | error cause => rfl
    | ok expr =>
      show treeLines (.ok (expr.under other)) = treeLines (.ok expr)
      rw [treeLines, treeLines, (expr.alike_under other).outline_eq]
  rw [shownTree, shownTree, same]

end

/-! ### Expressions alone -/

/-- An expression alone, with the name that it then has. -/
def alone (source : String) : String × String := (expressionName 1 1, source)

/-- An expression is not parsed or has no value. -/
def Fails (bindings : Bindings) (source : String) : Prop :=
  ∃ failure, calculate (alone source).1 source (some bindings) = .error failure

/-- No integer of an expression is refused for its length. -/
def Converts (bindings : Bindings) (source : String) : Prop :=
  ∀ cause, ¬ Refuses bindings (alone source) cause

section

variable {bindings : Bindings} {source : String}

theorem exists_yields (converts : Converts bindings source) (succeeds : ¬ Fails bindings source) :
    ∃ value, Yields bindings (alone source) value := by
  obtain yields | ⟨_, _, failure, calculated, _⟩ | ⟨cause, refuses⟩ :=
    yields_or_reports_or_refuses bindings (alone source)
  · exact yields
  · exact absurd ⟨failure, calculated⟩ succeeds
  · exact absurd refuses (converts cause)

theorem exists_reports (converts : Converts bindings source) (fails : Fails bindings source) :
    ∃ fault diagnostic, Reports bindings (alone source) fault diagnostic := by
  obtain ⟨value, calculated, _⟩ | reports | ⟨cause, refuses⟩ :=
    yields_or_reports_or_refuses bindings (alone source)
  · obtain ⟨failure, failed⟩ := fails
    cases calculated.symm.trans failed
  · exact reports
  · exact absurd refuses (converts cause)

/-- Under its name among several a report of an expression alone changes only if there are
several. -/
theorem under_expressionName {fault : Fault} {diagnostic : Diagnostic}
    (reports : Reports bindings (alone source) fault diagnostic) (count index : Nat) :
    diagnostic.under (expressionName count index) =
      if count = 1 then diagnostic
      else diagnostic.under ("<expr " ++ Nat.repr index ++ ">") := by
  rw [expressionName]
  split
  · exact reports.under_self
  · rfl

variable {traceback : Traceback} {arguments : List String} {tree json : Bool}
  {pairs : List (String × Int)}

/-- What a run over one expression with a value leaves behind. -/
theorem run_of_yields (asks : Asks arguments tree json pairs [source]) {value : Int}
    (yields : Yields (.ofList pairs) (alone source) value) :
    run traceback arguments =
      ⟨shownTree tree (alone source) ++ resultLine json source (Decimal.text value), "",
        .exit 0⟩ := by
  rw [run_of_ends asks (.finished [value] (.cons yields .nil))]
  simp [printed, textsOf, sourcesOf, named, alone]

/-- What a run over one expression that is reported leaves behind. -/
theorem run_of_reports (asks : Asks arguments tree json pairs [source]) {fault : Fault}
    {diagnostic : Diagnostic} (reports : Reports (.ofList pairs) (alone source) fault diagnostic) :
    run traceback arguments =
      ⟨shownTree tree (alone source) ++ failureLine json source fault diagnostic, diagnostic.text,
        .exit 1⟩ := by
  rw [run_of_ends asks (.reported [] [] (alone source) [] fault diagnostic rfl .nil reports)]
  simp [printed, alone]

end

/-! ### Several expressions -/

theorem named_append (count index : Nat) (first second : List String) :
    named count index (first ++ second) =
      named count index first ++ named count (index + first.length) second := by
  induction first generalizing index with
  | nil => rfl
  | cons source first inductionHypothesis =>
    rw [List.cons_append, named, inductionHypothesis, named, List.cons_append, List.length_cons,
      Nat.add_right_comm, Nat.add_assoc]

section

variable {bindings : Bindings} {sources : List String}

theorem exists_values (converts : ∀ source ∈ sources, Converts bindings source)
    (succeed : ∀ source ∈ sources, ¬ Fails bindings source) :
    ∃ values, List.Forall₂ (fun source => Yields bindings (alone source)) sources values := by
  induction sources with
  | nil => exact ⟨[], .nil⟩
  | cons source sources inductionHypothesis =>
    obtain ⟨converts, othersConvert⟩ := List.forall_mem_cons.1 converts
    obtain ⟨succeeds, othersSucceed⟩ := List.forall_mem_cons.1 succeed
    obtain ⟨value, yields⟩ := exists_yields converts succeeds
    obtain ⟨values, yield⟩ := inductionHypothesis othersConvert othersSucceed
    exact ⟨value :: values, .cons yields yield⟩

variable {values : List Int}

/-- Expressions with values have the same values among several. -/
theorem named_yield
    (yield : List.Forall₂ (fun source => Yields bindings (alone source)) sources values)
    (count index : Nat) : List.Forall₂ (Yields bindings) (named count index sources) values := by
  induction yield generalizing index with
  | nil => exact .nil
  | cons yields _ inductionHypothesis => exact .cons (yields.under _) (inductionHypothesis _)

variable {traceback : Traceback} {tree json : Bool} {pairs : List (String × Int)}
  {arguments : String → List String}

/-- What they write among several is what they write alone, one after the other. -/
theorem printed_named
    (yield : List.Forall₂ (fun source => Yields (.ofList pairs) (alone source)) sources values)
    (asks : ∀ source ∈ sources, Asks (arguments source) tree json pairs [source])
    (count index : Nat) :
    printed tree json (named count index sources) values =
      String.join (sources.map fun source => (run traceback (arguments source)).stdout) := by
  induction yield generalizing index with
  | nil => rfl
  | @cons source value sources values yields _ inductionHypothesis =>
    obtain ⟨asksFirst, asksOthers⟩ := List.forall_mem_cons.1 asks
    have others := inductionHypothesis asksOthers (index + 1)
    rw [printed] at others
    rw [named, printed, List.zipWith_cons_cons, String.join_cons, others, List.map_cons,
      String.join_cons, run_of_yields asksFirst yields, alone,
      shownTree_under _ tree (expressionName 1 1)]

end

/-! ### A batch -/

section

variable {traceback : Traceback} {batch sources : List String} {tree json : Bool}
  {pairs : List (String × Int)} {single : String → List String}

theorem textsOf_of_ne_nil (nonempty : sources ≠ []) :
    textsOf sources = named sources.length 1 sources := by
  obtain ⟨source, others, rfl⟩ := List.exists_cons_of_ne_nil nonempty
  rfl

/-- If no expression fails, a run over all of them writes what they write alone. -/
theorem run_of_succeed (asks : Asks batch tree json pairs sources) (nonempty : sources ≠ [])
    (asksAlone : ∀ source ∈ sources, Asks (single source) tree json pairs [source])
    (converts : ∀ source ∈ sources, Converts (.ofList pairs) source)
    (succeed : ∀ source ∈ sources, ¬ Fails (.ofList pairs) source) :
    run traceback batch =
      ⟨String.join (sources.map fun source => (run traceback (single source)).stdout), "",
        .exit 0⟩ := by
  obtain ⟨values, yield⟩ := exists_values converts succeed
  have ends : Ends tree json (.ofList pairs) _ _ :=
    .finished values (named_yield yield sources.length 1)
  rw [← textsOf_of_ne_nil nonempty] at ends
  rw [run_of_ends asks ends, textsOf_of_ne_nil nonempty, printed_named yield asksAlone]

/-- If an expression fails and none in front of it does, a run over all of them writes what these
and the one that fails write alone, and reports that one under its name among them. -/
theorem run_of_fails {before after : List String} {failing : String}
    (asks : Asks batch tree json pairs (before ++ failing :: after))
    (asksBefore : ∀ source ∈ before, Asks (single source) tree json pairs [source])
    (asksFailing : Asks (single failing) tree json pairs [failing])
    (converts : ∀ source ∈ before, Converts (.ofList pairs) source)
    (succeed : ∀ source ∈ before, ¬ Fails (.ofList pairs) source)
    {fault : Fault} {diagnostic : Diagnostic}
    (reports : Reports (.ofList pairs) (alone failing) fault diagnostic) :
    run traceback batch =
      ⟨String.join ((before ++ [failing]).map fun source =>
          (run traceback (single source)).stdout),
        (if (before ++ failing :: after).length = 1 then diagnostic
          else diagnostic.under ("<expr " ++ Nat.repr (before.length + 1) ++ ">")).text,
        .exit 1⟩ := by
  obtain ⟨values, yield⟩ := exists_values converts succeed
  obtain ⟨count, counted⟩ : ∃ count, (before ++ failing :: after).length = count := ⟨_, rfl⟩
  have split : textsOf (before ++ failing :: after) = named count 1 before ++
      (expressionName count (1 + before.length), failing) ::
        named count (1 + before.length + 1) after := by
    rw [textsOf_of_ne_nil (by simp), counted, named_append]
    rfl
  have ends : Ends tree json (.ofList pairs) _ _ :=
    .reported _ _ _ values fault _ split (named_yield yield count 1) (reports.under _)
  rw [run_of_ends asks ends, printed_named yield asksBefore, List.map_append, String.join_append,
    List.map_singleton, run_of_reports asksFailing reports, alone,
    shownTree_under _ tree (expressionName 1 1), counted, Nat.add_comm 1,
    ← under_expressionName reports]
  simp only [String.join_cons, String.join_nil, String.append_empty]
  rfl

/-- A name of several pairs has the value of the last. -/
theorem lookup_ofList {earlier later : List (String × Int)} {name : String} {value : Int}
    (isLast : ∀ pair ∈ later, pair.1 ≠ name) :
    (Bindings.ofList (earlier ++ (name, value) :: later)).lookup name =
      some ⟨name, value, none⟩ := by
  have unwritten : Bindings.lastOf (Bindings.symbolsOf later) name = none := by
    rw [Bindings.lastOf, List.getLast?_eq_none_iff, List.filter_eq_nil_iff]
    intro symbol member
    obtain ⟨pair, isIn, rfl⟩ := List.mem_map.1 member
    exact Bool.not_eq_true _ ▸ decide_eq_false (isLast pair isIn)
  rw [Bindings.ofList_eq_declareAll, Bindings.lookup_declareAll, Bindings.symbolsOf,
    List.map_append, List.map_cons, ← List.singleton_append, Bindings.lastOf_append,
    Bindings.lastOf_append, Bindings.lastOf_singleton, if_pos rfl, ← Bindings.symbolsOf, unwritten]
  rfl

/-- A run over several expressions is put together from the runs over each of them alone, with the
same bindings and flags, up to the first that fails, if none of their integers is too long. It
writes what they write; if one fails it ends with status one and the report of that one, under the
name of its place among them where there are several; and the expressions behind that one make no
difference. In the bindings a name has the value that it was given last. -/
theorem batch_is_concatenation (asks : Asks batch tree json pairs sources) (nonempty : sources ≠ [])
    (asksAlone : ∀ source, Asks (single source) tree json pairs [source]) :
    ((∀ source ∈ sources, Converts (.ofList pairs) source) →
      (∀ source ∈ sources, ¬ Fails (.ofList pairs) source) →
      run traceback batch =
        ⟨String.join (sources.map fun source => (run traceback (single source)).stdout), "",
          .exit 0⟩) ∧
    (∀ before failing after, sources = before ++ failing :: after →
      (∀ source ∈ before, Converts (.ofList pairs) source ∧ ¬ Fails (.ofList pairs) source) →
      Converts (.ofList pairs) failing → Fails (.ofList pairs) failing →
      ∃ fault diagnostic, Reports (.ofList pairs) (alone failing) fault diagnostic ∧
        (run traceback (single failing)).stderr = diagnostic.text ∧
        run traceback batch =
          ⟨String.join ((before ++ [failing]).map fun source =>
              (run traceback (single source)).stdout),
            (if sources.length = 1 then diagnostic
              else diagnostic.under ("<expr " ++ Nat.repr (before.length + 1) ++ ">")).text,
            .exit 1⟩ ∧
        ∀ other others, Asks other tree json pairs (before ++ failing :: others) →
          ((before ++ failing :: others).length = 1 ↔ sources.length = 1) →
          run traceback other = run traceback batch) ∧
    ∀ earlier name value later, pairs = earlier ++ (name, value) :: later →
      (∀ pair ∈ later, pair.1 ≠ name) →
      (Bindings.ofList pairs).lookup name = some ⟨name, value, none⟩ := by
  refine ⟨fun converts succeed =>
      run_of_succeed asks nonempty (fun source _ => asksAlone source) converts succeed, ?_, ?_⟩
  · rintro before failing after rfl each converts fails
    obtain ⟨fault, diagnostic, reports⟩ := exists_reports converts fails
    -- What stands behind the failing expression is left open, so that it can be exchanged.
    have ran {other : List String} {others : List String}
        (asksOther : Asks other tree json pairs (before ++ failing :: others)) :
        run traceback other = _ :=
      run_of_fails asksOther (fun source _ => asksAlone source) (asksAlone failing)
        (fun source member => (each source member).1) (fun source member => (each source member).2)
        reports
    refine ⟨fault, diagnostic, reports, by rw [run_of_reports (asksAlone failing) reports],
      ran asks, fun other others asksOther sameCount => ?_⟩
    rw [ran asks, ran asksOther]
    simp only [sameCount]
  · rintro earlier name value later rfl isLast
    exact lookup_ofList isLast

end

/-- The second of three expressions fails: the value of the first and both trees are written, the
failure is reported under the second name, and the third makes no difference. The name that is
given twice has its second value. -/
theorem batch_fails_at_second :
    let call := call true true ["x=1", "x=2"]
    (run untraced (call ["x", "x/0", "("])).ending = .exit 1 ∧
      (run untraced (call ["x", "x/0", "("])).stdout =
        String.join [(run untraced (call ["x"])).stdout, (run untraced (call ["x/0"])).stdout] ∧
      run untraced (call ["x", "x/0", "1", "2"]) = run untraced (call ["x", "x/0", "("]) ∧
      (Bindings.ofList [("x", 1), ("x", 2)]).lookup "x" = some ⟨"x", 2, none⟩ := by
  intro call
  let pairs : List (String × Int) := [("x", 1), ("x", 2)]
  have asks (sources : List String) : Asks (call sources) true true pairs sources :=
    asks_call true true (.cons rfl (.cons rfl .nil)) sources
  have yields : Yields (.ofList pairs) (alone "x") 2 :=
    ⟨by decide +kernel, by simp [TooLong, digitLimit]⟩
  have failure : calculate (alone "x/0").1 "x/0" (some (.ofList pairs)) =
      .error (.evaluation (.refused .zeroDivisor (some ⟨"<expr>", 1, 3, 2⟩))) := by
    decide +kernel
  have reports : Reports (.ofList pairs) (alone "x/0") _ _ := ⟨_, failure, rfl⟩
  have succeeds : ¬ Fails (.ofList pairs) "x" := by
    rintro ⟨_, failed⟩
    cases yields.1.symm.trans failed
  obtain ⟨_, fails, lookup⟩ := batch_is_concatenation (asks ["x", "x/0", "("]) (by decide)
    fun source => asks [source]
  obtain ⟨fault, diagnostic, _, _, ran, others⟩ := fails ["x"] "x/0" ["("] rfl
    (fun source member => List.mem_singleton.1 member ▸ ⟨yields.not_refuses, succeeds⟩)
    reports.not_refuses ⟨_, failure⟩
  refine ⟨by rw [ran], by rw [ran]; rfl, others _ ["1", "2"] (asks _) (by decide), ?_⟩
  exact lookup [("x", 1)] "x" 2 [] rfl (by decide)

end IntExpr.CommandLine
