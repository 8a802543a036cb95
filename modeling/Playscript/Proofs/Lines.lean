/-
This file counts the lines of a report. An entry is told in one line unless its message holds a
newline, so the lines of a report are those of its entries, one after the other. Names of scenes and
numbers hold no newline, and neither do the words of a problem. But a message also holds text of the
script: an unknown escape shows its character, and a problem of an expression shows the whole
expression. A report has one line for each entry exactly if none of its entries shows a newline.

What else a problem of an expression shows is part of the expression, so it adds no newline of its
own.
-/

import Playscript.Proofs.Covering
import Playscript.Proofs.Offences
import Playscript.Proofs.Reporting

namespace Playscript

/-! ### Lines -/

/-- The lines of a text: what stands between its newlines. -/
def lines (text : String) : List String := (text.toList.splitOn '\n').map String.ofList

theorem lines_of_no_newline {text : String} (noNewline : '\n' ∉ text.toList) :
    lines text = [text] := by
  rw [lines, List.splitOn_eq_singleton noNewline, List.map_singleton, String.ofList_toList]

theorem lines_append (first second : String) :
    lines (first ++ "\n" ++ second) = lines first ++ lines second := by
  have newline : "\n".toList = ['\n'] := rfl
  rw [lines, String.toList_append, String.toList_append, newline, List.append_assoc,
    List.singleton_append, List.splitOn_append_cons_self, List.map_append]
  rfl

theorem length_lines_pos (text : String) : 0 < (lines text).length := by
  rw [lines, List.length_map]
  exact List.length_pos_iff.mpr (List.splitOn_ne_nil _ _)

/-- Only a newline makes a text have a second line. -/
theorem length_lines_eq_one_iff {text : String} :
    (lines text).length = 1 ↔ '\n' ∉ text.toList := by
  refine ⟨fun single member => ?_, fun noNewline => by rw [lines_of_no_newline noNewline]; rfl⟩
  obtain ⟨front, back, same⟩ := List.append_of_mem member
  have joined : text = String.ofList front ++ "\n" ++ String.ofList back := by
    simp [← String.toList_inj, same]
  rw [joined, lines_append, List.length_append] at single
  have first := length_lines_pos (String.ofList front)
  have second := length_lines_pos (String.ofList back)
  omega

theorem lines_intercalate {texts : List String} (some : texts ≠ []) :
    lines ("\n".intercalate texts) = texts.flatMap lines := by
  induction texts with
  | nil => exact absurd rfl some
  | cons text rest inductionHypothesis =>
    cases rest with
    | nil => rw [String.intercalate_singleton, List.flatMap_singleton]
    | cons next others =>
      rw [List.flatMap_cons, String.intercalate_cons_cons, lines_append,
        inductionHypothesis (List.cons_ne_nil _ _)]

theorem length_le_length_flatMap_lines (texts : List String) :
    texts.length ≤ (texts.flatMap lines).length := by
  induction texts with
  | nil => exact Nat.le_refl _
  | cons text rest inductionHypothesis =>
    have first := length_lines_pos text
    rw [List.flatMap_cons, List.length_append, List.length_cons]
    omega

/-- Texts under each other have as many lines as there are texts exactly if none of them holds a
newline. -/
theorem length_flatMap_lines_iff {texts : List String} :
    (texts.flatMap lines).length = texts.length ↔ ∀ text ∈ texts, '\n' ∉ text.toList := by
  induction texts with
  | nil => exact iff_of_true rfl (List.forall_mem_nil _)
  | cons text rest inductionHypothesis =>
    have first := length_lines_pos text
    have others := length_le_length_flatMap_lines rest
    rw [List.forall_mem_cons, ← inductionHypothesis, ← length_lines_eq_one_iff, List.flatMap_cons,
      List.length_append, List.length_cons]
    omega

theorem flatMap_lines_eq_iff {texts : List String} :
    texts.flatMap lines = texts ↔ ∀ text ∈ texts, '\n' ∉ text.toList := by
  refine ⟨fun same => length_flatMap_lines_iff.mp (congrArg _ same), fun noNewline => ?_⟩
  have each : ∀ text ∈ texts, lines text = [text] :=
    fun text member => lines_of_no_newline (noNewline text member)
  rw [List.flatMap_congr each]
  exact List.flatMap_singleton' _

/-- With a separator that holds no newline, newlines are those of the parts. -/
theorem newline_mem_intercalate_iff {separator : String} (noNewline : '\n' ∉ separator.toList)
    (texts : List String) :
    '\n' ∈ (separator.intercalate texts).toList ↔ ∃ text ∈ texts, '\n' ∈ text.toList := by
  induction texts with
  | nil => simp
  | cons text rest inductionHypothesis =>
    cases rest with
    | nil => simp
    | cons next others =>
      simp only [String.intercalate_cons_cons, String.toList_append, List.mem_append, noNewline,
        or_false, inductionHypothesis, List.exists_mem_cons_iff]

theorem newline_not_mem_toString (number : Nat) : '\n' ∉ (toString number).toList := by
  intro member
  have same : (toString number).toList = Nat.toDigits 10 number := by
    rw [← String.toList_ofList (l := Nat.toDigits 10 number), ← Nat.repr_eq_ofList_toDigits]
    rfl
  rw [same] at member
  exact absurd (Nat.isDigit_of_mem_toDigits (by decide) (by decide) member) (by decide)

theorem newline_mem_append_iff {first second : String} :
    '\n' ∈ (first ++ second).toList ↔ '\n' ∈ first.toList ∨ '\n' ∈ second.toList := by
  rw [String.toList_append, List.mem_append]

/-! ### Problems of an expression -/

/-- Only the character of an unknown escape can be a newline. -/
theorem EscapeFlaw.newline_mem_message_iff (flaw : EscapeFlaw) :
    '\n' ∈ flaw.message.toList ↔ flaw = .unknown '\n' := by
  cases flaw with
  | unknown character =>
    have words : '\n' ∉ "unknown escape sequence '\\".toList := by decide
    have quote : '\n' ∉ "'".toList := by decide
    show '\n' ∈ ("unknown escape sequence '\\" ++ String.singleton character ++ "'").toList ↔ _
    rw [newline_mem_append_iff, newline_mem_append_iff, or_iff_left quote, or_iff_right words,
      String.toList_singleton, List.mem_singleton, unknown.injEq, eq_comm]
  | incomplete => exact iff_of_false (by decide) nofun

theorem Expectation.newline_not_mem_phrase (expectation : Expectation) :
    '\n' ∉ expectation.phrase.toList := by
  cases expectation <;> decide

/-- What is not expected shows a newline only within the lexeme that was found. -/
theorem Obstacle.newline_mem_of_unexpected {expectation : Expectation} {found : Lexeme}
    (shows : '\n' ∈ (unexpected expectation found).message.toList) : '\n' ∈ found.text.toList := by
  have expected : '\n' ∉ "expected ".toList := by decide
  have followed : '\n' ∉ ", found ".toList := by decide
  have quote : '\n' ∉ "'".toList := by decide
  change '\n' ∈ ("expected " ++ expectation.phrase ++ ", found " ++
    if found.kind = .finish then "end of expression" else "'" ++ found.text ++ "'").toList at shows
  rw [newline_mem_append_iff, newline_mem_append_iff, newline_mem_append_iff,
    or_iff_right expected, or_iff_right expectation.newline_not_mem_phrase,
    or_iff_right followed] at shows
  split at shows
  · exact absurd shows (by decide)
  · rwa [newline_mem_append_iff, newline_mem_append_iff, or_iff_left quote,
      or_iff_right quote] at shows

theorem Diagnostic.newline_mem_message {diagnostic : Diagnostic}
    (shows : '\n' ∈ diagnostic.text.toList) : '\n' ∈ diagnostic.problem.message.toList := by
  have word : '\n' ∉ "column ".toList := by decide
  have colon : '\n' ∉ ": ".toList := by decide
  unfold text at shows
  split at shows
  · exact shows
  · rwa [newline_mem_append_iff, newline_mem_append_iff, newline_mem_append_iff,
      or_iff_right word, or_iff_right (newline_not_mem_toString _), or_iff_right colon] at shows

/-- Of what a tree offends by itself, only escapes show newlines. -/
theorem Tree.exists_flaw_of_mem_offences {part : Tree} {diagnostic : Diagnostic}
    (spelled : part.IsSpelled) (offends : diagnostic ∈ part.offences)
    (shows : '\n' ∈ diagnostic.problem.message.toList) :
    ∃ flaw, diagnostic.problem = .escape flaw := by
  cases part with
  | int column text =>
    rw [offences] at offends
    split at offends
    · obtain rfl := List.mem_singleton.mp offends
      have before : '\n' ∉ "integer literal '".toList := by decide
      have after : '\n' ∉ "' is out of range".toList := by decide
      have digits : '\n' ∉ text.toList := fun member => absurd (spelled _ member) (by decide)
      change '\n' ∈ ("integer literal '" ++ text ++ "' is out of range").toList at shows
      rw [newline_mem_append_iff, newline_mem_append_iff, or_iff_left after,
        or_iff_right before] at shows
      exact absurd shows digits
    · cases offends
  | string column text =>
    obtain ⟨character, -, rfl⟩ := List.mem_map.mp offends
    exact ⟨_, rfl⟩
  | assign _ target _ =>
    rw [offences] at offends
    split at offends
    · cases offends
    · obtain rfl := List.mem_singleton.mp offends
      have quiet : '\n' ∉ Problem.assignmentTarget.message.toList := by decide
      exact absurd shows quiet
  | call _ callee _ =>
    rw [offences] at offends
    split at offends
    · cases offends
    · obtain rfl := List.mem_singleton.mp offends
      have quiet : '\n' ∉ Problem.callee.message.toList := by decide
      exact absurd shows quiet
  | _ => cases offends

/-- A problem of an expression shows a newline only if there is one in the expression. -/
theorem newline_mem_of_mem_diagnostics {source : String} {diagnostic : Diagnostic}
    (member : diagnostic ∈ (Draft.read source).validate.diagnostics)
    (shows : '\n' ∈ diagnostic.text.toList) : '\n' ∈ source.toList := by
  have within := (covers_scan source).text_subset
  have shown := diagnostic.newline_mem_message shows
  rcases reading : (Draft.read source).reading with issue | _ | root
  · rw [Draft.validate, reading] at member
    obtain rfl := List.mem_singleton.mp member
    cases isAt_of_reading_eq_error reading with
    | unexpected among => exact within _ among (Obstacle.newline_mem_of_unexpected shown)
    | openString =>
      have quiet : '\n' ∉ Obstacle.openString.message.toList := by decide
      exact absurd shown quiet
    | tooDeep =>
      have quiet : '\n' ∉ Obstacle.tooDeep.message.toList := by decide
      exact absurd shown quiet
  · rw [Draft.validate, reading] at member
    obtain rfl := List.mem_singleton.mp member
    exact absurd shown (by decide)
  · have read : (Draft.read source).root? = some root := by
      rw [Draft.root?, reading]
    have about := root.isAbout_of_mem_diagnostics diagnostic
      (Draft.validate_of_root? read ▸ member)
    rw [diagnostics_of_root? read] at member
    obtain ⟨part, isSeen, offends⟩ := List.mem_flatMap.mp member
    have spelled := isSpelled_of_mem_parts read part (Tree.mem_parts_iff.mpr (.inl isSeen))
    obtain ⟨flaw, isFlaw⟩ := Tree.exists_flaw_of_mem_offences spelled offends shown
    obtain ⟨text, textMember, flawMember⟩ := about.escape flaw isFlaw
    rw [isFlaw] at shown
    rw [flaw.newline_mem_message_iff.mp shown, unknown_mem_escapeFlaws_iff] at flawMember
    rw [(Draft.root?_read_eq_iff.mp read).strings_eq, strings_dropLast_scan] at textMember
    obtain ⟨lexeme, among, rfl⟩ := List.mem_map.mp textMember
    exact within lexeme (List.mem_filter.mp among).1 (badEscapes_subset _ flawMember)

/-! ### Names of scenes -/

theorem trim_subset (text : List Char) : trim text ⊆ text := by
  have start (other : List Char) : trimStart other ⊆ other := (List.dropWhile_sublist _).subset
  refine fun character member => ?_
  have inner := start _ (List.mem_reverse.mp member)
  exact start _ (List.mem_reverse.mp inner)

theorem Token.mem_of_mem_declarations {tokens : List Token} :
    ∀ declared ∈ declarations tokens,
      declared.1 ∈ tokens ∧ declared.1.kind = .sceneDeclaration := by
  induction tokens with
  | nil => exact List.forall_mem_nil _
  | cons token rest inductionHypothesis =>
    have further : ∀ declared ∈ declarations rest,
        declared.1 ∈ token :: rest ∧ declared.1.kind = .sceneDeclaration :=
      fun declared member => (inductionHypothesis declared member).imp_left (List.mem_cons_of_mem _)
    unfold declarations
    split
    · exact List.forall_mem_cons.mpr ⟨⟨List.mem_cons_self, ‹_›⟩, further⟩
    · exact further

/-- A declaration takes up one line, so the name in it holds no newline. -/
theorem IsPiece.newline_not_mem {before piece after text : List Char}
    (isPiece : IsPiece before piece after .sceneDeclaration text) : '\n' ∉ text := by
  cases isPiece with
  | sceneDeclaration _ line _ => exact fun member => line.noNewline (trim_subset _ member)
  | string member =>
    rcases mem_stringSigils_iff.mp member with ⟨_, other⟩ | ⟨_, other⟩ <;> cases other
  | expression member =>
    rcases mem_expressionSigils_iff.mp member with
      ⟨_, other⟩ | ⟨_, other⟩ | ⟨_, other⟩ | ⟨_, other⟩ <;> cases other

theorem Script.newline_not_mem_sceneNames {source : String} {script : Script}
    (read : Script.read source = .ok script) : ∀ name ∈ script.sceneNames, '\n' ∉ name.toList := by
  unfold Script.read at read
  split at read
  · cases read
  · rename_i tokens scanned
    rw [eq_assembled_of_ofTokens read, sceneNames_assembled]
    intro name member
    obtain ⟨declared, isDeclared, rfl⟩ := List.mem_map.mp (List.mem_eraseDups.mp member)
    obtain ⟨among, isDeclaration⟩ := Token.mem_of_mem_declarations declared isDeclared
    have inTokens := (List.takeWhile_sublist _).subset among
    obtain ⟨pieces, decomposes, rfl⟩ :=
      Place.tokens_sound (Place.behind_start source.toList) scanned
    rcases List.mem_append.mp inTokens with inPieces | atEnd
    · obtain ⟨piece, pieceMember, same⟩ := List.mem_map.mp inPieces
      obtain ⟨before, after, isPiece⟩ := decomposes.consecutive.forall_isPiece piece pieceMember
      rw [same, isDeclaration] at isPiece
      exact isPiece.newline_not_mem
    · rw [List.mem_singleton.mp atEnd] at isDeclaration
      cases isDeclaration

/-! ### Nodes -/

namespace Node

/-- Whether something of a node that would be shown in a report is a newline: a character that is
escaped without a meaning, or any character of an expression. -/
def breaksLine : Node Draft → Bool
  | text _ => false
  | instantString raw | typewriterString raw => (badEscapes raw.toList).contains '\n'
  | inlineExpr draft | deferredExpr draft | instantExpr draft | typewriterExpr draft =>
    draft.source.toList.contains '\n'

/-- The expression of a node was read from its text. -/
def IsRead : Node Draft → Prop
  | inlineExpr draft | deferredExpr draft | instantExpr draft | typewriterExpr draft =>
    draft = .read draft.source
  | _ => True

theorem newline_mem_stringProblems_iff (raw : String) :
    (∃ problem ∈ stringProblems raw, '\n' ∈ problem.message.toList) ↔
      (badEscapes raw.toList).contains '\n' = true := by
  rw [List.contains_iff_mem, ← unknown_mem_escapeFlaws_iff]
  simp only [stringProblems, List.mem_map, exists_exists_and_eq_and, NodeProblem.message,
    EscapeFlaw.newline_mem_message_iff, exists_eq_right]

/-- An expression that something is wrong with is shown as a whole, and nothing else is that holds a
newline. -/
theorem newline_mem_exprProblems_iff {draft : Draft} (isRead : draft = .read draft.source)
    (fails : exprProblems draft ≠ []) :
    (∃ problem ∈ exprProblems draft, '\n' ∈ problem.message.toList) ↔
      draft.source.toList.contains '\n' = true := by
  have before : '\n' ∉ "in '".toList := by decide
  have after : '\n' ∉ "': ".toList := by decide
  have shows (diagnostic : Diagnostic) :
      '\n' ∈ (NodeProblem.inExpression draft.source diagnostic).message.toList ↔
        '\n' ∈ draft.source.toList ∨ '\n' ∈ diagnostic.text.toList := by
    show '\n' ∈ ("in '" ++ draft.source ++ "': " ++ diagnostic.text).toList ↔ _
    rw [newline_mem_append_iff, newline_mem_append_iff, newline_mem_append_iff,
      or_iff_left after, or_iff_right before]
  rw [List.contains_iff_mem]
  simp only [exprProblems, List.mem_map, exists_exists_and_eq_and, shows]
  constructor
  · rintro ⟨diagnostic, member, inSource | inText⟩
    · exact inSource
    · rw [isRead] at member
      exact newline_mem_of_mem_diagnostics member inText
  · intro inSource
    obtain ⟨diagnostic, member⟩ := List.exists_mem_of_ne_nil _ (mt List.map_eq_nil_iff.mpr fails)
    exact ⟨diagnostic, member, .inl inSource⟩

theorem newline_mem_problems_iff {node : Node Draft} (isRead : node.IsRead)
    (fails : node.problems ≠ []) :
    (∃ problem ∈ node.problems, '\n' ∈ problem.message.toList) ↔ node.breaksLine = true := by
  cases node with
  | text content => exact absurd rfl fails
  | instantString raw | typewriterString raw => exact newline_mem_stringProblems_iff raw
  | inlineExpr draft | deferredExpr draft | instantExpr draft | typewriterExpr draft =>
    exact newline_mem_exprProblems_iff isRead fails

end Node

/-! ### Reports -/

theorem Position.newline_not_mem_text (position : Position) : '\n' ∉ position.text.toList := by
  have colon : '\n' ∉ ":".toList := by decide
  rw [text, newline_mem_append_iff, newline_mem_append_iff,
    or_iff_right (newline_not_mem_toString _), or_iff_right colon]
  exact newline_not_mem_toString _

/-- An entry is told in one line unless one of its problems shows a newline. -/
theorem Defect.newline_mem_text_iff {defect : Defect} (named : '\n' ∉ defect.scene.toList) :
    '\n' ∈ defect.text.toList ↔ ∃ problem ∈ defect.problems, '\n' ∈ problem.message.toList := by
  have colon : '\n' ∉ ":".toList := by decide
  have opening : '\n' ∉ " [".toList := by decide
  have closing : '\n' ∉ "] ".toList := by decide
  have semicolon : '\n' ∉ "; ".toList := by decide
  rw [text, newline_mem_append_iff, newline_mem_append_iff, newline_mem_append_iff,
    newline_mem_append_iff, newline_mem_append_iff, newline_mem_append_iff, newline_mem_append_iff,
    newline_mem_append_iff, or_iff_right named, or_iff_right colon,
    or_iff_right (newline_not_mem_toString _), or_iff_right colon,
    or_iff_right (newline_not_mem_toString _), or_iff_right opening,
    or_iff_right defect.position.newline_not_mem_text, or_iff_right closing, message,
    newline_mem_intercalate_iff semicolon]
  simp only [List.mem_map, exists_exists_and_eq_and]

namespace Script

variable {source : String} {script : Script}

theorem scene_mem_sceneNames : ∀ keyed ∈ script.keyedNodes, keyed.scene ∈ script.sceneNames := by
  intro keyed member
  obtain ⟨scene, sceneMember, inScene⟩ := List.mem_flatMap.mp member
  obtain ⟨beat, -, inBeat⟩ := List.mem_flatMap.mp inScene
  obtain ⟨placed, -, rfl⟩ := List.mem_map.mp inBeat
  exact List.mem_map_of_mem sceneMember

theorem isRead_of_mem_keyedNodes (read : Script.read source = .ok script) :
    ∀ keyed ∈ script.keyedNodes, keyed.placed.node.IsRead := by
  unfold Script.read at read
  split at read
  · cases read
  · rw [forall_mem_keyedNodes_iff fun placed => placed.node.IsRead]
    refine all_of_ofTokens _ read fun token _ placed isNode => ?_
    unfold PlacedNode.ofToken? at isNode
    cases kind : token.kind <;> rw [kind] at isNode <;> cases isNode
    all_goals first
      | exact trivial
      | rfl

/-- The entry of a node is told in more than one line exactly if the node shows a newline. -/
theorem newline_mem_text_defect_iff (read : Script.read source = .ok script) {keyed : KeyedNode}
    (member : keyed ∈ script.keyedNodes) (fails : keyed.fails = true) :
    '\n' ∈ keyed.defect.text.toList ↔ keyed.placed.node.breaksLine = true := by
  have named := newline_not_mem_sceneNames read _ (scene_mem_sceneNames keyed member)
  rw [Defect.newline_mem_text_iff named]
  exact Node.newline_mem_problems_iff (isRead_of_mem_keyedNodes read keyed member)
    (KeyedNode.fails_iff.mp fails)

end Script

/-- The lines of a report are those of its entries, one after the other. They are the entries
themselves, and as many as these, exactly if nothing is wrong with any node that would show a newline
of the script: an unknown escape of a newline in a string, or an expression that goes over a line. -/
theorem report_lines {source : String} {script : Script} {report : Report}
    (read : Script.read source = .ok script) (fails : script.compile = .error report) :
    lines report.text = report.defects.flatMap (fun defect => lines defect.text) ∧
    (lines report.text = report.defects.map Defect.text ↔
      ∀ keyed ∈ script.keyedNodes, keyed.fails = true → keyed.placed.node.breaksLine = false) ∧
    ((lines report.text).length = report.defects.length ↔
      ∀ keyed ∈ script.keyedNodes, keyed.fails = true → keyed.placed.node.breaksLine = false) := by
  rw [Script.compile_eq] at fails
  split at fails
  · cases fails
  · rename_i some
    cases fails
    have texts : (KeyedNode.defects script.keyedNodes).map Defect.text ≠ [] :=
      mt List.map_eq_nil_iff.mp some
    have each : (∀ text ∈ (KeyedNode.defects script.keyedNodes).map Defect.text,
          '\n' ∉ text.toList) ↔
        ∀ keyed ∈ script.keyedNodes, keyed.fails = true →
          keyed.placed.node.breaksLine = false := by
      rw [List.forall_mem_map, KeyedNode.defects, List.forall_mem_map]
      simp only [List.mem_filter, and_imp]
      refine forall₃_congr fun keyed member isFailing => ?_
      rw [Script.newline_mem_text_defect_iff read member isFailing, Bool.not_eq_true]
    rw [Report.text, lines_intercalate texts, List.flatMap_map, ← each]
    refine ⟨rfl, ?_, ?_⟩
    · rw [← flatMap_lines_eq_iff, List.flatMap_map]
    · rw [← length_flatMap_lines_iff, List.flatMap_map, List.length_map]

set_option maxRecDepth 10000 in
/-- A bad escape and an unfinished expression, each in its line. -/
theorem report_lines_two : ∃ script report,
    Script.read "::main\n#'\\q'\x7b1 +\x7d" = .ok script ∧ script.compile = .error report ∧
      report.defects.length = 2 ∧ lines report.text = report.defects.map Defect.text := by
  have scanned : Token.scan "::main\n#'\\q'\x7b1 +\x7d" =
      .ok [⟨.sceneDeclaration, "main", ⟨1, 1⟩⟩, ⟨.instantString, "\\q", ⟨2, 1⟩⟩,
        ⟨.inlineExpr, "1 +", ⟨2, 6⟩⟩, ⟨.finish, "", ⟨2, 11⟩⟩] := by
    with_unfolding_all rfl
  have grouped : Script.ofTokens [⟨.sceneDeclaration, "main", ⟨1, 1⟩⟩,
      ⟨.instantString, "\\q", ⟨2, 1⟩⟩, ⟨.inlineExpr, "1 +", ⟨2, 6⟩⟩, ⟨.finish, "", ⟨2, 11⟩⟩] =
      .ok ⟨[⟨"main", ⟨1, 1⟩, [[⟨.instantString "\\q", ⟨2, 1⟩⟩,
        ⟨.inlineExpr (.read "1 +"), ⟨2, 6⟩⟩]]⟩]⟩ := rfl
  have fails : Script.compile ⟨[⟨"main", ⟨1, 1⟩, [[⟨.instantString "\\q", ⟨2, 1⟩⟩,
      ⟨.inlineExpr (.read "1 +"), ⟨2, 6⟩⟩]]⟩]⟩ =
      .error ⟨[⟨"main", 0, 0, ⟨2, 1⟩, [.escape (.unknown 'q')]⟩,
        ⟨"main", 0, 1, ⟨2, 6⟩, [.inExpression "1 +"
          ⟨4, .unreadable (.unexpected .expression ⟨.finish, "", 4⟩)⟩]⟩]⟩ := by
    with_unfolding_all rfl
  have quiet : ∀ keyed ∈ Script.keyedNodes ⟨[⟨"main", ⟨1, 1⟩, [[⟨.instantString "\\q", ⟨2, 1⟩⟩,
      ⟨.inlineExpr (.read "1 +"), ⟨2, 6⟩⟩]]⟩]⟩, keyed.placed.node.breaksLine = false := by
    decide
  have read := (Script.read_of_scan scanned).trans grouped
  exact ⟨_, _, read, fails, rfl,
    (report_lines read fails).2.1.mpr fun keyed member _ => quiet keyed member⟩

set_option maxRecDepth 10000 in
/-- Not every entry of every report is told in one line: an expression that goes over two lines is
shown as it is. -/
theorem not_one_line_each : ¬ ∀ source script report, Script.read source = .ok script →
    script.compile = .error report → lines report.text = report.defects.map Defect.text := by
  intro all
  have scanned : Token.scan "::main\n\x7b1\n2\x7d" =
      .ok [⟨.sceneDeclaration, "main", ⟨1, 1⟩⟩, ⟨.inlineExpr, "1\n2", ⟨2, 1⟩⟩,
        ⟨.finish, "", ⟨3, 3⟩⟩] := by
    with_unfolding_all rfl
  have grouped : Script.ofTokens [⟨.sceneDeclaration, "main", ⟨1, 1⟩⟩,
      ⟨.inlineExpr, "1\n2", ⟨2, 1⟩⟩, ⟨.finish, "", ⟨3, 3⟩⟩] =
      .ok ⟨[⟨"main", ⟨1, 1⟩, [[⟨.inlineExpr (.read "1\n2"), ⟨2, 1⟩⟩]]⟩]⟩ := rfl
  have fails : Script.compile ⟨[⟨"main", ⟨1, 1⟩, [[⟨.inlineExpr (.read "1\n2"), ⟨2, 1⟩⟩]]⟩]⟩ =
      .error ⟨[⟨"main", 0, 0, ⟨2, 1⟩, [.inExpression "1\n2"
        ⟨3, .unreadable (.unexpected .semicolonOrEnd ⟨.int, "2", 3⟩)⟩]⟩]⟩ := by
    with_unfolding_all rfl
  have told := all _ _ _ ((Script.read_of_scan scanned).trans grouped) fails
  exact absurd told (by decide +kernel)

end Playscript
