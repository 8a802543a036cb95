/-
This file shows that the three readers of quotations agree on where these end: the tokens of a
script, the lexemes of its expressions, and the escapes of both. So a script whose text can be cut
into tokens is never refused for a string that is left open, nor for an escape that is.

Nothing is reported that is not wrong with a node, and every node comes from a token. It is enough
therefore to look at each token, where the decomposition of the script says what its text is.
-/

import Mathlib.Data.List.Permutation
import Playscript.Proofs.Compiling
import Playscript.Proofs.Decomposition

namespace Playscript

/-! ### Nodes come from tokens -/

variable {property : PlacedNode → Prop}

/-- All nodes of a scene have a property. -/
def SceneDraft.All (property : PlacedNode → Prop) (scene : SceneDraft) : Prop :=
  ∀ beat ∈ scene.beats, ∀ placed ∈ beat, property placed

/-- All nodes of an open scene have a property. -/
structure OpenScene.All (property : PlacedNode → Prop) (scene : OpenScene) : Prop where
  beats : ∀ beat ∈ scene.beats, ∀ placed ∈ beat, property placed
  nodes : ∀ placed ∈ scene.nodes, property placed

/-- All nodes of an open script have a property. -/
structure OpenScript.All (property : PlacedNode → Prop) (script : OpenScript) : Prop where
  finished : ∀ scene ∈ script.finished, scene.All property
  current : ∀ scene, script.current = some scene → scene.All property

theorem PlacedNode.mem_of_mem_trimmed {placed : PlacedNode} {nodes : List PlacedNode}
    (member : placed ∈ PlacedNode.trimmed nodes) : placed ∈ nodes := by
  have inner := (List.dropWhile_sublist _).subset member
  exact List.mem_reverse.mp ((List.dropWhile_sublist _).subset (List.mem_reverse.mp inner))

namespace OpenScene

variable {scene : OpenScene}

theorem All.closeBeat (all : scene.All property) : scene.closeBeat.All property := by
  refine ⟨List.forall_mem_append.mpr ⟨all.beats, List.forall_mem_singleton.mpr ?_⟩,
    List.forall_mem_nil _⟩
  exact fun placed member => all.nodes placed (PlacedNode.mem_of_mem_trimmed member)

theorem All.addNode {placed : PlacedNode} (all : scene.All property) (holds : property placed) :
    (scene.addNode placed).All property :=
  ⟨all.beats, List.forall_mem_append.mpr ⟨all.nodes, List.forall_mem_singleton.mpr holds⟩⟩

theorem All.finish (all : scene.All property) : scene.finish.All property := by
  unfold SceneDraft.All OpenScene.finish
  dsimp only
  split
  · exact all.beats
  · exact all.closeBeat.beats

end OpenScene

theorem Script.forall_mem_addScene {scene : SceneDraft} {scenes : List SceneDraft}
    {holds : SceneDraft → Prop} (new : holds scene) (old : ∀ earlier ∈ scenes, holds earlier) :
    ∀ later ∈ Script.addScene scene scenes, holds later := by
  induction scenes with
  | nil => exact List.forall_mem_singleton.mpr new
  | cons earlier rest inductionHypothesis =>
    obtain ⟨first, others⟩ := List.forall_mem_cons.mp old
    unfold Script.addScene
    split
    · exact List.forall_mem_cons.mpr ⟨new, others⟩
    · exact List.forall_mem_cons.mpr ⟨first, inductionHypothesis others⟩

namespace OpenScript

variable {script : OpenScript}

theorem All.close (all : script.All property) : ∀ scene ∈ script.close, scene.All property := by
  unfold OpenScript.close
  split
  · exact all.finished
  · rename_i scene same
    exact Script.forall_mem_addScene (all.current scene same).finish all.finished

theorem All.take {token : Token} (all : script.All property)
    (holds : ∀ placed, PlacedNode.ofToken? token = some placed → property placed) :
    (script.take token).All property := by
  unfold OpenScript.take
  split
  · refine ⟨all.close, ?_⟩
    rintro _ ⟨⟩
    exact ⟨List.forall_mem_nil _, List.forall_mem_nil _⟩
  · exact all
  · rename_i scene _ same
    refine ⟨all.finished, ?_⟩
    rintro _ ⟨⟩
    exact (all.current scene same).closeBeat
  · rename_i scene same _ _
    split
    · rename_i placed isNode
      refine ⟨all.finished, ?_⟩
      rintro _ ⟨⟩
      exact (all.current scene same).addNode (holds placed isNode)
    · exact all

theorem All.foldl {tokens : List Token} (all : script.All property)
    (each : ∀ token ∈ tokens, ∀ placed, PlacedNode.ofToken? token = some placed → property placed) :
    (tokens.foldl OpenScript.take script).All property := by
  induction tokens generalizing script with
  | nil => exact all
  | cons token rest inductionHypothesis =>
    obtain ⟨first, others⟩ := List.forall_mem_cons.mp each
    exact inductionHypothesis (all.take first) others

end OpenScript

/-- What holds of all nodes that tokens stand for holds of all nodes of their script. -/
theorem Script.all_of_ofTokens (property : PlacedNode → Prop) {tokens : List Token}
    {script : Script} (read : Script.ofTokens tokens = .ok script)
    (each : ∀ token ∈ tokens, ∀ placed, PlacedNode.ofToken? token = some placed → property placed) :
    ∀ scene ∈ script.scenes, scene.All property := by
  unfold Script.ofTokens at read
  dsimp only at read
  split at read
  · cases read
    have start : OpenScript.All property {} := ⟨List.forall_mem_nil _, nofun⟩
    exact (start.foldl fun token member =>
      each token ((List.takeWhile_sublist _).subset member)).close
  · cases read

/-! ### Reports -/

/-- Every entry of a report is about a node of the script, and holds what is wrong with it. -/
theorem Script.exists_of_mem_defects {script : Script} {report : Report}
    (fails : script.compile = .error report) :
    ∀ defect ∈ report.defects, ∃ scene ∈ script.scenes, ∃ beat ∈ scene.beats, ∃ placed ∈ beat,
      placed.node.compile = .error defect.problems := by
  intro defect member
  obtain ⟨keyed, keyedMember, -, nodeFails⟩ := exists_keyed_of_mem_defects fails defect member
  have inScript := (forall_mem_keyedNodes_iff fun placed => ∃ scene ∈ script.scenes,
    ∃ beat ∈ scene.beats, placed ∈ beat).mpr
      fun scene sceneMember beat beatMember _ placedMember =>
        ⟨scene, sceneMember, beat, beatMember, placedMember⟩
  obtain ⟨scene, sceneMember, beat, beatMember, placedMember⟩ := inScript keyed keyedMember
  exact ⟨scene, sceneMember, beat, beatMember, keyed.placed, placedMember, nodeFails⟩

/-! ### One token -/

/-- A problem of a node is that a string or an escape is left open. -/
def NodeProblem.IsOpen : NodeProblem → Prop
  | .escape flaw => flaw = .incomplete
  | .inExpression _ diagnostic =>
    diagnostic.problem = .unreadable .openString ∨ diagnostic.problem = .escape .incomplete

/-- A text that does not end in a backslash with nothing to take along, so that no escape of it is
left open. -/
structure EndsWhole (text : String) : Prop where
  notDangling : ¬ Dangling text.toList
  complete : .incomplete ∉ escapeFlaws text.toList

theorem endsWhole_of_quoted {quote : Char} {content : List Char} {text : String}
    (same : text.toList = content) (quoted : Quoted quote content) : EndsWhole text := by
  have notDangling : ¬ Dangling text.toList := same ▸ not_dangling_of_quoted quoted
  exact ⟨notDangling, mt (incomplete_mem_escapeFlaws_iff _).mp notDangling⟩

/-- A piece of a script and its token agree with the other readers of quotations. The text of a
string is whole. The strings of an expression are the quotations between its braces, and they are
closed and whole. -/
structure Agrees (piece : List Char) (token : Token) : Prop where
  string {sigil : Char} (member : (sigil, token.kind) ∈ stringSigils) : EndsWhole token.text
  expression {sigil : List Char} (member : (sigil, token.kind) ∈ expressionSigils) :
    ∃ content quotations, piece = sigil ++ '{' :: (content ++ ['}']) ∧
      Enclosed content quotations ∧ token.text.toList = trim content ∧
      Lexeme.strings (Lexeme.scan token.text) = quotations.map String.ofList ∧
      Grammar.AllClosed (Lexeme.scan token.text) ∧
      ∀ text ∈ Lexeme.strings (Lexeme.scan token.text), EndsWhole text

theorem agrees_of_isPiece {before piece after : List Char} {token : Token}
    (isPiece : IsPiece before piece after token.kind token.text.toList) : Agrees piece token := by
  refine ⟨fun member => ?_, fun member => ?_⟩
  · obtain ⟨quote, _, quoted⟩ := isPiece.of_mem_stringSigils member
    exact endsWhole_of_quoted rfl quoted
  · obtain ⟨content, quotations, pieceSame, enclosed, textSame⟩ :=
      isPiece.of_mem_expressionSigils member
    have quotes : Quotes token.text.toList quotations := textSame ▸ enclosed.quotes.trim
    obtain ⟨same, closed⟩ := Lexeme.strings_scanFrom quotes 1
    refine ⟨content, quotations, pieceSame, enclosed, textSame, same, closed, ?_⟩
    show ∀ text ∈ Lexeme.strings (Lexeme.scanFrom 1 token.text.toList), EndsWhole text
    rw [same]
    refine List.forall_mem_map.mpr fun quotation quotationMember => ?_
    obtain ⟨quote, quoted⟩ := enclosed.exists_quoted quotation quotationMember
    exact endsWhole_of_quoted String.toList_ofList quoted

/-! ### One node -/

theorem not_isOpen_of_resolveString {raw : String} {problems : List NodeProblem}
    (whole : EndsWhole raw) (fails : resolveString raw = .error problems) :
    ∀ problem ∈ problems, ¬ problem.IsOpen := by
  have complete := whole.complete
  unfold escapeFlaws at complete
  unfold resolveString at fails
  cases read : unescape raw.toList with
  | ok text =>
    rw [read] at fails
    cases fails
  | error flaws =>
    rw [read] at fails complete
    cases fails
    refine List.forall_mem_map.mpr fun flaw member isOpen => complete ?_
    rw [← show flaw = .incomplete from isOpen]
    exact member

theorem not_isOpen_of_resolveExpr {source : String} {problems : List NodeProblem}
    (closed : Grammar.AllClosed (Lexeme.scan source))
    (whole : ∀ text ∈ Lexeme.strings (Lexeme.scan source), EndsWhole text)
    (fails : resolveExpr (.read source) = .error problems) :
    ∀ problem ∈ problems, ¬ problem.IsOpen := by
  have about := isAbout_of_mem_validate closed
  unfold resolveExpr at fails
  cases read : (Draft.read source).validate with
  | ok expression =>
    rw [read] at fails
    cases fails
  | error diagnostics =>
    rw [read] at fails about
    cases fails
    refine List.forall_mem_map.mpr fun diagnostic member => ?_
    obtain ⟨notReading, escape⟩ := about diagnostic member
    rintro (isReading | isEscape)
    · exact notReading isReading
    · obtain ⟨text, textMember, incomplete⟩ := escape _ isEscape
      exact (whole text textMember).complete incomplete

theorem eq_error_of_map {Problem First Result : Type} {change : First → Result}
    {outcome : Except Problem First} {problem : Problem}
    (fails : outcome.map change = .error problem) : outcome = .error problem := by
  cases outcome with
  | ok value => cases fails
  | error other => exact congrArg Except.error (Except.error.inj fails)

/-- A node whose token agrees with the other readers has no problem with an open end. -/
theorem not_isOpen_of_compile {piece : List Char} {token : Token} {placed : PlacedNode}
    {problems : List NodeProblem} (agrees : Agrees piece token)
    (isNode : PlacedNode.ofToken? token = some placed)
    (fails : placed.node.compile = .error problems) :
    ∀ problem ∈ problems, ¬ problem.IsOpen := by
  have string {sigil : Char} (member : (sigil, token.kind) ∈ stringSigils)
      (fails : resolveString token.text = .error problems) :
      ∀ problem ∈ problems, ¬ problem.IsOpen :=
    not_isOpen_of_resolveString (agrees.string member) fails
  have expression {sigil : List Char} (member : (sigil, token.kind) ∈ expressionSigils)
      (fails : resolveExpr (.read token.text) = .error problems) :
      ∀ problem ∈ problems, ¬ problem.IsOpen := by
    obtain ⟨_, _, _, _, _, _, closed, whole⟩ := agrees.expression member
    exact not_isOpen_of_resolveExpr closed whole fails
  unfold PlacedNode.ofToken? at isNode
  cases kind : token.kind <;> rw [kind] at isNode string expression <;> cases isNode
  · cases fails
  · exact string (mem_stringSigils_iff.mpr (.inl ⟨rfl, rfl⟩)) (eq_error_of_map fails)
  · exact string (mem_stringSigils_iff.mpr (.inr ⟨rfl, rfl⟩)) (eq_error_of_map fails)
  · exact expression (mem_expressionSigils_iff.mpr (.inl ⟨rfl, rfl⟩)) (eq_error_of_map fails)
  · exact expression (mem_expressionSigils_iff.mpr (.inr (.inl ⟨rfl, rfl⟩))) (eq_error_of_map fails)
  · exact expression (mem_expressionSigils_iff.mpr (.inr (.inr (.inl ⟨rfl, rfl⟩))))
      (eq_error_of_map fails)
  · exact expression (mem_expressionSigils_iff.mpr (.inr (.inr (.inr ⟨rfl, rfl⟩))))
      (eq_error_of_map fails)

/-! ### Scripts -/

theorem Script.read_of_scan {source : String} {tokens : List Token}
    (read : Token.scan source = .ok tokens) : Script.read source = Script.ofTokens tokens := by
  rw [Script.read, read]

/-- In a script that can be cut into tokens, the tokens, the lexemes and the escapes agree on where
quotations end: every piece agrees with its token, and no report of the script has a problem with
a string or an escape that is left open. -/
theorem quotations_agree {source : String} {tokens : List Token}
    (read : Token.scan source = .ok tokens) :
    (∃ pieces, Decomposes [] source.toList pieces ∧ tokens.dropLast = pieces.map Prod.snd ∧
        ∀ piece ∈ pieces, Agrees piece.1 piece.2) ∧
      ∀ script report, Script.read source = .ok script → script.compile = .error report →
        ∀ defect ∈ report.defects, ∀ problem ∈ defect.problems, ¬ problem.IsOpen := by
  obtain ⟨pieces, decomposes, rfl⟩ := Place.tokens_sound (Place.behind_start source.toList) read
  have agree : ∀ piece ∈ pieces, Agrees piece.1 piece.2 := by
    intro piece member
    obtain ⟨before, after, isPiece⟩ := decomposes.consecutive.forall_isPiece piece member
    exact agrees_of_isPiece isPiece
  refine ⟨⟨pieces, decomposes, List.dropLast_concat, agree⟩, ?_⟩
  intro script report readScript fails defect member
  rw [Script.read_of_scan read] at readScript
  have each := Script.all_of_ofTokens (fun placed => ∀ problems,
    placed.node.compile = .error problems → ∀ problem ∈ problems, ¬ problem.IsOpen) readScript
  obtain ⟨scene, sceneMember, beat, beatMember, placed, placedMember, nodeFails⟩ :=
    script.exists_of_mem_defects fails defect member
  refine each ?_ scene sceneMember beat beatMember placed placedMember defect.problems nodeFails
  rintro token tokenMember other isNode problems otherFails
  rcases List.mem_append.mp tokenMember with inPieces | atEnd
  · obtain ⟨piece, pieceMember, rfl⟩ := List.mem_map.mp inPieces
    exact not_isOpen_of_compile (agree piece pieceMember) isNode otherFails
  · rw [List.mem_singleton.mp atEnd] at isNode
    cases isNode

/-- A script with quotes, braces and backslashes within quotations, which is refused for an unknown
escape. -/
theorem quotations_agree_of_mixed : ∃ source tokens script report,
    Token.scan source = .ok tokens ∧ Script.read source = .ok script ∧
      script.compile = .error report ∧
      (∃ pieces, Decomposes [] source.toList pieces ∧ tokens.dropLast = pieces.map Prod.snd ∧
        ∀ piece ∈ pieces, Agrees piece.1 piece.2) ∧
      ∀ defect ∈ report.defects, ∀ problem ∈ defect.problems, ¬ problem.IsOpen := by
  have scanned : Token.scan "::main\n@'it\\'s \\q'\x7bsay(\"\x7d'\", 'b\\\\')\x7d" =
      .ok [⟨.sceneDeclaration, "main", ⟨1, 1⟩⟩, ⟨.typewriterString, "it\\'s \\q", ⟨2, 1⟩⟩,
        ⟨.inlineExpr, "say(\"\x7d'\", 'b\\\\')", ⟨2, 12⟩⟩, ⟨.finish, "", ⟨2, 30⟩⟩] := by
    with_unfolding_all rfl
  have grouped : Script.ofTokens [⟨.sceneDeclaration, "main", ⟨1, 1⟩⟩,
      ⟨.typewriterString, "it\\'s \\q", ⟨2, 1⟩⟩,
      ⟨.inlineExpr, "say(\"\x7d'\", 'b\\\\')", ⟨2, 12⟩⟩, ⟨.finish, "", ⟨2, 30⟩⟩] =
      .ok ⟨[⟨"main", ⟨1, 1⟩, [[⟨.typewriterString "it\\'s \\q", ⟨2, 1⟩⟩,
        ⟨.inlineExpr (.read "say(\"\x7d'\", 'b\\\\')"), ⟨2, 12⟩⟩]]⟩]⟩ := rfl
  have unknown : (Node.typewriterString "it\\'s \\q" : Node Draft).compile =
      .error [.escape (.unknown 'q')] := by
    with_unfolding_all rfl
  obtain ⟨agree, reported⟩ := quotations_agree scanned
  have read := (Script.read_of_scan scanned).trans grouped
  rcases compiled : Script.compile ⟨[⟨"main", ⟨1, 1⟩, [[⟨.typewriterString "it\\'s \\q", ⟨2, 1⟩⟩,
    ⟨.inlineExpr (.read "say(\"\x7d'\", 'b\\\\')"), ⟨2, 12⟩⟩]]⟩]⟩ with report | programme
  · exact ⟨_, _, _, report, scanned, read, compiled, agree, reported _ _ read compiled⟩
  · simp [Script.compile, compileScenes, compileBeats, compileNodes, unknown] at compiled

end Playscript
