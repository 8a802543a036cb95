/-
This file says what positions mean: the line of a place is one more than the newlines before it, and
its column one more than the characters since the last of these. Every token and every mistake of a
text carries the position of its first character, also when reading goes on behind a mistake. So
whatever is reported about a text with a position points at the first character of what is wrong: a
string or an expression whose content cannot be used, or a piece that cannot be read.

A place keeps its position from piece to piece. It is enough that each piece moves it by exactly the
characters that the piece takes up, whether or not the piece is a token.
-/

import Mathlib.Data.List.DropRight
import Playscript.Proofs.Bytes
import Playscript.Proofs.Reporting
import Playscript.Session

namespace Playscript

/-! ### Where a text is -/

/-- The position behind a text, which depends on its newlines and on what follows the last of
them. -/
def Position.behind (before : List Char) : Position :=
  ⟨before.count '\n' + 1, (before.rtakeWhile (· ≠ '\n')).length + 1⟩

/-- A piece that is no token, between what comes before and after it, and its fault. What is left
open goes on to the end of the text. -/
inductive IsBroken (before : List Char) : List Char → List Char → LexicalFault → Prop
  | sceneDeclaration {content ending after : List Char} (starts : AtLineStart before)
      (line : IsLine content ending after) (nameless : trim content = []) :
      IsBroken before (':' :: ':' :: (content ++ ending)) after .emptySceneName
  | string {sigil quote : Char} {text : List Char} {kind : TokenKind}
      (member : (sigil, kind) ∈ stringSigils) (opens : isQuote quote = true)
      (unclosed : ¬ ∃ content after, text = content ++ quote :: after ∧ Quoted quote content) :
      IsBroken before (sigil :: quote :: text) [] .unclosedString
  | expression {sigil text : List Char} {kind : TokenKind}
      (member : (sigil, kind) ∈ expressionSigils)
      (unclosed : ¬ ∃ content after quotations,
        text = content ++ '}' :: after ∧ Enclosed content quotations) :
      IsBroken before (sigil ++ '{' :: text) [] .unclosedBrace

/-- What is found behind some text, and the piece that it takes up: a token, a mistake, or the end.
Its position is that of the first character of the piece. -/
inductive Finds (before : List Char) : List Char → List Char → Except Mistake Token → Prop
  | token {piece after : List Char} {kind : TokenKind} {text : String}
      (isPiece : IsPiece before piece after kind text.toList) :
      Finds before piece after (.ok ⟨kind, text, .behind before⟩)
  | mistake {piece after : List Char} {fault : LexicalFault}
      (isBroken : IsBroken before piece after fault) :
      Finds before piece after (.error ⟨fault, .behind before⟩)
  | finish : Finds before [] [] (.ok ⟨.finish, "", .behind before⟩)

/-- Pieces that follow each other from some place of a text on, each with what is found there. -/
def InTurn (before : List Char) : List Char → List (List Char × Except Mistake Token) → Prop
  | _, [] => True
  | rest, (piece, finding) :: later =>
    ∃ after, rest = piece ++ after ∧ Finds before piece after finding ∧
      InTurn (before ++ piece) after later

/-- How strings and expressions begin. -/
def contentMarks : List (List Char) :=
  [['{'], ['%', '{'], ['#', '{'], ['@', '{'], ['#', '"'], ['#', '\''], ['@', '"'], ['@', '\'']]

/-- A position is that of the first character of a string or an expression that cannot be played,
and these are its problems. -/
def PointsAtNode (source : List Char) (position : Position) (problems : List NodeProblem) : Prop :=
  ∃ front piece token placed, InTurn [] source (front ++ [(piece, .ok token)]) ∧
    position = .behind (front.flatMap Prod.fst) ∧ (∃ mark ∈ contentMarks, mark <+: piece) ∧
    PlacedNode.ofToken? token = some placed ∧ placed.node.compile = .error problems

/-- A mistake is the first thing found in a text that is no token, and its position is that of the
first character of a piece that cannot be read. -/
def PointsAtBroken (source : List Char) (mistake : Mistake) : Prop :=
  ∃ front piece, InTurn [] source (front ++ [(piece, .error mistake)]) ∧
    (∀ found ∈ front, ∃ token, found.2 = .ok token) ∧
    mistake.position = .behind (front.flatMap Prod.fst) ∧
    ∃ after, IsBroken (front.flatMap Prod.fst) piece after mistake.fault

/-- A record tells the position of what is wrong with a text. -/
inductive Record.Points (source : List Char) : Record → Prop
  | node {defect : Defect} (points : PointsAtNode source defect.position defect.problems) :
      Points source (.ofDefect defect)
  | broken {mistake : Mistake} {record : Record} (points : PointsAtBroken source mistake)
      (position : record.position = some mistake.position)
      (kind : record.errorKind = mistake.fault.name) : Points source record

/-! ### Counting -/

namespace Position

theorem behind_concat (before : List Char) (character : Char) :
    behind (before ++ [character]) = (behind before).after character := by
  unfold behind after
  rw [List.rtakeWhile_concat, List.count_append, List.count_singleton]
  by_cases newline : character = '\n'
  · simp [newline]
  · simp [newline]

/-- Counting character by character counts newlines and what follows the last of them. -/
theorem afterAll_start (before : List Char) : start.afterAll before = behind before := by
  induction before using List.reverseRecOn with
  | nil => rfl
  | append_singleton before character inductionHypothesis =>
    rw [afterAll_append, inductionHypothesis, behind_concat]
    rfl

/-- Counting byte by byte comes to the same. -/
theorem foldl_afterByte (before : List Char) :
    (before.flatMap String.utf8EncodeChar).foldl afterByte start = behind before := by
  rw [← afterAll_start]
  exact foldl_afterByte_encoded start before

end Position

/-! ### Pieces that are no tokens -/

namespace Piece

variable {atLineStart : Bool} {character : Char} {before rest : List Char} {fault : LexicalFault}

theorem isBroken_sceneDeclaration {after : List Char} (starts : AtLineStart before)
    (found : (sceneDeclaration after).finding = .error fault) :
    IsBroken before (sceneDeclaration after).taken (sceneDeclaration after).rest fault := by
  unfold sceneDeclaration at found
  dsimp only at found
  split at found
  · rename_i nameless
    cases found
    exact .sceneDeclaration starts (isLine_line after) nameless
  · cases found

theorem isBroken_string {sigil quote : Char} {after : List Char} {kind : TokenKind}
    (member : (sigil, kind) ∈ stringSigils) (opens : isQuote quote = true)
    (found : (string kind sigil quote after).finding = .error fault) :
    IsBroken before (string kind sigil quote after).taken (string kind sigil quote after).rest
      fault := by
  rcases read : quotedSpan quote after with _ | ⟨content, later⟩
  · simp only [string, read] at found ⊢
    cases found
    refine .string member opens ?_
    rintro ⟨content, later, closes⟩
    rw [(quotedSpan_eq_some_iff opens).mpr closes] at read
    cases read
  · simp only [string, read] at found
    cases found

theorem isBroken_expression {sigil after : List Char} {kind : TokenKind}
    (member : (sigil, kind) ∈ expressionSigils)
    (found : (expression kind sigil after).finding = .error fault) :
    IsBroken before (expression kind sigil after).taken (expression kind sigil after).rest
      fault := by
  rcases read : bracedSpan 0 after with _ | ⟨content, later⟩
  · simp only [expression, read] at found ⊢
    cases found
    refine .expression member ?_
    rintro ⟨content, later, quotations, same, enclosed⟩
    rw [bracedSpan_eq_some_iff.mpr ⟨same, quotations, enclosed⟩] at read
    cases read
  · simp only [expression, read] at found
    cases found

/-- What is found at the front of a text and is no token is broken. -/
theorem isBroken_first (starts : atLineStart = true ↔ AtLineStart before)
    (found : (first atLineStart character rest).finding = .error fault) :
    IsBroken before (first atLineStart character rest).taken
      (first atLineStart character rest).rest fault := by
  have front : Front before (character :: rest) (first atLineStart character rest) :=
    front_first starts
  generalize character :: rest = whole, first atLineStart character rest = piece at front found
  cases front with
  | sceneDeclaration line => exact isBroken_sceneDeclaration line found
  | expression member => exact isBroken_expression member found
  | string member opens => exact isBroken_string member opens found
  | beatSeparator | newline | carriageReturn | plain => cases found

end Piece

/-! ### From place to place -/

namespace Place

variable {place : Place} {before : List Char}

theorem Behind.position_eq (behind : place.Behind before) : place.position = .behind before :=
  behind.position.trans (Position.afterAll_start before)

/-- What is found at a place is found behind the text before it, and then the place stands behind
its piece. -/
theorem finds_next (behind : place.Behind before) :
    ∃ piece, place.rest = piece ++ place.next.2.rest ∧
      Finds before piece place.next.2.rest place.next.1 ∧ place.next.2.Behind (before ++ piece) := by
  rcases more : place.rest with _ | ⟨character, rest⟩
  · have same : place.next = (.ok ⟨.finish, "", place.position⟩, place) := by
      rw [next, more]
    rw [same, behind.position_eq]
    refine ⟨[], more.symm, ?_, ?_⟩
    · show Finds before [] place.rest _
      rw [more]
      exact .finish
    · rw [List.append_nil]
      exact behind
  · have whole := Piece.first_append place.atLineStart character rest
    have notEmpty := Piece.first_taken_ne_nil place.atLineStart character rest
    refine ⟨(Piece.first place.atLineStart character rest).taken, ?_, ?_, ?_⟩
    · rw [next, more]
      exact whole.symm
    · rw [next, more]
      rcases found : (Piece.first place.atLineStart character rest).finding with
        fault | ⟨kind, text⟩
      · simp only [found, behind.position_eq]
        exact .mistake (Piece.isBroken_first behind.atLineStart found)
      · simp only [found, behind.position_eq]
        refine .token ?_
        rw [String.toList_ofList]
        exact Piece.isPiece_first behind.atLineStart found
    · rw [next, more]
      exact behind.further _ notEmpty

/-- However often the next token is asked for, and whatever is found, the pieces follow each
other. -/
theorem inTurn_nextTokens (behind : place.Behind before) (count : Nat) :
    ∃ found, InTurn before place.rest found ∧ place.nextTokens count = found.map Prod.snd := by
  induction count generalizing place before with
  | zero => exact ⟨[], trivial, rfl⟩
  | succ count inductionHypothesis =>
    obtain ⟨piece, whole, finds, further⟩ := finds_next behind
    obtain ⟨found, inTurn, same⟩ := inductionHypothesis further
    exact ⟨(piece, place.next.1) :: found, ⟨_, whole, finds, inTurn⟩, congrArg _ same⟩

/-- The mistake that ends the tokens is the first one found. -/
theorem inTurn_of_tokens_error {place : Place} {before : List Char} {mistake : Mistake}
    (behind : place.Behind before) (fails : place.tokens = .error mistake) :
    ∃ front piece, InTurn before place.rest (front ++ [(piece, .error mistake)]) ∧
      ∀ found ∈ front, ∃ token, found.2 = .ok token := by
  by_cases atEnd : place.rest = []
  · rw [tokens_of_nil atEnd] at fails
    cases fails
  · have shorter := place.length_next_lt atEnd
    obtain ⟨piece, whole, finds, further⟩ := finds_next behind
    rw [tokens, dif_neg atEnd] at fails
    rcases found : place.next.1 with other | token
    · rw [found] at fails finds
      cases fails
      exact ⟨[], piece, ⟨_, whole, finds, trivial⟩, List.forall_mem_nil _⟩
    · rw [found] at fails finds
      have laterFails : place.next.2.tokens = .error mistake := by
        rcases later : place.next.2.tokens with other | tokens
        · rw [later] at fails
          exact congrArg _ (Except.error.inj fails)
        · rw [later] at fails
          cases fails
      obtain ⟨front, last, inTurn, allTokens⟩ := inTurn_of_tokens_error further laterFails
      exact ⟨(piece, .ok token) :: front, last, ⟨_, whole, finds, inTurn⟩,
        List.forall_mem_cons.mpr ⟨⟨token, rfl⟩, allTokens⟩⟩
termination_by place.rest.length

end Place

/-! ### One thing found -/

/-- What is found somewhere is found behind all pieces before it. -/
theorem InTurn.of_append {before rest piece : List Char} {finding : Except Mistake Token}
    {front later : List (List Char × Except Mistake Token)}
    (inTurn : InTurn before rest (front ++ (piece, finding) :: later)) :
    InTurn before rest (front ++ [(piece, finding)]) ∧
      ∃ after, Finds (before ++ front.flatMap Prod.fst) piece after finding := by
  induction front generalizing before rest with
  | nil =>
    obtain ⟨after, whole, finds, -⟩ := inTurn
    refine ⟨⟨after, whole, finds, trivial⟩, after, ?_⟩
    rw [List.flatMap_nil, List.append_nil]
    exact finds
  | cons first front inductionHypothesis =>
    obtain ⟨after, whole, finds, others⟩ := inTurn
    obtain ⟨inTurn, further⟩ := inductionHypothesis others
    refine ⟨⟨after, whole, finds, inTurn⟩, ?_⟩
    rw [List.flatMap_cons, ← List.append_assoc]
    exact further

theorem Finds.position_of_token {before piece after : List Char} {token : Token}
    (finds : Finds before piece after (.ok token)) : token.position = .behind before := by
  cases finds <;> rfl

theorem Finds.isPiece_of_token {before piece after : List Char} {token : Token}
    (finds : Finds before piece after (.ok token)) (notFinish : token.kind ≠ .finish) :
    IsPiece before piece after token.kind token.text.toList := by
  cases finds with
  | token isPiece => exact isPiece
  | finish => exact absurd rfl notFinish

theorem Finds.of_mistake {before piece after : List Char} {mistake : Mistake}
    (finds : Finds before piece after (.error mistake)) :
    mistake.position = .behind before ∧ IsBroken before piece after mistake.fault := by
  cases finds with
  | mistake isBroken => exact ⟨rfl, isBroken⟩

/-- The pieces of a text are found one after the other. -/
theorem Consecutive.inTurn {before : List Char} {pieces : List (List Char × Token)}
    (consecutive : Consecutive before pieces) :
    InTurn before (pieces.flatMap Prod.fst) (pieces.map (Prod.map id .ok)) := by
  induction pieces generalizing before with
  | nil => trivial
  | cons first later inductionHypothesis =>
    obtain ⟨piece, kind, text, position⟩ := first
    obtain ⟨isPiece, same, others⟩ := consecutive
    obtain rfl : position = .behind before := same.trans (Position.afterAll_start before)
    exact ⟨_, List.flatMap_cons, .token isPiece, inductionHypothesis others⟩

/-- A token of a text is found behind the pieces before it. -/
theorem Token.exists_inTurn_of_scan {source : String} {tokens : List Token}
    (read : Token.scan source = .ok tokens) {token : Token} (member : token ∈ tokens)
    (notFinish : token.kind ≠ .finish) :
    ∃ front piece after, InTurn [] source.toList (front ++ [(piece, .ok token)]) ∧
      token.position = .behind (front.flatMap Prod.fst) ∧
      IsPiece (front.flatMap Prod.fst) piece after token.kind token.text.toList := by
  obtain ⟨pieces, decomposes, rfl⟩ := Place.tokens_sound (Place.behind_start source.toList) read
  rcases List.mem_append.mp member with inPieces | atEnd
  · obtain ⟨⟨piece, token⟩, pieceMember, rfl⟩ := List.mem_map.mp inPieces
    obtain ⟨earlier, later, rfl⟩ := List.append_of_mem pieceMember
    have inTurn := decomposes.consecutive.inTurn
    rw [← decomposes.whole, List.map_append, List.map_cons] at inTurn
    obtain ⟨upTo, after, finds⟩ := inTurn.of_append
    exact ⟨_, piece, after, upTo, finds.position_of_token, finds.isPiece_of_token notFinish⟩
  · rw [List.mem_singleton.mp atEnd] at notFinish
    exact absurd rfl notFinish

/-- Only strings and expressions can fail. -/
theorem exists_mark_of_compile_error {before piece after : List Char} {token : Token}
    {placed : PlacedNode} {problems : List NodeProblem}
    (isPiece : IsPiece before piece after token.kind token.text.toList)
    (stands : PlacedNode.ofToken? token = some placed)
    (fails : placed.node.compile = .error problems) : ∃ mark ∈ contentMarks, mark <+: piece := by
  obtain ⟨kind, text, position⟩ := token
  have notText : kind ≠ .text := by
    rintro rfl
    cases stands
    cases fails
  generalize text.toList = content at isPiece
  cases isPiece with
  | sceneDeclaration => cases stands
  | beatSeparator => cases stands
  | newline => exact absurd rfl notText
  | carriageReturn => exact absurd rfl notText
  | @string sigil quote _ _ _ member opens =>
    refine ⟨[sigil, quote], ?_, ⟨_, rfl⟩⟩
    rcases mem_stringSigils_iff.mp member with ⟨rfl, _⟩ | ⟨rfl, _⟩ <;>
      rcases isQuote_iff.mp opens with rfl | rfl <;> decide
  | @expression sigil content _ _ _ member =>
    refine ⟨sigil ++ ['{'], ?_, ⟨content ++ ['}'], List.append_assoc ..⟩⟩
    rcases mem_expressionSigils_iff.mp member with ⟨rfl, _⟩ | ⟨rfl, _⟩ | ⟨rfl, _⟩ | ⟨rfl, _⟩ <;>
      decide
  | plain => exact absurd rfl notText

/-! ### What is reported -/

theorem pointsAtBroken_of_scan {source : String} {mistake : Mistake}
    (fails : Token.scan source = .error mistake) : PointsAtBroken source.toList mistake := by
  obtain ⟨front, piece, inTurn, allTokens⟩ :=
    Place.inTurn_of_tokens_error (Place.behind_start source.toList) fails
  obtain ⟨-, after, finds⟩ := inTurn.of_append
  exact ⟨front, piece, inTurn, allTokens, finds.of_mistake.1, after, finds.of_mistake.2⟩

/-- Every entry of a report points at what is wrong. -/
theorem pointsAtNode_of_mem_defects {source : String} {script : Script} {report : Report}
    (read : Script.read source = .ok script) (fails : script.compile = .error report) :
    ∀ defect ∈ report.defects, PointsAtNode source.toList defect.position defect.problems := by
  intro defect member
  obtain ⟨keyed, keyedMember, rfl, nodeFails⟩ := Script.exists_keyed_of_mem_defects fails _ member
  rcases scanned : Token.scan source with mistake | tokens
  · rw [Script.read, scanned] at read
    cases read
  · rw [Script.read_of_scan scanned] at read
    have each := Script.all_of_ofTokens (fun placed => ∀ problems,
      placed.node.compile = .error problems →
        PointsAtNode source.toList placed.position problems) read
    refine (Script.forall_mem_keyedNodes_iff _).mpr (each ?_) keyed keyedMember _ nodeFails
    intro token tokenMember placed stands problems fails
    have notFinish := (PlacedNode.kind_of_ofToken? stands).2.2
    have samePosition : placed.position = token.position := by
      obtain ⟨node, -, rfl⟩ := Option.map_eq_some_iff.mp stands
      rfl
    obtain ⟨front, piece, after, inTurn, position, isPiece⟩ :=
      Token.exists_inTurn_of_scan scanned tokenMember notFinish
    exact ⟨front, piece, token, placed, inTurn, samePosition.trans position,
      exists_mark_of_compile_error isPiece stands fails, stands, fails⟩

theorem Script.scan_of_read_mistake {source : String} {mistake : Mistake}
    (fails : Script.read source = .error (.mistake mistake)) :
    Token.scan source = .error mistake := by
  rcases scanned : Token.scan source with other | tokens
  · rw [Script.read, scanned] at fails
    cases fails
    rfl
  · rw [Script.read_of_scan scanned, Script.ofTokens_eq] at fails
    split at fails <;> cases fails

/-- A record of a text that is no programme points at what is wrong, if it has a position. -/
theorem points_of_mem_records {source : String} {failure : Failure}
    (fails : compile source = .error failure) :
    ∀ record ∈ failure.records, record.position ≠ none → record.Points source.toList := by
  unfold compile at fails
  split at fails
  · rename_i error read
    cases fails
    cases error with
    | missingMain => exact List.forall_mem_singleton.mpr fun hasPosition => absurd rfl hasPosition
    | mistake mistake =>
      have points := pointsAtBroken_of_scan (Script.scan_of_read_mistake read)
      exact List.forall_mem_singleton.mpr fun _ => .broken points rfl rfl
  · rename_i script read
    rcases compiled : script.compile with report | programme
    · rw [compiled] at fails
      cases fails
      refine List.forall_mem_map.mpr fun defect member _ => ?_
      exact .node (pointsAtNode_of_mem_defects read compiled defect member)
    · rw [compiled] at fails
      cases fails

theorem SessionConfig.accept_error {config : SessionConfig} {programme : Programme}
    {failure : Failure} (fails : config.accept programme = .error failure) :
    failure = .unknownScene config.startScene := by
  unfold accept at fails
  split at fails
  · cases fails
  · exact (Except.error.inj fails).symm

/-- A text that cannot be played is no programme, or a scene is missing. -/
theorem compileFor_error {config : SessionConfig} {source : String} {failure : Failure}
    (fails : compileFor config source = .error failure) :
    compile source = .error failure ∨ failure = .unknownScene config.startScene := by
  unfold compileFor at fails
  rcases compiled : compile source with other | programme
  · rw [compiled] at fails
    exact .inl (congrArg _ (Except.error.inj fails))
  · rw [compiled] at fails
    exact .inr (SessionConfig.accept_error fails)

theorem play_error {config : SessionConfig} {source : String} {failure : Failure}
    (fails : play config source = .error failure) :
    compile source = .error failure ∨ failure = .unknownScene config.startScene := by
  unfold play at fails
  rcases compiled : compileFor config source with other | programme
  · rw [compiled] at fails
    obtain rfl := Except.error.inj fails
    exact compileFor_error compiled
  · rw [compiled] at fails
    have refused : config.accept programme = .error failure := eq_error_of_map fails
    exact .inr (SessionConfig.accept_error refused)

/-- Positions are those of first characters. They are counted byte by byte; each token and mistake
that is ever found has the position of its piece; and every record with a position points at what is
wrong. -/
theorem points_at_first_characters (source : String) :
    (∀ before : List Char,
        (before.flatMap String.utf8EncodeChar).foldl Position.afterByte .start =
          Position.behind before) ∧
      (∀ count, ∃ found, InTurn [] source.toList found ∧
        (Place.start source.toList).nextTokens count = found.map Prod.snd) ∧
      (∀ script report, Script.read source = .ok script → script.compile = .error report →
        ∀ defect ∈ report.defects,
          PointsAtNode source.toList defect.position defect.problems) ∧
      ∀ config failure, compile source = .error failure ∨
          compileFor config source = .error failure ∨ play config source = .error failure →
        ∀ record ∈ failure.records, record.position ≠ none → record.Points source.toList := by
  refine ⟨Position.foldl_afterByte, Place.inTurn_nextTokens (Place.behind_start source.toList),
    fun script report read fails => pointsAtNode_of_mem_defects read fails, ?_⟩
  intro config failure fails
  have cases : compile source = .error failure ∨ failure = .unknownScene config.startScene := by
    rcases fails with ofCompile | ofCompileFor | ofPlay
    · exact .inl ofCompile
    · exact compileFor_error ofCompileFor
    · exact play_error ofPlay
  rcases cases with ofCompile | rfl
  · exact points_of_mem_records ofCompile
  · exact List.forall_mem_singleton.mpr fun hasPosition => absurd rfl hasPosition

/-- A script with a character of two bytes, a carriage return and a newline within a string before
the string that fails. -/
theorem points_at_first_characters_of_flaw : ∃ source script report,
    Script.read source = .ok script ∧ script.compile = .error report ∧
      report.defects.map (·.position) = [⟨4, 5⟩] ∧
      ∀ defect ∈ report.defects,
        PointsAtNode source.toList defect.position defect.problems := by
  have scanned : Token.scan "::main\n#'a\nb'\r\n\u00e9 is@'\\q'" =
      .ok [⟨.sceneDeclaration, "main", ⟨1, 1⟩⟩, ⟨.instantString, "a\nb", ⟨2, 1⟩⟩,
        ⟨.text, "\n", ⟨3, 3⟩⟩, ⟨.text, "\u00e9 is", ⟨4, 1⟩⟩, ⟨.typewriterString, "\\q", ⟨4, 5⟩⟩,
        ⟨.finish, "", ⟨4, 10⟩⟩] := by
    with_unfolding_all rfl
  have grouped : Script.ofTokens [⟨.sceneDeclaration, "main", ⟨1, 1⟩⟩,
      ⟨.instantString, "a\nb", ⟨2, 1⟩⟩, ⟨.text, "\n", ⟨3, 3⟩⟩, ⟨.text, "\u00e9 is", ⟨4, 1⟩⟩,
      ⟨.typewriterString, "\\q", ⟨4, 5⟩⟩, ⟨.finish, "", ⟨4, 10⟩⟩] =
      .ok ⟨[⟨"main", ⟨1, 1⟩, [[⟨.instantString "a\nb", ⟨2, 1⟩⟩, ⟨.text "\n", ⟨3, 3⟩⟩,
        ⟨.text "\u00e9 is", ⟨4, 1⟩⟩, ⟨.typewriterString "\\q", ⟨4, 5⟩⟩]]⟩]⟩ := rfl
  have read := (Script.read_of_scan scanned).trans grouped
  exact ⟨_, _, ⟨[⟨"main", 0, 3, ⟨4, 5⟩, [.escape (.unknown 'q')]⟩]⟩, read, rfl, rfl,
    (points_at_first_characters _).2.2.1 _ _ read rfl⟩

end Playscript
