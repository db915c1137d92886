/-
This file shows that no text escapes from its literal in a composed script.
-/
import HostBridge.Proofs.Declaration
import HostBridge.Proofs.Literal
import HostBridge.Submission

namespace HostBridge

/-- A script is read as characters of code with literals between them. -/
inductive Lexeme where
  | code (c : Char)
  | literal (text : String)
deriving DecidableEq

def Lexeme.code? : Lexeme → Option Char
  | .code c => some c
  | .literal _ => none

def Lexeme.literal? : Lexeme → Option String
  | .code _ => none
  | .literal text => some text

/-- The literal at the beginning of a text, with what follows it. -/
def readLiteral? : List Char → Option (String × List Char)
  | '"' :: rest => (Json.scanString rest).toOption
  | _ => none

/-- The first argument bounds the number of characters. -/
def readLexemes : Nat → List Char → Option (List Lexeme)
  | _, [] => some []
  | 0, _ :: _ => none
  | bound + 1, c :: rest =>
      if c = '"' then
        match readLiteral? (c :: rest) with
        | some (text, rest) => (readLexemes bound rest).map (.literal text :: ·)
        | none => none
      else (readLexemes bound rest).map (.code c :: ·)

/-- A script from its first to its last character. -/
def lexemes? (script : String) : Option (List Lexeme) :=
  readLexemes script.toList.length script.toList

def Piece.lexemes : Piece → List Lexeme
  | .code text => text.toList.map .code
  | .literal text => [.literal text]

/-- The code of a piece begins no literal. -/
def Piece.Bare : Piece → Prop
  | .code text => '"' ∉ text.toList
  | .literal _ => True

/-- A quoted text is read back, whatever stands behind its literal. -/
theorem readLiteral?_quote (text : String) (rest : List Char) :
    readLiteral? ((Text.quote text).toList ++ rest) = some (text, rest) := by
  rw [Text.quote, Text.Quoted.encode, String.toList_ofList]
  simp only [List.cons_append, List.append_assoc, List.nil_append, readLiteral?,
    Json.scanString_quoted]
  rfl

/-- Code without a quotation mark is read as it stands. -/
theorem readLexemes_code (code rest : List Char) (bare : '"' ∉ code) (bound : Nat)
    (lexemes : List Lexeme) (read : readLexemes bound rest = some lexemes) :
    readLexemes (code.length + bound) (code ++ rest) = some (code.map .code ++ lexemes) := by
  induction code with
  | nil => simpa using read
  | cons c code ih =>
      obtain ⟨different, bare⟩ := List.ne_and_not_mem_of_not_mem_cons bare
      rw [List.length_cons, Nat.add_right_comm, List.cons_append, readLexemes,
        if_neg (Ne.symm different), ih bare]
      rfl

/-- A quoted text is read as one literal. -/
theorem readLexemes_quote (text : String) (rest : List Char) (bound : Nat)
    (lexemes : List Lexeme) (read : readLexemes bound rest = some lexemes) :
    readLexemes (bound + 1) ((Text.quote text).toList ++ rest) =
      some (.literal text :: lexemes) := by
  have literal := readLiteral?_quote text rest
  rw [Text.quote, Text.Quoted.encode, String.toList_ofList, List.cons_append, List.cons_append]
    at literal ⊢
  rw [readLexemes, if_pos rfl, literal]
  simp [read]

theorem pieceText_cons (piece : Piece) (pieces : List Piece) :
    (pieceText (piece :: pieces)).toList = piece.text.toList ++ (pieceText pieces).toList := by
  simp [pieceText]

/-- Pieces are read back one after the other. -/
theorem readLexemes_pieces (pieces : List Piece) (bare : ∀ piece ∈ pieces, piece.Bare)
    (bound : Nat) (enough : (pieceText pieces).toList.length ≤ bound) :
    readLexemes bound (pieceText pieces).toList = some (pieces.flatMap Piece.lexemes) := by
  induction pieces generalizing bound with
  | nil => cases bound <;> rfl
  | cons piece pieces ih =>
      obtain ⟨first, others⟩ := List.forall_mem_cons.mp bare
      rw [pieceText_cons, List.length_append] at enough
      rw [pieceText_cons, List.flatMap_cons]
      cases piece with
      | code text =>
          obtain ⟨spare, rfl⟩ := Nat.exists_eq_add_of_le (Nat.le_of_add_right_le enough)
          exact readLexemes_code _ _ first _ _ (ih others spare (Nat.le_of_add_le_add_left enough))
      | literal text =>
          have used : 1 ≤ (Piece.literal text).text.toList.length := by
            simp [Piece.text, Text.quote, Text.Quoted.encode]
          obtain ⟨spare, rfl⟩ := Nat.exists_eq_add_of_le' (Nat.le_trans used
            (Nat.le_of_add_right_le enough))
          exact readLexemes_quote _ _ _ _ (ih others spare (by omega))

/-- A text is read as the pieces that it was put together from. -/
theorem lexemes?_pieceText (pieces : List Piece) (bare : ∀ piece ∈ pieces, piece.Bare) :
    lexemes? (pieceText pieces) = some (pieces.flatMap Piece.lexemes) :=
  readLexemes_pieces pieces bare _ le_rfl

/-- The name of a parameter is a word with a number. -/
theorem toList_parameterName (index : Nat) :
    (s!"arg{index}").toList = ['a', 'r', 'g'] ++ Nat.toDigits 10 index := by
  rw [← Nat.toList_repr]
  exact String.toList_append

/-- The names of parameters have small letters and digits. -/
theorem isAlphanum_parameterName {index : Nat} {c : Char} (member : c ∈ (s!"arg{index}").toList) :
    c.isAlphanum = true := by
  rw [toList_parameterName, List.mem_append] at member
  rcases member with letter | digit
  · simp only [List.mem_cons, List.not_mem_nil, or_false] at letter
    rcases letter with rfl | rfl | rfl <;> rfl
  · rw [Char.isAlphanum, Nat.isDigit_of_mem_toDigits (by decide) (by decide) digit, Bool.or_true]

theorem mem_intercalate {A : Type} {separator : List A} {lists : List (List A)} {item : A}
    (member : item ∈ separator.intercalate lists) :
    item ∈ separator ∨ ∃ list ∈ lists, item ∈ list := by
  induction lists with
  | nil => cases member
  | cons first lists ih =>
      cases lists with
      | nil => exact .inr ⟨first, by simp, by simpa using member⟩
      | cons second lists =>
          rw [List.intercalate_cons_cons, List.mem_append, List.mem_append] at member
          rcases member with (here | between) | there
          · exact .inr ⟨first, by simp, here⟩
          · exact .inl between
          · rcases ih there with between | ⟨list, known, inside⟩
            · exact .inl between
            · exact .inr ⟨list, List.mem_cons_of_mem _ known, inside⟩

/-- The parameters of a proxy method are letters, digits, commas and blanks. -/
theorem mem_parameters {shape : Shape} {c : Char} (member : c ∈ shape.parameters.toList) :
    c.isAlphanum = true ∨ c = ',' ∨ c = ' ' := by
  cases shape with
  | variadic => cases member
  | fixed arity =>
      rw [Shape.parameters, separated, String.toList_intercalate] at member
      rcases mem_intercalate member with comma | ⟨name, known, inside⟩
      · have characters : ", ".toList = [',', ' '] := rfl
        rw [characters] at comma
        exact .inr (by simpa using comma)
      · obtain ⟨text, among, rfl⟩ := List.mem_map.mp known
        obtain ⟨index, -, rfl⟩ := List.mem_map.mp among
        exact .inl (isAlphanum_parameterName inside)

theorem not_mem_parameters (shape : Shape) (c : Char)
    (foreign : c.isAlphanum = false ∧ c ≠ ',' ∧ c ≠ ' ') : c ∉ shape.parameters.toList := by
  obtain ⟨noLetter, noComma, noBlank⟩ := foreign
  intro member
  rcases mem_parameters member with letter | comma | blank
  · rw [letter] at noLetter
    cases noLetter
  · exact noComma comma
  · exact noBlank blank

theorem not_mem_append (c : Char) (first second : String) :
    c ∉ (first ++ second).toList ↔ c ∉ first.toList ∧ c ∉ second.toList := by
  rw [String.toList_append, List.mem_append, not_or]

/-- The arguments that a proxy method passes on have no quotation mark. -/
theorem quote_not_mem_forwarded (shape : Shape) : '"' ∉ shape.forwarded.toList := by
  cases shape with
  | variadic => decide
  | fixed arity =>
      have inner := not_mem_parameters (.fixed arity) '"' (by decide)
      simp only [Shape.forwarded, not_mem_append]
      exact ⟨⟨by decide, inner⟩, by decide⟩

theorem bare_retirePieces (name : String) : ∀ piece ∈ retirePieces name, piece.Bare := by
  simp only [retirePieces, List.forall_mem_cons, Piece.Bare, List.not_mem_nil, false_imp_iff,
    implies_true, and_true, true_and]
  decide

theorem bare_methodPieces (name : String) (method : String × Shape) :
    ∀ piece ∈ methodPieces name method, piece.Bare := by
  have parameters := not_mem_parameters method.2 '"' (by decide)
  have forwarded := quote_not_mem_forwarded method.2
  have opening : '"' ∉ (s!"function({method.2.parameters}) \x7b return {invokeName}(").toList := by
    simp only [not_mem_append]
    exact ⟨⟨⟨⟨by decide, parameters⟩, by decide⟩, by decide⟩, by decide⟩
  have closing : '"' ∉ (s!", {method.2.forwarded}); \x7d").toList := by
    simp only [not_mem_append]
    exact ⟨⟨by decide, forwarded⟩, by decide⟩
  simp only [methodPieces, functionPieces, List.cons_append, List.nil_append,
    List.forall_mem_cons, Piece.Bare, List.not_mem_nil, false_imp_iff, implies_true, and_true,
    true_and]
  exact ⟨by decide, by decide, opening, by decide, closing, by decide⟩

/-- The code of a proxy has no quotation mark outside of its literals. -/
theorem bare_proxyPieces (proxy : Proxy) : ∀ piece ∈ proxy.pieces, piece.Bare := by
  have fixed : (∀ piece ∈ [Piece.code "globalThis[", .literal proxy.name, .code "] = \x7b\n"],
      piece.Bare) ∧ ∀ piece ∈ [Piece.code "\x7d;\n"], piece.Bare := by
    simp only [List.forall_mem_cons, Piece.Bare, List.not_mem_nil, false_imp_iff, implies_true,
      and_true, true_and]
    decide
  intro piece member
  rw [Proxy.pieces, List.mem_append, List.mem_append] at member
  rcases member with (first | inner) | last
  · exact fixed.1 piece first
  · obtain ⟨method, -, inside⟩ := List.mem_flatMap.mp inner
    exact bare_methodPieces proxy.name method piece inside
  · exact fixed.2 piece last

/-- Only literals hold what does not come from the template. -/
theorem bare_submissionPieces (submission : Submission) :
    ∀ piece ∈ submission.pieces, piece.Bare := by
  intro piece member
  rw [Submission.pieces, List.mem_append, List.mem_append, List.mem_append] at member
  rcases member with ((first | removal) | proxy) | last
  · obtain rfl : piece = .code "try \x7b\n" := List.mem_singleton.mp first
    exact (by decide : '"' ∉ "try \x7b\n".toList)
  · obtain ⟨name, -, inside⟩ := List.mem_flatMap.mp removal
    exact bare_retirePieces name piece inside
  · obtain ⟨known, -, inside⟩ := List.mem_flatMap.mp proxy
    exact bare_proxyPieces known piece inside
  · revert piece
    simp only [List.forall_mem_cons, Piece.Bare, List.not_mem_nil, false_imp_iff, implies_true,
      and_true, true_and]
    decide

/-- A composed script is read back as the pieces that it was put together from. -/
theorem Submission.lexemes?_text (submission : Submission) :
    lexemes? submission.text = some (submission.pieces.flatMap Piece.lexemes) :=
  lexemes?_pieceText submission.pieces (bare_submissionPieces submission)

/-- The texts of the literals. -/
def literalsOf (lexemes : List Lexeme) : List String := lexemes.filterMap Lexeme.literal?

/-- What stands outside of the literals, with a gap for each of them. -/
def outlineOf (lexemes : List Lexeme) : List (Option Char) := lexemes.map Lexeme.code?

def Piece.literal? : Piece → Option String
  | .code _ => none
  | .literal text => some text

def Piece.blank : Piece → Piece
  | .code text => .code text
  | .literal _ => .literal ""

/-- The proxy of methods without their names. -/
def Proxy.blank (shapes : List Shape) : Proxy := ⟨"", shapes.map fun shape => ("", shape)⟩

/-- A submission of which all texts are empty. -/
def Submission.blank (retired : Nat) (shapes : List (List Shape)) : Submission where
  retired := List.replicate retired ""
  proxies := shapes.map Proxy.blank
  script := ""
  sentinel := ""

/-- The literals of a text are those of its pieces. -/
theorem literalsOf_lexemes (pieces : List Piece) :
    literalsOf (pieces.flatMap Piece.lexemes) = pieces.filterMap Piece.literal? := by
  induction pieces with
  | nil => rfl
  | cons piece pieces ih =>
      rw [List.flatMap_cons, literalsOf, List.filterMap_append, ← literalsOf, ← literalsOf, ih]
      cases piece with
      | code text =>
          have none : (text.toList.map Lexeme.code).filterMap Lexeme.literal? = [] := by
            rw [List.filterMap_map]
            exact List.filterMap_eq_nil_iff.mpr fun _ _ => rfl
          rw [literalsOf, Piece.lexemes, none]
          rfl
      | literal text => rfl

/-- The texts in the literals do not matter to the rest of the code. -/
theorem outlineOf_blank (pieces : List Piece) :
    outlineOf ((pieces.map Piece.blank).flatMap Piece.lexemes) =
      outlineOf (pieces.flatMap Piece.lexemes) := by
  induction pieces with
  | nil => rfl
  | cons piece pieces ih =>
      rw [List.map_cons, List.flatMap_cons, List.flatMap_cons, outlineOf, outlineOf,
        List.map_append, List.map_append, ← outlineOf, ← outlineOf, ← outlineOf, ih]
      cases piece <;> rfl

/-- The literals of a submission in the order in which they stand. -/
theorem Submission.literals_pieces (submission : Submission) :
    submission.pieces.filterMap Piece.literal? =
      submission.retired ++
        submission.proxies.flatMap (fun proxy =>
          proxy.name :: proxy.methods.flatMap fun method => [method.1, proxy.name, method.1]) ++
        [submission.script, submission.sentinel, submission.sentinel] := by
  have removals : (submission.retired.flatMap retirePieces).filterMap Piece.literal? =
      submission.retired := by
    rw [List.filterMap_flatMap]
    exact List.flatMap_singleton' _
  have proxies (proxy : Proxy) : proxy.pieces.filterMap Piece.literal? =
      proxy.name :: proxy.methods.flatMap fun method => [method.1, proxy.name, method.1] := by
    rw [Proxy.pieces, List.filterMap_append, List.filterMap_append, List.filterMap_flatMap]
    exact List.append_nil _
  rw [Submission.pieces, List.filterMap_append, List.filterMap_append, List.filterMap_append,
    removals, List.filterMap_flatMap]
  simp only [proxies]
  rfl

theorem flatMap_replicate {A B : Type} (items : List A) (blank : A) (list : List B) :
    (items.flatMap fun _ => list) = (List.replicate items.length blank).flatMap fun _ => list := by
  induction items with
  | nil => rfl
  | cons item items ih => rw [List.flatMap_cons, ih]; rfl

/-- Without its literals a proxy shows the shapes of its methods only. -/
theorem Proxy.map_blank (proxy : Proxy) :
    proxy.pieces.map Piece.blank =
      (Proxy.blank (proxy.methods.map Prod.snd)).pieces.map Piece.blank := by
  simp only [Proxy.pieces, Proxy.blank, List.map_append, List.map_flatMap, List.flatMap_map]
  rfl

/-- Pieces without their texts are the pieces of empty texts. -/
theorem Submission.map_blank (submission : Submission) :
    submission.pieces.map Piece.blank =
      (Submission.blank submission.retired.length
        (submission.proxies.map fun proxy => proxy.methods.map Prod.snd)).pieces.map
          Piece.blank := by
  have removals : (submission.retired.flatMap retirePieces).map Piece.blank =
      ((List.replicate submission.retired.length "").flatMap retirePieces).map Piece.blank := by
    rw [List.map_flatMap, List.map_flatMap]
    exact flatMap_replicate _ "" ((retirePieces "").map Piece.blank)
  have proxies : (submission.proxies.flatMap Proxy.pieces).map Piece.blank =
      ((Submission.blank submission.retired.length
        (submission.proxies.map fun proxy => proxy.methods.map Prod.snd)).proxies.flatMap
          Proxy.pieces).map Piece.blank := by
    rw [List.map_flatMap, List.map_flatMap, Submission.blank, List.map_map, List.flatMap_map]
    exact congrArg (submission.proxies.flatMap ·) (funext Proxy.map_blank)
  rw [Submission.pieces, Submission.pieces, List.map_append, List.map_append, List.map_append,
    List.map_append, List.map_append, List.map_append, removals, proxies]
  rfl

/-- What stands outside of the literals of a script is told by the number of the names to remove
and by the shapes of the methods. -/
theorem Submission.outline_text (submission : Submission) :
    outlineOf (submission.pieces.flatMap Piece.lexemes) =
      outlineOf ((Submission.blank submission.retired.length
        (submission.proxies.map fun proxy => proxy.methods.map Prod.snd)).pieces.flatMap
          Piece.lexemes) := by
  rw [← outlineOf_blank, Submission.map_blank, outlineOf_blank]

/-- The names of the methods that scripts see. -/
def HostObject.exposed (object : HostObject) : List String :=
  (((Table.keys object.methods).map MethodKey.name).eraseDups).filter (· ∉ baseCapabilities)

/-- A name with one arity passes on that many arguments and any other name all of them. -/
def HostObject.shapeOf (object : HostObject) (name : String) : Shape :=
  Shape.ofArities (aritiesOf (Table.keys object.methods) name)

theorem Proxy.methods_ofObject (name : String) (object : HostObject) :
    (Proxy.ofObject name object).methods =
      object.exposed.map fun method => (method, object.shapeOf method) := by
  rw [Proxy.ofObject, HostObject.arities_eq, List.filter_map, List.map_map, HostObject.exposed]
  simp [isBaseCapability, HostObject.shapeOf, Function.comp_def]

/-- A composed script has the texts that it was given as its literals, in the order of the
registry, and nothing else in it depends on them. -/
theorem composed_literals (registry : Registry) (retired : List String) (script sentinel : String) :
    (∃ lexemes,
      lexemes? (Submission.text ⟨retired, registry.proxies, script, sentinel⟩) = some lexemes ∧
      literalsOf lexemes =
        retired ++
          registry.flatMap (fun entry => entry.1 ::
            entry.2.object.exposed.flatMap fun method => [method, entry.1, method]) ++
          [script, sentinel, sentinel] ∧
      outlineOf lexemes =
        outlineOf ((Submission.blank retired.length (registry.map fun entry =>
          entry.2.object.exposed.map entry.2.object.shapeOf)).pieces.flatMap Piece.lexemes)) ∧
    (∀ (text : String) (rest : List Char),
      readLiteral? ((Text.quote text).toList ++ rest) = some (text, rest)) ∧
    ∀ (mode : Script.Mode) (text : String) (rest : List Char) (offset line : Nat),
      let written := (Text.quote text).toList
      Script.Cursor.readToken mode (written ++ rest).length ⟨written ++ rest, offset, line⟩ =
        .ok (.text (Text.units text), ⟨rest, offset + written.length, line⟩) := by
  refine ⟨⟨_, Submission.lexemes?_text _, ?_, ?_⟩, readLiteral?_quote, ?_⟩
  · rw [literalsOf_lexemes, Submission.literals_pieces, Registry.proxies, List.flatMap_map]
    simp only [Proxy.methods_ofObject, List.flatMap_map]
    rfl
  · rw [Submission.outline_text, Registry.proxies, List.map_map]
    simp only [Function.comp_def, Proxy.methods_ofObject, List.map_map]
  · intro mode text rest offset line written
    have enough : text.length < (written ++ rest).length := by
      have grown := Text.Quoted.length_le text.toList
      simp only [written, Text.quote, Text.Quoted.encode, String.toList_ofList, List.length_append,
        List.length_cons, String.length_toList] at grown ⊢
      omega
    rw [Script.Cursor.readToken_quote mode text rest _ enough _ rfl]
    simp [Script.Cursor.advance, written]

end HostBridge
