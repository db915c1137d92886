/-
This file reads from a composed script which proxies it removes and installs.
-/
import HostBridge.Proofs.Composition
import HostBridge.Proofs.History

namespace HostBridge

/-- The arguments that a function of a proxy passes on. -/
inductive Passed where
  | named (names : List (List Char))
  | everything
deriving DecidableEq

/-- A function of a proxy as a script holds it. -/
structure ProxyFunction where
  parameters : List (List Char)
  object : String
  method : String
  passed : Passed
deriving DecidableEq

abbrev ProxyTable := Table String ProxyFunction

/-- What a script does with a global name before its own code begins: it deletes the name or puts
a proxy in its place. -/
abbrev Directive := Change ProxyTable

section Reading

def takeCode? : List Char → List Lexeme → Option (List Lexeme)
  | [], lexemes => some lexemes
  | c :: code, .code d :: lexemes => if c = d then takeCode? code lexemes else none
  | _ :: _, _ => none

def takeLiteral? : List Lexeme → Option (String × List Lexeme)
  | .literal text :: lexemes => some (text, lexemes)
  | _ => none

/-- The code before the first character of a kind. -/
def takeUntil (stop : Char) : List Lexeme → List Char × List Lexeme
  | .code c :: lexemes =>
      if c = stop then ([], .code c :: lexemes)
      else
        let (code, rest) := takeUntil stop lexemes
        (c :: code, rest)
  | lexemes => ([], lexemes)

/-- Names stand between commas. -/
def readNames (code : List Char) : List (List Char) :=
  ((code.filter (· ≠ ' ')).splitOn ',').filter (· ≠ [])

def readPassed? (lexemes : List Lexeme) : Option (Passed × List Lexeme) :=
  match takeCode? "[".toList lexemes with
  | some rest =>
      let (names, rest) := takeUntil ']' rest
      (takeCode? "]".toList rest).map fun rest => (.named (readNames names), rest)
  | none =>
      (takeCode? "Array.prototype.slice.call(arguments)".toList lexemes).map
        fun rest => (.everything, rest)

def readFunction? (lexemes : List Lexeme) : Option (ProxyFunction × List Lexeme) := do
  let rest ← takeCode? "function(".toList lexemes
  let (parameters, rest) := takeUntil ')' rest
  let rest ← takeCode? ") \x7b return __bridgeInvoke(".toList rest
  let (object, rest) ← takeLiteral? rest
  let rest ← takeCode? ", ".toList rest
  let (method, rest) ← takeLiteral? rest
  let rest ← takeCode? ", ".toList rest
  let (passed, rest) ← readPassed? rest
  let rest ← takeCode? "); \x7d".toList rest
  return (⟨readNames parameters, object, method, passed⟩, rest)

/-- The first argument bounds the number of members. -/
def readMembers? : Nat → List Lexeme → Option (ProxyTable × List Lexeme)
  | 0, _ => none
  | bound + 1, lexemes =>
      match takeCode? "\x7d;\n".toList lexemes with
      | some rest => some ([], rest)
      | none => do
          let rest ← takeCode? "  ".toList lexemes
          let (method, rest) ← takeLiteral? rest
          let rest ← takeCode? ": ".toList rest
          let (function, rest) ← readFunction? rest
          let rest ← takeCode? ",\n".toList rest
          let (members, rest) ← readMembers? bound rest
          return ((method, function) :: members, rest)

def readDirective? (lexemes : List Lexeme) : Option (Directive × List Lexeme) :=
  match takeCode? "delete globalThis[".toList lexemes with
  | some rest => do
      let (name, rest) ← takeLiteral? rest
      let rest ← takeCode? "];\n".toList rest
      return (.unbind name, rest)
  | none => do
      let rest ← takeCode? "globalThis[".toList lexemes
      let (name, rest) ← takeLiteral? rest
      let rest ← takeCode? "] = \x7b\n".toList rest
      let (table, rest) ← readMembers? rest.length rest
      return (.bind name table, rest)

/-- The first argument bounds the number of directives. -/
def readDirectives : Nat → List Lexeme → List Directive × List Lexeme
  | 0, lexemes => ([], lexemes)
  | bound + 1, lexemes =>
      match readDirective? lexemes with
      | some (directive, rest) =>
          let (directives, rest) := readDirectives bound rest
          (directive :: directives, rest)
      | none => ([], lexemes)

/-- The name and the members of a proxy that stands alone. -/
def readProxy? (text : String) : Option (String × ProxyTable) := do
  match readDirective? (← lexemes? text) with
  | some (.bind name table, []) => return (name, table)
  | _ => none

/-- The directives of a composed script and the script that it evaluates behind them. -/
def readComposed? (text : String) : Option (List Directive × String) := do
  let lexemes ← lexemes? text
  let rest ← takeCode? "try \x7b\n".toList lexemes
  let (directives, rest) := readDirectives rest.length rest
  let rest ← takeCode? "var __json = JSON.stringify((0, eval)(".toList rest
  let (script, _) ← takeLiteral? rest
  return (directives, script)

end Reading

/-- The names of the parameters that a method has. -/
def Shape.names : Shape → List (List Char)
  | .fixed arity => (List.range arity).map fun index => (s!"arg{index}").toList
  | .variadic => []

def ProxyFunction.ofShape (object method : String) (shape : Shape) : ProxyFunction where
  parameters := shape.names
  object := object
  method := method
  passed :=
    match shape with
    | .fixed _ => .named shape.names
    | .variadic => .everything

/-- The table that a proxy is read back as. -/
def Proxy.table (proxy : Proxy) : ProxyTable :=
  proxy.methods.map fun method =>
    (method.1, ProxyFunction.ofShape proxy.name method.1 method.2)

def codeOf (code : List Char) : List Lexeme := code.map .code

@[simp] theorem takeCode?_codeOf (code : List Char) (rest : List Lexeme) :
    takeCode? code (codeOf code ++ rest) = some rest := by
  induction code with
  | nil => rfl
  | cons c code ih => simpa [takeCode?, codeOf] using ih

/-- Code that begins in another way is not taken. -/
theorem takeCode?_different (code other : List Char) (rest : List Lexeme) (c d : Char)
    (starts : code.head? = some c) (begins : other.head? = some d) (different : c ≠ d) :
    takeCode? code (codeOf other ++ rest) = none := by
  obtain ⟨code, rfl⟩ := List.head?_eq_some_iff.mp starts
  obtain ⟨other, rfl⟩ := List.head?_eq_some_iff.mp begins
  simp [takeCode?, codeOf, different]

/-- Code is taken up to the character where it is to stop. -/
theorem takeUntil_codeOf (stop : Char) (code next : List Char) (rest : List Lexeme)
    (free : stop ∉ code) (begins : next.head? = some stop) :
    takeUntil stop (codeOf code ++ (codeOf next ++ rest)) = (code, codeOf next ++ rest) := by
  induction code with
  | nil =>
      obtain ⟨next, rfl⟩ := List.head?_eq_some_iff.mp begins
      simp [takeUntil, codeOf]
  | cons c code ih =>
      obtain ⟨different, free⟩ := List.ne_and_not_mem_of_not_mem_cons free
      have read := ih free
      simp only [codeOf] at read
      simp [codeOf, takeUntil, Ne.symm different, read]

theorem filter_intercalate (lists : List (List Char)) (solid : ∀ list ∈ lists, ' ' ∉ list) :
    ([',', ' '].intercalate lists).filter (· ≠ ' ') = [','].intercalate lists := by
  induction lists with
  | nil => rfl
  | cons first lists ih =>
      obtain ⟨head, others⟩ := List.forall_mem_cons.mp solid
      have kept : first.filter (· ≠ ' ') = first := by
        rw [List.filter_eq_self]
        intro c member
        exact decide_eq_true fun same => head (same ▸ member)
      cases lists with
      | nil => simpa using kept
      | cons second lists =>
          rw [List.intercalate_cons_cons, List.intercalate_cons_cons, List.filter_append,
            List.filter_append, kept, ih others]
          rfl

/-- The names of parameters are read back from the text of the parameters. -/
theorem readNames_parameters (shape : Shape) : readNames shape.parameters.toList = shape.names := by
  cases shape with
  | variadic => rfl
  | fixed arity =>
      have letters : ∀ name ∈ (Shape.fixed arity).names, ∀ c ∈ name, c.isAlphanum = true := by
        intro name member c inside
        obtain ⟨index, -, rfl⟩ := List.mem_map.mp member
        exact isAlphanum_parameterName inside
      have without (c : Char) (other : c.isAlphanum = false) :
          ∀ name ∈ (Shape.fixed arity).names, c ∉ name := by
        intro name member inside
        rw [letters name member c inside] at other
        cases other
      have filled : (Shape.fixed arity).names.filter (· ≠ []) = (Shape.fixed arity).names := by
        rw [List.filter_eq_self]
        intro name member
        obtain ⟨index, -, rfl⟩ := List.mem_map.mp member
        simp
      have text : (Shape.fixed arity).parameters.toList =
          [',', ' '].intercalate (Shape.fixed arity).names := by
        rw [Shape.parameters, separated, String.toList_intercalate, List.map_map]
        rfl
      rw [readNames, text, filter_intercalate _ (without ' ' (by decide))]
      by_cases empty : (Shape.fixed arity).names = []
      · rw [empty]
        rfl
      · rw [List.splitOn_intercalate ',' (without ',' (by decide)) empty, filled]

/-- The arguments that a proxy method passes on are read back. -/
theorem readPassed?_forwarded (shape : Shape) (rest : List Lexeme) (object method : String) :
    readPassed? (codeOf shape.forwarded.toList ++ rest) =
      some ((ProxyFunction.ofShape object method shape).passed, rest) := by
  cases shape with
  | variadic =>
      have other : takeCode? "[".toList
          (codeOf "Array.prototype.slice.call(arguments)".toList ++ rest) = none :=
        takeCode?_different _ _ _ '[' 'A' rfl rfl (by decide)
      rw [Shape.forwarded, readPassed?, other]
      simp [ProxyFunction.ofShape]
  | fixed arity =>
      have stop := takeUntil_codeOf ']' (Shape.fixed arity).parameters.toList "]".toList rest
        (not_mem_parameters _ ']' (by decide)) rfl
      have split : codeOf (Shape.fixed arity).forwarded.toList ++ rest =
          codeOf "[".toList ++ (codeOf (Shape.fixed arity).parameters.toList ++
            (codeOf "]".toList ++ rest)) := by
        simp only [Shape.forwarded, String.toList_append, codeOf, List.map_append,
          List.append_assoc]
        rfl
      rw [split, readPassed?, takeCode?_codeOf]
      simp only [stop, takeCode?_codeOf, Option.map_some, readNames_parameters]
      rfl

/-- The function of a proxy method is read back. -/
theorem readFunction?_functionPieces (object method : String) (shape : Shape)
    (rest : List Lexeme) :
    readFunction? ((functionPieces object (method, shape)).flatMap Piece.lexemes ++ rest) =
      some (ProxyFunction.ofShape object method shape, rest) := by
  have stop (rest : List Lexeme) := takeUntil_codeOf ')' shape.parameters.toList
    ") \x7b return __bridgeInvoke(".toList rest (not_mem_parameters shape ')' (by decide)) rfl
  have split : (functionPieces object (method, shape)).flatMap Piece.lexemes ++ rest =
      codeOf "function(".toList ++ (codeOf shape.parameters.toList ++
        (codeOf ") \x7b return __bridgeInvoke(".toList ++ (.literal object ::
          (codeOf ", ".toList ++ (.literal method :: (codeOf ", ".toList ++
            (codeOf shape.forwarded.toList ++ (codeOf "); \x7d".toList ++ rest)))))))) := by
    simp only [functionPieces, List.flatMap_cons, List.flatMap_nil, Piece.lexemes, codeOf,
      String.toList_append, List.map_append, List.append_assoc, List.cons_append, List.nil_append]
    rfl
  rw [split, readFunction?]
  simp only [takeCode?_codeOf, stop, takeLiteral?, Option.bind_eq_bind, Option.bind_some,
    readPassed?_forwarded shape _ object method, readNames_parameters]
  rfl

/-- The members of a proxy are read one after the other. -/
theorem readMembers?_methods (name : String) (methods : List (String × Shape))
    (rest : List Lexeme) (bound : Nat) (enough : methods.length < bound) :
    readMembers? bound ((methods.flatMap (methodPieces name)).flatMap Piece.lexemes ++
        (codeOf "\x7d;\n".toList ++ rest)) =
      some (methods.map fun method => (method.1, ProxyFunction.ofShape name method.1 method.2),
        rest) := by
  induction methods generalizing bound with
  | nil =>
      obtain ⟨bound, rfl⟩ := Nat.exists_eq_succ_of_ne_zero (Nat.ne_zero_of_lt enough)
      rw [List.flatMap_nil, List.flatMap_nil, List.nil_append, readMembers?, takeCode?_codeOf]
      rfl
  | cons method methods ih =>
      obtain ⟨bound, rfl⟩ := Nat.exists_eq_succ_of_ne_zero (Nat.ne_zero_of_lt enough)
      have split : ((method :: methods).flatMap (methodPieces name)).flatMap Piece.lexemes ++
            (codeOf "\x7d;\n".toList ++ rest) =
          codeOf "  ".toList ++ (.literal method.1 :: (codeOf ": ".toList ++
            ((functionPieces name method).flatMap Piece.lexemes ++ (codeOf ",\n".toList ++
              ((methods.flatMap (methodPieces name)).flatMap Piece.lexemes ++
                (codeOf "\x7d;\n".toList ++ rest)))))) := by
        simp only [methodPieces, List.flatMap_cons, List.flatMap_append, Piece.lexemes,
          List.append_assoc, List.cons_append, List.nil_append]
        rfl
      have opens (others : List Lexeme) :
          takeCode? "\x7d;\n".toList (codeOf "  ".toList ++ others) = none :=
        takeCode?_different _ _ _ '\x7d' ' ' rfl rfl (by decide)
      rw [split, readMembers?, opens]
      simp only [takeCode?_codeOf, takeLiteral?, Option.bind_eq_bind, Option.bind_some,
        readFunction?_functionPieces name method.1 method.2,
        ih bound (Nat.lt_of_succ_lt_succ enough)]
      rfl

/-- The removal of a proxy is read back. -/
theorem readDirective?_retirePieces (name : String) (rest : List Lexeme) :
    readDirective? ((retirePieces name).flatMap Piece.lexemes ++ rest) =
      some (.unbind name, rest) := by
  have split : (retirePieces name).flatMap Piece.lexemes ++ rest =
      codeOf "delete globalThis[".toList ++ (.literal name :: (codeOf "];\n".toList ++ rest)) := by
    simp only [retirePieces, List.flatMap_cons, List.flatMap_nil, Piece.lexemes,
      List.append_assoc, List.cons_append, List.nil_append]
    rfl
  rw [split, readDirective?, takeCode?_codeOf]
  simp only [takeLiteral?, takeCode?_codeOf, Option.bind_eq_bind, Option.bind_some]
  rfl

/-- A proxy is read back with its table. -/
theorem readDirective?_proxyPieces (proxy : Proxy) (rest : List Lexeme) :
    readDirective? (proxy.pieces.flatMap Piece.lexemes ++ rest) =
      some (.bind proxy.name proxy.table, rest) := by
  have split : proxy.pieces.flatMap Piece.lexemes ++ rest =
      codeOf "globalThis[".toList ++ (.literal proxy.name :: (codeOf "] = \x7b\n".toList ++
        ((proxy.methods.flatMap (methodPieces proxy.name)).flatMap Piece.lexemes ++
          (codeOf "\x7d;\n".toList ++ rest)))) := by
    simp only [Proxy.pieces, List.flatMap_cons, List.flatMap_append, List.flatMap_nil,
      Piece.lexemes, List.append_assoc, List.cons_append, List.nil_append]
    rfl
  have other (others : List Lexeme) : takeCode? "delete globalThis[".toList
      (codeOf "globalThis[".toList ++ others) = none :=
    takeCode?_different _ _ _ 'd' 'g' rfl rfl (by decide)
  have enough : proxy.methods.length <
      ((proxy.methods.flatMap (methodPieces proxy.name)).flatMap Piece.lexemes ++
        (codeOf "\x7d;\n".toList ++ rest)).length := by
    have used := length_le_flatMap (fun method => (methodPieces proxy.name method).flatMap
      Piece.lexemes) proxy.methods (by simp [methodPieces, Piece.lexemes])
    rw [← List.flatMap_assoc] at used
    have ending : (codeOf "\x7d;\n".toList).length = 3 := rfl
    rw [List.length_append, List.length_append, ending]
    omega
  rw [split, readDirective?, other]
  simp only [takeLiteral?, takeCode?_codeOf, Option.bind_eq_bind, Option.bind_some,
    readMembers?_methods proxy.name proxy.methods rest _ enough]
  rfl

/-- The text of a proxy is read back as its table. -/
theorem Proxy.readProxy?_text (proxy : Proxy) :
    readProxy? proxy.text = some (proxy.name, proxy.table) := by
  have read := readDirective?_proxyPieces proxy []
  rw [List.append_nil] at read
  rw [readProxy?, Proxy.text, lexemes?_pieceText proxy.pieces (bare_proxyPieces proxy)]
  simp only [Option.bind_eq_bind, Option.bind_some, read]
  rfl

/-- Directives that are read one by one are read in a row. -/
theorem readDirectives_blocks (blocks : List (Directive × List Lexeme))
    (read : ∀ block ∈ blocks, ∀ rest, readDirective? (block.2 ++ rest) = some (block.1, rest))
    (tail : List Lexeme) (ending : readDirective? tail = none) (bound : Nat)
    (enough : blocks.length ≤ bound) :
    readDirectives bound (blocks.flatMap Prod.snd ++ tail) = (blocks.map Prod.fst, tail) := by
  induction blocks generalizing bound with
  | nil => cases bound <;> simp [readDirectives, ending]
  | cons block blocks ih =>
      obtain ⟨first, others⟩ := List.forall_mem_cons.mp read
      obtain ⟨bound, rfl⟩ := Nat.exists_eq_succ_of_ne_zero (Nat.ne_zero_of_lt enough)
      rw [List.flatMap_cons, List.append_assoc, readDirectives, first]
      simp only [ih others bound (Nat.le_of_succ_le_succ enough)]
      rfl

/-- What a submission does before its script runs. -/
def Submission.directives (submission : Submission) : List Directive :=
  submission.retired.map .unbind ++
    submission.proxies.map fun proxy => .bind proxy.name proxy.table

/-- The directives with what stands for them in the script. -/
def Submission.blocks (submission : Submission) : List (Directive × List Lexeme) :=
  submission.retired.map (fun name => (.unbind name, (retirePieces name).flatMap Piece.lexemes)) ++
    submission.proxies.map fun proxy =>
      (.bind proxy.name proxy.table, proxy.pieces.flatMap Piece.lexemes)

/-- The blocks of a submission are those of its directives. -/
theorem Submission.blocks_directives (submission : Submission) :
    submission.blocks.map Prod.fst = submission.directives := by
  simp only [blocks, directives, List.map_append, List.map_map]
  rfl

/-- A block removes a proxy or installs one. -/
theorem Submission.mem_blocks {submission : Submission} {block : Directive × List Lexeme}
    (member : block ∈ submission.blocks) :
    (∃ name, block = (.unbind name, (retirePieces name).flatMap Piece.lexemes)) ∨
      ∃ proxy : Proxy,
        block = (.bind proxy.name proxy.table, proxy.pieces.flatMap Piece.lexemes) := by
  rcases List.mem_append.mp member with removal | installation
  · obtain ⟨name, -, same⟩ := List.mem_map.mp removal
    exact .inl ⟨name, same.symm⟩
  · obtain ⟨proxy, -, same⟩ := List.mem_map.mp installation
    exact .inr ⟨proxy, same.symm⟩

/-- Every block is read back as its directive. -/
theorem Submission.readDirective?_blocks (submission : Submission) :
    ∀ block ∈ submission.blocks, ∀ rest,
      readDirective? (block.2 ++ rest) = some (block.1, rest) := by
  intro block member rest
  rcases mem_blocks member with ⟨name, rfl⟩ | ⟨proxy, rfl⟩
  · exact readDirective?_retirePieces name rest
  · exact readDirective?_proxyPieces proxy rest

theorem Submission.length_blocks_le (submission : Submission) :
    submission.blocks.length ≤ (submission.blocks.flatMap Prod.snd).length := by
  apply length_le_flatMap
  intro block member
  rcases mem_blocks member with ⟨name, rfl⟩ | ⟨proxy, rfl⟩
  · simp [retirePieces, Piece.lexemes]
  · simp [Proxy.pieces, Piece.lexemes]

/-- Behind the directives, a script evaluates the text that was submitted. -/
theorem Submission.lexemes_split (submission : Submission) :
    ∃ ending, submission.pieces.flatMap Piece.lexemes =
      codeOf "try \x7b\n".toList ++ (submission.blocks.flatMap Prod.snd ++
        (codeOf "var __json = JSON.stringify((0, eval)(".toList ++
          .literal submission.script :: ending)) := by
  let ending : List Piece := [.code s!"));\n{emitName}(", .literal submission.sentinel,
    .code s!" + (__json === undefined ? 'null' : __json));\n\x7d catch (e) \x7b\n{emitName}(",
    .literal submission.sentinel, .code (" + JSON.stringify(\x7b error: " ++
      "String(e && e.message !== undefined ? e.message : e) \x7d));\n\x7d\n")]
  refine ⟨ending.flatMap Piece.lexemes, ?_⟩
  simp only [pieces, List.flatMap_cons, List.flatMap_append, List.append_assoc, blocks,
    List.flatMap_map, List.flatMap_assoc]
  rfl

/-- A composed script is read back as its directives and the script that was submitted. -/
theorem Submission.readComposed?_text (submission : Submission) :
    readComposed? submission.text = some (submission.directives, submission.script) := by
  obtain ⟨ending, split⟩ := submission.lexemes_split
  have stops : readDirective? (codeOf "var __json = JSON.stringify((0, eval)(".toList ++
      .literal submission.script :: ending) = none := by
    have noRemoval := takeCode?_different "delete globalThis[".toList _
      (.literal submission.script :: ending) 'd' 'v' rfl
      (rfl : "var __json = JSON.stringify((0, eval)(".toList.head? = some 'v') (by decide)
    have noProxy := takeCode?_different "globalThis[".toList _
      (.literal submission.script :: ending) 'g' 'v' rfl
      (rfl : "var __json = JSON.stringify((0, eval)(".toList.head? = some 'v') (by decide)
    rw [readDirective?, noRemoval, noProxy]
    rfl
  have read (bound : Nat) (enough : submission.blocks.length ≤ bound) :=
    readDirectives_blocks submission.blocks submission.readDirective?_blocks _ stops bound enough
  rw [readComposed?, Submission.lexemes?_text, split]
  simp only [Option.bind_eq_bind, Option.bind_some, takeCode?_codeOf]
  rw [read _ (by
    rw [List.length_append]
    exact Nat.le_add_right_of_le submission.length_blocks_le)]
  simp only [takeCode?_codeOf, submission.blocks_directives, Option.bind_some]
  rfl

end HostBridge
