/-
This file defines what can be wrong with the text of a script.
-/

namespace HostBridge.Script

/-- The reason why a text is no script. -/
inductive Flaw where
  /-- This token has to stand here. -/
  | expecting (text : String)
  /-- A keyword has to stand here. The message does not show which one. -/
  | expectingKeyword
  /-- No expression begins with this token. -/
  | unexpected (text : String)
  | strangeCharacter
  | badNumber
  | oldOctal
  | openText
  | badEscape
  | octalEscape
  | openComment
  | openPattern
  | brokenPattern
  | badPattern (message : String)
  | openTemplate
  | templateInChain
  | tooDeep
  /-- Nothing can be assigned to the expression. -/
  | noTarget
  | noLoopTarget
  | noCounter
  | noPatternTarget
  | lastRestMember
  | lastRestItem
  | restDefault
  | looseBrackets
  | strangePattern
  /-- A strict script assigns nothing to the name. -/
  | strictTarget
  | strictRemoval
  | signedPower
  | mixedFallback
  | badMember
  | noMember
  | twoPrototypes
  | reservedName (name : String)
  | noName
  | noTargetOfNew
  | looseTargetOfNew
  | namelessClass
  | namelessFunction
  | namelessVariable
  | badMethod
  | badField
  | twoMakers
  | accessorArity
  | noParameter
  | twoParameters
  | twoPlainParameters
  | strictParameter
  | strictFunctionName
  | strictVariable
  | strictBody
  | lexicalLet
  | badLexical
  | secondLexical
  | secondParameter
  | secondVariable
  | secondGlobal
  | noInitializer
  | loopInitializer (word : String)
  | noLoopWord
  | lonelyDeclaration
  | lonelyFunction
  | lonelyClass
  | brokenThrow
  | noHandler
  | strayCase
  | twoDefaults
  | twoLabels
  | noLabel
  | looseAwait
  | awaitLoop
  | looseReturn
  | looseBreak
  | looseContinue
  | looseSuper
  | looseParent
  | badSuper
  | badImport
  | noMeta
  | looseMeta
  | looseYield
  | strictWith
  | strangePrivate
  | unknownPrivate (name : String)
  | unsupported (keyword : String)
deriving DecidableEq

def Flaw.message : Flaw → String
  | .expecting text => s!"expecting '{text}'"
  | .expectingKeyword => "expecting '\uFFFD"
  | .unexpected text => s!"unexpected token in expression: '{text}'"
  | .strangeCharacter => "unexpected character"
  | .badNumber => "invalid number literal"
  | .oldOctal => "octal literals are deprecated in strict mode"
  | .openText => "unexpected end of string"
  | .badEscape => "malformed escape sequence in string literal"
  | .octalEscape => "octal escape sequences are not allowed in strict mode"
  | .openComment => "unexpected end of comment"
  | .openPattern => "unexpected end of regexp"
  | .brokenPattern => "unexpected line terminator in regexp"
  | .badPattern message => message
  | .openTemplate => "expected '\x7d' after template expression"
  | .templateInChain => "template literal cannot appear in an optional chain"
  | .tooDeep => "stack overflow"
  | .noTarget => "invalid assignment left-hand side"
  | .noLoopTarget => "invalid for in/of left hand-side"
  | .noCounter => "invalid increment/decrement operand"
  | .noPatternTarget => "invalid destructuring target"
  | .lastRestMember => "assignment rest property must be last"
  | .lastRestItem => "rest element must be the last one"
  | .restDefault => "rest element cannot have a default value"
  | .looseBrackets => "too complicated destructuring expression"
  | .strangePattern => "invalid assignment syntax"
  | .strictTarget => "invalid lvalue in strict mode"
  | .strictRemoval => "cannot delete a direct reference in strict mode"
  | .signedPower =>
      "unparenthesized unary expression can't appear on the left-hand side of '**'"
  | .mixedFallback => "cannot mix ?? with && or ||"
  | .badMember => "invalid property name"
  | .noMember => "expecting field name"
  | .twoPrototypes => "duplicate __proto__ property name"
  | .reservedName name => s!"'{name}' is a reserved identifier"
  | .noName => "identifier expected"
  | .noTargetOfNew => "expecting target"
  | .looseTargetOfNew => "new.target only allowed within functions"
  | .namelessClass => "class statement requires a name"
  | .namelessFunction => "function name expected"
  | .namelessVariable => "variable name expected"
  | .badMethod => "invalid method name"
  | .badField => "invalid field name"
  | .twoMakers => "property constructor appears more than once"
  | .accessorArity => "invalid number of arguments for getter or setter"
  | .noParameter => "missing formal parameter"
  | .twoParameters => "duplicate parameter names not allowed in this context"
  | .twoPlainParameters => "duplicate argument names not allowed in this context"
  | .strictParameter => "invalid argument name in strict code"
  | .strictFunctionName => "invalid function name in strict code"
  | .strictVariable => "invalid variable name in strict mode"
  | .strictBody => "\"use strict\" not allowed in function with default or destructuring parameter"
  | .lexicalLet => "'let' is not a valid lexical identifier"
  | .badLexical => "invalid lexical variable name"
  | .secondLexical => "invalid redefinition of lexical identifier"
  | .secondParameter => "invalid redefinition of parameter name"
  | .secondVariable => "invalid redefinition of a variable"
  | .secondGlobal => "invalid redefinition of global identifier"
  | .noInitializer => "missing initializer for const variable"
  | .loopInitializer word =>
      s!"a declaration in the head of a for-{word} loop can't have an initializer"
  | .noLoopWord => "expected 'of' or 'in' in for control expression"
  | .lonelyDeclaration => "lexical declarations can't appear in single-statement context"
  | .lonelyFunction => "function declarations can't appear in single-statement context"
  | .lonelyClass => "class declarations can't appear in single-statement context"
  | .brokenThrow => "line terminator not allowed after throw"
  | .noHandler => "expecting catch or finally"
  | .strayCase => "invalid switch statement"
  | .twoDefaults => "duplicate default"
  | .twoLabels => "duplicate label name"
  | .noLabel => "break/continue label not found"
  | .looseAwait => "unexpected 'await' keyword"
  | .awaitLoop => "for await is only valid in asynchronous functions"
  | .looseReturn => "return not in a function"
  | .looseBreak => "break must be inside loop or switch"
  | .looseContinue => "continue must be inside loop"
  | .looseSuper => "'super' is only valid in a method"
  | .looseParent => "super() is only valid in a derived class constructor"
  | .badSuper => "invalid use of 'super'"
  | .badImport => "invalid use of 'import()'"
  | .noMeta => "meta expected"
  | .looseMeta => "import.meta only valid in module code"
  | .looseYield => "unexpected 'yield' keyword"
  | .strictWith => "invalid keyword: with"
  | .strangePrivate => "invalid first character of private name"
  | .unknownPrivate name => s!"undefined private field '{name}'"
  | .unsupported keyword => s!"unsupported keyword: {keyword}"

/-- A flaw is found on a line. -/
structure Complaint where
  flaw : Flaw
  line : Nat

end HostBridge.Script
