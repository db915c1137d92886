/-
This file shows which evaluations are told as failures of their scripts.
-/
import HostBridge.Proofs.Decoding
import HostBridge.Proofs.Program
import HostBridge.Proofs.Thrown

namespace HostBridge

variable {State : Type}

/-- How a script ends: it completes with a value that is written so, it throws an error whose
message has these code units, or the engine gives it up. -/
inductive Ending where
  | completed (written : String)
  | threw (message : List UInt16)
  | rejected (error : EngineError)

/-- What there is to see of an ending: the line of the result or the error of the engine. -/
inductive Evaluation.Shows (engine : Engine State) (evaluation : Evaluation State) : Ending → Prop where
  | completed (written : String) : evaluation.answer.error = none →
      Carries (engine.output evaluation.answer.state) evaluation.sentinel written →
      evaluation.Shows engine (.completed written)
  | threw (message : List UInt16) : evaluation.answer.error = none →
      Carries (engine.output evaluation.answer.state) evaluation.sentinel (thrownText message) →
      evaluation.Shows engine (.threw message)
  | rejected (error : EngineError) : evaluation.answer.error = some error →
      evaluation.Shows engine (.rejected error)

/-- The endings that are told as failures, with their messages. A value that looks like a thrown
error is among them. -/
inductive Ending.Tells : Ending → String → Prop where
  | threw (units : List UInt16) (message : String) : Text.textOfUnits units = .ok message →
      Tells (.threw units) message
  | rejected (error : EngineError) :
      Tells (.rejected error) ("JavaScript execution failed: " ++ error.message)
  | disguised (written : String) (members : Members) (message : String) :
      Json.ofText written = .ok (.object members) →
      members.lookup? "error" = some (.string message) → Tells (.completed written) message

/-- The evaluation has a value and this is an error result. -/
def Told (result : Except EvaluationError Translated) (message : String) : Prop :=
  ∃ value, result = .ok value ∧ value.errorMessage? = some message

section Results

theorem Translated.ofItems_ne_object (items : List Json) (members : Members) :
    Translated.ofItems items ≠ .object members := by
  have typed {A : Type} (items : Option (List A)) (make : List A → Translated)
      (other : ∀ items, make items ≠ .object members) (fallback : List Json) :
      (items.map make).getD (.array fallback) ≠ .object members := by
    cases items with
    | none => simp
    | some items => exact other items
  unfold ofItems
  simp only
  split
  · simp
  · exact typed _ _ (by simp) _
  · exact typed _ _ (by simp) _
  · exact typed _ _ (by simp) _
  · simp

/-- Only objects are translated to objects, and they are kept as they are. -/
theorem Translated.ofJson_eq_object_iff (value : Json) (members : Members) :
    Translated.ofJson value = .object members ↔ value = .object members := by
  cases value with
  | number value =>
      simp only [ofJson, ofNumber]
      split
      · simp
      · split <;> simp
  | array items => simp [ofJson, ofItems_ne_object]
  | _ => simp [ofJson]

/-- A value has an error message when it is an object whose error is a string. -/
theorem Translated.errorMessage?_eq_some_iff (value : Json) (message : String) :
    (Translated.ofJson value).errorMessage? = some message ↔
      ∃ members : Members, value = .object members ∧
        members.lookup? "error" = some (.string message) := by
  constructor
  · intro told
    obtain ⟨members, object, found⟩ := Option.bind_eq_some_iff.mp told
    obtain ⟨error, known, text⟩ := Option.bind_eq_some_iff.mp found
    have same : Translated.ofJson value = .object members := by
      generalize Translated.ofJson value = translated at object
      cases translated with
      | object => exact congrArg Translated.object (Option.some.inj object)
      | _ => cases object
    refine ⟨members, (ofJson_eq_object_iff value members).mp same, ?_⟩
    cases error with
    | string error => exact known.trans (congrArg (some ∘ Json.string) (Option.some.inj text))
    | _ => cases text
  · rintro ⟨members, rfl, found⟩
    simp [ofJson, errorMessage?, object?, found, Json.string?]

theorem told_ok_iff (value : Json) (message : String) :
    Told (.ok (Translated.ofJson value)) message ↔ ∃ members : Members, value = .object members ∧
      members.lookup? "error" = some (.string message) := by
  rw [← Translated.errorMessage?_eq_some_iff]
  constructor
  · rintro ⟨_, same, told⟩
    exact Except.ok.inj same ▸ told
  · exact fun told => ⟨_, rfl, told⟩

/-- A result without a value tells no failure. -/
theorem not_told_error (error : EvaluationError) (message : String) :
    ¬ Told (.error error) message := by
  rintro ⟨_, same, -⟩
  cases same

section Payloads

variable {output sentinel shown : String} (solid : Solid sentinel)
  (carries : Carries output sentinel shown)

include solid carries

/-- A payload that is decoded makes the result. -/
theorem scrape_decoded {read : Json} (decoded : Json.ofText shown = .ok read) :
    (scrape output sentinel).2 = .ok (Translated.ofJson read) := by
  have filled : shown ≠ "" := by
    rintro rfl
    cases decoded
  rw [scrape, resultValue_carries solid carries, if_neg filled, decoded]
  rfl

/-- A payload that is not decoded is malformed. -/
theorem scrape_refused (filled : shown ≠ "") {fault : Json.Fault}
    (refused : Json.ofText shown = .error fault) :
    (scrape output sentinel).2 = .error (.malformedResult shown fault) := by
  rw [scrape, resultValue_carries solid carries, if_neg filled, refused]
  rfl

theorem exists_scrape_error (refused : ∀ read, Json.ofText shown ≠ .ok read) :
    ∃ error, (scrape output sentinel).2 = .error error := by
  by_cases empty : shown = ""
  · rw [scrape, resultValue_carries solid carries, if_pos empty]
    exact ⟨_, rfl⟩
  · cases decoded : Json.ofText shown with
    | ok read => exact absurd decoded (refused read)
    | error fault => exact ⟨_, scrape_refused solid carries empty decoded⟩

/-- A payload is told as a failure when it is read as an object with an error. -/
theorem told_scrape_iff (message : String) :
    Told (scrape output sentinel).2 message ↔ ∃ members : Members,
      Json.ofText shown = .ok (.object members) ∧
        members.lookup? "error" = some (.string message) := by
  by_cases decodes : ∃ read, Json.ofText shown = .ok read
  · obtain ⟨read, decoded⟩ := decodes
    rw [scrape_decoded solid carries decoded, told_ok_iff, decoded]
    simp only [Except.ok.injEq]
  · have refused := not_exists.mp decodes
    obtain ⟨error, failed⟩ := exists_scrape_error solid carries refused
    rw [failed]
    constructor
    · exact fun told => (not_told_error error message told).elim
    · rintro ⟨members, decoded, -⟩
      exact absurd decoded (refused _)

end Payloads

variable {engine : Engine State} {bridge : Bridge State} {command : Bridge.Command}
  {evaluation : Evaluation State} {ending : Ending}

/-- The result of an evaluation that the engine gave up is an error result. -/
theorem Bridge.result_rejected (evaluated : bridge.evaluation? engine command = some evaluation)
    {error : EngineError} (rejected : evaluation.answer.error = some error) :
    evaluation.result = .ok (failedSubmission error) := by
  unfold evaluation? at evaluated
  split at evaluated
  · next opened =>
      obtain ⟨script, -, rfl⟩ := Option.map_eq_some_iff.mp evaluated
      have entered : (bridge.entered command).isOpen = true := by
        cases command <;> exact opened
      rw [evaluation, evaluate, if_pos entered]
      exact submissionResult_of_rejected engine _ _ rejected
  · cases evaluated

/-- An object whose only member is an error is told with its message. -/
theorem told_error_iff (error message : String) :
    Told (.ok (Translated.ofJson (.object [("error", .string error)]))) message ↔
      error = message := by
  rw [told_ok_iff]
  constructor
  · rintro ⟨_, ⟨⟩, found⟩
    exact Json.string.inj (Option.some.inj found)
  · rintro rfl
    exact ⟨_, rfl, rfl⟩

/-- A thrown message is told unless it is no text. -/
theorem Bridge.result_threw (evaluated : bridge.evaluation? engine command = some evaluation)
    {units : List UInt16} (shows : evaluation.Shows engine (.threw units)) :
    (∃ message, Text.textOfUnits units = .ok message ∧
      evaluation.result = .ok (.object [("error", .string message)])) ∨
    (∀ message, Text.textOfUnits units ≠ .ok message) ∧
      ∃ fault, evaluation.result = .error (.malformedResult (thrownText units) fault) := by
  cases shows with
  | threw _ noError carries =>
      obtain ⟨solid, result⟩ := result_of_answered evaluated noError
      rw [result]
      cases said : Text.textOfUnits units with
      | error before =>
          have broken : ∀ message, Text.textOfUnits units ≠ .ok message := by simp [said]
          have refused := ofText_thrownText_broken broken
          have filled : thrownText units ≠ "" := by simp [thrownText]
          cases decoded : Json.ofText (thrownText units) with
          | ok read => exact absurd decoded (refused read)
          | error fault =>
              exact .inr ⟨by simp, fault, scrape_refused solid carries filled decoded⟩
      | ok message =>
          exact .inl ⟨message, rfl, scrape_decoded solid carries (ofText_thrownText said)⟩

/-- An evaluation tells a failure exactly when the ending of its script is told as one. -/
theorem Bridge.told_iff (evaluated : bridge.evaluation? engine command = some evaluation)
    (shows : evaluation.Shows engine ending) (message : String) :
    Told evaluation.result message ↔ ending.Tells message := by
  cases shows with
  | completed written noError carries =>
      obtain ⟨solid, result⟩ := result_of_answered evaluated noError
      rw [result, told_scrape_iff solid carries]
      constructor
      · rintro ⟨members, decoded, found⟩
        exact .disguised written members message decoded found
      · intro told
        cases told with
        | disguised _ members _ decoded found => exact ⟨members, decoded, found⟩
  | threw units noError carries =>
      obtain ⟨text, said, result⟩ | ⟨broken, fault, failed⟩ :=
        result_threw evaluated (.threw units noError carries)
      · rw [result]
        refine (told_error_iff text message).trans ?_
        constructor
        · rintro rfl
          exact .threw units text said
        · rintro ⟨_, _, other⟩
          exact Except.ok.inj (said.symm.trans other)
      · rw [failed]
        constructor
        · exact fun told => (not_told_error _ message told).elim
        · rintro ⟨_, _, said⟩
          exact absurd said (broken message)
  | rejected error rejected =>
      rw [result_rejected evaluated rejected]
      refine (told_error_iff _ message).trans ?_
      constructor
      · rintro rfl
        exact .rejected error
      · rintro ⟨⟩
        rfl

/-- A completed script has its value as result. -/
theorem Bridge.result_completed (evaluated : bridge.evaluation? engine command = some evaluation)
    {written : String} (shows : evaluation.Shows engine (.completed written)) {read : Json}
    (decoded : Json.ofText written = .ok read) :
    evaluation.result = .ok (Translated.ofJson read) := by
  cases shows with
  | completed _ noError carries =>
      obtain ⟨solid, result⟩ := result_of_answered evaluated noError
      rw [result, scrape_decoded solid carries decoded]

/-- The result of a script that completes is that of one that throws when its value looks like the
error. -/
theorem Evaluation.completed_eq_threw_iff {one two : Bridge State}
    {first second : Bridge.Command} {completed threw : Evaluation State} {written : String}
    {units : List UInt16} {read : Json} (known : one.evaluation? engine first = some completed)
    (other : two.evaluation? engine second = some threw)
    (completes : completed.Shows engine (.completed written))
    (throws : threw.Shows engine (.threw units)) (decoded : Json.ofText written = .ok read) :
    completed.result = threw.result ↔ ∃ message, Text.textOfUnits units = .ok message ∧
      read = .object [("error", .string message)] := by
  rw [Bridge.result_completed known completes decoded]
  obtain ⟨message, said, result⟩ | ⟨broken, fault, failed⟩ := Bridge.result_threw other throws
  · rw [result, said]
    simp only [Except.ok.injEq, exists_eq_left', Translated.ofJson_eq_object_iff]
  · rw [failed]
    constructor
    · exact fun same => nomatch same
    · rintro ⟨message, said, -⟩
      exact absurd said (broken message)

/-- The result of a command is told as a failure when there is an evaluation of it that is. -/
theorem Bridge.told_result?_iff (bridge : Bridge State) {result : Except EvaluationError Translated}
    (known : bridge.result? engine command = some result) (message : String) :
    Told result message ↔
      ∃ evaluation, bridge.evaluation? engine command = some evaluation ∧
        Told evaluation.result message := by
  cases scripted : command.script? with
  | none =>
      have unevaluated : bridge.evaluation? engine command = none := by
        rw [evaluation?, scripted, Option.map_none, ite_self]
      simp only [unevaluated, reduceCtorEq, false_and, exists_false, iff_false]
      cases command with
      | execute bytes =>
          cases decoded : Text.decodeUtf8 bytes with
          | error fault =>
              rw [result?, execute, decoded] at known
              cases known
              exact not_told_error _ message
          | ok text => cases scripted.symm.trans (Command.script?_execute_iff.mpr decoded)
      | evaluate | evaluateNamed => cases scripted
      | _ => cases known
  | some script =>
      obtain rfl := Option.some.inj (known.symm.trans (bridge.result?_entered engine scripted))
      have entered : (bridge.entered command).isOpen = bridge.isOpen := by cases command <;> rfl
      rw [evaluation?, scripted]
      by_cases opened : bridge.isOpen = true
      · simp only [if_pos opened, Option.map_some, Option.some.injEq, exists_eq_left', evaluation]
      · rw [evaluate, if_neg (entered ▸ opened), if_neg opened]
        constructor
        · exact fun told => (not_told_error .closed message told).elim
        · rintro ⟨_, ⟨⟩, -⟩

end Results

section Programs

theorem chained_eq (message : String) (causes : List String) :
    ∃ more, chained message causes = message ++ more := by
  cases causes with
  | nil => exact ⟨"", by simp [chained, separated]⟩
  | cons cause causes =>
      refine ⟨": " ++ separated ": " (cause :: causes), ?_⟩
      apply String.toList_inj.mp
      simp [chained, separated, String.toList_intercalate]

/-- Two letters tell a message from that of a failed script. -/
theorem ne_scriptFailed (start : String) {text rest : String} (begins : text = start ++ rest)
    (long : 2 ≤ start.toList.length) (other : start.toList.take 2 ≠ ['s', 'c']) (message : String) :
    text ≠ "script failed: " ++ message := by
  rintro named
  have letters : (start ++ rest).toList.take 2 = start.toList.take 2 := by
    rw [String.toList_append, List.take_append_of_le_length long]
  rw [← begins, named, String.toList_append] at letters
  exact other letters.symm

/-- The causes of an error do not change how its message begins. -/
theorem chained_ne (start : String) {text rest : String} (begins : text = start ++ rest)
    (long : 2 ≤ start.toList.length) (other : start.toList.take 2 ≠ ['s', 'c'])
    (causes : List String) (message : String) :
    chained text causes ≠ "script failed: " ++ message := by
  obtain ⟨more, chain⟩ := chained_eq text causes
  rw [begins, String.append_assoc] at chain
  rw [begins]
  exact ne_scriptFailed start chain long other message

/-- The failure of an evaluation is not named like that of a script. -/
theorem EvaluationError.chain_ne (error : EvaluationError) (message : String) :
    error.chain ≠ "script failed: " ++ message := by
  cases error with
  | noResultMarker output =>
      exact chained_ne "No RESULT marker found in JavaScript output: " rfl (by decide) (by decide)
        _ message
  | emptyResult =>
      exact chained_ne _ String.append_empty.symm (by decide) (by decide) _ message
  | malformedResult text fault =>
      have same : (EvaluationError.malformedResult text fault).message =
        "JSON parsing error: " ++ fault.message ++ " for input: " ++ text := rfl
      rw [String.append_assoc, String.append_assoc] at same
      exact chained_ne _ same (by decide) (by decide) _ message
  | engineFailure error =>
      exact chained_ne "JavaScript runtime unavailable: " rfl (by decide) (by decide) _ message
  | invalidBytes fault =>
      exact chained_ne "Bytecode is not valid UTF-8 source: " rfl (by decide) (by decide)
        _ message
  | closed =>
      exact chained_ne _ String.append_empty.symm (by decide) (by decide) _ message

/-- The failure to load a configuration is not named like that of a script. -/
theorem ConfigurationError.chain_ne (error : ConfigurationError) (message : String) :
    chained error.message error.cause?.toList ≠ "script failed: " ++ message := by
  cases error with
  | file error => exact chained_ne "IO error: " rfl (by decide) (by decide) _ message
  | unreadable fault =>
      exact chained_ne "Parse error: " rfl (by decide) (by decide) _ message
  | invalid defect =>
      exact chained_ne "Invalid configuration: " rfl (by decide) (by decide) _ message

namespace CommandLine

variable {State S : Type}

/-- A command that is not fit is not named like a failed script. -/
theorem Command.Defect.message_ne (defect : Command.Defect) (message : String) :
    defect.message ≠ "script failed: " ++ message := by
  cases defect with
  | noScript =>
      exact ne_scriptFailed _ String.append_empty.symm (by decide) (by decide) message
  | twoScripts =>
      exact ne_scriptFailed _ String.append_empty.symm (by decide) (by decide) message
  | missingScript path =>
      exact ne_scriptFailed "Script file does not exist: " rfl (by decide) (by decide) message
  | missingInput path =>
      exact ne_scriptFailed "Input file does not exist: " rfl (by decide) (by decide) message

/-- What keeps the program from a bridge is not named like a failed script. -/
theorem openBridge_error_ne {runtime : Runtime State} {configuration : Configuration}
    {ambient : Ambient} {builtins : Bool} {failure : String}
    (unopened : openBridge runtime configuration ambient builtins = .error failure)
    (message : String) : failure ≠ "script failed: " ++ message := by
  unfold openBridge at unopened
  split at unopened
  · next defect _ =>
      cases unopened
      cases defect with
      | zeroMemoryLimit =>
          exact ne_scriptFailed _ String.append_empty.symm (by decide) (by decide) message
      | zeroStackSize =>
          exact ne_scriptFailed _ String.append_empty.symm (by decide) (by decide) message
  · split at unopened
    · next error _ =>
        cases unopened
        exact error.chain_ne message
    · cases unopened

/-- What an outcome says of the evaluation that it comes from, if there is one. Without one it names
a failed script only in the words of a file error. -/
def Outcome.Tells (files : Files (StateM S)) (state : S) (outcome : Outcome) :
    Option (Evaluation State) → Prop
  | some evaluation => ∀ message,
      outcome.failure = some ("script failed: " ++ message) ↔ Told evaluation.result message
  | none => ∀ message, outcome.failure = some ("script failed: " ++ message) →
      ∃ error, files.Fails state error ∧ error.message = "script failed: " ++ message

/-- An evaluation that is carried out ends with the failure that its result tells. -/
theorem evaluated_failure_iff (engine : Engine State) (arguments : Arguments)
    (bridge : Bridge State) (result : Except EvaluationError Translated) (message : String) :
    (evaluated engine arguments bridge (evaluationResult result)).failure =
      some ("script failed: " ++ message) ↔ Told result message := by
  cases result with
  | error error =>
      have other := error.chain_ne message
      constructor
      · intro failed
        exact absurd (Option.some.inj failed) other
      · exact fun told => (not_told_error error message told).elim
  | ok value =>
      have failure : (evaluated engine arguments bridge (evaluationResult (.ok value))).failure =
          value.errorMessage?.map fun message => "script failed: " ++ message := rfl
      rw [failure, Option.map_eq_some_iff]
      constructor
      · rintro ⟨told, known, same⟩
        obtain rfl : told = message := by simpa [String.append_right_inj] using same
        exact ⟨value, rfl, known⟩
      · rintro ⟨_, ⟨⟩, known⟩
        exact ⟨message, known, rfl⟩

section Runs

variable {runtime : Runtime State} {files : Files (StateM S)} {arguments : Arguments}
  {ambient : Ambient} {configuration : Configuration} {state : S} {message : String}

/-- The message of a file without a text is that of a file error, when it names a failed script. -/
theorem fails_of_fileText {path : String} {error : FileError}
    (failed : fileText ((files.read path).run state).1 = .error error)
    (named : error.message = "script failed: " ++ message) :
    ∃ error, files.Fails state error ∧ error.message = "script failed: " ++ message := by
  rcases error_of_fileText failed with read | rfl
  · exact ⟨error, ⟨path, .inl read⟩, named⟩
  · exact absurd named (ne_scriptFailed _ String.append_empty.symm (by decide) (by decide) message)

variable (steady : files.Steady)

include steady

/-- An evaluation of a file without a script names a failed script only in the words of a file
error, and so do the other commands. -/
theorem runEval_unasked {path : String} {builtins : Bool}
    (present : ((files.isPresent path).run state).1 = true)
    (unasked : (Command.eval none (some path) builtins).asked? files state = none)
    (failed : ((runEval runtime files arguments configuration ambient none (some path)
      builtins).run state).1.failure = some ("script failed: " ++ message)) :
    ∃ error, files.Fails state error ∧ error.message = "script failed: " ++ message := by
  rw [runEval] at failed
  cases opened : openBridge runtime configuration ambient builtins with
  | error failure =>
      rw [opened] at failed
      exact absurd (Option.some.inj failed) (openBridge_error_ne opened message)
  | ok bridge =>
      rw [opened] at failed
      dsimp only at failed
      rw [run_bind (steady.read_eq rfl), evaluateFile] at failed
      cases text : fileText ((files.read path).run state).1 with
      | error error =>
          rw [text] at failed
          exact fails_of_fileText text (Option.some.inj failed)
      | ok script =>
          have content := Files.content?_eq_some_iff.mpr
            ⟨present, (fileText_eq_ok_iff _ _).mp text⟩
          simp [Command.asked?, content, Text.decodeUtf8_encodeUtf8, Except.toOption] at unasked

theorem runCompile_failed {input output : String}
    (failed : ((runCompile runtime files arguments configuration ambient input output).run
      state).1.failure = some ("script failed: " ++ message)) :
    ∃ error, files.Fails state error ∧ error.message = "script failed: " ++ message := by
  generalize ran : (runCompile runtime files arguments configuration ambient input output).run
    state = answer at failed
  obtain ⟨outcome, left⟩ := answer
  cases compiles_of_run steady ran with
  | unread error text => exact fails_of_fileText text (Option.some.inj failed)
  | unopened script failure text opened =>
      exact absurd (Option.some.inj failed) (openBridge_error_ne opened message)
  | unwritten script events error left text opened stored =>
      exact ⟨error, ⟨output, .inr ⟨_, congrArg Prod.fst stored⟩⟩, Option.some.inj failed⟩
  | written script events left text opened stored => cases failed

theorem runExec_unasked {path : String} {builtins : Bool}
    (present : ((files.isPresent path).run state).1 = true)
    (unasked : (Command.exec path builtins).asked? files state = none)
    (failed : ((runExec runtime files arguments configuration ambient path builtins).run
      state).1.failure = some ("script failed: " ++ message)) :
    ∃ error, files.Fails state error ∧ error.message = "script failed: " ++ message := by
  rw [runExec, run_bind (steady.read_eq rfl)] at failed
  cases content : ((files.read path).run state).1 with
  | error error =>
      rw [content] at failed
      exact ⟨error, ⟨path, .inl content⟩, Option.some.inj failed⟩
  | ok bytes =>
      have standing := Files.content?_eq_some_iff.mpr ⟨present, content⟩
      simp [Command.asked?, standing] at unasked

/-- A command that is fit and has no script names a failed script only in the words of a file error.
-/
theorem runCommand_unasked
    (fit : arguments.command.defect? (arguments.command.found files state) = none)
    (unasked : arguments.command.asked? files state = none)
    (failed : ((runCommand runtime files arguments configuration ambient).run state).1.failure =
      some ("script failed: " ++ message)) :
    ∃ error, files.Fails state error ∧ error.message = "script failed: " ++ message := by
  rw [runCommand] at failed
  generalize arguments.command = command at fit unasked failed
  cases command with
  | eval script file builtins =>
      cases script with
      | some script =>
          cases file with
          | none => cases unasked
          | some path => cases fit
      | none =>
          cases file with
          | none => cases fit
          | some path =>
              exact runEval_unasked steady (Command.isPresent_of_fit rfl fit) unasked failed
  | compile input output => exact runCompile_failed steady failed
  | exec path builtins =>
      exact runExec_unasked steady (Command.isPresent_of_fit rfl fit) unasked failed
  | objects => cases failed

/-- What a run of the program comes to says whether its evaluation is told as a failure. -/
theorem run_tells (runtime : Runtime State) (arguments : Arguments) (ambient : Ambient) (state : S) :
    ∃ outcome : Outcome,
      ((arguments.run runtime files ambient).run state).1 = outcome.report arguments.level ∧
        outcome.Tells files state (arguments.evaluation? runtime files ambient state) := by
  cases loaded : ((loadConfiguration files arguments.config).run state).1 with
  | error error =>
      refine ⟨_, congrArg Prod.fst (run_unconfigured runtime ambient steady loaded), ?_⟩
      rw [Arguments.evaluation?, loaded]
      exact fun message failed => absurd (Option.some.inj failed) (error.chain_ne message)
  | ok configuration =>
      have configured := run_configured runtime ambient steady loaded
      rw [Arguments.evaluation?, loaded]
      cases known : arguments.command.asked? files state with
      | none =>
          cases unfit : arguments.command.defect? (arguments.command.found files state) with
          | some defect =>
              rw [unfit] at configured
              exact ⟨_, congrArg Prod.fst configured, fun message failed =>
                absurd (Option.some.inj failed) (defect.message_ne message)⟩
          | none =>
              rw [unfit] at configured
              exact ⟨_, congrArg Prod.fst configured, fun message failed =>
                runCommand_unasked steady unfit known failed⟩
      | some asked =>
          have asks := Command.asks_of_asked? known
          rw [fit_of_asks asks] at configured
          refine ⟨_, congrArg Prod.fst configured, ?_⟩
          show Outcome.Tells files state
            ((runCommand runtime files arguments configuration ambient).run state).1
            ((openBridge runtime configuration ambient arguments.command.builtins).toOption.bind
              fun bridge => bridge.evaluation? runtime.engine asked)
          cases opened : openBridge runtime configuration ambient arguments.command.builtins with
          | error failure =>
              rw [runCommand_unopened asks steady opened]
              exact fun message failed =>
                absurd (Option.some.inj failed) (openBridge_error_ne opened message)
          | ok bridge =>
              obtain ⟨result, told, outcome⟩ := runCommand_opened asks steady opened
              rw [outcome]
              show Outcome.Tells files state _ (bridge.evaluation? runtime.engine asked)
              cases evaluated : bridge.evaluation? runtime.engine asked with
              | some evaluation =>
                  intro message
                  rw [evaluated_failure_iff, bridge.told_result?_iff told, evaluated]
                  simp only [Option.some.injEq, exists_eq_left']
              | none =>
                  intro message failed
                  rw [evaluated_failure_iff, bridge.told_result?_iff told, evaluated] at failed
                  obtain ⟨_, ⟨⟩, -⟩ := failed

end Runs

end CommandLine

end Programs

open CommandLine in
/-- An evaluation whose script ends in an error is told as a failure, and so is one whose value is
an object with an error, which is the same result if it has no other member. A message that is no
text makes a malformed result. A run of the program ends with the failure of its script exactly when
it comes to an evaluation that is told as one, whatever is asked of its output. -/
theorem failures_told_by_error_member :
    (∀ (State : Type) (engine : Engine State) (bridge : Bridge State) (command : Bridge.Command)
      (evaluation : Evaluation State) (ending : Ending),
      bridge.evaluation? engine command = some evaluation → evaluation.Shows engine ending →
      ∀ message, Told evaluation.result message ↔ ending.Tells message) ∧
    (∀ (State : Type) (engine : Engine State) (one two : Bridge State)
      (first second : Bridge.Command) (completed threw : Evaluation State) (written : String)
      (units : List UInt16) (read : Json),
      one.evaluation? engine first = some completed → two.evaluation? engine second = some threw →
      completed.Shows engine (.completed written) → threw.Shows engine (.threw units) →
      Json.ofText written = .ok read →
      (completed.result = threw.result ↔ ∃ message, Text.textOfUnits units = .ok message ∧
        read = .object [("error", .string message)])) ∧
    (∀ (State : Type) (engine : Engine State) (bridge : Bridge State) (command : Bridge.Command)
      (evaluation : Evaluation State) (units : List UInt16),
      bridge.evaluation? engine command = some evaluation →
      evaluation.Shows engine (.threw units) → (∀ message, Text.textOfUnits units ≠ .ok message) →
      ∃ fault, evaluation.result = .error (.malformedResult (thrownText units) fault)) ∧
    ∀ (State S : Type) (runtime : Runtime State) (files : Files (StateM S)), files.Steady →
      ∀ (arguments : Arguments) (ambient : Ambient) (state : S),
        let report := ((arguments.run runtime files ambient).run state).1
        ∃ outcome : CommandLine.Outcome, report = outcome.report arguments.level ∧
          outcome.Tells files state (arguments.evaluation? runtime files ambient state) ∧
          (outcome.failure = none → report.code = 0) ∧
          ∀ failure, outcome.failure = some failure → report.code = 1 ∧
            report.records =
              recordLines arguments.level outcome.events ++ failureLine failure := by
  refine ⟨?told, ?equal, ?broken, ?programs⟩
  case told =>
    intro State engine bridge command evaluation ending known shows
    exact Bridge.told_iff known shows
  case equal =>
    intro State engine one two first second completed threw written units read known other
      completes throws decoded
    exact Evaluation.completed_eq_threw_iff known other completes throws decoded
  case broken =>
    intro State engine bridge command evaluation units known throws broken
    obtain ⟨message, said, -⟩ | ⟨-, malformed⟩ := Bridge.result_threw known throws
    · exact absurd said (broken message)
    · exact malformed
  case programs =>
    intro State S runtime files steady arguments ambient state report
    obtain ⟨outcome, same, tells⟩ := run_tells steady runtime arguments ambient state
    have reported : report = outcome.report arguments.level := same
    refine ⟨outcome, same, tells, ?_, ?_⟩
    · intro succeeded
      simp [reported, Outcome.report, succeeded]
    · intro failure failed
      simp [reported, Outcome.report, failed]

/-- A thrown message is told by an engine that prints it, and so it is by a program over that engine.
A lone surrogate is told by neither. -/
theorem failures_told_by_error_member_thrown :
    let runtime : Runtime String := ⟨.answering (thrownText [0x78]), fun _ => .ok ""⟩
    let arguments : CommandLine.Arguments :=
      ⟨.eval (some "throw 'x'") none false, "info", true, none, false⟩
    (∃ evaluation : Evaluation String,
      arguments.evaluation? runtime Folder.files .counting [] = some evaluation ∧
        evaluation.Shows runtime.engine (.threw [0x78]) ∧ Told evaluation.result "x" ∧
        (∃ message, Json.ofText (thrownText [0x78]) = .ok (.object [("error", .string message)])) ∧
        ∃ outcome : CommandLine.Outcome,
          ((arguments.run runtime Folder.files .counting).run []).1 = outcome.report .error ∧
            outcome.failure = some ("script failed: " ++ "x")) ∧
    ∃ (bridge : Bridge String) (evaluation : Evaluation String) (fault : Json.Fault),
      bridge.evaluation? (.answering (thrownText [0xD800])) (.evaluate "throw '\\ud800'") =
          some evaluation ∧
        evaluation.result = .error (.malformedResult (thrownText [0xD800]) fault) := by
  intro runtime arguments
  obtain ⟨told, equal, broken, programs⟩ := failures_told_by_error_member
  constructor
  · obtain ⟨bridge, started, answers⟩ :=
      Engine.exists_answering (thrownText [0x78]) (by decide) (by decide)
    obtain ⟨evaluation, known, noError, line⟩ := answers "throw 'x'"
    have said : Text.textOfUnits [0x78] = .ok "x" := by decide
    have throws : evaluation.Shows runtime.engine (.threw [0x78]) := .threw _ noError line
    have completes : evaluation.Shows runtime.engine (.completed (thrownText [0x78])) :=
      .completed _ noError line
    have opened : CommandLine.openBridge runtime .default .counting false = .ok bridge :=
      CommandLine.openBridge_eq_ok_iff.mpr ⟨rfl, bridge, started, rfl⟩
    have reached : arguments.evaluation? runtime Folder.files .counting [] = some evaluation := by
      show (CommandLine.openBridge runtime .default .counting false).toOption.bind
        (fun bridge => bridge.evaluation? runtime.engine (.evaluate "throw 'x'")) = some evaluation
      rw [opened]
      exact known
    have tells := (told _ _ bridge _ _ _ known throws "x").mpr (.threw _ _ said)
    obtain ⟨message, -, same⟩ := (equal _ _ bridge bridge _ _ _ _ _ _ _ known known completes throws
      (ofText_thrownText said)).mp rfl
    obtain ⟨outcome, report, failure, -⟩ :=
      programs _ _ runtime Folder.files Folder.files_steady arguments .counting []
    rw [reached] at failure
    exact ⟨evaluation, reached, throws, tells, ⟨message, same ▸ ofText_thrownText said⟩, outcome,
      report, (failure "x").mpr tells⟩
  · obtain ⟨bridge, started, answers⟩ :=
      Engine.exists_answering (thrownText [0xD800]) (by decide) (by decide)
    obtain ⟨evaluation, known, noError, line⟩ := answers "throw '\\ud800'"
    have lone : ∀ message, Text.textOfUnits [0xD800] ≠ .ok message := fun _ same => nomatch same
    obtain ⟨fault, malformed⟩ :=
      broken _ _ bridge _ _ _ known (.threw _ noError line) lone
    exact ⟨bridge, evaluation, fault, known, malformed⟩

/-- An object with an error is a value of a script, and it is the result of one that throws. -/
theorem completed_object_told_as_failure :
    ∃ bridge, Bridge.start (.answering "\x7b\"error\":\"x\"\x7d") Configuration.default .counting "" =
        .ok bridge ∧
      ∃ completed threw,
        bridge.evaluation? (.answering "\x7b\"error\":\"x\"\x7d") (.evaluate "(\x7berror: 'x'\x7d)") =
          some completed ∧
        bridge.evaluation? (.answering "\x7b\"error\":\"x\"\x7d") (.evaluate "throw 'x'") =
          some threw ∧
        completed.Shows (.answering "\x7b\"error\":\"x\"\x7d")
          (.completed "\x7b\"error\":\"x\"\x7d") ∧
        threw.Shows (.answering "\x7b\"error\":\"x\"\x7d") (.threw [0x78]) ∧
        completed.result = threw.result ∧ Told completed.result "x" := by
  have written : "\x7b\"error\":\"x\"\x7d" = thrownText [0x78] := by decide
  have said : Text.textOfUnits [0x78] = .ok "x" := by decide
  rw [written]
  obtain ⟨bridge, started, answers⟩ :=
    Engine.exists_answering (thrownText [0x78]) (by decide) (by decide)
  obtain ⟨completed, known, noError, line⟩ := answers "(\x7berror: 'x'\x7d)"
  obtain ⟨threw, other, noFault, same⟩ := answers "throw 'x'"
  have completes : completed.Shows (.answering (thrownText [0x78]))
      (.completed (thrownText [0x78])) := .completed _ noError line
  have throws : threw.Shows (.answering (thrownText [0x78])) (.threw [0x78]) :=
    .threw _ noFault same
  have decoded := ofText_thrownText said
  refine ⟨bridge, started, _, _, known, other, completes, throws, ?_, ?_⟩
  · exact (Evaluation.completed_eq_threw_iff known other completes throws decoded).mpr
      ⟨"x", said, rfl⟩
  · exact (Bridge.told_iff known completes "x").mpr (.disguised _ _ _ decoded rfl)

end HostBridge
