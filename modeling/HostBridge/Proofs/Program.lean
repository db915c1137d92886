/-
This file shows what a run of the program has a bridge evaluate.
-/
import HostBridge.CommandLine.Run
import HostBridge.Folder
import HostBridge.Proofs.Encoding
import HostBridge.Proofs.Trace

namespace HostBridge

section Files

variable {S : Type} {files : Files (StateM S)} {path : String} {state : S}

/-- Looking at files changes nothing. -/
structure Files.Steady (files : Files (StateM S)) : Prop where
  isPresent : ∀ path state, ((files.isPresent path).run state).2 = state
  read : ∀ path state, ((files.read path).run state).2 = state

/-- The bytes that stand at a path. -/
def Files.content? (files : Files (StateM S)) (path : String) (state : S) : Option (List UInt8) :=
  if ((files.isPresent path).run state).1 then ((files.read path).run state).1.toOption else none

/-- The error is one of reading or writing a file. -/
def Files.Fails (files : Files (StateM S)) (state : S) (error : FileError) : Prop :=
  ∃ path, ((files.read path).run state).1 = .error error ∨
    ∃ content, ((files.write path content).run state).1 = .error error

/-- Bytes stand at a path when the file is there and can be read. -/
theorem Files.content?_eq_some_iff {content : List UInt8} :
    files.content? path state = some content ↔
      ((files.isPresent path).run state).1 = true ∧
        ((files.read path).run state).1 = .ok content := by
  unfold content?
  split
  · next present =>
      cases read : ((files.read path).run state).1 <;> simp [Except.toOption, present]
  · next absent => simp [absent]

/-- A file that is read leaves everything as it was. -/
theorem Files.Steady.read_eq (steady : files.Steady) {content : Except FileError (List UInt8)}
    (known : ((files.read path).run state).1 = content) :
    (files.read path).run state = (content, state) :=
  Prod.ext known (steady.read path state)

/-- Looking at a folder changes nothing. -/
theorem Folder.files_steady : Folder.files.Steady := ⟨fun _ _ => rfl, fun _ _ => rfl⟩

/-- A file has a text when its content is the bytes of the text. -/
theorem fileText_eq_ok_iff (content : Except FileError (List UInt8)) (script : String) :
    fileText content = .ok script ↔ content = .ok (Text.encodeUtf8 script) := by
  cases content with
  | error error => simp [fileText, Except.bind]
  | ok bytes =>
      rw [fileText, Except.bind, Except.ok.injEq, @eq_comm _ bytes,
        ← Text.decodeUtf8_eq_ok_iff]
      cases Text.decodeUtf8 bytes <;> simp [Except.mapError]

/-- A file without a text cannot be read, or its bytes are no text. -/
theorem error_of_fileText {content : Except FileError (List UInt8)} {error : FileError}
    (failed : fileText content = .error error) : content = .error error ∨ error = .notText := by
  cases content with
  | error other =>
      cases failed
      exact .inl rfl
  | ok bytes =>
      rw [fileText, Except.bind] at failed
      cases decoded : Text.decodeUtf8 bytes with
      | error fault =>
          rw [decoded] at failed
          exact .inr (Except.error.inj failed).symm
      | ok script =>
          rw [decoded] at failed
          cases failed

end Files

namespace CommandLine

/-- Whether the builtin objects are bound. -/
def Command.builtins : Command → Bool
  | .eval _ _ builtins | .exec _ builtins => builtins
  | .compile _ _ | .objects => false

section Asking

variable {S : Type}

/-- Whether the file that a command reads exists. -/
def Command.found (files : Files (StateM S)) (state : S) (command : Command) : Bool :=
  (command.source?.map fun path => ((files.isPresent path).run state).1).getD true

/-- What a command has a bridge do with a script, if there is one. -/
def Command.asked? (files : Files (StateM S)) (state : S) : Command → Option Bridge.Command
  | .eval (some script) none _ => some (.evaluate script)
  | .eval none (some path) _ =>
      (files.content? path state).bind fun bytes =>
        (Text.decodeUtf8 bytes).toOption.map (.evaluateNamed · path)
  | .exec path _ => (files.content? path state).map .execute
  | _ => none

/-- The three ways in which a command has a script. -/
inductive Command.Asks (files : Files (StateM S)) (state : S) : Command → Bridge.Command → Prop where
  | text (script : String) (builtins : Bool) :
      Asks files state (.eval (some script) none builtins) (.evaluate script)
  | file (path script : String) (builtins : Bool) :
      files.content? path state = some (Text.encodeUtf8 script) →
      Asks files state (.eval none (some path) builtins) (.evaluateNamed script path)
  | bytes (path : String) (content : List UInt8) (builtins : Bool) :
      files.content? path state = some content →
      Asks files state (.exec path builtins) (.execute content)

/-- A script that is found comes from one of the three ways. -/
theorem Command.asks_of_asked? {files : Files (StateM S)} {state : S} {command : Command}
    {asked : Bridge.Command} (known : command.asked? files state = some asked) :
    command.Asks files state asked := by
  cases command with
  | eval script file builtins =>
      match script, file with
      | some script, none =>
          cases known
          exact .text script builtins
      | none, some path =>
          obtain ⟨bytes, content, same⟩ := Option.bind_eq_some_iff.mp known
          obtain ⟨script, decoded, rfl⟩ := Option.map_eq_some_iff.mp same
          refine .file path script builtins (content.trans (congrArg some ?_))
          refine ((Text.decodeUtf8_eq_ok_iff _ _).mp ?_).symm
          cases read : Text.decodeUtf8 bytes with
          | error fault => simp [read, Except.toOption] at decoded
          | ok text => simpa [read, Except.toOption] using decoded
      | some _, some _ | none, none => cases known
  | exec path builtins =>
      obtain ⟨content, present, rfl⟩ := Option.map_eq_some_iff.mp known
      exact .bytes path content builtins present
  | compile | objects => cases known

/-- A command is fit when the file that it reads is there. -/
theorem Command.isPresent_of_fit {files : Files (StateM S)} {state : S} {command : Command}
    {path : String} (source : command.source? = some path)
    (fit : command.defect? (command.found files state) = none) :
    ((files.isPresent path).run state).1 = true := by
  have found : command.found files state = ((files.isPresent path).run state).1 := by
    rw [Command.found, source]
    rfl
  rw [found] at fit
  by_contra absent
  rw [Bool.not_eq_true] at absent
  rw [absent] at fit
  cases command with
  | eval script file builtins =>
      match script, file with
      | none, some _ | some _, some _ | none, none => cases fit
      | some _, none => cases source
  | compile | exec => cases fit
  | objects => cases source

variable {State : Type}

/-- The evaluation that a run of the program comes to. -/
def Arguments.evaluation? (runtime : Runtime State) (files : Files (StateM S)) (ambient : Ambient)
    (arguments : Arguments) (state : S) : Option (Evaluation State) :=
  ((loadConfiguration files arguments.config).run state).1.toOption.bind fun configuration =>
    (arguments.command.asked? files state).bind fun asked =>
      (openBridge runtime configuration ambient arguments.command.builtins).toOption.bind fun bridge =>
        bridge.evaluation? runtime.engine asked

end Asking

section Opening

variable {State : Type} {runtime : Runtime State} {configuration : Configuration}
  {ambient : Ambient} {builtins : Bool} {bridge : Bridge State}

/-- A bridge is opened when its configuration is usable and its engine starts. -/
theorem openBridge_eq_ok_iff :
    openBridge runtime configuration ambient builtins = .ok bridge ↔
      configuration.defect? = none ∧ ∃ first, runtime.bridge? configuration ambient = .ok first ∧
        bridge = if builtins then first.bindBuiltins else first := by
  unfold openBridge
  cases configuration.defect? with
  | some defect => simp
  | none =>
      cases runtime.bridge? configuration ambient with
      | error error => simp
      | ok first => simp [eq_comm]

/-- A bridge that the program has opened is fresh but for the objects that are bound. -/
theorem fresh_of_openBridge
    (opened : openBridge runtime configuration ambient builtins = .ok bridge) :
    bridge.isOpen = true ∧
      bridge.nextSentinel = configuration.sentinel.sentinel (ambient.token 1) := by
  obtain ⟨-, first, made, rfl⟩ := openBridge_eq_ok_iff.mp opened
  unfold Runtime.bridge? at made
  cases world : runtime.start configuration with
  | error error => simp [world] at made
  | ok state =>
      rw [world] at made
      obtain ⟨attached, rfl⟩ := Bridge.eq_of_start made
      split <;> exact ⟨rfl, rfl⟩

end Opening

section Runs

variable {S : Type} {State : Type} {runtime : Runtime State} {files : Files (StateM S)}
  {arguments : Arguments} {ambient : Ambient} {configuration : Configuration} {state left : S}

/-- A run goes on with what its first step gives and leaves. -/
theorem run_bind {A B : Type} {first : StateM S A} {next : A → StateM S B} {value : A}
    (known : first.run state = (value, left)) :
    (first >>= next).run state = (next value).run left := by
  rw [StateT.run_bind, known]
  rfl

/-- Loading a configuration changes nothing. -/
theorem loadConfiguration_steady (steady : files.Steady) (path : Option String) (state : S) :
    ((loadConfiguration files path).run state).2 = state := by
  cases path with
  | none => rfl
  | some path => exact steady.read path state

/-- A run without a configuration fails for the reason that there is none. -/
theorem run_unconfigured (runtime : Runtime State) (ambient : Ambient) (steady : files.Steady)
    {error : ConfigurationError}
    (failed : ((loadConfiguration files arguments.config).run state).1 = .error error) :
    (arguments.run runtime files ambient).run state =
      ((Outcome.failed (chained error.message error.cause?.toList)).report arguments.level, state) := by
  have configured : (loadConfiguration files arguments.config).run state = (.error error, state) :=
    Prod.ext failed (loadConfiguration_steady steady arguments.config state)
  rw [Arguments.run, run_bind configured]
  rfl

/-- A command is carried out when nothing is wrong with it. -/
theorem run_configured (runtime : Runtime State) (ambient : Ambient) (steady : files.Steady)
    (loaded : ((loadConfiguration files arguments.config).run state).1 = .ok configuration) :
    (arguments.run runtime files ambient).run state =
      (((arguments.command.defect? (arguments.command.found files state)).elim
        (runCommand runtime files arguments configuration ambient)
        fun defect => pure (Outcome.failed defect.message)).run state).map
          (Outcome.report · arguments.level) id := by
  have configured : (loadConfiguration files arguments.config).run state = (.ok configuration, state) :=
    Prod.ext loaded (loadConfiguration_steady steady arguments.config state)
  rw [Arguments.run, run_bind configured]
  unfold Command.found
  cases arguments.command.source? with
  | none =>
      dsimp only [Option.map_none, Option.getD_none]
      rw [pure_bind]
      cases arguments.command.defect? true <;> rfl
  | some path =>
      have seen : (files.isPresent path).run state =
          (((files.isPresent path).run state).1, state) :=
        Prod.ext rfl (steady.isPresent path state)
      dsimp only [Option.map_some, Option.getD_some]
      rw [run_bind seen]
      cases arguments.command.defect? ((files.isPresent path).run state).1 <;> rfl

/-- How a compilation goes, with its outcome and what it leaves behind. -/
inductive Compiles (runtime : Runtime State) (files : Files (StateM S)) (arguments : Arguments)
    (configuration : Configuration) (ambient : Ambient) (input output : String) (state : S) :
    Outcome → S → Prop where
  | unread (error : FileError) : fileText ((files.read input).run state).1 = .error error →
      Compiles runtime files arguments configuration ambient input output state
        (.failed error.message) state
  | unopened (script failure : String) : fileText ((files.read input).run state).1 = .ok script →
      openBridge runtime configuration ambient false = .error failure →
      Compiles runtime files arguments configuration ambient input output state
        (.failed failure) state
  | unwritten (script : String) (events : List Event) (error : FileError) (left : S) :
      fileText ((files.read input).run state).1 = .ok script →
      (∃ bridge, openBridge runtime configuration ambient false = .ok bridge) →
      (files.write output (Text.encodeUtf8 script)).run state = (.error error, left) →
      Compiles runtime files arguments configuration ambient input output state
        ⟨events, "", some error.message⟩ left
  | written (script : String) (events : List Event) (left : S) :
      fileText ((files.read input).run state).1 = .ok script →
      (∃ bridge, openBridge runtime configuration ambient false = .ok bridge) →
      (files.write output (Text.encodeUtf8 script)).run state = (.ok (), left) →
      Compiles runtime files arguments configuration ambient input output state
        ⟨events, writtenLine arguments (Text.encodeUtf8 script).length output, none⟩ left

/-- A compilation goes in one of these ways. -/
theorem compiles_of_run (steady : files.Steady) {input output : String} {outcome : Outcome}
    (ran : (runCompile runtime files arguments configuration ambient input output).run state =
      (outcome, left)) :
    Compiles runtime files arguments configuration ambient input output state outcome left := by
  rw [runCompile, run_bind (steady.read_eq rfl)] at ran
  cases text : fileText ((files.read input).run state).1 with
  | error error =>
      rw [text] at ran
      cases ran
      exact .unread error text
  | ok script =>
      rw [text] at ran
      dsimp only at ran
      cases opened : openBridge runtime configuration ambient false with
      | error failure =>
          rw [opened] at ran
          cases ran
          exact .unopened script failure text opened
      | ok bridge =>
          rw [opened] at ran
          dsimp only [Bridge.compile] at ran
          generalize stored : (files.write output (Text.encodeUtf8 script)).run state = answer at ran
          obtain ⟨result, left⟩ := answer
          rw [run_bind stored] at ran
          cases result with
          | error error =>
              cases ran
              exact .unwritten script _ error left text ⟨bridge, opened⟩ stored
          | ok done =>
              cases ran
              exact .written script _ left text ⟨bridge, opened⟩ stored

section Asked

variable {asked : Bridge.Command}
  (asks : arguments.command.Asks files state asked)

include asks

/-- A command that has a script is fit. -/
theorem fit_of_asks : arguments.command.defect? (arguments.command.found files state) = none := by
  have found {path : String} {content : List UInt8}
      (known : files.content? path state = some content) :
      ((files.isPresent path).run state).1 = true := (Files.content?_eq_some_iff.mp known).1
  generalize arguments.command = command at asks ⊢
  cases asks with
  | text script builtins => rfl
  | file path script builtins content | bytes path _ builtins content =>
      simp [Command.defect?, Command.found, Command.source?, found content]

/-- A command with a script is carried out. -/
theorem run_asked (runtime : Runtime State) (ambient : Ambient) (steady : files.Steady)
    (loaded : ((loadConfiguration files arguments.config).run state).1 = .ok configuration) :
    ((arguments.run runtime files ambient).run state).1 =
      ((runCommand runtime files arguments configuration ambient).run state).1.report
        arguments.level := by
  rw [run_configured runtime ambient steady loaded, fit_of_asks asks]
  rfl

variable (steady : files.Steady)

include steady

/-- Without a bridge a command fails for the reason that there is none. -/
theorem runCommand_unopened {failure : String}
    (unopened : openBridge runtime configuration ambient arguments.command.builtins =
      .error failure) :
    ((runCommand runtime files arguments configuration ambient).run state).1 = .failed failure := by
  rw [runCommand]
  generalize arguments.command = command at asks unopened ⊢
  cases asks with
  | text script builtins | file path script builtins content =>
      dsimp only [runEval, Command.builtins] at unopened ⊢
      rw [unopened]
      rfl
  | bytes path content builtins known =>
      have read : (files.read path).run state = (.ok content, state) :=
        steady.read_eq (Files.content?_eq_some_iff.mp known).2
      dsimp only [runExec, Command.builtins] at unopened ⊢
      rw [run_bind read, unopened]
      rfl

/-- With a bridge a command comes to what the bridge makes of its script. -/
theorem runCommand_opened {bridge : Bridge State}
    (opened : openBridge runtime configuration ambient arguments.command.builtins = .ok bridge) :
    ∃ result, bridge.result? runtime.engine asked = some result ∧
      ((runCommand runtime files arguments configuration ambient).run state).1 =
        evaluated runtime.engine arguments (bridge.perform runtime.engine asked)
          (evaluationResult result) := by
  rw [runCommand]
  generalize arguments.command = command at asks opened ⊢
  cases asks with
  | text script builtins =>
      refine ⟨_, rfl, ?_⟩
      dsimp only [runEval, Command.builtins] at opened ⊢
      rw [opened]
      rfl
  | file path script builtins known =>
      have read : (files.read path).run state = (.ok (Text.encodeUtf8 script), state) :=
        steady.read_eq (Files.content?_eq_some_iff.mp known).2
      have text : fileText (.ok (Text.encodeUtf8 script)) = .ok script :=
        (fileText_eq_ok_iff _ _).mpr rfl
      refine ⟨_, rfl, ?_⟩
      dsimp only [runEval, Command.builtins] at opened ⊢
      rw [opened]
      dsimp only
      rw [run_bind read, evaluateFile, text]
      rfl
  | bytes path content builtins known =>
      have read : (files.read path).run state = (.ok content, state) :=
        steady.read_eq (Files.content?_eq_some_iff.mp known).2
      refine ⟨_, rfl, ?_⟩
      dsimp only [runExec, Command.builtins] at opened ⊢
      rw [run_bind read, opened]
      rfl

end Asked

end Runs

end CommandLine

end HostBridge
