/-
This file shows that a script runs alike as a text, by a name, from its bytes and from its files.
-/
import HostBridge.Proofs.Decoding
import HostBridge.Proofs.Isolation
import HostBridge.Proofs.Program
import HostBridge.Proofs.Records
import HostBridge.Proofs.Table
import Mathlib

namespace HostBridge

open Text

section Files

variable {S : Type}

/-- What is written to a path stands there. -/
def Files.Keeps (files : Files (StateM S)) (path : String) : Prop :=
  ∀ content state left, (files.write path content).run state = (.ok (), left) →
    files.content? path left = some content

end Files

section Sentinels

variable {State : Type} {engine : Engine State} {one two : Bridge State} {script : String}

/-- Two evaluations differ in their sentinels at most: the engine gives both up for the same reason,
or what it prints differs in the sentinel in front of the result and no line before it begins with
either sentinel. -/
inductive Evaluation.Alike (engine : Engine State) (one two : Evaluation State) : Prop where
  | rejected (error : EngineError) : one.answer.error = some error →
      two.answer.error = some error → Alike engine one two
  | unmarked (output : String) : one.answer.error = none → two.answer.error = none →
      engine.output one.answer.state = output → engine.output two.answer.state = output →
      ¬ BeginsLine one.sentinel.toList output.toList →
      ¬ BeginsLine two.sentinel.toList output.toList → Alike engine one two
  | marked (before rest : String) : one.answer.error = none → two.answer.error = none →
      engine.output one.answer.state = before ++ one.sentinel ++ rest →
      engine.output two.answer.state = before ++ two.sentinel ++ rest → Ended before.toList →
      ¬ BeginsLine one.sentinel.toList before.toList →
      ¬ BeginsLine two.sentinel.toList before.toList → Alike engine one two

/-- A text is cut at its first line feed. -/
theorem exists_firstLine (text : String) :
    ∃ line ending : String, text = line ++ ending ∧ '\n' ∉ line.toList ∧
      (ending = "" ∨ ∃ rest, ending = "\n" ++ rest) := by
  by_cases feed : '\n' ∈ text.toList
  · obtain ⟨line, rest, same, free⟩ := List.eq_append_cons_of_mem feed
    refine ⟨String.ofList line, "\n" ++ String.ofList rest, ?_, by simpa using free,
      .inr ⟨_, rfl⟩⟩
    apply String.toList_inj.mp
    simpa using same
  · exact ⟨text, "", String.append_empty.symm, feed, .inl rfl⟩

/-- What is read behind a sentinel does not depend on the sentinel. -/
theorem scrape_marked {first second before rest : String} (solid : Solid first)
    (other : Solid second) (ended : Ended before.toList)
    (absent : ¬ BeginsLine first.toList before.toList)
    (missing : ¬ BeginsLine second.toList before.toList) :
    scrape (before ++ first ++ rest) first = scrape (before ++ second ++ rest) second := by
  obtain ⟨line, ending, rfl, free, ends⟩ := exists_firstLine rest
  obtain ⟨shown, returns, split, stays, onlyReturns⟩ := exists_returns line.toList
  have text : line = String.ofList shown ++ String.ofList returns :=
    String.toList_inj.mp (by simpa using split)
  have oneLine : '\n' ∉ (String.ofList shown).toList := by
    rw [split] at free
    simpa using fun inside => free (List.mem_append_left _ inside)
  have carries {sentinel : String} (none : ¬ BeginsLine sentinel.toList before.toList) :
      Carries (before ++ sentinel ++ (line ++ ending)) sentinel (String.ofList shown) :=
    .intro before (String.ofList returns) ending (by simp [text, String.append_assoc]) ended none
      oneLine (by simpa using stays) (by simpa using onlyReturns) ends
  rw [scrape, scrape, resultValue_carries solid (carries absent),
    resultValue_carries other (carries missing)]

/-- Evaluations that differ in their sentinels at most have the same result. -/
theorem Evaluation.Alike.result_eq (opened : one.isOpen = true) (also : two.isOpen = true)
    (alike : (one.evaluation engine script).Alike engine (two.evaluation engine script)) :
    (one.evaluate engine script).2 = (two.evaluate engine script).2 := by
  rw [Bridge.result_eq_resultOf engine opened, Bridge.result_eq_resultOf engine also]
  cases alike with
  | rejected error failed same => rw [failed, same, resultOf, resultOf]
  | unmarked output noError noFault printed shown absent missing =>
      have absent := (payload?_eq_none_iff one.solid_nextSentinel _).mpr absent
      have missing := (payload?_eq_none_iff two.solid_nextSentinel _).mpr missing
      rw [noError, noFault, printed, shown, resultOf, resultOf, scrape, scrape, resultValue,
        resultValue, absent, missing]
  | marked before rest noError noFault printed shown ended absent missing =>
      rw [noError, noFault, printed, shown]
      exact congrArg Prod.snd
        (scrape_marked one.solid_nextSentinel two.solid_nextSentinel ended absent missing)

end Sentinels

section Surroundings

variable {State : Type} {engine : Engine State} {bridge : Bridge State} {ambient : Ambient}

/-- The bridge in other surroundings. -/
def Bridge.around (ambient : Ambient) (bridge : Bridge State) : Bridge State :=
  { bridge with ambient := ambient }

/-- Surroundings make no difference to a result but by the sentinel. -/
theorem Bridge.result_around (sentinel : (bridge.around ambient).nextSentinel = bridge.nextSentinel)
    (script : String) :
    ((bridge.around ambient).evaluate engine script).2 = (bridge.evaluate engine script).2 := by
  cases opened : bridge.isOpen with
  | false =>
      have closed : (bridge.around ambient).isOpen = false := opened
      rw [evaluate_refused _ _ _ closed, evaluate_refused _ _ _ opened]
  | true =>
      have alike : (bridge.around ambient).isOpen = true := opened
      have submission : (bridge.around ambient).submission script = bridge.submission script := by
        rw [Bridge.submission, Bridge.submission, sentinel]
        rfl
      have events : (bridge.around ambient).submissionEvents script =
          bridge.submissionEvents script := by
        rw [submissionEvents, submissionEvents, submission]
        rfl
      have answer : ((bridge.around ambient).evaluation engine script).answer =
          (bridge.evaluation engine script).answer := by
        rw [evaluation, evaluation, submission, events]
        rfl
      rw [evaluate_eq_settle _ _ _ alike, evaluate_eq_settle _ _ _ opened, answer]
      simp only [settle, submissionResult_eq, sentinel]

end Surroundings

namespace CommandLine

variable {S State : Type} {runtime : Runtime State} {files : Files (StateM S)}
  {arguments : Arguments} {configuration : Configuration} {input output script : String}
  {builtins : Bool} {state left : S}

section Compilation

variable {ambient : Ambient} (steady : files.Steady)
  (command : arguments.command = .compile input output)

include steady command

/-- A compilation that succeeds has loaded its configuration, has found a text and has written the
bytes of the text. -/
theorem run_compile (succeeded : ((arguments.run runtime files ambient).run state).1.code = 0) :
    ∃ configuration script,
      ((loadConfiguration files arguments.config).run state).1 = .ok configuration ∧
        files.content? input state = some (encodeUtf8 script) ∧
        (files.write output (encodeUtf8 script)).run state =
          (.ok (), ((arguments.run runtime files ambient).run state).2) := by
  cases loaded : ((loadConfiguration files arguments.config).run state).1 with
  | error error =>
      rw [run_unconfigured runtime ambient steady loaded] at succeeded
      exact absurd succeeded Nat.one_ne_zero
  | ok configuration =>
      have source : arguments.command.source? = some input := by rw [command]; rfl
      rw [run_configured runtime ambient steady loaded] at succeeded ⊢
      cases unfit : arguments.command.defect? (arguments.command.found files state) with
      | some defect =>
          rw [unfit] at succeeded
          exact absurd succeeded Nat.one_ne_zero
      | none =>
          have present := Command.isPresent_of_fit source unfit
          rw [unfit] at succeeded
          dsimp only [Option.elim_none] at succeeded ⊢
          rw [runCommand, command] at succeeded ⊢
          dsimp only at succeeded ⊢
          generalize ran : (runCompile runtime files arguments configuration ambient input
            output).run state = answer at succeeded ⊢
          obtain ⟨outcome, left⟩ := answer
          cases compiles_of_run steady ran with
          | unread | unopened | unwritten => exact absurd succeeded Nat.one_ne_zero
          | written script events left text opened stored =>
              exact ⟨configuration, script, rfl, Files.content?_eq_some_iff.mpr ⟨present,
                (fileText_eq_ok_iff _ script).mp text⟩, stored⟩

/-- A text is compiled when an engine starts and the output can be written. -/
theorem run_compile_stored (runtime : Runtime State) (ambient : Ambient)
    (loaded : ((loadConfiguration files arguments.config).run state).1 = .ok configuration)
    (content : files.content? input state = some (encodeUtf8 script)) {bridge : Bridge State}
    (opened : openBridge runtime configuration ambient false = .ok bridge)
    (written : (files.write output (encodeUtf8 script)).run state = (.ok (), left)) :
    ((arguments.run runtime files ambient).run state).1.code = 0 ∧
      ((arguments.run runtime files ambient).run state).2 = left := by
  obtain ⟨present, known⟩ := Files.content?_eq_some_iff.mp content
  have text : fileText ((files.read input).run state).1 = .ok script :=
    (fileText_eq_ok_iff _ _).mpr known
  have fit : arguments.command.defect? (arguments.command.found files state) = none := by
    simp [command, Command.found, Command.source?, Command.defect?, present]
  rw [run_configured runtime ambient steady loaded, fit]
  dsimp only [Option.elim_none]
  rw [runCommand, command]
  dsimp only
  generalize ran : (runCompile runtime files arguments configuration ambient input output).run
    state = answer
  obtain ⟨outcome, left⟩ := answer
  cases compiles_of_run steady ran with
  | unread error unread => cases text.symm.trans unread
  | unopened script failure read unopened => cases opened.symm.trans unopened
  | unwritten script events error left read opened stored =>
      obtain rfl := Except.ok.inj (text.symm.trans read)
      cases written.symm.trans stored
  | written script events left read opened stored =>
      obtain rfl := Except.ok.inj (text.symm.trans read)
      exact ⟨rfl, congrArg Prod.snd (stored.symm.trans written)⟩

end Compilation

section Openings

variable {ambient other : Ambient}

/-- A bridge in other surroundings. -/
theorem openBridge_around (runtime : Runtime State) (configuration : Configuration)
    (ambient other : Ambient) (builtins : Bool) :
    openBridge runtime configuration other builtins =
      (openBridge runtime configuration ambient builtins).map (Bridge.around other) := by
  unfold openBridge Runtime.bridge? Bridge.start
  cases configuration.defect? with
  | some defect => rfl
  | none =>
      cases runtime.start configuration with
      | error error => rfl
      | ok state =>
          dsimp only
          cases runtime.engine.attach state with
          | error error => rfl
          | ok attached => cases builtins <;> rfl

/-- What is printed and how it ends follows from the result. -/
theorem evaluated_alike (engine : Engine State) (arguments : Arguments) (one two : Command)
    (first second : Bridge State) (result : Except String Translated) :
    (evaluated engine { arguments with command := one } first result).output =
        (evaluated engine { arguments with command := two } second result).output ∧
      (evaluated engine { arguments with command := one } first result).failure =
        (evaluated engine { arguments with command := two } second result).failure := by
  cases result <;> exact ⟨rfl, rfl⟩

end Openings

/-- The program prints the same and ends alike when it runs the script of one file from its text and
the script of another file from its bytes. -/
def RunsAlike (runtime : Runtime State) (files : Files (StateM S)) (arguments : Arguments)
    (ambient other : Ambient) (input output : String) (builtins : Bool) (state left : S) : Prop :=
  ∃ named executed : Outcome,
    ((({ arguments with command := .eval none (some input) builtins } : Arguments).run runtime files
        ambient).run state).1 = named.report arguments.level ∧
      ((({ arguments with command := .exec output builtins } : Arguments).run runtime files
        other).run left).1 = executed.report arguments.level ∧
      executed.output = named.output ∧ executed.failure = named.failure

/-- Two files with the bytes of one script make the program run alike, if the sentinels are all that
differs. -/
theorem runsAlike_of_content (ignores : runtime.engine.IgnoresRecords) (steady : files.Steady)
    {ambient other : Ambient}
    (holds : files.content? input state = some (encodeUtf8 script))
    (stored : files.content? output left = some (encodeUtf8 script))
    (loaded : ((loadConfiguration files arguments.config).run state).1 = .ok configuration)
    (again : ((loadConfiguration files arguments.config).run left).1 = .ok configuration)
    (alike : ∀ one two, openBridge runtime configuration ambient builtins = .ok one →
      openBridge runtime configuration other builtins = .ok two →
      one.nextSentinel ≠ two.nextSentinel →
      (one.evaluation runtime.engine script).Alike runtime.engine
        (two.evaluation runtime.engine script)) :
    RunsAlike runtime files arguments ambient other input output builtins state left := by
  have named : ({ arguments with command := .eval none (some input) builtins } :
      Arguments).command.Asks files state (.evaluateNamed script input) := .file _ _ _ holds
  have executed : ({ arguments with command := .exec output builtins } :
      Arguments).command.Asks files left (.execute (encodeUtf8 script)) := .bytes _ _ _ stored
  refine ⟨_, _, run_asked named runtime ambient steady loaded,
    run_asked executed runtime other steady again, ?_⟩
  have around := openBridge_around runtime configuration ambient other builtins
  cases opened : openBridge runtime configuration ambient builtins with
  | error failure =>
      rw [opened] at around
      rw [runCommand_unopened named steady opened, runCommand_unopened executed steady around]
      exact ⟨rfl, rfl⟩
  | ok bridge =>
      rw [opened] at around
      obtain ⟨_, ⟨⟩, first⟩ := runCommand_opened named steady opened
      obtain ⟨_, ⟨⟩, second⟩ := runCommand_opened executed steady around
      have same : ((bridge.around other).execute runtime.engine (encodeUtf8 script)).2 =
          (bridge.evaluateNamed runtime.engine script input).2 := by
        rw [Bridge.execute, decodeUtf8_encodeUtf8, Bridge.evaluateNamed, bridge.result_log ignores]
        by_cases sentinel : (bridge.around other).nextSentinel = bridge.nextSentinel
        · exact Bridge.result_around sentinel script
        · exact ((alike bridge _ opened around (Ne.symm sentinel)).result_eq
            (fresh_of_openBridge opened).1 (fresh_of_openBridge around).1).symm
      rw [first, second, same]
      exact evaluated_alike runtime.engine arguments _ _ _ _ _

end CommandLine

section Folders

/-- The path is a name in the working directory, and both are short enough. -/
structure Path.Plain (text name : String) : Prop where
  checked : checkedPath text = .ok ⟨workingRoute, [name], false, false⟩
  short : ¬ longestName < name.utf8ByteSize
  proper : name ≠ ".."

variable {text name : String}

theorem Folder.find_plain (folder : Folder) (plain : Path.Plain text name) :
    folder.find workingRoute name = .ok
      (match Table.lookup? folder name with
        | some content => .file content
        | none => .absent) := by
  rw [find, if_neg plain.short, Route.step, if_neg plain.proper]
  rfl

/-- A plain name finds what the folder holds under it. -/
theorem Folder.held_plain (folder : Folder) (plain : Path.Plain text name) {content : List UInt8}
    (held : Table.lookup? folder name = some content) :
    folder.isPresent text = true ∧ folder.read text = .ok content := by
  have found := folder.find_plain plain
  rw [held] at found
  have seek : folder.seek text = .ok (.file content) := by
    simp only [seek, plain.checked, bind, Except.bind, List.dropLast_singleton, walk,
      List.getLast?_singleton, found]
    rfl
  rw [isPresent, read, seek]
  exact ⟨rfl, rfl⟩

/-- What is written to a plain name is put into the folder under it. -/
theorem Folder.write_plain (folder : Folder) (plain : Path.Plain text name)
    (content : List UInt8) :
    (Folder.files.write text content).run folder = (.ok (), Table.put folder name content) := by
  have target : folder.target text = .ok (name :: workingRoute) := by
    have found := folder.find_plain plain
    have step : workingRoute.step name = name :: workingRoute := by
      rw [Route.step, if_neg plain.proper]
    simp only [target, plain.checked, bind, Except.bind, List.dropLast_singleton, walk,
      List.getLast?_singleton, found, step]
    cases Table.lookup? folder name <;> rfl
  have stored : folder.write text content = (Table.put folder name content, .ok ()) := by
    rw [write, target]
    rfl
  show ((folder.write text content).2, (folder.write text content).1) = _
  rw [stored]

/-- A folder keeps what is written to a name in it. -/
theorem Folder.keeps_plain (plain : Path.Plain text name) : Folder.files.Keeps text := by
  intro content folder left written
  rw [folder.write_plain plain] at written
  obtain rfl := (Prod.mk.inj written).2
  have held : Table.lookup? (Table.put folder name content) name = some content := by
    rw [Table.lookup?_put, if_pos rfl]
  exact Files.content?_eq_some_iff.mpr (Folder.held_plain _ plain held)

end Folders

open CommandLine in
/-- A script runs alike as a text, by a name and from its bytes: the same is submitted, and the result
and what is left of the bridge are the same but for the records in front. A compilation that succeeds
has written the bytes of its file, and from a file that keeps them the script is printed alike and
ends alike. When the sentinels of the two runs differ, what the engine prints is to be the same but
for them. -/
theorem scripts_run_alike :
    (∀ (State : Type) (engine : Engine State), engine.IgnoresRecords →
      ∀ (bridge : Bridge State) (script file : String),
        let compiled := bridge.compile script file
        let once := bridge.unrecorded.evaluate engine script
        let submitted (bridge : Bridge State) (command : Bridge.Command) :=
          (bridge.evaluation? engine command).map Evaluation.submission
        submitted bridge (.evaluateNamed script file) = submitted bridge (.evaluate script) ∧
          submitted compiled.1 (.execute compiled.2) = submitted bridge (.evaluate script) ∧
          bridge.evaluate engine script = (once.1.behind bridge.host.events, once.2) ∧
          bridge.evaluateNamed engine script file =
            (once.1.behind (bridge.host.events ++ [.evaluating file]), once.2) ∧
          compiled.1.execute engine compiled.2 =
            (once.1.behind (bridge.host.events ++ [.compiling file compiled.2.length]), once.2)) ∧
    ∀ (State S : Type) (runtime : Runtime State) (files : Files (StateM S)),
      runtime.engine.IgnoresRecords → files.Steady →
      ∀ (arguments : Arguments) (compiling : Ambient) (input output : String) (state : S),
        let done := (({ arguments with command := .compile input output } : Arguments).run runtime
          files compiling).run state
        done.1.code = 0 → ∃ configuration script,
          ((loadConfiguration files arguments.config).run state).1 = .ok configuration ∧
          files.content? input state = some (encodeUtf8 script) ∧
          (files.write output (encodeUtf8 script)).run state = (.ok (), done.2) ∧
          (files.Keeps output →
            ((loadConfiguration files arguments.config).run done.2).1 = .ok configuration →
            ∀ (ambient other : Ambient) (builtins : Bool),
              (∀ one two, openBridge runtime configuration ambient builtins = .ok one →
                openBridge runtime configuration other builtins = .ok two →
                one.nextSentinel ≠ two.nextSentinel →
                (one.evaluation runtime.engine script).Alike runtime.engine
                  (two.evaluation runtime.engine script)) →
              RunsAlike runtime files arguments ambient other input output builtins state
                done.2) := by
  refine ⟨?library, ?programs⟩
  case library =>
    intro State engine ignores bridge script file compiled once submitted
    have decoded : Text.decodeUtf8 compiled.2 = .ok script := Text.decodeUtf8_encodeUtf8 script
    have known : (Bridge.Command.execute compiled.2).script? = some script :=
      Bridge.Command.script?_execute_iff.mpr decoded
    refine ⟨?_, ?_, ?_, bridge.evaluate_log ignores [.evaluating file] script, ?_⟩
    · simp only [submitted, Bridge.evaluation?]
      split <;> rfl
    · have opened : compiled.1.isOpen = bridge.isOpen := rfl
      simp only [submitted, Bridge.evaluation?, known, opened]
      split <;> rfl
    · have same := bridge.evaluate_log ignores [] script
      rw [bridge.log_nil, List.append_nil] at same
      exact same
    · rw [Bridge.execute, decoded]
      exact bridge.evaluate_log ignores [.compiling file compiled.2.length] script
  case programs =>
    intro State S runtime files ignores steady arguments compiling input output state done succeeded
    obtain ⟨configuration, script, loaded, content, written⟩ := run_compile steady rfl succeeded
    refine ⟨configuration, script, loaded, content, written, ?_⟩
    intro keeps again ambient other builtins alike
    exact runsAlike_of_content ignores steady content (keeps _ _ _ written) loaded again alike

/-- A script with a letter that takes two bytes runs alike from its text, by its name, from its bytes
and from two files of a folder, in runs with sentinels of their own. -/
theorem scripts_run_alike_stored :
    let script := "'\u00e9'"
    let folder : Folder := [("f.js", encodeUtf8 script)]
    let arguments : CommandLine.Arguments := ⟨.objects, "info", false, none, false⟩
    let plan : List PlanStep := [.call "math" "abs" "[-1]", .printReply]
    let start := Planned.ofPlan [.print ["log\n", "1\n"]]
    let runtime : Runtime Planned := ⟨Planned.engine, fun _ => .ok start⟩
    let first : Ambient := ⟨fun _ => 0, fun _ => 0⟩
    let second : Ambient := ⟨fun _ => 1, fun _ => 1⟩
    (∃ bridge, Bridge.start Planned.engine Configuration.default first (Planned.ofPlan plan) =
        .ok bridge ∧
      let compiled := bridge.compile script "f.js"
      (compiled.1.execute Planned.engine compiled.2).2 = (bridge.evaluate Planned.engine script).2 ∧
        (bridge.evaluateNamed Planned.engine script "f.js").2 =
          (bridge.evaluate Planned.engine script).2) ∧
    let done := (({ arguments with command := .compile "f.js" "g.js" } : CommandLine.Arguments).run
      runtime Folder.files first).run folder
    done.1.code = 0 ∧ (Folder.files.write "g.js" (encodeUtf8 script)).run folder = (.ok (), done.2) ∧
      CommandLine.RunsAlike runtime Folder.files arguments first second "f.js" "g.js" true folder
        done.2 := by
  intro script folder arguments plan start runtime first second
  obtain ⟨library, programs⟩ := scripts_run_alike
  constructor
  · refine ⟨_, rfl, ?_⟩
    obtain ⟨-, -, once, named, executed⟩ := library _ _ Planned.ignoresRecords
      ⟨Configuration.default, first, Host.empty.log [.ready .unique],
        Planned.ofPlan plan, true, 0, []⟩ script "f.js"
    exact ⟨(congrArg Prod.snd executed).trans (congrArg Prod.snd once).symm,
      (congrArg Prod.snd named).trans (congrArg Prod.snd once).symm⟩
  · intro done
    have source : Path.Plain "f.js" "f.js" := ⟨by cbv, by decide, by decide⟩
    have target : Path.Plain "g.js" "g.js" := ⟨by cbv, by decide, by decide⟩
    have written := folder.write_plain target (encodeUtf8 script)
    have holds : Folder.files.content? "f.js" folder = some (encodeUtf8 script) :=
      Files.content?_eq_some_iff.mpr (folder.held_plain source rfl)
    have compiles : ({ arguments with command := .compile "f.js" "g.js" } :
        CommandLine.Arguments).command = .compile "f.js" "g.js" := rfl
    obtain ⟨succeeded, left⟩ := CommandLine.run_compile_stored Folder.files_steady compiles runtime
      first rfl holds rfl written
    obtain ⟨configuration, found, loaded, content, stored, alike⟩ :=
      programs _ _ runtime Folder.files Planned.ignoresRecords Folder.files_steady arguments first
        "f.js" "g.js" folder succeeded
    obtain rfl : Configuration.default = configuration := Except.ok.inj loaded
    have same : encodeUtf8 found = encodeUtf8 script := Option.some.inj (content.symm.trans holds)
    rw [same] at stored
    refine ⟨succeeded, stored, alike (Folder.keeps_plain target) rfl first second true ?_⟩
    intro one two opened other _
    have printed (bridge : Bridge Planned) (fresh : bridge.state = start) :
        (bridge.evaluation Planned.engine found).answer.error = none ∧
          Planned.engine.output (bridge.evaluation Planned.engine found).answer.state =
            "log\n" ++ bridge.nextSentinel ++ "1\n" := by
      rw [Bridge.evaluation, fresh]
      exact ⟨rfl, String.empty_append⟩
    obtain ⟨noError, line⟩ := printed one (by cases opened; rfl)
    obtain ⟨noFault, also⟩ := printed two (by cases other; rfl)
    have ended : Ended "log\n".toList := by decide
    have free (bridge : Bridge Planned) : ¬ BeginsLine bridge.nextSentinel.toList "log\n".toList := by
      have solid := bridge.solid_nextSentinel
      have marker : resultMarker.toList <+: bridge.nextSentinel.toList := by
        rw [Bridge.nextSentinel]
        cases bridge.configuration.sentinel <;> simp [SentinelMode.sentinel]
      rw [beginsLine_iff (by simpa using solid.filled) ⟨solid.noFeed, solid.noReturn⟩]
      rintro ⟨line, known, begins⟩
      obtain rfl : line = "log".toList := List.mem_singleton.mp known
      exact absurd (marker.trans begins) (by decide)
    exact .marked "log\n" "1\n" noError noFault line also ended (free one) (free two)

end HostBridge
