/-
This file shows that the sentinels of different evaluations do not stand for each other.
-/
import HostBridge.Proofs.Literal
import HostBridge.Proofs.Scraping
import HostBridge.Proofs.Trace
import Mathlib.Data.Set.Function
import Mathlib.Order.Interval.Set.Defs
import Mathlib.Tactic.IntervalCases

namespace HostBridge

open Text

variable {State : Type}

theorem Text.length_hexFixed (width value : Nat) : (hexFixed width value).length = width := by
  induction width generalizing value with
  | zero => rfl
  | succ width ih => rw [hexFixed, List.length_append, ih, List.length_singleton]

/-- Digits that are as many as a value needs stand for no other value. -/
theorem Text.hexFixed_inj {width first second : Nat} (fits : first < 16 ^ width)
    (alsoFits : second < 16 ^ width) (same : hexFixed width first = hexFixed width second) :
    first = second := by
  induction width generalizing first second with
  | zero => omega
  | succ width ih =>
      obtain ⟨high, low⟩ := List.append_inj' same rfl
      have digit := hexValue?_hexDigit first
      rw [List.singleton_inj.mp low, hexValue?_hexDigit, Option.some.injEq] at digit
      have quotient : first / 16 = second / 16 :=
        ih (by rw [pow_succ] at fits; omega) (by rw [pow_succ] at alsoFits; omega) high
      omega

/-- Hexadecimal digits are no control characters. -/
theorem Text.hexFixed_visible (width value : Nat) : ∀ c ∈ hexFixed width value, 0x20 ≤ c.toNat := by
  induction width generalizing value with
  | zero => simp [hexFixed]
  | succ width ih =>
      rw [hexFixed, List.forall_mem_append]
      exact ⟨ih (value / 16), by simpa using hexDigit_visible value⟩

/-- The digits of the token of an evaluation. -/
def Ambient.digits (ambient : Ambient) (number : Nat) : String :=
  String.ofList (hexFixed 16 (ambient.token number).toNat)

/-- The mark of an evaluation that has its own. -/
def Ambient.mark (ambient : Ambient) (number : Nat) : String :=
  SentinelMode.unique.sentinel (ambient.token number)

/-- A sentinel is the fixed one with digits and a colon behind it. -/
theorem Ambient.toList_mark (ambient : Ambient) (number : Nat) :
    (ambient.mark number).toList =
      resultMarker.toList ++ (ambient.digits number).toList ++ [':'] := by
  simp [mark, digits, SentinelMode.sentinel]

/-- All sentinels have 31 characters. -/
theorem Ambient.length_mark (ambient : Ambient) (number : Nat) :
    (ambient.mark number).toList.length = 31 := by
  rw [toList_mark, List.length_append, List.length_append, digits, String.toList_ofList,
    length_hexFixed]
  rfl

/-- Sentinels are the same only if their tokens are. -/
theorem Ambient.mark_inj {ambient : Ambient} {first second : Nat}
    (same : ambient.mark first = ambient.mark second) :
    ambient.token first = ambient.token second := by
  have text := congrArg String.toList same
  rw [toList_mark, toList_mark, List.append_assoc, List.append_assoc, List.append_cancel_left_eq,
    List.append_cancel_right_eq, digits, digits, String.toList_ofList, String.toList_ofList] at text
  exact UInt64.toNat_inj.mp
    (hexFixed_inj (UInt64.toNat_lt _) (UInt64.toNat_lt _) text)

/-- One line does not begin with two marks. -/
theorem Ambient.mark_eq_of_prefix {ambient : Ambient} {first second : Nat} {line : List Char}
    (one : (ambient.mark first).toList <+: line) (two : (ambient.mark second).toList <+: line) :
    ambient.mark first = ambient.mark second := by
  have length := (ambient.length_mark first).trans (ambient.length_mark second).symm
  have contained := List.prefix_of_prefix_length_le one two length.le
  exact String.toList_inj.mp (contained.eq_of_length length)

/-- A sentinel is a part of one line. -/
theorem Ambient.solid_mark (ambient : Ambient) (number : Nat) : Solid (ambient.mark number) := by
  have visible : Visible (ambient.mark number) := by
    have digits : Visible (ambient.digits number) := by
      rw [Visible, Ambient.digits, String.toList_ofList]
      exact hexFixed_visible 16 _
    exact (Visible.append (by decide) digits).append (by decide)
  refine ⟨?_, fun member => absurd (visible _ member) (by decide),
    fun member => absurd (visible _ member) (by decide)⟩
  intro empty
  have length := ambient.length_mark number
  rw [empty] at length
  cases length

/-- Evaluations are numbered from where the bridge stands, those that fail included. -/
theorem Bridge.trace_sentinels (engine : Engine State) (bridge : Bridge State)
    (commands : List Bridge.Command) :
    (bridge.trace engine commands).map Evaluation.sentinel =
      (List.range' (bridge.evaluations + 1) (bridge.trace engine commands).length).map fun number =>
        bridge.configuration.sentinel.sentinel (bridge.ambient.token number) := by
  induction commands generalizing bridge with
  | nil => rfl
  | cons command commands ih =>
      cases evaluated : bridge.evaluation? engine command with
      | none =>
          have passes := passes_perform evaluated
          have rest := ih (bridge.perform engine command)
          rw [passes.counted, passes.configuration, passes.ambient] at rest
          rw [trace_cons evaluated]
          exact rest
      | some evaluation =>
          have evaluates := evaluates_perform evaluated
          -- The count grows whatever the engine answers.
          have rest := ih (bridge.perform engine command)
          rw [evaluates.counted, evaluates.configuration, evaluates.ambient] at rest
          rw [trace_cons evaluated, Option.toList_some, List.singleton_append, List.map_cons, rest,
            evaluates.sentinel, List.length_cons, List.range'_succ, List.map_cons]
          rfl

/-- An evaluation that the engine answered has the result that its output holds. -/
theorem Bridge.trace_scraped (engine : Engine State) (bridge : Bridge State)
    (commands : List Bridge.Command) :
    ∀ evaluation ∈ bridge.trace engine commands, evaluation.answer.error = none →
      evaluation.result =
        (scrape (engine.output evaluation.answer.state) evaluation.sentinel).2 := by
  induction commands generalizing bridge with
  | nil => simp [trace]
  | cons command commands ih =>
      rw [trace_cons rfl, List.forall_mem_append]
      refine ⟨fun evaluation evaluated => ?_, ih _⟩
      exact (evaluates_perform (Option.mem_toList.mp evaluated)).scraped

/-- A line that was printed without the knowledge of a mark: it begins with another mark, with the
bare marker and other digits, or with no marker at all. -/
inductive Foreign (marks : List String) (digits line : String) : Prop where
  | marked (mark : String) : mark ∈ marks → mark.toList <+: line.toList → Foreign marks digits line
  | bare (rest : String) : line = resultMarker ++ rest → ¬ digits.toList <+: rest.toList →
      Foreign marks digits line
  | plain : ¬ resultMarker.toList <+: line.toList → Foreign marks digits line

/-- A foreign line does not begin with the sentinel. -/
theorem Foreign.not_mark {ambient : Ambient} {number : Nat} {marks : List String} {line : String}
    (foreign : Foreign marks (ambient.digits number) line)
    (others : ∀ mark ∈ marks, mark ≠ ambient.mark number ∧ ∃ other, mark = ambient.mark other) :
    ¬ (ambient.mark number).toList <+: line.toList := by
  intro begins
  cases foreign with
  | marked mark known alsoBegins =>
      obtain ⟨different, other, rfl⟩ := others mark known
      exact different (Ambient.mark_eq_of_prefix alsoBegins begins)
  | bare rest same apart =>
      rw [same, String.toList_append, Ambient.toList_mark, List.append_assoc,
        List.prefix_append_right_inj] at begins
      exact apart ((List.prefix_append _ _).trans begins)
  | plain apart =>
      rw [Ambient.toList_mark, List.append_assoc] at begins
      exact apart ((List.prefix_append _ _).trans begins)

/-- Foreign lines before the line of a mark do not change what is found on it. -/
theorem scrape_behind_foreign {ambient : Ambient} {number : Nat} {marks : List String}
    (others : ∀ mark ∈ marks, mark ≠ ambient.mark number ∧ ∃ other, mark = ambient.mark other)
    {noise : List String} (foreign : ∀ line ∈ noise, '\n' ∉ line.toList ∧
      Foreign marks (ambient.digits number) line)
    {payload ending : String} (oneLine : '\n' ∉ payload.toList)
    (ends : ending = "" ∨ ∃ rest, ending = "\n" ++ rest) :
    scrape (String.join (noise.map (· ++ "\n")) ++ ambient.mark number ++ payload ++ ending)
        (ambient.mark number) =
      scrape (ambient.mark number ++ payload) (ambient.mark number) := by
  have solid := ambient.solid_mark number
  have text : (String.join (noise.map (· ++ "\n"))).toList =
      (noise.map String.toList).flatMap (· ++ ['\n']) := by
    simp [String.toList_join, List.flatMap_map]
  have free : ∀ line ∈ noise.map String.toList, '\n' ∉ line := by
    simpa using fun line member => (foreign line member).1
  refine scrape_eq_of_line solid ?_ ?_ oneLine ends
  · rw [text]
    exact ended_flatMap free
  · rw [text, beginsLine_flatMap_iff (by simpa using solid.filled) solid.noFeed free]
    rintro ⟨line, known, begins⟩
    obtain ⟨line, member, rfl⟩ := List.mem_map.mp known
    exact (foreign line member).2.not_mark others begins

section Marked

variable {engine : Engine State} {configuration : Configuration} {ambient : Ambient} {state : State}
  {bridge : Bridge State}

/-- The sentinels of a run are counted from one on, by induction over its commands. -/
theorem Bridge.trace_marks (unique : configuration.sentinel = .unique)
    (started : Bridge.start engine configuration ambient state = .ok bridge)
    (commands : List Bridge.Command) :
    (bridge.trace engine commands).map Evaluation.sentinel =
      (List.range' 1 (bridge.trace engine commands).length).map ambient.mark := by
  rw [bridge.trace_sentinels engine commands]
  obtain ⟨state, rfl⟩ := Bridge.eq_of_start started
  simp only [unique]
  rfl

/-- Different tokens make different sentinels. -/
theorem nodup_marks {count : Nat} (distinct : Set.InjOn ambient.token (Set.Icc 1 count)) :
    ((List.range' 1 count).map ambient.mark).Nodup := by
  refine List.Nodup.map_on (fun first one second two same => ?_) List.nodup_range'
  rw [List.mem_range'_1] at one two
  exact distinct ⟨one.1, by omega⟩ ⟨two.1, by omega⟩ (Ambient.mark_inj same)

/-- The place of an evaluation in a run is the number of its mark. -/
theorem sentinel_eq_mark {trace earlier later : List (Evaluation State)} {own : Evaluation State}
    (marks : trace.map Evaluation.sentinel = (List.range' 1 trace.length).map ambient.mark)
    (split : trace = earlier ++ own :: later) :
    own.sentinel = ambient.mark (earlier.length + 1) := by
  have listed := congrArg (fun marks : List String => marks[earlier.length]?) marks
  simp only [split, List.getElem?_map] at listed
  rw [List.getElem?_range' (by simp)] at listed
  simpa [Nat.add_comm] using listed

end Marked

/-- When no two evaluations of a bridge have the same token, no line begins with the sentinels of
two of them, and lines that were printed without the knowledge of the token of an evaluation do not
change its result. -/
theorem unique_sentinels_separate_evaluations (engine : Engine State)
    (configuration : Configuration) (unique : configuration.sentinel = .unique) (ambient : Ambient)
    (state : State) (bridge : Bridge State)
    (started : Bridge.start engine configuration ambient state = .ok bridge)
    (commands : List Bridge.Command)
    (distinct : Set.InjOn ambient.token (Set.Icc 1 (bridge.trace engine commands).length)) :
    let trace := bridge.trace engine commands
    (∀ evaluation ∈ trace, evaluation.sentinel.length = 31 ∧
      resultMarker.toList <+: evaluation.sentinel.toList ∧ [':'] <:+ evaluation.sentinel.toList) ∧
    trace.Pairwise (fun first second => first.sentinel ≠ second.sentinel ∧
      ∀ line, first.sentinel.toList <+: line → ¬ second.sentinel.toList <+: line) ∧
    ∀ earlier own later, trace = earlier ++ own :: later →
      own.sentinel = resultMarker ++ ambient.digits (earlier.length + 1) ++ ":" ∧
      ∀ (noise : List String) (payload ending : String), own.answer.error = none →
        (∀ line ∈ noise, '\n' ∉ line.toList ∧ Foreign ((earlier ++ later).map Evaluation.sentinel)
          (ambient.digits (earlier.length + 1)) line) →
        '\n' ∉ payload.toList → (ending = "" ∨ ∃ rest, ending = "\n" ++ rest) →
        engine.output own.answer.state =
          String.join (noise.map (· ++ "\n")) ++ own.sentinel ++ payload ++ ending →
        own.result = (scrape (own.sentinel ++ payload) own.sentinel).2 := by
  intro trace
  have marks : trace.map Evaluation.sentinel = (List.range' 1 trace.length).map ambient.mark :=
    Bridge.trace_marks unique started commands
  have nodup : (trace.map Evaluation.sentinel).Nodup := marks ▸ nodup_marks distinct
  have known : ∀ evaluation ∈ trace, ∃ number, evaluation.sentinel = ambient.mark number := by
    intro evaluation member
    have listed := List.mem_map_of_mem (f := Evaluation.sentinel) member
    rw [marks] at listed
    obtain ⟨number, -, same⟩ := List.mem_map.mp listed
    exact ⟨number, same.symm⟩
  refine ⟨?_, ?_, ?_⟩
  · intro evaluation member
    obtain ⟨number, same⟩ := known evaluation member
    refine ⟨?_, ?_, ?_⟩
    · rw [same, ← String.length_toList, ambient.length_mark]
    · rw [same, Ambient.toList_mark, List.append_assoc]
      exact List.prefix_append _ _
    · rw [same, Ambient.toList_mark]
      exact List.suffix_append _ _
  · refine (List.pairwise_map.mp nodup).imp_of_mem ?_
    intro first second one two different
    obtain ⟨firstNumber, firstMark⟩ := known first one
    obtain ⟨secondNumber, secondMark⟩ := known second two
    refine ⟨different, fun line begins alsoBegins => different ?_⟩
    rw [firstMark] at begins ⊢
    rw [secondMark] at alsoBegins ⊢
    exact Ambient.mark_eq_of_prefix begins alsoBegins
  · intro earlier own later split
    have mark := sentinel_eq_mark marks split
    refine ⟨mark, fun noise payload ending noError foreign oneLine ends printed => ?_⟩
    have others : ∀ mark ∈ (earlier ++ later).map Evaluation.sentinel,
        mark ≠ ambient.mark (earlier.length + 1) ∧ ∃ other, mark = ambient.mark other := by
      intro other listed
      rw [split, List.map_append, List.map_cons, List.nodup_middle, List.nodup_cons,
        ← List.map_append, mark] at nodup
      obtain ⟨evaluation, member, rfl⟩ := List.mem_map.mp listed
      refine ⟨fun same => nodup.1 (same ▸ listed), known evaluation ?_⟩
      rw [split]
      simp only [List.mem_append, List.mem_cons] at member ⊢
      tauto
    have member : own ∈ trace := by simp [split]
    rw [bridge.trace_scraped engine commands own member noError, printed, mark,
      scrape_behind_foreign others foreign oneLine ends]

/-- An engine that prints the same for every script, but for the sentinel. -/
def Engine.printing (text : String → String) : Engine String where
  attach state := .ok state
  submit submission host _ := ⟨host, text submission.sentinel, none⟩
  output state := state
  clear state := state
  close state := (state, [])

/-- The tokens are the numbers of the evaluations. -/
def Ambient.counting : Ambient := ⟨fun number => UInt64.ofNat number, fun _ => 0⟩

/-- The first sentinel of a counting world, the bare marker and a line without either. -/
def replayedLines : List String := ["QUICJS_RESULT:0000000000000001:8", "QUICJS_RESULT:9", "log"]

def replayed (sentinel : String) : String :=
  String.join (replayedLines.map (· ++ "\n")) ++ sentinel ++ "7" ++ "\n"

/-- The sentinel of an earlier evaluation and the bare marker have no effect. -/
theorem unique_sentinels_separate_evaluations_replayed :
    ∃ bridge, Bridge.start (.printing replayed) Configuration.default .counting "" = .ok bridge ∧
      ∃ first own, bridge.trace (.printing replayed) [.evaluate "1", .evaluate "2"] =
        [first, own] ∧ own.result = .ok (.integer 7) := by
  obtain ⟨bridge, started, opened⟩ : ∃ bridge,
      Bridge.start (.printing replayed) Configuration.default .counting "" = .ok bridge ∧
        bridge.isOpen = true := ⟨_, rfl, rfl⟩
  have still := (bridge.evaluate_open (.printing replayed) "1" opened).2.2.2
  have trace := bridge.trace_evaluate (.printing replayed) opened "1" [.evaluate "2"]
  rw [Bridge.trace_evaluate _ still, Bridge.trace] at trace
  refine ⟨bridge, started, _, _, trace, ?_⟩
  have distinct : Set.InjOn Ambient.counting.token (Set.Icc 1 2) := by
    rintro first ⟨_, _⟩ second ⟨_, _⟩ same
    interval_cases first <;> interval_cases second <;> first | rfl | cases same
  have one : Ambient.counting.digits 1 = "0000000000000001" := rfl
  have two : Ambient.counting.digits 2 = "0000000000000002" := rfl
  obtain ⟨-, -, separate⟩ := unique_sentinels_separate_evaluations (.printing replayed)
    Configuration.default rfl .counting "" bridge started [.evaluate "1", .evaluate "2"]
    (by rwa [trace])
  obtain ⟨earlier, -⟩ := separate [] _ _ trace
  obtain ⟨own, delivered⟩ := separate [_] _ [] trace
  generalize bridge.evaluation (.printing replayed) "1" = first at earlier own delivered
  generalize (bridge.evaluate (.printing replayed) "1").1 = bridge at own delivered ⊢
  have marked : first.sentinel = "QUICJS_RESULT:0000000000000001:" := by
    rw [earlier, List.length_nil, Nat.zero_add, one]
    rfl
  have foreign : ∀ line ∈ replayedLines, '\n' ∉ line.toList ∧
      Foreign [first.sentinel] (Ambient.counting.digits 2) line := by
    rw [marked, two]
    simp only [replayedLines, List.forall_mem_cons]
    exact ⟨⟨by decide, .marked _ (List.mem_singleton_self _) (by decide)⟩,
      ⟨by decide, .bare "9" rfl (by decide)⟩, ⟨by decide, .plain (by decide)⟩, by simp⟩
  have mark : resultMarker ++ "0000000000000002" ++ ":" = "QUICJS_RESULT:0000000000000002:" := rfl
  rw [delivered _ "7" "\n" rfl foreign (by decide) (.inr ⟨"", rfl⟩) rfl, own,
    List.length_singleton, two, mark]
  have solid : Solid "QUICJS_RESULT:0000000000000002:" := ⟨by decide, by decide, by decide⟩
  have carries : Carries ("QUICJS_RESULT:0000000000000002:" ++ "7")
      "QUICJS_RESULT:0000000000000002:" "7" :=
    .intro "" "" "" rfl (by decide) solid.not_beginsLine_empty (by decide) (by decide) (by simp)
      (.inl rfl)
  have seven : Json.ofText "7" = .ok (.number (.integer 7)) := rfl
  rw [scrape, resultValue_carries solid carries, if_neg (by decide), seven]
  rfl

end HostBridge
