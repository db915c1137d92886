/-
This file shows which payloads of a result line make a value.
-/
import HostBridge.Proofs.Accepting
import HostBridge.Proofs.Magnitude
import HostBridge.Proofs.Sentinel

namespace HostBridge

namespace Json

/-- The payloads that are decoded: brackets nest not too deep, every surrogate has its pair, and the
decoder can scale every number. -/
def Decodable (text : String) : Prop := IsText .decoded depthLimit text.toList

/-- A string that is decoded is one of JSON. -/
theorem characters_of_decoded {text rest : List Char}
    (characters : Characters Dialect.decoded.code text rest) :
    Characters Dialect.all.code text rest := by
  induction characters with
  | close => exact .close
  | plain noQuote noBackslash visible _ ih => exact .plain noQuote noBackslash visible ih
  | escape plain _ ih => exact .escape plain ih
  | numeric paired _ ih =>
      cases paired with
      | single hex => exact .numeric ⟨_, hex⟩ ih
      | pair hex _ found => exact .numeric ⟨_, hex⟩ (.numeric ⟨_, found⟩ ih)

/-- A payload that is decoded is JSON. -/
theorem Decodable.isJson {text : String} (decodable : Decodable text) : IsJson text := by
  obtain ⟨start, behind, blanks, value, ends⟩ := decodable
  exact ⟨depthLimit, start, behind, blanks,
    value.mono characters_of_decoded (fun _ _ => trivial), ends⟩

theorem not_decodable_empty : ¬ Decodable "" := by
  rw [Decodable, ← exists_ofText_iff]
  rintro ⟨value, decoded⟩
  cases decoded

end Json

/-- What a text behind the sentinel makes of a result. -/
structure Settles (shown : String) (result : Except EvaluationError Translated) : Prop where
  value : (∃ value, result = .ok value) ↔ Json.Decodable shown
  malformed : (∃ fault, result = .error (.malformedResult shown fault)) ↔
    shown ≠ "" ∧ ¬ Json.Decodable shown
  empty : result = .error .emptyResult ↔ shown = ""

/-- What is found behind a sentinel settles the result. -/
theorem settles_scrape {output sentinel shown : String} (solid : Solid sentinel)
    (carries : Carries output sentinel shown) : Settles shown (scrape output sentinel).2 := by
  have decoded := Json.exists_ofText_iff shown
  have result := resultValue_carries solid carries
  by_cases empty : shown = ""
  · subst empty
    have refused := Json.not_decodable_empty
    rw [if_pos rfl] at result
    constructor <;> simp [scrape, result, refused]
  · rw [if_neg empty] at result
    cases read : Json.ofText shown with
    | error fault =>
        have refused : ¬ Json.Decodable shown := by
          rw [Json.Decodable, ← decoded]
          simp [read]
        constructor <;> simp [scrape, result, read, Except.mapError, refused, empty]
    | ok value =>
        have accepted : Json.Decodable shown := decoded.mp ⟨value, read⟩
        constructor <;> simp [scrape, result, read, Except.mapError, accepted, empty]

variable {State : Type}

/-- A bridge has sentinels that fill a part of one line. -/
theorem Bridge.solid_nextSentinel (bridge : Bridge State) : Solid bridge.nextSentinel := by
  unfold nextSentinel
  cases bridge.configuration.sentinel with
  | fixed => exact solid_resultMarker
  | unique => exact bridge.ambient.solid_mark (bridge.evaluations + 1)

/-- The result of an answered evaluation is found behind a sentinel that reads as one. -/
theorem Bridge.result_of_answered {engine : Engine State} {bridge : Bridge State}
    {command : Bridge.Command} {evaluation : Evaluation State}
    (evaluated : bridge.evaluation? engine command = some evaluation)
    (noError : evaluation.answer.error = none) :
    Solid evaluation.sentinel ∧
      evaluation.result = (scrape (engine.output evaluation.answer.state) evaluation.sentinel).2 := by
  have evaluates := Bridge.evaluates_perform evaluated
  exact ⟨evaluates.sentinel ▸ bridge.solid_nextSentinel, evaluates.scraped noError⟩

/-- A payload makes a value exactly when it is JSON inside the limits of the decoder, and any other
one is malformed. The decoder scales digits in doubles, so that its limit for numbers is no single
number: it is a few units of the last place around the greatest double, unless the exponent is too
long to be read. -/
theorem results_settled_by_payload :
    (∀ text : String, Json.Decodable text → Json.IsJson text) ∧
    (∀ numeral : Json.Numeral,
      ((∀ exponent ∈ numeral.exponent, exponent.size < 0x80000000) →
        (|numeral.exact| ≤ 2 ^ 1024 - 2 ^ 973 → numeral.Fits) ∧
          (2 ^ 1024 + 2 ^ 973 ≤ |numeral.exact| → ¬ numeral.Fits)) ∧
      ∀ exponent ∈ numeral.exponent, 0x80000000 ≤ exponent.size →
        (numeral.Fits ↔ numeral.exact = 0 ∨ exponent.isNegative = true)) ∧
    (∀ sentinel output shown : String, Solid sentinel → Carries output sentinel shown →
      Settles shown (scrape output sentinel).2) ∧
    ∀ (State : Type) (engine : Engine State) (bridge : Bridge State) (command : Bridge.Command)
      (evaluation : Evaluation State) (shown : String),
      bridge.evaluation? engine command = some evaluation → evaluation.answer.error = none →
      Carries (engine.output evaluation.answer.state) evaluation.sentinel shown →
      Settles shown evaluation.result := by
  refine ⟨fun _ decodable => decodable.isJson, fun numeral => ⟨fun small =>
    ⟨numeral.fits_of_le small, numeral.not_fits_of_le small⟩, fun _ written far =>
      numeral.fits_iff_of_far written far⟩, fun _ _ _ solid carries =>
    settles_scrape solid carries, ?_⟩
  intro State engine bridge command evaluation shown evaluated noError carries
  obtain ⟨solid, result⟩ := Bridge.result_of_answered evaluated noError
  rw [result]
  exact settles_scrape solid carries

/-- A payload on a line of its own is carried whole. -/
theorem Solid.carries_line {sentinel : String} (solid : Solid sentinel) (payload : String)
    (oneLine : '\n' ∉ payload.toList) (stays : payload.toList.getLast? ≠ some '\r') :
    Carries (sentinel ++ payload ++ "\n") sentinel payload :=
  .intro "" "" "\n" (by simp) (by decide) solid.not_beginsLine_empty oneLine stays (by simp)
    (.inr ⟨"", rfl⟩)

/-- An engine that answers every script with one payload. -/
def Engine.answering (payload : String) : Engine String :=
  .printing fun sentinel => sentinel ++ payload ++ "\n"

/-- Every script that such an engine is given has the payload as its result. -/
theorem Engine.exists_answering (payload : String) (oneLine : '\n' ∉ payload.toList)
    (stays : payload.toList.getLast? ≠ some '\r') :
    ∃ bridge, Bridge.start (.answering payload) Configuration.default .counting "" = .ok bridge ∧
      ∀ script, ∃ evaluation,
        bridge.evaluation? (.answering payload) (.evaluate script) = some evaluation ∧
          evaluation.answer.error = none ∧
          Carries ((Engine.answering payload).output evaluation.answer.state) evaluation.sentinel
            payload := by
  obtain ⟨bridge, started, opened⟩ : ∃ bridge,
      Bridge.start (.answering payload) Configuration.default .counting "" = .ok bridge ∧
        bridge.isOpen = true := ⟨_, rfl, rfl⟩
  refine ⟨bridge, started, fun script =>
    ⟨bridge.evaluation (.answering payload) script, ?_, rfl, ?_⟩⟩
  · rw [Bridge.evaluation?, if_pos opened]
    rfl
  · exact bridge.solid_nextSentinel.carries_line payload oneLine stays

/-- The literal of a power of ten. -/
def Json.Numeral.ofExponent (exponent : Json.Exponent) : Json.Numeral where
  negative := false
  whole := ⟨['1'], by simp, List.all_eq_true.mp rfl⟩
  plain := by simp
  fraction := none
  exponent := some exponent

theorem Json.Numeral.exact_ofExponent (exponent : Json.Exponent) :
    (ofExponent exponent).exact = 10 ^ exponent.value := by
  have one : (ofExponent exponent).digits = 1 := rfl
  have power : (ofExponent exponent).power = exponent.value := sub_zero _
  rw [exact, one, power, Nat.cast_one, one_mul]
  rfl

/-- A line in front of the result and carriage returns behind it do not matter, and an engine that
prints the result makes the value of an evaluation. A great number is decoded, but no greater one
than the doubles, and a small one with any exponent. -/
theorem results_settled_by_payload_printed :
    (∃ one two three : Json.Numeral, String.ofList one.text = "1e308" ∧ one.Fits ∧
      String.ofList two.text = "1e309" ∧ ¬ two.Fits ∧
      String.ofList three.text = "1e-9876543210" ∧ three.Fits) ∧
    Settles "[true]" (scrape ("log\n" ++ resultMarker ++ "[true]" ++ "\r" ++ "\nlog")
      resultMarker).2 ∧
    ∃ bridge, Bridge.start (.answering "[true]") Configuration.default .counting "" = .ok bridge ∧
      ∃ evaluation, bridge.evaluation? (.answering "[true]") (.evaluate "1") = some evaluation ∧
        Settles "[true]" evaluation.result := by
  obtain ⟨-, ranged, scraped, evaluated⟩ := results_settled_by_payload
  have first : ¬ Text.BeginsLine resultMarker.toList "log\n".toList := by
    rw [Text.beginsLine_iff (by decide) (by decide)]
    decide
  have carries : Carries ("log\n" ++ resultMarker ++ "[true]" ++ "\r" ++ "\nlog") resultMarker
      "[true]" :=
    .intro "log\n" "\r" "\nlog" rfl (by decide) first (by decide) (by decide) (by simp)
      (.inr ⟨"log", rfl⟩)
  obtain ⟨bridge, started, answers⟩ := Engine.exists_answering "[true]" (by decide) (by decide)
  obtain ⟨evaluation, known, noError, line⟩ := answers "1"
  refine ⟨?_, scraped _ _ _ solid_resultMarker carries, bridge, started, evaluation, known,
    evaluated _ _ bridge _ _ _ known noError line⟩
  let exponent (sign : Option Char) (signs : ∀ c ∈ sign, c = '+' ∨ c = '-') (digits : Json.Digits) :
      Json.Exponent := ⟨'e', rfl, sign, signs, digits⟩
  let high := exponent none nofun ⟨"308".toList, by simp, List.all_eq_true.mp rfl⟩
  let higher := exponent none nofun ⟨"309".toList, by simp, List.all_eq_true.mp rfl⟩
  let low := exponent (some '-') (by simp) ⟨"9876543210".toList, by simp, List.all_eq_true.mp rfl⟩
  have fits := ((ranged (.ofExponent high)).1 (by decide +kernel)).1
  have misses := ((ranged (.ofExponent higher)).1 (by decide +kernel)).2
  have far := (ranged (.ofExponent low)).2 low rfl (by decide +kernel)
  have value : high.value = (308 : ℕ) ∧ higher.value = (309 : ℕ) := by decide +kernel
  rw [Json.Numeral.exact_ofExponent, value.1, zpow_natCast, abs_of_pos (by positivity),
    le_sub_iff_add_le] at fits
  rw [Json.Numeral.exact_ofExponent, value.2, zpow_natCast, abs_of_pos (by positivity)] at misses
  have inside : 10 ^ 308 + 2 ^ 973 ≤ 2 ^ 1024 := by decide +kernel
  have outside : 2 ^ 1024 + 2 ^ 973 ≤ 10 ^ 309 := by decide +kernel
  exact ⟨.ofExponent high, .ofExponent higher, .ofExponent low, rfl, fits (by exact_mod_cast inside),
    rfl, misses (by exact_mod_cast outside), rfl, far.mpr (.inr rfl)⟩

section Refused

open Json

/-- So many brackets around nothing. -/
def brackets (count : Nat) : List Char :=
  List.replicate count '[' ++ List.replicate count ']'

/-- Brackets around nothing are a value, however deep they nest. -/
theorem value_brackets (dialect : Dialect) (count : Nat) (rest : List Char) :
    Value dialect (count + 1) (brackets (count + 1) ++ rest) rest := by
  induction count generalizing rest with
  | zero => exact .inr (.array (.inl (.refl _)))
  | succ count ih =>
      have split : brackets (count + 2) ++ rest = '[' :: (brackets (count + 1) ++ ']' :: rest) := by
        rw [brackets, List.replicate_succ, List.replicate_succ' (n := count + 1)]
        simp [brackets]
      rw [split]
      exact .inr (.array (.inr (.last (.refl _) (ih (']' :: rest)) (.refl _))))

/-- The reader stops at the first bracket that it may not open. -/
theorem readValue_tooDeep (depth : Nat) (text : List Char) :
    ∃ stop, stop.cause = .tooDeep ∧
      readValue depth (List.replicate (depth + 1) '[' ++ text) = .error stop := by
  induction depth with
  | zero => exact ⟨_, rfl, rfl⟩
  | succ depth ih =>
      obtain ⟨stop, cause, stopped⟩ := ih
      have first : List.replicate (depth + 1) '[' ++ text =
          '[' :: (List.replicate depth '[' ++ text) := by
        rw [List.replicate_succ, List.cons_append]
      have opened : List.replicate (depth + 2) '[' ++ text =
          '[' :: (List.replicate (depth + 1) '[' ++ text) := by
        rw [List.replicate_succ, List.cons_append]
      rw [first] at stopped opened
      refine ⟨stop, cause, ?_⟩
      rw [opened, readValue_bracket, readItems, skipBlanks_cons rfl]
      simp [stopped, bind, Except.bind, Except.map]

/-- Why a text is not decoded. -/
def refusal? (text : String) : Option Cause :=
  match ofText text with
  | .error fault => some fault.cause
  | .ok _ => none

/-- Brackets that nest deeper than the limit are refused. -/
theorem refusal?_brackets {depth : Nat} (deep : depthLimit < depth) :
    refusal? (String.ofList (brackets depth)) = some .tooDeep := by
  obtain ⟨more, rfl⟩ := Nat.exists_eq_add_of_lt deep
  obtain ⟨stop, cause, stopped⟩ := readValue_tooDeep depthLimit
    (List.replicate more '[' ++ List.replicate (depthLimit + more + 1) ']')
  have split : brackets (depthLimit + more + 1) = List.replicate (depthLimit + 1) '[' ++
      (List.replicate more '[' ++ List.replicate (depthLimit + more + 1) ']') := by
    rw [brackets, ← List.append_assoc, List.replicate_append_replicate, Nat.add_right_comm]
  have read : readText (brackets (depthLimit + more + 1)) = .error stop := by
    rw [split, readText, stopped]
    rfl
  rw [refusal?, ofText, String.toList_ofList, read, ← cause]
  rfl

/-- The payload is JSON, but no value is made of it. -/
structure RefusedJson (payload : String) (cause : Cause) : Prop where
  isJson : IsJson payload
  carries : Carries (resultMarker ++ payload ++ "\n") resultMarker payload
  refused : ∃ fault, fault.cause = cause ∧
    (scrape (resultMarker ++ payload ++ "\n") resultMarker).2 =
      .error (.malformedResult payload fault)

/-- A value of JSON that the decoder refuses is refused as a payload too. -/
theorem refusedJson_of_refusal? {text : List Char} {cause : Cause} {depth : Nat}
    (value : Value .all depth text []) (visible : ∀ c ∈ text, c ≠ '\n' ∧ c ≠ '\r')
    (refused : refusal? (String.ofList text) = some cause) :
    RefusedJson (String.ofList text) cause := by
  have carries : Carries (resultMarker ++ String.ofList text ++ "\n") resultMarker
      (String.ofList text) := by
    apply solid_resultMarker.carries_line <;> rw [String.toList_ofList]
    · exact fun feed => (visible _ feed).1 rfl
    · exact fun last => (visible _ (List.mem_of_getLast? last)).2 rfl
  have filled : String.ofList text ≠ "" := by
    obtain ⟨c, others, rfl, -⟩ := exists_value value
    simp
  rw [refusal?] at refused
  split at refused
  · next fault read =>
      refine ⟨⟨depth, text, [], ?_, value, .refl []⟩, carries, fault, Option.some.inj refused, ?_⟩
      · rw [String.toList_ofList]
        exact .refl text
      · rw [scrape, resultValue_carries solid_resultMarker carries, if_neg filled, read]
        rfl
  · cases refused

/-- Brackets that nest too deep are JSON and no value, and so are the escape of half a character
and a number beyond the doubles. -/
theorem json_payload_refused :
    RefusedJson (String.ofList (brackets 128)) .tooDeep ∧
      RefusedJson "\"\\ud800\"" .endOfEscape ∧ RefusedJson "1e999" .numberOutOfRange := by
  refine ⟨?_, ?_, ?_⟩
  · have value := value_brackets .all 127 []
    rw [List.append_nil] at value
    refine refusedJson_of_refusal? value ?_ (refusal?_brackets (by decide))
    intro c member
    rcases List.mem_append.mp member with opens | closes
    · rw [List.eq_of_mem_replicate opens]
      decide
    · rw [List.eq_of_mem_replicate closes]
      decide
  · have value : Value .all 0 ['"', '\\', 'u', 'd', '8', '0', '0', '"'] [] :=
      .string (.numeric ⟨0xD800, 'd', '8', '0', '0', rfl, rfl⟩ .close)
    exact refusedJson_of_refusal? value (by simp) (by decide +kernel)
  · let exponent : Exponent := ⟨'e', rfl, none, nofun, ⟨['9', '9', '9'], by simp,
      List.all_eq_true.mp rfl⟩⟩
    have value : Value .all 0 ['1', 'e', '9', '9', '9'] [] :=
      .number (.ofExponent exponent) trivial
    exact refusedJson_of_refusal? value (by simp) (by decide +kernel)

end Refused

end HostBridge
