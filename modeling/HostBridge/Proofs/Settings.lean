/-
This file shows that configurations are read back from their texts.
-/
import HostBridge.Configuration.Reader
import HostBridge.Proofs.Encoding
import HostBridge.Proofs.Reading

namespace HostBridge.Configuration

open HostBridge.Json HostBridge.Text

section Values

variable {behind : List Char}

/-- A mode is read from its quoted name. -/
theorem readMode_quote (mode : SentinelMode) (behind : List Char) :
    readMode ((quote mode.name).toList ++ behind) = .ok (mode, behind) := by
  have scanned := scanString_quoted mode.name behind
  have split : (quote mode.name).toList ++ behind =
      '"' :: (mode.name.toList.flatMap Quoted.escape ++ '"' :: behind) := by
    simp [quote, Quoted.encode]
  rw [split, readMode, skipBlanks_cons (by decide)]
  simp only [if_true, readModeName, scanned]
  cases mode <;> rfl

/-- A size is read from its digits. -/
theorem readSize_digits (size : UInt64) (stops : Stops behind) :
    readSize (Nat.toDigits 10 size.toNat ++ behind) = .ok (size, behind) := by
  have scanned := scanNumber_toDigits size.toNat_lt stops
  obtain ⟨c, others, same, digit⟩ := exists_cons_toDigits size.toNat
  have numeral : (c = '-' || Decimal.isDigit c) = true := by rw [digit, Bool.or_true]
  rw [same, List.cons_append] at scanned ⊢
  have begun : beforeValue (c :: (others ++ behind)) = .ok (c :: (others ++ behind)) := by
    rw [beforeValue, skipBlanks_cons (isBlank_numeral (.inr digit))]
  rw [readSize, begun]
  simp only [Except.bind, numeral, if_true, scanned, Int.natCast_nonneg, Int.toNat_natCast]
  rw [Nat.toUInt64_eq, UInt64.ofNat_toNat]

/-- A limit is read from its text. -/
theorem readLimit_text (limit : Option UInt64) (stops : Stops behind) :
    readLimit ((limitText limit).toList ++ behind) = .ok (limit, behind) := by
  cases limit with
  | none => rfl
  | some size =>
      have read := readSize_digits size stops
      have digits : (limitText (some size)).toList = Nat.toDigits 10 size.toNat :=
        String.toList_ofList
      obtain ⟨c, others, same, digit⟩ := exists_cons_toDigits size.toNat
      have other := ne_of_numeral (.inr digit) (d := 'n') (by decide)
      rw [digits]
      rw [same, List.cons_append] at read ⊢
      rw [readLimit, skipBlanks_cons (isBlank_numeral (.inr digit))]
      split
      · next begins => exact absurd (List.cons.inj begins).1 other
      · rw [read]
        rfl

/-- A truth value is read from its word. -/
theorem readBoolean_text (value : Bool) (behind : List Char) :
    readBoolean ((if value then "true" else "false").toList ++ behind) = .ok (value, behind) := by
  cases value <;> rfl

end Values

/-- The text of a member: its key in quotes, a colon and its value. -/
def memberText (key value : String) : List Char :=
  '"' :: (key.toList.flatMap Quoted.escape ++ '"' :: ':' :: value.toList)

section Members

variable {draft : Draft} {behind : List Char}

/-- The member of the mode is read when there is none yet. -/
theorem readMember_sentinel (absent : draft.sentinel = none) (mode : SentinelMode)
    (behind : List Char) :
    readMember draft "sentinel" (':' :: ((quote mode.name).toList ++ behind)) =
      .ok ({ draft with sentinel := some mode }, behind) := by
  simp [readMember, absent, readAfterColon, readColon_colon, readMode_quote, Except.bind,
    Except.map]

/-- The member of the limit is read when there is none yet. -/
theorem readMember_memoryLimit (absent : draft.memoryLimit = none) (limit : Option UInt64)
    (stops : Stops behind) :
    readMember draft "memory_limit" (':' :: ((limitText limit).toList ++ behind)) =
      .ok ({ draft with memoryLimit := some limit }, behind) := by
  simp [readMember, absent, readAfterColon, readColon_colon, readLimit_text limit stops,
    Except.bind, Except.map]

/-- The member of the stack size is read when there is none yet. -/
theorem readMember_maxStackSize (absent : draft.maxStackSize = none) (limit : Option UInt64)
    (stops : Stops behind) :
    readMember draft "max_stack_size" (':' :: ((limitText limit).toList ++ behind)) =
      .ok ({ draft with maxStackSize := some limit }, behind) := by
  simp [readMember, absent, readAfterColon, readColon_colon, readLimit_text limit stops,
    Except.bind, Except.map]

/-- The member of the scripts to be logged is read when there is none yet. -/
theorem readMember_logScripts (absent : draft.logScripts = none) (value : Bool)
    (behind : List Char) :
    readMember draft "log_scripts"
        (':' :: ((if value then "true" else "false").toList ++ behind)) =
      .ok ({ draft with logScripts := some value }, behind) := by
  have read := readBoolean_text value behind
  simp [readMember, absent, readAfterColon, readColon_colon, read, Except.bind, Except.map]

/-- The next member is read at the beginning of an object or behind a comma. -/
theorem readDraft_member {key value : String} {next : Draft}
    (known : readMember draft key (':' :: (value.toList ++ behind)) = .ok (next, behind))
    (bound : Nat) :
    readDraft (bound + 1) true draft (memberText key value ++ behind) =
        readDraft bound false next behind ∧
      readDraft (bound + 1) false draft (',' :: (memberText key value ++ behind)) =
        readDraft bound false next behind := by
  have scanned := scanString_quoted key (':' :: (value.toList ++ behind))
  have comma : Json.isBlank ',' = false := by decide
  have mark : Json.isBlank '"' = false := by decide
  constructor <;>
    simp [readDraft, memberText, skipBlanks_cons comma, skipBlanks_cons mark, scanned, known, bind,
      Except.bind]

end Members

theorem toList_member (key value : String) :
    (quote key ++ ":" ++ value).toList = memberText key value := by
  simp [quote, Quoted.encode, memberText]

/-- What stands behind the opening brace. -/
def membersText (configuration : Configuration) : List Char :=
  memberText "sentinel" (quote configuration.sentinel.name) ++ (',' ::
  (memberText "memory_limit" (limitText configuration.memoryLimit) ++ (',' ::
  (memberText "max_stack_size" (limitText configuration.maxStackSize) ++ (',' ::
  (memberText "log_scripts" (if configuration.logScripts then "true" else "false") ++
    ['\x7d']))))))

theorem toList_text (configuration : Configuration) :
    configuration.text.toList = '\x7b' :: configuration.membersText := by
  have first : "\x7b\"sentinel\":" = "\x7b" ++ (quote "sentinel" ++ ":") := by decide +kernel
  have second : ",\"memory_limit\":" = "," ++ (quote "memory_limit" ++ ":") := by decide +kernel
  have third : ",\"max_stack_size\":" = "," ++ (quote "max_stack_size" ++ ":") := by decide +kernel
  have fourth : ",\"log_scripts\":" = "," ++ (quote "log_scripts" ++ ":") := by decide +kernel
  have opened : "\x7b".toList = ['\x7b'] := rfl
  have comma : ",".toList = [','] := rfl
  have closed : "\x7d".toList = ['\x7d'] := rfl
  unfold Configuration.text membersText
  simp only [first, second, third, fourth, ← toList_member, String.toList_append]
  rw [opened, comma, closed]
  simp only [List.append_assoc, List.cons_append, List.nil_append]

/-- The members that stand in the text of a configuration. -/
def draft (configuration : Configuration) : Draft where
  sentinel := some configuration.sentinel
  memoryLimit := some configuration.memoryLimit
  maxStackSize := some configuration.maxStackSize
  logScripts := some configuration.logScripts

/-- All members are read, one after another. -/
theorem readDraft_membersText (configuration : Configuration) {bound : Nat} (enough : 5 ≤ bound) :
    readDraft bound true Draft.empty configuration.membersText = .ok (configuration.draft, []) := by
  have comma (rest : List Char) : Stops (',' :: rest) := by simp [Stops]
  obtain ⟨bound, rfl⟩ := Nat.exists_eq_add_of_le' enough
  rw [membersText, (readDraft_member (readMember_sentinel rfl _ _) _).1,
    (readDraft_member (readMember_memoryLimit rfl _ (comma _)) _).2,
    (readDraft_member (readMember_maxStackSize rfl _ (comma _)) _).2,
    (readDraft_member (readMember_logScripts rfl _ _) _).2]
  rfl

theorem ofText_text (configuration : Configuration) :
    Configuration.ofText configuration.text = .ok configuration := by
  have enough : 5 ≤ configuration.membersText.length + 1 := by
    simp only [membersText, List.length_append, List.length_cons]
    omega
  have opened : beforeValue ('\x7b' :: configuration.membersText) =
      .ok ('\x7b' :: configuration.membersText) := rfl
  rw [ofText, readText, toList_text, opened]
  simp only [bind, Except.bind, readDraft_membersText configuration enough]
  rfl

end HostBridge.Configuration

namespace HostBridge

open Text

/-- A configuration is loaded from its own text unless it cannot be used. -/
theorem Configuration.load_text (configuration : Configuration) :
    Configuration.load (.ok (encodeUtf8 configuration.text)) =
      match configuration.defect? with
      | some defect => .error (.invalid defect)
      | none => .ok configuration := by
  have content : fileText (.ok (encodeUtf8 configuration.text)) = .ok configuration.text := by
    rw [fileText, Except.bind, decodeUtf8_encodeUtf8]
    rfl
  rw [load, content]
  simp only [Except.mapError, bind, Except.bind, ofText_text]
  rfl

/-- Whatever is loaded can be used. -/
theorem Configuration.defect?_of_load {content : Except FileError (List UInt8)}
    {configuration : Configuration} (loaded : Configuration.load content = .ok configuration) :
    configuration.defect? = none := by
  unfold load at loaded
  simp only [bind, Except.bind] at loaded
  split at loaded
  · cases loaded
  split at loaded
  · cases loaded
  split at loaded
  · cases loaded
  · next usable =>
      cases loaded
      exact usable

/-- The limits are absent or positive. -/
def Configuration.Usable (configuration : Configuration) : Prop :=
  (∀ size ∈ configuration.memoryLimit, 0 < size) ∧ ∀ size ∈ configuration.maxStackSize, 0 < size

theorem positive_iff (limit : Option UInt64) : (∀ size ∈ limit, 0 < size) ↔ limit ≠ some 0 := by
  cases limit with
  | none => simp
  | some size => simp [UInt64.pos_iff_ne_zero]

/-- A configuration has no defect exactly when it is usable. -/
theorem Configuration.defect?_eq_none_iff (configuration : Configuration) :
    configuration.defect? = none ↔ configuration.Usable := by
  rw [Usable, positive_iff, positive_iff, defect?]
  split
  · next zero => simp [zero]
  split
  · next zero => simp [zero]
  · next positive large => simp [positive, large]

/-- The text of a configuration is loaded as the configuration exactly if its limits are absent or
positive, and is refused as invalid otherwise. Whatever is loaded has such limits, and is loaded
from its own text again. -/
theorem configurations_round_trip (configuration : Configuration) :
    (Configuration.load (.ok (encodeUtf8 configuration.text)) = .ok configuration ↔
        configuration.Usable) ∧
      (¬ configuration.Usable → ∃ defect,
        Configuration.load (.ok (encodeUtf8 configuration.text)) = .error (.invalid defect)) ∧
      ∀ content, Configuration.load content = .ok configuration →
        configuration.defect? = none ∧
          Configuration.load (.ok (encodeUtf8 configuration.text)) = .ok configuration := by
  have loaded := configuration.load_text
  rw [← configuration.defect?_eq_none_iff]
  cases known : configuration.defect? with
  | none =>
      rw [known] at loaded
      exact ⟨iff_of_true loaded rfl, fun other => absurd rfl other, fun _ _ => ⟨rfl, loaded⟩⟩
  | some defect =>
      rw [known] at loaded
      refine ⟨?_, fun _ => ⟨defect, loaded⟩, fun content again => ?_⟩
      · rw [loaded]
        exact iff_of_false nofun nofun
      · rw [Configuration.defect?_of_load again] at known
        cases known

/-- An array is loaded too, with a name as a key and a limit of all 64 bits. -/
theorem configurations_round_trip_array :
    let content := encodeUtf8 "[\x7b\"fixed\":null\x7d, 18446744073709551615, null, true]"
    let configuration : Configuration := ⟨.fixed, some 0xFFFFFFFFFFFFFFFF, none, true⟩
    Configuration.load (.ok content) = .ok configuration ∧ configuration.Usable ∧
      Configuration.load (.ok (encodeUtf8 configuration.text)) = .ok configuration := by
  intro content configuration
  obtain ⟨usable, -, again⟩ := configurations_round_trip configuration
  have loaded : Configuration.load (.ok content) = .ok configuration := by decide +kernel
  obtain ⟨-, kept⟩ := again (.ok content) loaded
  exact ⟨loaded, usable.mp kept, kept⟩

end HostBridge
