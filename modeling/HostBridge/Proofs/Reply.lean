/-
This file shows that a reply tells whether the call succeeded.
-/
import HostBridge.Proofs.Echo
import HostBridge.Proofs.ProxyCall
import HostBridge.Proofs.Unambiguous

namespace HostBridge

open Json (Field IsObject)

section Outcomes

/-- The text decodes to an array and the call with its items has a value. -/
def Host.Succeeds (host : Host) (object method text : String) (value : HostValue) : Prop :=
  ∃ items, Json.ofText text = .ok (.array items) ∧
    (host.dispatch object method (HostValue.ofItems items)).2 = .ok value

/-- The text decodes to an array and the call with its items has an error, or it decodes to none. -/
inductive Host.Fails (host : Host) (object method text : String) (error : DispatchError) : Prop where
  | called (items : List Json) : Json.ofText text = .ok (.array items) →
      (host.dispatch object method (HostValue.ofItems items)).2 = .error error →
      host.Fails object method text error
  | undecoded : (∀ items, Json.ofText text ≠ .ok (.array items)) →
      decodeArguments text = .error error → host.Fails object method text error

variable {host : Host} {object method text : String}

/-- An array is decoded as its items. -/
theorem decodeArguments_array {items : List Json} (decoded : Json.ofText text = .ok (.array items)) :
    decodeArguments text = .ok (HostValue.ofItems items) := by
  rw [decodeArguments, decoded]

/-- A text that is no array is no arguments. -/
theorem exists_decodeArguments_error (other : ∀ items, Json.ofText text ≠ .ok (.array items)) :
    ∃ error, decodeArguments text = .error error := by
  unfold decodeArguments
  split
  · exact ⟨_, rfl⟩
  · next items decoded => exact absurd decoded (other items)
  · exact ⟨_, rfl⟩

/-- A call that succeeds has its value as answer. -/
theorem Host.Succeeds.answerText {value : HostValue}
    (succeeds : host.Succeeds object method text value) :
    (host.answerText object method text).2 = .ok value := by
  obtain ⟨items, decoded, answered⟩ := succeeds
  rw [Host.answerText, decodeArguments_array decoded]
  exact answered

/-- A call that fails has its error as answer. -/
theorem Host.Fails.answerText {error : DispatchError}
    (fails : host.Fails object method text error) :
    (host.answerText object method text).2 = .error error := by
  cases fails with
  | called items decoded answered =>
      rw [Host.answerText, decodeArguments_array decoded]
      exact answered
  | undecoded _ refused => rw [Host.answerText, refused]

/-- A call succeeds or fails, whatever its text. -/
theorem Host.succeeds_or_fails (host : Host) (object method text : String) :
    (∃ value, host.Succeeds object method text value) ∨
      ∃ error, host.Fails object method text error := by
  by_cases array : ∃ items, Json.ofText text = .ok (.array items)
  · obtain ⟨items, decoded⟩ := array
    cases answered : (host.dispatch object method (HostValue.ofItems items)).2 with
    | ok value => exact .inl ⟨value, items, decoded, answered⟩
    | error error => exact .inr ⟨error, .called items decoded answered⟩
  · have other := not_exists.mp array
    obtain ⟨error, refused⟩ := exists_decodeArguments_error other
    exact .inr ⟨error, .undecoded other refused⟩

/-- A call that succeeds does not fail. -/
theorem Host.Succeeds.not_fails {value : HostValue}
    (succeeds : host.Succeeds object method text value) (error : DispatchError) :
    ¬ host.Fails object method text error := by
  intro fails
  have both := succeeds.answerText.symm.trans fails.answerText
  cases both

/-- A method that fails gives an error of one kind. -/
theorem Outcome.result_kind {outcome : Outcome} {error : DispatchError}
    (failed : outcome.result object method = .error error) : error.kind = "DispatchFailure" := by
  cases outcome with
  | returned => cases failed
  | failed | panicked =>
      cases failed
      rfl

/-- The dispatcher has its arguments decoded and finds no fault with them. -/
theorem Host.dispatchWithin_kind (depth : Nat) {arguments : List HostValue} {error : DispatchError}
    (failed : (Host.dispatchWithin depth host object method arguments).2 = .error error) :
    error.kind ∈ ["UnboundName", "MethodNotFound", "DispatchFailure"] := by
  cases depth with
  | zero =>
      cases failed
      simp [DispatchError.kind]
  | succ depth =>
      unfold dispatchWithin Registry.resolve at failed
      split at failed
      · next missing =>
          split at missing
          · cases missing
          · cases missing
            cases failed
            simp [DispatchError.kind]
      · simp only at failed
        split at failed
        · cases failed
          simp [DispatchError.kind]
        · simp [Outcome.result_kind failed]

/-- The arguments are bad exactly when they decode to no array. -/
theorem Host.Fails.kind_iff {error : DispatchError}
    (fails : host.Fails object method text error) :
    error.kind = "BadArguments" ↔ ∀ items, Json.ofText text ≠ .ok (.array items) := by
  cases fails with
  | called items decoded answered =>
      have known := dispatchWithin_kind callDepth answered
      constructor
      · intro bad
        simp [bad] at known
      · intro none
        exact absurd decoded (none items)
  | undecoded none refused =>
      obtain ⟨reason, rfl⟩ := decodeArguments_error refused
      exact ⟨fun _ => none, fun _ => rfl⟩

end Outcomes

section Texts

/-- The text is that of an object with these members and of no other object. -/
def Json.Spells (text : String) (fields : List Field) : Prop :=
  ∀ others, IsObject text others ↔ others = fields

/-- The text of an object spells its members. -/
theorem Json.spells_text (members : List (String × Json)) :
    Spells (Json.object members).text (members.map Field.ofMember) := by
  intro others
  have known := isObject_text members
  exact ⟨fun object => object.unique known, fun same => same ▸ known⟩

/-- A text spells one list of members. -/
theorem Json.Spells.unique {text : String} {fields others : List Field}
    (spells : Spells text fields) (again : Spells text others) : fields = others :=
  (again fields).mp ((spells fields).mpr rfl)

/-- The text of a reply with a value. -/
def valueFields (value : HostValue) : List Field := [⟨"value".toList, value.toJson.text.toList⟩]

/-- The text of a reply with an error. -/
def errorFields (error : DispatchError) : List Field :=
  [⟨"error".toList, (Text.quote error.message).toList⟩,
    ⟨"kind".toList, (Text.quote error.kind).toList⟩]

variable {host : Host} {object method text : String}

/-- The reply to a call that succeeds is an object with its value. -/
theorem Host.Succeeds.reply {value : HostValue}
    (succeeds : host.Succeeds object method text value) :
    (host.dispatchText object method text).2 = (Json.object [("value", value.toJson)]).text := by
  rw [Host.dispatchText_eq]
  simp only [succeeds.answerText]
  rfl

/-- The reply to a call that fails is an object with the message and the kind of its error. -/
theorem Host.Fails.reply {error : DispatchError} (fails : host.Fails object method text error) :
    (host.dispatchText object method text).2 =
      (Json.object [("error", .string error.message), ("kind", .string error.kind)]).text := by
  rw [Host.dispatchText_eq]
  simp only [fails.answerText]
  rfl

theorem spells_replyOf_ok (value : HostValue) :
    Json.Spells (replyOf (.ok value)).text (valueFields value) := by
  have written : [("value", value.toJson)].map Field.ofMember = valueFields value := by
    simp [Field.ofMember, valueFields, Text.Quoted.escape]
  rw [replyOf, ← written]
  exact Json.spells_text _

theorem spells_replyOf_error (error : DispatchError) :
    Json.Spells (replyOf (.error error)).text (errorFields error) := by
  have written : [("error", Json.string error.message), ("kind", Json.string error.kind)].map
      Field.ofMember = errorFields error := by
    simp [Field.ofMember, errorFields, Text.Quoted.escape, Json.text]
  rw [replyOf, ← written]
  exact Json.spells_text _

/-- The reply to a call that succeeds spells the value and nothing else. -/
theorem Host.Succeeds.spells {value : HostValue}
    (succeeds : host.Succeeds object method text value) :
    Json.Spells (host.dispatchText object method text).2 (valueFields value) := by
  rw [succeeds.reply]
  exact spells_replyOf_ok value

/-- The reply to a call that fails spells the message and the kind of the error. -/
theorem Host.Fails.spells {error : DispatchError} (fails : host.Fails object method text error) :
    Json.Spells (host.dispatchText object method text).2 (errorFields error) := by
  rw [fails.reply]
  exact spells_replyOf_error error

end Texts

section Scripts

/-- Scripts read the text of an object member by member, when its keys differ and are written
without escapes. A member that is written as a literal is the text of the literal. -/
def Codec.Reads (codec : Codec) (text : String) : Prop :=
  ∀ fields, IsObject text fields → (∀ field ∈ fields, '\\' ∉ field.key) →
    (fields.map Field.key).Nodup → ∃ members, codec.read text = some (.object members) ∧
      (∀ key, (Table.lookup? members key).isSome ↔ key.toList ∈ fields.map Field.key) ∧
      ∀ key written, ⟨key.toList, written.toList⟩ ∈ fields →
        Table.lookup? members key = codec.read written ∧
        ∀ said, written = Text.quote said → codec.read written = some (.string said)

variable {codec : Codec} {text : String}

/-- A value in a reply is what the script is given. -/
theorem Codec.Reads.unwrap_value {value : HostValue} (reads : codec.Reads text)
    (spells : Json.Spells text (valueFields value)) :
    codec.unwrap text = .returned (codec.read value.toJson.text) ∧
      (codec.read value.toJson.text).isSome := by
  obtain ⟨members, read, keys, values⟩ := reads _ ((spells _).mpr rfl) (by simp [valueFields])
    (by simp [valueFields])
  obtain ⟨same, -⟩ := values "value" value.toJson.text (by simp [valueFields])
  have present : (Table.lookup? members "value").isSome := (keys "value").mpr (by simp [valueFields])
  have noError : Table.lookup? members "error" = none := by
    rw [← Option.not_isSome_iff_eq_none, keys]
    simp [valueFields]
  rw [← same]
  exact ⟨by simp only [Codec.unwrap, read, noError], present⟩

/-- An error in a reply is thrown with its message. -/
theorem Codec.Reads.unwrap_error {error : DispatchError} (reads : codec.Reads text)
    (spells : Json.Spells text (errorFields error)) :
    codec.unwrap text = .thrown (.string error.message) := by
  obtain ⟨members, read, -, values⟩ := reads _ ((spells _).mpr rfl) (by simp [errorFields])
    (by simp [errorFields])
  obtain ⟨same, said⟩ := values "error" (Text.quote error.message) (by simp [errorFields])
  have thrown : Table.lookup? members "error" = some (.string error.message) :=
    same.trans (said _ rfl)
  simp only [Codec.unwrap, read, thrown]

end Scripts

/-- A call succeeds or fails, and its reply tells which. The reply is one object that holds the
value and nothing else after a success, and the message and the kind of the error after a failure.
Scripts throw an error exactly when the call failed, whatever the value looks like. -/
theorem reply_tells_success (host : Host) (object method text : String) (codec : Codec)
    (reads : codec.Reads (host.dispatchText object method text).2) :
    let reply := (host.dispatchText object method text).2
    ((∃ value, host.Succeeds object method text value) ↔
      ¬ ∃ error, host.Fails object method text error) ∧
    (∀ value, host.Succeeds object method text value →
      Json.Spells reply [⟨"value".toList, value.toJson.text.toList⟩] ∧
      codec.unwrap reply = .returned (codec.read value.toJson.text) ∧
      (codec.read value.toJson.text).isSome) ∧
    (∀ error, host.Fails object method text error →
      Json.Spells reply [⟨"error".toList, (Text.quote error.message).toList⟩,
        ⟨"kind".toList, (Text.quote error.kind).toList⟩] ∧
      (error.kind = "BadArguments" ↔ ∀ items, Json.ofText text ≠ .ok (.array items)) ∧
      codec.unwrap reply = .thrown (.string error.message)) ∧
    ((∃ value, host.Succeeds object method text value) ↔
      ∃ written, Json.Spells reply [⟨"value".toList, written⟩]) ∧
    ((∃ error, host.Fails object method text error) ↔
      ∃ error, codec.unwrap reply = .thrown error) := by
  intro reply
  have total := host.succeeds_or_fails object method text
  refine ⟨⟨?_, total.resolve_right⟩, ?_, ?_, ⟨?_, ?_⟩, ⟨?_, ?_⟩⟩
  · rintro ⟨value, succeeds⟩ ⟨error, fails⟩
    exact succeeds.not_fails error fails
  · intro value succeeds
    exact ⟨succeeds.spells, reads.unwrap_value succeeds.spells⟩
  · intro error fails
    exact ⟨fails.spells, fails.kind_iff, reads.unwrap_error fails.spells⟩
  · rintro ⟨value, succeeds⟩
    exact ⟨_, succeeds.spells⟩
  · rintro ⟨written, spells⟩
    refine total.resolve_right ?_
    rintro ⟨error, fails⟩
    have same := spells.unique fails.spells
    simp [errorFields] at same
  · rintro ⟨error, fails⟩
    exact ⟨_, reads.unwrap_error fails.spells⟩
  · rintro ⟨error, thrown⟩
    refine total.resolve_left ?_
    rintro ⟨value, succeeds⟩
    rw [(reads.unwrap_value succeeds.spells).1] at thrown
    cases thrown

section Decoder

open Json

/-- A text without escapes is written as it stands. -/
theorem escaped_plain {text : List Char} (plain : '\\' ∉ text.flatMap Text.Quoted.escape) :
    text.flatMap Text.Quoted.escape = text := by
  have same : ∀ c ∈ text, Text.Quoted.escape c = [c] := by
    intro c among
    have form := Text.Quoted.written_escape c
    have absent : '\\' ∉ Text.Quoted.escape c :=
      fun inside => plain (List.mem_flatMap.mpr ⟨c, among, inside⟩)
    generalize Text.Quoted.escape c = written at form absent ⊢
    cases form with
    | plain => rfl
    | mark | code => simp at absent
  rw [List.flatMap_congr same]
  simp

theorem Json.Plain.succ {depth : Nat} {value : Json} (plain : Plain depth value) :
    Plain (depth + 1) value := by
  induction plain with
  | null => exact .null
  | boolean value => exact .boolean value
  | integer value => exact .integer value
  | string value => exact .string value
  | array _ ih => exact .array ih
  | object sorted _ ih => exact .object sorted ih

theorem Json.Plain.member {depth : Nat} {members : Members} (plain : Plain depth (.object members))
    {member : String × Json} (among : member ∈ members) : Plain depth member.2 := by
  cases plain with
  | object _ known => exact (known member among).succ

/-- The reader itself reads the members of every object that is written without floats. -/
theorem Codec.reads_ofText (write : List Json → String) {members : Members}
    (plain : (Json.object members).Plain depthLimit) :
    Codec.Reads ⟨write, fun text => (Json.ofText text).toOption⟩ (Json.object members).text := by
  intro fields object simple distinct
  obtain rfl := object.unique (isObject_text members)
  have key : ∀ member ∈ members, (Field.ofMember member).key = member.1.toList :=
    fun member among => escaped_plain (simple _ (List.mem_map_of_mem among))
  have keys : (members.map Field.ofMember).map Field.key = (Table.keys members).map String.toList := by
    rw [List.map_map, Table.keys, List.map_map]
    exact List.map_congr_left key
  have own : (Table.keys members).Nodup := .of_map _ (keys ▸ distinct)
  have read {value : Json} (plain : value.Plain depthLimit) :
      (Json.ofText value.text).toOption = some value := by
    rw [ofText_text plain]
    rfl
  refine ⟨members, read plain, fun name => ?_, fun name written among => ?_⟩
  · rw [keys, List.mem_map_of_injective fun _ _ => String.toList_inj.mp,
      ← Option.ne_none_iff_isSome, Ne, Table.lookup?_eq_none_iff, not_not]
  · obtain ⟨member, inside, same⟩ := List.mem_map.mp among
    obtain rfl : member.1 = name :=
      String.toList_inj.mp ((key member inside).symm.trans (congrArg Field.key same))
    obtain rfl : member.2.text = written := String.toList_inj.mp (congrArg Field.value same)
    have known := read (plain.member inside)
    refine ⟨((Table.lookup?_eq_some_iff own _ _).mpr inside).trans known.symm, ?_⟩
    intro said quoted
    have literal : (Json.string said).text = Text.quote said := by rw [Json.text]
    have told := read (.string said)
    rw [literal, ← quoted] at told
    exact told

end Decoder

/-- A value that looks like a failure is returned, and a name that stands for nothing is told in
the error that is thrown. -/
theorem reply_tells_success_disguised :
    let declared : Declared :=
      ⟨0, "K", [⟨"get", [], "", Handler.constant (.object [("error", .string "x")])⟩]⟩
    let host := Host.empty.bind "k" declared.handle
    let codec : Codec := ⟨fun _ => "", fun text => (Json.ofText text).toOption⟩
    let success := (host.dispatchText "k" "get" "[]").2
    let failure := (host.dispatchText "gone" "get" "[]").2
    codec.Reads success ∧ codec.Reads failure ∧
      codec.unwrap success = .returned (some (.object [("error", .string "x")])) ∧
      codec.unwrap failure = .thrown (.string "No object bound with name: gone") := by
  intro declared host codec success failure
  have array : Json.ofText "[]" = .ok (.array []) := rfl
  have offered : declared.Offers "get" [] ⟨"get", [], "", _⟩ :=
    ⟨by decide, ⟨[], [], rfl, rfl, by simp⟩, .nil⟩
  have depth : Host.dispatchWithin (callDepth - 1 + 1) = Host.dispatch := rfl
  have called : (host.dispatch "k" "get" []).2 = .ok (.object [("error", .string "x")]) := by
    rw [← depth, dispatchWithin_offered (callDepth - 1) rfl offered]
    rfl
  have missing : (host.dispatch "gone" "get" []).2 = .error (.unboundName "gone") := by
    rw [← depth, dispatchWithin_unbound (callDepth - 1) rfl]
  have succeeds : host.Succeeds "k" "get" "[]" (.object [("error", .string "x")]) :=
    ⟨[], array, called⟩
  have fails : host.Fails "gone" "get" "[]" (.unboundName "gone") := .called [] array missing
  have shown : (HostValue.object [("error", .string "x")]).toJson =
      .object [("error", .string "x")] := rfl
  have value : (Json.object [("error", .string "x")]).Plain 126 :=
    .object (List.pairwise_singleton _ _) (List.forall_mem_singleton.mpr (.string "x"))
  have plain : (Json.object [("value", .object [("error", .string "x")])]).Plain Json.depthLimit :=
    .object (List.pairwise_singleton _ _) (List.forall_mem_singleton.mpr value)
  have refused (message kind : String) :
      (Json.object [("error", .string message), ("kind", .string kind)]).Plain Json.depthLimit :=
    .object (List.pairwise_pair.mpr (show "error" < "kind" by decide))
      (List.forall_mem_cons.mpr ⟨.string _, List.forall_mem_singleton.mpr (.string _)⟩)
  have one : codec.Reads (host.dispatchText "k" "get" "[]").2 := by
    rw [succeeds.reply, shown]
    exact Codec.reads_ofText _ plain
  have two : codec.Reads (host.dispatchText "gone" "get" "[]").2 := by
    rw [fails.reply]
    exact Codec.reads_ofText _ (refused _ _)
  obtain ⟨-, returned, -⟩ := reply_tells_success host "k" "get" "[]" codec one
  obtain ⟨-, -, thrown, -⟩ := reply_tells_success host "gone" "get" "[]" codec two
  have read (value : Json) (plain : value.Plain Json.depthLimit) :
      codec.read value.text = some value := by
    simp only [codec, Json.ofText_text plain, Except.toOption]
  refine ⟨one, two, ?_, (thrown _ fails).2.2⟩
  rw [(returned _ succeeds).2.1, shown, read _ value.succ]

end HostBridge
