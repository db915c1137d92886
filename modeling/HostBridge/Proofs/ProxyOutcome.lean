/-
This file shows that a call through a proxy has the outcome of the call that the dispatcher answers.
-/
import HostBridge.Capability.Stock
import HostBridge.Proofs.Reply

namespace HostBridge

/-- What a call through a proxy comes to is told by the answer in writing. -/
theorem Codec.send_eq (codec : Codec) (host : Host) (object method : String) (items : List Json) :
    codec.send host object method items =
      let answer := host.answerText object method (codec.write items)
      (answer.1.log (replyEvents answer.2), codec.unwrap (replyOf answer.2).text) := by
  rw [Codec.send, Host.dispatchText_eq]

/-- The value of an answer is returned, and its error is thrown with its message. -/
inductive Codec.Tells (codec : Codec) : Except DispatchError HostValue → Reply → Prop where
  | returned (value : HostValue) (read : Json) : codec.read value.toJson.text = some read →
      codec.Tells (.ok value) (.returned (some read))
  | thrown (error : DispatchError) : codec.Tells (.error error) (.thrown (.string error.message))

/-- A reply that is read tells the outcome of the call. -/
theorem Codec.Reads.tells {codec : Codec} {answer : Except DispatchError HostValue}
    (reads : codec.Reads (replyOf answer).text) :
    codec.Tells answer (codec.unwrap (replyOf answer).text) := by
  cases answer with
  | ok value =>
      obtain ⟨returned, present⟩ := reads.unwrap_value (spells_replyOf_ok value)
      obtain ⟨read, known⟩ := Option.isSome_iff_exists.mp present
      rw [returned, known]
      exact .returned value read known
  | error error =>
      rw [reads.unwrap_error (spells_replyOf_error error)]
      exact .thrown error

/-- The proxy of a bound object has one function for every method that scripts see. A call of it
sends as many arguments as the method takes, or all of them when the method is overloaded, and comes
to the value or to the message of the error that the dispatcher answers these with. The dispatcher
refuses such a call only for the types of its arguments or for the number of those of an overloaded
method, and it refuses every method without a function. -/
theorem proxy_calls_dispatch (codec : Codec) (host : Host) (name : String) (declared : Declared)
    (bound : Table.lookup? host.registry name = some declared.handle) :
    ∃ table,
      Proxy.ofObject name declared.handle.object ∈ host.registry.proxies ∧
      readProxy? (Proxy.ofObject name declared.handle.object).text = some (name, table) ∧
      Table.keys table =
        ((declared.methods.map Method.name).eraseDups).filter (· ∉ baseCapabilities) ∧
      (∀ method function, (method, function) ∈ table → ∀ arguments : List (Option Json),
        let items := written (function.forwarded arguments)
        let answer := host.answerText name method (codec.write items)
        (∀ arity, (∀ entry ∈ declared.methods, entry.name = method → entry.arity = arity) →
          items = Shape.fit .null (.fixed arity) (written arguments)) ∧
        (declared.Overloaded method → items = written arguments) ∧
        function.call codec host arguments = codec.send host name method items ∧
        (function.call codec host arguments).1 = answer.1.log (replyEvents answer.2) ∧
        (codec.Reads (replyOf answer.2).text →
          codec.Tells answer.2 (function.call codec host arguments).2) ∧
        ((∀ values, decodeArguments (codec.write items) = .ok values →
            values.length = items.length) →
          ∀ object other types, answer.2 = .error (.methodNotFound object other types) →
            ∃ values, decodeArguments (codec.write items) = .ok values ∧
              declared.Refused method arguments.length values)) ∧
      ∀ method ∉ Table.keys table, ∀ values,
        host.dispatch name method values =
          (host, .error (.methodNotFound name method
            (separated ", " (values.map fun value => value.hostType.name)))) := by
  refine ⟨(Proxy.ofObject name declared.handle.object).table, ?_, Proxy.readProxy?_text _, ?_, ?_,
    ?_⟩
  · exact List.mem_map.mpr ⟨_, Table.mem_of_lookup? bound, rfl⟩
  · rw [Proxy.keys_table, HostObject.exposed, Declared.handle, HostObject.names_ofMethods]
  · intro method function member arguments items answer
    obtain ⟨exposed, rfl⟩ := Proxy.mem_table member
    obtain ⟨known, free⟩ : method ∈ declared.methods.map Method.name ∧
        method ∉ baseCapabilities := by
      rw [HostObject.exposed, List.mem_filter, Declared.handle, HostObject.names_ofMethods,
        List.mem_eraseDups] at exposed
      exact ⟨exposed.1, by simpa using exposed.2⟩
    have fitted : items = written ((declared.handle.object.shapeOf method).fit none arguments) := by
      rw [← ProxyFunction.forwarded_ofShape name method]
    refine ⟨?_, ?_, rfl, ?_, ?_, ?_⟩
    · intro arity single
      rw [fitted, written_fit, Declared.shapeOf_fixed known single]
    · intro overloaded
      rw [fitted, Declared.shapeOf_variadic overloaded]
      rfl
    · exact congrArg Prod.fst (codec.send_eq host name method items)
    · exact Codec.Reads.tells
    · intro sized object other types failed
      simp only [answer, fitted] at sized failed ⊢
      exact Declared.refused_call codec bound known free arguments sized object other types failed
  · intro method hidden values
    rw [Proxy.keys_table] at hidden
    exact Declared.dispatch_hidden bound hidden values

/-- Scripts that write and read like the program itself. -/
def Codec.json : Codec :=
  ⟨fun items => (Json.array items).text, fun text => (Json.ofText text).toOption⟩

/-- Plain arguments are decoded as they were written. -/
theorem Codec.decode_json {items : List Json} (plain : ∀ item ∈ items, item.Plain 125) :
    decodeArguments (Codec.json.write items) = .ok (HostValue.ofItems items) :=
  decodeArguments_array (Json.ofText_text (Json.Plain.array plain).succ)

/-- An array without floats is returned to such scripts as it is. -/
theorem Codec.returned_of_tells {items : List Json} {values : List HostValue} {reply : Reply}
    (same : (HostValue.array values).toJson = .array items)
    (plain : ∀ item ∈ items, item.Plain 125)
    (tells : Codec.json.Reads (replyOf (.ok (.array values))).text →
      Codec.json.Tells (.ok (.array values)) reply) : reply = .returned (some (.array items)) := by
  have array : (Json.array items).Plain 126 := .array plain
  have object : (Json.object [("value", .array items)]).Plain Json.depthLimit :=
    .object (List.pairwise_singleton _ _) (List.forall_mem_singleton.mpr array)
  have text : (replyOf (.ok (.array values))).text =
      (Json.object [("value", .array items)]).text := by rw [replyOf, same]
  cases tells (text ▸ Codec.reads_ofText _ object) with
  | returned _ found known =>
      have read : Codec.json.read (Json.array items).text = some (.array items) := by
        simp only [Codec.json, Json.ofText_text array.succ, Except.toOption]
      rw [same, read] at known
      rw [Option.some.inj known]

/-- Every error is thrown in such scripts. -/
theorem Codec.thrown_of_tells {error : DispatchError} {reply : Reply}
    (tells : Codec.json.Reads (replyOf (.error error)).text → Codec.json.Tells (.error error) reply) :
    reply = .thrown (.string error.message) := by
  have plain : (replyOf (.error error)).Plain Json.depthLimit :=
    .object (List.pairwise_pair.mpr (show "error" < "kind" by decide))
      (List.forall_mem_cons.mpr ⟨.string _, List.forall_mem_singleton.mpr (.string _)⟩)
  cases tells (Codec.reads_ofText _ plain) with
  | thrown => rfl

/-- A surplus argument is dropped, an undefined one is passed on as null, and an overloaded method
that does not take as many arguments throws. -/
theorem proxy_calls_dispatch_switch :
    let declared : Declared := ⟨1, "Switch", [⟨"turn", [.integer], "", .everyArgument⟩,
      ⟨"pick", [], "", .everyArgument⟩, ⟨"pick", [.string, .any], "", .everyArgument⟩]⟩
    let host := Host.empty.bind "k" declared.handle
    let three : Json := .number (.integer 3)
    ∃ table : ProxyTable,
      readProxy? (Proxy.ofObject "k" declared.handle.object).text = some ("k", table) ∧
      Table.keys table = ["turn", "pick"] ∧
      (∀ function, ("turn", function) ∈ table →
        (function.call .json host [some three, some (.boolean true)]).2 =
          .returned (some (.array [three]))) ∧
      ∀ function, ("pick", function) ∈ table →
        (function.call .json host [some (.string "a"), none]).2 =
          .returned (some (.array [.string "a", .null])) ∧
        (function.call .json host [some (.string "a")]).2 =
          .thrown (.string (DispatchError.methodNotFound "k" "pick" "string").message) := by
  intro declared host three
  have bound : Table.lookup? host.registry "k" = some declared.handle := rfl
  obtain ⟨table, -, read, names, calls, -⟩ := proxy_calls_dispatch .json host "k" declared bound
  have shown : Table.keys table = ["turn", "pick"] := by
    rw [names]
    simp [declared, baseCapabilities, List.eraseDups_cons]
  have single : ∀ entry ∈ declared.methods, entry.name = "turn" → entry.arity = 1 := by decide
  have overloaded : declared.Overloaded "pick" :=
    ⟨⟨"pick", [], "", .everyArgument⟩, by simp [declared],
      ⟨"pick", [.string, .any], "", .everyArgument⟩, by simp [declared], rfl, rfl, by decide⟩
  have numbers : ∀ item ∈ [three], item.Plain 125 := by simpa using .integer 3
  have letters : ∀ item ∈ [.string "a"], Json.Plain 125 item := by simpa using .string "a"
  have mixed : ∀ item ∈ [.string "a", .null], Json.Plain 125 item := by
    simpa using ⟨.string "a", .null⟩
  have echoed {method : String} {items : List Json} {entry : Method}
      (plain : ∀ item ∈ items, item.Plain 125)
      (selected : declared.handle.object.select? method
        ((HostValue.ofItems items).map HostValue.hostType) = some entry)
      (echoes : entry.handler.Echoes) :
      (host.answerText "k" method (Codec.json.write items)).2 =
        .ok (.array (HostValue.ofItems items)) := by
    rw [Host.answerText, Codec.decode_json plain]
    exact Host.dispatchWithin_returned (callDepth - 1) bound selected fun call host => echoes call host _
  refine ⟨table, read, shown, ?_, fun function member => ⟨?_, ?_⟩⟩
  · intro function member
    obtain ⟨fits, -, -, -, tells, -⟩ := calls "turn" function member [some three, some (.boolean true)]
    have items : written (function.forwarded [some three, some (.boolean true)]) = [three] :=
      fits 1 single
    rw [items, echoed numbers rfl Handler.everyArgument_echoes] at tells
    exact Codec.returned_of_tells rfl numbers tells
  · obtain ⟨-, all, -, -, tells, -⟩ := calls "pick" function member [some (.string "a"), none]
    have items : written (function.forwarded [some (.string "a"), none]) = [.string "a", .null] :=
      all overloaded
    rw [items, echoed mixed rfl Handler.everyArgument_echoes] at tells
    exact Codec.returned_of_tells rfl mixed tells
  · obtain ⟨-, all, -, -, tells, -⟩ := calls "pick" function member [some (.string "a")]
    have items : written (function.forwarded [some (.string "a")]) = [.string "a"] := all overloaded
    have none : declared.handle.object.select? "pick" [.string] = none := rfl
    have refused : (host.answerText "k" "pick" (Codec.json.write [.string "a"])).2 =
        .error (.methodNotFound "k" "pick" "string") := by
      have unoffered : ∀ entry, ¬ declared.Offers "pick" [.string "a"] entry := by
        intro entry offered
        have selected := (declared.select?_iff "pick" [.string "a"] entry).mpr offered
        cases none.symm.trans selected
      rw [Host.answerText, Codec.decode_json letters]
      show (Host.dispatchWithin (callDepth - 1 + 1) host "k" "pick" [.string "a"]).2 = _
      rw [dispatchWithin_refused (callDepth - 1) bound unoffered]
      rfl
    rw [items, refused] at tells
    exact Codec.thrown_of_tells tells

end HostBridge
