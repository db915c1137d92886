/-
This file describes what a proxy sends to the dispatcher and which answers it gets.
-/
import HostBridge.Proofs.Dispatch
import HostBridge.Proofs.Preamble

namespace HostBridge

/-- How a script writes the list of its arguments and reads a reply. -/
structure Codec where
  write : List Json → String
  read : String → Option Json

/-- What a call comes to in a script. -/
inductive Reply where
  | returned (value : Option Json)
  | thrown (error : Json)
  | broken

/-- A reply with an error is thrown, and any other reply has a value or none. -/
def Codec.unwrap (codec : Codec) (text : String) : Reply :=
  match codec.read text with
  | none | some .null => .broken
  | some (.object members) =>
      match Table.lookup? members "error" with
      | some error => .thrown error
      | none => .returned (Table.lookup? members "value")
  | some _ => .returned none

/-- The arguments are sent in writing and the reply is unwrapped. -/
def Codec.send (codec : Codec) (host : Host) (object method : String) (arguments : List Json) :
    Host × Reply :=
  let answer := host.dispatchText object method (codec.write arguments)
  (answer.1, codec.unwrap answer.2)

section Forwarding

/-- The names of parameters differ. -/
theorem nodup_names (arity : Nat) : (Shape.fixed arity).names.Nodup := by
  apply List.Nodup.map _ List.nodup_range
  intro first second same
  have digits : Nat.toDigits 10 first = Nat.toDigits 10 second := by
    simpa only [toList_parameterName, List.append_cancel_left_eq] using same
  rw [← Nat.ofDigitChars_ten_toDigits (n := first), digits, Nat.ofDigitChars_ten_toDigits]

/-- A parameter stands for the argument in its place and is undefined where there is none. -/
def ProxyFunction.value (function : ProxyFunction) (arguments : List (Option Json))
    (name : List Char) : Option Json :=
  (arguments[function.parameters.idxOf name]?).join

def ProxyFunction.forwarded (function : ProxyFunction) (arguments : List (Option Json)) :
    List (Option Json) :=
  match function.passed with
  | .named names => names.map (function.value arguments)
  | .everything => arguments

/-- What is undefined is written as null. -/
def written (arguments : List (Option Json)) : List Json := arguments.map (·.getD .null)

def ProxyFunction.call (function : ProxyFunction) (codec : Codec) (host : Host)
    (arguments : List (Option Json)) : Host × Reply :=
  codec.send host function.object function.method (written (function.forwarded arguments))

/-- A function that was made for a shape passes on what the shape fits. -/
theorem ProxyFunction.forwarded_ofShape (object method : String) (shape : Shape)
    (arguments : List (Option Json)) :
    (ProxyFunction.ofShape object method shape).forwarded arguments =
      shape.fit none arguments := by
  cases shape with
  | variadic => rfl
  | fixed arity =>
      apply List.ext_getElem
      · simp [forwarded, ofShape, Shape.names, Shape.fit]
        omega
      · intro index left right
        have inside : index < (Shape.fixed arity).names.length := by
          simpa [forwarded, ofShape] using left
        have place := (nodup_names arity).idxOf_getElem index inside
        have bound : index < arity := by simpa [Shape.names] using inside
        have read : ((ofShape object method (.fixed arity)).forwarded arguments)[index] =
            (arguments[index]?).join := by
          simp only [forwarded, ofShape, List.getElem_map, value, place]
        rw [read]
        by_cases present : index < arguments.length
        · simp [Shape.fit, List.getElem_append_left, present, bound]
        · have behind : ¬ index < (arguments.take arity).length := by
            rw [List.length_take]
            omega
          simp [Shape.fit, List.getElem_append_right (Nat.le_of_not_lt behind),
            List.getElem?_eq_none (Nat.le_of_not_lt present)]

/-- Arguments are padded alike before they are written and afterwards. -/
theorem written_fit (shape : Shape) (arguments : List (Option Json)) :
    written (shape.fit none arguments) = shape.fit .null (written arguments) := by
  cases shape with
  | variadic => rfl
  | fixed arity => simp [Shape.fit, written]

end Forwarding

section Shapes

/-- A name with declarations of several arities is overloaded. -/
def Declared.Overloaded (declared : Declared) (method : String) : Prop :=
  ∃ first ∈ declared.methods, ∃ second ∈ declared.methods,
    first.name = method ∧ second.name = method ∧ first.arity ≠ second.arity

/-- A name has the parameter counts of the methods that are declared with it. -/
theorem Declared.mem_arities_iff (declared : Declared) (method : String) (arity : Nat) :
    arity ∈ aritiesOf (Table.keys declared.handle.object.methods) method ↔
      ∃ entry ∈ declared.methods, entry.name = method ∧ entry.arity = arity := by
  simp [mem_aritiesOf_iff, handle, HostObject.keys_ofMethods, Method.key]

/-- A name of one arity has a proxy with that many parameters. -/
theorem Declared.shapeOf_fixed {declared : Declared} {method : String} {arity : Nat}
    (known : method ∈ declared.methods.map Method.name)
    (single : ∀ entry ∈ declared.methods, entry.name = method → entry.arity = arity) :
    declared.handle.object.shapeOf method = .fixed arity := by
  obtain ⟨entry, member, named⟩ := List.mem_map.mp known
  have present : arity ∈ aritiesOf (Table.keys declared.handle.object.methods) method :=
    (declared.mem_arities_iff method arity).mpr ⟨entry, member, named, single entry member named⟩
  have same : ∀ other ∈ aritiesOf (Table.keys declared.handle.object.methods) method,
      other = arity := by
    intro other among
    obtain ⟨entry, member, named, rfl⟩ := (declared.mem_arities_iff method other).mp among
    exact single entry member named
  have distinct : (aritiesOf (Table.keys declared.handle.object.methods) method).Nodup :=
    nodup_aritiesOf (HostObject.nodup_ofMethods _ _) method
  rw [HostObject.shapeOf]
  rw [List.eq_replicate_of_mem same, List.nodup_replicate] at distinct
  rw [List.eq_replicate_of_mem same]
  have filled := List.length_pos_of_mem present
  rw [Nat.le_antisymm distinct filled]
  rfl

/-- A name of several arities has a proxy without parameters. -/
theorem Declared.shapeOf_variadic {declared : Declared} {method : String}
    (overloaded : declared.Overloaded method) :
    declared.handle.object.shapeOf method = .variadic := by
  obtain ⟨first, here, second, there, one, two, different⟩ := overloaded
  have left := (declared.mem_arities_iff method first.arity).mpr ⟨first, here, one, rfl⟩
  have right := (declared.mem_arities_iff method second.arity).mpr ⟨second, there, two, rfl⟩
  rw [HostObject.shapeOf, Shape.ofArities.eq_def]
  split
  · next arity single =>
      rw [single, List.mem_singleton] at left right
      exact absurd (left.trans right.symm) different
  · rfl

end Shapes

section Answers

/-- The answer to a call in writing before it is written down. -/
def Host.answerText (host : Host) (object method text : String) :
    Host × Except DispatchError HostValue :=
  match decodeArguments text with
  | .error error => (host, .error error)
  | .ok arguments => host.dispatch object method arguments

/-- A reply is the answer in writing. -/
theorem Host.dispatchText_eq (host : Host) (object method text : String) :
    host.dispatchText object method text =
      let answer := host.answerText object method text
      (answer.1.log (replyEvents answer.2), (replyOf answer.2).text) := rfl

/-- A call is not refused but for the types or the number of its arguments. -/
inductive Declared.Refused (declared : Declared) (method : String) (count : Nat)
    (values : List HostValue) : Prop where
  | types (entry : Method) : LastDeclared declared.methods ⟨method, values.length⟩ entry →
      ¬ List.Forall₂ HostType.Takes entry.params values → declared.Refused method count values
  | arity : declared.Overloaded method →
      (∀ entry ∈ declared.methods, entry.name = method → entry.arity ≠ count) →
      declared.Refused method count values

/-- A method that is declared is refused for the types of its arguments, or no declaration has as
many parameters. -/
theorem Declared.refusal {declared : Declared} {host : Host} {name method : String}
    (bound : Table.lookup? host.registry name = some declared.handle)
    (exposed : method ∉ baseCapabilities) (values : List HostValue) (object other text : String)
    (failed : (host.dispatch name method values).2 = .error (.methodNotFound object other text)) :
    (∃ entry, LastDeclared declared.methods ⟨method, values.length⟩ entry ∧
      ¬ List.Forall₂ HostType.Takes entry.params values) ∨
    ∀ entry ∈ declared.methods, entry.name = method → entry.arity ≠ values.length := by
  have dispatched := dispatched_dispatchWithin (callDepth - 1) host (some declared) name method
    values bound
  have same : Host.dispatchWithin (callDepth - 1 + 1) = Host.dispatch := rfl
  rw [same] at dispatched
  generalize host.dispatch name method values = answer at dispatched failed
  have refused : ∀ entry, ¬ declared.Offers method values entry := by
    cases dispatched with
    | unbound absent => cases absent
    | refused known present refused =>
        cases present
        exact refused
    | returned | failed | panicked => cases failed
  by_cases known : ∃ entry, LastDeclared declared.methods ⟨method, values.length⟩ entry
  · obtain ⟨entry, last⟩ := known
    exact .inl ⟨entry, last, fun takes => refused entry ⟨exposed, last, takes⟩⟩
  · refine .inr fun entry member named sized => known ?_
    have key : entry.key = ⟨method, values.length⟩ := by rw [Method.key, named, sized]
    exact key ▸ exists_lastDeclared member

/-- A name that scripts do not see is refused by the dispatcher too. -/
theorem Declared.dispatch_hidden {declared : Declared} {host : Host} {name method : String}
    (bound : Table.lookup? host.registry name = some declared.handle)
    (hidden : method ∉ declared.handle.object.exposed) (values : List HostValue) :
    host.dispatch name method values =
      (host, .error (.methodNotFound name method
        (separated ", " (values.map fun value => value.hostType.name)))) := by
  apply dispatchWithin_refused (callDepth - 1) bound
  intro entry offered
  apply hidden
  rw [HostObject.exposed, List.mem_filter, Declared.handle, HostObject.names_ofMethods,
    List.mem_eraseDups]
  have own : entry.name = method := congrArg MethodKey.name offered.last.key_eq
  exact ⟨List.mem_map.mpr ⟨entry, offered.last.mem, own⟩, by simpa using offered.exposed⟩

end Answers

theorem Proxy.keys_table (name : String) (declared : Declared) :
    Table.keys (Proxy.ofObject name declared.handle.object).table =
      declared.handle.object.exposed := by
  rw [Proxy.table, Proxy.methods_ofObject, Table.keys, List.map_map, List.map_map]
  exact List.map_id _

/-- A proxy has a function for every exposed method, made by its shape. -/
theorem Proxy.mem_table {name : String} {declared : Declared} {method : String}
    {function : ProxyFunction}
    (member : (method, function) ∈ (Proxy.ofObject name declared.handle.object).table) :
    method ∈ declared.handle.object.exposed ∧
      function = ProxyFunction.ofShape name method (declared.handle.object.shapeOf method) := by
  rw [Proxy.table, Proxy.methods_ofObject, List.map_map] at member
  obtain ⟨known, exposed, same⟩ := List.mem_map.mp member
  cases same
  exact ⟨exposed, rfl⟩

/-- Arguments that are not decoded are bad arguments. -/
theorem decodeArguments_error {text : String} {error : DispatchError}
    (failed : decodeArguments text = .error error) : ∃ reason, error = .badArguments reason := by
  unfold decodeArguments at failed
  split at failed
  · next fault _ =>
      cases failed
      exact ⟨fault.message, rfl⟩
  · cases failed
  · cases failed
    exact ⟨_, rfl⟩

/-- A call through a proxy is refused for the types of its arguments, or for their number when the
method is overloaded. -/
theorem Declared.refused_call {declared : Declared} {host : Host} {name method : String}
    (codec : Codec) (bound : Table.lookup? host.registry name = some declared.handle)
    (known : method ∈ declared.methods.map Method.name) (exposed : method ∉ baseCapabilities)
    (arguments : List (Option Json))
    (sized : ∀ values, decodeArguments (codec.write (written
        ((declared.handle.object.shapeOf method).fit none arguments))) = .ok values →
      values.length = (written ((declared.handle.object.shapeOf method).fit none arguments)).length)
    (object other text : String)
    (failed : (host.answerText name method (codec.write (written
      ((declared.handle.object.shapeOf method).fit none arguments)))).2 =
        .error (.methodNotFound object other text)) :
    ∃ values, decodeArguments (codec.write (written
        ((declared.handle.object.shapeOf method).fit none arguments))) = .ok values ∧
      declared.Refused method arguments.length values := by
  rw [Host.answerText] at failed
  cases decoded : decodeArguments (codec.write (written
      ((declared.handle.object.shapeOf method).fit none arguments))) with
  | error error =>
      obtain ⟨reason, rfl⟩ := decodeArguments_error decoded
      rw [decoded] at failed
      cases failed
  | ok values =>
      rw [decoded] at failed
      refine ⟨values, rfl, ?_⟩
      have length := sized values decoded
      rw [written, List.length_map] at length
      rcases Declared.refusal bound exposed values object other text failed with
        ⟨entry, last, refused⟩ | absent
      · exact .types entry last refused
      · by_cases overloaded : declared.Overloaded method
        · rw [Declared.shapeOf_variadic overloaded] at length
          rw [length] at absent
          exact .arity overloaded absent
        · obtain ⟨entry, member, named⟩ := List.mem_map.mp known
          have single : ∀ other ∈ declared.methods, other.name = method →
              other.arity = entry.arity := by
            intro other among same
            by_contra different
            exact overloaded ⟨other, among, entry, member, same, named, different⟩
          have fitted : ((Shape.fixed entry.arity).fit none arguments).length = entry.arity := by
            simp only [Shape.fit, List.length_append, List.length_take, List.length_replicate]
            omega
          rw [Declared.shapeOf_fixed known single, fitted] at length
          exact absurd length.symm (absent entry member named)

end HostBridge
