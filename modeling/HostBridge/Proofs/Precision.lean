/-
This file shows what the text of a double is read as, in arguments, replies and results.
-/
import HostBridge.Proofs.Echo
import HostBridge.Proofs.Scaling
import HostBridge.Proofs.Scraping

namespace HostBridge

open Decimal Double Text

namespace Json

/-- Wherever the text of the first double ends, it is read as the second one. -/
def ReadsAs (x y : Float) : Prop :=
  ∀ depth rest, Stops rest →
    readValue depth ((Layout.json.text x).toList ++ rest) = .ok (.number (.float y), rest)

/-- The digits of every double are few enough to be counted whole. -/
theorem counted_small {x : Float} (finite : x.isFinite = true) :
    (counted (Decimal.Dyadic.ofFloat x)).digits < 0x10000000000000000 ∧
      (counted (Decimal.Dyadic.ofFloat x)).exponent.natAbs < 0x10000000 := by
  rcases eq_withSign finite with ⟨none, -⟩ | ⟨double, -⟩
  · rw [counted, if_pos none]
    decide
  · obtain ⟨⟨-, small⟩, ⟨low, high⟩, -⟩ :=
      counted_spec (Decimal.Dyadic.proper_ofFloat double.positive) double.least double.greatest
    omega

/-- The digits of a text are counted before they are scaled. -/
theorem readsAs_of_toFloat {x y : Float} (finite : x.isFinite = true)
    (known : ∀ rest, (Significand.ofFloat x).toFloat rest = .ok (.float y, rest)) :
    ReadsAs x y := by
  intro depth rest stops
  obtain ⟨text, ⟨unsigned, rfl, shows⟩, same⟩ := writes_float finite
  obtain ⟨short, near⟩ := counted_small finite
  let numeral : Numeral := { unsigned with negative := (Decimal.Dyadic.ofFloat x).negative }
  have written : (Layout.json.text x).toList = numeral.text := same
  have shows : numeral.Shows (counted (Decimal.Dyadic.ofFloat x)) :=
    ⟨shows.digits, shows.power, shows.float, shows.near⟩
  have scanned := scanUnsigned_shows shows short near stops
  rw [← scanNumber_text] at scanned
  have scanned := scanned.trans (known rest)
  obtain ⟨c, others, begun, begins⟩ := numeral.exists_text rest
  rw [begun] at scanned
  rw [written, begun, readValue_numeral depth others begins, scanned]
  rfl

/-- A double is read as one that is close to it, and as itself if its digits are short. -/
theorem exists_readsAs {x : Float} (finite : x.isFinite = true) :
    ∃ y, Close x y ∧ (IsShort x → y = x) ∧ ReadsAs x y := by
  obtain ⟨y, close, short, known⟩ := exists_toFloat finite
  exact ⟨y, close, short, readsAs_of_toFloat finite known⟩

variable {x y : Float}

theorem text_float (finite : x.isFinite = true) :
    (HostValue.float x).text = Layout.json.text x := by
  rw [HostValue.text, HostValue.toJson, Json.ofFloat, if_pos finite, Json.text, Number.text,
    if_pos finite]

/-- The text of a double is decoded as the double that it is read as. -/
theorem ReadsAs.ofText (reads : ReadsAs x y) :
    Json.ofText (Layout.json.text x) = .ok (.number (.float y)) := by
  have read := reads depthLimit [] (by simp [Stops])
  rw [List.append_nil] at read
  rw [Json.ofText, readText, read]
  rfl

/-- The text is read as the only item of an array. -/
theorem ReadsAs.ofText_item (finite : x.isFinite = true) (reads : ReadsAs x y) :
    Json.ofText ("[" ++ Layout.json.text x ++ "]") = .ok (.array [.number (.float y)]) := by
  obtain ⟨numeral, written⟩ := exists_numeral_float finite
  obtain ⟨c, others, begun, begins⟩ := numeral.exists_text [']']
  have read := reads 126 [']'] (by simp [Stops])
  rw [← written, begun] at read
  have split : ("[" ++ Layout.json.text x ++ "]").toList = '[' :: c :: others := by
    rw [← begun, written]
    simp
  have items : readItems (readValue 126) ((c :: others).length + 1) true (c :: others) =
      .ok ([.number (.float y)], []) := by
    have closed : readItems (readValue 126) (others.length + 1) false [']'] = .ok ([], []) := rfl
    have different := ne_of_numeral begins (d := ']') (by decide)
    simp [readItems, skipBlanks_cons (isBlank_numeral begins), different, read, closed, bind,
      Except.bind, pure, Except.pure]
  rw [Json.ofText, readText, split]
  have bracket : readValue depthLimit ('[' :: c :: others) = .ok (.array [.number (.float y)], []) := by
    rw [depthLimit, readValue_bracket, items]
    rfl
  rw [bracket]
  rfl

end Json

/-- The handler returns its only argument, whatever the host is and whatever its calls are
answered. -/
def Handler.ReturnsArgument (handler : Handler) : Prop :=
  ∀ call host argument, ((handler [argument]).run call host).2 = .returned argument

variable {x y : Float}

/-- A double among the arguments arrives as the one that it is read as. -/
theorem decodeArguments_float (finite : x.isFinite = true) (reads : Json.ReadsAs x y) :
    decodeArguments ("[" ++ (HostValue.float x).text ++ "]") = .ok [.float y] := by
  rw [Json.text_float finite, decodeArguments, reads.ofText_item finite]
  rfl

/-- A method that returns its argument replies with the double that is read. -/
theorem reply_float (finite : x.isFinite = true) (reads : Json.ReadsAs x y) {host : Host}
    {object method : String} {handle : Handle}
    (bound : Table.lookup? host.registry object = some handle) {entry : Method}
    (declared : handle.object.method? method 1 = some entry)
    (ordinary : isBaseCapability method = false) (accepts : entry.accepts [.float] = true)
    (returns : entry.handler.ReturnsArgument) :
    (host.dispatchText object method ("[" ++ (HostValue.float x).text ++ "]")).2 =
      "\x7b\"value\":" ++ (HostValue.float y).text ++ "\x7d" := by
  have called : (host.dispatch object method [.float y]).2 = .ok (.float y) :=
    Host.dispatchWithin_returned (callDepth - 1) bound
      (HostObject.select?_accepts declared ordinary accepts) fun call host => returns call host _
  simp only [Host.dispatchText, decodeArguments_float finite reads, called]
  rw [replyOf_ok_text, HostValue.text]

/-- A printed double is scraped as the double that is read. -/
theorem scrape_float (finite : x.isFinite = true) (reads : Json.ReadsAs x y)
    {sentinel before : String} (solid : Solid sentinel) (ended : Ended before.toList)
    (first : ¬ BeginsLine sentinel.toList before.toList) (rest : String) :
    scrape (before ++ sentinel ++ (HostValue.float x).text ++ "\n" ++ rest) sentinel =
      ([], .ok (.ofNumber (.float y))) := by
  have read := reads.ofText
  rw [← Json.text_float finite] at read
  have filled : (HostValue.float x).text ≠ "" := by
    intro empty
    rw [empty] at read
    cases read
  have carries := carries_text ended first (HostValue.float x).toJson rest
  have value : resultValue (before ++ sentinel ++ (HostValue.float x).text ++ "\n" ++ rest)
      sentinel = .ok (.number (.float y)) := by
    rw [HostValue.text] at read filled ⊢
    rw [resultValue_carries solid carries, if_neg filled, read]
    rfl
  rw [scrape, value]
  rfl

/-- The integer that a double is equal to has its size and its sign, unless it is zero. -/
theorem size_of_integer? {value : Decimal.Dyadic} {integer : Int}
    (known : value.integer? = some integer) :
    value.size = integer.natAbs ∧ (integer = 0 ∨ decide (integer < 0) = value.negative) := by
  unfold Decimal.Dyadic.integer? at known
  simp only [Option.map_eq_some_iff] at known
  obtain ⟨size, whole, rfl⟩ := known
  have same : value.size = size := by
    rw [Decimal.Dyadic.size]
    split at whole
    · next positive =>
        obtain ⟨zeros, shift⟩ := Int.eq_ofNat_of_zero_le positive
        rw [← Option.some.inj whole, shift]
        simp
    · next fraction =>
        obtain ⟨places, shift⟩ := Int.exists_eq_neg_ofNat (not_le.mp fraction).le
        split at whole
        · next divides =>
            rw [← Option.some.inj whole, Nat.cast_div (Nat.dvd_of_mod_eq_zero divides)] <;>
              simp [shift, div_eq_mul_inv]
        · cases whole
  refine ⟨?_, ?_⟩
  · rw [same]
    split <;> simp
  · rcases Nat.eq_zero_or_pos size with rfl | positive
    · exact .inl (by split <;> rfl)
    · right
      cases value.negative <;> simp [positive]

/-- An integer is rounded with its sign. -/
theorem ofInt_eq (integer : Int) :
    Float.ofInt integer = withSign (decide (integer < 0)) (Float.ofNat integer.natAbs) := by
  cases integer with
  | ofNat size => rfl
  | negSucc size =>
      rw [decide_eq_true (Int.negSucc_lt_zero size)]
      rfl

/-- A natural number that a double is equal to is rounded to it. -/
theorem ofNat_eq_of_sized {size : Nat} {z : Float} (sized : Sized z size) :
    Float.ofNat size = z := by
  rcases sized with denotes | ⟨rfl, none⟩
  · have positive : 0 < size := by exact_mod_cast denotes.pos
    exact (isRounded_ofNat positive).unique denotes.isRounded
  · obtain rfl : size = 0 := by exact_mod_cast none
    decide +kernel

/-- A number that is translated as an integer widens to the same double. -/
theorem float?_ofNumber (finite : y.isFinite = true) :
    ∃ z, (Translated.ofNumber (.float y)).float? = some z ∧ (z == y) = true := by
  obtain ⟨size, sized, same⟩ := exists_withSign finite
  have self : (y == y) = true := same ▸ withSign_beq sized (.inr rfl)
  unfold Translated.ofNumber
  simp only [Number.int64?, Number.toFloat]
  split
  · next value known =>
      obtain ⟨integer, found, narrowed⟩ := Option.bind_eq_some_iff.mp known
      unfold integerOfFloat? at found
      rw [if_pos finite] at found
      obtain ⟨whole, sign⟩ := size_of_integer? found
      split at narrowed
      · next range =>
          obtain rfl := Option.some.inj narrowed
          simp only [Bool.and_eq_true, decide_eq_true_eq] at range
          refine ⟨_, rfl, ?_⟩
          rw [whole] at sized
          rw [Int64.toInt_ofInt_of_le range.1 range.2, ofInt_eq, ofNat_eq_of_sized sized, same]
          refine withSign_beq sized (sign.imp_left fun zero => ?_)
          rw [zero]
          rfl
      · cases narrowed
  · exact ⟨y, rfl, self⟩

/-- The text that is written for a finite double is always read as a finite double of its sign, off
by a few of the last places: as an argument, so that a method that returns it replies with the
double that was read, and as a result. The double itself is read when the digits of the text and
their power of ten are doubles, so that one operation brings them together. Otherwise each step of
scaling rounds once more. -/
theorem floats_read_closely (x : Float) (finite : x.isFinite = true) :
    ∃ y, Json.Close x y ∧ (Json.IsShort x → y = x) ∧
      Json.ofText (HostValue.float x).text = .ok (.number (.float y)) ∧
      decodeArguments ("[" ++ (HostValue.float x).text ++ "]") = .ok [.float y] ∧
      (∀ (host : Host) (object method : String) (handle : Handle) (entry : Method),
        Table.lookup? host.registry object = some handle →
        handle.object.method? method 1 = some entry → isBaseCapability method = false →
        entry.accepts [.float] = true → entry.handler.ReturnsArgument →
        (host.dispatchText object method ("[" ++ (HostValue.float x).text ++ "]")).2 =
          "\x7b\"value\":" ++ (HostValue.float y).text ++ "\x7d") ∧
      ∀ sentinel before rest : String, Solid sentinel → Ended before.toList →
        ¬ BeginsLine sentinel.toList before.toList →
        ∃ translated z, scrape (before ++ sentinel ++ (HostValue.float x).text ++ "\n" ++ rest)
            sentinel = ([], .ok translated) ∧
          translated.float? = some z ∧ (z == y) = true := by
  obtain ⟨y, close, short, reads⟩ := Json.exists_readsAs finite
  refine ⟨y, close, short, Json.text_float finite ▸ reads.ofText,
    decodeArguments_float finite reads, ?_, ?_⟩
  · intro host object method handle entry bound declared ordinary accepts returns
    exact reply_float finite reads bound declared ordinary accepts returns
  · intro sentinel before rest solid ended first
    obtain ⟨z, widened, same⟩ := float?_ofNumber close.finite
    exact ⟨_, z, scrape_float finite reads solid ended first rest, widened, same⟩

theorem Handler.argument_returnsArgument : (Handler.argument 0).ReturnsArgument :=
  fun _ _ _ => rfl

theorem not_beginsLine_log : ¬ BeginsLine resultMarker.toList "log\n".toList := by
  rw [beginsLine_iff (by decide) (by decide)]
  decide

/-- A host with a method that returns its argument. -/
def Host.echoing : Host :=
  Host.empty.bind "k" ⟨0, HostObject.ofMethods "Echo" [⟨"echo", [.float], "", .argument 0⟩]⟩

/-- A tenth is no double, but the double nearest to it is read as itself. -/
theorem floats_read_closely_tenth :
    let x := Float.ofBits 0x3FB999999999999A
    x.isFinite = true ∧ Json.IsShort x ∧ (HostValue.float x).text = "0.1" ∧
      Json.ofText "0.1" = .ok (.number (.float x)) ∧
      (Host.echoing.dispatchText "k" "echo" "[0.1]").2 = "\x7b\"value\":0.1\x7d" ∧
      ∃ translated z, scrape ("log\n" ++ resultMarker ++ "0.1" ++ "\n" ++ "log") resultMarker =
          ([], .ok translated) ∧ translated.float? = some z ∧ (z == x) = true := by
  intro x
  have finite : x.isFinite = true := by decide +kernel
  have text : (HostValue.float x).text = "0.1" := by decide +kernel
  have short : Json.IsShort x := by
    have written : counted (Decimal.Dyadic.ofFloat x) = ⟨1, -1⟩ := by decide +kernel
    refine ⟨1, 0, ?_⟩
    rw [written]
    decide
  obtain ⟨y, -, exact, read, -, replies, printed⟩ := floats_read_closely x finite
  obtain rfl := exact short
  rw [text] at read
  have reply := replies Host.echoing "k" "echo" _ _ rfl rfl rfl rfl
    Handler.argument_returnsArgument
  have scraped := printed resultMarker "log\n" "log" solid_resultMarker (by decide)
    not_beginsLine_log
  rw [text] at reply scraped
  exact ⟨finite, short, text, read, reply, scraped⟩

/-- The sixteen digits of the greatest odd double and the zero behind their point are no double, and
the even number below is read. -/
theorem float_read_below :
    let x := Float.ofBits 0x433FFFFFFFFFFFFF
    let y := Float.ofBits 0x433FFFFFFFFFFFFE
    x.isFinite = true ∧ (x == y) = false ∧ (HostValue.float x).text = "9007199254740991.0" ∧
      Json.ofText "9007199254740991.0" = .ok (.number (.float y)) ∧
      (Host.echoing.dispatchText "k" "echo" "[9007199254740991.0]").2 =
        "\x7b\"value\":9007199254740990.0\x7d" ∧
      scrape ("log\n" ++ resultMarker ++ "9007199254740991.0" ++ "\n" ++ "log") resultMarker =
        ([], .ok (.integer 9007199254740990)) := by
  intro x y
  have finite : x.isFinite = true := by decide +kernel
  have text : (HostValue.float x).text = "9007199254740991.0" := by decide +kernel
  have rounded : (HostValue.float y).text = "9007199254740990.0" := by decide +kernel
  have written : counted (Decimal.Dyadic.ofFloat x) = ⟨90071992547409910, -1⟩ := by decide +kernel
  have known : Json.scaledTo? ⟨90071992547409910, -1⟩ = some y := by decide +kernel
  have plain : (Decimal.Dyadic.ofFloat x).negative = false := by decide +kernel
  have reads : Json.ReadsAs x y := by
    refine Json.readsAs_of_toFloat finite fun rest => ?_
    rw [Json.Significand.ofFloat, Json.toFloat_ofScientific (written ▸ known), plain]
    rfl
  have whole : integerOfFloat? y = some 9007199254740990 := by decide +kernel
  have integer : Translated.ofNumber (.float y) = .integer 9007199254740990 := by
    rw [Translated.ofNumber, Number.toFloat, whole]
    rfl
  have read := reads.ofText
  have declared : (HostObject.ofMethods "Echo" [⟨"echo", [.float], "", .argument 0⟩]).method?
      "echo" 1 = some ⟨"echo", [.float], "", .argument 0⟩ := rfl
  have reply := reply_float finite reads (rfl : Table.lookup? Host.echoing.registry "k" = some _)
    declared rfl rfl Handler.argument_returnsArgument
  have scraped := scrape_float finite reads solid_resultMarker (by decide) not_beginsLine_log "log"
  rw [← Json.text_float finite] at read
  rw [text] at read reply scraped
  rw [rounded] at reply
  rw [integer] at scraped
  exact ⟨finite, by decide +kernel, text, read, reply, scraped⟩

end HostBridge
