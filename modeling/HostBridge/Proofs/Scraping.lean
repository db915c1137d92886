/-
This file shows that the result of an evaluation is what the first line of its sentinel holds.
-/
import HostBridge.Proofs.Line
import HostBridge.Proofs.Visible
import HostBridge.ResultLine
import HostBridge.Sentinel

namespace HostBridge

open Text

/-- A sentinel is a part of one line. -/
structure Solid (sentinel : String) : Prop where
  filled : sentinel ≠ ""
  noFeed : '\n' ∉ sentinel.toList
  noReturn : '\r' ∉ sentinel.toList

/-- The first line of the output that begins with the sentinel holds the text behind it, and then
carriage returns at most. -/
inductive Carries (output sentinel shown : String) : Prop where
  | intro (before returns ending : String) :
      output = before ++ sentinel ++ shown ++ returns ++ ending →
      Ended before.toList → ¬ BeginsLine sentinel.toList before.toList →
      '\n' ∉ shown.toList → shown.toList.getLast? ≠ some '\r' →
      (∀ c ∈ returns.toList, c = '\r') → (ending = "" ∨ ∃ rest, ending = "\n" ++ rest) →
      Carries output sentinel shown

theorem Solid.not_beginsLine_empty {sentinel : String} (solid : Solid sentinel) :
    ¬ BeginsLine sentinel.toList "".toList := by
  rw [beginsLine_last_iff (by simp)]
  simpa using solid.filled

/-- There is no payload exactly when no line begins with the sentinel. -/
theorem payload?_eq_none_iff {sentinel : String} (solid : Solid sentinel) (text : List Char) :
    payload? text sentinel.toList = none ↔ ¬ BeginsLine sentinel.toList text := by
  have filled : sentinel.toList ≠ [] := by simpa using solid.filled
  rw [beginsLine_iff filled ⟨solid.noFeed, solid.noReturn⟩, payload?, List.findSome?_eq_none_iff]
  constructor
  · rintro absent ⟨line, known, rest, rfl⟩
    have found : afterPrefix? sentinel.toList (sentinel.toList ++ rest) = some rest :=
      afterPrefix?_eq_some_iff.mpr rfl
    rw [absent _ known] at found
    cases found
  · intro absent line known
    rw [Option.eq_none_iff_forall_ne_some]
    intro rest found
    exact absent ⟨line, known, rest, (afterPrefix?_eq_some_iff.mp found).symm⟩

/-- The carriage return of a line end is one of those behind the text. -/
theorem withoutReturn_append {text returns : List Char} (stays : text.getLast? ≠ some '\r')
    (onlyReturns : ∀ c ∈ returns, c = '\r') :
    ∃ fewer, withoutReturn (text ++ returns) = text ++ fewer ∧ ∀ c ∈ fewer, c = '\r' := by
  induction returns using List.reverseRecOn with
  | nil => exact ⟨[], by rw [List.append_nil, withoutReturn, if_neg stays], by simp⟩
  | append_singleton others last _ =>
      obtain rfl : last = '\r' := onlyReturns last (by simp)
      refine ⟨others, ?_, fun c member => onlyReturns c (by simp [member])⟩
      rw [← List.append_assoc, withoutReturn, List.getLast?_concat, if_pos rfl,
        List.dropLast_concat]

/-- The first line is the text before its carriage returns, whether it has an end or not. -/
theorem lines_returns {text returns ending : List Char} (free : '\n' ∉ text) (filled : text ≠ [])
    (stays : text.getLast? ≠ some '\r') (onlyReturns : ∀ c ∈ returns, c = '\r')
    (ends : ending = [] ∨ ∃ rest, ending = '\n' :: rest) :
    ∃ fewer more, lines (text ++ returns ++ ending) = (text ++ fewer) :: more ∧
      ∀ c ∈ fewer, c = '\r' := by
  have oneLine : '\n' ∉ text ++ returns := by
    intro member
    rcases List.mem_append.mp member with inside | behind
    · exact free inside
    · exact absurd (onlyReturns _ behind) (by decide)
  rcases ends with rfl | ⟨rest, rfl⟩
  · refine ⟨returns, [], ?_, onlyReturns⟩
    rw [List.append_nil, lines_last _ oneLine (by simp [filled])]
  · obtain ⟨fewer, same, known⟩ := withoutReturn_append stays onlyReturns
    exact ⟨fewer, lines rest, by rw [lines_line _ rest oneLine, same], known⟩

/-- The payload is what the output carries, with carriage returns behind it at most. -/
theorem payload?_carries {output sentinel shown : String} (solid : Solid sentinel)
    (carries : Carries output sentinel shown) :
    ∃ returns, payload? output.toList sentinel.toList = some (shown.toList ++ returns) ∧
      ∀ c ∈ returns, c = '\r' := by
  obtain ⟨before, returns, ending, rfl, ended, first, oneLine, stays, onlyReturns, ends⟩ := carries
  have filled : sentinel.toList ≠ [] := by simpa using solid.filled
  have free : '\n' ∉ sentinel.toList ++ shown.toList := by
    simp [solid.noFeed, oneLine]
  have last : (sentinel.toList ++ shown.toList).getLast? ≠ some '\r' := by
    rw [List.getLast?_append]
    cases behind : shown.toList.getLast? with
    | none =>
        rw [Option.none_or]
        exact fun same => solid.noReturn (List.mem_of_getLast? same)
    | some c =>
        rw [Option.some_or, ← behind]
        exact stays
  have ends : ending.toList = [] ∨ ∃ rest, ending.toList = '\n' :: rest := by
    rcases ends with rfl | ⟨rest, rfl⟩
    · exact .inl rfl
    · exact .inr ⟨rest.toList, by simp⟩
  obtain ⟨fewer, more, read, known⟩ := lines_returns free (by simp [filled]) last onlyReturns ends
  refine ⟨fewer, ?_, known⟩
  have nothing := (payload?_eq_none_iff solid before.toList).mpr first
  have found : afterPrefix? sentinel.toList (sentinel.toList ++ shown.toList ++ fewer) =
      some (shown.toList ++ fewer) := by
    rw [afterPrefix?_eq_some_iff, List.append_assoc]
  have split : (before ++ sentinel ++ shown ++ returns ++ ending).toList =
      before.toList ++ (sentinel.toList ++ shown.toList ++ returns.toList ++ ending.toList) := by
    simp only [String.toList_append, List.append_assoc]
  rw [payload?] at nothing
  rw [payload?, split, lines_append _ _ ended, read, List.findSome?_append, nothing,
    Option.none_or, List.findSome?_cons, found]

/-- The result is decoded from what the output carries. -/
theorem resultValue_carries {output sentinel shown : String} (solid : Solid sentinel)
    (carries : Carries output sentinel shown) :
    resultValue output sentinel =
      if shown = "" then .error .emptyResult
      else (Json.ofText shown).mapError (.malformedResult shown) := by
  obtain ⟨returns, found, onlyReturns⟩ := payload?_carries solid carries
  have stays : ∀ c ∈ shown.toList.getLast?, decide (c = '\r') = false := by
    obtain ⟨_, _, _, -, -, -, -, stays, -, -⟩ := carries
    intro c last
    exact decide_eq_false fun same => stays (same ▸ last)
  have dropped : dropEndWhile (· = '\r') (shown.toList ++ returns) = shown.toList :=
    dropEndWhile_append (fun c member => decide_eq_true (onlyReturns c member)) stays
  rw [resultValue, found]
  simp only [dropped, String.ofList_toList, String.isEmpty_iff]

/-- A payload ends with carriage returns, if there are any. -/
theorem exists_returns (payload : List Char) :
    ∃ shown returns, payload = shown ++ returns ∧ shown.getLast? ≠ some '\r' ∧
      ∀ c ∈ returns, c = '\r' := by
  induction payload using List.reverseRecOn with
  | nil => exact ⟨[], [], rfl, by simp, by simp⟩
  | append_singleton payload last ih =>
      by_cases isReturn : last = '\r'
      · obtain ⟨shown, returns, rfl, stays, onlyReturns⟩ := ih
        refine ⟨shown, returns ++ [last], List.append_assoc .., stays, ?_⟩
        intro c member
        rcases List.mem_append.mp member with earlier | here
        · exact onlyReturns c earlier
        · rw [List.mem_singleton.mp here, isReturn]
      · exact ⟨payload ++ [last], [], (List.append_nil _).symm, by simp [isReturn], by simp⟩

/-- What is printed around the first line of the sentinel does not matter. -/
theorem scrape_eq_of_line {sentinel : String} (solid : Solid sentinel)
    {before payload ending : String} (ended : Ended before.toList)
    (first : ¬ BeginsLine sentinel.toList before.toList) (oneLine : '\n' ∉ payload.toList)
    (ends : ending = "" ∨ ∃ rest, ending = "\n" ++ rest) :
    scrape (before ++ sentinel ++ payload ++ ending) sentinel =
      scrape (sentinel ++ payload) sentinel := by
  obtain ⟨shown, returns, split, stays, onlyReturns⟩ := exists_returns payload.toList
  have text : payload = String.ofList shown ++ String.ofList returns := by
    apply String.toList_inj.mp
    simp [split]
  have free : '\n' ∉ (String.ofList shown).toList := by
    rw [String.toList_ofList]
    exact fun member => oneLine (by simp [split, member])
  have carries {before ending : String} (ended : Ended before.toList)
      (first : ¬ BeginsLine sentinel.toList before.toList)
      (ends : ending = "" ∨ ∃ rest, ending = "\n" ++ rest) :
      Carries (before ++ sentinel ++ payload ++ ending) sentinel (String.ofList shown) :=
    .intro before (String.ofList returns) ending (by simp [text, String.append_assoc]) ended first
      free (by simpa using stays) (by simpa using onlyReturns) ends
  have one := resultValue_carries solid (carries ended first ends)
  have two := resultValue_carries solid
    (carries (by decide : Ended "".toList) solid.not_beginsLine_empty (.inl (rfl : "" = "")))
  rw [String.empty_append, String.append_empty] at two
  rw [scrape, scrape, one, two]

/-- An output carries a text as soon as one of its lines begins with the sentinel. -/
theorem exists_carries {sentinel : String} (solid : Solid sentinel) (output : List Char)
    (begins : BeginsLine sentinel.toList output) :
    ∃ shown, Carries (String.ofList output) sentinel shown := by
  -- Lines before the one that begins so are added on the left.
  have here (line ending : List Char) (free : '\n' ∉ line) (first : sentinel.toList <+: line)
      (ends : ending = [] ∨ ∃ rest, ending = '\n' :: rest) :
      ∃ shown, Carries (String.ofList (line ++ ending)) sentinel shown := by
    obtain ⟨payload, rfl⟩ := first
    obtain ⟨shown, returns, rfl, stays, onlyReturns⟩ := exists_returns payload
    refine ⟨String.ofList shown, .intro "" (String.ofList returns) (String.ofList ending) ?_
      (by decide) solid.not_beginsLine_empty ?_ (by simpa using stays)
      (by simpa using onlyReturns) ?_⟩
    · apply String.toList_inj.mp
      simp
    · rw [String.toList_ofList]
      exact fun member => free (by simp [member])
    · rcases ends with rfl | ⟨rest, rfl⟩
      · exact .inl rfl
      · exact .inr ⟨String.ofList rest, String.toList_inj.mp (by simp)⟩
  induction output using line_induction with
  | last line free =>
      have found := here line [] free ((beginsLine_last_iff free).mp begins) (.inl rfl)
      rwa [List.append_nil] at found
  | line line rest free ih =>
      by_cases first : sentinel.toList <+: line
      · exact here line ('\n' :: rest) free first (.inr ⟨rest, rfl⟩)
      · have later := ((beginsLine_line_iff solid.noFeed free rest).mp begins).resolve_left first
        obtain ⟨shown, before, returns, ending, same, ended, none, oneLine, stays, onlyReturns,
          ends⟩ := ih later
        have text : rest = before.toList ++ sentinel.toList ++ shown.toList ++ returns.toList ++
            ending.toList := by
          simpa using String.toList_inj.mpr same
        refine ⟨shown, .intro (String.ofList (line ++ '\n' :: before.toList)) returns ending
          ?_ ?_ ?_ oneLine stays onlyReturns ends⟩
        · apply String.toList_inj.mp
          simp [text]
        · rw [String.toList_ofList, ended_line_iff]
          exact ended
        · rw [String.toList_ofList, beginsLine_line_iff solid.noFeed free]
          exact not_or.mpr ⟨first, none⟩

/-- A value that is printed behind the sentinel is the text that the output carries. -/
theorem carries_text {before sentinel : String} (ended : Ended before.toList)
    (first : ¬ BeginsLine sentinel.toList before.toList) (value : Json) (rest : String) :
    Carries (before ++ sentinel ++ value.text ++ "\n" ++ rest) sentinel value.text := by
  have noReturn := value.not_mem_text (c := '\r') (by decide)
  exact .intro before "" ("\n" ++ rest) (by simp [String.append_assoc]) ended first
    (value.not_mem_text (by decide)) (fun last => noReturn (List.mem_of_getLast? last)) (by simp)
    (.inr ⟨rest, rfl⟩)

/-- An output without the sentinel at the beginning of a line has no result. Any other output
carries a text behind the sentinel, which alone tells the result, and the text of every value is
carried whole. -/
theorem scrape_delivers_payload (sentinel : String) (solid : Solid sentinel) :
    (∀ output : String, ¬ BeginsLine sentinel.toList output.toList →
      scrape output sentinel =
        ([], .error (.noResultMarker (String.ofList (trim output.toList))))) ∧
    (∀ output : String, BeginsLine sentinel.toList output.toList →
      ∃ shown, Carries output sentinel shown) ∧
    (∀ output shown : String, Carries output sentinel shown →
      (shown = "" → scrape output sentinel = ([], .error .emptyResult)) ∧
      (∀ value, Json.ofText shown = .ok value →
        scrape output sentinel = (mixedEvents value, .ok (Translated.ofJson value))) ∧
      ∀ fault, shown ≠ "" → Json.ofText shown = .error fault →
        scrape output sentinel = ([], .error (.malformedResult shown fault))) ∧
    (∀ value : Json, '\n' ∉ value.text.toList ∧ '\r' ∉ value.text.toList) ∧
    ∀ (before rest : String) (written read : Json), Ended before.toList →
      ¬ BeginsLine sentinel.toList before.toList → Json.ofText written.text = .ok read →
      scrape (before ++ sentinel ++ written.text ++ "\n" ++ rest) sentinel =
        (mixedEvents read, .ok (Translated.ofJson read)) := by
  have decoded : ∀ output shown : String, Carries output sentinel shown →
      ∀ value, Json.ofText shown = .ok value →
        scrape output sentinel = (mixedEvents value, .ok (Translated.ofJson value)) := by
    intro output shown carries value read
    have filled : shown ≠ "" := by
      rintro rfl
      cases read
    rw [scrape, resultValue_carries solid carries, if_neg filled, read]
    rfl
  refine ⟨?_, ?_, ?_, ?_, ?_⟩
  · intro output absent
    have none := (payload?_eq_none_iff solid output.toList).mpr absent
    rw [scrape, resultValue, none]
  · intro output begins
    simpa using exists_carries solid output.toList begins
  · intro output shown carries
    refine ⟨?_, decoded output shown carries, ?_⟩
    · intro empty
      rw [scrape, resultValue_carries solid carries, if_pos empty]
    · intro fault filled refused
      rw [scrape, resultValue_carries solid carries, if_neg filled, refused]
      rfl
  · intro value
    exact ⟨value.not_mem_text (by decide), value.not_mem_text (by decide)⟩
  · intro before rest written read ended first same
    exact decoded _ _ (carries_text ended first written rest) read same

/-- The fixed sentinel is a part of one line. -/
theorem solid_resultMarker : Solid resultMarker := ⟨by decide, by decide, by decide⟩

/-- The sentinel in the middle of a line and on later lines does not count, and no carriage return
behind the payload does. -/
theorem scrape_delivers_payload_framed :
    scrape ("log QUICJS_RESULT:0\r\n" ++ resultMarker ++ "1" ++ "\r\r" ++
        "\nQUICJS_RESULT:2") resultMarker = ([], .ok (.integer 1)) ∧
    scrape ("log QUICJS_RESULT:0\r\n" ++ resultMarker ++ "" ++ "\r" ++ "") resultMarker =
      ([], .error .emptyResult) ∧
    scrape "log QUICJS_RESULT:0\r\n" resultMarker =
      ([], .error (.noResultMarker "log QUICJS_RESULT:0")) ∧
    scrape ("log QUICJS_RESULT:0\r\n" ++ resultMarker ++ Json.null.text ++ "\n" ++ "log")
        resultMarker = ([], .ok .null) := by
  obtain ⟨missing, -, carried, -, printed⟩ :=
    scrape_delivers_payload resultMarker solid_resultMarker
  have ended : Ended "log QUICJS_RESULT:0\r\n".toList := by decide
  have first : ¬ BeginsLine resultMarker.toList "log QUICJS_RESULT:0\r\n".toList := by
    rw [beginsLine_iff (by decide) (by decide)]
    decide
  have trimmed : String.ofList (trim "log QUICJS_RESULT:0\r\n".toList) = "log QUICJS_RESULT:0" := by
    rfl
  have number : Carries ("log QUICJS_RESULT:0\r\n" ++ resultMarker ++ "1" ++ "\r\r" ++
      "\nQUICJS_RESULT:2") resultMarker "1" :=
    .intro "log QUICJS_RESULT:0\r\n" "\r\r" "\nQUICJS_RESULT:2" rfl ended first (by decide)
      (by decide) (by simp) (.inr ⟨"QUICJS_RESULT:2", rfl⟩)
  have nothing : Carries ("log QUICJS_RESULT:0\r\n" ++ resultMarker ++ "" ++ "\r" ++ "")
      resultMarker "" :=
    .intro "log QUICJS_RESULT:0\r\n" "\r" "" rfl ended first (by decide) (by decide) (by simp)
      (.inl rfl)
  have one : Json.ofText "1" = .ok (.number (.integer 1)) := rfl
  have null : Json.ofText Json.null.text = .ok .null := rfl
  refine ⟨?_, (carried _ _ nothing).1 rfl, ?_, ?_⟩
  · rw [(carried _ _ number).2.1 _ one]
    rfl
  · rw [missing _ first, trimmed]
  · rw [printed _ "log" _ _ ended first null]
    rfl

end HostBridge
