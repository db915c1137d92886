/-
This file shows that the layout of a configuration does not matter.
-/
import HostBridge.Proofs.Encoding
import HostBridge.Proofs.Filling
import HostBridge.Proofs.Items

namespace HostBridge

open Json

namespace Configuration

/-- The members whose values stand in an array, in the order of their declaration. -/
def memberFields (words : List (List Char)) : List Json.Field :=
  List.zipWith Json.Field.mk (Setting.defaults.map fun setting => setting.key.toList) words

theorem named_iff (setting : Setting) (known : setting ∈ Setting.defaults) (word : List Char)
    (name : String) :
    (⟨setting.key.toList, word⟩ : Json.Field).Named name ↔ name = setting.key := by
  have spelled : (⟨setting.key.toList, word⟩ : Json.Field).Named setting.key := by
    rcases Setting.mem_defaults_iff.mp known with rfl | rfl | rfl | rfl <;> rfl
  exact ⟨fun named => named.unique spelled, fun same => same ▸ spelled⟩

section Slots

variable {draft next : Draft}

/-- A member that may be missing puts what its value says. -/
theorem fills_slot_iff {A : Type} {read : List Char → Scan A} (setting : Setting)
    (known : setting ∈ Setting.defaults) (make : A → Setting) (set : Option A → Draft)
    (scans : ∀ text, Setting.read setting.key text =
      (read text).map fun (value, rest) => (make value, rest))
    (put : ∀ value, (make value).put draft = some (set (some value))) (empty : set none = draft)
    (word : Option (List Char)) :
    Fills draft (word.toList.map (Json.Field.mk setting.key.toList)) next ↔
      ∃ item, Takes read word item ∧ set item = next := by
  cases word with
  | none => simp [Takes, empty]
  | some word =>
      simp only [Option.toList_some, List.map_cons, List.map_nil, fills_cons_iff, fills_nil_iff,
        Field.Says, named_iff setting known, exists_eq_left, scans, map_pair_eq_ok_iff, Takes]
      constructor
      · rintro ⟨_, between, ⟨value, found, rfl⟩, filled, rfl⟩
        exact ⟨some value, ⟨value, rfl, found⟩, Option.some.inj ((put value).symm.trans filled)⟩
      · rintro ⟨_, ⟨value, rfl, found⟩, rfl⟩
        exact ⟨make value, _, ⟨value, found, rfl⟩, put value, rfl⟩

/-- The members of the words, one behind the other. -/
theorem memberFields_eq (words : List (List Char)) : memberFields words =
    words[0]?.toList.map (Json.Field.mk "sentinel".toList) ++
      (words[1]?.toList.map (Json.Field.mk "memory_limit".toList) ++
        (words[2]?.toList.map (Json.Field.mk "max_stack_size".toList) ++
          words[3]?.toList.map (Json.Field.mk "log_scripts".toList))) := by
  match words with
  | [] | [_] | [_, _] | [_, _, _] | _ :: _ :: _ :: _ :: _ => rfl

section Places

variable (mode : Option SentinelMode) (limit size : Option (Option UInt64))
  (word : Option (List Char)) (next : Draft)

/-- The first member fills the first place. -/
theorem fills_sentinel_iff :
    Fills Draft.empty (word.toList.map (Json.Field.mk "sentinel".toList)) next ↔
      ∃ mode, Takes readMode word mode ∧ ⟨mode, none, none, none⟩ = next :=
  fills_slot_iff (.sentinel _) (List.mem_of_getElem? (i := 0) rfl) .sentinel
    (fun mode => ⟨mode, none, none, none⟩) (fun _ => rfl) (fun _ => rfl) rfl word

/-- The second member fills the second place. -/
theorem fills_memoryLimit_iff :
    Fills ⟨mode, none, none, none⟩ (word.toList.map (Json.Field.mk "memory_limit".toList)) next ↔
      ∃ limit, Takes readLimit word limit ∧ ⟨mode, limit, none, none⟩ = next :=
  fills_slot_iff (.memoryLimit _) (List.mem_of_getElem? (i := 1) rfl) .memoryLimit
    (fun limit => ⟨mode, limit, none, none⟩) (fun _ => rfl) (fun _ => rfl) rfl word

/-- The third member fills the third place. -/
theorem fills_maxStackSize_iff :
    Fills ⟨mode, limit, none, none⟩ (word.toList.map (Json.Field.mk "max_stack_size".toList)) next ↔
      ∃ size, Takes readLimit word size ∧ ⟨mode, limit, size, none⟩ = next :=
  fills_slot_iff (.maxStackSize _) (List.mem_of_getElem? (i := 2) rfl) .maxStackSize
    (fun size => ⟨mode, limit, size, none⟩) (fun _ => rfl) (fun _ => rfl) rfl word

/-- The fourth member fills the last place. -/
theorem fills_logScripts_iff :
    Fills ⟨mode, limit, size, none⟩ (word.toList.map (Json.Field.mk "log_scripts".toList)) next ↔
      ∃ enabled, Takes readBoolean word enabled ∧ ⟨mode, limit, size, enabled⟩ = next :=
  fills_slot_iff (.logScripts _) (List.mem_of_getElem? (i := 3) rfl) .logScripts
    (fun enabled => ⟨mode, limit, size, enabled⟩) (fun _ => rfl) (fun _ => rfl) rfl word

end Places

/-- The members say of a draft what the values of an array say of it. -/
theorem fills_memberFields_iff (words : List (List Char)) :
    Fills Draft.empty (memberFields words) draft ↔ draft.OfItems words := by
  simp only [memberFields_eq, fills_append_iff, fills_sentinel_iff]
  constructor
  · rintro ⟨_, ⟨mode, one, rfl⟩, _, filled, _, more, last⟩
    obtain ⟨limit, two, rfl⟩ := (fills_memoryLimit_iff ..).mp filled
    obtain ⟨size, three, rfl⟩ := (fills_maxStackSize_iff ..).mp more
    obtain ⟨enabled, four, rfl⟩ := (fills_logScripts_iff ..).mp last
    exact ⟨one, two, three, four⟩
  · obtain ⟨mode, limit, size, enabled⟩ := draft
    rintro ⟨one, two, three, four⟩
    exact ⟨_, ⟨mode, one, rfl⟩, _, (fills_memoryLimit_iff ..).mpr ⟨limit, two, rfl⟩, _,
      (fills_maxStackSize_iff ..).mpr ⟨size, three, rfl⟩,
      (fills_logScripts_iff ..).mpr ⟨enabled, four, rfl⟩⟩

end Slots

section Texts

variable {text : List Char} {configuration : Configuration}

/-- Nothing but blanks may follow the members. -/
theorem finish_eq_ok_iff {scan : Except Stop (Draft × List Char)} :
    (scan.bind fun (draft, rest) =>
        match skipBlanks rest with
        | [] => return draft.finish
        | rest => stopAfter .trailingCharacters rest) = .ok configuration ↔
      ∃ draft rest, scan = .ok (draft, rest) ∧ skipBlanks rest = [] ∧
        draft.finish = configuration := by
  rw [bind_eq_ok_iff]
  constructor
  · rintro ⟨⟨draft, rest⟩, found, ended⟩
    cases skipped : skipBlanks rest with
    | nil => exact ⟨draft, rest, found, skipped, by simpa [skipped, pure, Except.pure] using ended⟩
    | cons c others => simp [skipped, stopAfter] at ended
  · rintro ⟨draft, rest, found, skipped, rfl⟩
    exact ⟨_, found, by simp [skipped, pure, Except.pure]⟩

/-- Where it is known what is read and what is left, only the draft is open. -/
theorem exists_finish_iff {scan : Except Stop (Draft × List Char)} {behind : List Char}
    {made : Draft → Prop} (read : ∀ draft rest, scan = .ok (draft, rest) ↔ rest = behind ∧ made draft)
    (ends : Blanks behind []) :
    (∃ draft rest, scan = .ok (draft, rest) ∧ skipBlanks rest = [] ∧ draft.finish = configuration) ↔
      ∃ draft, made draft ∧ draft.finish = configuration := by
  have nothing : skipBlanks behind = [] := ends.skipped rfl
  constructor
  · rintro ⟨draft, rest, found, -, finished⟩
    exact ⟨draft, ((read draft rest).mp found).2, finished⟩
  · rintro ⟨draft, known, finished⟩
    exact ⟨draft, behind, (read draft behind).mpr ⟨rfl, known⟩, nothing, finished⟩

/-- A text that begins with a brace is read by its members. -/
theorem readText_brace {inside : List Char} (blanks : Blanks text ('\x7b' :: inside)) :
    readText text = .ok configuration ↔
      ∃ draft rest, readDraft (inside.length + 1) true Draft.empty inside = .ok (draft, rest) ∧
        skipBlanks rest = [] ∧ draft.finish = configuration := by
  have begun : beforeValue text = .ok ('\x7b' :: inside) :=
    beforeValue_eq_ok_iff.mpr ⟨blanks.skipped (skipBlanks_cons rfl inside), by simp⟩
  rw [readText, begun]
  exact finish_eq_ok_iff

/-- A text that begins with a bracket is read by its items. -/
theorem readText_bracket {inside : List Char} (blanks : Blanks text ('[' :: inside)) :
    readText text = .ok configuration ↔
      ∃ draft rest, readArray inside = .ok (draft, rest) ∧ skipBlanks rest = [] ∧
        draft.finish = configuration := by
  have begun : beforeValue text = .ok ('[' :: inside) :=
    beforeValue_eq_ok_iff.mpr ⟨blanks.skipped (skipBlanks_cons rfl inside), by simp⟩
  rw [readText, begun]
  exact finish_eq_ok_iff

theorem ofText_eq_ok_iff {text : String} :
    ofText text = .ok configuration ↔ readText text.toList = .ok configuration := by
  rw [ofText]
  cases readText text.toList <;> simp [Except.mapError]

/-- An object makes the configuration that its members fill in. -/
theorem ofText_object {text : String} {fields : List Json.Field} (object : IsObject text fields) :
    ofText text = .ok configuration ↔
      ∃ draft, Fills Draft.empty fields draft ∧ draft.finish = configuration := by
  obtain ⟨depth, inside, behind, blanks, members, ends⟩ := object
  have read (draft : Draft) (rest : List Char) :
      readDraft (inside.length + 1) true Draft.empty inside = .ok (draft, rest) ↔
        rest = behind ∧ Fills Draft.empty fields draft := by
    rcases members with ⟨rfl, closed⟩ | listed
    · rw [readDraft_closed _ _ _ closed]
      simp [eq_comm, and_comm]
    · obtain ⟨start, quote, step⟩ := readFields_iff listed
      rw [readDraft_first _ _ quote]
      exact step _ _ _ _ le_rfl
  rw [ofText_eq_ok_iff, readText_brace blanks]
  exact exists_finish_iff read ends

/-- An array makes the configuration of its values. -/
theorem ofText_array {text : String} {words : List (List Char)} (array : IsArray text words)
    (few : words.length ≤ 4) :
    ofText text = .ok configuration ↔
      ∃ draft : Draft, draft.OfItems words ∧ draft.finish = configuration := by
  obtain ⟨depth, inside, behind, blanks, items, ends⟩ := array
  have remaining : Remaining depth true words inside behind := by
    rcases items with ⟨rfl, closed⟩ | listed
    · exact .closed closed
    · exact .first listed
  rw [ofText_eq_ok_iff, readText_bracket blanks]
  exact exists_finish_iff (fun draft rest => readArray_iff remaining few) ends

/-- A file is loaded when its text is read and its limits can be used. -/
theorem load_eq_ok_iff {text : String} :
    Configuration.load (.ok (Text.encodeUtf8 text)) = .ok configuration ↔
      ofText text = .ok configuration ∧ configuration.defect? = none := by
  have content : fileText (.ok (Text.encodeUtf8 text)) = .ok text := by
    rw [fileText, Except.bind, Text.decodeUtf8_encodeUtf8]
    rfl
  rw [load, content]
  cases found : ofText text with
  | error fault => simp [Except.mapError, bind, Except.bind, found]
  | ok other =>
      simp only [Except.mapError, bind, Except.bind, found, Except.ok.injEq]
      cases defect : other.defect? with
      | none =>
          refine ⟨fun same => ?_, fun ⟨same, _⟩ => congrArg Except.ok same⟩
          obtain rfl : other = configuration := Except.ok.inj same
          exact ⟨rfl, defect⟩
      | some defect =>
          refine iff_of_false nofun ?_
          rintro ⟨rfl, usable⟩
          rw [defect] at usable
          cases usable

end Texts

/-- Both texts are loaded as the same configuration, or none of them is loaded. -/
def LoadAlike (text other : String) : Prop :=
  ∀ configuration, Configuration.load (.ok (Text.encodeUtf8 text)) = .ok configuration ↔
    Configuration.load (.ok (Text.encodeUtf8 other)) = .ok configuration

/-- Texts that are read alike are loaded alike. -/
theorem loadAlike_of_ofText {text other : String}
    (same : ∀ configuration, ofText text = .ok configuration ↔ ofText other = .ok configuration) :
    LoadAlike text other := by
  intro configuration
  rw [load_eq_ok_iff, load_eq_ok_iff, same]

end Configuration

namespace Json

theorem Listed.exists_of_mem {A : Type} {element : A → Part} {close : Char} {all : List A}
    {text rest : List Char} (listed : Listed element close all text rest) {a : A} (inside : a ∈ all) :
    ∃ text rest, element a text rest := by
  induction listed with
  | last _ stands _ => exact List.mem_singleton.mp inside ▸ ⟨_, _, stands⟩
  | more _ stands _ _ ih =>
      rcases List.mem_cons.mp inside with rfl | later
      · exact ⟨_, _, stands⟩
      · exact ih later

/-- The members of an object have values of their own. -/
theorem IsObject.value {text : String} {fields : List Field} (object : IsObject text fields)
    {field : Field} (inside : field ∈ fields) : ∃ depth, Value .all depth field.value [] := by
  obtain ⟨depth, _, _, -, ⟨rfl, -⟩ | listed, -⟩ := object
  · cases inside
  · obtain ⟨_, rest, _, _, -, -, -, -, value⟩ := listed.exists_of_mem inside
    exact ⟨depth, by simpa using (framed_value depth).exchange value []⟩

/-- The key is none of those that are known. -/
def Field.IsUnknown (field : Field) : Prop :=
  ∃ name, field.Named name ∧ ∀ setting ∈ Setting.defaults, name ≠ setting.key

/-- A member with another key says nothing, whatever its value is. -/
theorem Field.IsUnknown.ignored {field : Field} (unknown : field.IsUnknown) {depth : Nat}
    (value : Value .all depth field.value []) : field.Says .ignored := by
  obtain ⟨name, named, other⟩ := unknown
  simp only [Setting.defaults, List.forall_mem_cons, Setting.key] at other
  refine ⟨name, named, ?_⟩
  rw [Setting.read, if_neg other.1, if_neg other.2.1, if_neg other.2.2.1, if_neg other.2.2.2.1,
    skipValue_of_value (.refl _) value (by simp [Detached])]
  rfl

end Json

/-- The text of an array shows its values. -/
theorem Json.isArray_text (items : List Json) :
    IsArray (Json.array items).text (items.map fun item => item.text.toList) := by
  obtain ⟨depth, known⟩ := exists_isValue_items items
  rw [itemTexts_eq_map] at known
  refine ⟨depth, (separated "," (itemTexts items)).toList ++ [']'], [], ?_, ?_, .refl _⟩
  · rw [toList_array]
    exact .refl _
  · rw [itemTexts_eq_map]
    cases items with
    | nil => exact .inl ⟨rfl, .refl _⟩
    | cons first others =>
        have stands : ∀ item ∈ first :: others, ∀ rest,
            Item depth item.text.toList (item.text.toList ++ rest) rest :=
          fun item inside rest => ⟨rfl, known _ (List.mem_map_of_mem inside) rest⟩
        exact .inr (listed_separated (Item depth) _ _ Json.text stands [])

open HostBridge.Configuration

/-- The members of a configuration may stand in any order, and members with other keys may stand
among them, whatever their values are. A missing member is taken to say its default. The values of
an array are those of the members in the order of their declaration, of which the last may be
missing. -/
theorem configurations_loaded_alike :
    (∀ (text other : String) (fields others extra : List Json.Field), IsObject text fields →
      IsObject other others → others.Perm (fields ++ extra) →
      (∀ field ∈ extra, field.IsUnknown) → LoadAlike text other) ∧
    (∀ (text other : String) (fields : List Json.Field) (field : Json.Field),
      ∀ setting ∈ Setting.defaults, IsObject text fields → IsObject other (field :: fields) →
      (∀ member ∈ fields, ¬ member.Named setting.key) → field.Says setting →
      LoadAlike text other) ∧
    (∀ (text : String) (fields : List Json.Field) (configuration : Configuration),
      ∀ setting ∈ Setting.defaults, IsObject text fields →
      (∀ member ∈ fields, ¬ member.Named setting.key) →
      Configuration.load (.ok (Text.encodeUtf8 text)) = .ok configuration →
      configuration.Holds setting) ∧
    ∀ (text other : String) (words : List (List Char)), IsArray text words → words.length ≤ 4 →
      IsObject other (memberFields words) → LoadAlike text other := by
  refine ⟨?_, ?_, ?_, ?_⟩
  · intro text other fields others extra object again perm unknown
    have silent : ∀ field ∈ extra, field.Says .ignored := by
      intro field inside
      have among : field ∈ others := perm.symm.subset (List.mem_append_right fields inside)
      obtain ⟨depth, value⟩ := again.value among
      exact (unknown field inside).ignored value
    refine loadAlike_of_ofText fun configuration => ?_
    rw [ofText_object object, ofText_object again]
    simp only [fills_perm_iff perm, fills_append_iff, fills_silent_iff silent, exists_eq_right]
  · intro text other fields field setting known object again missing said
    refine loadAlike_of_ofText fun configuration => ?_
    rw [ofText_object object, ofText_object again, fills_default_iff known missing said]
  · intro text fields configuration setting known object missing loaded
    obtain ⟨draft, filled, rfl⟩ := (ofText_object object).mp (load_eq_ok_iff.mp loaded).1
    exact holds_of_missing known missing filled
  · intro text other words array few object
    refine loadAlike_of_ofText fun configuration => ?_
    rw [ofText_array array few, ofText_object object]
    simp only [fills_memberFields_iff]

/-- A key in quotes names what is quoted. -/
theorem Json.named_ofMember (member : String × Json) : (Field.ofMember member).Named member.1 :=
  scanString_quoted member.1 []

/-- One mode is loaded alike from an array, from an object, behind an unknown member and behind a
default, and nothing is logged in any case. -/
theorem configurations_loaded_alike_mixed :
    let mode : String × Json := ("sentinel", .string "fixed")
    let object := (Json.object [mode]).text
    LoadAlike (Json.array [.string "fixed"]).text object ∧
      LoadAlike object (Json.object [("x", .array [.null]), mode]).text ∧
      LoadAlike object (Json.object [("memory_limit", .null), mode]).text ∧
      Configuration.load (.ok (Text.encodeUtf8 object)) = .ok ⟨.fixed, none, none, false⟩ ∧
      Holds ⟨.fixed, none, none, false⟩ (.logScripts false) := by
  intro mode object
  obtain ⟨order, default, missing, array⟩ := configurations_loaded_alike
  have members : IsObject object [Field.ofMember mode] := isObject_text [mode]
  have sentinel {name : String} (named : (Field.ofMember mode).Named name) : name = "sentinel" :=
    named.unique (named_ofMember mode)
  have absent (setting : Setting) (other : setting.key ≠ "sentinel") :
      ∀ member ∈ [Field.ofMember mode], ¬ member.Named setting.key := by
    intro member inside named
    obtain rfl := List.mem_singleton.mp inside
    exact other (sentinel named)
  have loaded : Configuration.load (.ok (Text.encodeUtf8 object)) =
      .ok ⟨.fixed, none, none, false⟩ := by decide +kernel
  refine ⟨?_, ?_, ?_, loaded, ?_⟩
  · have key : "sentinel".toList.flatMap Text.Quoted.escape = "sentinel".toList := by
      decide +kernel
    have plain : Field.ofMember mode = ⟨"sentinel".toList, (Json.string "fixed").text.toList⟩ := by
      rw [Field.ofMember, key]
    have listed : memberFields [(Json.string "fixed").text.toList] = [Field.ofMember mode] := by
      rw [plain]
      rfl
    exact array _ _ _ (isArray_text [.string "fixed"]) (by decide) (listed ▸ members)
  · refine order _ _ _ _ [Field.ofMember ("x", .array [.null])] members (isObject_text _)
      (List.Perm.swap _ _ _) ?_
    intro field inside
    obtain rfl := List.mem_singleton.mp inside
    exact ⟨"x", named_ofMember _, by decide⟩
  · refine default _ _ _ (Field.ofMember ("memory_limit", .null)) (.memoryLimit none)
      (List.mem_of_getElem? (i := 1) rfl) members (isObject_text _)
      (absent (.memoryLimit none) (by decide)) ⟨"memory_limit", named_ofMember _, rfl⟩
  · exact missing _ _ _ (.logScripts false) (List.mem_of_getElem? (i := 3) rfl) members
      (absent (.logScripts false) (by decide)) loaded

end HostBridge
