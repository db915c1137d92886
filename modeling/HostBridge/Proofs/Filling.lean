/-
This file shows that the members of a configuration may be read in any order.
-/
import HostBridge.Proofs.Member
import Mathlib.Data.List.Perm.Basic

namespace HostBridge

open Json

/-- What one member of a configuration says. -/
inductive Setting where
  | sentinel (mode : SentinelMode)
  | memoryLimit (limit : Option UInt64)
  | maxStackSize (limit : Option UInt64)
  | logScripts (enabled : Bool)
  | ignored

namespace Setting

open HostBridge.Configuration

/-- The value of a member with this key. -/
def read (key : String) (text : List Char) : Scan Setting :=
  if key = "sentinel" then (readMode text).map fun (mode, rest) => (.sentinel mode, rest)
  else if key = "memory_limit" then
    (readLimit text).map fun (limit, rest) => (.memoryLimit limit, rest)
  else if key = "max_stack_size" then
    (readLimit text).map fun (limit, rest) => (.maxStackSize limit, rest)
  else if key = "log_scripts" then
    (readBoolean text).map fun (enabled, rest) => (.logScripts enabled, rest)
  else (skipValue text).map fun rest => (.ignored, rest)

/-- Nothing is put in a place that is filled. -/
def put (draft : Draft) : Setting → Option Draft
  | .sentinel mode =>
      if draft.sentinel.isSome then none else some { draft with sentinel := some mode }
  | .memoryLimit limit =>
      if draft.memoryLimit.isSome then none else some { draft with memoryLimit := some limit }
  | .maxStackSize limit =>
      if draft.maxStackSize.isSome then none else some { draft with maxStackSize := some limit }
  | .logScripts enabled =>
      if draft.logScripts.isSome then none else some { draft with logScripts := some enabled }
  | .ignored => some draft

/-- The key under which something is said. -/
def key : Setting → String
  | .sentinel _ => "sentinel"
  | .memoryLimit _ => "memory_limit"
  | .maxStackSize _ => "max_stack_size"
  | .logScripts _ => "log_scripts"
  | .ignored => ""

/-- What a missing member is taken to say. -/
def defaults : List Setting := [
  .sentinel Configuration.default.sentinel,
  .memoryLimit Configuration.default.memoryLimit,
  .maxStackSize Configuration.default.maxStackSize,
  .logScripts Configuration.default.logScripts]

theorem mem_defaults_iff {setting : Setting} : setting ∈ defaults ↔
    setting = .sentinel Configuration.default.sentinel ∨
      setting = .memoryLimit Configuration.default.memoryLimit ∨
      setting = .maxStackSize Configuration.default.maxStackSize ∨
      setting = .logScripts Configuration.default.logScripts := by
  simp only [defaults, List.mem_cons, List.not_mem_nil, or_false]

/-- A default that can still be put does not change what the draft comes to. -/
theorem finish_put {setting : Setting} (known : setting ∈ defaults) {draft next : Draft}
    (filled : setting.put draft = some next) : next.finish = draft.finish := by
  rcases mem_defaults_iff.mp known with rfl | rfl | rfl | rfl <;> simp only [put] at filled <;>
    split_ifs at filled with free <;> cases filled <;>
    simp_all [Draft.finish]

/-- What is said under one key does not fill the places of the others. -/
theorem free_put {setting other : Setting} (different : other.key ≠ setting.key)
    {draft next : Draft} (known : other.put draft = some next)
    (free : (setting.put draft).isSome = true) : (setting.put next).isSome = true := by
  cases setting <;> cases other <;> simp_all [put, key] <;> grind

/-- Two settings may be put in either order. -/
theorem put_comm {first second : Setting} {draft between next : Draft}
    (one : first.put draft = some between) (two : second.put between = some next) :
    ∃ other, second.put draft = some other ∧ first.put other = some next := by
  cases first <;> cases second <;> simp_all [put] <;> grind

/-- What a value says under a key does not depend on its place. -/
theorem read_place {key : String} {setting : Setting} {depth : Nat}
    {text word rest behind : List Char} (blanks : Blanks text (word ++ rest))
    (stands : Value .all depth (word ++ rest) rest) (detached : Detached rest) :
    Setting.read key text = .ok (setting, behind) ↔
      behind = rest ∧ Setting.read key word = .ok (setting, []) := by
  unfold Setting.read
  split_ifs
  · exact reads_mode.place_map _ blanks stands detached
  · exact reads_limit.place_map _ blanks stands detached
  · exact reads_limit.place_map _ blanks stands detached
  · exact reads_boolean.place_map _ blanks stands detached
  · have alone : Value .all depth word [] := by
      simpa using (framed_value depth).exchange stands []
    rw [skipValue_of_value blanks stands detached,
      skipValue_of_value (.refl word) alone (by simp [Detached])]
    simp [Except.map, and_comm, eq_comm]

end Setting

namespace Configuration

/-- A member is read when its slot is free and its value is one of the slot. -/
theorem readSlot_iff {A : Type} {read : List Char → Scan A} (make : A → Setting) (set : A → Draft)
    {draft next : Draft} {filled : Bool} {key : String} {text rest : List Char}
    (put : ∀ value, (make value).put draft = if filled then none else some (set value)) :
    (if filled then refuseRepeated key text
      else (readAfterColon read text).map fun (value, rest) => (set value, rest)) =
        .ok (next, rest) ↔
      ∃ colon setting, Blanks text (':' :: colon) ∧
        ((read colon).map fun (value, rest) => (make value, rest)) = .ok (setting, rest) ∧
          setting.put draft = some next := by
  cases filled with
  | true =>
      refine iff_of_false (by simp [refuseRepeated, stopAt]) ?_
      rintro ⟨colon, setting, -, scanned, known⟩
      obtain ⟨value, -, rfl⟩ := map_pair_eq_ok_iff.mp scanned
      simp [put] at known
  | false =>
      rw [if_neg Bool.false_ne_true, map_pair_eq_ok_iff]
      constructor
      · rintro ⟨value, scanned, rfl⟩
        obtain ⟨colon, mark, scanned⟩ := bind_eq_ok_iff.mp scanned
        exact ⟨colon, make value, readColon_eq_ok_iff.mp mark,
          map_pair_eq_ok_iff.mpr ⟨value, scanned, rfl⟩, by simp [put]⟩
      · rintro ⟨colon, setting, mark, scanned, known⟩
        obtain ⟨value, found, rfl⟩ := map_pair_eq_ok_iff.mp scanned
        obtain rfl : set value = next := by simpa [put] using known
        exact ⟨value, bind_eq_ok_iff.mpr ⟨colon, readColon_eq_ok_iff.mpr mark, found⟩, rfl⟩

/-- A member is read exactly when its setting can be put into the draft. -/
theorem readMember_eq_ok_iff {draft next : Draft} {key : String} {text rest : List Char} :
    readMember draft key text = .ok (next, rest) ↔
      ∃ colon setting, Blanks text (':' :: colon) ∧ Setting.read key colon = .ok (setting, rest) ∧
        setting.put draft = some next := by
  unfold readMember Setting.read
  by_cases sentinel : key = "sentinel"
  · simp only [sentinel, if_true]
    exact readSlot_iff Setting.sentinel (fun value => { draft with sentinel := some value })
      fun _ => rfl
  by_cases memory : key = "memory_limit"
  · simp only [memory, if_true, String.reduceEq, if_false]
    exact readSlot_iff Setting.memoryLimit (fun value => { draft with memoryLimit := some value })
      fun _ => rfl
  by_cases stack : key = "max_stack_size"
  · simp only [stack, if_true, String.reduceEq, if_false]
    exact readSlot_iff Setting.maxStackSize (fun value => { draft with maxStackSize := some value })
      fun _ => rfl
  by_cases scripts : key = "log_scripts"
  · simp only [scripts, if_true, String.reduceEq, if_false]
    exact readSlot_iff Setting.logScripts (fun value => { draft with logScripts := some value })
      fun _ => rfl
  simp only [sentinel, memory, stack, scripts, if_false, map_const_eq_ok_iff]
  constructor
  · rintro ⟨scanned, rfl⟩
    obtain ⟨colon, mark, skipped⟩ := bind_eq_ok_iff.mp scanned
    exact ⟨colon, .ignored, readColon_eq_ok_iff.mp mark, ⟨skipped, rfl⟩, rfl⟩
  · rintro ⟨colon, setting, mark, ⟨skipped, rfl⟩, known⟩
    obtain rfl : draft = next := Option.some.inj known
    exact ⟨bind_eq_ok_iff.mpr ⟨colon, readColon_eq_ok_iff.mpr mark, skipped⟩, rfl⟩

end Configuration

/-- The name that a key spells. -/
def Json.Field.Named (field : Json.Field) (name : String) : Prop :=
  scanString (field.key ++ ['"']) = .ok (name, [])

/-- What a member says in a configuration. -/
def Json.Field.Says (field : Json.Field) (setting : Setting) : Prop :=
  ∃ name, field.Named name ∧ Setting.read name field.value = .ok (setting, [])

/-- The members say, one after another, what is put in a draft. -/
inductive Fills : Configuration.Draft → List Json.Field → Configuration.Draft → Prop where
  | nil {draft : Configuration.Draft} : Fills draft [] draft
  | cons {draft between next : Configuration.Draft} {field : Json.Field} {fields : List Json.Field}
      {setting : Setting} : field.Says setting → setting.put draft = some between →
      Fills between fields next → Fills draft (field :: fields) next

section Members

open HostBridge.Configuration

@[simp] theorem fills_nil_iff {draft next : Draft} : Fills draft [] next ↔ draft = next := by
  constructor
  · rintro ⟨⟩
    rfl
  · rintro rfl
    exact .nil

/-- Fields fill a draft one after the other. -/
theorem fills_cons_iff {draft next : Draft} {field : Json.Field} {fields : List Json.Field} :
    Fills draft (field :: fields) next ↔ ∃ setting between, field.Says setting ∧
      setting.put draft = some between ∧ Fills between fields next := by
  constructor
  · rintro (_ | ⟨said, known, filled⟩)
    exact ⟨_, _, said, known, filled⟩
  · rintro ⟨setting, between, said, known, filled⟩
    exact .cons said known filled

/-- A field has one name. -/
theorem Json.Field.Named.unique {field : Json.Field} {name other : String}
    (named : field.Named name) (again : field.Named other) : name = other := by
  rw [Named, named] at again
  exact (Prod.mk.inj (Except.ok.inj again)).1

/-- A field has one setting. -/
theorem Json.Field.Says.unique {field : Json.Field} {setting other : Setting}
    (said : field.Says setting) (again : field.Says other) : setting = other := by
  obtain ⟨name, named, read⟩ := said
  obtain ⟨_, same, known⟩ := again
  obtain rfl := named.unique same
  rw [read] at known
  exact (Prod.mk.inj (Except.ok.inj known)).1

/-- A key is read alike in front of any text. -/
theorem scanString_key {field : Json.Field} {behind rest : List Char} {name : String}
    (key : Characters Dialect.all.code (field.key ++ '"' :: behind) behind) :
    scanString (field.key ++ '"' :: behind) = .ok (name, rest) ↔
      rest = behind ∧ field.Named name := by
  have split (behind : List Char) : field.key ++ '"' :: behind = (field.key ++ ['"']) ++ behind := by
    simp
  constructor
  · intro scanned
    obtain rfl := (characters_of_scanString scanned).unique key
    rw [split] at scanned
    have alone := (frames_scanString name).exchange scanned []
    rw [List.append_nil] at alone
    exact ⟨rfl, alone⟩
  · rintro ⟨rfl, named⟩
    rw [Field.Named, ← List.append_nil (field.key ++ ['"'])] at named
    rw [split]
    exact (frames_scanString name).exchange named rest

theorem Json.Field.Stands.begin {depth : Nat} {field : Json.Field} {text rest : List Char}
    (stands : field.Stands depth text rest) : ∃ start, text = '"' :: start := by
  obtain ⟨_, _, same, -⟩ := stands
  exact ⟨_, same⟩

/-- The text behind the opening quote of a member. -/
def readField (draft : Draft) (text : List Char) : Except Stop (Draft × List Char) :=
  (scanString text).bind fun (key, rest) => readMember draft key rest

/-- A field that stands in a text is read exactly when its setting can be put. -/
theorem readField_iff {depth : Nat} {field : Json.Field} {text start rest : List Char}
    (stands : field.Stands depth text rest) (detached : Detached rest) (begins : text = '"' :: start)
    (draft next : Draft) (behind : List Char) :
    readField draft start = .ok (next, behind) ↔
      behind = rest ∧ ∃ setting, field.Says setting ∧ setting.put draft = some next := by
  obtain ⟨left, colon, same, key, mark, blanks, value⟩ := stands
  obtain rfl := (List.cons.inj (begins.symm.trans same)).2
  constructor
  · intro read
    obtain ⟨⟨name, beyond⟩, scanned, member⟩ := bind_eq_ok_iff.mp read
    obtain ⟨rfl, named⟩ := (scanString_key key).mp scanned
    obtain ⟨place, setting, point, said, known⟩ := readMember_eq_ok_iff.mp member
    obtain ⟨-, rfl⟩ := point.unique mark rfl rfl
    obtain ⟨rfl, said⟩ := (Setting.read_place blanks value detached).mp said
    exact ⟨rfl, setting, ⟨name, named, said⟩, known⟩
  · rintro ⟨rfl, setting, ⟨name, named, said⟩, known⟩
    refine bind_eq_ok_iff.mpr ⟨_, (scanString_key key).mpr ⟨rfl, named⟩, ?_⟩
    exact readMember_eq_ok_iff.mpr
      ⟨colon, setting, mark, (Setting.read_place blanks value detached).mpr ⟨rfl, said⟩, known⟩

/-- A closing bracket ends the draft. -/
theorem readDraft_closed (bound : Nat) (first : Bool) (draft : Draft) {text rest : List Char}
    (blanks : Blanks text ('\x7d' :: rest)) :
    readDraft (bound + 1) first draft text = .ok (draft, rest) := by
  have skipped := blanks.skipped (skipBlanks_cons rfl rest)
  simp [readDraft, skipped]

theorem readDraft_first (bound : Nat) (draft : Draft) {text start : List Char}
    (blanks : Blanks text ('"' :: start)) :
    readDraft (bound + 1) true draft text =
      (readField draft start).bind fun (draft, rest) => readDraft bound false draft rest := by
  have skipped := blanks.skipped (skipBlanks_cons rfl start)
  cases scanned : scanString start <;>
    simp [readDraft, readField, skipped, scanned, bind, Except.bind]

theorem readDraft_later (bound : Nat) (draft : Draft) {text others start : List Char}
    (comma : Blanks text (',' :: others)) (blanks : Blanks others ('"' :: start)) :
    readDraft (bound + 1) false draft text =
      (readField draft start).bind fun (draft, rest) => readDraft bound false draft rest := by
  have skipped := comma.skipped (skipBlanks_cons rfl others)
  have next := blanks.skipped (skipBlanks_cons rfl start)
  cases scanned : scanString start <;>
    simp [readDraft, readField, skipped, next, scanned, bind, Except.bind]

/-- The members are read one after another, which the length of their text bounds. -/
theorem readFields_iff {depth : Nat} {fields : List Json.Field} {text rest : List Char}
    (listed : Listed (Field.Stands depth) '\x7d' fields text rest) :
    ∃ start, Blanks text ('"' :: start) ∧
      ∀ (bound : Nat) (draft next : Draft) (behind : List Char), text.length ≤ bound →
        (((readField draft start).bind fun (draft, rest) => readDraft bound false draft rest) =
          .ok (next, behind) ↔ behind = rest ∧ Fills draft fields next) := by
  induction listed with
  | @last field text place after rest blanks stands closed =>
      obtain ⟨start, begins⟩ := stands.begin
      have detached := closed.detached (detached_cons (by decide) rest)
      refine ⟨start, begins ▸ blanks, fun bound draft next behind enough => ?_⟩
      have field := readField_iff stands detached begins draft
      have sizes := blanks.length_le
      rw [begins, List.length_cons] at sizes
      obtain ⟨bound, rfl⟩ := Nat.exists_eq_succ_of_ne_zero (n := bound) (by omega)
      rw [bind_eq_ok_iff]
      constructor
      · rintro ⟨⟨between, beyond⟩, read, ended⟩
        obtain ⟨rfl, setting, said, known⟩ := (field _ _).mp read
        obtain ⟨rfl, rfl⟩ :=
          Prod.mk.inj (Except.ok.inj ((readDraft_closed bound false between closed).symm.trans ended))
        exact ⟨rfl, .cons said known .nil⟩
      · rintro ⟨rfl, filled⟩
        obtain ⟨setting, between, said, known, filled⟩ := fills_cons_iff.mp filled
        obtain rfl := fills_nil_iff.mp filled
        exact ⟨_, (field _ _).mpr ⟨rfl, setting, said, known⟩,
          readDraft_closed bound false between closed⟩
  | @more field fields text place after others rest blanks stands comma _ ih =>
      obtain ⟨start, begins⟩ := stands.begin
      obtain ⟨second, quote, later⟩ := ih
      have detached := comma.detached (detached_cons (by decide) others)
      refine ⟨start, begins ▸ blanks, fun bound draft next behind enough => ?_⟩
      have field := readField_iff stands detached begins draft
      have sizes := blanks.length_le
      -- A member takes some text, so that the bound still lasts for those behind it.
      have shorter := (framed_value depth).member.length_lt stands.member
      have left := comma.length_le
      rw [List.length_cons] at left
      obtain ⟨bound, rfl⟩ := Nat.exists_eq_succ_of_ne_zero (n := bound) (by omega)
      have enough : others.length ≤ bound := by omega
      rw [bind_eq_ok_iff]
      constructor
      · rintro ⟨⟨between, beyond⟩, read, more⟩
        obtain ⟨rfl, setting, said, known⟩ := (field _ _).mp read
        obtain ⟨rfl, filled⟩ := (later bound between next behind enough).mp
          ((readDraft_later bound between comma quote).symm.trans more)
        exact ⟨rfl, .cons said known filled⟩
      · rintro ⟨rfl, filled⟩
        obtain ⟨setting, between, said, known, filled⟩ := fills_cons_iff.mp filled
        exact ⟨_, (field _ _).mpr ⟨rfl, setting, said, known⟩,
          (readDraft_later bound between comma quote).trans
            ((later bound between next _ enough).mpr ⟨rfl, filled⟩)⟩

end Members

section Order

open HostBridge.Configuration

variable {draft next : Draft} {fields others : List Json.Field}

/-- The order of the members does not matter, also when one is repeated and none can be put. -/
theorem Fills.perm (filled : Fills draft fields next) (perm : fields.Perm others) :
    Fills draft others next := by
  induction perm generalizing draft with
  | nil => exact filled
  | cons field _ ih =>
      obtain ⟨setting, between, said, known, filled⟩ := fills_cons_iff.mp filled
      exact .cons said known (ih filled)
  | swap first second fields =>
      obtain ⟨setting, between, said, known, filled⟩ := fills_cons_iff.mp filled
      obtain ⟨other, later, again, more, filled⟩ := fills_cons_iff.mp filled
      obtain ⟨place, before, after⟩ := Setting.put_comm known more
      exact .cons again before (.cons said after filled)
  | trans _ _ one two => exact two (one filled)

/-- Fields fill a draft in any order. -/
theorem fills_perm_iff (perm : fields.Perm others) :
    Fills draft fields next ↔ Fills draft others next :=
  ⟨fun filled => filled.perm perm, fun filled => filled.perm perm.symm⟩

/-- Fields fill a draft in two parts. -/
theorem fills_append_iff :
    Fills draft (fields ++ others) next ↔
      ∃ between, Fills draft fields between ∧ Fills between others next := by
  induction fields generalizing draft with
  | nil => simp
  | cons field fields ih =>
      simp only [List.cons_append, fills_cons_iff, ih]
      constructor
      · rintro ⟨setting, first, said, known, between, filled, more⟩
        exact ⟨between, ⟨setting, first, said, known, filled⟩, more⟩
      · rintro ⟨between, ⟨setting, first, said, known, filled⟩, more⟩
        exact ⟨setting, first, said, known, between, filled, more⟩

/-- Members that say nothing may be left out. -/
theorem fills_silent_iff (silent : ∀ field ∈ fields, field.Says .ignored) :
    Fills draft fields next ↔ draft = next := by
  induction fields with
  | nil => exact fills_nil_iff
  | cons field fields ih =>
      obtain ⟨said, silent⟩ := List.forall_mem_cons.mp silent
      rw [fills_cons_iff, ← ih silent]
      constructor
      · rintro ⟨setting, between, again, known, filled⟩
        obtain rfl := said.unique again
        obtain rfl : draft = between := Option.some.inj known
        exact filled
      · exact fun filled => ⟨.ignored, draft, said, rfl, filled⟩

/-- A place that no member is for stays free. -/
theorem Fills.free {setting : Setting} (filled : Fills draft fields next)
    (missing : ∀ field ∈ fields, ∀ other, field.Says other → other.key ≠ setting.key)
    (free : (setting.put draft).isSome = true) : (setting.put next).isSome = true := by
  induction filled with
  | nil => exact free
  | cons said known _ ih =>
      obtain ⟨different, missing⟩ := List.forall_mem_cons.mp missing
      exact ih missing (Setting.free_put (different _ said) known free)

end Order

/-- What a member would say stands in the configuration. -/
def Configuration.Holds (configuration : Configuration) : Setting → Prop
  | .sentinel mode => configuration.sentinel = mode
  | .memoryLimit limit => configuration.memoryLimit = limit
  | .maxStackSize limit => configuration.maxStackSize = limit
  | .logScripts enabled => configuration.logScripts = enabled
  | .ignored => True

/-- A setting that is read has the name of its member, or the member is ignored. -/
theorem Setting.key_of_read {name : String} {text rest : List Char} {setting : Setting}
    (read : Setting.read name text = .ok (setting, rest)) :
    setting = .ignored ∨ setting.key = name := by
  unfold Setting.read at read
  split_ifs at read with sentinel memory stack scripts
  · obtain ⟨_, -, rfl⟩ := map_pair_eq_ok_iff.mp read
    exact .inr sentinel.symm
  · obtain ⟨_, -, rfl⟩ := map_pair_eq_ok_iff.mp read
    exact .inr memory.symm
  · obtain ⟨_, -, rfl⟩ := map_pair_eq_ok_iff.mp read
    exact .inr stack.symm
  · obtain ⟨_, -, rfl⟩ := map_pair_eq_ok_iff.mp read
    exact .inr scripts.symm
  · obtain ⟨-, rfl⟩ := map_const_eq_ok_iff.mp read
    exact .inl rfl

section Missing

open HostBridge.Configuration

variable {fields : List Json.Field} {setting : Setting} (known : setting ∈ Setting.defaults)
  (missing : ∀ member ∈ fields, ¬ member.Named setting.key)

include known missing

/-- What no member says is not said under another key either. -/
theorem Setting.key_ne_of_missing :
    ∀ member ∈ fields, ∀ other, member.Says other → other.key ≠ setting.key := by
  rintro member inside other ⟨name, named, read⟩ same
  rcases Setting.key_of_read read with rfl | rfl
  · rcases Setting.mem_defaults_iff.mp known with rfl | rfl | rfl | rfl <;>
      exact absurd same (by decide)
  · exact missing member inside (same ▸ named)

/-- A setting that no field has can still be put. -/
theorem Setting.free_of_missing {draft : Draft} (filled : Fills Draft.empty fields draft) :
    (setting.put draft).isSome = true := by
  refine filled.free (Setting.key_ne_of_missing known missing) ?_
  rcases Setting.mem_defaults_iff.mp known with rfl | rfl | rfl | rfl <;> rfl

/-- A member that says what is taken to be said without it does not matter. -/
theorem fills_default_iff {field : Json.Field} (said : field.Says setting)
    {configuration : Configuration} :
    (∃ draft, Fills Draft.empty (field :: fields) draft ∧ draft.finish = configuration) ↔
      ∃ draft, Fills Draft.empty fields draft ∧ draft.finish = configuration := by
  -- The order does not matter, so the member may come last, where its place is known to be free.
  have last (draft : Draft) : Fills Draft.empty (field :: fields) draft ↔
      ∃ between, Fills Draft.empty fields between ∧ setting.put between = some draft := by
    rw [fills_perm_iff (List.perm_append_singleton field fields).symm, fills_append_iff]
    simp only [fills_cons_iff, fills_nil_iff]
    constructor
    · rintro ⟨between, filled, other, next, again, put, rfl⟩
      exact ⟨between, filled, said.unique again ▸ put⟩
    · rintro ⟨between, filled, put⟩
      exact ⟨between, filled, setting, draft, said, put, rfl⟩
  constructor
  · rintro ⟨draft, filled, rfl⟩
    obtain ⟨between, filled, put⟩ := (last draft).mp filled
    exact ⟨between, filled, (Setting.finish_put known put).symm⟩
  · rintro ⟨between, filled, rfl⟩
    obtain ⟨draft, put⟩ := Option.isSome_iff_exists.mp (Setting.free_of_missing known missing filled)
    exact ⟨draft, (last draft).mpr ⟨between, filled, put⟩, Setting.finish_put known put⟩

/-- Without a member its default stands in the configuration. -/
theorem holds_of_missing {draft : Draft} (filled : Fills Draft.empty fields draft) :
    draft.finish.Holds setting := by
  have free := Setting.free_of_missing known missing filled
  rcases Setting.mem_defaults_iff.mp known with rfl | rfl | rfl | rfl <;>
    simp_all [Setting.put, Draft.finish, Holds]

end Missing

end HostBridge
