import Automation.Logging.Setup
import Automation.Proofs.Fallible
import Automation.Proofs.Json.Ascii
import Automation.Proofs.Settings.Reader

/-!
What becomes of log records.

However often logging is configured, the engine has at most one handler, and it writes to the last
stream that was opened for it; handlers of others are never touched. So a record reaches no other
stream. What reaches this one is a whole line, and a JSON line holds no other line end and is read
back as an object.
-/

namespace Automation

theorem Json.checkWritableFields_append (first second : Fields) :
    checkWritableFields (first ++ second) =
      checkWritableFields first >>= fun _ => checkWritableFields second := by
  induction first with
  | nil => rfl
  | cons field rest inductionHypothesis =>
      rw [List.cons_append, checkWritableFields, inductionHypothesis, checkWritableFields]
      cases checkWritable field.2 <;> rfl

namespace Logging

theorem Level.ofName?_name (level : Level) : Level.ofName? level.name = some level := by
  cases level <;> rfl

/-- Fields pass if none of them has a reserved name. -/
theorem checkExtra_eq_ok_iff {extra : Fields} :
    checkExtra extra = .ok () ↔ ∀ field ∈ extra, field.1 ∉ reservedNames := by
  unfold checkExtra
  split
  · next name value found =>
      constructor
      · nofun
      · intro free
        have reserved := List.find?_some found
        exact absurd (List.contains_iff_mem.mp reserved) (free _ (List.mem_of_find?_eq_some found))
  · next none =>
      constructor
      · intro _ field member reserved
        have free := List.find?_eq_none.mp none field member
        exact free (List.contains_iff_mem.mpr reserved)
      · exact fun _ => rfl

namespace Record

/-- The fields of a run are those of the record that name a run or tell how it went. -/
theorem mem_runFields_iff {record : Record} {name : String} {value : Value} :
    (name, value) ∈ record.runFields ↔
      name ∈ runFieldNames ∧ Entries.get? name record.extra = some value := by
  simp only [runFields, List.mem_filterMap, Option.map_eq_some_iff, Prod.mk.injEq]
  constructor
  · rintro ⟨_, member, _, found, rfl, rfl⟩
    exact ⟨member, found⟩
  · rintro ⟨member, found⟩
    exact ⟨name, member, value, found, rfl, rfl⟩

/-- They stand in their fixed order, whatever order the record has them in. -/
theorem map_fst_runFields_sublist (record : Record) :
    (record.runFields.map Prod.fst).Sublist runFieldNames := by
  unfold runFields
  induction runFieldNames with
  | nil => exact .slnil
  | cons name rest inductionHypothesis =>
      cases found : Entries.get? name record.extra with
      | none =>
          rw [List.filterMap_cons_none (by rw [found]; rfl)]
          exact inductionHypothesis.cons name
      | some value =>
          rw [List.filterMap_cons_some (by rw [found]; rfl), List.map_cons]
          exact inductionHypothesis.cons_cons name

end Record

namespace Format

variable {time message line : List Char} {record : Record}

/-- A record has a JSON line exactly if the fields of its run are written. -/
theorem exists_jsonLine_iff : (∃ line, jsonLine time message record = .ok line) ↔
    Json.checkWritableFields record.runFields = .ok () := by
  have written : Json.checkWritableFields (lineFields time message record) =
      Json.checkWritableFields record.runFields := by
    rw [lineFields, Json.checkWritableFields_append, Json.checkWritableFields_append]
    cases Json.checkWritableFields record.runFields with
    | error failure => rfl
    | ok => cases record.fault <;> rfl
  simp only [jsonLine, bind_eq_ok_iff, written]
  constructor
  · rintro ⟨line, ⟨⟩, checked, -⟩
    exact checked
  · intro checked
    exact ⟨_, (), checked, rfl⟩

/-- A JSON line is one line, and it is read back as an object. -/
theorem jsonLine_is_read (made : jsonLine time message record = .ok line) :
    '\n' ∉ line ∧ ∃ fields, Json.read? line = some (.object fields) := by
  obtain ⟨_, checked, same⟩ := bind_eq_ok_iff.mp made
  cases same
  exact ⟨Json.lineEnd_not_mem_write _, Json.exists_read?_write_object checked⟩

end Format

namespace Setup

variable {setup : Setup} {time : List Char} {record : Record} {handler : Handler}

/-- What becomes of a record is written whole: a line and its end. The line of a JSON handler holds
no other line end. -/
theorem lineOf_is_line {text : List Char} (written : lineOf time handler record = .ok (some text)) :
    ∃ line, text = line ++ ['\n'] ∧ (handler.format = .json →
      '\n' ∉ line ∧ ∃ fields, Json.read? line = some (.object fields)) := by
  unfold lineOf at written
  split at written
  · cases written
  · obtain ⟨shown, -, formatted⟩ := bind_eq_ok_iff.mp written
    rw [Except.ok.injEq, Option.map_eq_some_iff] at formatted
    obtain ⟨line, isLine, rfl⟩ := formatted
    refine ⟨line, rfl, fun isJson => ?_⟩
    rw [toOption_eq_some_iff, isJson] at isLine
    obtain ⟨message, -, made⟩ := bind_eq_ok_iff.mp isLine
    exact Format.jsonLine_is_read made

theorem lineOf_of_below (below : record.level.severity < handler.level.severity) :
    lineOf time handler record = .ok none := if_pos below

/-- A handler writes to the last stream that was opened, from the level of all loggers on. -/
structure IsSound (setup : Setup) : Prop where
  stream : ∀ handler, setup.handler = some handler → handler.stream + 1 = setup.streams
  level : ∀ handler, setup.handler = some handler → handler.level = setup.level

theorem isSound_initial : initial.IsSound := ⟨nofun, nofun⟩

/-- What changes a setup. -/
inductive Change where
  | configure (level format : Value) (sanitizes : Bool)
  | addOther

/-- A logging setup after a change to it. -/
def change (setup : Setup) : Change → Setup
  | .configure level format sanitizes => (setup.configure level format sanitizes).2
  | .addOther => setup.addOther

theorem IsSound.change (sound : setup.IsSound) (change : Change) :
    (setup.change change).IsSound := by
  cases change with
  | addOther => exact ⟨sound.stream, sound.level⟩
  | configure level format sanitizes =>
      rw [Setup.change, configure]
      split
      · exact sound
      · exact ⟨nofun, nofun⟩
      · constructor
        · rintro handler ⟨⟩
          rfl
        · rintro handler ⟨⟩
          rfl

/-- Handlers of others are added and never removed. -/
theorem others_change (change : Change) : (setup.change change).others =
    setup.others + match change with
      | .configure _ _ _ => 0
      | .addOther => 1 := by
  cases change with
  | addOther => rfl
  | configure level format sanitizes =>
      rw [Setup.change, configure]
      split <;> rfl

theorem handlerCount_of_configured {level format : Value} {sanitizes : Bool}
    (configured : (setup.configure level format sanitizes).1 = .ok ()) :
    (setup.configure level format sanitizes).2.handlerCount = setup.others + 1 := by
  unfold configure at configured ⊢
  split
  · next failed =>
      rw [failed] at configured
      cases configured
  · next isLevel failed =>
      rw [isLevel, failed] at configured
      cases configured
  · rfl

/-- A setup after some changes. -/
def changeAll (changes : List Change) : Setup := changes.foldl change initial

theorem isSound_foldl (sound : setup.IsSound) (changes : List Change) :
    (changes.foldl change setup).IsSound := by
  induction changes generalizing setup with
  | nil => exact sound
  | cons first rest inductionHypothesis => exact inductionHypothesis (sound.change first)

theorem isSound_changeAll (changes : List Change) : (changeAll changes).IsSound :=
  isSound_foldl isSound_initial changes

/-- However often it is configured, the engine has at most one handler. -/
theorem handlerCount_le (setup : Setup) : setup.handlerCount ≤ setup.others + 1 := by
  unfold handlerCount
  split <;> omega

/-- A record of a level that its logger does not pass on reaches no stream, whatever its fields. -/
theorem log_of_disabled (disabled : setup.isEnabled record.logger record.level = false) :
    setup.log time record = .ok (List.replicate setup.streams []) := by
  rw [log, disabled, if_neg Bool.false_ne_true]

/-- A logger that passes records of a level on passes on all that are as serious. -/
theorem isEnabled_of_le {logger : String} {level other : Level}
    (enabled : setup.isEnabled logger level = true) (le : level.severity ≤ other.severity) :
    setup.isEnabled logger other = true := by
  simp only [isEnabled, Bool.and_eq_true, decide_eq_true_eq] at enabled ⊢
  obtain ⟨isSet, passes⟩ := enabled
  refine ⟨?_, Nat.le_trans passes le⟩
  rintro rfl
  cases level <;> simp_all [Level.severity]

/-- A record reaches no stream but the last one. -/
theorem log_reaches_last (sound : setup.IsSound) {received : List (List Char)}
    (logged : setup.log time record = .ok received) :
    received.length = setup.streams ∧ ∀ k, k + 1 < setup.streams → received[k]? = some [] := by
  have silent : (List.replicate setup.streams ([] : List Char)).length = setup.streams ∧
      ∀ k, k + 1 < setup.streams → (List.replicate setup.streams [])[k]? = some ([] : List Char) :=
    ⟨List.length_replicate, fun k before => List.getElem?_replicate_of_lt (by omega)⟩
  unfold log at logged
  dsimp only at logged
  split at logged
  · obtain ⟨_, -, further⟩ := bind_eq_ok_iff.mp logged
    split at further
    · next handler handled =>
        obtain ⟨text, -, same⟩ := bind_eq_ok_iff.mp further
        cases same
        refine ⟨by rw [List.length_set, silent.1], fun k before => ?_⟩
        have isLast := sound.stream handler handled
        rw [List.getElem?_set_ne (by omega)]
        exact silent.2 k before
    · cases further
      exact silent
  · cases logged
    exact silent

/-- Settings that were read configure logging without a failure. -/
theorem configureFrom_of_isNormal {settings : Settings} (normal : settings.IsNormal) :
    (setup.configureFrom settings).1 = .ok () := by
  have known : ∃ level, levelOrUsual settings.logLevel = .ok level := by
    have level := normal.level
    simp only [Settings.levelNames, List.mem_cons, List.not_mem_nil, or_false] at level
    rcases level with same | same | same | same | same <;> rw [same] <;> exact ⟨_, rfl⟩
  obtain ⟨level, isLevel⟩ := known
  rw [configureFrom, configure]
  simp only [nameOf, ok_bind, isLevel]

end Setup

end Logging
end Automation
