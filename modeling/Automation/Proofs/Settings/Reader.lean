import Automation.Proofs.Schema.Field
import Automation.Proofs.Text.Runs
import Automation.Settings.Reader

/-!
What settings are read.

Settings that are read are in their normal form: the level and the format of the log are names that
are known, and the path is plain. Normal settings that are written as fields are read back as they
were, whatever stands in the environment, so reading a second time changes nothing. Where settings
are refused, the report names each setting at most once, in their order.
-/

namespace Automation

namespace Settings

section

/-- Parts that a plain path may have. -/
def ArePlainParts (parts : List (List Char)) : Prop :=
  ∀ part ∈ parts, part ≠ [] ∧ part ≠ ['.'] ∧ '/' ∉ part

variable {text : List Char} {parts : List (List Char)}

theorem arePlainParts_pathParts (text : List Char) : ArePlainParts (pathParts text) := by
  intro part member
  obtain ⟨isPart, matters⟩ := List.mem_filter.mp member
  obtain ⟨nonempty, noPoint⟩ := of_decide_eq_true matters
  exact ⟨nonempty, noPoint, Text.not_mem_of_mem_splitAt isPart⟩

theorem pathParts_slash (text : List Char) : pathParts ('/' :: text) = pathParts text := by
  rw [pathParts, Text.splitAt, if_pos rfl, List.filter_cons_of_neg (by simp), pathParts]

theorem pathParts_intercalate (plain : ArePlainParts parts) :
    pathParts (['/'].intercalate parts) = parts := by
  induction parts with
  | nil => rfl
  | cons part rest inductionHypothesis =>
      obtain ⟨nonempty, noPoint, noSlash⟩ := plain part List.mem_cons_self
      have keeps (others : List (List Char)) :
          (part :: others).filter (fun part => part ≠ [] ∧ part ≠ ['.']) =
            part :: others.filter fun part => part ≠ [] ∧ part ≠ ['.'] :=
        List.filter_cons_of_pos (decide_eq_true ⟨nonempty, noPoint⟩)
      cases rest with
      | nil => rw [List.intercalate_singleton, pathParts, Text.splitAt_of_not_mem noSlash, keeps,
          List.filter_nil]
      | cons next others =>
          have further := inductionHypothesis fun other member =>
            plain other (List.mem_cons_of_mem part member)
          rw [List.intercalate_cons_cons, List.append_assoc, List.singleton_append, pathParts,
            Text.splitAt_append noSlash, keeps, ← pathParts, further]

/-- A plain path without its root does not start with a slash. -/
theorem head_intercalate_ne (plain : ArePlainParts parts) {c : Char}
    (first : (['/'].intercalate parts).head? = some c) : c ≠ '/' := by
  rintro rfl
  cases parts with
  | nil => cases first
  | cons part rest =>
      obtain ⟨nonempty, -, noSlash⟩ := plain part List.mem_cons_self
      obtain ⟨d, others, rfl⟩ := List.exists_cons_of_ne_nil nonempty
      have same : d = '/' := by
        cases rest <;> simpa [List.intercalate] using first
      exact noSlash (same ▸ List.mem_cons_self)

theorem pathRoot_cases (text : List Char) :
    pathRoot text = [] ∨ pathRoot text = ['/'] ∨ pathRoot text = ['/', '/'] := by
  unfold pathRoot
  split <;> simp

theorem pathRoot_append (other : ∀ c, text.head? = some c → c ≠ '/') (before : List Char) :
    pathRoot (pathRoot before ++ text) = pathRoot before := by
  have noSlash : ∀ rest, text ≠ '/' :: rest := by
    rintro rest rfl
    exact other '/' rfl rfl
  rcases pathRoot_cases before with root | root | root
  all_goals
    rw [root]
    cases text with
    | nil => rfl
    | cons c rest =>
        have different : c ≠ '/' := other c rfl
        simp [pathRoot, different]

theorem pathParts_append (before : List Char) :
    pathParts (pathRoot before ++ text) = pathParts text := by
  rcases pathRoot_cases before with root | root | root
  all_goals
    rw [root]
    simp only [List.nil_append, List.cons_append, pathParts_slash]

/-- The plain form of a path is plain. -/
theorem plainPath_plainPath (text : List Char) : plainPath (plainPath text) = plainPath text := by
  have plain := arePlainParts_pathParts text
  have parts :
      pathParts (pathRoot text ++ ['/'].intercalate (pathParts text)) = pathParts text := by
    rw [pathParts_append, pathParts_intercalate plain]
  have root : pathRoot (pathRoot text ++ ['/'].intercalate (pathParts text)) = pathRoot text :=
    pathRoot_append (fun c => head_intercalate_ne plain) text
  by_cases empty : pathRoot text ++ ['/'].intercalate (pathParts text) = []
  · have point : plainPath text = ['.'] := if_pos empty
    rw [point]
    rfl
  · have same : plainPath text = pathRoot text ++ ['/'].intercalate (pathParts text) := if_neg empty
    rw [same, plainPath, root, parts]
    exact if_neg empty

end

/-- The names of settings, in the order in which they are reported. -/
def names : List String :=
  ["log_level", "log_format", "sanitize_logs", "http_timeout_seconds",
    "http_connect_timeout_seconds", "http_max_connections", "http_max_keepalive",
    "default_delay_ms", "default_retry_attempts", "agent_endpoint_url", "agent_api_key",
    "openai_api_key", "openai_model", "database_path"]

/-- Settings in the form in which they are kept. -/
structure IsNormal (settings : Settings) : Prop where
  level : settings.logLevel ∈ levelNames
  format : settings.logFormat ∈ formatNames
  path : plainPath settings.databasePath.toList = settings.databasePath.toList

theorem isNormal_default : IsNormal default where
  level := by decide
  format := by decide
  path := by decide

variable {given environment : Fields} {settings : Settings} {faults : FieldFaults} {name : String}

theorem mem_of_readLevel {value : Value} {level : String} (success : readLevel value = .ok level) :
    level ∈ levelNames := by
  obtain ⟨text, -, chosen⟩ := bind_eq_ok_iff.mp success
  dsimp only at chosen
  split at chosen
  · next known =>
      cases chosen
      exact List.contains_iff_mem.mp known
  · cases chosen

theorem mem_of_readFormat {value : Value} {format : String}
    (success : readFormat value = .ok format) : format ∈ formatNames := by
  obtain ⟨text, -, chosen⟩ := bind_eq_ok_iff.mp success
  dsimp only at chosen
  split at chosen
  · next known =>
      cases chosen
      exact List.contains_iff_mem.mp known
  · cases chosen

theorem readLevel_of_mem {level : String} (known : level ∈ levelNames) :
    readLevel (.text level) = .ok level := by
  simp only [levelNames, List.mem_cons, List.not_mem_nil, or_false] at known
  rcases known with rfl | rfl | rfl | rfl | rfl <;> rfl

theorem readFormat_of_mem {format : String} (known : format ∈ formatNames) :
    readFormat (.text format) = .ok format := by
  simp only [formatNames, List.mem_cons, List.not_mem_nil, or_false] at known
  rcases known with rfl | rfl <;> rfl

theorem plain_of_readPath {value : Value} {path : String} (success : readPath value = .ok path) :
    plainPath path.toList = path.toList := by
  cases value with
  | text characters =>
      cases success
      rw [String.toList_ofList, plainPath_plainPath]
  | _ => cases success

/-- What is given directly stands over the environment. -/
theorem overlay_of_given {value : Value} (isGiven : Entries.get? name given = some value) :
    overlay given environment name = [(name, value)] := by
  rw [overlay, isGiven]
  rfl

theorem setting_of_given {α : Type} {value : Value} (isGiven : Entries.get? name given = some value)
    (reader : Value → FieldResult α) (default : α) :
    Field.optional reader name default (overlay given environment name) = reader value := by
  rw [overlay_of_given isGiven]
  apply Field.optional_of_given
  rw [Entries.get?, if_pos rfl]

/-- Normal settings are those that their fields describe. -/
theorem read_toFields (normal : settings.IsNormal) (environment : Fields) :
    read settings.toFields environment = .ok settings := by
  have found (name : String) {value : Value}
      (isGiven : Entries.get? name settings.toFields = some value) {α : Type}
      (reader : Value → FieldResult α) (default : α) :
      Field.optional reader name default (overlay settings.toFields environment name) =
        reader value := setting_of_given isGiven reader default
  have path : readPath (.text settings.databasePath) = .ok settings.databasePath := by
    rw [readPath, normal.path, String.ofList_toList]
  unfold read
  simp only [found "log_level" rfl, found "log_format" rfl, found "sanitize_logs" rfl,
    found "http_timeout_seconds" rfl, found "http_connect_timeout_seconds" rfl,
    found "http_max_connections" rfl, found "http_max_keepalive" rfl, found "default_delay_ms" rfl,
    found "default_retry_attempts" rfl, found "agent_endpoint_url" rfl, found "agent_api_key" rfl,
    found "openai_api_key" rfl, found "openai_model" rfl, found "database_path" rfl,
    readLevel_of_mem normal.level, readFormat_of_mem normal.format, path, Field.readBoolean,
    Field.readDouble, Field.readInteger, Field.readOptionalText_written, Field.readText]

theorem isNormal_of_read (success : read given environment = .ok settings) : settings.IsNormal := by
  unfold read at success
  dsimp only at success
  split at success
  · next level format _ _ _ _ _ _ _ _ _ _ _ path =>
      cases success
      exact
        { level := by
            rcases Field.eq_default_or_read level with isDefault | ⟨value, isRead⟩
            · rw [isDefault]
              exact isNormal_default.level
            · exact mem_of_readLevel isRead
          format := by
            rcases Field.eq_default_or_read format with isDefault | ⟨value, isRead⟩
            · rw [isDefault]
              exact isNormal_default.format
            · exact mem_of_readFormat isRead
          path := by
            rcases Field.eq_default_or_read path with isDefault | ⟨value, isRead⟩
            · rw [isDefault]
              exact isNormal_default.path
            · exact plain_of_readPath isRead }
  · cases success

/-- Settings that were read are read back from their fields in any environment. -/
theorem read_toFields_of_read (success : read given environment = .ok settings)
    (elsewhere : Fields) : read settings.toFields elsewhere = .ok settings :=
  read_toFields (isNormal_of_read success) elsewhere

/-- Settings depend only on what stands under their names. -/
theorem read_congr {other elsewhere : Fields}
    (same : ∀ name ∈ names, overlay given environment name = overlay other elsewhere name) :
    read given environment = read other elsewhere := by
  simp only [names, List.forall_mem_cons] at same
  obtain ⟨level, format, sanitize, timeout, connect, connections, keepalive, delay, attempts,
    endpoint, agentKey, chatKey, model, path, -⟩ := same
  unfold read
  simp only [level, format, sanitize, timeout, connect, connections, keepalive, delay, attempts,
    endpoint, agentKey, chatKey, model, path]

/-- A report says something, and it names no setting twice and none out of order. -/
theorem faults_of_read (failed : read given environment = .error faults) :
    faults ≠ [] ∧ (faults.map Prod.fst).Sublist names := by
  unfold read at failed
  dsimp only at failed
  split at failed
  · cases failed
  · next refused =>
      cases failed
      constructor
      · intro none
        simp only [List.append_eq_nil_iff, FieldResult.faults_eq_nil_iff] at none
        obtain ⟨⟨⟨⟨⟨⟨⟨⟨⟨⟨⟨⟨⟨⟨_, h1⟩, _, h2⟩, _, h3⟩, _, h4⟩, _, h5⟩, _, h6⟩, _, h7⟩, _, h8⟩,
          _, h9⟩, _, h10⟩, _, h11⟩, _, h12⟩, _, h13⟩, _, h14⟩ := none
        exact refused _ _ _ _ _ _ _ _ _ _ _ _ _ _ h1 h2 h3 h4 h5 h6 h7 h8 h9 h10 h11 h12 h13 h14
      · simp only [List.map_append, List.append_assoc]
        repeat apply FieldResult.append_sublist
        exact FieldResult.map_fst_faults_sublist

end Settings
end Automation
