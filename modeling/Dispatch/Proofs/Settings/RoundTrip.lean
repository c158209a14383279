import Dispatch.Proofs.Toml.Documents
import Dispatch.Settings.Data

set_option autoImplicit false

namespace Dispatch

open Settings

def fieldData (fields : List (String × Toml.Value)) : List (String × Tree) := fields.map fun a => (a.1, Toml.dataOf a.2)

def Storable : Toml.Value → Prop
  | .string _ | .boolean _ => True
  | .integer n => 0 ≤ n ∧ n.toNat < twoTo 64
  | _ => False

theorem twoTo_le {a b : Nat} (le : a ≤ b) : twoTo a ≤ twoTo b := Nat.pow_le_pow_right (by decide) le

theorem Storable.writable {v : Toml.Value} (storable : Storable v) : Toml.Writable v := by
  cases v with
  | string text => exact .string text
  | integer n =>
      obtain ⟨natural, small⟩ := storable
      rw [← Int.toNat_of_nonneg natural]
      exact .integer (Nat.lt_of_lt_of_le small (twoTo_le (by decide)))
  | boolean b => exact .boolean b
  | float | excessive | moment | array | table => exact storable.elim

theorem Storable.keepable {v : Toml.Value} (storable : Storable v) : (Toml.dataOf v).isKeepable = true := by
  cases v with
  | string | boolean => rfl
  | integer n =>
      obtain ⟨natural, small⟩ := storable
      have positive : -n ≤ (twoTo 63 : Int) := Int.le_trans (Int.neg_nonpos_of_nonneg natural) (Int.natCast_nonneg _)
      simp [Toml.dataOf, Tree.isKeepable, Tree.every, positive, small]
  | float | excessive | moment | array | table => exact storable.elim

theorem kept_fieldData {fields : List (String × Toml.Value)} (storable : ∀ a ∈ fields, Storable a.2)
    (own : List String) : section? own (.record (fieldData fields)) = some (fieldData fields) := by
  have kept : (fieldData fields).all (fun field => own.contains field.1 || field.2.isKeepable) = true := by
    simp only [fieldData, List.all_map, List.all_eq_true]
    intro a member
    simp [(storable a member).keepable]
  simp only [section?, kept, if_true]

/-! ## Single keys -/

namespace Settings

theorem natural?_fits {bits n : Nat} {data : Tree} (read : natural? bits data = some n) : n < twoTo bits := by
  unfold natural? at read
  split at read
  · split_ifs at read with fits
    obtain rfl := Option.some.inj read
    exact fits.2
  · cases read

theorem natural?_whole {bits n : Nat} (fits : n < twoTo bits) : natural? bits (.whole n) = some n := by
  simp [natural?, fits]

theorem setting_fits {fields : List (String × Tree)} {key : String} {fallback bits n : Nat}
    (read : setting fields key fallback (natural? bits) = some n) (small : fallback < twoTo bits) : n < twoTo bits := by
  unfold setting at read
  split at read
  · exact Option.some.inj read ▸ small
  · exact natural?_fits read

theorem level?_name (origin : Settings.Origin) (l : Level) : level? origin (.text l.name) = some l := by
  cases l <;> rfl

theorem sizePolicy?_name (origin : Settings.Origin) (p : SizePolicy) : sizePolicy? origin (.text p.name) = some p := by
  cases p <;> rfl

theorem headerPolicy?_name (origin : Settings.Origin) (p : HeaderPolicy) : headerPolicy? origin (.text p.name) = some p := by
  cases p <;> rfl

theorem lookup_fieldData (fields : List (String × Toml.Value)) (key : String) :
    (fieldData fields).lookup key = (fields.lookup key).map Toml.dataOf := by
  induction fields with
  | nil => rfl
  | cons field fields ih =>
      obtain ⟨other, v⟩ := field
      by_cases same : key = other
      · simp [fieldData, same]
      · have apart : (key == other) = false := by simpa using same
        simpa [fieldData, List.lookup_cons, apart] using ih

theorem setting_found {α : Type} (fields : List (String × Toml.Value)) (key : String) {v : Toml.Value} {fallback a : α}
    {read : Tree → Option α} (found : fields.lookup key = some v) (reads : read (Toml.dataOf v) = some a) :
    setting (fieldData fields) key fallback read = some a := by
  rw [setting, lookup_fieldData, found]
  exact reads

section Found

variable (fields : List (String × Toml.Value)) (key : String)

theorem text_found {fallback text : String} (found : fields.lookup key = some (.string text)) :
    setting (fieldData fields) key fallback text? = some text :=
  setting_found fields key found rfl

theorem natural_found {fallback bits n : Nat} (found : fields.lookup key = some (.integer n)) (fits : n < twoTo bits) :
    setting (fieldData fields) key fallback (natural? bits) = some n :=
  setting_found fields key found (natural?_whole fits)

theorem truth_found {fallback b : Bool} (found : fields.lookup key = some (.boolean b)) :
    setting (fieldData fields) key fallback truth? = some b :=
  setting_found fields key found rfl

end Found

end Settings

/-! ## The pool's keys -/

namespace PoolSettings

structure Fits (s : PoolSettings) : Prop where
  maxConnections : s.maxConnections < twoTo 64
  retryCount : s.retryCount < twoTo 32
  retryDelayMs : s.retryDelayMs < twoTo 64
  acquireTimeoutMs : s.acquireTimeoutMs < twoTo 64
  breakerThreshold : s.breakerThreshold < twoTo 32
  breakerCooldownMs : s.breakerCooldownMs < twoTo 64
  maxMessagesPerSecond : s.maxMessagesPerSecond < twoTo 32
  maxMessageSizeKb : s.maxMessageSizeKb < twoTo 64

theorem ofFields_fits {origin : Settings.Origin} {fields : List (String × Tree)} {s : PoolSettings}
    (read : ofFields origin fields = some s) : s.Fits := by
  simp only [ofFields, Option.bind_eq_bind, Option.bind_eq_some_iff, Option.pure_def, Option.some.injEq] at read
  obtain ⟨_, -, _, maxConnections, _, retryCount, _, retryDelayMs, _, acquireTimeoutMs, _, -, _, breakerThreshold, _,
    breakerCooldownMs, _, -, _, maxMessagesPerSecond, _, maxMessageSizeKb, rfl⟩ := read
  exact {
    maxConnections := setting_fits maxConnections (by decide)
    retryCount := setting_fits retryCount (by decide)
    retryDelayMs := setting_fits retryDelayMs (by decide)
    acquireTimeoutMs := setting_fits acquireTimeoutMs (by decide)
    breakerThreshold := setting_fits breakerThreshold (by decide)
    breakerCooldownMs := setting_fits breakerCooldownMs (by decide)
    maxMessagesPerSecond := setting_fits maxMessagesPerSecond (by decide)
    maxMessageSizeKb := setting_fits maxMessageSizeKb (by decide) }

theorem ofFields_fields (origin : Settings.Origin) {s : PoolSettings} (fits : s.Fits) {own : List (String × Toml.Value)}
    (apart : ∀ key ∈ standard.fields.map Prod.fst, key ∉ own.map Prod.fst) :
    ofFields origin (fieldData (own ++ s.fields)) = some s := by
  have held {v : Toml.Value} (key : String) (pool : key ∈ standard.fields.map Prod.fst)
      (given : s.fields.lookup key = some v) : (own ++ s.fields).lookup key = some v := by
    have absent : own.lookup key = none := List.lookup_eq_none_iff.2 fun a member => by
      simpa using fun same : key = a.1 => apart key pool (List.mem_map.2 ⟨a, member, same.symm⟩)
    rw [List.lookup_append, absent, given, Option.none_or]
  rw [ofFields,
    setting_found _ _ (held "log_level" (by decide) rfl) (level?_name origin s.logLevel),
    natural_found _ _ (held "max_connections" (by decide) rfl) fits.maxConnections,
    natural_found _ _ (held "retry_count" (by decide) rfl) fits.retryCount,
    natural_found _ _ (held "retry_delay_ms" (by decide) rfl) fits.retryDelayMs,
    natural_found _ _ (held "acquire_timeout_ms" (by decide) rfl) fits.acquireTimeoutMs,
    setting_found _ _ (held "size_policy" (by decide) rfl) (sizePolicy?_name origin s.sizePolicy),
    natural_found _ _ (held "breaker_failure_threshold" (by decide) rfl) fits.breakerThreshold,
    natural_found _ _ (held "breaker_cooldown_ms" (by decide) rfl) fits.breakerCooldownMs,
    setting_found _ _ (held "header_policy" (by decide) rfl) (headerPolicy?_name origin s.headerPolicy),
    natural_found _ _ (held "max_messages_per_second" (by decide) rfl) fits.maxMessagesPerSecond,
    natural_found _ _ (held "max_message_size_kb" (by decide) rfl) fits.maxMessageSizeKb]
  rfl

theorem fields_storable {s : PoolSettings} (fits : s.Fits) : ∀ a ∈ s.fields, Storable a.2 := by
  have retryCount := Nat.lt_of_lt_of_le fits.retryCount (twoTo_le (by decide : 32 ≤ 64))
  have breakerThreshold := Nat.lt_of_lt_of_le fits.breakerThreshold (twoTo_le (by decide : 32 ≤ 64))
  have maxMessagesPerSecond := Nat.lt_of_lt_of_le fits.maxMessagesPerSecond (twoTo_le (by decide : 32 ≤ 64))
  simp [fields, Storable, fits.maxConnections, retryCount, fits.retryDelayMs, fits.acquireTimeoutMs, breakerThreshold,
    fits.breakerCooldownMs, maxMessagesPerSecond, fits.maxMessageSizeKb]

end PoolSettings

/-! ## Sections -/

namespace AmqpSettings

structure Fits (s : AmqpSettings) : Prop where
  port : s.port < twoTo 16
  confirmTimeoutMs : s.confirmTimeoutMs < twoTo 64
  pool : s.pool.Fits

theorem ofTree_fits {data : Tree} {s : AmqpSettings} (read : ofTree data = some s) : s.Fits := by
  iterate 2 obtain ⟨_, -, read⟩ := Option.bind_eq_some_iff.1 read
  obtain ⟨_, port, read⟩ := Option.bind_eq_some_iff.1 read
  iterate 8 obtain ⟨_, -, read⟩ := Option.bind_eq_some_iff.1 read
  obtain ⟨_, confirmTimeoutMs, read⟩ := Option.bind_eq_some_iff.1 read
  obtain ⟨_, pool, read⟩ := Option.bind_eq_some_iff.1 read
  cases read
  exact ⟨setting_fits port (by decide), setting_fits confirmTimeoutMs (by decide), PoolSettings.ofFields_fits pool⟩

theorem fields_storable {s : AmqpSettings} (fits : s.Fits) : ∀ a ∈ s.fields, Storable a.2 := by
  have port := Nat.lt_of_lt_of_le fits.port (twoTo_le (by decide : 16 ≤ 64))
  rw [fields, List.forall_mem_append]
  exact ⟨by simp [Storable, port, fits.confirmTimeoutMs], PoolSettings.fields_storable fits.pool⟩

theorem ofTree_fields {s : AmqpSettings} (fits : s.Fits) : ofTree (.record (fieldData s.fields)) = some s := by
  have pool : PoolSettings.ofFields .kept (fieldData s.fields) = some s.pool :=
    PoolSettings.ofFields_fields .kept fits.pool (show ∀ key ∈ _, key ∉ ownKeys by decide)
  rw [ofTree, kept_fieldData (fields_storable fits), Option.bind_eq_bind, Option.bind_some]
  dsimp only
  rw [text_found s.fields "host" rfl, natural_found s.fields "port" rfl fits.port,
    text_found s.fields "virtual_host" rfl, text_found s.fields "username" rfl, text_found s.fields "password" rfl,
    text_found s.fields "exchange" rfl, text_found s.fields "routing_key" rfl, text_found s.fields "queue" rfl,
    text_found s.fields "connection_name" rfl, truth_found s.fields "publisher_confirms" rfl,
    natural_found s.fields "confirm_timeout_ms" rfl fits.confirmTimeoutMs, pool]
  rfl

end AmqpSettings

namespace SocketSettings

theorem ofTree_fits {data : Tree} {s : SocketSettings} (read : ofTree data = some s) : s.pool.Fits := by
  iterate 3 obtain ⟨_, -, read⟩ := Option.bind_eq_some_iff.1 read
  obtain ⟨_, pool, read⟩ := Option.bind_eq_some_iff.1 read
  cases read
  exact PoolSettings.ofFields_fits pool

theorem fields_storable {s : SocketSettings} (fits : s.pool.Fits) : ∀ a ∈ s.fields, Storable a.2 := by
  rw [fields, List.forall_mem_append]
  exact ⟨by simp [Storable], PoolSettings.fields_storable fits⟩

theorem ofTree_fields {s : SocketSettings} (fits : s.pool.Fits) : ofTree (.record (fieldData s.fields)) = some s := by
  have pool : PoolSettings.ofFields .kept (fieldData s.fields) = some s.pool :=
    PoolSettings.ofFields_fields .kept fits (show ∀ key ∈ _, key ∉ ownKeys by decide)
  rw [ofTree, kept_fieldData (fields_storable fits), Option.bind_eq_bind, Option.bind_some]
  dsimp only
  rw [text_found s.fields "endpoint" rfl, text_found s.fields "topic" rfl, pool]
  rfl

end SocketSettings

namespace LogSettings

structure Fits (s : LogSettings) : Prop where
  sendTimeoutMs : s.sendTimeoutMs < twoTo 64
  pool : s.pool.Fits

theorem ofTree_fits {data : Tree} {s : LogSettings} (read : ofTree data = some s) : s.Fits := by
  iterate 6 obtain ⟨_, -, read⟩ := Option.bind_eq_some_iff.1 read
  obtain ⟨_, sendTimeoutMs, read⟩ := Option.bind_eq_some_iff.1 read
  obtain ⟨_, pool, read⟩ := Option.bind_eq_some_iff.1 read
  cases read
  exact ⟨setting_fits sendTimeoutMs (by decide), PoolSettings.ofFields_fits pool⟩

theorem fields_storable {s : LogSettings} (fits : s.Fits) : ∀ a ∈ s.fields, Storable a.2 := by
  rw [fields, List.forall_mem_append]
  exact ⟨by simp [Storable, fits.sendTimeoutMs], PoolSettings.fields_storable fits.pool⟩

theorem ofTree_fields {s : LogSettings} (fits : s.Fits) : ofTree (.record (fieldData s.fields)) = some s := by
  have pool : PoolSettings.ofFields .kept (fieldData s.fields) = some s.pool :=
    PoolSettings.ofFields_fields .kept fits.pool (show ∀ key ∈ _, key ∉ ownKeys by decide)
  rw [ofTree, kept_fieldData (fields_storable fits), Option.bind_eq_bind, Option.bind_some]
  dsimp only
  rw [text_found s.fields "bootstrap_servers" rfl, text_found s.fields "client_id" rfl, text_found s.fields "topic" rfl,
    text_found s.fields "tag" rfl, text_found s.fields "group_id" rfl,
    natural_found s.fields "send_timeout_ms" rfl fits.sendTimeoutMs, pool]
  rfl

end LogSettings

namespace MqttSettings

structure Fits (s : MqttSettings) : Prop where
  port : s.port < twoTo 16
  qos : s.qos < twoTo 8
  keepAliveSecs : s.keepAliveSecs < twoTo 64
  pool : s.pool.Fits

theorem ofTree_fits {data : Tree} {s : MqttSettings} (read : ofTree data = some s) : s.Fits := by
  iterate 2 obtain ⟨_, -, read⟩ := Option.bind_eq_some_iff.1 read
  obtain ⟨_, port, read⟩ := Option.bind_eq_some_iff.1 read
  iterate 5 obtain ⟨_, -, read⟩ := Option.bind_eq_some_iff.1 read
  obtain ⟨_, qos, read⟩ := Option.bind_eq_some_iff.1 read
  obtain ⟨_, -, read⟩ := Option.bind_eq_some_iff.1 read
  obtain ⟨_, keepAliveSecs, read⟩ := Option.bind_eq_some_iff.1 read
  obtain ⟨_, pool, read⟩ := Option.bind_eq_some_iff.1 read
  cases read
  exact ⟨setting_fits port (by decide), setting_fits qos (by decide), setting_fits keepAliveSecs (by decide),
    PoolSettings.ofFields_fits pool⟩

theorem fields_storable {s : MqttSettings} (fits : s.Fits) : ∀ a ∈ s.fields, Storable a.2 := by
  have port := Nat.lt_of_lt_of_le fits.port (twoTo_le (by decide : 16 ≤ 64))
  have qos := Nat.lt_of_lt_of_le fits.qos (twoTo_le (by decide : 8 ≤ 64))
  rw [fields, List.forall_mem_append]
  exact ⟨by simp [Storable, port, qos, fits.keepAliveSecs], PoolSettings.fields_storable fits.pool⟩

theorem ofTree_fields {s : MqttSettings} (fits : s.Fits) : ofTree (.record (fieldData s.fields)) = some s := by
  have pool : PoolSettings.ofFields .kept (fieldData s.fields) = some s.pool :=
    PoolSettings.ofFields_fields .kept fits.pool (show ∀ key ∈ _, key ∉ ownKeys by decide)
  rw [ofTree, kept_fieldData (fields_storable fits), Option.bind_eq_bind, Option.bind_some]
  dsimp only
  rw [text_found s.fields "host" rfl, natural_found s.fields "port" rfl fits.port, text_found s.fields "client_id" rfl,
    truth_found s.fields "clean_session" rfl, text_found s.fields "username" rfl, text_found s.fields "password" rfl,
    text_found s.fields "topic" rfl, natural_found s.fields "qos" rfl fits.qos, truth_found s.fields "retain" rfl,
    natural_found s.fields "keep_alive_secs" rfl fits.keepAliveSecs, pool]
  rfl

end MqttSettings

namespace LoggingSettings

theorem fields_storable (s : LoggingSettings) : ∀ a ∈ s.fields, Storable a.2 := by
  cases file : s.file <;> simp [fields, Storable, file]

theorem ofTree_fields (s : LoggingSettings) : ofTree .toml (.record (fieldData s.fields)) = some s := by
  have listed : listed? .toml ["log_level", "log_file", "verbose"] (.record (fieldData s.fields)) =
      some (fieldData s.fields) := by
    rcases s with ⟨l, _ | f, b⟩ <;> rfl
  have level : setting (fieldData s.fields) "log_level" standard.level (level? .toml) = some s.level :=
    setting_found s.fields "log_level" rfl (level?_name .toml s.level)
  have file : setting (fieldData s.fields) "log_file" standard.file (optional? text?) = some s.file := by
    rcases s with ⟨l, _ | f, b⟩ <;> rfl
  have verbose : setting (fieldData s.fields) "verbose" standard.verbose truth? = some s.verbose := by
    rcases s with ⟨l, _ | f, b⟩ <;> rfl
  rw [ofTree, listed, Option.bind_eq_bind, Option.bind_some, level, file, verbose]
  rfl

end LoggingSettings

/-! ## Configurations -/

namespace Configuration

structure Fits (c : Configuration) : Prop where
  amqp : ∀ s ∈ c.amqp, s.Fits
  socket : ∀ s ∈ c.socket, s.pool.Fits
  log : ∀ s ∈ c.log, s.Fits
  mqtt : ∀ s ∈ c.mqtt, s.Fits

theorem optional?_some {α : Type} {read : Tree → Option α} {data : Tree} {s : α}
    (given : optional? read data = some (some s)) : read data = some s := by
  cases data <;> simp_all [optional?]

theorem section_read {α : Type} {fields : List (String × Tree)} {key : String} {read : Tree → Option α} {o : Option α}
    (found : setting fields key none (optional? read) = some o) : ∀ s ∈ o, ∃ data, read data = some s := by
  rintro s rfl
  unfold setting at found
  split at found
  · cases found
  · exact ⟨_, optional?_some found⟩

theorem ofTree_fits {origin : Settings.Origin} {data : Tree} {c : Configuration} (read : ofTree origin data = some c) :
    c.Fits := by
  simp only [ofTree, Option.bind_eq_bind, Option.bind_eq_some_iff, Option.pure_def, Option.some.injEq] at read
  obtain ⟨_, -, _, -, _, amqp, _, socket, _, log, _, mqtt, rfl⟩ := read
  exact {
    amqp := fun s given => (section_read amqp s given).elim fun _ => AmqpSettings.ofTree_fits
    socket := fun s given => (section_read socket s given).elim fun _ => SocketSettings.ofTree_fits
    log := fun s given => (section_read log s given).elim fun _ => LogSettings.ofTree_fits
    mqtt := fun s given => (section_read mqtt s given).elim fun _ => MqttSettings.ofTree_fits }

theorem lookup_section {α β : Type} (key name : String) (o : Option α) (data : α → β) :
    (o.toList.map fun s => (name, data s)).lookup key = if key = name then o.map data else none := by
  cases o with
  | none => simp
  | some s =>
      by_cases same : key = name
      · simp [same]
      · have apart : (key == name) = false := by simpa using same
        simp [List.lookup_cons, apart, same]

theorem setting_section {α : Type} {fields : List (String × Tree)} {key : String} {read : Tree → Option α} {o : Option α}
    {data : α → List (String × Tree)} (found : fields.lookup key = o.map fun s => .record (data s))
    (reads : ∀ s ∈ o, read (.record (data s)) = some s) : setting fields key none (optional? read) = some o := by
  rw [setting, found]
  cases o with
  | none => rfl
  | some s => simp [optional?, reads]

theorem tables_names (c : Configuration) : ∀ t ∈ c.tables, t.name ∈ ["logging", "amqp", "socket", "log", "mqtt"] := by
  obtain ⟨logging, amqp, socket, log, mqtt⟩ := c
  cases amqp <;> cases socket <;> cases log <;> cases mqtt <;> simp [tables]

theorem tables_distinct (c : Configuration) : (c.tables.map Toml.Writer.Table.name).Nodup := by
  obtain ⟨logging, amqp, socket, log, mqtt⟩ := c
  cases amqp <;> cases socket <;> cases log <;> cases mqtt <;> simp [tables]

theorem tables_plain {c : Configuration} (fits : c.Fits) : ∀ t ∈ c.tables, Toml.Plain t := by
  intro t member
  simp only [tables, List.mem_cons, List.mem_append, List.mem_map, Option.mem_toList] at member
  obtain rfl | ((⟨s, given, rfl⟩ | ⟨s, given, rfl⟩) | ⟨s, given, rfl⟩) | ⟨s, given, rfl⟩ := member
  · have values := fun a member => (LoggingSettings.fields_storable c.logging a member).writable
    rcases file : c.logging.file with _ | f
    · exact .of_keys ["log_level", "verbose"] (by simp [LoggingSettings.fields, file]) (by decide +kernel)
        (by decide +kernel) values
    · exact .of_keys ["log_level", "log_file", "verbose"] (by simp [LoggingSettings.fields, file])
        (by decide +kernel) (by decide +kernel) values
  · exact .of_keys (AmqpSettings.standard.fields.map Prod.fst) rfl (by decide +kernel) (by decide +kernel) fun a member =>
      (AmqpSettings.fields_storable (fits.amqp s given) a member).writable
  · exact .of_keys (SocketSettings.standard.fields.map Prod.fst) rfl (by decide +kernel) (by decide +kernel) fun a member =>
      (SocketSettings.fields_storable (fits.socket s given) a member).writable
  · exact .of_keys (LogSettings.standard.fields.map Prod.fst) rfl (by decide +kernel) (by decide +kernel) fun a member =>
      (LogSettings.fields_storable (fits.log s given) a member).writable
  · exact .of_keys (MqttSettings.standard.fields.map Prod.fst) rfl (by decide +kernel) (by decide +kernel) fun a member =>
      (MqttSettings.fields_storable (fits.mqtt s given) a member).writable

theorem records_eq (c : Configuration) :
    c.tables.map Toml.recordOf =
      ("logging", .record (fieldData c.logging.fields)) ::
        ((c.amqp.toList.map fun s => ("amqp", .record (fieldData s.fields))) ++
          (c.socket.toList.map fun s => ("socket", .record (fieldData s.fields))) ++
            (c.log.toList.map fun s => ("log", .record (fieldData s.fields))) ++
              (c.mqtt.toList.map fun s => ("mqtt", .record (fieldData s.fields)))) := by
  simp [tables, Toml.recordOf, fieldData, Function.comp_def]

theorem ofTree_tables {c : Configuration} (fits : c.Fits) :
    ofTree .toml (.record (c.tables.map Toml.recordOf)) = some c := by
  have listed : listed? .toml ["logging", "amqp", "socket", "log", "mqtt"] (.record (c.tables.map Toml.recordOf)) =
      some (c.tables.map Toml.recordOf) := by
    have own : (c.tables.map Toml.recordOf).all (fun field =>
        ["logging", "amqp", "socket", "log", "mqtt"].contains field.1 || field.2.isReadable) = true := by
      simp only [List.all_map, List.all_eq_true, Function.comp_apply, Bool.or_eq_true, List.contains_iff_mem]
      exact fun t member => .inl (tables_names c t member)
    simp only [listed?, own, if_true]
  have logging : setting (c.tables.map Toml.recordOf) "logging" .standard (LoggingSettings.ofTree .toml) = some c.logging :=
    LoggingSettings.ofTree_fields c.logging
  have amqp : setting (c.tables.map Toml.recordOf) "amqp" none (optional? AmqpSettings.ofTree) = some c.amqp :=
    setting_section (by simp [records_eq, List.lookup_cons, List.lookup_append, lookup_section])
      fun s given => AmqpSettings.ofTree_fields (fits.amqp s given)
  have socket : setting (c.tables.map Toml.recordOf) "socket" none (optional? SocketSettings.ofTree) = some c.socket :=
    setting_section (by simp [records_eq, List.lookup_cons, List.lookup_append, lookup_section])
      fun s given => SocketSettings.ofTree_fields (fits.socket s given)
  have log : setting (c.tables.map Toml.recordOf) "log" none (optional? LogSettings.ofTree) = some c.log :=
    setting_section (by simp [records_eq, List.lookup_cons, List.lookup_append, lookup_section])
      fun s given => LogSettings.ofTree_fields (fits.log s given)
  have mqtt : setting (c.tables.map Toml.recordOf) "mqtt" none (optional? MqttSettings.ofTree) = some c.mqtt :=
    setting_section (by simp [records_eq, List.lookup_cons, List.lookup_append, lookup_section])
      fun s given => MqttSettings.ofTree_fields (fits.mqtt s given)
  rw [ofTree, listed, Option.bind_eq_bind, Option.bind_some, logging, amqp, socket, log, mqtt]
  rfl

theorem ofToml_eq_ok {text : String} {c : Configuration} :
    ofToml text = .ok c ↔ (Toml.tree? text).bind (ofTree .toml) = some c ∧ c.validate = .ok () := by
  unfold ofToml
  cases (Toml.tree? text).bind (ofTree .toml) with
  | none => simp
  | some given =>
      constructor
      · intro read
        dsimp only at read
        cases valid : given.validate with
        | error failure =>
            rw [valid] at read
            cases read
        | ok =>
            rw [valid] at read
            cases read
            exact ⟨rfl, valid⟩
      · rintro ⟨same, valid⟩
        cases same
        simp only [valid]
        rfl

/-- A configuration that was read can be written, and what is written is read as the same configuration. -/
theorem ofToml_toToml {text : String} {c : Configuration} (read : ofToml text = .ok c) : ofToml c.toToml = .ok c := by
  obtain ⟨tree, valid⟩ := ofToml_eq_ok.1 read
  obtain ⟨data, -, ofData⟩ := Option.bind_eq_some_iff.1 tree
  have fits := ofTree_fits ofData
  have written : Toml.tree? c.toToml = some (.record (c.tables.map Toml.recordOf)) :=
    Toml.tree?_document (tables_plain fits) (tables_distinct c) (by simp [tables])
  refine ofToml_eq_ok.2 ⟨?_, valid⟩
  rw [written]
  exact ofTree_tables fits

theorem ofToml_toToml_quotes :
    let text := "[mqtt]\nqos = 2\npassword = \"it's \\\"\\\"\\\" \\u0000\\r\\n\\\\\"\nmax_connections = 0x7\n"
    let settings : MqttSettings :=
      { MqttSettings.standard with
        qos := 2, password := "it's \"\"\" \x00\r\n\\", pool := { PoolSettings.standard with maxConnections := 7 } }
    let c : Configuration := { standard with mqtt := some settings }
    ofToml text = .ok c ∧ ofToml c.toToml = .ok c := by
  intro text settings c
  have read : ofToml text = .ok c := by decide +kernel
  exact ⟨read, ofToml_toToml read⟩

end Configuration

end Dispatch
