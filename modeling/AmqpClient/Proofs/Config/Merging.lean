import AmqpClient.Config
import AmqpClient.Proofs.Text.Numeral
import AmqpClient.Proofs.Text.Utf8

/-!
# Settings overridden by the environment

Each setting has one variable. A text is taken over as it stands; a number is what its variable
denotes, as long as it is within the range of the setting. The numbers are read one after the
other, and the first that cannot be read ends the merge: what was read before it stays, it and
those after it are as they were. Merging twice is merging once.
-/

set_option autoImplicit false

namespace AmqpClient

/-- A variable is set to a text. Bytes that are no text count as nothing. -/
def Environment.Holds (environment : Environment) (name text : String) : Prop :=
  environment name = some (Text.encodeUtf8 text)

namespace Environment

variable {environment : Environment} {name text : String} {limit : Nat}

private theorem text?_eq_some_iff :
    environment.text? name = some text ↔ environment.Holds name text := by
  simp only [text?, Option.bind_eq_some_iff, Text.decodeUtf8?_eq_some_iff, exists_eq_right, Holds]

private theorem text?_eq_none_iff :
    environment.text? name = none ↔ ∀ text, ¬ environment.Holds name text := by
  simp only [Option.eq_none_iff_forall_ne_some, ne_eq, text?_eq_some_iff]

private theorem eq_of_holds {other : String} (holds : environment.Holds name text)
    (holdsOther : environment.Holds name other) : text = other :=
  Option.some.inj ((text?_eq_some_iff.mpr holds).symm.trans (text?_eq_some_iff.mpr holdsOther))

end Environment

namespace Config

/-! ## The settings and their variables -/

inductive TextSetting where
  | appName
  | address
  | virtualHost
  | user
  | password
  | queue
  | routingKey
  | exchange
  | exchangeType
  | consumerTag
  deriving DecidableEq, Repr

namespace TextSetting

def variableName : TextSetting → String
  | .appName => "APP_NAME"
  | .address => "RABBITMQ_ADDR"
  | .virtualHost => "RABBITMQ_VHOST"
  | .user => "RABBITMQ_USER"
  | .password => "RABBITMQ_PASSWORD"
  | .queue => "RABBITMQ_QUEUE"
  | .routingKey => "RABBITMQ_ROUTING_KEY"
  | .exchange => "RABBITMQ_EXCHANGE"
  | .exchangeType => "RABBITMQ_EXCHANGE_TYPE"
  | .consumerTag => "RABBITMQ_CONSUMER_TAG"

/-- What a configuration has for a setting. Only the user and the password may be missing. -/
def value? (config : Config) : TextSetting → Option String
  | .appName => some config.appName
  | .address => some config.address
  | .virtualHost => some config.virtualHost
  | .user => config.user
  | .password => config.password
  | .queue => some config.queue
  | .routingKey => some config.routingKey
  | .exchange => some config.exchange
  | .exchangeType => some config.exchangeType
  | .consumerTag => some config.consumerTag

end TextSetting

/-- The settings that are numbers, in the order in which they are read. -/
inductive NumberSetting where
  | maxPriority
  | workers
  | prefetch
  deriving DecidableEq, Repr

namespace NumberSetting

def rank : NumberSetting → Nat
  | .maxPriority => 0
  | .workers => 1
  | .prefetch => 2

def variableName : NumberSetting → String
  | .maxPriority => "RABBITMQ_MAX_PRIORITY"
  | .workers => "RABBITMQ_WORKERS"
  | .prefetch => "RABBITMQ_PREFETCH"

private theorem variableName_injective {setting other : NumberSetting}
    (same : setting.variableName = other.variableName) : setting = other := by
  revert same
  cases setting <;> cases other <;> decide

/-- The highest value of the setting's type. -/
def limit : NumberSetting → Nat
  | .maxPriority => UInt8.size - 1
  | .workers => UInt64.size - 1
  | .prefetch => UInt16.size - 1

/-- What a configuration has for a setting. Only the priority limit may be missing. -/
def value? (config : Config) : NumberSetting → Option Nat
  | .maxPriority => config.maxPriority.map UInt8.toNat
  | .workers => some config.workers
  | .prefetch => some config.prefetch.toNat

/-- The variable holds a text that denotes no number of the setting's range. -/
def IsFaulty (environment : Environment) (setting : NumberSetting) : Prop :=
  ∃ text, environment.Holds setting.variableName text ∧
    ∀ value ≤ setting.limit, ¬ Text.Denotes text value

/-- Overrides a setting by a number, if there is one. -/
def override (setting : NumberSetting) (value? : Option Nat) (config : Config) : Config :=
  match setting with
  | .maxPriority => { config with maxPriority := (value?.map UInt8.ofNat).or config.maxPriority }
  | .workers => { config with workers := value?.getD config.workers }
  | .prefetch => { config with prefetch := (value?.map UInt16.ofNat).getD config.prefetch }

end NumberSetting

/-- The settings are all that there is to a configuration. -/
theorem eq_of_value? {left right : Config}
    (texts : ∀ setting : TextSetting, setting.value? left = setting.value? right)
    (numbers : ∀ setting : NumberSetting, setting.value? left = setting.value? right) :
    left = right := by
  obtain ⟨⟩ := left
  obtain ⟨⟩ := right
  have maxPriority := Option.map_injective (fun _ _ => UInt8.toNat.inj) (numbers .maxPriority)
  have prefetch := UInt16.toNat.inj (Option.some.inj (numbers .prefetch))
  simp only [mk.injEq]
  exact ⟨Option.some.inj (texts .appName), Option.some.inj (texts .address),
    Option.some.inj (texts .virtualHost), texts .user, texts .password,
    Option.some.inj (texts .queue), Option.some.inj (texts .routingKey),
    Option.some.inj (texts .exchange), Option.some.inj (texts .exchangeType), maxPriority,
    Option.some.inj (texts .consumerTag), Option.some.inj (numbers .workers), prefetch⟩

/-! ## Overriding one setting -/

section

variable {environment : Environment} {config : Config}

private theorem TextSetting.value?_mergeTexts (setting : TextSetting) :
    setting.value? (mergeTexts environment config) =
      (environment.text? setting.variableName).or (setting.value? config) := by
  cases setting with
  | user => rfl
  | password => rfl
  | appName | address | virtualHost | queue | routingKey | exchange | exchangeType | consumerTag =>
      simp only [mergeTexts, value?, variableName]
      exact (Option.or_some ..).symm

private theorem NumberSetting.value?_mergeTexts (setting : NumberSetting) :
    setting.value? (mergeTexts environment config) = setting.value? config := by
  cases setting <;> rfl

namespace NumberSetting

private theorem text_override (setting : NumberSetting) (number? : Option Nat)
    (other : TextSetting) :
    other.value? (setting.override number? config) = other.value? config := by
  cases setting <;> cases other <;> rfl

private theorem value?_override_of_ne {setting other : NumberSetting} (different : other ≠ setting)
    (number? : Option Nat) :
    other.value? (setting.override number? config) = other.value? config := by
  cases setting <;> cases other <;> first | rfl | exact absurd rfl different

private theorem value?_override_none (setting : NumberSetting) :
    setting.value? (setting.override none config) = setting.value? config := by
  cases setting <;> simp [override, value?]

private theorem value?_override_some {setting : NumberSetting} {value : Nat}
    (within : value ≤ setting.limit) :
    setting.value? (setting.override (some value) config) = some value := by
  cases setting with
  | maxPriority => exact congrArg some (Nat.mod_eq_of_lt (Nat.lt_succ_of_le within))
  | workers => rfl
  | prefetch => exact congrArg some (Nat.mod_eq_of_lt (Nat.lt_succ_of_le within))

/-- What a variable makes of a setting that has an old value. -/
def IsOverridden (environment : Environment) (old merged : Config) (setting : NumberSetting) :
    Prop :=
  (∀ text value, environment.Holds setting.variableName text → Text.Denotes text value →
      setting.value? merged = some value) ∧
    ((∀ text, ¬ environment.Holds setting.variableName text) →
      setting.value? merged = setting.value? old)

def read (environment : Environment) (setting : NumberSetting) :
    Except ClientError (Option Nat) :=
  environment.number? setting.variableName setting.limit

private theorem read_of_isFaulty {setting : NumberSetting} (faulty : setting.IsFaulty environment) :
    ∃ details, setting.read environment = .error (.config setting.variableName details) := by
  obtain ⟨text, holds, unfit⟩ := faulty
  have found := Environment.text?_eq_some_iff.mpr holds
  cases outcome : Text.readNumeral setting.limit (Text.trimChars text.toList) with
  | ok value =>
      obtain ⟨denotes, within⟩ := Text.readNumeral_trimChars_eq_ok_iff.mp outcome
      exact absurd denotes (unfit value within)
  | error error => exact ⟨error.message, by simp [read, Environment.number?, found, outcome]⟩

private theorem exists_denotes {setting : NumberSetting} {text : String}
    (sound : ¬ setting.IsFaulty environment)
    (holds : environment.Holds setting.variableName text) :
    ∃ value ≤ setting.limit, Text.Denotes text value := by
  by_contra unfit
  exact sound ⟨text, holds, by simpa using unfit⟩

/-- A setting without a fault is overridden by what is read. -/
theorem read_of_not_isFaulty {setting : NumberSetting} (sound : ¬ setting.IsFaulty environment)
    (config : Config) :
    ∃ number?, setting.read environment = .ok number? ∧
      setting.IsOverridden environment config (setting.override number? config) := by
  cases found : environment.text? setting.variableName with
  | none =>
      have unset := Environment.text?_eq_none_iff.mp found
      refine ⟨none, by simp [read, Environment.number?, found], ?_, fun _ => ?_⟩
      · exact fun text _ holds => absurd holds (unset text)
      · exact setting.value?_override_none
  | some text =>
      have holds := Environment.text?_eq_some_iff.mp found
      obtain ⟨value, within, denotes⟩ := exists_denotes sound holds
      have outcome := Text.readNumeral_trimChars_eq_ok_iff.mpr ⟨denotes, within⟩
      refine ⟨some value, by simp [read, Environment.number?, found, outcome], ?_, fun unset => ?_⟩
      · intro other number otherHolds otherDenotes
        have same := Environment.eq_of_holds otherHolds holds
        rw [value?_override_some within, denotes.eq (same ▸ otherDenotes)]
      · exact absurd holds (unset text)

end NumberSetting

/-! ## One number after the other -/

/-- Overrides settings in turn, up to the first that cannot be read. -/
def mergeEach (environment : Environment) : List NumberSetting → Config →
    Config × Except ClientError Unit
  | [], config => (config, .ok ())
  | setting :: rest, config =>
    match setting.read environment with
    | .error error => (config, .error error)
    | .ok number? => mergeEach environment rest (setting.override number? config)

def order : List NumberSetting :=
  [.maxPriority, .workers, .prefetch]

private theorem mergeNumbers_eq :
    mergeNumbers environment config = mergeEach environment order config := by
  simp only [mergeNumbers, order, mergeEach, NumberSetting.read]
  rfl

structure MergesEach (environment : Environment) (settings : List NumberSetting)
    (config merged : Config) (result : Except ClientError Unit) : Prop where
  text : ∀ setting : TextSetting, setting.value? merged = setting.value? config
  aside : ∀ setting ∉ settings, setting.value? merged = setting.value? config
  overridden : ∀ setting ∈ settings,
    (∀ other ∈ settings, other.rank ≤ setting.rank → ¬ other.IsFaulty environment) →
    setting.IsOverridden environment config merged
  kept : ∀ setting ∈ settings, ∀ other ∈ settings, other.rank ≤ setting.rank →
    other.IsFaulty environment → setting.value? merged = setting.value? config
  ok_iff : result = .ok () ↔ ∀ setting ∈ settings, ¬ setting.IsFaulty environment
  error : ∀ setting ∈ settings, setting.IsFaulty environment →
    (∀ other ∈ settings, other.rank < setting.rank → ¬ other.IsFaulty environment) →
    ∃ details, result = .error (.config setting.variableName details)

theorem MergesEach.nil (environment : Environment) (config : Config) :
    MergesEach environment [] config config (.ok ()) where
  text _ := rfl
  aside _ _ := rfl
  overridden := nofun
  kept := nofun
  ok_iff := by simp
  error := nofun

section

variable {first : NumberSetting} {rest : List NumberSetting} {merged : Config}
  {result : Except ClientError Unit}

/-- A fault at the first setting ends it. -/
theorem MergesEach.fault (faulty : first.IsFaulty environment) {details : String}
    (lowest : ∀ setting ∈ rest, first.rank < setting.rank) :
    MergesEach environment (first :: rest) config config
      (.error (.config first.variableName details)) where
  text _ := rfl
  aside _ _ := rfl
  overridden setting member sound := by
    have atMost : first.rank ≤ setting.rank := by
      rcases List.mem_cons.mp member with rfl | later
      · exact Nat.le_refl _
      · exact Nat.le_of_lt (lowest setting later)
    exact absurd faulty (sound first List.mem_cons_self atMost)
  kept _ _ _ _ _ _ := rfl
  ok_iff := ⟨nofun, fun sound => absurd faulty (sound first List.mem_cons_self)⟩
  error setting member _ sound := by
    rcases List.mem_cons.mp member with rfl | later
    · exact ⟨details, rfl⟩
    · exact absurd faulty (sound first List.mem_cons_self (lowest setting later))

/-- Once the first setting is overridden, the others are merged into what has come of it. -/
theorem MergesEach.next {number? : Option Nat} (sound : ¬ first.IsFaulty environment)
    (overridden : first.IsOverridden environment config (first.override number? config))
    (lowest : ∀ setting ∈ rest, first.rank < setting.rank)
    (merges : MergesEach environment rest (first.override number? config) merged result) :
    MergesEach environment (first :: rest) config merged result := by
  have firstMerged : first.value? merged = first.value? (first.override number? config) :=
    merges.aside first fun member => Nat.lt_irrefl _ (lowest first member)
  have restBefore {setting : NumberSetting} (member : setting ∈ rest) :
      setting.value? (first.override number? config) = setting.value? config :=
    NumberSetting.value?_override_of_ne
      (fun same => Nat.lt_irrefl _ (same ▸ lowest setting member)) number?
  refine ⟨?_, ?_, ?_, ?_, ?_, ?_⟩
  · exact fun setting => (merges.text setting).trans (first.text_override number? setting)
  · intro setting outside
    rw [List.mem_cons, not_or] at outside
    exact (merges.aside setting outside.2).trans
      (NumberSetting.value?_override_of_ne outside.1 number?)
  · intro setting member allSound
    rcases List.mem_cons.mp member with rfl | later
    · rw [NumberSetting.IsOverridden, firstMerged]
      exact overridden
    · have inner := merges.overridden setting later fun other inRest =>
        allSound other (List.mem_cons_of_mem _ inRest)
      rw [NumberSetting.IsOverridden, restBefore later] at inner
      exact inner
  · intro setting member other otherMember atMost faulty
    rcases List.mem_cons.mp otherMember with rfl | otherLater
    · exact absurd faulty sound
    · rcases List.mem_cons.mp member with rfl | later
      · exact absurd (lowest other otherLater) (Nat.not_lt.mpr atMost)
      · exact (merges.kept setting later other otherLater atMost faulty).trans (restBefore later)
  · rw [merges.ok_iff, List.forall_mem_cons, and_iff_right sound]
  · intro setting member faulty earlierSound
    rcases List.mem_cons.mp member with rfl | later
    · exact absurd faulty sound
    · exact merges.error setting later faulty fun other inRest =>
        earlierSound other (List.mem_cons_of_mem _ inRest)

end

private theorem mergeEach_merges {settings : List NumberSetting}
    (sorted : settings.Pairwise fun former later => former.rank < later.rank) (config : Config) :
    MergesEach environment settings config (mergeEach environment settings config).1
      (mergeEach environment settings config).2 := by
  induction settings generalizing config with
  | nil => exact .nil environment config
  | cons first rest ih =>
      obtain ⟨lowest, sorted⟩ := List.pairwise_cons.mp sorted
      by_cases faulty : first.IsFaulty environment
      · obtain ⟨details, read⟩ := NumberSetting.read_of_isFaulty faulty
        rw [mergeEach, read]
        exact .fault faulty lowest
      · obtain ⟨number?, read, overridden⟩ := NumberSetting.read_of_not_isFaulty faulty config
        rw [mergeEach, read]
        exact .next faulty overridden lowest (ih sorted _)

/-! ## The whole merge -/

private theorem mem_order (setting : NumberSetting) : setting ∈ order := by
  cases setting <;> decide

private theorem merge_eq :
    merge environment config = mergeEach environment order (mergeTexts environment config) :=
  mergeNumbers_eq

private theorem merge_merges (environment : Environment) (config : Config) :
    MergesEach environment order (mergeTexts environment config) (merge environment config).1
      (merge environment config).2 := by
  rw [merge_eq]
  exact mergeEach_merges (by decide) _

private theorem value?_merge_text (setting : TextSetting) :
    setting.value? (merge environment config).1 =
      (environment.text? setting.variableName).or (setting.value? config) :=
  ((merge_merges environment config).text setting).trans setting.value?_mergeTexts

/-- Whether numbers can be read does not depend on what they override. -/
theorem snd_mergeEach_eq (settings : List NumberSetting) (config other : Config) :
    (mergeEach environment settings config).2 = (mergeEach environment settings other).2 := by
  induction settings generalizing config other with
  | nil => rfl
  | cons first rest ih =>
      simp only [mergeEach]
      cases first.read environment with
      | error error => rfl
      | ok number? => exact ih _ _

/-- The first of the settings whose variables hold no numbers of their ranges. -/
def NumberSetting.IsFirstFault (environment : Environment) (setting : NumberSetting) : Prop :=
  setting.IsFaulty environment ∧
    ∀ other : NumberSetting, other.rank < setting.rank → ¬ other.IsFaulty environment

private theorem exists_isFirstFault {setting : NumberSetting}
    (faulty : setting.IsFaulty environment) :
    ∃ first : NumberSetting, first.IsFirstFault environment := by
  obtain ⟨first, isFaulty, lowest⟩ :=
    (measure NumberSetting.rank).wf.has_min {setting | setting.IsFaulty environment}
      ⟨setting, faulty⟩
  exact ⟨first, isFaulty, fun other lower isFaulty => lowest other isFaulty lower⟩

/-- What the environment makes of a configuration. -/
structure MergesSoundly (environment : Environment) (config : Config) : Prop where
  text_of_set : ∀ (setting : TextSetting) text, environment.Holds setting.variableName text →
    setting.value? (merge environment config).1 = some text
  text_of_unset : ∀ setting : TextSetting,
    (∀ text, ¬ environment.Holds setting.variableName text) →
    setting.value? (merge environment config).1 = setting.value? config
  number_overridden : ∀ setting : NumberSetting,
    (∀ other : NumberSetting, other.rank ≤ setting.rank → ¬ other.IsFaulty environment) →
    setting.IsOverridden environment config (merge environment config).1
  number_kept : ∀ setting other : NumberSetting, other.rank ≤ setting.rank →
    other.IsFaulty environment →
    setting.value? (merge environment config).1 = setting.value? config
  ok_iff : (merge environment config).2 = .ok () ↔
    ∀ setting : NumberSetting, ¬ setting.IsFaulty environment
  error_iff : ∀ setting : NumberSetting, setting.IsFirstFault environment ↔
    ∃ details, (merge environment config).2 = .error (.config setting.variableName details)
  again : merge environment (merge environment config).1 = merge environment config
  fromDefaults : ofEnvironment environment =
    (merge environment {}).2.map fun _ => (merge environment {}).1

private theorem overridden_of_merge (config : Config) (setting : NumberSetting)
    (sound : ∀ other : NumberSetting, other.rank ≤ setting.rank → ¬ other.IsFaulty environment) :
    setting.IsOverridden environment config (merge environment config).1 := by
  have inner := (merge_merges environment config).overridden setting (mem_order setting)
    fun other _ => sound other
  rwa [NumberSetting.IsOverridden, setting.value?_mergeTexts] at inner

private theorem kept_of_merge (config : Config) {setting other : NumberSetting}
    (atMost : other.rank ≤ setting.rank)
    (faulty : other.IsFaulty environment) :
    setting.value? (merge environment config).1 = setting.value? config :=
  ((merge_merges environment config).kept setting (mem_order setting) other (mem_order other)
    atMost faulty).trans setting.value?_mergeTexts

private theorem ok_iff_of_merge (config : Config) :
    (merge environment config).2 = .ok () ↔
      ∀ setting : NumberSetting, ¬ setting.IsFaulty environment :=
  (merge_merges environment config).ok_iff.trans
    ⟨fun sound setting => sound setting (mem_order setting), fun sound setting _ => sound setting⟩

private theorem exists_details_of_isFirstFault (config : Config) {setting : NumberSetting}
    (isFirst : setting.IsFirstFault environment) :
    ∃ details, (merge environment config).2 = .error (.config setting.variableName details) :=
  (merge_merges environment config).error setting (mem_order setting) isFirst.1
    fun other _ => isFirst.2 other

private theorem error_iff_of_merge (config : Config) (setting : NumberSetting) :
    setting.IsFirstFault environment ↔
      ∃ details, (merge environment config).2 = .error (.config setting.variableName details) := by
  refine ⟨exists_details_of_isFirstFault config, fun ⟨details, failed⟩ => ?_⟩
  have someFaulty : ∃ setting : NumberSetting, setting.IsFaulty environment := by
    by_contra none
    have ok := (ok_iff_of_merge config).mpr fun setting faulty => none ⟨setting, faulty⟩
    cases ok.symm.trans failed
  obtain ⟨other, faulty⟩ := someFaulty
  obtain ⟨first, isFirst⟩ := exists_isFirstFault faulty
  obtain ⟨otherDetails, sameFailed⟩ := exists_details_of_isFirstFault config isFirst
  have sameError := Except.error.inj (sameFailed.symm.trans failed)
  exact NumberSetting.variableName_injective (ClientError.config.inj sameError).1 ▸ isFirst

private theorem merge_merge (environment : Environment) (config : Config) :
    merge environment (merge environment config).1 = merge environment config := by
  refine Prod.ext (eq_of_value? ?_ ?_) ?_
  · intro setting
    rw [value?_merge_text, value?_merge_text]
    cases environment.text? setting.variableName <;> rfl
  · intro setting
    by_cases faulty : ∃ other : NumberSetting,
        other.rank ≤ setting.rank ∧ other.IsFaulty environment
    · obtain ⟨other, atMost, faulty⟩ := faulty
      exact kept_of_merge _ atMost faulty
    · have sound : ∀ other : NumberSetting, other.rank ≤ setting.rank →
          ¬ other.IsFaulty environment := fun other atMost isFaulty =>
        faulty ⟨other, atMost, isFaulty⟩
      have once := overridden_of_merge config setting sound
      have twice := overridden_of_merge (merge environment config).1 setting sound
      by_cases set : ∃ text, environment.Holds setting.variableName text
      · obtain ⟨text, holds⟩ := set
        obtain ⟨value, -, denotes⟩ :=
          NumberSetting.exists_denotes (sound setting (Nat.le_refl _)) holds
        rw [twice.1 text value holds denotes, once.1 text value holds denotes]
      · exact twice.2 (not_exists.mp set)
  · rw [merge_eq, merge_eq]
    exact snd_mergeEach_eq _ _ _

/-- A merge overrides what the variables say, up to the first fault among the numbers. -/
theorem mergesSoundly (environment : Environment) (config : Config) :
    MergesSoundly environment config where
  text_of_set setting text holds := by
    rw [value?_merge_text, Environment.text?_eq_some_iff.mpr holds, Option.some_or]
  text_of_unset setting unset := by
    rw [value?_merge_text, Environment.text?_eq_none_iff.mpr unset, Option.none_or]
  number_overridden := overridden_of_merge config
  number_kept _ _ := kept_of_merge config
  ok_iff := ok_iff_of_merge config
  error_iff := error_iff_of_merge config
  again := merge_merge environment config
  fromDefaults := by
    rw [ofEnvironment]
    rcases merge environment {} with ⟨merged, _ | _⟩ <;> rfl

/-- Variables of which the number of workers cannot be read. -/
def misreadWorkers : Environment := fun name =>
  if name = "APP_NAME" then some (Text.encodeUtf8 "orders")
  else if name = "RABBITMQ_MAX_PRIORITY" then some (Text.encodeUtf8 " +7 ")
  else if name = "RABBITMQ_WORKERS" then some (Text.encodeUtf8 "many")
  else if name = "RABBITMQ_PREFETCH" then some (Text.encodeUtf8 "5")
  else none

private theorem denotes_seven : Text.Denotes " +7 " 7 :=
  ⟨[' '], ['+', '7'], [' '], rfl, List.forall_mem_singleton.mpr rfl,
    List.forall_mem_singleton.mpr rfl, .signed nofun (List.forall_mem_singleton.mpr rfl)⟩

private theorem not_isFaulty_maxPriority : ¬ NumberSetting.maxPriority.IsFaulty misreadWorkers := by
  rintro ⟨text, holds, unfit⟩
  have same : text = " +7 " := Environment.eq_of_holds holds rfl
  exact unfit 7 (by decide) (same ▸ denotes_seven)

private theorem isFirstFault_workers : NumberSetting.workers.IsFirstFault misreadWorkers := by
  refine ⟨⟨"many", rfl, fun value within denotes => ?_⟩, fun other lower => ?_⟩
  · have misread : Text.readNumeral NumberSetting.workers.limit (Text.trimChars "many".toList) =
        .error .invalidDigit := rfl
    cases misread.symm.trans (Text.readNumeral_trimChars_eq_ok_iff.mpr ⟨denotes, within⟩)
  · cases other with
    | maxPriority => exact not_isFaulty_maxPriority
    | workers => exact absurd lower (Nat.lt_irrefl _)
    | prefetch => exact absurd lower (by decide)

/-- The priority limit is read before the fault, and the prefetch is not looked at after it. -/
theorem mergesSoundly_misreadWorkers :
    ∃ details, merge misreadWorkers {} =
      ({ appName := "orders", maxPriority := some 7 },
        .error (.config "RABBITMQ_WORKERS" details)) := by
  have sound := mergesSoundly misreadWorkers {}
  obtain ⟨details, failed⟩ := (sound.error_iff .workers).mp isFirstFault_workers
  refine ⟨details, Prod.ext (eq_of_value? ?_ ?_) failed⟩
  · intro setting
    cases setting with
    | appName => exact sound.text_of_set .appName "orders" rfl
    | address | virtualHost | user | password | queue | routingKey | exchange | exchangeType
    | consumerTag => exact sound.text_of_unset _ nofun
  · intro setting
    cases setting with
    | maxPriority =>
        refine (sound.number_overridden .maxPriority fun other atMost => ?_).1 " +7 " 7 rfl
          denotes_seven
        cases other with
        | maxPriority => exact not_isFaulty_maxPriority
        | workers | prefetch => exact absurd atMost (by decide)
    | workers => exact sound.number_kept _ _ (Nat.le_refl _) isFirstFault_workers.1
    | prefetch => exact sound.number_kept .prefetch .workers (by decide) isFirstFault_workers.1

end

end Config

end AmqpClient
