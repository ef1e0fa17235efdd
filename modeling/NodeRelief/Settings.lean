import NodeRelief.Checked
import NodeRelief.Config
import NodeRelief.Fault
import NodeRelief.Number.Literal
import NodeRelief.Settings.Environment

/-!
# Settings

What an operator may set through the environment, and the configuration that follows. Every setting
that cannot be read is reported, in the order in which they are declared here.
-/

namespace NodeRelief

/-- What is wrong with the value of a setting. -/
inductive SettingFlaw where
  | noNumber
  | noInteger
  | hugeInteger
  | noTruthValue
  /-- Not above zero. -/
  | notPositive
  /-- Below the least value allowed. -/
  | tooSmall
deriving DecidableEq, Repr

def SettingFlaw.message : SettingFlaw → String
  | .noNumber => "not a number"
  | .noInteger => "not a whole number"
  | .hugeInteger => "a whole number of too many digits"
  | .noTruthValue => "neither true nor false"
  | .notPositive => "not above zero"
  | .tooSmall => "too small"

/-- A flaw and the name of the setting it is in. -/
structure SettingFlaw.At where
  name : String
  flaw : SettingFlaw
deriving DecidableEq, Repr

/-- A name, the value when none is set, and how a value is read. -/
structure Setting (α : Type) where
  name : String
  default : α
  read : String → Except SettingFlaw α

namespace Setting

/-- What stands in front of the name of every setting in the environment. -/
def family : String := "kube_balance_"

def get {α : Type} (s : Setting α) (env : Environment) : Checked SettingFlaw.At α :=
  match env.get? (family ++ s.name) with
  | none => .ok s.default
  | some value =>
    match s.read value with
    | .ok a => .ok a
    | .error flaw => .error [⟨s.name, flaw⟩]

def integer (value : String) : Except SettingFlaw Int :=
  match Literal.int value with
  | .ok i => .ok i
  | .error .malformed => .error .noInteger
  | .error .tooLong => .error .hugeInteger

def truth (value : String) : Except SettingFlaw Bool :=
  match Literal.bool? value with
  | some b => .ok b
  | none => .error .noTruthValue

/-- A number of seconds above zero, possibly infinite. -/
abbrev Seconds := { x : Binary64 // x.isPositive = true }

def seconds (value : String) : Except SettingFlaw Seconds :=
  match Literal.float? value with
  | none => .error .noNumber
  | some x => if h : x.isPositive = true then .ok ⟨x, h⟩ else .error .notPositive

def wholeSeconds (n : Nat) (h : (Binary64.ofInt n).isPositive = true) : Seconds :=
  ⟨Binary64.ofInt n, h⟩

def positive (value : String) : Except SettingFlaw { i : Int // 0 < i } :=
  match integer value with
  | .error flaw => .error flaw
  | .ok i => if h : 0 < i then .ok ⟨i, h⟩ else .error .notPositive

def atLeast (least : Int) (value : String) : Except SettingFlaw { i : Int // least ≤ i } :=
  match integer value with
  | .error flaw => .error flaw
  | .ok i => if h : least ≤ i then .ok ⟨i, h⟩ else .error .tooSmall

def text (name default : String) : Setting String := ⟨name, default, .ok⟩

def optionalText (name : String) : Setting (Option String) := ⟨name, none, fun t => .ok (some t)⟩

/-! ## The settings there are -/

def recheck : Setting Seconds :=
  ⟨"recheck_interval_seconds", wholeSeconds 120 (by decide +kernel), seconds⟩

def nodeCap : Setting { i : Int // 1 ≤ i } :=
  ⟨"max_evictions_per_node_per_cycle", ⟨1, by decide⟩, atLeast 1⟩

def single : Setting Bool := ⟨"single_eviction_per_cycle", true, truth⟩

def evictUnprofiled : Setting Bool := ⟨"evict_unprofiled", false, truth⟩

def afterEviction : Setting Seconds :=
  ⟨"post_eviction_requeue_seconds", wholeSeconds 5 (by decide +kernel), seconds⟩

def afterRateLimit : Setting Seconds :=
  ⟨"rate_limited_requeue_seconds", wholeSeconds 10 (by decide +kernel), seconds⟩

def gracePeriod : Setting { i : Int // 0 ≤ i } :=
  ⟨"eviction_grace_period_seconds", ⟨30, by decide⟩, atLeast 0⟩

def degradedMark : Setting String :=
  text "degraded_annotation" degradedMarkName

def workloadLabel : Setting String := text "workload_type_label" workloadLabelName

def cooldownMark : Setting String :=
  text "cooldown_annotation" cooldownMarkName

def credentialsFile : Setting (Option String) := optionalText "kubeconfig"

def credentialsContext : Setting (Option String) := optionalText "kube_context"

def callTimeout : Setting { i : Int // 0 < i } :=
  ⟨"api_timeout_seconds", ⟨30, by decide⟩, positive⟩

def streamTimeout : Setting { i : Int // 0 < i } :=
  ⟨"watch_timeout_seconds", ⟨300, by decide⟩, positive⟩

def eventSource : Setting String := text "event_source" "kube-balance-controller"

def logLevel : Setting String := text "log_level" "INFO"

def names : List String :=
  [recheck.name, nodeCap.name, single.name, evictUnprofiled.name, afterEviction.name,
    afterRateLimit.name, gracePeriod.name, degradedMark.name, workloadLabel.name,
    cooldownMark.name, credentialsFile.name, credentialsContext.name, callTimeout.name,
    streamTimeout.name, eventSource.name, logLevel.name]

end Setting

structure Settings where
  recheck : Setting.Seconds
  nodeCap : { i : Int // 1 ≤ i }
  single : Bool
  evictUnprofiled : Bool
  afterEviction : Setting.Seconds
  afterRateLimit : Setting.Seconds
  gracePeriod : { i : Int // 0 ≤ i }
  degradedMark : String
  workloadLabel : String
  cooldownMark : String
  /-- The file and the context that give access to the API. -/
  credentialsFile : Option String
  credentialsContext : Option String
  /-- Seconds that a request to the API may take. -/
  callTimeout : { i : Int // 0 < i }
  /-- Seconds that a stream of changes stays open. -/
  streamTimeout : { i : Int // 0 < i }
  eventSource : String
  logLevel : String

namespace Settings

open Checked (both)

def read (env : Environment) : Checked SettingFlaw.At Settings :=
  let policy :=
    both (Setting.recheck.get env) <| both (Setting.nodeCap.get env) <|
    both (Setting.single.get env) (Setting.evictUnprofiled.get env)
  let delays :=
    both (Setting.afterEviction.get env) <| both (Setting.afterRateLimit.get env)
      (Setting.gracePeriod.get env)
  let marks :=
    both (Setting.degradedMark.get env) <| both (Setting.workloadLabel.get env)
      (Setting.cooldownMark.get env)
  let access :=
    both (Setting.credentialsFile.get env) <| both (Setting.credentialsContext.get env) <|
    both (Setting.callTimeout.get env) (Setting.streamTimeout.get env)
  let reporting := both (Setting.eventSource.get env) (Setting.logLevel.get env)
  (both policy (both delays (both marks (both access reporting)))).map
    fun ((recheck, nodeCap, single, evictUnprofiled), (afterEviction, afterRateLimit, gracePeriod),
        (degradedMark, workloadLabel, cooldownMark),
        (credentialsFile, credentialsContext, callTimeout, streamTimeout), eventSource, logLevel) =>
      { recheck, nodeCap, single, evictUnprofiled, afterEviction, afterRateLimit, gracePeriod,
        degradedMark, workloadLabel, cooldownMark, credentialsFile, credentialsContext,
        callTimeout, streamTimeout, eventSource, logLevel }

/-- Seconds as a duration; too many of them are out of range. -/
def duration (x : Setting.Seconds) : Except Fault Duration :=
  Fault.orOutOfRange (Duration.ofSeconds? x.val)

def draft (s : Settings) : Except Fault ConfigDraft := do
  let recheckInterval ← duration s.recheck
  let afterEviction ← duration s.afterEviction
  let afterRateLimit ← duration s.afterRateLimit
  return {
    recheckInterval, nodeCap := .int s.nodeCap, single := .bool s.single
    evictUnprofiled := .bool s.evictUnprofiled, afterEviction, afterRateLimit
    gracePeriod := .int s.gracePeriod, degradedMark := s.degradedMark
    workloadLabel := s.workloadLabel, cooldownMark := s.cooldownMark }

/-- The configuration that the settings describe. A recheck interval of less than half a microsecond
comes to nothing and is refused. -/
def config (s : Settings) : Except Fault Config := do
  match (← s.draft).check with
  | .ok c => return c
  | .error flaw => .error flaw.fault

end Settings

end NodeRelief
