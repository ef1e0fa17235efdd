import NodeRelief.Proofs.Fault
import NodeRelief.Proofs.Time.Seconds
import NodeRelief.Settings

/-! # From settings to a configuration

Which settings that were read make a configuration, and what it takes over from them. The settings ask
of a number of seconds that it is above zero; the configuration asks that the duration it becomes is
within its range, and above zero once it is in whole microseconds. -/

namespace NodeRelief

/-! ## What is read -/

namespace Literal

open Numeral

theorem standard_of_special? {negative : Bool} {word : String} {x : Binary64}
    (named : special? negative word = some x) : x.Standard := by
  rw [special?] at named
  split_ifs at named <;> cases named <;> trivial

theorem standard_of_plainFloat? {s : List Char} {x : Binary64} (read : plainFloat? s = some x) :
    x.Standard := by
  rw [plainFloat?] at read
  dsimp only at read
  split at read
  · next named =>
    cases read
    exact standard_of_special? named
  · obtain ⟨⟨digits, scale⟩, -, rfl⟩ := Option.map_eq_some_iff.mp read
    exact Binary64.standard_ofDecimal _ digits scale

theorem standard_of_float? {text : String} {x : Binary64} (read : float? text = some x) :
    x.Standard := by
  rcases (Option.orElse_eq_some ..).mp read with plain | ⟨-, joined⟩
  · exact standard_of_plainFloat? plain
  · obtain ⟨s, -, plain⟩ := Option.bind_eq_some_iff.mp joined
    exact standard_of_plainFloat? plain

end Literal

namespace Setting

variable {α : Type} {env : Environment}

theorem get_eq_ok {s : Setting α} {a : α} (told : s.get env = .ok a) :
    a = s.default ∨ ∃ value, s.read value = .ok a := by
  rw [get] at told
  split at told
  · cases told
    exact .inl rfl
  · next value _ =>
    split at told
    · next read =>
      cases told
      exact .inr ⟨value, read⟩
    · cases told

theorem standard_of_seconds {value : String} {x : Seconds} (read : seconds value = .ok x) :
    x.val.Standard := by
  rw [seconds] at read
  split at read
  · cases read
  · next number =>
    split at read
    · cases read
      exact Literal.standard_of_float? number
    · cases read

theorem standard_of_get {name : String} {n : ℕ} {h : (Binary64.ofInt n).isPositive = true}
    {x : Seconds} (told : Setting.get ⟨name, wholeSeconds n h, seconds⟩ env = .ok x) :
    x.val.Standard := by
  rcases get_eq_ok told with rfl | ⟨value, read⟩
  · exact Binary64.standard_ofRatio _ Nat.one_pos
  · dsimp only at read
    exact standard_of_seconds read

end Setting

theorem Checked.map_eq_ok_iff {ε α β : Type} {x : Checked ε α} {f : α → β} {b : β} :
    x.map f = .ok b ↔ ∃ a, x = .ok a ∧ f a = b := by
  cases x <;> simp [Except.map]

namespace Settings

/-- The numbers of seconds that a configuration takes over. -/
def delays (s : Settings) : List Setting.Seconds := [s.recheck, s.afterEviction, s.afterRateLimit]

theorem standard_of_read {env : Environment} {s : Settings} (accepted : read env = .ok s) :
    ∀ x ∈ s.delays, x.val.Standard := by
  obtain ⟨⟨⟨recheck, policy⟩, ⟨afterEviction, afterRateLimit, grace⟩, others⟩, told, rfl⟩ :=
    Checked.map_eq_ok_iff.mp accepted
  simp only [Checked.both_eq_ok_iff] at told
  obtain ⟨⟨recheckTold, -⟩, ⟨evictionTold, rateLimitTold, -⟩, -⟩ := told
  simp only [delays, List.mem_cons, List.not_mem_nil, or_false]
  rintro x (rfl | rfl | rfl)
  · exact Setting.standard_of_get recheckTold
  · exact Setting.standard_of_get evictionTold
  · exact Setting.standard_of_get rateLimitTold

end Settings

/-! ## What becomes of a number of seconds -/

namespace Setting.Seconds

/-- Fewer than `10 ^ 9` days. -/
def Fits (x : Setting.Seconds) : Prop := x.val.isFinite = true ∧ x.val.value < 86400000000000

/-- More than half of a microsecond, by more than the binary format loses. -/
def Lasts (x : Setting.Seconds) : Prop := 1 / 2 + 1 / 2 ^ 54 < x.val.value * 10 ^ 6

instance (x : Setting.Seconds) : Decidable x.Fits := inferInstanceAs (Decidable (_ ∧ _))

instance (x : Setting.Seconds) : Decidable x.Lasts := inferInstanceAs (Decidable (_ < _))

/-- A duration that is a number of seconds to the microsecond. -/
structure Becomes (x : Setting.Seconds) (d : Duration) : Prop where
  nonneg : 0 ≤ d.micros
  near : |d.micros - x.val.value * 10 ^ 6| ≤ 1 / 2 + 1 / 2 ^ 34
  pos_iff : 0 < d.micros ↔ x.Lasts

end Setting.Seconds

namespace Settings

section

variable {x : Setting.Seconds}

theorem becomes_of_duration {d : Duration} (told : duration x = .ok d) : x.Becomes d := by
  have taken : Duration.ofSeconds? x.val = some d := Fault.orOutOfRange_eq_ok_iff.mp told
  obtain ⟨nonneg, near, positive⟩ := Duration.ofSeconds?_spec x.property taken
  exact ⟨nonneg, near, positive⟩

theorem exists_duration_iff (standard : x.val.Standard) : (∃ d, duration x = .ok d) ↔ x.Fits := by
  simp only [duration, Fault.orOutOfRange_eq_ok_iff]
  exact Duration.exists_ofSeconds?_iff standard x.property

theorem duration_eq_error {f : Fault} (told : duration x = .error f) : f = Fault.beyondCalendar :=
  (Fault.orOutOfRange_eq_error_iff.mp told).2

end

/-! ## The draft -/

/-- The draft takes the numbers of seconds over to the microsecond and all else as it is. -/
structure Describes (s : Settings) (d : ConfigDraft) : Prop where
  recheck : s.recheck.Becomes d.recheckInterval
  afterEviction : s.afterEviction.Becomes d.afterEviction
  afterRateLimit : s.afterRateLimit.Becomes d.afterRateLimit
  nodeCap : d.nodeCap = .int s.nodeCap
  single : d.single = .bool s.single
  evictUnprofiled : d.evictUnprofiled = .bool s.evictUnprofiled
  gracePeriod : d.gracePeriod = .int s.gracePeriod
  degradedMark : d.degradedMark = s.degradedMark
  workloadLabel : d.workloadLabel = s.workloadLabel
  cooldownMark : d.cooldownMark = s.cooldownMark

def Fits (s : Settings) : Prop := ∀ x ∈ s.delays, x.Fits

instance (s : Settings) : Decidable s.Fits := inferInstanceAs (Decidable (∀ x ∈ s.delays, x.Fits))

section

variable {s : Settings} {d : ConfigDraft}

theorem describes_of_draft (drafted : s.draft = .ok d) : s.Describes d := by
  simp only [draft, Fault.bind_eq_ok_iff, Fault.pure_eq_ok_iff] at drafted
  obtain ⟨recheckInterval, recheck, afterEviction, eviction, afterRateLimit, rateLimit, rfl⟩ := drafted
  exact {
    recheck := becomes_of_duration recheck
    afterEviction := becomes_of_duration eviction
    afterRateLimit := becomes_of_duration rateLimit
    nodeCap := rfl, single := rfl, evictUnprofiled := rfl, gracePeriod := rfl
    degradedMark := rfl, workloadLabel := rfl, cooldownMark := rfl }

theorem exists_draft_iff (standard : ∀ x ∈ s.delays, x.val.Standard) :
    (∃ d, s.draft = .ok d) ↔ s.Fits := by
  have told : s.Fits ↔ ∀ x ∈ s.delays, ∃ d, duration x = .ok d :=
    forall₂_congr fun x hx => (exists_duration_iff (standard x hx)).symm
  rw [told]
  simp only [delays, List.forall_mem_cons, List.not_mem_nil, false_imp_iff, implies_true, and_true,
    draft, Fault.bind_eq_ok_iff, Fault.pure_eq_ok_iff]
  constructor
  · rintro ⟨d, recheckInterval, recheck, afterEviction, eviction, afterRateLimit, rateLimit, -⟩
    exact ⟨⟨_, recheck⟩, ⟨_, eviction⟩, ⟨_, rateLimit⟩⟩
  · rintro ⟨⟨_, recheck⟩, ⟨_, eviction⟩, ⟨_, rateLimit⟩⟩
    exact ⟨_, _, recheck, _, eviction, _, rateLimit, rfl⟩

theorem draft_eq_error {f : Fault} (told : s.draft = .error f) : f = Fault.beyondCalendar := by
  simp only [draft, Fault.bind_eq_error_iff, Fault.pure_ne_error, and_false, exists_false,
    or_false] at told
  rcases told with recheck | ⟨_, -, eviction | ⟨_, -, rateLimit⟩⟩
  · exact duration_eq_error recheck
  · exact duration_eq_error eviction
  · exact duration_eq_error rateLimit

end

end Settings

/-! ## The configuration -/

namespace ConfigDraft

variable {d : ConfigDraft}

/-- A draft that is accepted is the configuration itself. -/
theorem check_eq_ok_iff {c : Config} : d.check = .ok c ↔ c.toConfigDraft = d := by
  constructor
  · intro accepted
    rw [check] at accepted
    split_ifs at accepted
    cases accepted
    rfl
  · rintro rfl
    have number : c.nodeCap.asNumber?.isNone = false := by
      have := c.cap_isSome
      rw [cap?] at this
      cases h : c.nodeCap.asNumber? with
      | none => simp [h] at this
      | some n => rfl
    rw [check, if_neg (by simp [number]), dif_pos c.cap_isSome, dif_pos c.recheckInterval_pos]

end ConfigDraft

namespace Settings

variable {s : Settings} {d : ConfigDraft}

theorem Describes.cap_isSome (h : s.Describes d) : d.cap?.isSome = true := by
  have one := s.nodeCap.property
  rw [ConfigDraft.cap?, h.nodeCap]
  simp [Document.asNumber?, one]

theorem Describes.check (h : s.Describes d) :
    d.check = if hr : 0 < d.recheckInterval.micros then .ok ⟨d, h.cap_isSome, hr⟩
      else .error .noInterval := by
  rw [ConfigDraft.check, if_neg (by simp [h.nodeCap, Document.asNumber?]), dif_pos h.cap_isSome]

theorem config_of_draft (drafted : s.draft = .ok d) :
    s.config = if hr : 0 < d.recheckInterval.micros then
        .ok ⟨d, (describes_of_draft drafted).cap_isSome, hr⟩
      else .error ConfigFlaw.noInterval.fault := by
  rw [config, drafted, Fault.ok_bind, (describes_of_draft drafted).check]
  by_cases hr : 0 < d.recheckInterval.micros
  · rw [dif_pos hr, dif_pos hr]
    rfl
  · rw [dif_neg hr, dif_neg hr]

theorem draft_of_config {c : Config} (configured : s.config = .ok c) :
    s.draft = .ok c.toConfigDraft := by
  cases drafted : s.draft with
  | error f =>
      rw [config, drafted] at configured
      cases configured
  | ok d =>
      rw [config_of_draft drafted] at configured
      split at configured
      · cases configured
        rfl
      · cases configured

section

variable (standard : ∀ x ∈ s.delays, x.val.Standard)

include standard

theorem config_of_large (large : ¬ s.Fits) : s.config = .error Fault.beyondCalendar := by
  cases drafted : s.draft with
  | error f =>
      obtain rfl := draft_eq_error drafted
      rw [config, drafted]
      rfl
  | ok d => exact absurd ((exists_draft_iff standard).mp ⟨d, drafted⟩) large

theorem config_of_short (fits : s.Fits) (short : ¬ s.recheck.Lasts) :
    s.config = .error (.invalid "recheck_interval must be positive") := by
  obtain ⟨d, drafted⟩ := (exists_draft_iff standard).mpr fits
  have nothing := mt (describes_of_draft drafted).recheck.pos_iff.mp short
  exact (config_of_draft drafted).trans (dif_neg nothing)

theorem config_of_lasting (fits : s.Fits) (lasts : s.recheck.Lasts) : ∃ c, s.config = .ok c := by
  obtain ⟨d, drafted⟩ := (exists_draft_iff standard).mpr fits
  have positive := (describes_of_draft drafted).recheck.pos_iff.mpr lasts
  exact ⟨_, (config_of_draft drafted).trans (dif_pos positive)⟩

end

/-- Settings that are accepted make a configuration just if each of their delays has fewer than
`10 ^ 9` days and the recheck interval is more than half of a microsecond; else they fail for that
reason. The configuration passes its own check and has each delay as the number of seconds to the
microsecond, which is above zero just if that number is more than half of a microsecond. -/
theorem config_of_accepted {env : Environment} (accepted : read env = .ok s) :
    ((∃ c, s.config = .ok c) ↔ s.Fits ∧ s.recheck.Lasts) ∧
      (∀ c, s.config = .ok c → s.Describes c.toConfigDraft ∧ c.toConfigDraft.check = .ok c) ∧
      (¬ s.Fits → s.config = .error Fault.beyondCalendar) ∧
      (s.Fits → ¬ s.recheck.Lasts →
        s.config = .error (.invalid "recheck_interval must be positive")) := by
  have standard := standard_of_read accepted
  refine ⟨⟨?_, ?_⟩, ?_, config_of_large standard, config_of_short standard⟩
  · rintro ⟨c, configured⟩
    constructor
    · by_contra large
      rw [config_of_large standard large] at configured
      cases configured
    · have described := describes_of_draft (draft_of_config configured)
      exact described.recheck.pos_iff.mp c.recheckInterval_pos
  · rintro ⟨fits, lasts⟩
    exact config_of_lasting standard fits lasts
  · intro c configured
    exact ⟨describes_of_draft (draft_of_config configured), ConfigDraft.check_eq_ok_iff.mpr rfl⟩

namespace Sample

/-- A quarter of a second between cycles. -/
def quick : Environment := .ofParts "" [("KUBE_BALANCE_RECHECK_INTERVAL_SECONDS", "0.25")]

/-- A tenth of a microsecond between cycles. -/
def tiny : Environment := .ofParts "" [("KUBE_BALANCE_RECHECK_INTERVAL_SECONDS", "1e-7")]

end Sample

theorem config_of_accepted_sample : ∃ s c, read Sample.quick = .ok s ∧ s.config = .ok c ∧
    s.Describes c.toConfigDraft ∧ c.recheckInterval.micros = 250000 := by
  have given : (read Sample.quick).toOption.any
      (fun s => s.Fits ∧ s.recheck.Lasts ∧ s.recheck.val.value = 1 / 4) = true := by decide +kernel
  cases accepted : read Sample.quick with
  | error flaws =>
      rw [accepted] at given
      cases given
  | ok s =>
      rw [accepted] at given
      obtain ⟨fits, lasts, quarter⟩ := of_decide_eq_true given
      obtain ⟨configures, describes, -⟩ := config_of_accepted accepted
      obtain ⟨c, configured⟩ := configures.mpr ⟨fits, lasts⟩
      have described := (describes c configured).1
      have near := described.recheck.near
      rw [quarter, abs_le] at near
      have above : (249999 : ℚ) < c.recheckInterval.micros := by linarith
      have below : (c.recheckInterval.micros : ℚ) < 250001 := by linarith
      have above : 249999 < c.recheckInterval.micros := by exact_mod_cast above
      have below : c.recheckInterval.micros < 250001 := by exact_mod_cast below
      exact ⟨s, c, rfl, configured, described, by omega⟩

/-- A recheck interval of a tenth of a microsecond is accepted and makes no configuration. -/
theorem tiny_recheck_unconfigured : ∃ s, read Sample.tiny = .ok s ∧
    s.config = .error (.invalid "recheck_interval must be positive") := by
  have given : (read Sample.tiny).toOption.any (fun s => s.Fits ∧ ¬ s.recheck.Lasts) = true := by
    decide +kernel
  cases accepted : read Sample.tiny with
  | error flaws =>
      rw [accepted] at given
      cases given
  | ok s =>
      rw [accepted] at given
      obtain ⟨fits, short⟩ := of_decide_eq_true given
      exact ⟨s, rfl, config_of_short (standard_of_read accepted) fits short⟩

end Settings

end NodeRelief
