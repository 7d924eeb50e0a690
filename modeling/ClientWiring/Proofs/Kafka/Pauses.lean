import ClientWiring.Proofs.Double
import ClientWiring.Proofs.Kafka.RetryChain

/-!
# How long a pause can be

A pause that grows is computed in floating point, and what comes out can be anything: no number, infinite, or
far too large.  Only then is it rounded down to milliseconds and compared with the longest pause, so the
bounds hold whatever came out (pauseOf_grownTo):

    delay      factor          longest pause       pause
    none, 0                                        0
    d          none, not > 0                       d
    d          > 0             m > d               ≤ m
    d          > 0             none, m ≤ d         ≤ 30 s

Every retry topic of a chain has the pause of some attempt                   (pauses_keep_longest).
-/

namespace ClientWiring

/-- The pauses grow: there is a factor, and it is above zero. -/
def BackOffSettings.Grows (b : BackOffSettings) : Prop :=
  ∃ m, b.multiplier = some m ∧ m.IsPositive

/-- A longest pause is set and is longer than the first one. -/
def BackOffSettings.CappedAt (b : BackOffSettings) (max : UInt64) : Prop :=
  b.maxDelayMs = some max ∧ b.delayMs.getD 0 < max

/-- The longest pause: the one that is set if it is longer than the first one, or else 30 seconds. -/
def BackOffSettings.Longest (b : BackOffSettings) (longest : Duration) : Prop :=
  (∃ max, b.CappedAt max ∧ longest = .ofMillis max.toNat) ∨
    (∀ max, ¬ b.CappedAt max) ∧ longest = .ofSeconds 30

namespace Kafka

/-! ## Growth by any amount -/

/-- The pause when it would grow to so many milliseconds, if it grows at all. -/
def Sleep.grownTo (s : Sleep) (millis : Float) : Duration :=
  if s.grows then (Duration.ofMillis millis.toUInt64.toNat).min (s.upperEnd.getD longest)
  else s.delay

/-- The pause when it would grow to so many milliseconds, if there is one and it grows. -/
def BackOff.grownTo : BackOff → Float → Duration
  | none, _ => .zero
  | sleeping s, millis => s.grownTo millis

/-- What the pause of an attempt would grow to. -/
def BackOff.growth : BackOff → UInt32 → Float
  | none, _ => 0.0
  | sleeping s, attempt => s.grown attempt

theorem BackOff.interval_eq_grownTo (b : BackOff) (attempt : UInt32) :
    b.interval attempt = b.grownTo (b.growth attempt) := by
  cases b with
  | none => rfl
  | sleeping s => rfl

/-- The pauses that settings with a delay describe. -/
def Sleep.ofSettings (b : BackOffSettings) : Sleep :=
  { delay := .ofMillis (b.delayMs.getD 0).toNat
    maxDelay := b.maxDelayMs.map fun n => .ofMillis n.toNat
    multiplier := b.multiplier
    random := b.random }

theorem BackOff.ofSettings_of_delay {b : BackOffSettings} (h : 0 < b.delayMs.getD 0) :
    BackOff.ofSettings b = .sleeping (.ofSettings b) := if_pos h

theorem BackOff.ofSettings_of_no_delay {b : BackOffSettings} (h : b.delayMs.getD 0 = 0) :
    BackOff.ofSettings b = .none := by
  unfold BackOff.ofSettings
  rw [h]
  rfl

/-! ## What settings say -/

theorem Sleep.grows_iff (s : Sleep) :
    s.grows = true ↔ ∃ m, s.multiplier = some m ∧ m.IsPositive := by
  unfold grows
  cases s.multiplier with
  | none => simp
  | some m => simp [Double.zero_lt_toFloat_iff]

theorem Sleep.grows_ofSettings_iff (b : BackOffSettings) :
    (Sleep.ofSettings b).grows = true ↔ b.Grows := (Sleep.ofSettings b).grows_iff

/-- The pauses grow in the two exponential kinds. -/
theorem Sleep.grows_iff_kind (s : Sleep) :
    s.grows = true ↔ s.kind = .exponential ∨ s.kind = .exponentialRandom := by
  unfold kind
  cases s.grows with
  | true => cases s.random.getD false <;> simp
  | false => cases s.upperEnd.isSome <;> simp

theorem ofMillis_lt_iff (m n : UInt64) :
    Duration.ofMillis m.toNat < Duration.ofMillis n.toNat ↔ m < n := by
  rw [UInt64.lt_iff_toNat_lt]
  show m.toNat * 1000000 < n.toNat * 1000000 ↔ _
  omega

theorem Sleep.upperEnd_of_cappedAt {b : BackOffSettings} {max : UInt64} (h : b.CappedAt max) :
    (Sleep.ofSettings b).upperEnd = some (.ofMillis max.toNat) := by
  obtain ⟨hset, hlt⟩ := h
  unfold upperEnd ofSettings
  rw [hset, Option.map_some]
  exact Option.filter_some_pos (by simpa [ofMillis_lt_iff] using hlt)

theorem Sleep.upperEnd_of_not_cappedAt {b : BackOffSettings} (h : ∀ max, ¬ b.CappedAt max) :
    (Sleep.ofSettings b).upperEnd = none := by
  unfold upperEnd ofSettings
  cases hset : b.maxDelayMs with
  | none => rfl
  | some max =>
    have hlt : ¬ b.delayMs.getD 0 < max := fun hlt => h max ⟨hset, hlt⟩
    exact Option.filter_some_neg (by simpa [ofMillis_lt_iff] using hlt)

theorem Sleep.upperEnd_of_longest {b : BackOffSettings} {longest : Duration}
    (h : b.Longest longest) : (Sleep.ofSettings b).upperEnd.getD Sleep.longest = longest := by
  rcases h with ⟨max, hcapped, rfl⟩ | ⟨huncapped, rfl⟩
  · rw [upperEnd_of_cappedAt hcapped]
    rfl
  · rw [upperEnd_of_not_cappedAt huncapped]
    rfl

/-! ## The shorter of two -/

theorem min_eq_or_eq (a b : Duration) : a.min b = a ∨ a.min b = b := by
  rcases Nat.le_total a.nanos b.nanos with hle | hle
  · exact .inl (congrArg Duration.mk (Nat.min_eq_left hle))
  · exact .inr (congrArg Duration.mk (Nat.min_eq_right hle))

theorem min_le_right (a b : Duration) : a.min b ≤ b := Nat.min_le_right a.nanos b.nanos

/-- A longest pause is a number of milliseconds as any other. -/
theorem exists_millis_of_longest {b : BackOffSettings} {longest : Duration}
    (h : b.Longest longest) : ∃ n : UInt64, longest = .ofMillis n.toNat := by
  rcases h with ⟨max, -, rfl⟩ | ⟨-, rfl⟩
  · exact ⟨max, rfl⟩
  · exact ⟨30000, rfl⟩

theorem exists_longest (b : BackOffSettings) : ∃ longest, b.Longest longest := by
  by_cases h : ∃ max, b.CappedAt max
  · obtain ⟨max, hcapped⟩ := h
    exact ⟨_, .inl ⟨max, hcapped, rfl⟩⟩
  · exact ⟨_, .inr ⟨fun max hcapped => h ⟨max, hcapped⟩, rfl⟩⟩

/-! ## The bounds -/

/-- What settings promise of a pause that would grow to so many milliseconds. -/
structure PauseOf (b : BackOffSettings) (millis : Float) (pause : Duration) : Prop where
  /-- It is a number of milliseconds that 64 bits hold. -/
  fits : ∃ n : UInt64, pause = .ofMillis n.toNat
  /-- There is none without a delay. -/
  absent : b.delayMs = none ∨ b.delayMs = some 0 → pause = .zero
  /-- It stays at the delay unless it grows. -/
  steady : ∀ delay, b.delayMs = some delay → ¬ b.Grows → pause = .ofMillis delay.toNat
  /-- Otherwise it grows as far as the longest pause allows. -/
  grown : ∀ delay longest, b.delayMs = some delay → 0 < delay → b.Grows → b.Longest longest →
    pause = (Duration.ofMillis millis.toUInt64.toNat).min longest
  /-- It is never longer than a longest pause that counts. -/
  capped : ∀ max, b.CappedAt max → pause ≤ .ofMillis max.toNat
  /-- Where none counts, growth ends at half a minute. -/
  bounded : b.Grows → (∀ max, ¬ b.CappedAt max) → pause ≤ .ofSeconds 30

/-- A pause that grows is the shorter of what it has grown to and the longest one. -/
theorem grownTo_of_grows {b : BackOffSettings} {longest : Duration} (hdelay : 0 < b.delayMs.getD 0)
    (hgrows : b.Grows) (hlongest : b.Longest longest) (millis : Float) :
    (BackOff.ofSettings b).grownTo millis =
      (Duration.ofMillis millis.toUInt64.toNat).min longest := by
  rw [BackOff.ofSettings_of_delay hdelay]
  show (Sleep.ofSettings b).grownTo millis = _
  rw [Sleep.grownTo, if_pos ((Sleep.grows_ofSettings_iff b).mpr hgrows),
    Sleep.upperEnd_of_longest hlongest]

/-- Any other pause is the delay, or none. -/
theorem grownTo_of_not_grows {b : BackOffSettings} (hgrows : ¬ b.Grows) (millis : Float) :
    (BackOff.ofSettings b).grownTo millis = .ofMillis (b.delayMs.getD 0).toNat := by
  by_cases hdelay : 0 < b.delayMs.getD 0
  · rw [BackOff.ofSettings_of_delay hdelay]
    show (Sleep.ofSettings b).grownTo millis = _
    rw [Sleep.grownTo, if_neg (by rwa [Sleep.grows_ofSettings_iff])]
    rfl
  · have hzero : b.delayMs.getD 0 = 0 := by simpa using hdelay
    rw [BackOff.ofSettings_of_no_delay hzero, hzero]
    rfl

theorem grownTo_of_no_delay {b : BackOffSettings} (h : b.delayMs.getD 0 = 0) (millis : Float) :
    (BackOff.ofSettings b).grownTo millis = .zero := by
  rw [BackOff.ofSettings_of_no_delay h]
  rfl

theorem grownTo_le_longest {b : BackOffSettings} {longest : Duration} (hgrows : b.Grows)
    (hlongest : b.Longest longest) (millis : Float) :
    (BackOff.ofSettings b).grownTo millis ≤ longest := by
  by_cases hdelay : 0 < b.delayMs.getD 0
  · rw [grownTo_of_grows hdelay hgrows hlongest]
    exact min_le_right _ _
  · rw [grownTo_of_no_delay (by simpa using hdelay)]
    exact Nat.zero_le _

theorem exists_millis_grownTo (b : BackOffSettings) (millis : Float) :
    ∃ n : UInt64, (BackOff.ofSettings b).grownTo millis = .ofMillis n.toNat := by
  by_cases hgrows : b.Grows
  · by_cases hdelay : 0 < b.delayMs.getD 0
    · obtain ⟨longest, hlongest⟩ := exists_longest b
      obtain ⟨n, hn⟩ := exists_millis_of_longest hlongest
      rw [grownTo_of_grows hdelay hgrows hlongest]
      rcases min_eq_or_eq (.ofMillis millis.toUInt64.toNat) longest with heq | heq
      · exact ⟨millis.toUInt64, heq⟩
      · exact ⟨n, heq.trans hn⟩
    · exact ⟨0, grownTo_of_no_delay (by simpa using hdelay) millis⟩
  · exact ⟨b.delayMs.getD 0, grownTo_of_not_grows hgrows millis⟩

/-- The bounds hold whatever number floating-point arithmetic comes to. -/
theorem pauseOf_grownTo (b : BackOffSettings) (millis : Float) :
    PauseOf b millis ((BackOff.ofSettings b).grownTo millis) where
  fits := exists_millis_grownTo b millis
  absent := by
    rintro (hnone | hzero)
    · exact grownTo_of_no_delay (by rw [hnone]; rfl) millis
    · exact grownTo_of_no_delay (by rw [hzero]; rfl) millis
  steady := by
    intro delay hset hgrows
    rw [grownTo_of_not_grows hgrows, hset]
    rfl
  grown := by
    intro delay longest hset hpos hgrows hlongest
    exact grownTo_of_grows (by rw [hset]; exact hpos) hgrows hlongest millis
  capped := by
    intro max hcapped
    by_cases hgrows : b.Grows
    · exact grownTo_le_longest hgrows (.inl ⟨max, hcapped, rfl⟩) millis
    · rw [grownTo_of_not_grows hgrows]
      exact Nat.le_of_lt ((ofMillis_lt_iff _ _).mpr hcapped.2)
  bounded := by
    intro hgrows huncapped
    exact grownTo_le_longest hgrows (.inr ⟨huncapped, rfl⟩) millis

/-! ## The pauses of a chain -/

/-- A retry topic has the pause of one of the attempts. -/
theorem exists_attempt_of_mem {r : RetryTopics} {mainTopic : String} {t : Destination}
    (ht : t ∈ r.destinations mainTopic) (hretry : t.kind = .retry) :
    ∃ attempt, t.delay = r.backOff.interval attempt := by
  have hretries : t ∈ r.retries mainTopic := by
    rw [RetryTopics.destinations_eq, List.mem_append, List.mem_singleton] at ht
    rcases ht with ht | rfl
    · exact ht
    · cases hretry
  have hdelay : t.delay ∈ r.retryDelays := by
    rw [← RetryTopics.delay_retries r mainTopic]
    exact List.mem_map_of_mem hretries
  have hdelays : t.delay ∈ r.delays := by
    unfold RetryTopics.retryDelays at hdelay
    split at hdelay
    · exact (RetryTopics.sharedEnd_isPrefix r.delays).subset hdelay
    · exact hdelay
  obtain ⟨i, -, hi⟩ := List.mem_map.mp hdelays
  exact ⟨UInt32.ofNat i, hi.symm⟩

/-- A pause keeps within the bounds of the settings, whatever it would grow to; so do the pauses of all
attempts, and with them those of the retry topics of any chain. -/
theorem pauses_keep_longest (b : BackOffSettings) :
    (∀ millis, PauseOf b millis ((BackOff.ofSettings b).grownTo millis)) ∧
    (∀ attempt, PauseOf b ((BackOff.ofSettings b).growth attempt)
      ((BackOff.ofSettings b).interval attempt)) ∧
    (∀ s, BackOff.ofSettings b = .sleeping s →
      (b.Grows ↔ s.kind = .exponential ∨ s.kind = .exponentialRandom)) ∧
    ∀ r : RetryTopics, r.backOff = .ofSettings b →
      ∀ mainTopic, ∀ t ∈ r.destinations mainTopic, t.kind = .retry →
        ∃ attempt, t.delay = (BackOff.ofSettings b).interval attempt ∧
          PauseOf b ((BackOff.ofSettings b).growth attempt) t.delay := by
  have hinterval : ∀ attempt, PauseOf b ((BackOff.ofSettings b).growth attempt)
      ((BackOff.ofSettings b).interval attempt) := by
    intro attempt
    rw [BackOff.interval_eq_grownTo]
    exact pauseOf_grownTo b _
  refine ⟨pauseOf_grownTo b, hinterval, ?_, ?_⟩
  · intro s hs
    by_cases hdelay : 0 < b.delayMs.getD 0
    · rw [BackOff.ofSettings_of_delay hdelay] at hs
      cases hs
      rw [← Sleep.grows_iff_kind, Sleep.grows_ofSettings_iff]
    · rw [BackOff.ofSettings_of_no_delay (by simpa using hdelay)] at hs
      cases hs
  · intro r hr mainTopic t ht hretry
    obtain ⟨attempt, hattempt⟩ := exists_attempt_of_mem ht hretry
    rw [hr] at hattempt
    refine ⟨attempt, hattempt, ?_⟩
    rw [hattempt]
    exact hinterval attempt

/-- The last attempt of all has the exponent -1, so its pause is half the delay. -/
example :
    let doubling : BackOffSettings := ⟨some 100, some 1000, some (.ofFloat 2.0), none⟩
    (BackOff.ofSettings doubling).interval 0xFFFFFFFF = .ofMillis 50 := by
  decide +kernel

end Kafka

end ClientWiring
