import ClientWiring.Settings.Kafka

/-!
# Pauses between attempts

A pause is fixed, or grows by a factor from attempt to attempt up to a longest pause.  The growth is
computed in floating point and only then rounded down to milliseconds; whatever the product is, even
infinite or no number, the pause is at most the longest one.
-/

namespace ClientWiring.Kafka

/-- A pause with what is set beside its length. -/
structure Sleep where
  delay : Duration
  maxDelay : Option Duration
  multiplier : Option Double
  random : Option Bool
deriving DecidableEq

/-- How pauses follow one another. -/
inductive SleepKind where
  | fixed
  | uniformRandom
  | exponential
  | exponentialRandom
deriving DecidableEq, Repr

/-- The name of a kind. -/
def SleepKind.name : SleepKind → String
  | fixed => "Fixed"
  | uniformRandom => "UniformRandom"
  | exponential => "Exponential"
  | exponentialRandom => "ExponentialRandom"

namespace Sleep

/-- The longest pause when none is set. -/
def longest : Duration := .ofSeconds 30

/-- A fixed pause. -/
def ofDelay (delay : Duration) : Sleep := ⟨delay, none, none, none⟩

/-- Whether the pauses grow: the factor is there and positive. -/
def grows (s : Sleep) : Bool :=
  match s.multiplier with
  | none => false
  | some m => 0.0 < m.toFloat

/-- The longest pause that is set, if it is above the first one. -/
def upperEnd (s : Sleep) : Option Duration := s.maxDelay.filter fun longest => s.delay < longest

/-- How the pauses follow one another. -/
def kind (s : Sleep) : SleepKind :=
  if s.grows then
    if s.random.getD false then .exponentialRandom else .exponential
  else if s.upperEnd.isSome then .uniformRandom
  else .fixed

/-- Squares `base` once for each binary digit of the exponent and multiplies up those that stand at
a one.  The result is the product with `acc`. -/
def powerLoop (base acc : Float) (exponent : Nat) : Float :=
  let acc := if exponent % 2 = 1 then acc * base else acc
  if h : exponent / 2 = 0 then acc
  else powerLoop (base * base) acc (exponent / 2)
termination_by exponent
decreasing_by omega

/-- A power with an integer exponent. -/
def power (base : Float) (exponent : Int) : Float :=
  let magnitude := powerLoop base 1.0 exponent.natAbs
  if exponent < 0 then 1.0 / magnitude else magnitude

/-- The exponent of an attempt: attempts from the middle of the range on count as negative. -/
def exponentOf (attempt : UInt32) : Int := attempt.toInt32.toInt

/-- The growing pause of an attempt, in floating point. -/
def grown (s : Sleep) (attempt : UInt32) : Float :=
  let factor := (s.multiplier.map Double.toFloat).getD 1.0
  Float.ofNat s.delay.toMillis * power factor (exponentOf attempt)

/-- The pause before an attempt, counted from zero. -/
def interval (s : Sleep) (attempt : UInt32) : Duration :=
  if s.grows then
    (Duration.ofMillis (s.grown attempt).toUInt64.toNat).min (s.upperEnd.getD longest)
  else s.delay

end Sleep

/-- Whether to pause at all. -/
inductive BackOff where
  | none
  | sleeping (sleep : Sleep)
deriving DecidableEq

namespace BackOff

/-- The pauses that settings describe; none if no delay is set or it is zero. -/
def ofSettings (s : BackOffSettings) : BackOff :=
  let delay := s.delayMs.getD 0
  if 0 < delay then
    .sleeping
      { delay := .ofMillis delay.toNat
        maxDelay := s.maxDelayMs.map fun n => .ofMillis n.toNat
        multiplier := s.multiplier
        random := s.random }
  else .none

/-- The pause before an attempt, counted from zero. -/
def interval : BackOff → UInt32 → Duration
  | none, _ => .zero
  | sleeping s, attempt => s.interval attempt

end BackOff

/-! ## Texts for people -/

open Inspect

instance : Inspect Sleep := ⟨fun s => record "SleepingBackOff"
  [field "delay" (inspect s.delay), field "max_delay" (inspect s.maxDelay),
   field "multiplier" (inspect s.multiplier), field "random" (inspect s.random)]⟩

instance : Inspect BackOff := ⟨fun
  | .none => "NoBackOff"
  | .sleeping s => wrapped "Sleeping" (inspect s)⟩

end ClientWiring.Kafka
