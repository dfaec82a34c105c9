/- The stream counter of `pkg/ssecounter/counter.go`: the key that every Acquire increments, the
script of a release and the rollback of an Acquire over the cap. -/

import OneVoice.Library.Counters
import OneVoice.Library.Run

namespace OneVoice.SseCounter

open Library

/-- Fifteen minutes. -/
def minKeyTTL : Nat := 15 * 60 * 1000

/-- The cap and the lifetime of a key in milliseconds, above its floor. -/
structure Limits where
  max : Int
  ttl : Nat
  floor : minKeyTTL ≤ ttl

def clamp (keyTTL : Nat) : Nat := if keyTTL < minKeyTTL then minKeyTTL else keyTTL

theorem minKeyTTL_le_clamp (keyTTL : Nat) : minKeyTTL ≤ clamp keyTTL := by
  unfold clamp
  split <;> omega

def newWithKeyTTL (maxActive : Int) (keyTTL : Nat) : Limits := ⟨maxActive, clamp keyTTL, minKeyTTL_le_clamp keyTTL⟩

/-- The client sends the lifetime of an `Expire` in whole seconds. -/
def Limits.keyTTL (limits : Limits) : Nat := limits.ttl / 1000 * 1000

/-- The release decrements a present key, not below zero, and stamps it. -/
def safeDecr (counter : Counter) (now ttl : Nat) : Counter :=
  match counter.get now with
  | none => counter
  | some count =>
    Counter.pexpire (some ⟨if count - 1 < 0 then 0 else count - 1, none⟩) now ttl

inductive SlotPhase where
  | granted
  | released
  | rollingBack
  | refused
deriving DecidableEq

/-- One Acquire that has reached the key, with its increment's instant. -/
structure Slot where
  phase : SlotPhase
  since : Nat
deriving DecidableEq

structure State where
  now : Nat
  counter : Counter
  slots : List Slot

def State.empty (now : Nat) : State := ⟨now, none, []⟩

def State.acquire (limits : Limits) (state : State) : State :=
  if limits.max ≤ 0 then state
  else
    let counter := (state.counter.incrBy state.now 1).pexpire state.now limits.keyTTL
    let phase := if limits.max < (state.counter.incrBy state.now 1).value state.now then
      SlotPhase.rollingBack else .granted
    { state with counter := counter, slots := state.slots ++ [⟨phase, state.now⟩] }

inductive Action where
  | acquire
  | rollback
  | release
  | pass (milliseconds : Nat)

/-- Script and transaction of Acquire are atomic; every command succeeds. -/
inductive Step (limits : Limits) : State → Action → State → Prop
  | acquire {state : State} : Step limits state .acquire (state.acquire limits)
  | rollback {now counter before since after} :
      Step limits ⟨now, counter, before ++ ⟨.rollingBack, since⟩ :: after⟩ .rollback
        ⟨now, counter.incrBy now (-1), before ++ ⟨.refused, since⟩ :: after⟩
  | release {now counter before since after} :
      Step limits ⟨now, counter, before ++ ⟨.granted, since⟩ :: after⟩ .release
        ⟨now, safeDecr counter now limits.ttl, before ++ ⟨.released, since⟩ :: after⟩
  | releaseAgain {state : State} {slot : Slot} :
      slot ∈ state.slots → slot.phase = .released → Step limits state .release state
  | pass {state : State} (milliseconds : Nat) :
      Step limits state (.pass milliseconds) { state with now := state.now + milliseconds }

def countOf (phase : SlotPhase) (slots : List Slot) : Nat := slots.countP fun slot => slot.phase = phase

end OneVoice.SseCounter
