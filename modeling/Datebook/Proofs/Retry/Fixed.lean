import Datebook.Proofs.Number.Double
import Datebook.Proofs.Retry

/-!
Pauses of a policy that does not grow.

The first pause of a fixed policy is the pause it was made with. All later ones go through a double
in whole milliseconds, so they are equal among each other, never longer, and shorter by any fraction
of a millisecond: `Duration.cut`. From 2⁵³ milliseconds on, a double has no room for the last
digits. Main statement: `RetryPolicy.fixed_cuts`. That all pauses are equal is not true:
`RetryPolicy.fixed_differs`.
-/

set_option autoImplicit false

namespace Datebook

namespace Duration

/-- A pause as a fixed policy makes it from its second retry on. -/
def cut (pause : Duration) : Duration :=
  min (ofMillis (.ofNatClamp (Double.nearest pause.millis))) pause

theorem nanos_cut (pause : Duration) :
    pause.cut.nanos =
      min (min (Double.nearest pause.millis) (0x1_0000_0000_0000_0000 - 1) * 1000000)
        pause.nanos := by
  rw [cut, nanos_min]
  show min ((UInt64.ofNatClamp (Double.nearest pause.millis)).toNat * 1000000) _ = _
  rw [Double.toNat_ofNatClamp]

theorem cut_eq_iff (pause : Duration) :
    pause.cut = pause ↔
      pause.nanos ≤
        min (Double.nearest pause.millis) (0x1_0000_0000_0000_0000 - 1) * 1000000 := by
  have nanos := pause.nanos_cut
  constructor
  · intro same
    rw [same] at nanos
    omega
  · intro long
    apply eq_of_nanos
    omega

/-- Whole milliseconds that fit the digits of a double stay, and nothing else. -/
theorem nanos_cut_of_lt {pause : Duration} (short : pause.millis < 0x20_0000_0000_0000) :
    pause.cut.nanos = pause.millis * 1000000 := by
  have least : pause.millis * 1000000 ≤ pause.nanos := by
    rw [millis]
    omega
  rw [nanos_cut, Double.nearest_of_lt short]
  omega

end Duration

namespace RetryPolicy

theorem powerSteps_one (steps exponent : Nat) : powerSteps steps 1.0 1.0 exponent = 1.0 := by
  have square : (1.0 : Float) * 1.0 = 1.0 := rfl
  induction steps generalizing exponent with
  | zero => rfl
  | succ steps ih =>
    rw [powerSteps, square, ite_self, ih, ite_self]

theorem power_one (exponent : Int) : power 1.0 exponent = 1.0 := by
  have reciprocal : (1.0 : Float) / 1.0 = 1.0 := by decide +kernel
  rw [power, powerSteps_one, reciprocal, ite_self]

theorem delay_fixed_zero (maxRetries : Nat) (pause : Duration) :
    (fixed maxRetries pause).delay 0 = pause := by
  rw [delay, if_pos rfl]
  apply Duration.eq_of_nanos
  rw [Duration.nanos_min]
  exact Nat.min_self _

/-- From the second retry on, the number of the retry makes no difference. -/
theorem delay_fixed {attempt : Nat} (later : 0 < attempt) (maxRetries : Nat) (pause : Duration) :
    (fixed maxRetries pause).delay attempt = pause.cut := by
  have bounded : pause.millis < 0x1_0000_0000_0000_0000 * 0x1_0000_0000_0000_0000 := by
    have := pause.secs_lt
    rw [Duration.millis]
    omega
  rw [delay, if_neg (by omega)]
  show min (Duration.ofMillis (Float.ofNat pause.millis * power 1.0 _).toUInt64) pause = _
  rw [power_one]
  apply Duration.eq_of_nanos
  rw [Duration.nanos_min, Duration.nanos_cut]
  show min ((Float.ofNat pause.millis * 1.0).toUInt64.toNat * 1000000) _ = _
  rw [Double.toNat_ofNat_mul_one bounded]

section

variable {β : Type} (call : β) (pauses : Duration → β)

/-- Between calls there is the pause itself once, and then what is left of it. -/
theorem ahead_fixed (maxRetries : Nat) (pause : Duration) (n : Nat) :
    (fixed maxRetries pause).ahead call pauses (n + 1) =
      [call, pauses pause] ++ (List.replicate n [call, pauses pause.cut]).flatten := by
  induction n with
  | zero =>
    rw [ahead_succ, delay_fixed_zero]
    rfl
  | succ n ih =>
    rw [ahead_succ, ih, delay_fixed (Nat.succ_pos n), List.replicate_succ', List.flatten_append]
    simp

end

/-- The first pause of a fixed policy is exact and the others are cut, all alike. The cut takes
nothing from whole milliseconds that fit the digits of a double, from other pauses of that size the
fraction of a millisecond, and it never makes a pause longer. -/
theorem fixed_cuts (maxRetries : Nat) (pause : Duration) :
    (fixed maxRetries pause).delay 0 = pause ∧
    (∀ attempt, 0 < attempt → (fixed maxRetries pause).delay attempt = pause.cut) ∧
    pause.cut.nanos = min
      (min (Double.nearest pause.millis) (0x1_0000_0000_0000_0000 - 1) * 1000000) pause.nanos ∧
    (pause.cut = pause ↔
      pause.nanos ≤ min (Double.nearest pause.millis) (0x1_0000_0000_0000_0000 - 1) * 1000000) ∧
    (pause.millis < 0x20_0000_0000_0000 → pause.cut.nanos = pause.millis * 1000000 ∧
      (pause.cut = pause ↔ pause.nanos % 1000000 = 0)) ∧
    ∀ (β : Type) (call : β) (pauses : Duration → β) (n : Nat),
      (fixed maxRetries pause).ahead call pauses (n + 1) =
        [call, pauses pause] ++ (List.replicate n [call, pauses pause.cut]).flatten := by
  refine ⟨delay_fixed_zero maxRetries pause, fun _ later => delay_fixed later maxRetries pause,
    pause.nanos_cut, pause.cut_eq_iff, ?_,
    fun _ call pauses n => ahead_fixed call pauses maxRetries pause n⟩
  intro short
  have nanos := Duration.nanos_cut_of_lt short
  refine ⟨nanos, ?_⟩
  constructor
  · intro same
    rw [same] at nanos
    omega
  · intro whole
    apply Duration.eq_of_nanos
    rw [nanos, Duration.millis]
    omega

/-- A pause of a millisecond and a half is one of a millisecond before the second retry. -/
theorem fixed_differs :
    let pause : Duration := ⟨1500000, by decide⟩
    (fixed 5 pause).delay 0 = pause ∧ (fixed 5 pause).delay 1 = ⟨1000000, by decide⟩ ∧
      ¬∀ (maxRetries : Nat) (pause : Duration) (attempt : Nat),
        (fixed maxRetries pause).delay attempt = pause := by
  intro pause
  have short : pause.millis < 0x20_0000_0000_0000 := by decide
  have second : (fixed 5 pause).delay 1 = ⟨1000000, by decide⟩ := by
    have whole : pause.millis * 1000000 = 1000000 := by decide
    rw [delay_fixed Nat.one_pos]
    exact Duration.eq_of_nanos ((Duration.nanos_cut_of_lt short).trans whole)
  refine ⟨delay_fixed_zero 5 pause, second, fun same => ?_⟩
  have alike := second.symm.trans (same 5 pause 1)
  revert alike
  decide

end RetryPolicy

end Datebook
