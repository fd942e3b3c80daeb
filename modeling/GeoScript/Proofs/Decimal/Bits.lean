import GeoScript.Proofs.Decimal.ReadBack

/-! # Bits of floating-point numbers

The bits of a number are a sign and a pattern. Up to the pattern of infinity all bits are those of
the number that is made of them; above it there is one undefined number only, whatever bits it is
made of. Rounding a decimal never leaves the patterns up to infinity.

* `magnitude_ofMagnitude`: the pattern of a number made of a pattern.
* `infinite_lt_of_isNaN`: the pattern of the undefined number.
* `Literal.isNaN_toFloat`: no literal denotes it.
* `negZero_add`: negative zero is neutral in sums, for all numbers bit for bit. -/

namespace GeoScript.Decimal

open Float.Model

theorem toNat_unpackExponent (w : UInt64) :
    (@UnpackedFloat.unpackExponent Format.binary64 w.toBitVec).toNat =
      w.toNat / 2 ^ 52 % 2 ^ 11 := by
  rw [UnpackedFloat.unpackExponent_def, BitVec.extractLsb'_toNat, Nat.shiftRight_eq_div_pow]
  rfl

theorem toNat_unpackMantissa (w : UInt64) :
    (@UnpackedFloat.unpackMantissa Format.binary64 w.toBitVec).toNat = w.toNat % 2 ^ 52 := by
  rw [UnpackedFloat.unpackMantissa_def, BitVec.extractLsb'_toNat, Nat.shiftRight_zero]
  rfl

theorem isNaNBits_of_le {w : UInt64} (h : w.toNat % 2 ^ 63 ≤ infinite) :
    @UnpackedFloat.isNaNBits Format.binary64 w.toBitVec = false := by
  refine decide_eq_false fun ⟨hexponent, hmantissa⟩ => hmantissa (BitVec.eq_of_toNat_eq ?_)
  have hone := congrArg BitVec.toNat hexponent
  have h2047 : (-1#(Format.binary64.exponentBits)).toNat = 2047 := rfl
  rw [toNat_unpackExponent, h2047] at hone
  rw [toNat_unpackMantissa]
  change w.toNat % 2 ^ 52 = 0
  unfold infinite at h
  omega

/-- **Bits that are not those of an undefined number** are the bits of the number made of them. -/
theorem toBits_ofBits_of_le {w : UInt64} (h : w.toNat % 2 ^ 63 ≤ infinite) :
    (Float.ofBits w).toBits = w := by
  refine UInt64.toBitVec_inj.mp
    ((@UnpackedFloat.pack_unpack Format.binary64 w.toBitVec (by decide)).trans ?_)
  rw [isNaNBits_of_le h]
  rfl

theorem magnitude_ofMagnitude (negative : Bool) {p : Nat} (hp : p ≤ infinite) :
    magnitude (ofMagnitude negative p) = p := by
  have hlt : p < 2 ^ 63 := Nat.lt_of_le_of_lt hp (by decide)
  have hbits : (UInt64.ofNat (if negative then 2 ^ 63 + p else p)).toNat % 2 ^ 63 = p := by
    rw [UInt64.toNat_ofNat']
    cases negative <;> simp <;> omega
  rw [magnitude, ofMagnitude, toBits_ofBits_of_le (hbits.symm ▸ hp), hbits]

theorem nearestDecimal_le (m : Nat) (e : Int) : nearestDecimal m e ≤ infinite := by
  have hnearest : ∀ num den, nearest num den ≤ infinite := fun _ _ => Nat.min_le_left ..
  unfold nearestDecimal
  dsimp only
  split
  · exact Nat.zero_le _
  · split
    · exact Nat.le_refl _
    · split <;> exact hnearest ..

/-- **The undefined number** has a pattern above that of infinity. -/
theorem infinite_lt_of_isNaN {x : Float} (h : x.isNaN = true) : infinite < magnitude x := by
  rw [Float.isNaN_eq_decide_eq_nan, decide_eq_true_eq] at h
  rw [h]
  decide

/-- **No literal denotes the undefined number.** -/
theorem Literal.isNaN_toFloat (l : Literal) : l.toFloat.isNaN = false := by
  rw [Bool.eq_false_iff]
  intro h
  have hlt := infinite_lt_of_isNaN h
  rw [Literal.toFloat, magnitude_ofMagnitude _ (nearestDecimal_le ..)] at hlt
  exact absurd (nearestDecimal_le ..) (Nat.not_le_of_lt hlt)

/-! ### Negative zero -/

theorem unpack_negZero : (-0.0 : Float).toModel.unpack = .zero .negative := by
  have hbits : (-0.0 : Float).toModel.toBits = 0x8000000000000000 := by decide +kernel
  rw [Float.Model.unpack, hbits]
  rfl

theorem add_zero_negative (y : UnpackedFloat) :
    UnpackedFloat.add Format.binary64 (.zero .negative) y = y := by
  cases y with
  | zero s => cases s <;> rfl
  | _ => rfl

/-- Of the bits of undefined numbers only one choice is valid, and it is the one that is packed. -/
theorem pack_unpack (m : Float.Model) : Float.Model.pack m.unpack = m := by
  obtain ⟨w, hvalid⟩ := m
  have hbits : UnpackedFloat.pack Format.binary64
      (UnpackedFloat.unpack Format.binary64 w.toBitVec) = w.toBitVec := by
    rw [@UnpackedFloat.pack_unpack Format.binary64 w.toBitVec (by decide)]
    split
    · next h =>
      obtain ⟨hexponent, hmantissa⟩ := of_decide_eq_true h
      exact (hvalid.eq_packedNaN hexponent hmantissa).symm
    · rfl
  simp only [Float.Model.pack, Float.Model.unpack, hbits]

theorem negZero_add (x : Float) : -0.0 + x = x := by
  obtain ⟨m⟩ := x
  change Float.ofModel (Float.Model.pack
    (UnpackedFloat.add Format.binary64 (-0.0 : Float).toModel.unpack m.unpack)) = _
  rw [unpack_negZero, add_zero_negative, pack_unpack]

end GeoScript.Decimal
