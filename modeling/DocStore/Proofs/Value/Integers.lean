import DocStore.Proofs.Json.Finite
import DocStore.Proofs.Value.Places
import Mathlib.Algebra.Group.Int.Defs

/-!
# Integers in a text

An integer literal is a number without point and power. It is read as an integer if 64 bits with sign hold it, and as
the double it comes closest to in reading otherwise (`read_of_integer?`); minus zero is a double as well. What is
written for the value denotes the same integer in the first case and for minus zero.
-/

namespace DocStore

open Json (Source Literal wholeLiteral wholeNumber gather maxSignificand renderFloat)

namespace Json

deriving instance DecidableEq for Literal

def signed (negative : Bool) (n : Nat) : Int :=
  if negative then -n else n

namespace Literal

def integer? : Literal → Option Int
  | ⟨negative, whole, [], none, false⟩ => some (signed negative (Decimal.valueOf whole))
  | _ => none

def significand (lit : Literal) : Int :=
  signed lit.negative (Decimal.valueOf (lit.whole ++ lit.fraction))

def exponent (lit : Literal) : Int :=
  match lit.power with
  | none => -lit.fraction.length
  | some (negative, ds) => signed negative (Decimal.valueOf ds) - lit.fraction.length

/-- The literal denotes exactly this integer: `significand · 10 ^ exponent = n`. -/
def Denotes (lit : Literal) (n : Int) : Prop :=
  lit.significand * 10 ^ lit.exponent.toNat = n * 10 ^ (-lit.exponent).toNat

instance (lit : Literal) (n : Int) : Decidable (lit.Denotes n) :=
  inferInstanceAs (Decidable (_ = _))

theorem denotes_of_integer? {lit : Literal} {n : Int} (h : lit.integer? = some n) : lit.Denotes n := by
  unfold integer? at h
  split at h
  · cases h
    simp [Denotes, significand, exponent]
  · cases h

theorem Inexact.integer?_eq_none {lit : Literal} (h : lit.Inexact) : lit.integer? = none := by
  unfold integer?
  split
  · rcases h with h | h <;> cases h
  · rfl

end Literal

theorem integer?_wholeLiteral (negative : Bool) (n : Nat) :
    (wholeLiteral negative n).integer? = some (signed negative n) := by
  simp [wholeLiteral, Literal.integer?, Decimal.valueOf_digitsOf]

/-! ## Reading an integer -/

theorem gather_nil {limit n m : Nat} (ds : List Char) (hn : n ≤ limit) (h : gather limit n ds = (m, [])) :
    ds.foldl (fun n d => n * 10 + Decimal.digitValue d) n ≤ limit := by
  induction ds generalizing n with
  | nil => exact hn
  | cons d ds ih =>
    rw [gather] at h
    by_cases hnext : n * 10 + Decimal.digitValue d ≤ limit
    · rw [if_pos hnext] at h
      exact ih hnext h
    · rw [if_neg hnext] at h; cases h

end Json

def Fits (n : Int) : Prop :=
  -2 ^ 63 ≤ n ∧ n < 2 ^ 63

instance (n : Int) : Decidable (Fits n) :=
  inferInstanceAs (Decidable (_ ∧ _))

namespace Value

def negativeZero : Float :=
  -(0 : UInt64).toFloat

inductive ReadFrom (n : Int) : Value → Prop
  | int (k : Int64) : k.toInt = n → ReadFrom n (int k)
  | negativeZero : n = 0 → ReadFrom n (float negativeZero)
  | float (x : Float) : ¬ Fits n → x.isFinite = true → ReadFrom n (float x)

theorem readFrom_wholeNumber (negative : Bool) {m : Nat} (hm : m ≤ maxSignificand) :
    ReadFrom (Json.signed negative m) (ofJson (wholeNumber negative m)) := by
  have htoNat : m.toUInt64.toNat = m := Nat.mod_eq_of_lt (Nat.lt_succ_of_le hm)
  unfold wholeNumber Json.signed
  cases negative with
  | false =>
    simp only [Bool.false_eq_true, if_false, ofJson, ofNat, htoNat]
    by_cases hsmall : m < 0x8000000000000000
    · rw [if_pos hsmall]
      refine .int _ (Int64.toInt_ofInt_of_le ?_ ?_) <;> omega
    · rw [if_neg hsmall]
      exact .float _ (fun h => by have := h.2; omega) (Json.isFinite_toFloat _)
  | true =>
    simp only [if_true]
    by_cases hsmall : 0 < m ∧ m ≤ 0x8000000000000000
    · rw [if_pos hsmall, ofJson]
      refine .int _ (Int64.toInt_ofInt_of_le ?_ ?_) <;> omega
    · rw [if_neg hsmall, ofJson]
      by_cases hzero : m = 0
      · subst hzero; exact .negativeZero rfl
      · exact .float _ (fun h => by have := h.1; omega) (Json.isFinite_neg (Json.isFinite_toFloat _))

/-- A number whose digits do not fit is scaled up to its place. -/
theorem finite_of_unread {lit : Literal} {m : Nat} {ds : List Char} (hfraction : lit.fraction = [])
    (hpower : lit.power = none) (hgather : gather maxSignificand 0 lit.whole = (m, ds)) (hds : ds ≠ []) {j : Json}
    (hj : lit.value.toOption = some j) : ∃ x : Float, j = .float x ∧ x.isFinite = true := by
  unfold Literal.value at hj
  rw [hgather, hfraction, hpower] at hj
  simp only [gather] at hj
  rw [if_neg (fun h => hds h.1)] at hj
  simp only [Json.applyPower, List.length_nil, Nat.sub_self, Int.natCast_zero, Int.sub_zero] at hj
  cases hscale : Json.scale m.toUInt64.toFloat ds.length with
  | none => rw [hscale] at hj; cases hj
  | some x =>
    rw [hscale] at hj
    cases hj
    have hfinite := Json.isFinite_scale (Json.isFinite_toFloat m.toUInt64) hscale
    refine ⟨_, rfl, ?_⟩
    unfold Json.signedFloat
    split
    · exact Json.isFinite_neg hfinite
    · exact hfinite

theorem read_of_integer? {lit : Literal} {n : Int} (h : lit.integer? = some n) {v : Value}
    (hv : (Source.number lit).value? = some v) : ReadFrom n v := by
  obtain ⟨j, hj, rfl⟩ := Option.map_eq_some_iff.mp hv
  rw [Source.json?] at hj
  unfold Literal.integer? at h
  split at h
  · rename_i negative whole
    cases h
    by_cases hsmall : Decimal.valueOf whole ≤ maxSignificand
    · rw [Json.value_whole negative hsmall] at hj
      cases hj
      exact readFrom_wholeNumber negative hsmall
    · -- some digits are left over, so the number is made a double
      cases hgather : gather maxSignificand 0 whole with
      | mk m ds =>
        have hds : ds ≠ [] := by
          rintro rfl
          exact hsmall (Json.gather_nil whole (Nat.zero_le _) hgather)
        obtain ⟨x, rfl, hx⟩ := finite_of_unread rfl rfl hgather hds hj
        refine .float x (fun hfits => hsmall ?_) hx
        obtain ⟨hlow, hhigh⟩ := hfits
        have hmax : maxSignificand = 2 ^ 64 - 1 := rfl
        cases negative <;> simp [Json.signed] at hlow hhigh <;> omega
  · cases h

/-! ## Writing it again -/

theorem source_ofInt64 (k : Int64) : ∃ lit, (ofInt64 k).source = .number lit ∧ lit.integer? = some k.toInt := by
  unfold ofInt64
  by_cases hk : k < 0
  · rw [if_pos hk]
    have hneg : k.toInt < 0 := Int64.lt_iff_toInt_lt.mp hk
    refine ⟨_, rfl, ?_⟩
    rw [Json.integer?_wholeLiteral, Json.signed, if_pos (decide_eq_true hneg), ← Int.eq_neg_natAbs_of_nonpos (by omega)]
  · rw [if_neg hk]
    have hpos := Int64.not_lt.mp hk
    refine ⟨_, rfl, ?_⟩
    rw [Json.integer?_wholeLiteral, Int64.toNat_toUInt64_of_le hpos]
    exact congrArg some (Int.toNat_of_nonneg (Int64.le_iff_toInt_le.mp hpos))

theorem source_negativeZero :
    (toJson (float negativeZero)).source = .number ⟨true, ['0'], ['0'], none, true⟩ := by
  have hproper : Literal.Proper ⟨true, ['0'], ['0'], none, true⟩ :=
    ⟨by simp, by simp; decide, fun _ => rfl, by simp; decide, by simp, nofun⟩
  have hread := Json.outcome_readLeaf_written hproper (s := []) nofun
  have htext : renderFloat negativeZero = ['-', '0', '.', '0'] := by decide +kernel
  have hfinite : negativeZero.isFinite = true := by decide +kernel
  rw [toJson, if_pos hfinite, Json.source_of_isScalar rfl, Json.leaf, htext]
  exact congrArg (fun o => (o.map Prod.fst).getD (.word .null)) hread

theorem ReadFrom.written {n : Int} {v : Value} (h : ReadFrom n v) :
    ∃ lit, v.toJson.source = .number lit ∧ (Fits n → lit.Denotes n) ∧
      (¬ Fits n → ∃ x, v = .float x ∧ lit.written = renderFloat x) := by
  cases h with
  | int k hk =>
    obtain ⟨lit, hlit, hinteger⟩ := source_ofInt64 k
    have hfits : Fits k.toInt := ⟨k.le_toInt, k.toInt_lt⟩
    rw [hk] at hinteger hfits
    exact ⟨lit, hlit, fun _ => Json.Literal.denotes_of_integer? hinteger, fun hn => absurd hfits hn⟩
  | negativeZero hn =>
    subst hn
    exact ⟨_, source_negativeZero, fun _ => by decide, fun h => absurd (by decide) h⟩
  | float x hn hx =>
    obtain ⟨lit, hleaf, -, -, hwritten⟩ := Json.leaf_float hx
    refine ⟨lit, ?_, fun h => absurd h hn, fun _ => ⟨x, rfl, hwritten⟩⟩
    rw [toJson, if_pos hx]; exact hleaf

/-- An integer literal among what is written for a value stands for the value itself. -/
theorem value?_of_source {v : Value} {lit : Literal} {n : Int} (h : v.toJson.source = .number lit)
    (hn : lit.integer? = some n) : (Source.number lit).value? = some v := by
  cases v with
  | int k =>
    rw [← h, Source.value?, Json.json?_source]; exact reread_ofInt64 k
  | float x =>
    rw [toJson] at h
    by_cases hx : x.isFinite = true
    · obtain ⟨lit', hleaf, -, hinexact, -⟩ := Json.leaf_float hx
      rw [if_pos hx] at h
      cases hleaf.symm.trans h
      rw [hinexact.integer?_eq_none] at hn; cases hn
    · rw [if_neg hx] at h; cases h
  | _ => cases h

end Value

end DocStore
