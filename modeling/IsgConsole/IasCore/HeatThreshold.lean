/-
# IasCore.HeatThreshold — at which heat a map is cut

`findDefectArea` cuts the heat map at the highest heat that enough pixels reach, if that is one of
the 21 hottest and not below the configured one.  It adds the counts of the histogram from the
hottest level down and stops at the first sum that is large enough; that this happens before the
levels end follows from the number of pixels alone.

The sums are kept in single precision, which has every integer up to 2²⁴ and not the next.  A sum
that is rounded is still at least 2²⁴, so only a configured number from there on is out of reach.

* `value_threshold_eq` — the loop as a search;
* `value_threshold_selects` — **which heat is found, where less than 2²⁴ pixels are asked for.**
-/
import Mathlib.Algebra.BigOperators.Intervals
import Mathlib.Algebra.Order.BigOperators.Group.Finset
import IsgConsole.IasCore.PatchCorePt

namespace IsgConsole.IasCore.PatchCorePt

set_option autoImplicit false

/-! ## Histograms -/

/-- The histogram of a grey picture and the largest level in it. -/
structure IsHistogram (heat : HeatMap) : Prop where
  low : 0 ≤ heat.Max_heat
  high : heat.Max_heat ≤ 255
  counts : ∀ level, 0 ≤ level → level ≤ heat.Max_heat → 0 ≤ heat.hist level
  reached : 0 < heat.hist heat.Max_heat

/-- How many pixels have at least a heat, counted from the hottest down. -/
def hotter (heat : HeatMap) (level : Int) : Int :=
  ∑ k ∈ Finset.range (heat.Max_heat + 1 - level).toNat, heat.hist (heat.Max_heat - k)

/-- How many pixels there are. -/
def pixels (heat : HeatMap) : Int := hotter heat 0

/-- The entries of the histogram that the loop of `thresholdFrom` reads. -/
def levelsRead (config : Config_Data) (heat : HeatMap) : (steps : Nat) → (i num : Int) → List Int
  | 0, _, _ => []
  | steps + 1, i, num =>
      let num := addCount heat num (heat.Max_heat - i)
      (heat.Max_heat - i) :: if num > toFloat config.heat_binary_min_area then []
        else levelsRead config heat steps (i + 1) num

/-- One of the 21 hottest levels, which enough pixels reach. -/
def HotEnough (config : Config_Data) (heat : HeatMap) (level : Int) : Prop :=
  0 ≤ level ∧ heat.Max_heat - 20 ≤ level ∧ level ≤ heat.Max_heat ∧
    config.heat_binary_min_area < hotter heat level

/-- What the loop is to do. -/
structure Selects (config : Config_Data) (heat : HeatMap) : Prop where
  inside : ∀ level ∈ levelsRead config heat 21 0 0, 0 ≤ level ∧ level ≤ heat.Max_heat
  hottest : ∀ level, IsGreatest {l | HotEnough config heat l} level →
    value_threshold config heat = max config.heat_threshold level
  none' : (∀ level, ¬ HotEnough config heat level) →
    value_threshold config heat = config.heat_threshold

section Histogram

variable {heat : HeatMap}

theorem hotter_step {level : Int} (inside : level ≤ heat.Max_heat) :
    hotter heat level = heat.hist level + hotter heat (level + 1) := by
  obtain ⟨count, more⟩ : ∃ count : Nat, heat.Max_heat - level = count :=
    ⟨(heat.Max_heat - level).toNat, by omega⟩
  have down : (heat.Max_heat + 1 - level).toNat = count + 1 := by omega
  have next : (heat.Max_heat + 1 - (level + 1)).toNat = count := by omega
  have last : heat.Max_heat - count = level := by omega
  rw [hotter, hotter, down, next, Finset.sum_range_succ, last, add_comm]

theorem hotter_above : hotter heat (heat.Max_heat + 1) = 0 := by
  rw [hotter, sub_self, Int.toNat_zero, Finset.range_zero, Finset.sum_empty]

/-- The levels counted are levels of the map. -/
theorem counted_nonneg (histogram : IsHistogram heat) {level : Int} (start : 0 ≤ level) {k : Nat}
    (counted : k ∈ Finset.range (heat.Max_heat + 1 - level).toNat) :
    0 ≤ heat.hist (heat.Max_heat - k) := by
  have below := Finset.mem_range.mp counted
  exact histogram.counts _ (by omega) (by omega)

theorem hotter_nonneg (histogram : IsHistogram heat) (level : Int) (start : 0 ≤ level) :
    0 ≤ hotter heat level :=
  Finset.sum_nonneg fun _ counted => counted_nonneg histogram start counted

/-! ## Single precision -/

/-- Up to 2²⁴ there is no rounding. -/
theorem toFloat_of_few {n : Int} (start : 0 ≤ n) (few : n ≤ 2 ^ 24) : toFloat n = n := by
  by_cases top : n = 2 ^ 24
  · rw [top]
    decide +kernel
  · exact toFloat_of_small (by omega)

/-- A number of pixels is compared with the configured one as it is. -/
theorem toFloat_lt_iff {n area : Int} (start : 0 ≤ n) (small : area < 2 ^ 24) :
    toFloat area < n ↔ area < n := by
  by_cases negative : area < 0
  · have below : toFloat area < 0 := by
      have pos := roundToFloat_pos (Int.natAbs_pos.mpr (ne_of_lt negative))
      rw [toFloat, Int.sign_eq_neg_one_of_neg negative]
      omega
    exact iff_of_true (below.trans_le start) (negative.trans_le start)
  · rw [toFloat_of_few (not_lt.mp negative) small.le]

/-- What is rounded stays at least 2²⁴. -/
theorem roundToFloat_of_many {m : Nat} (many : 2 ^ 24 ≤ m) : 2 ^ 24 ≤ roundToFloat m := by
  have some' : m ≠ 0 := by
    rintro rfl
    exact absurd many (by decide)
  have long : 24 ≤ m.log2 := (Nat.le_log2 some').mpr many
  have unit : 0 < 2 ^ (m.log2 - 23) := Nat.two_pow_pos _
  have digits : 2 ^ 23 ≤ m / 2 ^ (m.log2 - 23) := by
    rw [Nat.le_div_iff_mul_le unit, ← Nat.pow_add]
    calc 2 ^ (23 + (m.log2 - 23)) = 2 ^ m.log2 := by rw [Nat.add_sub_cancel' (by omega)]
      _ ≤ m := Nat.log2_self_le some'
  have twice : 2 ^ 1 ≤ 2 ^ (m.log2 - 23) := Nat.pow_le_pow_right Nat.two_pos (by omega)
  have kept : 2 ^ 24 ≤ m / 2 ^ (m.log2 - 23) * 2 ^ (m.log2 - 23) :=
    Nat.mul_le_mul digits twice
  unfold roundToFloat
  dsimp only
  split
  · exact kept.trans (Nat.mul_le_mul_right _ (Nat.le_succ _))
  · exact kept

theorem toFloat_of_many {n : Int} (many : 2 ^ 24 ≤ n) : 2 ^ 24 ≤ toFloat n := by
  have rounded := roundToFloat_of_many (m := n.natAbs) (by omega)
  rw [toFloat, Int.sign_eq_one_of_pos (by omega), one_mul]
  exact_mod_cast rounded

/-- One more level, where single precision has the sum. -/
theorem addCount_hotter (histogram : IsHistogram heat) {level : Int} (start : 0 ≤ level)
    (inside : level ≤ heat.Max_heat) (few : hotter heat level ≤ 2 ^ 24) :
    addCount heat (hotter heat (level + 1)) level = hotter heat level := by
  have behind := hotter_nonneg histogram (level + 1) (by omega)
  have own := histogram.counts level start inside
  have step := hotter_step inside
  have count : toFloat (heat.hist level) = heat.hist level := toFloat_of_few own (by omega)
  rw [addCount, count, add_comm, ← step]
  exact toFloat_of_few (by omega) few

/-- The sum of one more level is large enough when the number of pixels is, rounded or not. -/
theorem addCount_crosses (histogram : IsHistogram heat) {level area : Int} (start : 0 ≤ level)
    (inside : level ≤ heat.Max_heat) (small : area < 2 ^ 24) :
    toFloat area < addCount heat (hotter heat (level + 1)) level ↔ area < hotter heat level := by
  by_cases few : hotter heat level ≤ 2 ^ 24
  · rw [addCount_hotter histogram start inside few]
    exact toFloat_lt_iff (hotter_nonneg histogram level start) small
  · have behind := hotter_nonneg histogram (level + 1) (by omega)
    have own := histogram.counts level start inside
    have step := hotter_step inside
    have many : 2 ^ 24 ≤ hotter heat (level + 1) + toFloat (heat.hist level) := by
      by_cases large : 2 ^ 24 ≤ heat.hist level
      · have rounded := toFloat_of_many large
        omega
      · rw [toFloat_of_few own (by omega)]
        omega
    have sum : 2 ^ 24 ≤ addCount heat (hotter heat (level + 1)) level := toFloat_of_many many
    rw [toFloat_lt_iff (le_trans (by decide) sum) small]
    exact iff_of_true (small.trans_le sum) (by omega)

/-! ## The loop -/

section Loop

variable {config : Config_Data}

/-- The level after so many turns is hot enough. -/
def crossesAt (config : Config_Data) (heat : HeatMap) (i : Nat) : Bool :=
  config.heat_binary_min_area < hotter heat (heat.Max_heat - i)

/-- The threshold where the search ends. -/
def thresholdAt (config : Config_Data) (heat : HeatMap) : Option Nat → Int
  | some i => max config.heat_threshold (heat.Max_heat - i)
  | none => config.heat_threshold

/-- **The loop as a search**, from any of its turns on: it ends before the levels do, as all pixels
together are more than are asked for. -/
theorem loop_spec (histogram : IsHistogram heat) (small : config.heat_binary_min_area < 2 ^ 24)
    (area : config.heat_binary_min_area < pixels heat) (steps first : Nat)
    (start : (first : Int) ≤ heat.Max_heat) :
    let num := hotter heat (heat.Max_heat - first + 1)
    thresholdFrom config heat steps first num =
        thresholdAt config heat ((List.range' first steps).find? (crossesAt config heat)) ∧
      ∀ level ∈ levelsRead config heat steps first num, 0 ≤ level ∧ level ≤ heat.Max_heat := by
  intro num
  induction steps generalizing first with
  | zero => exact ⟨rfl, fun level here => by cases here⟩
  | succ steps ih =>
      have enough : toFloat config.heat_binary_min_area <
          addCount heat num (heat.Max_heat - first) ↔
          config.heat_binary_min_area < hotter heat (heat.Max_heat - first) :=
        addCount_crosses histogram (by omega) (by omega) small
      have here : 0 ≤ heat.Max_heat - first ∧ heat.Max_heat - first ≤ heat.Max_heat := by omega
      rw [thresholdFrom, levelsRead, List.range'_succ, List.find?_cons]
      dsimp only
      by_cases crosses : config.heat_binary_min_area < hotter heat (heat.Max_heat - first)
      · have found : crossesAt config heat first = true := decide_eq_true crosses
        rw [if_pos (enough.mpr crosses), if_pos (enough.mpr crosses), found]
        refine ⟨?_, fun level there => by rwa [List.mem_singleton.mp there]⟩
        show _ = max config.heat_threshold (heat.Max_heat - first)
        split <;> omega
      · have found : crossesAt config heat first = false := decide_eq_false crosses
        -- The last level is that of all pixels.
        have more : heat.Max_heat - first ≠ 0 := by
          intro last
          rw [last] at crosses
          exact crosses area
        -- So far the sum is less than is asked for, and not rounded.
        have added : addCount heat num (heat.Max_heat - first) =
            hotter heat (heat.Max_heat - first) :=
          addCount_hotter histogram (by omega) (by omega) (by omega)
        obtain ⟨result, inside⟩ := ih (first + 1) (by omega)
        have next : heat.Max_heat - ((first + 1 : Nat) : Int) + 1 = heat.Max_heat - first := by
          omega
        rw [next] at result inside
        rw [if_neg (mt enough.mp crosses), if_neg (mt enough.mp crosses), found, added]
        refine ⟨result, fun level there => ?_⟩
        rcases List.mem_cons.mp there with rfl | later
        · exact here
        · exact inside level later

theorem value_threshold_eq (histogram : IsHistogram heat)
    (small : config.heat_binary_min_area < 2 ^ 24)
    (area : config.heat_binary_min_area < pixels heat) :
    value_threshold config heat =
        thresholdAt config heat ((List.range' 0 21).find? (crossesAt config heat)) ∧
      ∀ level ∈ levelsRead config heat 21 0 0, 0 ≤ level ∧ level ≤ heat.Max_heat := by
  have spec := loop_spec histogram small area 21 0 histogram.low
  have empty : hotter heat (heat.Max_heat - (0 : Nat) + 1) = 0 := by
    rw [Int.natCast_zero, sub_zero, hotter_above]
  rwa [empty] at spec

/-- **Which heat is found**, in a map of any size where less than 2²⁴ pixels are asked for: the
hottest of the 21 hottest levels that enough pixels reach, and no other count is read than that of
a level of the map. -/
theorem value_threshold_selects (histogram : IsHistogram heat)
    (small : config.heat_binary_min_area < 2 ^ 24)
    (area : config.heat_binary_min_area < pixels heat) : Selects config heat := by
  obtain ⟨result, inside⟩ := value_threshold_eq histogram small area
  refine ⟨inside, ?_, ?_⟩
  · rintro level ⟨⟨start, near, below, enough⟩, greatest⟩
    have first : (List.range' 0 21).find? (crossesAt config heat) =
        some (heat.Max_heat - level).toNat := by
      have here : heat.Max_heat - ((heat.Max_heat - level).toNat : Int) = level := by omega
      refine List.find?_range'_eq_some.mpr ⟨?_, List.mem_range'_1.mpr (by omega), ?_⟩
      · rw [crossesAt, here]
        exact decide_eq_true enough
      · intro i _ earlier
        have hotter' : ¬ HotEnough config heat (heat.Max_heat - i) := fun hot => by
          have bound := greatest hot
          omega
        have cold : ¬ config.heat_binary_min_area < hotter heat (heat.Max_heat - i) :=
          fun crosses => hotter' ⟨by omega, by omega, by omega, crosses⟩
        rw [crossesAt, decide_eq_false cold]
        rfl
    rw [result, first, thresholdAt]
    congr 1
    omega
  · intro cold
    -- With 21 levels or less, the last of them is reached by all pixels.
    have many : 20 < heat.Max_heat := by
      by_contra few'
      exact cold 0 ⟨le_refl 0, by omega, histogram.low, area⟩
    have none' : (List.range' 0 21).find? (crossesAt config heat) = none := by
      refine List.find?_eq_none.mpr fun i there crosses => ?_
      have turn := (List.mem_range'_1.mp there).2
      exact cold (heat.Max_heat - i) ⟨by omega, by omega, by omega, of_decide_eq_true crosses⟩
    rw [result, none', thresholdAt]

end Loop

/-! ## Two maps -/

/-- A map of so many pixels on each of the levels 0 to 3. -/
def fourLevels (count : Int) : HeatMap :=
  { Max_heat := 3, hist := fun _ => count, maybe_rois := fun _ => [] }

theorem fourLevels_histogram {count : Int} (some' : 0 < count) : IsHistogram (fourLevels count) :=
  ⟨by simp [fourLevels], by simp [fourLevels], fun _ _ _ => some'.le, some'⟩

/-- Sixty pixels on each level: the second hottest is the first that a hundred reach.  With 2²⁴ + 1 on
each, more than single precision can add up, the hottest is. -/
theorem value_threshold_fourLevels :
    let config := { Config_Data.start with heat_threshold := 1 }
    (Selects config (fourLevels 60) ∧ value_threshold config (fourLevels 60) = 2) ∧
      Selects config (fourLevels (2 ^ 24 + 1)) ∧
      value_threshold config (fourLevels (2 ^ 24 + 1)) = 3 :=
  ⟨⟨value_threshold_selects (fourLevels_histogram (by decide)) (by decide +kernel)
      (by decide +kernel), by decide +kernel⟩,
    value_threshold_selects (fourLevels_histogram (by decide)) (by decide +kernel)
      (by decide +kernel), by decide +kernel⟩

/-- All pixels of one heat, one more than single precision can count. -/
def oneLevel : HeatMap :=
  { Max_heat := 0, hist := fun level => if level = 0 then 2 ^ 24 + 1 else 0
    maybe_rois := fun _ => [] }

/-- They are never more than 2²⁴, and the loop reads on in front of the histogram. -/
theorem oneLevel_outside :
    ¬ ∀ (config : Config_Data) (heat : HeatMap), IsHistogram heat →
      config.heat_binary_min_area < pixels heat → Selects config heat := by
  intro selects
  have histogram : IsHistogram oneLevel := by
    refine ⟨by decide, by decide, fun level start below => ?_, by decide⟩
    rw [show level = 0 from le_antisymm below start]
    decide
  have inside := (selects { Config_Data.start with heat_binary_min_area := 2 ^ 24 } oneLevel
    histogram (by decide +kernel)).inside (-1) (by decide +kernel)
  exact absurd inside.1 (by decide)

end Histogram

end IsgConsole.IasCore.PatchCorePt
