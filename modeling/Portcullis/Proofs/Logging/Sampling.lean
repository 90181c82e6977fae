import Mathlib.Algebra.Order.Floor.Semifield
import Mathlib.Data.Int.CardIntervalMod
import Mathlib.Data.Rat.Floor
import Mathlib.Tactic.Linarith
import Portcullis.Logging.Sampler

/-!
# The fraction of events that is logged

A sampler is asked for a fraction `r` of the minor events, those that are no warnings or errors. It lets one of every
`⌊1 / r⌋` of them pass, so what it keeps is the fraction that it was asked for only if `1 / r` is a whole number; if it
is not, it keeps too many, and with each interval the excess grows. All this is said of fewer than `2 ^ 64` minor
events: then the counter starts over.

* `Sampler.passes_of_major`, `Sampler.filter_log`: what is not minor passes and makes no difference.
* `Sampler.kept_eq`: how many minor events are kept, of any that have been seen.
* `Sampler.near_iff`: how long the kept events stay close to a fraction.
* `Sampler.fraction_kept_iff`: the fraction is kept to within one event for good if it is one of `1, 1/2, 1/3, …`, and
  else until the excess shows.
-/

namespace Portcullis

/-- Is it up to the rate whether the item passes? Spans, warnings and errors always do. -/
def LogItem.isMinor : LogItem → Bool
  | .event severity => !severity.isImportant
  | .span _ => false

namespace Sampler

variable {s : Sampler} {item : LogItem} {items : List LogItem}

/-- How many of the items are minor. -/
def minor (items : List LogItem) : Nat :=
  items.countP LogItem.isMinor

/-- The items in order, each with whether it passes. -/
def log (s : Sampler) (items : List LogItem) : List (LogItem × Bool) :=
  items.zip (s.passesAll items)

/-- How many of the items are minor and pass. -/
def kept (s : Sampler) (items : List LogItem) : Nat :=
  (s.log items).countP fun entry => entry.1.isMinor && entry.2

theorem log_cons (s : Sampler) (item : LogItem) (items : List LogItem) :
    s.log (item :: items) = (item, (s.passes item).1) :: (s.passes item).2.log items := rfl

theorem minor_cons (item : LogItem) (items : List LogItem) :
    minor (item :: items) = minor items + if item.isMinor then 1 else 0 :=
  List.countP_cons

theorem kept_cons (s : Sampler) (item : LogItem) (items : List LogItem) :
    s.kept (item :: items) =
      (s.passes item).2.kept items + if item.isMinor && (s.passes item).1 then 1 else 0 :=
  List.countP_cons

/-! ## One item -/

/-- What is not minor passes, and the sampler goes on as it was. -/
theorem passes_of_major (hs : s.mode = .sampled) (h : item.isMinor = false) : s.passes item = (true, s) := by
  cases item with
  | span severity => rfl
  | event severity =>
    have himportant : severity.isImportant = true := by simpa [LogItem.isMinor] using h
    simp [passes, hs, himportant]

theorem passes_of_minor (hs : s.mode = .sampled) (h : item.isMinor = true) : s.passes item = s.sample := by
  cases item with
  | span severity => cases h
  | event severity =>
    have hminor : severity.isImportant = false := by simpa [LogItem.isMinor] using h
    simp [passes, hs, hminor]

/-- Where nothing is to be kept, nothing is let pass. -/
theorem interval_of_isNonPositive (h : s.rate.isNonPositive = true) : s.interval = 0 := by
  unfold interval
  cases hrate : s.rate with
  | nan => rfl
  | infinite negative => rfl
  | finite negative m e =>
    rw [hrate] at h
    cases negative with
    | true => rfl
    | false =>
      have hm : m = 0 := by simpa [Binary64.isNonPositive] using h
      simp [Binary64.reciprocal, hm, Binary64.floorWord]

theorem sample_fst (s : Sampler) : s.sample.1 = (decide (0 < s.interval) && s.count.val % s.interval == 0) := by
  unfold sample
  split
  · rename_i h
    simp [interval_of_isNonPositive h]
  · rfl

theorem sample_snd (h : 0 < s.interval) : s.sample.2 = { s with count := s.count.advance 1 } := by
  unfold sample
  split
  · rename_i hnone
    rw [interval_of_isNonPositive hnone] at h
    exact absurd h (Nat.lt_irrefl 0)
  · rfl

/-- Sampling changes nothing but the count. -/
theorem exists_sample (s : Sampler) : ∃ n, s.sample.2 = { s with count := n } := by
  unfold sample
  split <;> exact ⟨_, rfl⟩

theorem exists_passes (hs : s.mode = .sampled) (item : LogItem) :
    ∃ n, (s.passes item).2 = { s with count := n } := by
  cases h : item.isMinor with
  | false => exact ⟨s.count, by rw [passes_of_major hs h]⟩
  | true =>
    rw [passes_of_minor hs h]
    exact s.exists_sample

/-! ## Items in order -/

/-- Whatever has been sampled before, what is not minor passes. -/
theorem passes_of_mem_log (hs : s.mode = .sampled) {entry : LogItem × Bool} (h : entry ∈ s.log items)
    (hmajor : entry.1.isMinor = false) : entry.2 = true := by
  induction items generalizing s with
  | nil => cases h
  | cons item rest ih =>
    rw [log_cons, List.mem_cons] at h
    rcases h with rfl | h
    · exact congrArg Prod.fst (passes_of_major hs hmajor)
    · obtain ⟨n, hn⟩ := exists_passes hs item
      exact ih (by rw [hn]; exact hs) h

/-- What has passed does not depend on what comes later. -/
theorem take_log (items : List LogItem) (n : ℕ) : (s.log items).take n = s.log (items.take n) := by
  induction items generalizing s n with
  | nil => simp [log]
  | cons item rest ih =>
    cases n with
    | zero => rfl
    | succ n => rw [log_cons, List.take_succ_cons, List.take_succ_cons, log_cons, ih]

/-- What is not minor makes no difference to the others. -/
theorem filter_log (hs : s.mode = .sampled) :
    (s.log items).filter (·.1.isMinor) = s.log (items.filter (·.isMinor)) := by
  induction items generalizing s with
  | nil => rfl
  | cons item rest ih =>
    rw [log_cons]
    cases hitem : item.isMinor with
    | false =>
      rw [List.filter_cons_of_neg (by simp [hitem]), List.filter_cons_of_neg (by simp [hitem]),
        passes_of_major hs hitem]
      exact ih hs
    | true =>
      obtain ⟨n, hn⟩ := exists_passes hs item
      rw [List.filter_cons_of_pos (by simp [hitem]), List.filter_cons_of_pos (by simp [hitem]), log_cons,
        ih (by rw [hn]; exact hs)]

theorem kept_of_interval_eq_zero (hs : s.mode = .sampled) (h : s.interval = 0) : s.kept items = 0 := by
  induction items generalizing s with
  | nil => rfl
  | cons item rest ih =>
    obtain ⟨n, hn⟩ := exists_passes hs item
    have hrest : (s.passes item).2.kept rest = 0 := by
      rw [hn]
      exact ih hs h
    rw [kept_cons, hrest]
    cases hitem : item.isMinor with
    | false => rfl
    | true => simp [passes_of_minor hs hitem, sample_fst, h]

/-- Of the minor items, numbered as they are counted, those pass whose numbers are multiples of the interval. -/
theorem kept_add_count (hs : s.mode = .sampled) (h : 0 < s.interval) (items : List LogItem)
    (hfew : s.count.val + minor items < UInt64.size) :
    s.kept items + s.count.val.count (· ≡ 0 [MOD s.interval]) =
      (s.count.val + minor items).count (· ≡ 0 [MOD s.interval]) := by
  induction items generalizing s with
  | nil => exact Nat.zero_add _
  | cons item rest ih =>
    rw [minor_cons] at hfew ⊢
    rw [kept_cons]
    cases hitem : item.isMinor with
    | false =>
      rw [hitem] at hfew
      rw [passes_of_major hs hitem]
      exact ih hs h hfew
    | true =>
      rw [hitem] at hfew
      have hnumber : s.count.val + 1 + minor rest = s.count.val + (minor rest + 1) := by omega
      have hadvanced : (s.count.advance 1).val = s.count.val + 1 :=
        Counter.val_advance_of_lt (Nat.lt_of_le_of_lt (Nat.add_le_add_left (Nat.le_add_left 1 _) _) hfew)
      have hrest : ({ s with count := s.count.advance 1 } : Sampler).kept rest +
          (s.count.val + 1).count (· ≡ 0 [MOD s.interval]) =
            (s.count.val + (minor rest + 1)).count (· ≡ 0 [MOD s.interval]) := by
        rw [← hnumber, ← hadvanced]
        exact ih hs h (by rwa [hadvanced, hnumber])
      have hcount := Nat.count_succ (· ≡ 0 [MOD s.interval]) s.count.val
      have hpass : s.sample.1 = true ↔ s.count.val ≡ 0 [MOD s.interval] := by simp [sample_fst, h, Nat.ModEq]
      rw [hcount] at hrest
      rw [passes_of_minor hs hitem, sample_snd h]
      simp only [Bool.true_and, hpass, if_true]
      omega

theorem kept_eq (hs : s.mode = .sampled) (hcount : s.count = .zero) {items : List LogItem}
    (hfew : minor items < UInt64.size) : s.kept items = ⌈(minor items : ℚ) / s.interval⌉₊ := by
  rcases Nat.eq_zero_or_pos s.interval with h | h
  · rw [kept_of_interval_eq_zero hs h, h, Nat.cast_zero, div_zero, Nat.ceil_zero]
  · have hzero : s.count.val = 0 := by rw [hcount, Counter.val_zero]
    have hkept := kept_add_count hs h items (by rwa [hzero, Nat.zero_add])
    rw [hzero, Nat.count_zero, Nat.add_zero, Nat.zero_add] at hkept
    have hceil := Nat.count_modEq_card_eq_ceil (minor items) h 0
    rw [Nat.zero_mod, Nat.cast_zero, sub_zero, ← hkept] at hceil
    rw [← Int.natCast_inj, hceil, Int.natCast_ceil_eq_ceil]
    positivity

/-! ## Fractions -/

/-- Right after an interval has begun, one more than the whole intervals before is kept. -/
theorem ceil_begun {k : ℕ} (hk : 0 < k) (j : ℕ) : ⌈((j * k + 1 : ℕ) : ℚ) / k⌉₊ = j + 1 := by
  have hk' : (1 : ℚ) ≤ k := Nat.one_le_cast.2 hk
  rw [Nat.ceil_eq_iff (Nat.succ_ne_zero j), Nat.add_one_sub_one, lt_div_iff₀ (by linarith), div_le_iff₀ (by linarith)]
  push_cast
  constructor <;> linarith

/-- If one of every `k` is kept, where fewer are asked for, then with each interval `1 - r * k` of an event is kept too
much. So what is kept stays close to the fraction until this has become the fraction itself. -/
theorem near_iff {k : ℕ} {r : ℚ} (hk : 0 < k) (hr : 0 < r) (hfew : r * k ≤ 1) (bound : ℕ) :
    (∀ n < bound, |(⌈(n : ℚ) / k⌉₊ : ℚ) - r * n| < 1) ↔ ∀ j : ℕ, j * k + 1 < bound → j * (1 - r * k) < r := by
  have hk' : (0 : ℚ) < k := Nat.cast_pos.2 hk
  constructor
  · intro h j hj
    have hclose := (abs_lt.1 (h (j * k + 1) hj)).2
    rw [ceil_begun hk] at hclose
    push_cast at hclose
    linarith
  · intro h n hn
    have hasked : r * n ≤ n / k := by
      rw [le_div_iff₀ hk', mul_right_comm]
      exact mul_le_of_le_one_left (Nat.cast_nonneg n) hfew
    have hkept : (n : ℚ) / k ≤ ⌈(n : ℚ) / k⌉₊ := Nat.le_ceil _
    refine abs_lt.2 ⟨by linarith, ?_⟩
    cases hc : ⌈(n : ℚ) / k⌉₊ with
    | zero =>
      have hasked' : 0 ≤ r * n := by positivity
      rw [Nat.cast_zero]
      linarith
    | succ j =>
      have hbegun : (j : ℚ) < n / k := by
        have hceil := Nat.ceil_lt_add_one (a := (n : ℚ) / k) (by positivity)
        rw [hc, Nat.cast_succ] at hceil
        linarith
      have hnumber : j * k + 1 ≤ n := by
        rw [lt_div_iff₀ hk'] at hbegun
        exact_mod_cast hbegun
      have hlater : r * (j * k + 1) ≤ r * n := mul_le_mul_of_nonneg_left (by exact_mod_cast hnumber) hr.le
      have hexcess := h j (Nat.lt_of_le_of_lt hnumber hn)
      push_cast
      linarith

/-- How many of one are asked for, and how many are kept: as many at least, and less than twice as many. -/
theorem interval_bounds {r : ℚ} (hpos : 0 < r) (hle : r ≤ 1) :
    0 < (⌊1 / r⌋₊ : ℚ) ∧ r * ⌊1 / r⌋₊ ≤ 1 ∧ 1 < 2 * r * ⌊1 / r⌋₊ := by
  have hone : 1 ≤ ⌊1 / r⌋₊ := Nat.le_floor (by rw [Nat.cast_one, le_div_iff₀ hpos, one_mul]; exact hle)
  have hone' : (1 : ℚ) ≤ ⌊1 / r⌋₊ := Nat.one_le_cast.2 hone
  have hbelow : (⌊1 / r⌋₊ : ℚ) ≤ 1 / r := Nat.floor_le (by positivity)
  have habove : 1 / r < ⌊1 / r⌋₊ + 1 := Nat.lt_floor_add_one _
  rw [le_div_iff₀ hpos] at hbelow
  rw [div_lt_iff₀ hpos] at habove
  have htwice : (⌊1 / r⌋₊ + 1) * r ≤ 2 * ⌊1 / r⌋₊ * r := mul_le_mul_of_nonneg_right (by linarith) hpos.le
  exact ⟨by linarith, by linarith, by linarith⟩

theorem mul_floor_eq_one_iff {r : ℚ} (hpos : 0 < r) : r * ⌊1 / r⌋₊ = 1 ↔ ∃ k : ℕ, r = 1 / k := by
  constructor
  · intro h
    exact ⟨_, eq_one_div_of_mul_eq_one_left h⟩
  · rintro ⟨k, rfl⟩
    have hk : (k : ℚ) ≠ 0 := by
      rintro hzero
      simp [hzero] at hpos
    rw [one_div_one_div, Nat.floor_natCast, one_div_mul_cancel hk]

theorem minor_replicate (n : ℕ) : minor (List.replicate n (.event .info)) = n := by
  rw [minor, List.countP_replicate]
  rfl

/-- A sampler that is asked for a fraction lets one of every so many minor events pass, as many as one divided by the
fraction comes to, rounded down. What is no minor event always passes, and makes no difference to the minor ones. Of
these there are never too few, and less than twice too many. What is kept stays within one event of the fraction if the
fraction is one of `1, 1/2, 1/3, …`; else it does so for as long as what is kept too much, interval by interval, is less
than the fraction. -/
theorem fraction_kept_iff (rate : Binary64) {r : ℚ} (hpos : 0 < r) (hle : r ≤ 1)
    (hexact : (start .sampled rate).interval = ⌊1 / r⌋₊) :
    (∀ items : List LogItem,
        (∀ n, ((start .sampled rate).log items).take n = (start .sampled rate).log (items.take n)) ∧
        (∀ entry ∈ (start .sampled rate).log items, entry.1.isMinor = false → entry.2 = true) ∧
        ((start .sampled rate).log items).filter (·.1.isMinor) =
          (start .sampled rate).log (items.filter (·.isMinor)) ∧
        (minor items < UInt64.size →
          (start .sampled rate).kept items = ⌈(minor items : ℚ) / ⌊1 / r⌋₊⌉₊ ∧
          r * minor items ≤ (start .sampled rate).kept items ∧
          ((start .sampled rate).kept items : ℚ) < 2 * r * minor items + 1)) ∧
      ∀ bound ≤ UInt64.size,
        (∀ items : List LogItem, minor items < bound →
          |((start .sampled rate).kept items : ℚ) - r * minor items| < 1) ↔
        (∃ k : ℕ, r = 1 / k) ∨ ∀ j : ℕ, j * ⌊1 / r⌋₊ + 1 < bound → j * (1 - r * ⌊1 / r⌋₊) < r := by
  have hkept {items : List LogItem} (hfew : minor items < UInt64.size) :
      (start .sampled rate).kept items = ⌈(minor items : ℚ) / ⌊1 / r⌋₊⌉₊ := by
    rw [kept_eq rfl rfl hfew, hexact]
  obtain ⟨hinterval, hfew, hmany⟩ := interval_bounds hpos hle
  refine ⟨fun items => ⟨take_log items, fun _ => passes_of_mem_log rfl, filter_log rfl, fun hitems => ?_⟩, ?_⟩
  · refine ⟨hkept hitems, ?_, ?_⟩
    · have hasked : r * minor items ≤ minor items / ⌊1 / r⌋₊ := by
        rw [le_div_iff₀ hinterval, mul_right_comm]
        exact mul_le_of_le_one_left (Nat.cast_nonneg _) hfew
      rw [hkept hitems]
      exact hasked.trans (Nat.le_ceil _)
    · have hasked : (minor items : ℚ) / ⌊1 / r⌋₊ ≤ 2 * r * minor items := by
        rw [div_le_iff₀ hinterval, mul_right_comm]
        exact le_mul_of_one_le_left (Nat.cast_nonneg _) hmany.le
      rw [hkept hitems]
      exact (Nat.ceil_lt_add_one (by positivity)).trans_le (by linarith)
  · intro bound hbound
    have hnear := near_iff (Nat.cast_pos.1 hinterval) hpos hfew bound
    have hexcess : (∃ k : ℕ, r = 1 / k) → ∀ j : ℕ, j * ⌊1 / r⌋₊ + 1 < bound → j * (1 - r * ⌊1 / r⌋₊) < r := by
      intro hwhole j _
      rwa [(mul_floor_eq_one_iff hpos).2 hwhole, sub_self, mul_zero]
    rw [or_iff_right_of_imp hexcess, ← hnear]
    constructor
    · intro h n hn
      have hclose := h (List.replicate n (.event .info)) (by rwa [minor_replicate])
      rwa [hkept (by rw [minor_replicate]; exact hn.trans_le hbound), minor_replicate] at hclose
    · intro h items hitems
      rw [hkept (hitems.trans_le hbound)]
      exact h (minor items) hitems

/-- Of the minor events in production, of which a tenth is to be logged, a tenth is logged. -/
theorem production_tenth_kept : 0 < (1 / 10 : ℚ) ∧ (1 / 10 : ℚ) ≤ 1 ∧
    (start .sampled Logging.production.rate).interval = ⌊1 / (1 / 10 : ℚ)⌋₊ ∧
    ∀ items, minor items < UInt64.size →
      |((start .sampled Logging.production.rate).kept items : ℚ) - 1 / 10 * minor items| < 1 := by
  have hexact : (start .sampled Logging.production.rate).interval = ⌊1 / (1 / 10 : ℚ)⌋₊ := by
    rw [one_div_one_div, Nat.floor_ofNat]
    decide +kernel
  refine ⟨by norm_num, by norm_num, hexact, ?_⟩
  exact ((fraction_kept_iff Logging.production.rate (by norm_num) (by norm_num) hexact).2 _ le_rfl).2
    (.inl ⟨10, by norm_num⟩)

/-- Where three quarters of the events are to be logged, all of them are, and after four that is one too many. -/
theorem threeQuarters_all_kept :
    (start .sampled (.ofRatio 3 4)).interval = ⌊1 / (3 / 4 : ℚ)⌋₊ ∧
      (start .sampled (.ofRatio 3 4)).passesAll (List.replicate 8 (.event .info)) = List.replicate 8 true ∧
      ¬|((start .sampled (.ofRatio 3 4)).kept (List.replicate 8 (.event .info)) : ℚ) -
          3 / 4 * minor (List.replicate 8 (.event .info))| < 1 := by
  have hpasses : (start .sampled (.ofRatio 3 4)).passesAll (List.replicate 8 (.event .info)) = List.replicate 8 true := by
    decide +kernel
  have hkept : (start .sampled (.ofRatio 3 4)).kept (List.replicate 8 (.event .info)) = 8 := by
    rw [kept, log, hpasses]
    rfl
  refine ⟨?_, hpasses, ?_⟩
  · have hfloor : ⌊1 / (3 / 4 : ℚ)⌋₊ = 1 := by norm_num [Nat.floor_eq_iff]
    rw [hfloor]
    decide +kernel
  · rw [hkept, minor_replicate]
    norm_num

end Sampler

end Portcullis
