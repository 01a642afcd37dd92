import Mathlib.Algebra.BigOperators.Fin
import Mathlib.Algebra.Order.Floor.Div
import Mathlib.Data.FinEnum
import Mathlib.Data.Fintype.BigOperators
import Mathlib.Order.Interval.Finset.Nat
import Mathlib.Tactic.Ring
import RouterBinding.Placement.Choice

/-!
# Every index is equally likely

The words that choose an index are those whose product with the number of things lies in a window
of the product's range, and all windows have the same length, a multiple of that number. So each
index has the same number of accepted words (`Choice.card_words_of_index`), and at least half of
all words are accepted. A stream of words chooses by the first one that is accepted: word by word
(`Choice.streams_succ`) each index gets the same number of streams, and `Draws.choose` takes the
item at the index that its stream chooses (`Draws.choose_of_first`).
-/

namespace RouterBinding

namespace Choice

open Finset

/-- The number of zeros in front of a number that is written with 32 bits. -/
def leadingZeros (n : Nat) : Nat := (BitVec.ofNat 32 n).clz.toNat

variable {n i : Nat} {x : UInt32}

/-! ## One word -/

section Word

theorem log_add_leading_zeros (hpos : 0 < n) (hword : n < UInt32.size) :
    n.log2 + leadingZeros n = 31 := by
  have hnat : (BitVec.ofNat 32 n).toNat = n := by
    rw [BitVec.toNat_ofNat]
    exact Nat.mod_eq_of_lt hword
  have hne : BitVec.ofNat 32 n ≠ 0#32 := fun h => by
    rw [h] at hnat
    exact hpos.ne hnat
  have hlow := BitVec.two_pow_sub_clz_le_toNat_of_ne_zero (by decide) hne
  have hhigh := BitVec.toNat_lt_two_pow_sub_clz (x := BitVec.ofNat 32 n)
  have hzeros : leadingZeros n < 32 := BitVec.lt_def.1 (BitVec.clz_lt_iff_ne_zero.2 hne)
  rw [hnat] at hlow hhigh
  have hlog : n.log2 = 31 - leadingZeros n := by
    refine (Nat.log2_eq_iff hpos.ne').2 ⟨hlow, ?_⟩
    rwa [show 31 - leadingZeros n + 1 = 32 - leadingZeros n by omega]
  omega

/-- The accepted lower halves are as many as the largest product of the number of things with a
power of two that a word can hold. -/
theorem zone_add_one (hpos : 0 < n) (hword : n < UInt32.size) :
    zone n + 1 = n * 2 ^ leadingZeros n := by
  have hlog := log_add_leading_zeros hpos hword
  have : 0 < n * 2 ^ leadingZeros n := Nat.mul_pos hpos (Nat.two_pow_pos _)
  rw [zone, Nat.shiftLeft_eq, show 31 - n.log2 = leadingZeros n by omega]
  omega

/-- They are at least half of all lower halves. -/
theorem zone_bounds (hpos : 0 < n) (hword : n < UInt32.size) :
    n * 2 ^ leadingZeros n < UInt32.size ∧ UInt32.size ≤ 2 * (n * 2 ^ leadingZeros n) := by
  have hlog := log_add_leading_zeros hpos hword
  have hlow : 2 ^ n.log2 ≤ n := Nat.log2_self_le hpos.ne'
  have hhigh : n < 2 ^ (n.log2 + 1) := Nat.lt_log2_self
  have hsize : 2 ^ n.log2 * 2 ^ leadingZeros n = 2 ^ 31 := by rw [← pow_add, hlog]
  constructor
  · calc n * 2 ^ leadingZeros n < 2 ^ (n.log2 + 1) * 2 ^ leadingZeros n :=
          Nat.mul_lt_mul_of_pos_right hhigh (Nat.two_pow_pos _)
      _ = UInt32.size := by rw [pow_succ, mul_right_comm, hsize]; rfl
  · calc UInt32.size = 2 * (2 ^ n.log2 * 2 ^ leadingZeros n) := by rw [hsize]; rfl
      _ ≤ 2 * (n * 2 ^ leadingZeros n) := by gcongr

/-- A word is accepted for an index if its product with the number of things lies in the window of
the index. -/
theorem accepted_iff_window (hpos : 0 < n) (hword : n < UInt32.size) :
    accepts n x ∧ index n x = i ↔ i * UInt32.size ≤ n * x.toNat ∧
      n * x.toNat < i * UInt32.size + n * 2 ^ leadingZeros n := by
  have hzone := zone_add_one hpos hword
  have hbound := (zone_bounds hpos hword).1
  have haccepts : accepts n x ↔ n * x.toNat % UInt32.size < n * 2 ^ leadingZeros n := by
    rw [accepts, decide_eq_true_eq, ← hzone, Nat.lt_succ_iff, mul_comm n]
  rw [haccepts, index, mul_comm x.toNat n]
  generalize n * x.toNat = m
  generalize n * 2 ^ leadingZeros n = length at hbound
  have hsize : 0 < UInt32.size := by decide
  have hsplit := Nat.div_add_mod m UInt32.size
  have hrest := Nat.mod_lt m hsize
  constructor
  · rintro ⟨hlt, rfl⟩
    rw [mul_comm]
    omega
  · rintro ⟨hlow, hhigh⟩
    have hindex : m / UInt32.size = i := by
      refine Nat.div_eq_of_lt_le hlow ?_
      rw [Nat.succ_mul]
      omega
    subst hindex
    rw [mul_comm] at hhigh
    exact ⟨by omega, rfl⟩

/-- In a window whose length is a multiple of `n` there are as many multiples of `n`. -/
theorem window_eq_interval (hpos : 0 < n) (start count m : Nat) :
    start ≤ n * m ∧ n * m < start + n * count ↔
      m ∈ Ico (start ⌈/⌉ n) (start ⌈/⌉ n + count) := by
  rw [mem_Ico, ceilDiv_le_iff_le_mul hpos]
  refine and_congr_right fun _ => ?_
  by_cases hm : m < count
  · have : n * m < n * count := Nat.mul_lt_mul_of_pos_left hm hpos
    exact iff_of_true (by omega) (by omega)
  · obtain ⟨k, rfl⟩ := Nat.exists_eq_add_of_le (Nat.le_of_not_lt hm)
    have hk : k < start ⌈/⌉ n ↔ n * k < start := by
      rw [← not_le, ceilDiv_le_iff_le_mul hpos, not_le]
    rw [mul_add, add_comm start, Nat.add_lt_add_iff_left, add_comm (start ⌈/⌉ n),
      Nat.add_lt_add_iff_left, hk]

/-- Every index has the same number of accepted words. -/
theorem card_words_of_index (hpos : 0 < n) (hword : n < UInt32.size) (hi : i < n) :
    #{x : UInt32 | accepts n x ∧ index n x = i} = 2 ^ leadingZeros n := by
  have hmem (x : UInt32) : accepts n x ∧ index n x = i ↔
      x.toNat ∈ Ico (i * UInt32.size ⌈/⌉ n) (i * UInt32.size ⌈/⌉ n + 2 ^ leadingZeros n) := by
    rw [accepted_iff_window hpos hword, window_eq_interval hpos]
  -- every number of the interval is a word, as the window ends within the range of the products
  have hrange : ∀ m ∈ Ico (i * UInt32.size ⌈/⌉ n) (i * UInt32.size ⌈/⌉ n + 2 ^ leadingZeros n),
      m < UInt32.size := fun m hm => by
    refine Nat.lt_of_mul_lt_mul_left (a := n) ?_
    calc n * m < i * UInt32.size + n * 2 ^ leadingZeros n :=
          ((window_eq_interval hpos _ _ m).2 hm).2
      _ ≤ i * UInt32.size + UInt32.size := Nat.add_le_add_left (zone_bounds hpos hword).1.le _
      _ = (i + 1) * UInt32.size := (Nat.succ_mul _ _).symm
      _ ≤ n * UInt32.size := Nat.mul_le_mul_right _ hi
  calc #{x : UInt32 | accepts n x ∧ index n x = i}
      = #(Ico (i * UInt32.size ⌈/⌉ n) (i * UInt32.size ⌈/⌉ n + 2 ^ leadingZeros n)) := by
        refine card_nbij' UInt32.toNat UInt32.ofNat ?_ ?_ ?_ ?_
        · intro x hx
          exact (hmem x).1 (by simpa using hx)
        · intro m hm
          have hnat := UInt32.toNat_ofNat_of_lt' (hrange m hm)
          simpa [hmem, hnat] using hm
        · exact fun x _ => UInt32.ofNat_toNat
        · exact fun m hm => UInt32.toNat_ofNat_of_lt' (hrange m hm)
    _ = 2 ^ leadingZeros n := by rw [Nat.card_Ico, Nat.add_sub_cancel_left]

/-- The number of accepted words. -/
theorem card_accepted (hpos : 0 < n) (hword : n < UInt32.size) :
    #{x : UInt32 | accepts n x} = n * 2 ^ leadingZeros n := by
  have hmaps : ∀ x ∈ ({x : UInt32 | accepts n x} : Finset UInt32), index n x ∈ range n :=
    fun x _ => mem_range.2 (index_lt x hpos)
  rw [card_eq_sum_card_fiberwise hmaps, sum_congr rfl fun i hi => ?_, sum_const, card_range,
    smul_eq_mul]
  rw [filter_filter]
  exact card_words_of_index hpos hword (mem_range.1 hi)

/-- The same rule in the arithmetic of words: the number of things is shifted, and multiplied with a
word, without a loss. -/
theorem machine_words (hpos : 0 < n) (hword : n < UInt32.size) (x : UInt32) :
    (accepts n x ↔ (x.toUInt64 * UInt64.ofNat n).toUInt32 ≤
      (UInt32.ofNat n <<< UInt32.ofNat (leadingZeros n)) - 1) ∧
    index n x = ((x.toUInt64 * UInt64.ofNat n) >>> 32).toNat := by
  have hproduct : (x.toUInt64 * UInt64.ofNat n).toNat = x.toNat * n := by
    have hbound : x.toNat * n < UInt32.size * UInt32.size := Nat.mul_lt_mul'' x.toNat_lt hword
    have hfactor : (UInt64.ofNat n).toNat = n :=
      UInt64.toNat_ofNat_of_lt' (Nat.lt_trans hword (by decide))
    rw [UInt64.toNat_mul, UInt32.toNat_toUInt64, hfactor]
    exact Nat.mod_eq_of_lt hbound
  have hshift : (UInt32.ofNat n <<< UInt32.ofNat (leadingZeros n)).toNat = zone n + 1 := by
    have hlog := log_add_leading_zeros hpos hword
    have hzeros : (UInt32.ofNat (leadingZeros n)).toNat = leadingZeros n :=
      UInt32.toNat_ofNat_of_lt' (Nat.lt_of_le_of_lt (m := 31) (by omega) (by decide))
    rw [UInt32.toNat_shiftLeft, UInt32.toNat_ofNat_of_lt' hword, hzeros, Nat.shiftLeft_eq,
      Nat.mod_eq_of_lt (a := leadingZeros n) (by omega), zone_add_one hpos hword]
    exact Nat.mod_eq_of_lt (zone_bounds hpos hword).1
  have hzone : ((UInt32.ofNat n <<< UInt32.ofNat (leadingZeros n)) - 1).toNat = zone n := by
    have hone : (1 : UInt32) ≤ UInt32.ofNat n <<< UInt32.ofNat (leadingZeros n) := by
      rw [UInt32.le_iff_toNat_le, hshift]
      exact Nat.le_add_left 1 _
    rw [UInt32.toNat_sub_of_le _ _ hone, hshift]
    exact Nat.add_sub_cancel (zone n) 1
  constructor
  · rw [accepts, decide_eq_true_eq, UInt32.le_iff_toNat_le, hzone, UInt64.toNat_toUInt32, hproduct]
  · rw [UInt64.toNat_shiftRight, hproduct, index, Nat.shiftRight_eq_div_pow]
    rfl

end Word

/-! ## A stream of words -/

section Stream

variable {α β : Type} [Fintype α] [DecidableEq β]

/-- The number of streams of `k` words whose first word that chooses makes this choice, or in which
no word chooses. -/
def streams (f : α → Option β) (k : Nat) (choice : Option β) : Nat :=
  #{words : Fin k → α | (List.ofFn words).findSome? f = choice}

/-- The first word chooses, whatever follows, or leaves the choice to what follows. -/
theorem streams_succ (f : α → Option β) (k : Nat) (choice : Option β) :
    streams f (k + 1) choice =
      #{x | f x ≠ none ∧ f x = choice} * Fintype.card α ^ k +
        #{x | f x = none} * streams f k choice := by
  have hcons (x : α) (words : Fin k → α) :
      (if (List.ofFn (Fin.cons x words : Fin (k + 1) → α)).findSome? f = choice then 1 else 0) =
        (if f x ≠ none ∧ f x = choice then 1 else 0) +
          (if f x = none then 1 else 0) *
            (if (List.ofFn words).findSome? f = choice then 1 else 0) := by
    rw [List.ofFn_cons, List.findSome?_cons]
    cases f x <;> simp
  calc streams f (k + 1) choice
      = ∑ x, ∑ words : Fin k → α, if (List.ofFn (Fin.cons x words : Fin (k + 1) → α)).findSome? f =
          choice then 1 else 0 := by
        rw [streams, card_filter, ← Fintype.sum_prod_type', ← (Fin.consEquiv fun _ => α).sum_comp]
        rfl
    _ = _ := by
        simp only [hcons, sum_add_distrib, sum_const, ← mul_sum, ← sum_mul, ← card_filter, streams,
          card_univ, Fintype.card_fun, Fintype.card_fin, smul_eq_mul]
        rw [mul_comm (Fintype.card α ^ k)]

/-- No word of a stream chooses if none of them does. -/
theorem streams_none (f : α → Option β) (k : Nat) : streams f k none = #{x | f x = none} ^ k := by
  induction k with
  | zero => simp [streams]
  | succ k ih =>
    have : #{x | f x ≠ none ∧ f x = none} = 0 := by simp
    rw [streams_succ, this, ih, Nat.zero_mul, Nat.zero_add, pow_succ']

end Stream

/-- The index that a word chooses, if it is accepted. -/
def pick? (n : Nat) (x : UInt32) : Option Nat := if accepts n x then some (index n x) else none

theorem pick_eq_none_iff : pick? n x = none ↔ ¬accepts n x := by
  by_cases h : accepts n x <;> simp [pick?, h]

theorem pick_eq_some_iff : pick? n x = some i ↔ accepts n x ∧ index n x = i := by
  by_cases h : accepts n x <;> simp [pick?, h]

theorem card_words : Fintype.card UInt32 = UInt32.size := by
  rw [← FinEnum.card_eq_fintypeCard]
  rfl

theorem card_rejected (hpos : 0 < n) (hword : n < UInt32.size) :
    n * 2 ^ leadingZeros n + #{x | pick? n x = none} = UInt32.size := by
  have hsplit := card_filter_add_card_filter_not (s := univ) fun x : UInt32 => accepts n x = true
  simp only [pick_eq_none_iff]
  rw [← card_accepted hpos hword, hsplit, card_univ, card_words]

/-- Each index is chosen by an `n`-th of the streams that choose. -/
theorem streams_of_index (hpos : 0 < n) (hword : n < UInt32.size) (hi : i < n) (k : Nat) :
    n * streams (pick? n) k (some i) + streams (pick? n) k none = UInt32.size ^ k := by
  have hrejected := card_rejected hpos hword
  have haccepted : #{x | pick? n x ≠ none ∧ pick? n x = some i} = 2 ^ leadingZeros n := by
    rw [← card_words_of_index hpos hword hi]
    refine congrArg card (filter_congr fun x _ => ?_)
    rw [pick_eq_some_iff, ne_eq, pick_eq_none_iff, not_not]
    exact and_iff_right_of_imp And.left
  induction k with
  | zero => simp [streams]
  | succ k ih =>
    have hnone : streams (pick? n) (k + 1) none =
        #{x | pick? n x = none} * streams (pick? n) k none := by
      rw [streams_none, streams_none, pow_succ']
    rw [streams_succ, haccepted, card_words, hnone]
    calc n * (2 ^ leadingZeros n * UInt32.size ^ k +
            #{x | pick? n x = none} * streams (pick? n) k (some i)) +
          #{x | pick? n x = none} * streams (pick? n) k none
        = n * 2 ^ leadingZeros n * UInt32.size ^ k + #{x | pick? n x = none} *
            (n * streams (pick? n) k (some i) + streams (pick? n) k none) := by ring
      _ = (n * 2 ^ leadingZeros n + #{x | pick? n x = none}) * UInt32.size ^ k := by
          rw [ih, Nat.add_mul]
      _ = UInt32.size ^ (k + 1) := by rw [hrejected, pow_succ']

/-- With every word at least half of the streams that have not chosen choose. -/
theorem streams_undecided (hpos : 0 < n) (hword : n < UInt32.size) (k : Nat) :
    2 ^ k * streams (pick? n) k none ≤ UInt32.size ^ k := by
  have hrejected := card_rejected hpos hword
  have hbounds := (zone_bounds hpos hword).2
  rw [streams_none, ← mul_pow]
  exact Nat.pow_le_pow_left (by omega) k

end Choice

/-! ## The words that a choice draws -/

theorem ChaCha.word_add_period (key : ChaCha.Words) (i m : Nat) :
    ChaCha.word key (i + m * ChaCha.period) = ChaCha.word key i := by
  have hperiod : m * ChaCha.period = m * UInt64.size * 16 := by
    rw [ChaCha.period, Nat.mul_assoc]
  have hblock : ((i + m * ChaCha.period) / 16).toUInt64 = (i / 16).toUInt64 := by
    rw [hperiod, Nat.add_mul_div_right _ _ (by decide)]
    refine UInt64.toNat_inj.1 ?_
    simp only [Nat.toUInt64_eq, UInt64.toNat_ofNat']
    exact Nat.add_mul_mod_self_right _ _ _
  have hplace : (i + m * ChaCha.period) % 16 = i % 16 := by
    rw [hperiod, Nat.add_mul_mod_self_right]
  rw [ChaCha.word, ChaCha.word, hblock, hplace]

namespace Draws

open Choice

variable {n i k : Nat}

/-- The next `k` words. -/
def words : (k : Nat) → Draws → List UInt32
  | 0, _ => []
  | k + 1, d => d.word :: words k d.next

theorem mem_words {x : UInt32} {k : Nat} {d : Draws} :
    x ∈ d.words k ↔ ∃ j < k, ChaCha.word d.key (d.drawn + j) = x := by
  induction k generalizing d with
  | zero => simp [words]
  | succ k ih =>
    rw [words, List.mem_cons, ih]
    constructor
    · rintro (rfl | ⟨j, hj, rfl⟩)
      · exact ⟨0, by omega, rfl⟩
      · exact ⟨j + 1, by omega, by rw [next, Nat.add_right_comm, Nat.add_assoc]⟩
    · rintro ⟨j, hj, rfl⟩
      cases j with
      | zero => exact .inl rfl
      | succ j => exact .inr ⟨j, by omega, by rw [next, Nat.add_right_comm, Nat.add_assoc]⟩

/-- Streams of two lengths begin alike. -/
theorem words_add (k m : Nat) (d : Draws) : ∃ more, d.words (k + m) = d.words k ++ more := by
  induction k generalizing d with
  | zero => exact ⟨_, by rw [Nat.zero_add, words, List.nil_append]⟩
  | succ k ih =>
    obtain ⟨more, h⟩ := ih d.next
    exact ⟨more, by rw [Nat.succ_add, words, words, h, List.cons_append]⟩

/-- What the next words choose is found if so many of them may be rejected. -/
theorem index_of_first {bound : Nat} (hk : k ≤ bound) {d : Draws}
    (h : (d.words k).findSome? (pick? n) = some i) : (index n bound d).1 = i := by
  induction k generalizing bound d with
  | zero => simp [words] at h
  | succ k ih =>
    obtain ⟨bound, rfl⟩ := Nat.exists_eq_succ_of_ne_zero (by omega : bound ≠ 0)
    rw [words, List.findSome?_cons, pick?] at h
    rw [index]
    split
    next haccepts =>
      rw [if_pos haccepts] at h
      exact Option.some.inj h
    next haccepts =>
      rw [if_neg haccepts] at h
      exact ih (Nat.le_of_succ_le_succ hk) h

/-- If any words to come choose, those that may be rejected do so already: they are all words of
the keystream. -/
theorem first_of_patience {d : Draws} (h : (d.words k).findSome? (pick? n) = some i) :
    (d.words patience).findSome? (pick? n) = some i := by
  rcases Nat.le_total k patience with hk | hk
  · obtain ⟨m, hm⟩ := Nat.exists_eq_add_of_le hk
    obtain ⟨more, hmore⟩ := words_add k m d
    rw [hm, hmore, List.findSome?_append, h, Option.some_or]
  · obtain ⟨m, rfl⟩ := Nat.exists_eq_add_of_le hk
    obtain ⟨more, hmore⟩ := words_add patience m d
    cases hfirst : (d.words patience).findSome? (pick? n) with
    | some j => rwa [hmore, List.findSome?_append, hfirst, Option.some_or] at h
    | none =>
      obtain ⟨x, hx, hpick⟩ := List.exists_of_findSome?_eq_some h
      obtain ⟨j, -, rfl⟩ := mem_words.1 hx
      have hword : ChaCha.word d.key (d.drawn + j % patience) =
          ChaCha.word d.key (d.drawn + j) := by
        rw [← ChaCha.word_add_period d.key (d.drawn + j % patience) (j / patience), Nat.add_assoc]
        congr 2
        exact Nat.mod_add_div' j patience
      have hnone := List.findSome?_eq_none_iff.1 hfirst _
        (mem_words.2 ⟨j % patience, Nat.mod_lt j (by decide), hword⟩)
      rw [hnone] at hpick
      cases hpick

/-- The item at the index that the words to come choose. -/
theorem choose_of_first {α : Type} {items : List α} (hpos : 0 < items.length) {d : Draws}
    (h : (d.words k).findSome? (pick? items.length) = some i) :
    (d.choose items).1 = items[i]? := by
  have hnil : items.isEmpty = false := by simpa using List.length_pos_iff.1 hpos
  rw [choose, hnil, if_neg Bool.false_ne_true,
    ← index_of_first (Nat.le_refl patience) (first_of_patience h)]

open Finset in
/-- A choice from `n` things is uniform. Each index below `n` is that of as many accepted words, no
other index is that of any, and at least half of all words are accepted. Of the streams of `k` words
each index has the same number, and at most one in `2 ^ k` streams chooses nothing. The choice is
one of the things, the one at the index that the words to come choose. -/
theorem choice_uniform (hpos : 0 < n) (hword : n < UInt32.size) :
    (∀ x, accepts n x ↔ (x.toUInt64 * UInt64.ofNat n).toUInt32 ≤
      (UInt32.ofNat n <<< UInt32.ofNat (leadingZeros n)) - 1) ∧
    (∀ x, Choice.index n x = ((x.toUInt64 * UInt64.ofNat n) >>> 32).toNat) ∧
    (∀ x, accepts n x → Choice.index n x < n) ∧
    (∀ i < n, #{x : UInt32 | accepts n x ∧ Choice.index n x = i} = 2 ^ leadingZeros n) ∧
    UInt32.size ≤ 2 * #{x : UInt32 | accepts n x} ∧
    (∀ k, ∀ i < n, n * streams (pick? n) k (some i) + streams (pick? n) k none =
      UInt32.size ^ k) ∧
    (∀ k, 2 ^ k * streams (pick? n) k none ≤ UInt32.size ^ k) ∧
    ∀ {α : Type} (items : List α) (d : Draws), items.length = n →
      (∃ a ∈ items, (d.choose items).1 = some a) ∧
      ∀ k i, (d.words k).findSome? (pick? n) = some i → (d.choose items).1 = items[i]? := by
  refine ⟨fun x => (machine_words hpos hword x).1, fun x => (machine_words hpos hword x).2,
    fun x _ => Choice.index_lt x hpos, fun i hi => card_words_of_index hpos hword hi, ?_,
    fun k i hi => streams_of_index hpos hword hi k, streams_undecided hpos hword, ?_⟩
  · rw [card_accepted hpos hword]
    exact (zone_bounds hpos hword).2
  · rintro α items d rfl
    exact ⟨choose_mem (List.length_pos_iff.1 hpos) d, fun k i h => choose_of_first hpos h⟩

open Finset in
/-- Of three agents each has `2 ^ 30` accepted words. From the seed 3 the first word is rejected and
the second one chooses the first agent. -/
theorem choice_uniform_three_agents :
    (0 < 3 ∧ 3 < UInt32.size) ∧
    #{x : UInt32 | accepts 3 x ∧ Choice.index 3 x = 2} = 2 ^ 30 ∧
    3 * streams (pick? 3) 2 (some 2) + streams (pick? 3) 2 none = UInt32.size ^ 2 ∧
    accepts 3 (ofSeed 3).word = false ∧ ((ofSeed 3).choose ["a1", "a2", "a3"]).1 = some "a1" := by
  obtain ⟨-, -, -, hwords, -, hstreams, -, hitems⟩ :=
    choice_uniform (n := 3) (by decide) (by decide)
  have hzeros : leadingZeros 3 = 30 := by decide +kernel
  have hfirst : ((ofSeed 3).words 2).findSome? (pick? 3) = some 0 := by decide +kernel
  refine ⟨by decide, ?_, hstreams 2 2 (by decide), by decide +kernel, ?_⟩
  · rw [hwords 2 (by decide), hzeros]
  · exact (hitems ["a1", "a2", "a3"] (ofSeed 3) rfl).2 2 0 hfirst

end Draws

end RouterBinding
