import Mathlib
import HostTools.Url.Punycode

set_option autoImplicit false

namespace HostTools.Punycode

theorem threshold_le (position bias : Nat) : threshold position bias ≤ 26 := by
  unfold threshold
  split
  · omega
  · split <;> omega

section

variable (P : Char → Prop) (digit : ∀ value < 36, P (digitChar value))

include digit

theorem distance_each (bias position value : Nat) : ∀ c ∈ distance bias position value, P c := by
  fun_induction distance bias position value with
  | case1 position value t below =>
      have bound : t ≤ 26 := threshold_le position bias
      intro c member
      rw [List.mem_singleton.mp member]
      exact digit value (by omega)
  | case2 position value t above ih =>
      have bound : t ≤ 26 := threshold_le position bias
      have rest : (value - t) % (36 - t) < 36 - t := Nat.mod_lt _ (by omega)
      exact List.forall_mem_cons.mpr ⟨digit _ (by omega), ih⟩

theorem pass_each (basic number : Nat) (writer : Writer) (label : List Char) (each : ∀ c ∈ writer.reversed, P c) :
    ∀ c ∈ (pass basic number writer label).reversed, P c := by
  induction label generalizing writer with
  | nil => exact each
  | cons c rest ih =>
      rw [pass]
      split
      · exact ih _ each
      · split
        · apply ih
          refine List.forall_mem_append.mpr ⟨?_, each⟩
          exact fun d member => distance_each P digit _ _ _ d (List.mem_reverse.mp member)
        · exact ih _ each

theorem passes_each (label : List Char) (basic next : Nat) (writer : Writer) (numbers : List Nat)
    (each : ∀ c ∈ writer.reversed, P c) : ∀ c ∈ (passes label basic next writer numbers).reversed, P c := by
  induction numbers generalizing next writer with
  | nil => exact each
  | cons number more ih => exact ih _ _ (pass_each P digit basic number _ label each)

theorem encode_each (label : List Char) (hyphen : P '-') (basic : ∀ c ∈ label, isBasic c = true → P c) :
    ∀ c ∈ encode label, P c := by
  refine List.forall_mem_append.mpr ⟨List.forall_mem_append.mpr ⟨?_, ?_⟩, ?_⟩
  · exact fun c member => basic c (List.mem_of_mem_filter member) (List.of_mem_filter member)
  · split
    · simp
    · simpa using hyphen
  · intro c member
    exact passes_each P digit label _ _ _ _ (by simp) c (List.mem_reverse.mp member)

end

theorem distance_two (bias position value : Nat) (large : 26 ≤ value) : 2 ≤ (distance bias position value).length := by
  have bound := threshold_le position bias
  rw [distance, if_neg (by omega), distance]
  split <;> simp

-- The first digit leaves at least a 35th of what is above its threshold.
theorem distance_three (bias position value : Nat) (large : 911 ≤ value) :
    3 ≤ (distance bias position value).length := by
  have low := one_le_threshold position bias
  have high := threshold_le position bias
  have rest : 26 ≤ (value - threshold position bias) / (36 - threshold position bias) := by
    rw [Nat.le_div_iff_mul_le (by omega)]
    omega
  have further := distance_two bias (position + 36) _ rest
  rw [distance, if_neg (by omega), List.length_cons]
  omega

theorem pass_before (basic number : Nat) (writer : Writer) (front rest : List Char)
    (before : ∀ c ∈ front, c.toNat < number) :
    pass basic number writer (front ++ rest) =
      pass basic number { writer with delta := writer.delta + front.length } rest := by
  induction front generalizing writer with
  | nil => rfl
  | cons c front ih =>
      rw [List.cons_append, pass, if_pos (before c List.mem_cons_self),
        ih _ fun d later => before d (List.mem_cons_of_mem c later), List.length_cons]
      simp only [Nat.add_assoc, Nat.add_comm 1]

theorem pass_after (basic number : Nat) (writer : Writer) (back : List Char) (after : ∀ c ∈ back, number < c.toNat) :
    pass basic number writer back = writer := by
  induction back with
  | nil => rfl
  | cons c back ih =>
      have own := after c List.mem_cons_self
      rw [pass, if_neg (by omega), if_neg (by omega)]
      exact ih fun d later => after d (List.mem_cons_of_mem c later)

theorem pass_own (basic : Nat) (writer : Writer) (front back : List Char) (c : Char)
    (before : ∀ d ∈ front, d.toNat < c.toNat) (after : ∀ d ∈ back, c.toNat < d.toNat) :
    pass basic c.toNat writer (front ++ c :: back) =
      { delta := 0
        bias := adapt (writer.delta + front.length) (writer.placed + 1) (writer.placed = basic)
        placed := writer.placed + 1
        reversed := (distance writer.bias 36 (writer.delta + front.length)).reverse ++ writer.reversed } := by
  rw [pass_before basic c.toNat writer front _ before, pass, if_neg (Nat.lt_irrefl _), if_pos rfl,
    pass_after basic c.toNat _ back after]

-- Characters in the order of their numbers, with at least 28 others before each.
def Sparse : Nat → List Char → Prop
  | _, [] => True
  | next, c :: rest => next + 28 ≤ c.toNat ∧ Sparse (c.toNat + 1) rest

theorem sparse_above (next : Nat) (text : List Char) (sparse : Sparse next text) : ∀ c ∈ text, next ≤ c.toNat := by
  induction text generalizing next with
  | nil => simp
  | cons c rest ih =>
      obtain ⟨far, later⟩ := sparse
      refine List.forall_mem_cons.mpr ⟨by omega, ?_⟩
      intro d member
      have bound := ih _ later d member
      omega

theorem sparse_sorted (next : Nat) (text : List Char) (sparse : Sparse next text) :
    (text.map Char.toNat).Pairwise (· < ·) := by
  induction text generalizing next with
  | nil => exact List.Pairwise.nil
  | cons c rest ih =>
      refine List.Pairwise.cons ?_ (ih _ sparse.2)
      intro number member
      obtain ⟨d, inside, rfl⟩ := List.mem_map.mp member
      exact sparse_above _ rest sparse.2 d inside

theorem ascending_sorted (numbers : List Nat) (sorted : numbers.Pairwise (· < ·)) : ascending numbers = numbers := by
  have merged : numbers.mergeSort (· ≤ ·) = numbers := List.mergeSort_eq_self (· ≤ ·) (sorted.imp Nat.le_of_lt)
  rw [ascending, merged]
  clear merged
  induction sorted with
  | nil => rfl
  | @cons number rest first _ ih =>
      have kept : rest.filter (fun other => !other == number) = rest := by
        rw [List.filter_eq_self]
        intro other member
        have less := first other member
        simpa using Nat.ne_of_gt less
      rw [List.eraseDups_cons, kept, ih]

-- What has been written is at least three digits for every character placed after the first 32.
theorem passes_long (front back : List Char) (basic next : Nat) (writer : Writer)
    (before : ∀ c ∈ front, c.toNat < next) (sparse : Sparse next back) (placed : writer.placed = front.length)
    (long : 3 * (front.length - 32) ≤ writer.reversed.length) :
    3 * ((front ++ back).length - 32) ≤
      (passes (front ++ back) basic next writer (back.map Char.toNat)).reversed.length := by
  induction back generalizing front next writer with
  | nil => simpa [passes] using long
  | cons c back ih =>
      obtain ⟨far, later⟩ := sparse
      have above := sparse_above _ back later
      have earlier : ∀ d ∈ front, d.toNat < c.toNat := fun d member => by
        have bound := before d member
        omega
      have through : ∀ d ∈ front ++ [c], d.toNat < c.toNat + 1 := by
        refine List.forall_mem_append.mpr ⟨fun d member => Nat.lt_succ_of_lt (earlier d member), ?_⟩
        simp
      have whole : front ++ c :: back = (front ++ [c]) ++ back := by simp
      have further := ih (front ++ [c]) (c.toNat + 1)
      rw [List.map_cons, passes, pass_own basic _ front back c earlier above, whole]
      refine further _ through later (by simp [placed]) ?_
      have product : 28 * (writer.placed + 1) ≤ (c.toNat - next) * (writer.placed + 1) :=
        Nat.mul_le_mul_right _ (by omega)
      rw [placed] at product
      simp only [List.length_append, List.length_reverse, List.length_singleton, placed]
      by_cases many : 32 ≤ front.length
      · have digits := distance_three writer.bias 36
          (writer.delta + (c.toNat - next) * (front.length + 1) + front.length) (by omega)
        omega
      · omega

theorem encode_long (text : List Char) (sparse : Sparse 0x80 text) : 3 * (text.length - 32) ≤ (encode text).length := by
  have above : ∀ c ∈ text, isBasic c = false := by
    intro c member
    simpa [isBasic] using sparse_above 0x80 text sparse c member
  have none : text.filter isBasic = [] := by
    rw [List.filter_eq_nil_iff]
    intro c member
    simp [above c member]
  have all : text.filter (fun c => !isBasic c) = text := by
    rw [List.filter_eq_self]
    intro c member
    simp [above c member]
  have long := passes_long [] text 0 0x80 ⟨0, 72, 0, []⟩ (by simp) sparse rfl (by simp)
  rw [encode, none, all, ascending_sorted _ (sparse_sorted 0x80 text sparse)]
  simpa using long

end HostTools.Punycode
