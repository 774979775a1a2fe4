/-!
# Logs of bytes by position

A log lists bytes with the positions they were put at, in the order in which that happened. Where
positions only grow, reading the log position by position yields its bytes in that order
(`filterMap_lookup_isPrefix`).
-/

namespace Playout

/-- The bytes of `data` at the positions from `first` on. -/
def numbered (first : Nat) : List UInt8 → List (Nat × UInt8)
  | [] => []
  | byte :: data => (first, byte) :: numbered (first + 1) data

theorem map_snd_numbered (first : Nat) (data : List UInt8) :
    (numbered first data).map (·.2) = data := by
  induction data generalizing first with
  | nil => rfl
  | cons byte data ih => rw [numbered, List.map_cons, ih]

theorem le_of_mem_numbered {first : Nat} {data : List UInt8} {entry : Nat × UInt8}
    (mem : entry ∈ numbered first data) :
    first ≤ entry.1 ∧ entry.1 < first + data.length := by
  induction data generalizing first with
  | nil => cases mem
  | cons byte data ih =>
    rw [List.length_cons]
    rcases List.mem_cons.1 mem with rfl | later
    · exact ⟨Nat.le_refl _, Nat.lt_add_of_pos_right (Nat.succ_pos _)⟩
    · have := ih later
      omega

theorem lookup_numbered (first x : Nat) (data : List UInt8) :
    (numbered first data).lookup x = if first ≤ x then data[x - first]? else none := by
  induction data generalizing first with
  | nil => simp [numbered]
  | cons byte data ih =>
    rw [numbered, List.lookup_cons, ih]
    rcases Nat.lt_trichotomy x first with before | rfl | after
    · rw [beq_false_of_ne (Nat.ne_of_lt before), if_neg (by omega), if_neg (by omega)]
    · rw [beq_self_eq_true, if_pos (Nat.le_refl x), Nat.sub_self, List.getElem?_cons_zero]
    · rw [beq_false_of_ne (Nat.ne_of_gt after), if_pos (by omega), if_pos (by omega),
        show x - first = x - (first + 1) + 1 by omega, List.getElem?_cons_succ]

theorem pairwise_numbered (first : Nat) (data : List UInt8) :
    (numbered first data).Pairwise (·.1 < ·.1) := by
  induction data generalizing first with
  | nil => exact .nil
  | cons byte data ih =>
    exact .cons (fun _ later => (le_of_mem_numbered later).1) (ih (first + 1))

variable {log : List (Nat × UInt8)}

/-- Behind its last position a log has no bytes. -/
theorem lookup_eq_none_of_lt {x : Nat} (before : ∀ entry ∈ log, entry.1 < x) :
    log.lookup x = none :=
  List.lookup_eq_none_iff.2 fun entry mem => bne_iff_ne.2 (Nat.ne_of_gt (before entry mem))

theorem filter_eq_nil_of_le {n : Nat} (le : ∀ entry ∈ log, n ≤ entry.1) :
    log.filter (·.1 < n) = [] :=
  List.filter_eq_nil_iff.2 fun entry mem => by simpa using le entry mem

/-- Of a log in order of position, the entries before a position come first. -/
theorem filter_isPrefix (sorted : log.Pairwise (·.1 < ·.1)) (n : Nat) :
    log.filter (·.1 < n) <+: log := by
  induction log with
  | nil => exact List.prefix_refl []
  | cons entry log ih =>
    rw [List.pairwise_cons] at sorted
    rcases Nat.lt_or_ge entry.1 n with before | behind
    · rw [List.filter_cons_of_pos (by simpa using before), List.prefix_cons_inj]
      exact ih sorted.2
    · rw [filter_eq_nil_of_le]
      · exact List.nil_prefix
      · exact List.forall_mem_cons.2
          ⟨behind, fun later mem => Nat.le_trans behind (Nat.le_of_lt (sorted.1 later mem))⟩

theorem filter_lt_succ (sorted : log.Pairwise (·.1 < ·.1)) (n : Nat) :
    (log.filter (·.1 < n + 1)).map (·.2)
      = (log.filter (·.1 < n)).map (·.2) ++ (log.lookup n).toList := by
  induction log with
  | nil => rfl
  | cons entry log ih =>
    rw [List.pairwise_cons] at sorted
    rw [List.lookup_cons]
    rcases Nat.lt_trichotomy entry.1 n with before | rfl | behind
    · rw [List.filter_cons_of_pos (by simp; omega), List.filter_cons_of_pos (by simpa using before),
        beq_false_of_ne (Nat.ne_of_gt before), List.map_cons, List.map_cons, ih sorted.2]
      rfl
    · rw [List.filter_cons_of_pos (by simp), filter_eq_nil_of_le sorted.1,
        List.filter_cons_of_neg (by simp),
        filter_eq_nil_of_le fun later mem => Nat.le_of_lt (sorted.1 later mem), beq_self_eq_true]
      rfl
    · have behind' : ∀ later ∈ entry :: log, n + 1 ≤ later.1 :=
        List.forall_mem_cons.2 ⟨behind, fun later mem => Nat.lt_trans behind (sorted.1 later mem)⟩
      have absent : log.lookup n = none := List.lookup_eq_none_iff.2 fun later mem =>
        bne_iff_ne.2 (Nat.ne_of_lt (Nat.lt_trans behind (sorted.1 later mem)))
      rw [filter_eq_nil_of_le behind',
        filter_eq_nil_of_le fun later mem => Nat.le_of_succ_le (behind' later mem),
        beq_false_of_ne (Nat.ne_of_lt behind), absent]
      rfl

/-- A log in order of position, read position by position, yields its bytes from the first on. -/
theorem filterMap_lookup_isPrefix (sorted : log.Pairwise (·.1 < ·.1)) (n : Nat) :
    (List.range n).filterMap (fun x => log.lookup x) <+: log.map (·.2) := by
  have read : (List.range n).filterMap (fun x => log.lookup x)
      = (log.filter (·.1 < n)).map (·.2) := by
    induction n with
    | zero => simp
    | succ n ih =>
      rw [List.range_succ, List.filterMap_append, ih, filter_lt_succ sorted]
      cases found : log.lookup n <;> simp [found]
  rw [read]
  exact (filter_isPrefix sorted n).map _

end Playout
