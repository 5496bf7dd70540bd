import ProxyConsole.Grid

/-!
# The rows of a layout

A layout cuts the servers into rows that are full but for the last, which is not empty. There is one
way to do that, and the place of each server in it can be computed. The cards of a row never get more
than the share of its width that is meant for them.
-/

namespace ProxyConsole

theorem Columns.cardFlexPercent_eq (c : Columns) : c.cardFlexPercent = 90 / c.count := by
  unfold cardFlexPercent
  by_cases h : c.count < UInt32.size
  · rw [if_pos h]
    rfl
  · have hlarge : 90 < c.count := by
      simp only [UInt32.size] at h
      omega
    rw [if_neg h, Nat.div_eq_of_lt hlarge]

example : (Columns.mk 4294967296 (by decide)).cardFlexPercent = 0 := by decide

namespace Grid

section
variable {α : Type} {n : Nat} {xs : List α} {row : List α} {rows : List (List α)}

/-- Rows that give a list when they are put together. All but the last have `n` elements, and the
last has at least one. -/
structure IsCut (n : Nat) (xs : List α) (rows : List (List α)) : Prop where
  flatten : rows.flatten = xs
  full : ∀ row ∈ rows.dropLast, row.length = n
  last : ∀ row, rows.getLast? = some row → 1 ≤ row.length ∧ row.length ≤ n

theorem isCut_nil_iff : IsCut n xs [] ↔ xs = [] := by
  constructor
  · intro h
    exact h.flatten.symm
  · intro h
    subst h
    exact ⟨rfl, nofun, nofun⟩

theorem isCut_singleton_iff : IsCut n xs [row] ↔ xs = row ∧ 1 ≤ row.length ∧ row.length ≤ n := by
  constructor
  · intro h
    have hflatten := h.flatten
    rw [List.flatten_singleton] at hflatten
    exact ⟨hflatten.symm, h.last row rfl⟩
  · intro h
    obtain ⟨rfl, hlast⟩ := h
    refine ⟨List.flatten_singleton, nofun, ?_⟩
    intro row' hrow'
    cases hrow'
    exact hlast

theorem isCut_cons_iff (hrows : rows ≠ []) :
    IsCut n xs (row :: rows) ↔ row.length = n ∧ ∃ rest, xs = row ++ rest ∧ IsCut n rest rows := by
  have hlast : (row :: rows).getLast? = rows.getLast? := by
    rw [List.getLast?_cons_of_ne_nil hrows]
  have hdrop : (row :: rows).dropLast = row :: rows.dropLast := List.dropLast_cons_of_ne_nil hrows
  constructor
  · intro h
    have hfull := h.full
    rw [hdrop, List.forall_mem_cons] at hfull
    refine ⟨hfull.1, rows.flatten, h.flatten.symm, rfl, hfull.2, ?_⟩
    intro row' hrow'
    exact h.last row' (hlast.trans hrow')
  · intro h
    obtain ⟨hrow, rest, rfl, hrest⟩ := h
    constructor
    · rw [List.flatten_cons, hrest.flatten]
    · rw [hdrop, List.forall_mem_cons]
      exact ⟨hrow, hrest.full⟩
    · rw [hlast]
      exact hrest.last

/-! ## Cutting -/

theorem chunks_of_ne_nil (c : Columns) (h : xs ≠ []) :
    chunks c xs = xs.take c.count :: chunks c (xs.drop c.count) := by
  have hcount : c.count = c.count - 1 + 1 := (Nat.succ_pred_eq_of_pos c.positive).symm
  cases xs with
  | nil => exact absurd rfl h
  | cons x xs => rw [chunks, hcount, List.take_succ_cons, List.drop_succ_cons, Nat.add_sub_cancel]

theorem chunks_ne_nil (c : Columns) (h : xs ≠ []) : chunks c xs ≠ [] := by
  rw [chunks_of_ne_nil c h]
  exact List.cons_ne_nil _ _

theorem chunks_of_length_le (c : Columns) (h : xs ≠ []) (hle : xs.length ≤ c.count) :
    chunks c xs = [xs] := by
  rw [chunks_of_ne_nil c h, List.take_of_length_le hle, List.drop_of_length_le hle, chunks]

theorem chunks_append (c : Columns) (h : row.length = c.count) :
    chunks c (row ++ xs) = row :: chunks c xs := by
  have hpos := c.positive
  have hne : row ++ xs ≠ [] := by
    intro e
    rw [(List.append_eq_nil_iff.mp e).1, List.length_nil] at h
    omega
  rw [chunks_of_ne_nil c hne, List.take_left' h, List.drop_left' h]

theorem isCut_chunks (c : Columns) (xs : List α) : IsCut c.count xs (chunks c xs) := by
  have hpos := c.positive
  induction xs using chunks.induct c with
  | case1 => rw [chunks, isCut_nil_iff]
  | case2 x xs ih =>
    rw [chunks]
    by_cases hrest : xs.drop (c.count - 1) = []
    · have hle : xs.length ≤ c.count - 1 := List.drop_eq_nil_iff.mp hrest
      rw [hrest, chunks, List.take_of_length_le hle, isCut_singleton_iff, List.length_cons]
      exact ⟨rfl, by omega, by omega⟩
    · have hlt : c.count - 1 < xs.length := by
        rw [List.drop_eq_nil_iff] at hrest
        omega
      rw [isCut_cons_iff (chunks_ne_nil c hrest), List.length_cons, List.length_take]
      refine ⟨by omega, _, ?_, ih⟩
      rw [List.cons_append, List.take_append_drop]

theorem flatten_chunks (c : Columns) (xs : List α) : (chunks c xs).flatten = xs :=
  (isCut_chunks c xs).flatten

theorem IsCut.eq_chunks {c : Columns} (h : IsCut c.count xs rows) : rows = chunks c xs := by
  induction rows generalizing xs with
  | nil =>
    rw [isCut_nil_iff] at h
    rw [h, chunks]
  | cons row rows ih =>
    by_cases hrows : rows = []
    · subst hrows
      obtain ⟨rfl, hpos, hle⟩ := isCut_singleton_iff.mp h
      exact (chunks_of_length_le c (List.length_pos_iff.mp hpos) hle).symm
    · obtain ⟨hrow, rest, rfl, hrest⟩ := (isCut_cons_iff hrows).mp h
      rw [chunks_append c hrow, ← ih hrest]

/-! ## Places -/

theorem IsCut.eq_nil_iff (h : IsCut n xs rows) : rows = [] ↔ xs = [] := by
  constructor
  · intro hrows
    subst hrows
    exact isCut_nil_iff.mp h
  · intro hxs
    by_cases hrows : rows = []
    · exact hrows
    · have hlast := h.last _ (List.getLast?_eq_some_getLast hrows)
      have hflatten := h.flatten.trans hxs
      rw [List.flatten_eq_nil_iff] at hflatten
      rw [hflatten _ (List.getLast_mem hrows), List.length_nil] at hlast
      omega

theorem IsCut.length_rows (h : IsCut n xs rows) : rows.length = (xs.length + n - 1) / n := by
  induction rows generalizing xs with
  | nil =>
    rw [isCut_nil_iff] at h
    subst h
    rw [List.length_nil, List.length_nil, Nat.zero_add]
    by_cases hn : n = 0
    · subst hn
      rfl
    · rw [Nat.div_eq_of_lt (by omega)]
  | cons row rows ih =>
    by_cases hrows : rows = []
    · subst hrows
      obtain ⟨rfl, hpos, hle⟩ := isCut_singleton_iff.mp h
      have hone : 1 * n ≤ xs.length + n - 1 ∧ xs.length + n - 1 < 2 * n := by omega
      rw [List.length_singleton, Nat.div_eq_of_lt_le hone.1 hone.2]
    · obtain ⟨hrow, rest, rfl, hrest⟩ := (isCut_cons_iff hrows).mp h
      have hn : 0 < n := by
        have hlast := hrest.last _ (List.getLast?_eq_some_getLast hrows)
        omega
      have hsum : (row ++ rest).length + n - 1 = rest.length + n - 1 + n := by
        rw [List.length_append]
        omega
      rw [List.length_cons, ih hrest, hsum, Nat.add_div_right _ hn]

theorem IsCut.getElem? (h : IsCut n xs rows) (i : Nat) {j : Nat} (hj : j < n) :
    (rows[i]?.bind fun row => row[j]?) = xs[i * n + j]? := by
  induction rows generalizing xs i with
  | nil =>
    rw [isCut_nil_iff] at h
    subst h
    simp
  | cons row rows ih =>
    by_cases hrows : rows = []
    · subst hrows
      obtain ⟨rfl, _, hle⟩ := isCut_singleton_iff.mp h
      cases i with
      | zero => simp
      | succ i =>
        have hbeyond : xs.length ≤ (i + 1) * n + j := by
          rw [Nat.succ_mul]
          omega
        rw [List.getElem?_eq_none hbeyond]
        simp
    · obtain ⟨hrow, rest, rfl, hrest⟩ := (isCut_cons_iff hrows).mp h
      cases i with
      | zero =>
        have hj' : j < row.length := by omega
        rw [Nat.zero_mul, Nat.zero_add, List.getElem?_append_left hj']
        rfl
      | succ i =>
        have hplace : row.length ≤ (i + 1) * n + j := by
          rw [Nat.succ_mul]
          omega
        have hrest' : (i + 1) * n + j - row.length = i * n + j := by
          rw [Nat.succ_mul]
          omega
        rw [List.getElem?_append_right hplace, hrest', ← ih hrest i]
        rfl

theorem IsCut.length_le (h : IsCut n xs rows) {row : List α} (hrow : row ∈ rows) : row.length ≤ n := by
  induction rows generalizing xs with
  | nil => cases hrow
  | cons first rows ih =>
    by_cases hrows : rows = []
    · subst hrows
      rw [List.mem_singleton.mp hrow]
      exact (isCut_singleton_iff.mp h).2.2
    · obtain ⟨hfirst, rest, _, hrest⟩ := (isCut_cons_iff hrows).mp h
      rcases List.mem_cons.mp hrow with hrow | hrow
      · exact Nat.le_of_eq ((congrArg List.length hrow).trans hfirst)
      · exact ih hrest hrow

end

end Grid

namespace GridLayout

/-- A layout of the servers in rows of `n` cards, and what follows from it. -/
structure Partitions (g : GridLayout) (servers : List ServerRecord) (n : Nat) : Prop where
  flatten_rows : g.rows.flatten = servers
  full : ∀ row ∈ g.rows.dropLast, row.length = n
  last : ∀ row, g.rows.getLast? = some row → 1 ≤ row.length ∧ row.length ≤ n
  length_rows : g.rows.length = (servers.length + n - 1) / n
  rows_eq_nil : g.rows = [] ↔ servers = []
  entry : ∀ i j, j < n → (g.rows[i]?.bind fun row => row[j]?) = servers[i * n + j]?
  recordCount : g.recordCount = servers.length
  columnsPerRow : g.columnsPerRow = n
  cardFlexPercent : g.cardFlexPercent = 90 / n
  width : ∀ row ∈ g.rows, row.length * g.cardFlexPercent ≤ 90

theorem partitions_of_isCut {g : GridLayout} {servers : List ServerRecord} {n : Nat}
    (h : Grid.IsCut n servers g.rows) (hcolumns : g.columnsPerRow = n)
    (hflex : g.cardFlexPercent = 90 / n) : g.Partitions servers n := by
  constructor
  case flatten_rows => exact h.flatten
  case full => exact h.full
  case last => exact h.last
  case length_rows => exact h.length_rows
  case rows_eq_nil => exact h.eq_nil_iff
  case entry => exact fun i j hj => h.getElem? i hj
  case recordCount => rw [recordCount, h.flatten]
  case columnsPerRow => exact hcolumns
  case cardFlexPercent => exact hflex
  case width =>
    intro row hrow
    rw [hflex]
    exact Nat.le_trans (Nat.mul_le_mul_right _ (h.length_le hrow)) (Nat.mul_div_le 90 n)

theorem ofColumns_partitions (servers : List ServerRecord) (c : Columns) :
    (ofColumns servers c).Partitions servers c.count :=
  partitions_of_isCut (Grid.isCut_chunks c servers) rfl c.cardFlexPercent_eq

theorem Partitions.eq_ofColumns {g : GridLayout} {servers : List ServerRecord} {c : Columns}
    (h : g.Partitions servers c.count) : g = ofColumns servers c := by
  have hrows : g.rows = Grid.chunks c servers := by
    have hcut : Grid.IsCut c.count servers g.rows := ⟨h.flatten_rows, h.full, h.last⟩
    exact hcut.eq_chunks
  have hflex : g.cardFlexPercent = c.cardFlexPercent := by
    rw [h.cardFlexPercent, c.cardFlexPercent_eq]
  obtain ⟨rows, columnsPerRow, cardFlexPercent⟩ := g
  rw [ofColumns]
  congr
  exact h.columnsPerRow

/-- A layout is refused for a column count that is not positive. For any other there is one, and it
is the only one that partitions the servers into rows of that many cards. -/
theorem layout_exact (servers : List ServerRecord) (columns : Int) :
    (of servers columns = .error (.invalidArgument ⟨columns⟩) ↔ columns ≤ 0) ∧
      ((∃ g, of servers columns = .ok g) ↔ 0 < columns) ∧
      ∀ g, of servers columns = .ok g ↔ 0 < columns ∧ g.Partitions servers columns.toNat := by
  by_cases hpos : 0 < columns
  · obtain ⟨c, hcount, hof⟩ : ∃ c : Columns, c.count = columns.toNat ∧
        of servers columns = .ok (ofColumns servers c) := by
      refine ⟨⟨columns.toNat, by omega⟩, rfl, ?_⟩
      rw [of, Columns.of, dif_pos hpos]
      rfl
    rw [hof, ← hcount]
    refine ⟨?_, ?_, fun g => ?_⟩
    · simp [hpos]
    · simp [hpos]
    · rw [Except.ok.injEq]
      constructor
      · intro h
        subst h
        exact ⟨hpos, ofColumns_partitions servers c⟩
      · intro h
        exact h.2.eq_ofColumns.symm
  · have hof : of servers columns = .error (.invalidArgument ⟨columns⟩) := by
      rw [of, Columns.of, dif_neg hpos]
      rfl
    rw [hof]
    simp [hpos, Int.not_lt.mp hpos]

end GridLayout

end ProxyConsole
