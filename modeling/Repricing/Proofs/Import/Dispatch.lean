import Mathlib.Data.List.Induction
import Repricing.Import.Run

/-!
# Which rows a run takes up

Chunks and cancellations decide which rows are handled, and nothing else does: neither the prices
nor the policy have a say.  Without a cancellation it is all rows.
-/

namespace Repricing

namespace Cancellation

/-- The rows of a chunk; nothing in place of those that come up after the run has been cancelled. -/
def admitted (cancellation : Cancellation) (handedOut : Nat) (chunk : List RawRow) :
    List (Option RawRow) :=
  chunk.mapIdx fun place raw =>
    if cancellation.beforeRow handedOut place then none else some raw

/-- The rows that a run takes up, and whether it finds itself cancelled.  Neither depends on the
prices or the policy. -/
def dispatch (cancellation : Cancellation) (size count : Nat) (rows : List RawRow) :
    List RawRow × Bool :=
  let chunk := rows.take size
  if cancellation.beforeChunk count then ([], true)
  else if _ : chunk = [] then ([], false)
  else
    let handedOut := count + chunk.length
    let admitted := cancellation.admitted handedOut chunk
    if admitted.any (·.isNone) then (admitted.filterMap id, true)
    else
      let rest := cancellation.dispatch size handedOut (rows.drop size)
      (admitted.filterMap id ++ rest.1, rest.2)
termination_by rows.length
decreasing_by
  have hchunk : chunk ≠ [] := by assumption
  have hsize : size ≠ 0 := fun hzero => hchunk (by simp [chunk, hzero])
  have hrows : rows ≠ [] := fun hnil => hchunk (by simp [chunk, hnil])
  have := List.length_pos_iff.mpr hrows
  rw [List.length_drop]
  omega

/-! ## Which rows are taken up -/

theorem filterMap_admitted_sublist
    (cancellation : Cancellation) (handedOut : Nat) (chunk : List RawRow) :
    ((cancellation.admitted handedOut chunk).filterMap id).Sublist chunk := by
  unfold admitted
  induction chunk using List.reverseRecOn with
  | nil => simp
  | append_singleton chunk raw ih =>
      rw [List.mapIdx_append, List.filterMap_append]
      apply ih.append
      by_cases hcut : cancellation.beforeRow handedOut chunk.length
      · simp [hcut]
      · simp [hcut]

/-- Rows are taken up in their order, and none of them twice. -/
theorem dispatch_sublist
    (cancellation : Cancellation) (size count : Nat) (rows : List RawRow) :
    (cancellation.dispatch size count rows).1.Sublist rows := by
  fun_induction dispatch cancellation size count rows with
  | case1 => simp
  | case2 => simp
  | case3 count rows chunk _ _ handedOut admitted _ =>
      exact (filterMap_admitted_sublist cancellation handedOut chunk).trans
        (List.take_sublist size rows)
  | case4 count rows chunk _ _ handedOut admitted _ rest ih =>
      have hrows : chunk ++ rows.drop size = rows := List.take_append_drop size rows
      have hboth := (filterMap_admitted_sublist cancellation handedOut chunk).append ih
      rwa [hrows] at hboth

theorem admitted_of_quiet
    {cancellation : Cancellation} {handedOut : Nat}
    (hquiet : ∀ place, cancellation.beforeRow handedOut place = false) (chunk : List RawRow) :
    cancellation.admitted handedOut chunk = chunk.map some := by
  apply List.ext_getElem?
  intro place
  simp [admitted, hquiet]

/-- A run takes up all rows if it never finds itself cancelled while there are any. -/
theorem dispatch_of_quiet
    {cancellation : Cancellation} {size : Nat} (hsize : 0 < size) (count : Nat)
    (rows : List RawRow)
    (hchunks : ∀ k, k ≤ count + rows.length → cancellation.beforeChunk k = false)
    (hrows : ∀ k place, k ≤ count + rows.length → cancellation.beforeRow k place = false) :
    cancellation.dispatch size count rows = (rows, false) := by
  fun_induction dispatch cancellation size count rows with
  | case1 count rows hfired =>
      rw [hchunks count (Nat.le_add_right _ _)] at hfired
      cases hfired
  | case2 count rows chunk _ hempty =>
      have hrows : rows = [] :=
        (List.take_eq_nil_iff.mp hempty).resolve_left (Nat.ne_of_gt hsize)
      rw [hrows]
  | case3 count rows chunk _ _ handedOut admitted hcut =>
      have hhanded : handedOut ≤ count + rows.length :=
        Nat.add_le_add_left (List.length_take_le' size rows) count
      rw [show admitted = chunk.map some from
        admitted_of_quiet (fun place => hrows handedOut place hhanded) chunk] at hcut
      simp at hcut
  | case4 count rows chunk _ _ handedOut admitted _ rest ih =>
      have hlength : chunk.length + (rows.drop size).length = rows.length := by
        rw [← List.length_append, List.take_append_drop]
      have hadmitted : admitted.filterMap id = chunk := by
        rw [show admitted = chunk.map some from
          admitted_of_quiet (fun place => hrows handedOut place (by omega)) chunk]
        simp
      have hrest : rest = (rows.drop size, false) :=
        ih (fun k hk => hchunks k (by omega)) fun k place hk => hrows k place (by omega)
      rw [hrest, hadmitted, List.take_append_drop]

/-- A run that is not cancelled takes up all rows. -/
theorem dispatch_never {size : Nat} (hsize : 0 < size) (count : Nat) (rows : List RawRow) :
    never.dispatch size count rows = (rows, false) :=
  dispatch_of_quiet hsize count rows (fun _ _ => rfl) fun _ _ _ => rfl

/-! ## Cancelling while a row is handed out -/

variable {n : Nat}

theorem beforeChunk_atRow (n count : Nat) :
    (atRow n).beforeChunk count = true ↔ 0 < n ∧ n ≤ count := by
  simp [atRow]

theorem beforeRow_atRow (n handedOut place : Nat) :
    (atRow n).beforeRow handedOut place = true ↔ 0 < n ∧ n ≤ handedOut := by
  simp [atRow]

theorem admitted_atRow_of_lt {handedOut : Nat} (hlt : handedOut < n) (chunk : List RawRow) :
    (atRow n).admitted handedOut chunk = chunk.map some := by
  apply admitted_of_quiet
  intro place
  rw [Bool.eq_false_iff, ne_eq, beforeRow_atRow]
  omega

/-- The chunk in which the row is handed out is left out as a whole. -/
theorem admitted_atRow_of_le
    {handedOut : Nat} (hpos : 0 < n) (hle : n ≤ handedOut) (chunk : List RawRow) :
    (atRow n).admitted handedOut chunk = chunk.map fun _ => none := by
  have hfired := fun place => (beforeRow_atRow n handedOut place).mpr ⟨hpos, hle⟩
  apply List.ext_getElem?
  intro place
  rw [admitted, List.getElem?_mapIdx, List.getElem?_map]
  simp only [hfired, if_true]

/-- A run that is cancelled while a row is handed out takes up the whole chunks before this row. -/
theorem dispatch_atRow
    {size : Nat} (hsize : 0 < size) (count : Nat) (rows : List RawRow)
    (hcount : count < n) (hn : n ≤ count + rows.length) :
    (atRow n).dispatch size count rows =
      (rows.take (size * ((n - 1 - count) / size)), true) := by
  fun_induction dispatch (atRow n) size count rows with
  | case1 count rows hfired =>
      have := ((beforeChunk_atRow n count).mp hfired).2
      omega
  | case2 count rows chunk _ hempty =>
      have hrows : rows = [] :=
        (List.take_eq_nil_iff.mp hempty).resolve_left (Nat.ne_of_gt hsize)
      rw [hrows, List.length_nil] at hn
      omega
  | case3 count rows chunk _ _ handedOut admitted hcut =>
      have hle : n ≤ handedOut := by
        by_contra hlt
        rw [show admitted = chunk.map some from
          admitted_atRow_of_lt (Nat.lt_of_not_le hlt) chunk] at hcut
        simp at hcut
      have hchunk : chunk.length ≤ size := List.length_take_le size rows
      have hzero : (n - 1 - count) / size = 0 := Nat.div_eq_of_lt (by omega)
      rw [show admitted = chunk.map fun _ => none from
        admitted_atRow_of_le (Nat.zero_lt_of_lt hcount) hle chunk, hzero]
      simp
  | case4 count rows chunk _ hnonempty handedOut admitted hcut rest ih =>
      have hlt : handedOut < n := by
        by_contra hle
        apply hcut
        rw [show admitted = chunk.map fun _ => none from
          admitted_atRow_of_le (Nat.zero_lt_of_lt hcount) (Nat.le_of_not_lt hle) chunk]
        obtain ⟨raw, hraw⟩ := List.exists_mem_of_ne_nil chunk hnonempty
        rw [List.any_map, List.any_eq_true]
        exact ⟨raw, hraw, rfl⟩
      have hadmitted : admitted.filterMap id = chunk := by
        rw [show admitted = chunk.map some from admitted_atRow_of_lt hlt chunk]
        simp
      -- Rows are left after this chunk, so that it is a full one.
      have hchunk : chunk.length = size := by
        have hlength : chunk.length = min size rows.length := List.length_take
        omega
      have hdrop : (rows.drop size).length = rows.length - size := List.length_drop
      have hrest : rest = ((rows.drop size).take (size * ((n - 1 - handedOut) / size)), true) :=
        ih hlt (by omega)
      have hquotient : (n - 1 - count) / size = (n - 1 - handedOut) / size + 1 := by
        rw [Nat.div_eq_sub_div hsize (by omega)]
        congr 2
        omega
      rw [hrest, hadmitted, hquotient, Nat.mul_add_one, Nat.add_comm, List.take_add]

/-- A run that would be cancelled after the last row takes up all rows. -/
theorem dispatch_atRow_of_length_lt
    {size : Nat} (hsize : 0 < size) (rows : List RawRow) (hn : rows.length < n) :
    (atRow n).dispatch size 0 rows = (rows, false) := by
  apply dispatch_of_quiet hsize
  · intro k hk
    rw [Bool.eq_false_iff, ne_eq, beforeChunk_atRow]
    omega
  · intro k place hk
    rw [Bool.eq_false_iff, ne_eq, beforeRow_atRow]
    omega

theorem dispatch_beforeStart (size : Nat) (rows : List RawRow) :
    beforeStart.dispatch size 0 rows = ([], true) := by
  rw [dispatch]
  rfl

end Cancellation

end Repricing
