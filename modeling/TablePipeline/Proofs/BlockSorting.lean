import Mathlib
import TablePipeline.Compressed.Bzip2.Pack
import TablePipeline.Proofs.Buckets
import TablePipeline.Proofs.Unpacking

/-!
Sorting the bytes of a block by what follows them, and what stands before and after it: runs of
equal bytes are shortened first, and the sorted bytes are written as their places among those that
were used last. Each of the three can be undone.
-/
namespace TablePipeline.Compressed.Bzip2

open Unpack

/-! ### Runs -/

/-- The bytes of runs. -/
def expand (runs : List (ℕ × ℕ)) : List ℕ := runs.flatMap fun run => List.replicate run.2 run.1

theorem expand_runsFrom (byte count : ℕ) (bytes : List ℕ) :
    expand (runsFrom byte count bytes) = List.replicate count byte ++ bytes := by
  induction bytes generalizing byte count with
  | nil => simp [runsFrom, expand]
  | cons next rest ih =>
    rw [runsFrom]
    split_ifs with h
    · obtain ⟨rfl, -⟩ : next = byte ∧ count < 255 := by simpa using h
      rw [ih, List.replicate_succ', List.append_assoc]
      rfl
    · rw [expand, List.flatMap_cons]
      exact congrArg (List.replicate count byte ++ ·) (ih next 1)

theorem expand_runs (bytes : List ℕ) : expand (runs bytes) = bytes := by
  cases bytes with
  | nil => rfl
  | cons byte rest => exact expand_runsFrom byte 1 rest

/-- A run is not empty, and its length and its byte have room in a byte. -/
def Fits (run : ℕ × ℕ) : Prop := run.1 < 256 ∧ 0 < run.2 ∧ run.2 ≤ 255

/-- A run ends because another byte follows it, or because there is no room for more. -/
def Ends (run next : ℕ × ℕ) : Prop := run.1 ≠ next.1 ∨ run.2 = 255

theorem runsFrom_fits {byte count : ℕ} {bytes : List ℕ} (hrun : Fits (byte, count))
    (hbytes : ∀ b ∈ bytes, b < 256) : ∀ run ∈ runsFrom byte count bytes, Fits run := by
  induction bytes generalizing byte count with
  | nil => simpa [runsFrom] using hrun
  | cons next rest ih =>
    obtain ⟨hnext, hrest⟩ := List.forall_mem_cons.1 hbytes
    rw [runsFrom]
    split_ifs with h
    · have hroom : count < 255 := by simp at h; exact h.2
      exact ih ⟨hrun.1, Nat.succ_pos _, hroom⟩ hrest
    · exact List.forall_mem_cons.2 ⟨hrun, ih ⟨hnext, one_pos, by omega⟩ hrest⟩

theorem head?_runsFrom (byte count : ℕ) (bytes : List ℕ) :
    ∃ longer rest, runsFrom byte count bytes = (byte, longer) :: rest := by
  induction bytes generalizing byte count with
  | nil => exact ⟨_, _, rfl⟩
  | cons next bytes ih =>
    rw [runsFrom]
    split_ifs
    · exact ih byte (count + 1)
    · exact ⟨_, _, rfl⟩

theorem runsFrom_ends {byte count : ℕ} (hcount : count ≤ 255) (bytes : List ℕ) :
    (runsFrom byte count bytes).IsChain Ends := by
  induction bytes generalizing byte count with
  | nil => exact List.isChain_singleton _
  | cons next rest ih =>
    rw [runsFrom]
    split_ifs with h
    · exact ih (by simp at h; exact h.2)
    · have hrest := @ih next 1 (by decide)
      obtain ⟨longer, more, hmore⟩ := head?_runsFrom next 1 rest
      rw [hmore] at hrest ⊢
      refine List.isChain_cons_cons.2 ⟨?_, hrest⟩
      by_cases hbyte : next = byte
      · right
        simp [hbyte] at h
        exact le_antisymm hcount h
      · exact .inl (Ne.symm hbyte)

/-- Runs of a block: they have room in bytes, and each has ended before the next one. -/
structure AreRuns (runs : List (ℕ × ℕ)) : Prop where
  fits : ∀ run ∈ runs, Fits run
  ends : runs.IsChain Ends

theorem areRuns_runs {bytes : List ℕ} (hbytes : ∀ b ∈ bytes, b < 256) : AreRuns (runs bytes) := by
  cases bytes with
  | nil => exact ⟨by simp [runs], List.isChain_nil⟩
  | cons byte rest =>
    obtain ⟨hbyte, hrest⟩ := List.forall_mem_cons.1 hbytes
    exact ⟨runsFrom_fits ⟨hbyte, one_pos, by omega⟩ hrest, runsFrom_ends (by decide) rest⟩

theorem AreRuns.part {part runs : List (ℕ × ℕ)} (h : AreRuns runs) (hpart : part <:+: runs) :
    AreRuns part :=
  ⟨fun run hrun => h.fits run (hpart.subset hrun), h.ends.infix hpart⟩

/-- The bytes of a block. -/
def blockBytes (runs : List (ℕ × ℕ)) : List ℕ := runs.flatMap shortened

theorem blockBytes_lt {runs : List (ℕ × ℕ)} (h : AreRuns runs) :
    ∀ b ∈ blockBytes runs, b < 256 := by
  intro b hb
  obtain ⟨run, hrun, hmem⟩ := List.mem_flatMap.1 hb
  obtain ⟨hbyte, hpos, hroom⟩ := h.fits run hrun
  rw [shortened] at hmem
  split_ifs at hmem with hshort
  · rw [List.eq_of_mem_replicate hmem]
    exact hbyte
  · rcases List.mem_append.1 hmem with hmem | hmem
    · rw [List.eq_of_mem_replicate hmem]
      exact hbyte
    · rw [List.mem_singleton.1 hmem]
      omega

theorem length_shortened_pos {run : ℕ × ℕ} (h : Fits run) : 0 < (shortened run).length := by
  rw [shortened]
  split_ifs
  · rw [List.length_replicate]
    exact h.2.1
  · simp

theorem blockBytes_ne_nil {runs : List (ℕ × ℕ)} (h : AreRuns runs) (hne : runs ≠ []) :
    blockBytes runs ≠ [] := by
  obtain ⟨run, rest, rfl⟩ := List.exists_cons_of_ne_nil hne
  refine List.ne_nil_of_length_pos ?_
  rw [blockBytes, List.flatMap_cons, List.length_append]
  exact Nat.add_pos_left (length_shortened_pos (h.fits run List.mem_cons_self)) _

theorem length_shortened_le (run : ℕ × ℕ) : (shortened run).length ≤ 5 := by
  rw [shortened]
  split_ifs with hshort
  · rw [List.length_replicate]
    omega
  · simp

/-- Equal bytes of which fewer than four have been seen stand for themselves. -/
theorem expandRuns_replicate {seen count : ℕ} (hseen : 0 < seen) (hcount : seen + count ≤ 4)
    (byte : ℕ) (rest : List ℕ) :
    expandRuns seen byte (List.replicate count byte ++ rest) =
      List.replicate count byte ++ expandRuns (seen + count) byte rest := by
  induction count generalizing seen with
  | zero => rfl
  | succ count ih =>
    have hnext := @ih (seen + 1) (Nat.succ_pos _) (by omega)
    rw [List.replicate_succ, List.cons_append, expandRuns]
    have hfour : (seen == 4) = false := by simp; omega
    have hzero : (seen != 0) = true := by simp; omega
    simp only [hfour, hzero, beq_self_eq_true, Bool.and_self, if_true, Bool.false_eq_true, if_false]
    rw [hnext, List.cons_append, show seen + 1 + count = seen + (count + 1) by omega]

/-- The bytes of a run, behind a byte that is another one or is not counted any more. -/
theorem expandRuns_run {seen last count : ℕ} (hseen : seen < 4) {byte : ℕ}
    (hlast : seen = 0 ∨ last ≠ byte) (hcount : count < 4) (rest : List ℕ) :
    expandRuns seen last (List.replicate (count + 1) byte ++ rest) =
      List.replicate (count + 1) byte ++ expandRuns (count + 1) byte rest := by
  have hfour : (seen == 4) = false := by simp; omega
  have hnew : (seen != 0 && byte == last) = false := by
    rcases hlast with rfl | hlast
    · rfl
    · simp [Ne.symm hlast]
  rw [List.replicate_succ, List.cons_append, expandRuns]
  simp only [hfour, hnew, Bool.false_eq_true, if_false]
  rw [expandRuns_replicate one_pos (by omega), List.cons_append, Nat.add_comm 1 count]

/-- What was shortened comes back, by induction on the runs. -/
theorem expandRuns_blockBytes {runs : List (ℕ × ℕ)} (hruns : AreRuns runs) {seen last : ℕ}
    (hseen : seen < 4) (hlast : seen = 0 ∨ ∀ run ∈ runs.head?, last ≠ run.1) :
    expandRuns seen last (blockBytes runs) = expand runs := by
  induction runs generalizing seen last with
  | nil => rfl
  | cons run runs ih =>
    obtain ⟨byte, count⟩ := run
    obtain ⟨-, hpos, hroom⟩ := hruns.fits _ List.mem_cons_self
    have hrest : AreRuns runs := hruns.part (List.suffix_cons _ _).isInfix
    have hfirst : seen = 0 ∨ last ≠ byte := hlast.imp_right fun h => h _ rfl
    obtain ⟨more, rfl⟩ := Nat.exists_eq_add_one_of_ne_zero hpos.ne'
    rw [blockBytes, List.flatMap_cons, shortened, expand, List.flatMap_cons]
    split_ifs with hshort
    · have hnext : ∀ run ∈ runs.head?, byte ≠ run.1 := by
        intro run hrun
        have hended := (List.isChain_cons.1 hruns.ends).1 run hrun
        exact hended.resolve_right (by dsimp only at hshort ⊢; omega)
      rw [expandRuns_run hseen hfirst (by dsimp only at hshort; omega)]
      exact congrArg _ (ih hrest hshort (.inr hnext))
    · rw [List.append_assoc, expandRuns_run hseen hfirst (by decide), List.cons_append, expandRuns,
        if_pos (by rfl), List.nil_append, ← List.append_assoc, ← List.replicate_add]
      have hall : 3 + 1 + (more + 1 - 4) = more + 1 := by dsimp only at hshort; omega
      exact congrArg₂ _ (by rw [hall]) (ih hrest (by decide) (.inl rfl))

/-! ### Blocks -/

/-- The block that is being filled is closed. -/
theorem closed_block {current : List (ℕ × ℕ)} {size : ℕ}
    (hsize : size = (blockBytes current).length) (hroom : size ≤ fullSize + 4) : (blockBytes current.reverse).length ≤ fullSize + 4 := by
  rw [blockBytes, ((List.reverse_perm current).flatMap_right shortened).length_eq]
  exact hsize ▸ hroom

/-- Runs are put into blocks that have room for them, and none is lost. -/
theorem blockRuns_spec {current rest : List (ℕ × ℕ)} {size : ℕ}
    (hsize : size = (blockBytes current).length) (hroom : size ≤ fullSize + 4) :
    (blockRuns size current rest).flatten = current.reverse ++ rest ∧
      ∀ block ∈ blockRuns size current rest,
        block ≠ [] ∧ (blockBytes block).length ≤ fullSize + 4 := by
  induction rest generalizing current size with
  | nil =>
    cases current with
    | nil => simp [blockRuns]
    | cons run current =>
      rw [blockRuns, List.flatten_singleton, List.append_nil]
      · refine ⟨rfl, fun block hblock => ?_⟩
        obtain rfl := List.mem_singleton.1 hblock
        exact ⟨by simp, closed_block hsize hroom⟩
      · simp
  | cons run rest ih =>
    have hrun := length_shortened_le run
    rw [blockRuns]
    split_ifs with hfull
    · have hcurrent : current ≠ [] := by
        rintro rfl
        exact absurd (hsize ▸ hfull) (by decide)
      obtain ⟨hall, hblocks⟩ := @ih [run] (shortened run).length (by simp [blockBytes])
        (hrun.trans (by decide))
      rw [List.flatten_cons, hall]
      exact ⟨rfl, List.forall_mem_cons.2
        ⟨⟨by simpa using hcurrent, closed_block hsize hroom⟩, hblocks⟩⟩
    · obtain ⟨hall, hblocks⟩ := @ih (run :: current) (size + (shortened run).length)
        (by simp [blockBytes, hsize, Nat.add_comm]) (by omega)
      rw [hall, List.reverse_cons, List.append_assoc]
      exact ⟨rfl, hblocks⟩

/-! ### Sorted places -/

/-- So many bytes of a block, read in a circle from a place. -/
def circle (block : Array ℕ) : ℕ → ℕ → List ℕ
  | 0, _ => []
  | count + 1, i => block.getD i 0 :: circle block count ((i + 1) % block.size)

/-- The place that is reached after so many bytes. -/
def placeAfter (block : Array ℕ) : ℕ → ℕ → ℕ
  | 0, i => i
  | count + 1, i => placeAfter block count ((i + 1) % block.size)

variable {block : Array ℕ}

theorem startsLower_iff (count i j : ℕ) :
    startsLower block count i j = true ↔ circle block count i < circle block count j ∨
      (circle block count i = circle block count j ∧
        placeAfter block count j ≤ placeAfter block count i) := by
  induction count generalizing i j with
  | zero => simp [startsLower, circle, placeAfter]
  | succ count ih =>
    rw [startsLower, circle, circle, placeAfter, placeAfter, List.cons_lt_cons_iff]
    generalize block.getD i 0 = a
    generalize block.getD j 0 = b
    by_cases h : a = b
    · simp [h, ih]
    · simp [h]

theorem sortedPlaces_perm (block : Array ℕ) : (sortedPlaces block).Perm (List.range block.size) :=
  List.mergeSort_perm _ _

theorem sortedPlaces_sorted (block : Array ℕ) :
    (sortedPlaces block).Pairwise fun i j =>
      circle block block.size i ≤ circle block block.size j := by
  have htrans : ∀ a b c, startsLower block block.size a b = true →
      startsLower block block.size b c = true → startsLower block block.size a c = true := by
    intro a b c hab hbc
    rw [startsLower_iff] at hab hbc ⊢
    rcases hab with hab | ⟨hab, hab'⟩ <;> rcases hbc with hbc | ⟨hbc, hbc'⟩
    · exact .inl (hab.trans hbc)
    · exact .inl (hbc ▸ hab)
    · exact .inl (hab ▸ hbc)
    · exact .inr ⟨hab.trans hbc, hbc'.trans hab'⟩
  have htotal : ∀ a b, (startsLower block block.size a b || startsLower block block.size b a) =
      true := by
    intro a b
    rw [Bool.or_eq_true, startsLower_iff, startsLower_iff]
    rcases lt_trichotomy (circle block block.size a) (circle block block.size b) with h | h | h
    · exact .inl (.inl h)
    · rcases le_total (placeAfter block block.size b) (placeAfter block block.size a) with h' | h'
      · exact .inl (.inr ⟨h, h'⟩)
      · exact .inr (.inr ⟨h.symm, h'⟩)
    · exact .inr (.inl h)
  refine (List.pairwise_mergeSort htrans htotal _).imp fun {i j} h => ?_
  rcases (startsLower_iff _ i j).1 h with h | ⟨h, -⟩
  · exact h.le
  · exact h.le

/-! ### The way back -/

/-- The place before a place. -/
def placeBefore (block : Array ℕ) (i : ℕ) : ℕ := (i + block.size - 1) % block.size

/-- The byte before a place. -/
def byteBefore (block : Array ℕ) (i : ℕ) : ℕ := block.getD (placeBefore block i) 0

theorem circle_succ {i : ℕ} (hi : i < block.size) (count : ℕ) :
    circle block (count + 1) i =
      circle block count i ++ [block.getD ((i + count) % block.size) 0] := by
  induction count generalizing i with
  | zero => simp [circle, Nat.mod_eq_of_lt hi]
  | succ count ih =>
    have hnext : ((i + 1) % block.size + count) % block.size = (i + (count + 1)) % block.size := by
      rw [Nat.mod_add_mod, Nat.add_assoc, Nat.add_comm 1]
    rw [circle, ih (Nat.mod_lt _ (by omega)), hnext, circle, List.cons_append]

theorem length_circle (count i : ℕ) : (circle block count i).length = count := by
  induction count generalizing i with
  | zero => rfl
  | succ count ih => rw [circle, List.length_cons, ih]

/-- The circle from a place ends with the byte before it. -/
theorem circle_eq_concat {i : ℕ} (hi : i < block.size) :
    circle block block.size i = circle block (block.size - 1) i ++ [byteBefore block i] := by
  have hlast := circle_succ hi (block.size - 1)
  rw [Nat.sub_add_cancel (by omega), ← Nat.add_sub_assoc (by omega)] at hlast
  exact hlast

theorem placeBefore_lt {i : ℕ} (hi : i < block.size) : placeBefore block i < block.size :=
  Nat.mod_lt _ (by omega)

theorem placeBefore_succ {i : ℕ} (hi : i < block.size) :
    (placeBefore block i + 1) % block.size = i := by
  rw [placeBefore, Nat.mod_add_mod, Nat.sub_add_cancel (by omega), Nat.add_mod_right,
    Nat.mod_eq_of_lt hi]

/-- The circle from the place before starts with that byte. -/
theorem circle_placeBefore {i : ℕ} (hi : i < block.size) :
    circle block block.size (placeBefore block i) =
      byteBefore block i :: circle block (block.size - 1) i := by
  obtain ⟨count, hcount⟩ := Nat.exists_eq_add_one_of_ne_zero (show block.size ≠ 0 by omega)
  rw [hcount, Nat.add_sub_cancel, circle, placeBefore_succ hi, byteBefore]

theorem placeBefore_next {i : ℕ} (hi : i < block.size) :
    placeBefore block ((i + 1) % block.size) = i := by
  have hback : (i + 1) % block.size + block.size - 1 = (i + 1) % block.size + (block.size - 1) := by
    omega
  have hround : i + 1 + (block.size - 1) = i + block.size := by omega
  rw [placeBefore, hback, Nat.mod_add_mod, hround, Nat.add_mod_right, Nat.mod_eq_of_lt hi]

theorem map_placeBefore_perm (block : Array ℕ) :
    ((List.range block.size).map (placeBefore block)).Perm (List.range block.size) := by
  refine (List.perm_ext_iff_of_nodup ?_ List.nodup_range).2 fun j => ?_
  · refine List.Nodup.map_on (fun i hi j hj h => ?_) List.nodup_range
    rw [← placeBefore_succ (List.mem_range.1 hi), h, placeBefore_succ (List.mem_range.1 hj)]
  · simp only [List.mem_map, List.mem_range]
    refine ⟨fun ⟨i, hi, h⟩ => h ▸ placeBefore_lt hi, fun hj => ⟨(j + 1) % block.size, ?_, ?_⟩⟩
    · exact Nat.mod_lt _ (by omega)
    · exact placeBefore_next hj

/-- The bytes of a block in the order of what follows them. -/
def lastBytes (block : Array ℕ) : List ℕ := (sortedPlaces block).map (byteBefore block)

theorem length_sortedPlaces (block : Array ℕ) : (sortedPlaces block).length = block.size := by
  rw [(sortedPlaces_perm block).length_eq, List.length_range]

theorem length_lastBytes (block : Array ℕ) : (lastBytes block).length = block.size := by
  rw [lastBytes, List.length_map, length_sortedPlaces]

/-- The places of bytes below 256, by byte and then by place. -/
theorem followers_perm {bytes : List ℕ} (hbytes : ∀ b ∈ bytes, b < 256) :
    (followers bytes).toList.Perm (List.range bytes.length) := by
  have hall := @Buckets.flatMap_buckets_perm _ (fun r : ℕ × ℕ => r.1) bytes.zipIdx 256
    fun r hr => hbytes r.1 (List.fst_mem_of_mem_zipIdx hr)
  have hplaces := hall.map Prod.snd
  rw [List.map_flatMap, List.zipIdx_map_snd, ← List.range_eq_range'] at hplaces
  exact hplaces

theorem followers_pairwise (bytes : List ℕ) :
    (followers bytes).toList.Pairwise fun i j =>
      bytes.getD i 0 < bytes.getD j 0 ∨ (bytes.getD i 0 = bytes.getD j 0 ∧ i < j) := by
  have hplace : bytes.zipIdx.Pairwise fun r r' => r.2 < r'.2 := by
    have := List.pairwise_lt_range' (s := 0) (n := bytes.length)
    rwa [← List.zipIdx_map_snd, List.pairwise_map] at this
  have hbyte : ∀ {byte j}, j ∈ ((bytes.zipIdx.filter fun r => r.1 == byte).map (·.2)) →
      bytes.getD j 0 = byte := by
    intro byte j hj
    obtain ⟨⟨b, _⟩, hmem, rfl⟩ := List.mem_map.1 hj
    obtain ⟨hmem, heq⟩ := List.mem_filter.1 hmem
    rw [List.getD_eq_getElem?_getD, List.mem_zipIdx_iff_getElem?.1 hmem]
    exact eq_of_beq heq
  have hlist : (followers bytes).toList = (List.range 256).flatMap fun byte =>
      (bytes.zipIdx.filter fun r => r.1 == byte).map (·.2) := rfl
  rw [hlist]
  refine List.pairwise_flatMap.2 ⟨fun byte _ => ?_, ?_⟩
  · refine List.Pairwise.imp_of_mem (fun hi hj hij => .inr ⟨?_, hij⟩)
      (List.pairwise_map.2 (hplace.filter _))
    rw [hbyte hi, hbyte hj]
  · refine List.pairwise_lt_range.imp fun hlt i hi j hj => .inl ?_
    rw [hbyte hi, hbyte hj]
    exact hlt

theorem concat_lt_concat {a b : List ℕ} (hlength : a.length = b.length) (h : a < b) (c : ℕ) :
    a ++ [c] < b ++ [c] := by
  induction a generalizing b with
  | nil =>
    obtain rfl := List.length_eq_zero_iff.1 hlength.symm
    exact absurd h (lt_irrefl _)
  | cons x a ih =>
    obtain ⟨y, b, rfl⟩ := List.exists_cons_of_length_eq_add_one hlength.symm
    exact List.cons_lt_cons_iff.2 ((List.cons_lt_cons_iff.1 h).imp_right
      fun ⟨hxy, h⟩ => ⟨hxy, ih (by simpa using hlength) h⟩)

theorem cons_le_cons_of_le {a b : List ℕ} (x : ℕ) (h : a ≤ b) : x :: a ≤ x :: b := by
  rcases h.eq_or_lt with rfl | h
  · exact le_rfl
  · exact (List.cons_lt_cons_iff.2 (.inr ⟨rfl, h⟩)).le

theorem getD_sortedPlaces_lt {j : ℕ} (hj : j < block.size) :
    (sortedPlaces block).getD j 0 < block.size := by
  rw [List.getD_eq_getElem _ _ (by rwa [length_sortedPlaces])]
  exact List.mem_range.1 ((sortedPlaces_perm block).subset (List.getElem_mem _))

theorem getD_lastBytes {j : ℕ} (hj : j < block.size) :
    (lastBytes block).getD j 0 = byteBefore block ((sortedPlaces block).getD j 0) := by
  have hlt : j < (sortedPlaces block).length := by rwa [length_sortedPlaces]
  rw [lastBytes, List.getD_eq_getElem _ _ (by simpa using hlt), List.getElem_map,
    List.getD_eq_getElem _ _ hlt]

theorem mem_of_mem_lastBytes {b : ℕ} (hb : b ∈ lastBytes block) : b ∈ block.toList := by
  obtain ⟨i, hi, rfl⟩ := List.mem_map.1 hb
  have hplace := placeBefore_lt (List.mem_range.1 ((sortedPlaces_perm block).subset hi))
  rw [byteBefore, Array.getD_eq_getD_getElem?, Array.getElem?_eq_getElem hplace]
  simp

theorem lastBytes_lt (hblock : ∀ b ∈ block.toList, b < 256) : ∀ b ∈ lastBytes block, b < 256 :=
  fun b hb => hblock b (mem_of_mem_lastBytes hb)

/-- Where the bytes before two places are the same, what follows decides. -/
theorem circle_sortedPlaces_le {i j : ℕ} (hij : i < j) (hj : j < block.size)
    (hbytes : (lastBytes block).getD i 0 = (lastBytes block).getD j 0) :
    circle block (block.size - 1) ((sortedPlaces block).getD i 0) ≤
      circle block (block.size - 1) ((sortedPlaces block).getD j 0) := by
  have hi := hij.trans hj
  have hall : circle block block.size ((sortedPlaces block).getD i 0) ≤
      circle block block.size ((sortedPlaces block).getD j 0) := by
    have hplaces : j < (sortedPlaces block).length := by rwa [length_sortedPlaces]
    rw [List.getD_eq_getElem _ _ (hij.trans hplaces), List.getD_eq_getElem _ _ hplaces]
    exact List.pairwise_iff_getElem.1 (sortedPlaces_sorted block) i j _ _ hij
  rw [circle_eq_concat (getD_sortedPlaces_lt hi), circle_eq_concat (getD_sortedPlaces_lt hj),
    ← getD_lastBytes hi, ← getD_lastBytes hj, hbytes] at hall
  exact not_lt.1 fun hlt =>
    absurd (concat_lt_concat (by rw [length_circle, length_circle]) hlt _) (not_lt.2 hall)

/-- What is at the places before those that the sorted bytes lead to is sorted as the places are:
the bytes decide first, and where they are equal what comes after them is sorted already. -/
theorem map_followers_eq (hblock : ∀ b ∈ block.toList, b < 256) :
    ((followers (lastBytes block)).toList.map fun j =>
      circle block block.size (placeBefore block ((sortedPlaces block).getD j 0))) =
        (sortedPlaces block).map (circle block block.size) := by
  have hperm := followers_perm (lastBytes_lt hblock)
  rw [length_lastBytes] at hperm
  refine List.Perm.eq_of_pairwise (fun _ _ _ _ h h' => le_antisymm h h')
    (List.pairwise_map.2 ((followers_pairwise (lastBytes block)).imp_of_mem ?_))
    (List.pairwise_map.2 (sortedPlaces_sorted block)) ?_
  · intro i j hi hj hij
    replace hi := List.mem_range.1 (hperm.subset hi)
    replace hj := List.mem_range.1 (hperm.subset hj)
    rw [circle_placeBefore (getD_sortedPlaces_lt hi), circle_placeBefore (getD_sortedPlaces_lt hj),
      ← getD_lastBytes hi, ← getD_lastBytes hj]
    rcases hij with hlt | ⟨heq, hlt⟩
    · exact (List.cons_lt_cons_iff.2 (.inl hlt)).le
    · rw [heq]
      exact cons_le_cons_of_le _ (circle_sortedPlaces_le hlt hj heq)
  · have hplaces : (List.range block.size).map (fun j => (sortedPlaces block).getD j 0) =
        sortedPlaces block := by
      refine List.ext_getElem (by simp [length_sortedPlaces]) fun j _ hj => ?_
      simp [List.getElem?_eq_getElem hj]
    have hback : ((sortedPlaces block).map (placeBefore block)).Perm (sortedPlaces block) :=
      (((sortedPlaces_perm block).map _).trans (map_placeBefore_perm block)).trans
        (sortedPlaces_perm block).symm
    refine (hperm.map _).trans ?_
    have hrows := hback.map (circle block block.size)
    rw [← hplaces, List.map_map, List.map_map, hplaces] at hrows
    exact hrows

/-- From the place of a circle the next one is that of the circle a byte further on, and the byte
is the first of the circle. -/
theorem follower_spec (hblock : ∀ b ∈ block.toList, b < 256) {k i : ℕ} (hk : k < block.size)
    (hi : i < block.size) (hrow : circle block block.size ((sortedPlaces block).getD k 0) =
      circle block block.size i) :
    let next := (followers (lastBytes block)).getD k 0
    next < block.size ∧ (lastBytes block).getD next 0 = block.getD i 0 ∧
      circle block block.size ((sortedPlaces block).getD next 0) =
        circle block block.size ((i + 1) % block.size) := by
  intro next
  have hperm := followers_perm (lastBytes_lt hblock)
  rw [length_lastBytes] at hperm
  have hk' : k < (followers (lastBytes block)).toList.length := by
    rwa [hperm.length_eq, List.length_range]
  have hplaces : k < (sortedPlaces block).length := by rwa [length_sortedPlaces]
  have hnext : next = (followers (lastBytes block)).toList[k] := by
    simp only [next, Array.getD_eq_getD_getElem?, Array.getElem?_eq_getElem hk', Option.getD_some]
    rfl
  have hlt : next < block.size := by
    rw [hnext]
    exact List.mem_range.1 (hperm.subset (List.getElem_mem _))
  have hplace := getD_sortedPlaces_lt hlt
  have hcircle : circle block block.size (placeBefore block ((sortedPlaces block).getD next 0)) =
      circle block block.size i := by
    have hat := List.getElem_of_eq (map_followers_eq hblock) (i := k) (by simpa using hk')
    rw [List.getElem_map, List.getElem_map, ← hnext] at hat
    rw [hat, ← hrow, List.getD_eq_getElem _ _ hplaces]
  have hfirst : circle block block.size i =
      block.getD i 0 :: circle block (block.size - 1) ((i + 1) % block.size) := by
    obtain ⟨count, hcount⟩ := Nat.exists_eq_add_one_of_ne_zero (show block.size ≠ 0 by omega)
    rw [hcount, Nat.add_sub_cancel, circle, hcount]
  rw [circle_placeBefore hplace, hfirst, List.cons.injEq] at hcircle
  obtain ⟨hbyte, htail⟩ := hcircle
  refine ⟨hlt, (getD_lastBytes hlt).trans hbyte, ?_⟩
  rw [circle_eq_concat hplace, htail, hbyte, circle_eq_concat (Nat.mod_lt _ (by omega)), byteBefore,
    placeBefore_next hi]

/-- Following the sorted bytes reads the block in a circle, by induction on how far. -/
theorem follow_lastBytes (hblock : ∀ b ∈ block.toList, b < 256) (count : ℕ) {k i : ℕ}
    (hk : k < block.size) (hi : i < block.size)
    (hrow : circle block block.size ((sortedPlaces block).getD k 0) =
      circle block block.size i) :
    follow (lastBytes block).toArray (followers (lastBytes block)) count k =
      circle block count i := by
  induction count generalizing k i with
  | zero => rfl
  | succ count ih =>
    obtain ⟨hnext, hbyte, hrest⟩ := follower_spec hblock hk hi hrow
    have hbyte' : (lastBytes block).toArray.getD ((followers (lastBytes block)).getD k 0) 0 =
        block.getD i 0 := by
      rw [← hbyte, Array.getD_eq_getD_getElem?, List.getElem?_toArray, List.getD_eq_getElem?_getD]
    rw [follow, circle]
    exact congrArg₂ _ hbyte' (ih hnext (Nat.mod_lt _ (by omega)) hrest)

theorem circle_add (i count : ℕ) (h : i + count ≤ block.size) :
    circle block count i = (block.toList.drop i).take count := by
  induction count generalizing i with
  | zero => rfl
  | succ count ih =>
    have hi : i < block.size := by omega
    have hget : block.getD i 0 = block.toList[i] := by
      rw [Array.getD_eq_getD_getElem?, Array.getElem?_eq_getElem hi]
      rfl
    have hnext : circle block count ((i + 1) % block.size) = circle block count (i + 1) := by
      cases count with
      | zero => rfl
      | succ count => rw [Nat.mod_eq_of_lt (by omega)]
    rw [circle, hnext, ih (i + 1) (by omega), hget,
      List.drop_eq_getElem_cons (show i < block.toList.length from hi), List.take_succ_cons]

/-- Where the first place of a block is among the sorted ones. -/
theorem idxOf_sortedPlaces_lt (hsize : 0 < block.size) :
    (sortedPlaces block).idxOf 0 < block.size := by
  have hmem := (sortedPlaces_perm block).symm.subset (List.mem_range.2 hsize)
  have hlt := List.idxOf_lt_length_of_mem hmem
  rwa [length_sortedPlaces] at hlt

/-- The sorted bytes and the place of the first one give the block. -/
theorem follow_origin (hblock : ∀ b ∈ block.toList, b < 256) (hsize : 0 < block.size) :
    follow (lastBytes block).toArray (followers (lastBytes block)) (lastBytes block).length
      ((sortedPlaces block).idxOf 0) = block.toList := by
  have hlt := idxOf_sortedPlaces_lt hsize
  have hplace : (sortedPlaces block).getD ((sortedPlaces block).idxOf 0) 0 = 0 := by
    rw [List.getD_eq_getElem _ _ (by rwa [length_sortedPlaces]), List.getElem_idxOf]
  rw [length_lastBytes, follow_lastBytes hblock block.size hlt hsize (by rw [hplace]),
    circle_add 0 _ (by simp)]
  simp

/-! ### Places of bytes -/

theorem length_runDigits_le (n : ℕ) : (runDigits n).length ≤ n := by
  induction n using runDigits.induct with
  | case1 => simp [runDigits]
  | case2 n ih =>
    rw [runDigits, List.length_cons]
    omega

theorem runDigits_lt (n : ℕ) : ∀ digit ∈ runDigits n, digit < 2 := by
  induction n using runDigits.induct with
  | case1 => simp [runDigits]
  | case2 n ih =>
    rw [runDigits]
    exact List.forall_mem_cons.2 ⟨Nat.mod_lt _ two_pos, ih⟩

/-- The digits of a run add up to its length, and what the next digit would count stays small. -/
theorem sortedBytes_runDigits (limit : ℕ) (n : ℕ) (rest recent done : List ℕ) {weight run : ℕ}
    (hweight : weight * (n + 1) < 2097152) :
    ∃ next < 2097152, sortedBytes limit (runDigits n ++ rest) recent weight run done =
      sortedBytes limit rest recent next (run + weight * n) done := by
  induction n using runDigits.induct generalizing weight run with
  | case1 => exact ⟨weight, by simpa using hweight, by simp [runDigits]⟩
  | case2 n ih =>
    have hsmall : weight < 2097152 :=
      (Nat.le_mul_of_pos_right weight (Nat.succ_pos _)).trans_lt hweight
    have hhalf : 2 * weight * (n / 2 + 1) < 2097152 := by
      refine lt_of_le_of_lt ?_ hweight
      rw [Nat.mul_comm 2, Nat.mul_assoc]
      exact Nat.mul_le_mul_left _ (by omega)
    obtain ⟨next, hnext, heq⟩ := @ih (2 * weight) (run + (n % 2 + 1) * weight) hhalf
    refine ⟨next, hnext, ?_⟩
    have hsum : run + (n % 2 + 1) * weight + 2 * weight * (n / 2) = run + weight * (n + 1) := by
      have hn : n = n % 2 + 2 * (n / 2) := by omega
      calc _ = run + weight * (n % 2 + 2 * (n / 2) + 1) := by ring
        _ = run + weight * (n + 1) := by rw [← hn]
    rw [hsum] at heq
    rw [runDigits, List.cons_append, sortedBytes, if_neg (by omega), if_pos (Nat.mod_lt _ two_pos)]
    exact heq

theorem pick_idxOf {recent : List ℕ} {byte : ℕ} (hbyte : byte ∈ recent) (s : Unpacking) :
    Gives (pick recent (recent.idxOf byte)) s (byte, recent.erase byte) s := by
  have hlt := List.idxOf_lt_length_of_mem hbyte
  rw [pick, List.getElem?_eq_getElem hlt, List.getElem_idxOf, List.erase_eq_eraseIdx_of_idxOf rfl]
  exact gives_pure _ _

/-- A byte that was used before is among those used last in any order. -/
theorem mem_cons_erase {recent : List ℕ} {byte : ℕ} {rest : List ℕ}
    (h : ∀ b ∈ byte :: rest, b ∈ recent) : ∀ b ∈ rest, b ∈ byte :: recent.erase byte := by
  intro b hb
  by_cases heq : b = byte
  · exact heq ▸ List.mem_cons_self
  · exact List.mem_cons_of_mem _ ((List.mem_erase_of_ne heq).2 (h b (List.mem_cons_of_mem _ hb)))

theorem length_cons_erase {recent : List ℕ} {byte : ℕ} (h : byte ∈ recent) :
    (byte :: recent.erase byte).length = recent.length := by
  rw [List.length_cons, List.length_erase_of_mem h,
    Nat.sub_add_cancel (List.length_pos_of_mem h)]

theorem placeSymbols_le {recent bytes : List ℕ} (run : ℕ) (hrecent : 0 < recent.length)
    (hbytes : ∀ b ∈ bytes, b ∈ recent) :
    (∀ symbol ∈ placeSymbols recent run bytes, symbol ≤ recent.length) ∧
      (placeSymbols recent run bytes).length ≤ run + bytes.length := by
  induction bytes generalizing recent run with
  | nil =>
    exact ⟨fun symbol h => by have := runDigits_lt run symbol h; omega, length_runDigits_le run⟩
  | cons byte rest ih =>
    have hbyte := hbytes byte List.mem_cons_self
    have hlt := List.idxOf_lt_length_of_mem hbyte
    rw [placeSymbols]
    split
    · obtain ⟨hsymbols, hlength⟩ :=
        ih (run + 1) hrecent fun b hb => hbytes b (List.mem_cons_of_mem _ hb)
      exact ⟨hsymbols, by rw [List.length_cons]; omega⟩
    · obtain ⟨hsymbols, hlength⟩ := ih 0 (by simp) (mem_cons_erase hbytes)
      rw [length_cons_erase hbyte] at hsymbols
      refine ⟨fun symbol h => ?_, ?_⟩
      · rcases List.mem_append.1 h with h | h
        · have := runDigits_lt run symbol h
          omega
        · rcases List.mem_cons.1 h with rfl | h
          · exact hlt
          · exact hsymbols symbol h
      · have := length_runDigits_le run
        simp only [List.length_append, List.length_cons]
        omega

/-- Symbols give back the bytes that they stand for, the last one first. -/
theorem gives_sortedBytes {limit : ℕ} (hlimit : limit < 2097151) {recent bytes done : List ℕ}
    {run : ℕ} (hbytes : ∀ b ∈ bytes, b ∈ recent) (hroom : done.length + run + bytes.length ≤ limit)
    (s : Unpacking) :
    Gives (sortedBytes limit (placeSymbols recent run bytes) recent 1 0 done) s
      (bytes.reverse ++ (List.replicate run (recent.headD 0) ++ done)) s := by
  induction bytes generalizing recent run done with
  | nil =>
    obtain ⟨next, -, heq⟩ := @sortedBytes_runDigits limit run [] recent done 1 0
      (by simp at hroom; omega)
    rw [List.append_nil, Nat.one_mul, Nat.zero_add] at heq
    rw [placeSymbols, heq, sortedBytes, if_neg (by simp at hroom; omega)]
    exact gives_pure _ _
  | cons byte rest ih =>
    have hbyte := hbytes byte List.mem_cons_self
    have hpick := pick_idxOf hbyte s
    rw [List.length_cons] at hroom
    rw [placeSymbols]
    split
    · next hplace =>
      have hhead : recent.headD 0 = byte := by
        have hlt := List.idxOf_lt_length_of_mem hbyte
        have hget := List.getElem_idxOf hlt
        simp only [hplace] at hget
        rw [← hget, List.headD_eq_head?_getD, List.head?_eq_getElem?,
          List.getElem?_eq_getElem (hplace ▸ hlt), Option.getD_some]
      have hrest := @ih recent done (run + 1) (fun b hb => hbytes b (List.mem_cons_of_mem _ hb))
        (by omega)
      rw [hhead, List.replicate_succ] at hrest
      rw [hhead, List.reverse_cons, List.append_assoc]
      exact hrest
    · next hplace =>
      have hpos : 0 < recent.idxOf byte := Nat.pos_of_ne_zero hplace
      obtain ⟨next, hnext, heq⟩ := @sortedBytes_runDigits limit run
        ((recent.idxOf byte + 1) :: placeSymbols (byte :: recent.erase byte) 0 rest) recent done 1 0
        (by omega)
      rw [Nat.one_mul, Nat.zero_add] at heq
      have hrest := @ih (byte :: recent.erase byte)
        (byte :: (List.replicate run (recent.headD 0) ++ done)) 0 (mem_cons_erase hbytes)
        (by simp only [List.length_cons, List.length_append, List.length_replicate]; omega)
      rw [heq, sortedBytes, if_neg (by omega), if_neg (by omega), if_neg (by omega),
        List.reverse_cons, List.append_assoc]
      exact gives_bind hpick hrest

end TablePipeline.Compressed.Bzip2
