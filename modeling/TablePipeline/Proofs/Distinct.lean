import Mathlib
import TablePipeline.Proofs.Key

/-!
Firsts of their kind. Of a list only the items are kept that match none of those kept before them;
for keys these are the distinct keys, in the order in which they are first seen. Putting items one by
one under their keys gathers the items of each distinct key.
-/
namespace TablePipeline

section Firsts

variable {α β : Type} {r : α → α → Bool}

theorem loop_append_singleton (as bs : List α) (a : α) :
    List.eraseDupsBy.loop r (as ++ [a]) bs =
      if (List.eraseDupsBy.loop r as bs).any (r a) then List.eraseDupsBy.loop r as bs
      else List.eraseDupsBy.loop r as bs ++ [a] := by
  induction as generalizing bs with
  | nil => cases h : bs.any (r a) <;> simp [List.eraseDupsBy.loop, h]
  | cons b as ih => cases h : bs.any (r b) <;> simp [List.eraseDupsBy.loop, h, ih]

/-- One more item is kept unless it matches one that has been kept. -/
theorem eraseDupsBy_append_singleton (as : List α) (a : α) :
    (as ++ [a]).eraseDupsBy r =
      if (as.eraseDupsBy r).any (r a) then as.eraseDupsBy r else as.eraseDupsBy r ++ [a] :=
  loop_append_singleton as [] a

theorem mem_of_mem_eraseDupsBy {as : List α} {a : α} (h : a ∈ as.eraseDupsBy r) : a ∈ as := by
  induction as using List.reverseRecOn with
  | nil => exact h
  | append_singleton as b ih =>
    rw [eraseDupsBy_append_singleton] at h
    split_ifs at h
    · exact List.mem_append_left _ (ih h)
    · rcases List.mem_append.1 h with h | h
      · exact List.mem_append_left _ (ih h)
      · exact List.mem_append_right _ h

/-- Every item matches one that is kept, if it matches itself. -/
theorem exists_mem_eraseDupsBy {as : List α} (hrefl : ∀ a ∈ as, r a a = true) {a : α} (h : a ∈ as) :
    ∃ b ∈ as.eraseDupsBy r, r a b = true := by
  induction as using List.reverseRecOn with
  | nil => simp at h
  | append_singleton as c ih =>
    have hkept : ∀ b ∈ as.eraseDupsBy r, b ∈ (as ++ [c]).eraseDupsBy r := by
      intro b hb
      rw [eraseDupsBy_append_singleton]
      split_ifs <;> simp [hb]
    rcases List.mem_append.1 h with ha | ha
    · obtain ⟨b, hb, hab⟩ := ih (fun a ha => hrefl a (by simp [ha])) ha
      exact ⟨b, hkept b hb, hab⟩
    · obtain rfl : a = c := by simpa using ha
      by_cases hany : (as.eraseDupsBy r).any (r a) = true
      · obtain ⟨b, hb, hab⟩ := List.any_eq_true.1 hany
        exact ⟨b, hkept b hb, hab⟩
      · refine ⟨a, ?_, hrefl a h⟩
        rw [eraseDupsBy_append_singleton, if_neg hany]
        simp

/-- No item that is kept matches one before it. -/
theorem pairwise_eraseDupsBy (as : List α) : (as.eraseDupsBy r).Pairwise fun b a => r a b = false := by
  induction as using List.reverseRecOn with
  | nil => exact .nil
  | append_singleton as a ih =>
    rw [eraseDupsBy_append_singleton]
    split_ifs with h
    · exact ih
    · rw [List.pairwise_append]
      exact ⟨ih, List.pairwise_singleton _ _, by simpa using h⟩

theorem eraseDupsBy_map (f : β → α) (bs : List β) :
    (bs.map f).eraseDupsBy r = (bs.eraseDupsBy fun b c => r (f b) (f c)).map f := by
  induction bs using List.reverseRecOn with
  | nil => rfl
  | append_singleton bs b ih =>
    rw [List.map_append, List.map_singleton, eraseDupsBy_append_singleton,
      eraseDupsBy_append_singleton, ih, List.any_map, Function.comp_def]
    split_ifs <;> simp

/-- What is left of the firsts by a filter that treats matching items alike are the firsts of what
it leaves. -/
theorem eraseDupsBy_filter {q : α → Bool} {as : List α}
    (h : ∀ a ∈ as, ∀ b ∈ as, r a b = true → q a = q b) :
    (as.filter q).eraseDupsBy r = (as.eraseDupsBy r).filter q := by
  induction as using List.reverseRecOn with
  | nil => rfl
  | append_singleton as a ih =>
    have ih := ih fun a ha b hb => h a (by simp [ha]) b (by simp [hb])
    by_cases hq : q a = true
    · have hany : ((as.eraseDupsBy r).filter q).any (r a) = (as.eraseDupsBy r).any (r a) := by
        rw [List.any_filter, Bool.eq_iff_iff, List.any_eq_true, List.any_eq_true]
        refine exists_congr fun b => and_congr_right fun hb => ?_
        by_cases hr : r a b = true
        · simp [← h a (by simp) b (by simp [mem_of_mem_eraseDupsBy hb]) hr, hq]
        · simp [hr]
      have hlast : (as ++ [a]).filter q = as.filter q ++ [a] := by simp [hq]
      rw [hlast, eraseDupsBy_append_singleton, eraseDupsBy_append_singleton, ih, hany]
      split_ifs <;> simp [hq]
    · have hlast : (as ++ [a]).filter q = as.filter q := by simp [hq]
      rw [hlast, eraseDupsBy_append_singleton, ih]
      split_ifs <;> simp [hq]

end Firsts

namespace Key

/-- The keys that equal none of those before them. -/
def distinct (keys : List Key) : List Key := keys.eraseDupsBy fun key there => equal there key

theorem distinct_append_singleton (keys : List Key) (key : Key) :
    distinct (keys ++ [key]) =
      if (distinct keys).any (equal · key) then distinct keys else distinct keys ++ [key] :=
  eraseDupsBy_append_singleton keys key

theorem mem_of_mem_distinct {keys : List Key} {key : Key} (h : key ∈ distinct keys) : key ∈ keys :=
  mem_of_mem_eraseDupsBy h

/-- Every key equals a distinct one, if it equals itself. -/
theorem exists_mem_distinct {keys : List Key} (hrefl : ∀ k ∈ keys, equal k k = true) {key : Key}
    (h : key ∈ keys) : ∃ k ∈ distinct keys, equal k key = true :=
  exists_mem_eraseDupsBy (r := fun key there => equal there key) hrefl h

theorem pairwise_distinct (keys : List Key) :
    (distinct keys).Pairwise fun k l => equal k l = false :=
  pairwise_eraseDupsBy keys

/-! ### Items by their keys -/

section Grouped

variable {α β : Type}

/-- Change what stands under a key, or put something under it at the end. -/
def upsert (key : Key) (fresh : β) (grow : β → β) : List (Key × β) → List (Key × β)
  | [] => [(key, fresh)]
  | (there, b) :: rest =>
    if equal there key then (there, grow b) :: rest else (there, b) :: upsert key fresh grow rest

/-- The distinct keys of items, each with what is made of the items that have it. -/
def grouped (key : α → Key) (value : List α → β) (as : List α) : List (Key × β) :=
  (distinct (as.map key)).map fun k => (k, value (as.filter fun a => equal k (key a)))

/-- What has a new key stands at the end. -/
theorem upsert_of_new {key : Key} (fresh : β) (grow : β → β) {table : List (Key × β)}
    (h : ∀ entry ∈ table, equal entry.1 key = false) :
    upsert key fresh grow table = table ++ [(key, fresh)] := by
  induction table with
  | nil => rfl
  | cons entry table ih =>
    rw [upsert, h entry (by simp), if_neg (by simp), ih fun e he => h e (by simp [he])]
    rfl

/-- Of the keys that are there one alone is changed, as no two of them are equal. -/
theorem upsert_of_seen {key : Key} (fresh : β) (grow : β → β) (at_ : Key → β) {keys : List Key}
    (hkeys : ∀ k ∈ keys, k.check = .ok ())
    (hpair : keys.Pairwise fun k l => equal k l = false)
    (hseen : ∃ k ∈ keys, equal k key = true) :
    upsert key fresh grow (keys.map fun k => (k, at_ k)) =
      keys.map fun k => (k, if equal k key then grow (at_ k) else at_ k) := by
  induction keys with
  | nil => simp at hseen
  | cons k keys ih =>
    obtain ⟨hk, hpair⟩ := List.pairwise_cons.1 hpair
    by_cases hequal : equal k key = true
    · have hothers : ∀ l ∈ keys, equal l key = false := by
        intro l hl
        rw [Bool.eq_false_iff]
        intro hlkey
        have hkl := equal_trans (hkeys k (by simp)) hequal
          (equal_symm (hkeys l (by simp [hl])) hlkey)
        simp [hk l hl] at hkl
      have hrest : (keys.map fun l => (l, at_ l)) =
          keys.map fun l => (l, if equal l key then grow (at_ l) else at_ l) :=
        List.map_congr_left fun l hl => by simp [hothers l hl]
      simp [upsert, hequal, hrest]
    · obtain ⟨l, hl, hlkey⟩ := hseen
      have hlater : l ∈ keys := by
        rcases List.mem_cons.1 hl with rfl | hl
        · exact absurd hlkey hequal
        · exact hl
      simp [upsert, hequal, ih (fun l hl => hkeys l (by simp [hl])) hpair ⟨l, hlater, hlkey⟩]

/-- No item has a key that no distinct key equals. -/
theorem filter_of_new {key : α → Key} {as : List α} {a : α} (ha : (key a).check = .ok ())
    (hcheck : ∀ b ∈ as, (key b).check = .ok ()) (hrefl : ∀ b ∈ as, equal (key b) (key b) = true)
    (hnew : ∀ k ∈ distinct (as.map key), equal k (key a) = false) :
    (as.filter fun b => equal (key a) (key b)) = [] := by
  rw [List.filter_eq_nil_iff]
  intro b hb hequal
  obtain ⟨k, hk, hkb⟩ := exists_mem_distinct (by simpa using hrefl) (List.mem_map_of_mem hb)
  obtain ⟨c, hc, rfl⟩ := List.mem_map.1 (mem_of_mem_distinct hk)
  have hca := equal_trans (hcheck c hc) hkb (equal_symm ha hequal)
  simp [hnew (key c) hk] at hca

/-- One more item is added to those with its key, or makes a new entry. -/
theorem upsert_grouped {key : α → Key} {value : List α → β} {grow : β → β} {as : List α} {a : α}
    (hcheck : ∀ b ∈ as ++ [a], (key b).check = .ok ())
    (hrefl : ∀ b ∈ as ++ [a], equal (key b) (key b) = true)
    (hgrow : ∀ bs, value (bs ++ [a]) = grow (value bs)) :
    upsert (key a) (value [a]) grow (grouped key value as) = grouped key value (as ++ [a]) := by
  have hlast : ∀ k, (as ++ [a]).filter (fun b => equal k (key b)) =
      as.filter (fun b => equal k (key b)) ++ if equal k (key a) then [a] else [] := by
    intro k
    rw [List.filter_append]
    congr 1
    cases h : equal k (key a) <;> simp [h]
  simp only [grouped, List.map_append, List.map_singleton, distinct_append_singleton, hlast]
  by_cases hseen : (distinct (as.map key)).any (equal · (key a)) = true
  · have hkeys : ∀ k ∈ distinct (as.map key), k.check = .ok () := by
      intro k hk
      obtain ⟨b, hb, rfl⟩ := List.mem_map.1 (mem_of_mem_distinct hk)
      exact hcheck b (by simp [hb])
    rw [if_pos hseen, upsert_of_seen _ grow _ hkeys (pairwise_distinct _) (List.any_eq_true.1 hseen)]
    apply List.map_congr_left
    intro k _
    split_ifs <;> simp [hgrow]
  · have hnew : ∀ k ∈ distinct (as.map key), equal k (key a) = false := by simpa using hseen
    have hnone := filter_of_new (hcheck a (by simp)) (fun b hb => hcheck b (by simp [hb]))
      (fun b hb => hrefl b (by simp [hb])) hnew
    rw [if_neg hseen, upsert_of_new, List.map_append, List.map_singleton, hnone,
      hrefl a (by simp)]
    · congr 1
      exact List.map_congr_left fun k hk => by simp [hnew k hk]
    · intro entry hentry
      obtain ⟨k, hk, rfl⟩ := List.mem_map.1 hentry
      exact hnew k hk

end Grouped

end Key

end TablePipeline
