import Mathlib
import TablePipeline.Proofs.Outcome
import TablePipeline.Storage

/-!
Writing into the storage. A path leads to a place, where a file is or can be; writing puts a file
into the place of a path and leaves all others as they are. Other paths lead where they led before,
except that a place that was free may now have a file in it.
-/
namespace TablePipeline

/-- The place where a file is or can be. -/
def Spot.place? : Spot → Option Location
  | file at_ | free at_ => some at_
  | folder _ | nowhere _ => none

namespace Store

/-- The place to which a path leads. -/
def place? (store : Store) (path : String) : Option Location := (store.walk path).place?

theorem write_eq_ok_iff {store store' : Store} {path : String} {bytes : Bytes} :
    store.write path bytes = .ok store' ↔
      ∃ at_, store.place? path = some at_ ∧ store' = store.put at_ bytes := by
  unfold write place? Spot.place?
  cases store.walk path <;> simp [eq_comm]

theorem lookup_replace (files : List (Location × Bytes)) (at_ there : Location) (bytes : Bytes) :
    (files.map fun (place, old) => (place, if place == at_ then bytes else old)).lookup there =
      if there = at_ then (files.lookup there).map fun _ => bytes else files.lookup there := by
  induction files with
  | nil => simp
  | cons entry files ih =>
    obtain ⟨place, old⟩ := entry
    rw [List.map_cons, List.lookup_cons, List.lookup_cons]
    by_cases hsame : there = place
    · subst hsame
      by_cases hat : there = at_ <;> simp [hat]
    · simp only [beq_eq_false_iff_ne.2 hsame]
      exact ih

/-- The files after one of them has been put in place. -/
theorem content?_put (store : Store) (at_ there : Location) (bytes : Bytes) :
    (store.put at_ bytes).content? there =
      if there = at_ then some bytes else store.content? there := by
  unfold put
  split_ifs with hold hthere hthere
  · subst hthere
    obtain ⟨old, hold⟩ := Option.isSome_iff_exists.1 hold
    have hold : store.files.lookup there = some old := hold
    rw [content?, lookup_replace, if_pos rfl, hold, Option.map_some]
  · rw [content?, lookup_replace, if_neg hthere, content?]
  · subst hthere
    have hnone : store.files.lookup there = none := Option.not_isSome_iff_eq_none.1 hold
    simp [content?, List.lookup_append, hnone]
  · simp [content?, List.lookup_append, beq_eq_false_iff_ne.2 hthere, List.lookup_cons]

/-- Where a path may lead after a file has been put in a place. -/
def Follows (at_ : Location) (before after : Spot) : Prop :=
  (after = before ∧ before ≠ .free at_) ∨ (before = .free at_ ∧ after = .file at_) ∨
    ∃ fault fault', before = .nowhere fault ∧ after = .nowhere fault'

/-- One part further, with and without the file. -/
theorem step_follows (store : Store) (at_ : Location) (bytes : Bytes) {before after : Spot}
    (h : Follows at_ before after) (part : String) :
    Follows at_ (store.step before part) ((store.put at_ bytes).step after part) := by
  rcases h with ⟨rfl, -⟩ | ⟨rfl, rfl⟩ | ⟨fault, fault', rfl, rfl⟩
  · cases after with
    | folder here =>
      have hfolders : (store.put at_ bytes).folders = store.folders := by
        unfold put
        split_ifs <;> rfl
      simp only [step, hfolders, content?_put]
      split_ifs <;> simp_all [Follows]
    | file there => exact .inl ⟨rfl, by simp [step]⟩
    | free there => exact .inl ⟨rfl, by simp [step]⟩
    | nowhere fault => exact .inl ⟨rfl, by simp [step]⟩
  · exact .inr (.inr ⟨_, _, rfl, rfl⟩)
  · exact .inr (.inr ⟨_, _, rfl, rfl⟩)

/-- A whole path, with and without the file: by induction on its parts. -/
theorem walk_follows (store : Store) (at_ : Location) (bytes : Bytes) (path : String) :
    Follows at_ (store.walk path) ((store.put at_ bytes).walk path) := by
  have hfold : ∀ (parts : List String) {before after : Spot}, Follows at_ before after →
      Follows at_ (parts.foldl store.step before) (parts.foldl (store.put at_ bytes).step after) := by
    intro parts
    induction parts with
    | nil => exact fun h => h
    | cons part parts ih => exact fun h => ih (step_follows store at_ bytes h part)
  unfold walk
  cases Path.unwritable? path with
  | some fault => exact .inl ⟨rfl, by simp⟩
  | none =>
    dsimp only
    split_ifs
    · exact .inl ⟨rfl, by simp⟩
    · exact .inl ⟨rfl, by simp⟩
    · exact hfold _ (.inl ⟨rfl, by simp⟩)
    · exact hfold _ (.inl ⟨rfl, by simp⟩)

/-- A path to the place leads to the file that has been put there. -/
theorem walk_put_of_place {store : Store} {at_ : Location} {path : String}
    (h : store.place? path = some at_) (bytes : Bytes) :
    (store.put at_ bytes).walk path = .file at_ := by
  unfold place? Spot.place? at h
  rcases walk_follows store at_ bytes path with ⟨hsame, hnot⟩ | ⟨-, hfile⟩ | ⟨_, _, hnowhere, -⟩
  · rw [hsame]
    cases hwalk : store.walk path <;> simp_all
  · exact hfile
  · simp [hnowhere] at h

/-- Any other path leads to the same file as before, or to none as before. -/
theorem walk_put_of_elsewhere {store : Store} {at_ : Location} {path : String}
    (h : store.place? path ≠ some at_) (bytes : Bytes) :
    (store.put at_ bytes).walk path = store.walk path ∨
      (store.isFile path = false ∧ (store.put at_ bytes).isFile path = false) := by
  rcases walk_follows store at_ bytes path with ⟨hsame, -⟩ | ⟨hfree, -⟩ | ⟨_, _, hbefore, hafter⟩
  · exact .inl hsame
  · simp [place?, hfree, Spot.place?] at h
  · exact .inr ⟨by simp [isFile, hbefore], by simp [isFile, hafter]⟩

theorem read_put_of_place {store : Store} {at_ : Location} {path : String}
    (h : store.place? path = some at_) (bytes : Bytes) :
    (store.put at_ bytes).read path = .ok bytes := by
  simp [read, walk_put_of_place h, content?_put]

/-- What another path leads to is read as before. -/
theorem read_put_of_elsewhere {store : Store} {at_ : Location} {path : String}
    (h : store.place? path ≠ some at_) (bytes : Bytes) (hfile : store.isFile path = true) :
    (store.put at_ bytes).isFile path = true ∧
      (store.put at_ bytes).read path = store.read path := by
  rcases walk_put_of_elsewhere h bytes with hwalk | ⟨hno, -⟩
  · refine ⟨by rwa [isFile, hwalk], ?_⟩
    unfold read
    rw [hwalk]
    cases hspot : store.walk path with
    | file there =>
      have hother : there ≠ at_ := by
        rintro rfl
        simp [place?, hspot, Spot.place?] at h
      simp [content?_put, hother]
    | _ => rfl
  · simp [hfile] at hno

end Store

end TablePipeline
