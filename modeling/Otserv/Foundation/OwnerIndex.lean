import Mathlib.Data.List.AList

/-!
# A keyed store with an index by owner

A store maps keys to values and every value has an owner. An index by owner
keeps, for each owner, the list of the keys the owner's values are stored under.
The index and the store agree when each list holds these keys exactly once
(`Indexes`).

Three updates keep them in agreement: entering a fresh key at any place
(`Indexes.insert`), taking a key away (`Indexes.remove`, and `Indexes.erase` where
the others keep their places), and giving it another value (`Indexes.move`).
-/

namespace Otserv.Foundation

open Function (update update_of_ne update_self)

variable {Key Value Owner : Type*} [DecidableEq Key] [DecidableEq Owner]

/-- Every owner's list holds the keys of the owner's values, each once. -/
structure Indexes (store : Key → Option Value) (owner : Value → Owner)
    (index : Owner → List Key) : Prop where
  nodup : ∀ who, (index who).Nodup
  mem_iff : ∀ who key, key ∈ index who ↔ ∃ value, store key = some value ∧ owner value = who

namespace Indexes

variable {store : Key → Option Value} {owner : Value → Owner} {index : Owner → List Key}

omit [DecidableEq Key] [DecidableEq Owner] in
theorem of_empty (empty : ∀ key, store key = none) (noKeys : ∀ who, index who = []) :
    Indexes store owner index where
  nodup who := by rw [noKeys who]; exact List.nodup_nil
  mem_iff who key := by simp [noKeys who, empty key]

section

variable (indexes : Indexes store owner index)
include indexes

variable {key : Key} {value : Value}

theorem insert (fresh : store key = none) (value : Value) {entered : List Key}
    (enters : entered.Perm (key :: index (owner value))) :
    Indexes (update store key (some value)) owner
      (update index (owner value) entered) := by
  have absent : ∀ who, key ∉ index who := by
    intro who member
    obtain ⟨_, stored, -⟩ := (indexes.mem_iff who key).mp member
    rw [fresh] at stored
    cases stored
  constructor
  · intro who
    by_cases same : who = owner value
    · subst same
      rw [update_self]
      exact enters.nodup_iff.mpr (List.nodup_cons.mpr ⟨absent _, indexes.nodup _⟩)
    · rw [update_of_ne same]
      exact indexes.nodup who
  · intro who other
    have before := indexes.mem_iff who other
    by_cases here : other = key
    · subst here
      by_cases same : who = owner value
      · subst same
        simp [enters.mem_iff]
      · simp [update_of_ne same, absent who, Ne.symm same]
    · by_cases same : who = owner value
      · subst same
        simp [enters.mem_iff, here, before]
      · simp [update_of_ne same, update_of_ne here, before]

theorem remove (stored : store key = some value) {left : List Key}
    (leaves : (key :: left).Perm (index (owner value))) :
    Indexes (update store key none) owner
      (update index (owner value) left) := by
  obtain ⟨absent, nodup⟩ := List.nodup_cons.mp (leaves.nodup_iff.mpr (indexes.nodup _))
  constructor
  · intro who
    by_cases same : who = owner value
    · subst same
      rw [update_self]
      exact nodup
    · rw [update_of_ne same]
      exact indexes.nodup who
  · intro who other
    have before := indexes.mem_iff who other
    by_cases here : other = key
    · subst here
      by_cases same : who = owner value
      · subst same
        simp [absent]
      · have elsewhere : other ∉ index who := by
          intro member
          obtain ⟨_, found, owned⟩ := before.mp member
          rw [stored] at found
          cases found
          exact same owned.symm
        simp [update_of_ne same, elsewhere]
    · by_cases same : who = owner value
      · subst same
        rw [← leaves.mem_iff, List.mem_cons] at before
        simp [here, ← before]
      · simp [update_of_ne same, update_of_ne here, before]

theorem erase (stored : store key = some value) :
    Indexes (update store key none) owner
      (update index (owner value) ((index (owner value)).filter (· ≠ key))) := by
  refine indexes.remove stored ?_
  have member := (indexes.mem_iff (owner value) key).mpr ⟨value, stored, rfl⟩
  have same : (index (owner value)).filter (· ≠ key) = (index (owner value)).erase key := by
    rw [(indexes.nodup _).erase_eq_filter]
    refine List.filter_congr fun other _ => ?_
    rw [Bool.eq_iff_iff, decide_eq_true_eq, bne_iff_ne]
  rw [same]
  exact (List.perm_cons_erase member).symm

theorem move (stored : store key = some value) (other : Value) {left entered : List Key}
    (leaves : (key :: left).Perm (index (owner value)))
    (enters : entered.Perm
      (key :: update index (owner value) left (owner other))) :
    Indexes (update store key (some other)) owner
      (update (update index (owner value) left) (owner other) entered) := by
  have taken := indexes.remove stored leaves
  have put := taken.insert (update_self _ _ _) other enters
  rw [Function.update_idem] at put
  exact put

end

end Indexes

/-! ## Association lists as stores -/

variable {store : AList fun _ : Key => Value}

theorem lookup_insert_eq_update (key : Key) (value : Value) :
    (fun other => (store.insert key value).lookup other) =
      update (fun other => store.lookup other) key (some value) := by
  funext other
  by_cases same : other = key
  · subst same
    simp
  · simp [update_of_ne same, AList.lookup_insert_ne same]

theorem lookup_erase_eq_update (key : Key) :
    (fun other => (store.erase key).lookup other) =
      update (fun other => store.lookup other) key none := by
  funext other
  by_cases same : other = key
  · subst same
    simp
  · simp [update_of_ne same, AList.lookup_erase_ne same]

end Otserv.Foundation
