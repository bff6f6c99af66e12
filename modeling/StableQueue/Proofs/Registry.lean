import Mathlib
import StableQueue.Registry

/-!
# Accounting for the Registry

The registry is a table that is changed in place: names are entered, and numbers are taken out,
either because somebody asks for it or because a queue is gone. What it lists at some time can
also be said by looking back. `Registry.Notice` records what happened, and `grants` and `standing`
read off the record which numbers have been handed out and which of them nobody has withdrawn
since. The registry accounts for the record if it lists those that stand, except for the ones
whose queue is gone.

Queues are told apart by their keys. Which of them are still there is a parameter here.

## Main results

* `Registry.map_id_grants`: numbers are handed out one after the other, starting with 1.
* `Registry.Accounts.insert`, `Registry.Accounts.erase`, `Registry.Accounts.gone`: a name is
  entered, a number is withdrawn, a queue is gone.
* `Registry.Accounts.pairwise_entries`: the entries are listed in the order of their numbers.
-/

namespace StableQueue.Registry

/-- Something that happens to the registry. -/
inductive Notice where
  /-- A name is entered under the next number. If it is the name of a queue, `owner` is its key. -/
  | entered (name : String) (owner : Option Nat)
  /-- Somebody asks for a number to be taken out. -/
  | withdrawn (id : Nat)
  deriving DecidableEq

/-- A number that has been handed out. -/
structure Grant where
  /-- The number. -/
  id : Nat
  /-- The name that was entered under it. -/
  name : String
  /-- The key of the queue that has the name, if it is the name of a queue. -/
  owner : Option Nat
  deriving DecidableEq

namespace Grant

/-- What is listed under the number. -/
def entry (grant : Grant) : Nat × String := (grant.id, grant.name)

/-- The number does not belong to a queue that is gone. -/
def isCurrent (present : Nat → Bool) (grant : Grant) : Bool := grant.owner.all present

end Grant

/-- The numbers that have been handed out, in order. Of what happened, the latest stands first. -/
def grants : List Notice → List Grant
  | [] => []
  | .entered name owner :: earlier =>
    grants earlier ++ [{ id := (grants earlier).length + 1, name, owner }]
  | .withdrawn _ :: earlier => grants earlier

/-- The numbers that have been handed out and that nobody has withdrawn since. -/
def standing : List Notice → List Grant
  | [] => []
  | .entered name owner :: earlier =>
    standing earlier ++ [{ id := (grants earlier).length + 1, name, owner }]
  | .withdrawn id :: earlier => (standing earlier).filter (·.id ≠ id)

/-- The registry lists the numbers that stand and do not belong to a queue that is gone. -/
structure Accounts (registry : Registry) (present : Nat → Bool) (history : List Notice) : Prop where
  /-- The next number is one more than those handed out. -/
  nextId_eq : registry.nextId = (grants history).length + 1
  /-- Nothing is missing from the list, and nothing is listed too much. -/
  entries_eq : registry.entries = ((standing history).filter (·.isCurrent present)).map Grant.entry

variable {registry : Registry} {present : Nat → Bool} {history : List Notice} {grant other : Grant}

/-- **Numbers are handed out one after the other**, starting with 1. -/
theorem map_id_grants (history : List Notice) :
    (grants history).map Grant.id = List.range' 1 (grants history).length := by
  induction history with
  | nil => rfl
  | cons notice earlier ih =>
      cases notice with
      | entered name owner =>
          rw [grants, List.map_append, ih, List.length_append, List.length_singleton,
            List.range'_1_concat, Nat.add_comm 1]
          rfl
      | withdrawn id => exact ih

/-- A number that stands has been handed out. -/
theorem standing_sublist (history : List Notice) : (standing history).Sublist (grants history) := by
  induction history with
  | nil => exact .slnil
  | cons notice earlier ih =>
      cases notice with
      | entered name owner => exact ih.append_right _
      | withdrawn id => exact List.filter_sublist.trans ih

/-- A number is handed out only once. -/
theorem grant_eq_of_id_eq (hgrant : grant ∈ grants history) (hother : other ∈ grants history)
    (hid : grant.id = other.id) : grant = other := by
  have hnodup : ((grants history).map Grant.id).Nodup := by
    rw [map_id_grants]
    exact List.nodup_range'
  exact List.inj_on_of_nodup_map hnodup hgrant hother hid

/-- Nothing has happened to a new registry. -/
theorem Accounts.new : Accounts {} present [] := ⟨rfl, rfl⟩

/-- What is listed depends only on which owners are there. -/
theorem Accounts.congr (h : registry.Accounts present history) {present' : Nat → Bool}
    (hsame : ∀ grant ∈ grants history, ∀ key, grant.owner = some key → present' key = present key) :
    registry.Accounts present' history := by
  refine ⟨h.nextId_eq, ?_⟩
  rw [h.entries_eq]
  congr 1
  refine List.filter_congr fun grant hgrant => ?_
  rw [Grant.isCurrent, Grant.isCurrent]
  cases howner : grant.owner with
  | none => rfl
  | some key => exact (hsame grant ((standing_sublist history).subset hgrant) key howner).symm

/-- **A name is entered.** It is listed last. -/
theorem Accounts.insert (h : registry.Accounts present history) (name : String) {owner : Option Nat}
    (howner : owner.all present = true) :
    (registry.insert name).2.Accounts present (.entered name owner :: history) := by
  constructor
  · rw [grants, List.length_append, List.length_singleton, ← h.nextId_eq]
    rfl
  · rw [Registry.insert]
    rw [standing, List.filter_append, List.map_append, ← h.entries_eq, h.nextId_eq,
      List.filter_singleton]
    simp [Grant.isCurrent, Grant.entry, howner]

/-- **A number is withdrawn.** If it is not listed, it does not matter whether it was listed
before or will be handed out later. -/
theorem Accounts.erase (h : registry.Accounts present history) (id : Nat) :
    (registry.erase id).Accounts present (.withdrawn id :: history) := by
  refine ⟨h.nextId_eq, ?_⟩
  change registry.entries.filter _ = _
  rw [h.entries_eq, standing, List.filter_map, List.filter_filter, List.filter_filter]
  congr 1
  exact List.filter_congr fun grant _ => Bool.and_comm ..

/-- **A queue is gone**, and its number is taken out. All other entries stay. -/
theorem Accounts.gone (h : registry.Accounts present history) {key id : Nat}
    (hid : ∃ grant ∈ grants history, grant.id = id ∧ grant.owner = some key)
    (hunique : ∀ grant ∈ grants history, grant.owner = some key → grant.id = id) :
    (registry.erase id).Accounts (fun k => present k && k != key) history := by
  refine ⟨h.nextId_eq, ?_⟩
  change registry.entries.filter _ = _
  rw [h.entries_eq, List.filter_map, List.filter_filter]
  congr 1
  refine List.filter_congr fun grant hgrant => ?_
  have hmem := (standing_sublist history).subset hgrant
  have hiff : grant.id = id ↔ grant.owner = some key := by
    obtain ⟨own, hown, hownId, howner⟩ := hid
    constructor
    · intro heq
      rw [grant_eq_of_id_eq hmem hown (heq.trans hownId.symm), howner]
    · exact hunique grant hmem
  cases howner : grant.owner with
  | none =>
      have hne : grant.id ≠ id := by simpa [howner] using hiff
      simp [Grant.isCurrent, Grant.entry, howner, hne]
  | some k =>
      rw [howner, Option.some.injEq] at hiff
      by_cases heq : k = key <;> simp [Grant.isCurrent, Grant.entry, howner, hiff, heq]

/-- **The entries are listed in the order of their numbers.** -/
theorem Accounts.pairwise_entries (h : registry.Accounts present history) :
    registry.entries.Pairwise fun entry later => entry.1 < later.1 := by
  have hgrants : (grants history).Pairwise fun grant later => grant.id < later.id := by
    rw [← List.pairwise_map, map_id_grants]
    exact List.pairwise_lt_range'
  rw [h.entries_eq, List.pairwise_map]
  exact (hgrants.sublist (standing_sublist history)).sublist List.filter_sublist

/-- A number that is not listed is ignored. -/
theorem erase_of_find?_eq_none {id : Nat} (hnone : registry.find? id = none) :
    registry.erase id = registry := by
  have hfilter : registry.entries.filter (fun entry => entry.1 ≠ id) = registry.entries := by
    rw [List.filter_eq_self]
    intro entry hentry
    rw [find?, List.lookup_eq_none_iff] at hnone
    have hne : id ≠ entry.1 := by simpa using hnone entry hentry
    simpa using hne.symm
  rw [erase, hfilter]

end StableQueue.Registry

namespace StableQueue.Host

/-- Taking a number out takes it out of the registry, whether it is listed or not. -/
@[simp] theorem registry_unregister (id : Nat) (host : Host) :
    (host.unregister id).registry = host.registry.erase id := by
  rw [unregister]
  split
  · rename_i hnone
    rw [Registry.erase_of_find?_eq_none hnone]
  · rfl

end StableQueue.Host
