import StableQueue.Proofs.Ledger.Conservation

/-!
# First In, First Out

Among messages of one priority a queue is first in, first out: what is received of a priority, and
after it what is still queued, is what has been sent of that priority, in the same order.

The messages of a ledger are listed in the order of their arrival, so their numbers ascend; that is
`Ledger.Ascending`. A message that is handed out leads all that are queued, and those that arrive
later have larger numbers.

## Main results

* `map_number_sent`: accepted messages are numbered without gaps.
* `Ledger.pairwise_run`: the order in which calls hand out the messages.
* `Ledger.filter_priority_run`: first in, first out within each priority.
-/

namespace StableQueue

/-! ### The numbers of the messages -/

/-- **Accepted messages are numbered without gaps.** -/
theorem map_number_sent (next : Nat) (calls : List Finished) :
    (sent next calls).map Message.number = List.range' next (acceptedCount calls) := by
  induction calls generalizing next with
  | nil => rfl
  | cons call calls ih =>
      have hfirst : (sent next [call]).map Message.number =
          List.range' next (acceptedCount [call]) := by
        obtain ⟨request, result, buffer⟩ := call
        cases request <;> cases result <;> rfl
      rw [sent_cons, List.map_append, ih, hfirst, acceptedCount_cons call calls,
        List.range'_append_1]

/-- Every accepted message has one of the numbers from `next` on. -/
theorem le_number_of_mem_sent {next : Nat} {calls : List Finished} {message : Message}
    (h : message ∈ sent next calls) : next ≤ message.number := by
  have hmem := List.mem_map_of_mem (f := Message.number) h
  rw [map_number_sent, List.mem_range'_1] at hmem
  exact hmem.1

/-- Accepted messages are listed by ascending numbers. -/
theorem pairwise_sent (next : Nat) (calls : List Finished) :
    (sent next calls).Pairwise fun earlier later => earlier.number < later.number := by
  rw [← List.pairwise_map (R := (· < ·)), map_number_sent]
  exact List.pairwise_lt_range'

namespace Ledger

/-- The messages of a ledger are listed by ascending numbers. -/
def Ascending (ledger : Ledger) : Prop :=
  ledger.messages.Pairwise fun earlier later => earlier.number < later.number

variable {config : Config} {ledger : Ledger} {message : Message}

/-- The messages of a new ledger ascend. -/
theorem Ascending.new : Ascending {} := List.Pairwise.nil

/-- **Calls leave the messages ascending.** -/
theorem Ascending.answer (h : ledger.Ascending) (hnumbered : ledger.Numbered) (config : Config)
    (request : Request) : (ledger.answer config request).2.Ascending := by
  obtain ⟨cause, heq⟩ | ⟨payload, priority, rfl, heq⟩ | ⟨first, -, -, heq⟩ | ⟨rfl, heq⟩ :=
    answer_cases config ledger request
  · rw [heq]
    exact h
  · rw [heq]
    refine List.pairwise_append.mpr ⟨h, List.pairwise_singleton _ _, ?_⟩
    intro earlier hearlier later hlater
    rw [List.mem_singleton.mp hlater]
    exact hnumbered earlier hearlier
  · rw [heq]
    exact h.sublist List.erase_sublist
  · rw [heq]
    exact h

/-- Of the messages left, those of the priority of the first one have larger numbers. -/
theorem Ascending.number_lt (h : ledger.Ascending) (hfirst : ledger.first? = some message)
    {other : Message} (hother : other ∈ (ledger.remove message).messages)
    (hpriority : message.priority = other.priority) : message.number < other.number := by
  obtain ⟨hqueued, hleads⟩ := leads_of_first? hfirst
  have hnodup : (ledger.messages.map Message.number).Nodup :=
    (List.pairwise_map.mpr h).imp Nat.ne_of_lt
  have hle : message.number ≤ other.number := by
    rcases hleads other (List.mem_of_mem_erase hother) with hlt | ⟨-, hle⟩
    · omega
    · exact hle
  refine Nat.lt_of_le_of_ne hle fun heq => ?_
  have hsame := List.inj_on_of_nodup_map hnodup hqueued (List.mem_of_mem_erase hother) heq
  have hmessages := (List.Nodup.of_map _ hnodup).not_mem_erase (a := message)
  exact hmessages (hsame ▸ hother)

/-- **What is handed out comes first.** At the same priority it has a smaller number than what is
left and what arrives later. -/
theorem Ascending.number_lt_of_received (h : ledger.Ascending) (hnumbered : ledger.Numbered)
    (harrivals : ledger.arrivals ≤ 2 ^ 64) {request : Request} {later : List Finished}
    {x y : Message}
    (hx : x ∈ received [⟨request, (ledger.answer config request).1⟩])
    (hy : y ∈ (ledger.answer config request).2.messages ++
      sent (ledger.answer config request).2.arrivals later)
    (hpriority : x.priority = y.priority) : x.number < y.number := by
  obtain ⟨cause, heq⟩ | ⟨payload, priority, rfl, heq⟩ | ⟨first, hrequest, hfirst, heq⟩ |
    ⟨rfl, heq⟩ := answer_cases config ledger request
  · simp [heq] at hx
  · simp [heq, received_singleton, Finished.delivered?] at hx
  · obtain ⟨hqueued, -⟩ := leads_of_first? hfirst
    have hnumber := hnumbered first hqueued
    rw [heq, received_singleton, Finished.delivered?_delivery hrequest (by omega)] at hx
    obtain rfl : x = first := by simpa using hx
    rw [heq, List.mem_append] at hy
    rcases hy with hkept | hsent
    · exact h.number_lt hfirst hkept hpriority
    · exact Nat.lt_of_lt_of_le hnumber (le_number_of_mem_sent hsent)
  · simp [heq, received_singleton, Finished.delivered?] at hx

/-! ### Calls one after the other -/

/-- **The order in which messages are handed out.** At the same priority, what is handed out has a
smaller number than what is handed out later and than what is left. -/
theorem pairwise_run (hnumbered : ledger.Numbered) (hascending : ledger.Ascending)
    (config : Config) (requests : List Request)
    (harrivals : (ledger.run config requests).2.arrivals ≤ 2 ^ 64) :
    let later := ledger.run config requests
    (received later.1 ++ later.2.messages).Pairwise fun x y =>
      x.priority = y.priority → x.number < y.number := by
  induction requests generalizing ledger with
  | nil =>
      refine List.Pairwise.imp ?_ hascending
      intro x y hlt _
      exact hlt
  | cons request requests ih =>
      have hcount := arrivals_run config ledger (request :: requests)
      have hnumbered' := hnumbered.answer config request
      have hlater := ih hnumbered' (hascending.answer hnumbered config request) harrivals
      have hconserved := run_conserves hnumbered' config requests harrivals
      simp only [run] at hconserved ⊢
      rw [received_cons, List.append_assoc]
      refine List.pairwise_append.mpr ⟨?_, hlater, ?_⟩
      · rw [received_singleton]
        cases Finished.delivered? ⟨request, (ledger.answer config request).1⟩ with
        | none => exact .nil
        | some _ => exact List.pairwise_singleton _ _
      · intro x hx y hy hpriority
        rw [← hconserved.mem_iff] at hy
        exact hascending.number_lt_of_received hnumbered (by omega) hx hy hpriority

/-- **First in, first out.** Of each priority, what has been received and what is still queued is
what has been sent, in the same order. -/
theorem filter_priority_run (config : Config) (requests : List Request)
    (harrivals : (Ledger.run config {} requests).2.arrivals ≤ 2 ^ 64) (priority : Int) :
    let later := Ledger.run config {} requests
    (received later.1 ++ later.2.messages).filter (·.priority = priority) =
      (sent 0 later.1).filter (·.priority = priority) := by
  have hconserved := run_conserves .new config requests harrivals
  have hhanded := pairwise_run .new .new config requests harrivals
  refine List.Perm.eq_of_pairwise ?_ ?_
    ((pairwise_sent _ _).filter _) (hconserved.symm.filter _)
  · intro x y _ _ hxy hyx
    omega
  · refine (hhanded.filter _).imp_of_mem ?_
    intro x y hx hy hlt
    have hxp := (List.mem_filter.mp hx).2
    have hyp := (List.mem_filter.mp hy).2
    simp only [decide_eq_true_eq] at hxp hyp
    exact hlt (hxp.trans hyp.symm)

end Ledger

end StableQueue
