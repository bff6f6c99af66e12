import StableQueue.Proofs.Ledger.Basic

/-!
# Nothing Is Lost and Nothing Is Invented

What has been queued and what has been handed out are read off the calls alone: `sent` numbers the
accepted messages in the order in which they were accepted, `received` collects the messages that
the receivers report. `Ledger.run_conserves` ties the two together by what is still in the ledger.
Since the receivers report numbers of 64 bits, this holds as long as the numbers fit.

## Main results

* `Ledger.answer_conserves`: one call hands out a message of the ledger, queues one, or does
  neither.
* `Ledger.run_conserves`: what was there and what was sent is what was received and what is there.
-/

namespace StableQueue

/-! ### Messages handed out -/

variable {request : Request} {message : Message}

/-- A receiver without a buffer reports the message it has been handed. -/
theorem Finished.delivered?_message (hnumber : message.number < 2 ^ 64) :
    Finished.delivered?
      ⟨request, { result := .ok (.message message.header message.payload) }⟩ = some message := by
  have htoNat := UInt64.toNat_ofNat_of_lt' hnumber
  simp only [Finished.delivered?, Message.header, htoNat]

/-- A receiver with a buffer finds the message it has been handed at the front of it, whatever
stands behind. -/
theorem Finished.delivered?_filled {rest : ByteArray} (hnumber : message.number < 2 ^ 64) :
    Finished.delivered?
      ⟨request, ⟨.ok (.filled message.header), message.payload ++ rest⟩⟩ = some message := by
  have htoNat := UInt64.toNat_ofNat_of_lt' hnumber
  have hpayload : (message.payload ++ rest).extract 0 message.payload.size = message.payload :=
    ByteArray.extract_append_eq_left rfl
  simp only [Finished.delivered?, Message.header, htoNat, hpayload]

/-- A receiver reports the message it has been handed. -/
theorem Finished.delivered?_delivery (hrequest : request.awaits = some .notEmpty)
    (hnumber : message.number < 2 ^ 64) :
    (Finished.mk request (request.delivery message)).delivered? = some message := by
  obtain rfl | ⟨buffer, rfl⟩ := Request.awaits_eq_notEmpty_iff.mp hrequest
  · exact Finished.delivered?_message hnumber
  · exact Finished.delivered?_filled hnumber

/-- The messages of one call are one or none. -/
theorem received_singleton (call : Finished) : received [call] = call.delivered?.toList := by
  simp only [received, List.filterMap_cons]
  cases call.delivered? <;> rfl

/-- The messages of calls that have ended one after the other. -/
theorem received_append (calls later : List Finished) :
    received (calls ++ later) = received calls ++ received later :=
  List.filterMap_append

/-- The message of one call comes before those of the later ones. -/
theorem received_cons (call : Finished) (calls : List Finished) :
    received (call :: calls) = received [call] ++ received calls :=
  received_append [call] calls

/-! ### Messages queued -/

/-- The message of one call comes before those of the later ones, whose numbers go on from there. -/
theorem sent_cons (next : Nat) (call : Finished) (calls : List Finished) :
    sent next (call :: calls) = sent next [call] ++ sent (next + acceptedCount [call]) calls := by
  obtain ⟨request, result, buffer⟩ := call
  cases request <;> cases result <;> rfl

/-- The messages of calls that have ended one after the other. -/
theorem sent_append (next : Nat) (calls later : List Finished) :
    sent next (calls ++ later) = sent next calls ++ sent (next + acceptedCount calls) later := by
  induction calls generalizing next with
  | nil => rfl
  | cons call calls ih =>
      rw [List.cons_append, sent_cons, ih, sent_cons next call calls, acceptedCount_cons call calls,
        List.append_assoc, Nat.add_assoc]

/-- A call that is refused queues nothing. -/
@[simp] theorem sent_refused (next : Nat) (request : Request) (cause : Refusal) :
    sent next [⟨request, .refused request cause⟩] = [] := by
  cases request <;> rfl

/-- A call that is refused hands out nothing. -/
@[simp] theorem received_refused (request : Request) (cause : Refusal) :
    received [⟨request, .refused request cause⟩] = [] := rfl

namespace Ledger

/-- The messages of a ledger have numbers that have been given out. -/
def Numbered (ledger : Ledger) : Prop :=
  ∀ message ∈ ledger.messages, message.number < ledger.arrivals

variable {ledger : Ledger}

/-- A new ledger is numbered. -/
theorem Numbered.new : Numbered {} := by
  intro message hmessage
  contradiction

/-- Calls leave a ledger numbered. -/
theorem Numbered.answer (h : ledger.Numbered) (config : Config) (request : Request) :
    (ledger.answer config request).2.Numbered := by
  obtain ⟨cause, heq⟩ | ⟨payload, priority, rfl, heq⟩ | ⟨first, -, -, heq⟩ | ⟨rfl, heq⟩ :=
    answer_cases config ledger request
  · rw [heq]
    exact h
  · rw [heq]
    intro message hmessage
    rcases List.mem_append.mp hmessage with hold | hnew
    · exact Nat.lt_succ_of_lt (h message hold)
    · rw [List.mem_singleton.mp hnew]
      exact Nat.lt_succ_self _
  · rw [heq]
    exact fun message hmessage => h message (List.mem_of_mem_erase hmessage)
  · rw [heq]
    exact h

/-- **One call conserves the messages.** It hands out a message of the ledger, queues one, or does
neither. -/
theorem answer_conserves (h : ledger.Numbered) (harrivals : ledger.arrivals ≤ 2 ^ 64)
    (config : Config) (request : Request) :
    let now := ledger.answer config request
    (ledger.messages ++ sent ledger.arrivals [⟨request, now.1⟩]).Perm
      (received [⟨request, now.1⟩] ++ now.2.messages) := by
  obtain ⟨cause, heq⟩ | ⟨payload, priority, rfl, heq⟩ | ⟨first, hrequest, hfirst, heq⟩ |
    ⟨rfl, heq⟩ := answer_cases config ledger request
  · simp [heq]
  · simp only [heq]
    exact .refl _
  · obtain ⟨hqueued, -⟩ := leads_of_first? hfirst
    have hnumber : first.number < 2 ^ 64 := Nat.lt_of_lt_of_le (h first hqueued) harrivals
    have hsent : sent ledger.arrivals [⟨request, request.delivery first⟩] = [] := by
      obtain rfl | ⟨buffer, rfl⟩ := Request.awaits_eq_notEmpty_iff.mp hrequest <;> rfl
    simp only [heq, received_singleton, Finished.delivered?_delivery hrequest hnumber, hsent,
      List.append_nil]
    exact List.perm_cons_erase hqueued
  · simp [heq, sent, received_singleton, Finished.delivered?]

/-- **Calls conserve the messages.** What was in the ledger and what has been sent since is what has
been received and what is in the ledger now. -/
theorem run_conserves (h : ledger.Numbered) (config : Config) (requests : List Request)
    (harrivals : (ledger.run config requests).2.arrivals ≤ 2 ^ 64) :
    let later := ledger.run config requests
    (ledger.messages ++ sent ledger.arrivals later.1).Perm
      (received later.1 ++ later.2.messages) := by
  induction requests generalizing ledger with
  | nil => simp [run, sent, received]
  | cons request requests ih =>
      have hcount := arrivals_run config ledger (request :: requests)
      have hanswer := answer_conserves h (by omega) config request
      have hlater := ih (h.answer config request) harrivals
      rw [arrivals_answer] at hlater
      simp only [run]
      rw [sent_cons, received_cons, List.append_assoc]
      refine List.Perm.trans ?_ (hlater.append_left _)
      rw [← List.append_assoc, ← List.append_assoc]
      exact hanswer.append_right _

end Ledger

end StableQueue
