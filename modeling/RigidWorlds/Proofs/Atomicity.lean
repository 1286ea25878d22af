import RigidWorlds.Proofs.Reachability

namespace RigidWorlds

namespace Message

open Json

theorem compact_envelope_ne (data : Value) (e : MessageError) :
    (envelope (.ok data)).compact ≠ (envelope (.error e)).compact := by
  intro heq
  have hrender := String.ofList_injective heq
  simp [envelope, Value.render, renderText, escapeChar] at hrender

theorem answer_error {s s' : Simulator} (h : s.registry.Sound) {message : String}
    {e : MessageError} (herror : answer s message = (.error e, s')) : s' = s := by
  rcases answer_eq s message with ⟨e', heq⟩ | ⟨op, heq⟩
  · exact (Prod.mk.inj (heq.symm.trans herror)).2.symm
  · obtain ⟨hresult, rfl⟩ := Prod.mk.inj (heq.symm.trans herror)
    cases hop : op.perform s with
    | mk result s' =>
        rw [hop] at hresult
        cases result with
        | ok outcome => cases hresult
        | error e' => exact Operation.perform_eq_error h hop

theorem handle_error {s : Simulator} (h : s.registry.Sound) {message : String} {e : MessageError}
    (herror : (handle s message).1 = (envelope (.error e)).compact) :
    (handle s message).2 = s := by
  cases hanswer : answer s message with
  | mk result s' =>
      simp only [handle, hanswer] at herror ⊢
      cases result with
      | ok data => exact absurd herror (compact_envelope_ne data e)
      | error e' => exact answer_error h hanswer

end Message

/-- In every simulator that operations lead to, an operation that is refused changes nothing, and
neither does a message that is replied to with an error. -/
theorem unchanged_of_refused {s : Simulator} (h : s.Reachable) :
    (∀ (op : Operation) (e : Error) (s' : Simulator), op.perform s = (.error e, s') → s' = s) ∧
      ∀ (message : String) (e : MessageError),
        (Message.handle s message).1 = (Message.envelope (.error e)).compact →
          (Message.handle s message).2 = s := by
  refine ⟨?_, ?_⟩
  · intro op e s' herror
    exact Operation.perform_eq_error h.sound herror
  · intro message e herror
    exact Message.handle_error h.sound herror

/-- A body that is not there cannot be deleted, and a message without a command asks for nothing. -/
theorem unchanged_sample :
    (∃ e, (Operation.deleteBody ⟨0⟩ ⟨7⟩).perform .sample = (.error e, .sample)) ∧
      ∃ e, Message.handle .sample "\x7b\x7d" =
        ((Message.envelope (.error e)).compact, .sample) := by
  obtain ⟨hperform, hhandle⟩ := unchanged_of_refused Simulator.reachable_sample
  have hop : ((Operation.deleteBody ⟨0⟩ ⟨7⟩).perform .sample).1.toOption.isNone = true := by
    decide +kernel
  have hmessage : (Message.answer .sample "\x7b\x7d").1.toOption.isNone = true := by
    decide +kernel
  refine ⟨?_, ?_⟩
  · cases hrefused : (Operation.deleteBody ⟨0⟩ ⟨7⟩).perform .sample with
    | mk result s' =>
        rw [hrefused] at hop
        cases result with
        | ok outcome => cases hop
        | error e =>
            obtain rfl := hperform _ e s' hrefused
            exact ⟨e, rfl⟩
  · cases hrefused : (Message.answer .sample "\x7b\x7d").1 with
    | ok data =>
        rw [hrefused] at hmessage
        cases hmessage
    | error e =>
        have hreply : (Message.handle .sample "\x7b\x7d").1 =
            (Message.envelope (.error e)).compact := by
          rw [← hrefused]
          rfl
        exact ⟨e, Prod.ext hreply (hhandle _ e hreply)⟩

end RigidWorlds
