import DocQuery.Proofs.ReadTrees
import DocQuery.Proofs.SessionSteps
import DocQuery.Proofs.WriteHistory

/-!
The documents of a session that keeps them in memory.  Commands write what they have read from
texts, and nothing but them changes the documents: not the cursors, the scans or the captures.

* `Write.FromText.distinctKeys`: what was read from a text repeats no key;
* `Session.Writes` (**writes**): between two sessions there is a history of such writes;
* `Session.Effect.writes` and `Session.writes_performAll`: every effect of a command, and every list
  of commands with the captures in it, is such a history;
* `Session.exists_writes` (**main statement**): the documents of a whole session.
-/

namespace DocQuery

lemma Write.FromText.distinctKeys {w : Write} (h : w.FromText) : w.DistinctKeys := by
  cases w with
  | insert body => exact (Value.portable_ofText h.choose_spec).distinct
  | put id body => exact (Value.portable_ofText h.choose_spec).distinct
  | delete id => trivial

namespace Session

/-- Some writes lead from the documents of one session to those of another. -/
def Writes (session later : Session) : Prop :=
  ∀ store, session.backing = .memory store → ∃ writes : List Write,
    (∀ w ∈ writes, w.FromText) ∧ later.backing = .memory (store.afterWrites writes)

variable {session later : Session}

lemma writes_of_eq (h : later.backing = session.backing) : Writes session later :=
  fun _ hstore => ⟨[], fun _ hw => absurd hw List.not_mem_nil, h.trans hstore⟩

lemma Writes.trans {last : Session} (h : Writes session later) (h' : Writes later last) :
    Writes session last := by
  intro store hstore
  obtain ⟨writes, hwrites, hlater⟩ := h store hstore
  obtain ⟨others, hothers, hlast⟩ := h' _ hlater
  refine ⟨writes ++ others, List.forall_mem_append.mpr ⟨hwrites, hothers⟩, ?_⟩
  rw [MemoryStore.afterWrites_append]
  exact hlast

/-- A command writes to the documents or leaves them as they are. -/
lemma Effect.writes {command : Command} {reply : Reply} (h : Effect session command reply later) :
    Writes session later := by
  cases h with
  | @written _ _ _ _ store w hw hstore =>
    intro other hother
    obtain rfl : store = other := Backing.memory.inj (hstore.symm.trans hother)
    exact ⟨[w], List.forall_mem_singleton.mpr hw, rfl⟩
  | _ => exact writes_of_eq rfl

/-- Commands, one after the other, are a history of writes. -/
theorem writes_performAll (session : Session) (commands : List Command) :
    Writes session (session.performAll commands).2 :=
  Composes.performAll (P := fun session _ _ later => Writes session later)
    (Q := fun session _ _ later => Writes session later)
    { effect := Effect.writes
      capture := id
      nil := fun _ => writes_of_eq rfl
      cons := Writes.trans } session commands

/-- **The documents of a session.**  A session that starts without documents in memory comes, by
whatever commands, to documents that some writes lead to.  What is written was read from texts and
repeats no key. -/
theorem exists_writes (cancelled : Cancellations) (commands : List Command) :
    ∃ writes : List Write, (∀ w ∈ writes, w.FromText ∧ w.DistinctKeys)
      ∧ ((start (.memory .empty) cancelled).performAll commands).2.backing
        = .memory (MemoryStore.empty.afterWrites writes) := by
  obtain ⟨writes, hwrites, hbacking⟩ :=
    writes_performAll (start (.memory .empty) cancelled) commands .empty rfl
  exact ⟨writes, fun w hw => ⟨hwrites w hw, (hwrites w hw).distinctKeys⟩, hbacking⟩

end Session

end DocQuery
