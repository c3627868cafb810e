import BotDaemon.Reactor

/-!
# The queues of an allocator

**Theorem (`reachable_queues`).** In every reachable world, `existingBotRequests` and
`newBotRequests` hold no channel twice, and no channel is in two of `keys(channels)`,
`existingBotRequests` and `newBotRequests`.

The invariant `Queues` holds by itself: every method puts a channel into one of the three places
only from outside all of them or from another of them. `AllocStep` lists these moves:
`addChannel` appends a channel that is in none; `botConnected` moves a prefix of `newBotRequests`
to the end of `existingBotRequests`; `botJoined` moves a channel of `existingBotRequests` into
`channels`; `delChannel`, `botLeft` and `botDisconnected` only delete. Each kind keeps `Queues`
(`AllocStep.queues`). A callback that raises has not touched the allocator by then, so runs that
stop at a `KeyError` or a `ValueError` are covered as well.

**Theorem (`addChannel_twice`).** In every world, a second `addChannel` of the same channel right
after the first returns the same verdict and changes nothing: no `JOIN`, no new factory. The
verdict of both is the bot `channels` already maps the channel to, if any.
-/

namespace BotDaemon

namespace BotAllocator

/-- No channel twice in a queue, and no channel in two places. -/
structure Queues (a : BotAllocator) : Prop where
  existing_nodup : a.existingBotRequests.Nodup
  new_nodup : a.newBotRequests.Nodup
  existing_new : a.existingBotRequests.Disjoint a.newBotRequests
  channels_existing : (keys a.channels).Disjoint a.existingBotRequests
  channels_new : (keys a.channels).Disjoint a.newBotRequests

namespace Queues

variable {a : BotAllocator}

theorem pushExisting (h : a.Queues) {c : String} (hc : ¬ a.Managed c) :
    Queues { a with existingBotRequests := a.existingBotRequests ++ [c] } := by
  simp only [Managed, not_or] at hc
  exact ⟨List.nodup_append.mpr ⟨h.existing_nodup, List.nodup_singleton c,
      List.disjoint_singleton.mpr hc.2.1⟩, h.new_nodup,
    List.disjoint_append_left.mpr ⟨h.existing_new, List.singleton_disjoint.mpr hc.2.2⟩,
    List.disjoint_append_right.mpr ⟨h.channels_existing, List.disjoint_singleton.mpr hc.1⟩,
    h.channels_new⟩

theorem pushNew (h : a.Queues) {c : String} (hc : ¬ a.Managed c) :
    Queues { a with newBotRequests := a.newBotRequests ++ [c] } := by
  simp only [Managed, not_or] at hc
  exact ⟨h.existing_nodup, List.nodup_append.mpr ⟨h.new_nodup, List.nodup_singleton c,
      List.disjoint_singleton.mpr hc.2.2⟩,
    List.disjoint_append_right.mpr ⟨h.existing_new, List.disjoint_singleton.mpr hc.2.1⟩,
    h.channels_existing,
    List.disjoint_append_right.mpr ⟨h.channels_new, List.disjoint_singleton.mpr hc.1⟩⟩

theorem erase (h : a.Queues) (c : String) :
    Queues { a with existingBotRequests := a.existingBotRequests.erase c
                    newBotRequests := a.newBotRequests.erase c } :=
  ⟨h.existing_nodup.erase c, h.new_nodup.erase c,
    List.disjoint_of_subset_left (List.erase_subset _ _)
      (List.disjoint_of_subset_right (List.erase_subset _ _) h.existing_new),
    List.disjoint_of_subset_right (List.erase_subset _ _) h.channels_existing,
    List.disjoint_of_subset_right (List.erase_subset _ _) h.channels_new⟩

theorem drain (h : a.Queues) (k : Nat) (bots : List (String × Nat)) :
    Queues { a with bots := bots
                    existingBotRequests := a.existingBotRequests ++ a.newBotRequests.take k
                    newBotRequests := a.newBotRequests.drop k } :=
  ⟨List.nodup_append.mpr ⟨h.existing_nodup, h.new_nodup.sublist (List.take_sublist _ _),
      List.disjoint_of_subset_right (List.take_subset _ _) h.existing_new⟩,
    h.new_nodup.sublist (List.drop_sublist _ _),
    List.disjoint_append_left.mpr ⟨List.disjoint_of_subset_right (List.drop_subset _ _)
      h.existing_new, List.disjoint_take_drop h.new_nodup le_rfl⟩,
    List.disjoint_append_right.mpr ⟨h.channels_existing,
      List.disjoint_of_subset_right (List.take_subset _ _) h.channels_new⟩,
    List.disjoint_of_subset_right (List.drop_subset _ _) h.channels_new⟩

theorem confirm (h : a.Queues) {c : String} (hc : c ∈ a.existingBotRequests) (p : Nat) :
    Queues { a with existingBotRequests := a.existingBotRequests.erase c
                    channels := setItem a.channels c p } := by
  refine ⟨h.existing_nodup.erase c, h.new_nodup,
    List.disjoint_of_subset_left (List.erase_subset _ _) h.existing_new, ?_, ?_⟩
  · intro x hx hx'
    rw [h.existing_nodup.mem_erase_iff] at hx'
    rcases mem_keys_setItem.mp hx with hx | rfl
    · exact h.channels_existing hx hx'.2
    · exact hx'.1 rfl
  · intro x hx hx'
    rcases mem_keys_setItem.mp hx with hx | rfl
    · exact h.channels_new hx hx'
    · exact h.existing_new hc hx'

theorem shrink (h : a.Queues) (bots d : List (String × Nat))
    (hd : ∀ x ∈ keys d, x ∈ keys a.channels) : Queues { a with bots := bots, channels := d } :=
  ⟨h.existing_nodup, h.new_nodup, h.existing_new,
    List.disjoint_of_subset_left hd h.channels_existing,
    List.disjoint_of_subset_left hd h.channels_new⟩

end Queues

end BotAllocator

open BotAllocator

variable (cfg : Config)

theorem init_queues (server : String × Nat) : (World.init server).alloc.Queues := by
  constructor <;> simp [World.init]

/-- Every kind of step keeps `Queues`. -/
theorem AllocStep.queues {a a' : BotAllocator} (hs : AllocStep cfg a a') (h : a.Queues) :
    a'.Queues := by
  cases hs with
  | same => exact h
  | pushExisting c hc => exact h.pushExisting hc
  | pushNew c hc => exact h.pushNew hc
  | erase c => exact h.erase c
  | drain bots => exact h.drain _ bots
  | confirm c p hc => exact h.confirm hc p
  | shrink bots d hd => exact h.shrink bots d hd

theorem step_queues {w w' : World} {e : Event} (h : w.alloc.Queues)
    (hs : w.step cfg e = some w') : w'.alloc.Queues :=
  (World.step_alloc cfg hs).queues cfg h

/-- In every reachable world the queues hold no duplicates and no channel is in two places. -/
theorem Reachable.queues {w : World} (h : Reachable cfg w) : w.alloc.Queues := by
  induction h with
  | init server => exact init_queues server
  | step _ hs ih => exact step_queues cfg ih hs

theorem reachable_queues {w : World} (h : Reachable cfg w) : w.alloc.Queues := h.queues cfg

theorem queues_after_signedOn : ∃ w, run Config.default (World.init freenode)
    [.addChannel "#a", .addChannel "#b", .callback (.connectionMade 0), .callback (.signedOn 0)] =
      some w ∧ w.alloc.Queues := by
  obtain ⟨w, hw⟩ : ∃ w, run Config.default (World.init freenode) [.addChannel "#a",
      .addChannel "#b", .callback (.connectionMade 0), .callback (.signedOn 0)] = some w :=
    ⟨_, rfl⟩
  exact ⟨w, hw, reachable_queues Config.default ((Reachable.init freenode).run hw)⟩

/-- `addChannel` is idempotent, in every world and for every channel, and its verdict is the bot
already in the channel. -/
theorem addChannel_twice (w : World) (c : String) :
    (w.addChannel cfg c).2.addChannel cfg c = w.addChannel cfg c ∧
      (w.addChannel cfg c).1 = getItem w.alloc.channels c := by
  refine ⟨?_, World.addChannel_fst cfg w c⟩
  rw [World.addChannel_of_managed cfg (World.managed_addChannel cfg w c)]
  refine Prod.ext ?_ rfl
  rw [World.addChannel_fst]
  rcases World.addChannel_alloc cfg w c with h | ⟨-, h | h⟩ <;> rw [h]

end BotDaemon
