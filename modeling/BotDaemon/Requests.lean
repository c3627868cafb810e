import BotDaemon.Connections
import BotDaemon.Queues

/-!
# Requests that lost their bot

`addChannel` and `botConnected` put a channel into `existingBotRequests` and send a bot its
`JOIN`. The channel leaves the list when the server confirms the join (`botJoined`), or when
`delChannel` cancels it. `botDisconnected` deletes the bot and the channels it had joined, but
leaves the channels it was still sent a `JOIN` for where they are.

**Theorem (`stranded_forever`).** Call a channel stranded when it waits in
`existingBotRequests` and no live bot has its `JOIN` outstanding, as after the bot it was sent to
lost its connection. A stranded channel stays stranded in every run that does not call
`delChannel` for it: no bot is sent its `JOIN` again, it never enters `channels`, and
`addChannel` of it answers `None` and changes nothing, since the allocator counts it as managed.
Reconnecting factories and new bots do not help: `botConnected` serves `newBotRequests` only.

The proof reads two facts off every step. A step sends a `JOIN` for `c` only when `c` was not
managed (`addChannel`) or waited in `newBotRequests` (`botConnected`): `step_joins`. A channel
leaves `existingBotRequests` only through `delChannel`, or through `botJoined` once a live bot's
`JOIN` was answered: `step_existing`. The queues being disjoint (`Reachable.queues`), a stranded
channel is neither unmanaged nor waiting for a new bot.
-/

namespace BotDaemon

namespace World

/-! ## What one step does to the requests -/

variable (cfg : Config)

theorem step_joins {w w' : World} {e : Event} (hs : w.step cfg e = some w') {q : Nat}
    {c : String} (hq : w'.Live q) (hc : c ∈ (w'.bot q).joins) :
    (w.Live q ∧ c ∈ (w.bot q).joins) ∨ ¬ w.alloc.Managed c ∨ c ∈ w.alloc.newBotRequests := by
  cases e with
  | addChannel d =>
    cases hs
    by_cases hm : w.alloc.Managed d
    · rw [addChannel_of_managed cfg hm] at hq hc; exact .inl ⟨hq, hc⟩
    · cases he : w.alloc.bots.find? fun e => (w.bot e.2).channels.length < cfg.channelsPerBot with
      | some e =>
        rw [addChannel_of_room cfg hm he] at hq hc
        simp only [live_modifyAlloc, bot_modifyAlloc, World.join, bot_modifyBot, live_modifyBot,
          eq_self_iff_true, implies_true] at hq hc
        split_ifs at hc
        · rcases List.mem_append.mp hc with hc | hc
          · exact .inl ⟨hq, hc⟩
          · rw [List.mem_singleton.mp hc]; exact .inr (.inl hm)
        · exact .inl ⟨hq, hc⟩
      | none =>
        rw [addChannel_of_full cfg hm he] at hq hc
        dsimp only at hq hc
        split_ifs at hq hc <;> exact .inl ⟨hq, hc⟩
  | delChannel d =>
    cases hs
    obtain ⟨parts, hb⟩ := bot_delChannel w d q
    rw [Live, hb, length_delChannel] at hq
    rw [hb] at hc
    exact .inl ⟨hq, hc⟩
  | callback cb =>
    obtain ⟨o, ho, rfl⟩ := step_callback cfg hs
    cases cb with
    | connectionMade f =>
      obtain ⟨-, -, w₁, hw₁, rfl⟩ := deliver_connectionMade cfg ho
      obtain ⟨nick, -, rfl⟩ := Option.map_eq_some'.mp hw₁
      simp only [Live, bot_modifyFactory, bot_push, modifyFactory_protocols, List.length_append,
        List.length_singleton] at hq hc
      split_ifs at hq hc with hq'
      · simp [Bot.fresh] at hc
      · exact .inl ⟨⟨lt_of_le_of_ne (Nat.le_of_lt_succ hq.1) hq', hq.2⟩, hc⟩
    | signedOn p =>
      obtain ⟨-, -, rfl⟩ := deliver_signedOn cfg ho
      have hlen : (w.signedOn cfg p).protocols.length = w.protocols.length := by
        rw [signedOn, length_botConnected, length_modifyBot]
      rw [Live, hlen, bot_signedOn] at hq
      rw [bot_signedOn] at hc
      split_ifs at hq hc with hqp
      · rcases List.mem_append.mp hc with hc | hc
        · exact .inl ⟨hq, hc⟩
        · exact .inr (.inr (List.mem_of_mem_take hc))
      · exact .inl ⟨hq, hc⟩
    | joined p d =>
      obtain ⟨-, -, rfl⟩ := deliver_joined cfg ho
      simp only [live_joined, answerJoin, live_modifyBot, eq_self_iff_true, implies_true] at hq
      simp only [bot_joined, answerJoin, bot_modifyBot, length_modifyBot] at hc
      split_ifs at hc
      · exact .inl ⟨hq, List.mem_of_mem_erase hc⟩
      · exact .inl ⟨hq, hc⟩
    | left p d =>
      obtain ⟨-, -, rfl⟩ := deliver_left cfg ho
      obtain ⟨chans, quit, hb⟩ := bot_left (w.answerPart p d) p d q
      rw [Live, hb, length_left] at hq
      rw [hb] at hc
      simp only [answerPart, length_modifyBot, bot_modifyBot] at hq hc
      split_ifs at hq hc <;> exact .inl ⟨hq, hc⟩
    | connectionLost p =>
      obtain ⟨-, rfl⟩ := deliver_connectionLost cfg ho
      rw [live_connectionLost, live_disconnect] at hq
      rw [bot_connectionLost, bot_disconnect] at hc
      exact .inl ⟨hq.1, hc⟩

/-- A channel leaves `existingBotRequests` only through `delChannel`, or when a live bot that
was sent its `JOIN` confirms it. -/
theorem step_existing {w w' : World} {e : Event} (hs : w.step cfg e = some w') {c : String}
    (hc : c ∈ w.alloc.existingBotRequests) (hc' : c ∉ w'.alloc.existingBotRequests) :
    e = .delChannel c ∨ ∃ q, w.Live q ∧ c ∈ (w.bot q).joins := by
  cases e with
  | addChannel d =>
    cases hs
    rcases addChannel_alloc cfg w d with h | ⟨-, h | h⟩ <;> rw [h] at hc' <;> simp [hc] at hc'
  | delChannel d =>
    cases hs
    rw [delChannel_alloc] at hc'
    exact .inl (congrArg _ (of_not_not fun hne => hc' ((List.mem_erase_of_ne hne).mpr hc)).symm)
  | callback cb =>
    obtain ⟨o, ho, rfl⟩ := step_callback cfg hs
    cases cb with
    | connectionMade f =>
      obtain ⟨-, -, w₁, hw₁, rfl⟩ := deliver_connectionMade cfg ho
      rw [connectionMade_alloc cfg hw₁] at hc'
      exact absurd hc hc'
    | signedOn p =>
      obtain ⟨-, -, rfl⟩ := deliver_signedOn cfg ho
      rw [signedOn_alloc] at hc'
      exact absurd (List.mem_append_left _ hc) hc'
    | joined p d =>
      obtain ⟨hp, hd, rfl⟩ := deliver_joined cfg ho
      rcases joined_alloc (w.answerJoin p d) p d with h | ⟨-, h⟩ <;> rw [h] at hc'
      · exact absurd hc hc'
      · obtain rfl : c = d := of_not_not fun hne => hc' ((List.mem_erase_of_ne hne).mpr hc)
        exact .inr ⟨p, hp, hd⟩
    | left p d =>
      obtain ⟨-, -, rfl⟩ := deliver_left cfg ho
      rcases left_alloc (w.answerPart p d) p d with h | ⟨-, h⟩ <;> rw [h] at hc' <;>
        exact absurd hc hc'
    | connectionLost p =>
      obtain ⟨-, rfl⟩ := deliver_connectionLost cfg ho
      rcases connectionLost_alloc (w.disconnect p) p with h | h <;> rw [h] at hc' <;>
        exact absurd hc hc'

/-! ## Stranded channels -/

/-- Channel `c` waits in `existingBotRequests`, but no live bot has its `JOIN` outstanding. -/
def Stranded (w : World) (c : String) : Prop :=
  c ∈ w.alloc.existingBotRequests ∧ ∀ p, w.Live p → c ∉ (w.bot p).joins

instance (w : World) (c : String) : Decidable (w.Stranded c) :=
  decidable_of_iff (c ∈ w.alloc.existingBotRequests ∧
      ∀ p < w.protocols.length, (w.bot p).connected = true → c ∉ (w.bot p).joins)
    (and_congr_right fun _ => ⟨fun h p hp => h p hp.1 hp.2, fun h p hp hc => h p ⟨hp, hc⟩⟩)

theorem step_stranded {w w' : World} {e : Event} (hw : Reachable cfg w) {c : String}
    (h : w.Stranded c) (he : e ≠ .delChannel c) (hs : w.step cfg e = some w') : w'.Stranded c := by
  refine ⟨of_not_not fun hc => ?_, fun q hq hcq => ?_⟩
  · rcases step_existing cfg hs h.1 hc with rfl | ⟨q, hq, hcq⟩
    · exact he rfl
    · exact h.2 q hq hcq
  · rcases step_joins cfg hs hq hcq with ⟨hq, hcq⟩ | hm | hn
    · exact h.2 q hq hcq
    · exact hm (.inr (.inl h.1))
    · exact (hw.queues cfg).existing_new h.1 hn

theorem run_stranded {w w' : World} (hw : Reachable cfg w) {c : String} (h : w.Stranded c)
    {es : List Event} (hes : Event.delChannel c ∉ es) (hr : run cfg w es = some w') :
    Reachable cfg w' ∧ w'.Stranded c := by
  induction es generalizing w with
  | nil => cases hr; exact ⟨hw, h⟩
  | cons e es ih =>
    simp only [run, Option.bind_eq_some] at hr
    obtain ⟨w₁, h₁, hr⟩ := hr
    rw [List.mem_cons, not_or] at hes
    exact ih (hw.step h₁) (step_stranded cfg hw h (Ne.symm hes.1) h₁) hes.2 hr

end World

open World

/-- A stranded channel stays stranded in every run that does not delete it: no bot is sent its
`JOIN`, it is not joined, and `addChannel` of it answers `None` and changes nothing. -/
theorem stranded_forever {cfg : Config} {w w' : World} (hw : Reachable cfg w) {c : String}
    (h : w.Stranded c) {es : List Event} (hes : Event.delChannel c ∉ es)
    (hr : run cfg w es = some w') :
    w'.Stranded c ∧ c ∉ keys w'.alloc.channels ∧ w'.addChannel cfg c = (none, w') := by
  obtain ⟨hw', h'⟩ := run_stranded cfg hw h hes hr
  have hc : c ∉ keys w'.alloc.channels := fun hc => (hw'.queues cfg).channels_existing hc h'.1
  refine ⟨h', hc, ?_⟩
  rw [addChannel_of_managed cfg (.inr (.inl h'.1)), getItem_eq_none.mpr hc]

/-- The bot sent the `JOIN` for `#commits` loses its connection before the server answers. -/
def strandTrace : List Event :=
  [.addChannel "#commits", .callback (.connectionMade 0), .callback (.signedOn 0),
    .callback (.connectionLost 0)]

/-- The factory reconnects, its new bot signs on, and the channel is added again. -/
def reconnectTrace : List Event :=
  [.callback (.connectionMade 0), .callback (.signedOn 1), .addChannel "#commits"]

theorem stranded_forever_reconnect : ∃ w w', Reachable Config.default w ∧
    w.Stranded "#commits" ∧ run Config.default w reconnectTrace = some w' ∧
    w'.Stranded "#commits" ∧ "#commits" ∉ keys w'.alloc.channels ∧
    w'.addChannel Config.default "#commits" = (none, w') := by
  have hs : (run Config.default (World.init freenode) strandTrace).map
      (fun w => decide (w.Stranded "#commits")) = some true := by decide
  have hr : (run Config.default (World.init freenode) (strandTrace ++ reconnectTrace)).isSome := by
    decide
  cases hw : run Config.default (World.init freenode) strandTrace with
  | none => simp [hw] at hs
  | some w =>
    rw [run_append, hw, Option.some_bind] at hr
    obtain ⟨w', hw'⟩ := Option.isSome_iff_exists.mp hr
    have hst : w.Stranded "#commits" := by simpa [hw] using hs
    have hre : Reachable Config.default w := (Reachable.init freenode).run hw
    exact ⟨w, w', hre, hst, hw', stranded_forever hre hst (by decide) hw'⟩

end BotDaemon
