import BotDaemon.Reactor

/-!
# Starting new bots

`addChannel` starts a bot when it queues a channel into an empty `newBotRequests`, and
`botConnected` starts one more when channels are left over after the new bot took its share. The
comment on `newBotRequests` says that while it is non-empty a new bot is already connecting. But
`delChannel` can empty the queue while that bot is still connecting, and the next `addChannel`
then starts a second one.

**Theorem (`spawns_while_queued`).** For every `n` there is a reachable world in which a channel
waits for a new bot while `n + 2` connections are being established: `n + 1` rounds of
`addChannel c; delChannel c` and one more `addChannel c`.

Bots that connect at the same time get the same nickname, because `allocateNick` looks only at
the registered bots.

**Theorem (`connectionMade_twice`).** When two factories are connecting and both connections are
made before either bot signs on, the two bots get the same nickname: after the first connection,
`allocateNick` already picks the first bot's nickname for the other factory's bot. The run
`doubleSpawnTrace` reaches two connecting factories (`nick_taken_while_connecting`).

A bot whose queued channels were all deleted before it signed on has nothing to do.

**Theorem (`queued_bot_idle`).** Take a connecting factory and a queue holding just `c`. After
`delChannel c`, the factory's connection is made and its bot signs on; it is then registered, in
no channel, with no `JOIN` sent and no `QUIT` asked for.
-/

namespace BotDaemon

namespace World

/-- Factory `f` is establishing a connection: its connector is connecting, or its bot is
connected and has not signed on. -/
def Establishing (w : World) (f : Nat) : Prop :=
  (w.factory f).connecting = true ∨
    ∃ p < w.protocols.length, (w.bot p).factory = f ∧ (w.bot p).connected = true ∧
      (w.bot p).registered = false

instance (w : World) (f : Nat) : Decidable (w.Establishing f) :=
  inferInstanceAs (Decidable (_ ∨ _))

/-- How many of the allocator's factories are establishing a connection. -/
def establishing (w : World) : Nat :=
  (List.range w.factories.length).countP fun f => w.Establishing f

end World

variable (cfg : Config)

/-! ## More than one bot connecting -/

/-- A fresh allocator that started `n` bots, all still connecting, and has nothing queued. -/
def spawned (server : String × Nat) (n : Nat) : World :=
  { World.init server with factories := List.replicate n ⟨true, true⟩ }

theorem step_add_spawned (server : String × Nat) (n : Nat) (c : String) :
    (spawned server n).step cfg (.addChannel c) = some { spawned server (n + 1) with
      alloc := { (World.init server).alloc with newBotRequests := [c] } } := by
  simp [World.step, World.addChannel, spawned, World.init, getItem, World.modifyAlloc,
    World.botFactory, List.replicate_succ']

theorem run_add_del (server : String × Nat) (n : Nat) (c : String) :
    run cfg (spawned server n) [.addChannel c, .delChannel c] = some (spawned server (n + 1)) := by
  rw [run, step_add_spawned, Option.some_bind]
  simp [run, World.step, World.delChannel, spawned, World.init, getItem, World.modifyAlloc]

theorem run_add_del_rounds (server : String × Nat) (c : String) (m n : Nat) :
    run cfg (spawned server m) (List.replicate n [.addChannel c, .delChannel c]).flatten =
      some (spawned server (m + n)) := by
  induction n generalizing m with
  | zero => rfl
  | succ n ih =>
    rw [List.replicate_succ, List.flatten_cons, run_append, run_add_del, Option.some_bind, ih]
    rw [Nat.add_right_comm, Nat.add_assoc]

theorem establishing_of_connecting {w : World} (h : ∀ f < w.factories.length, (w.factory f).connecting = true) :
    w.establishing = w.factories.length := by
  rw [World.establishing, List.countP_eq_length.mpr, List.length_range]
  intro f hf
  simpa using Or.inl (h f (List.mem_range.mp hf))

/-- However often a channel is queued and deleted, every round starts one more bot, and all of
them are connecting while the channel waits in `newBotRequests`. -/
theorem spawns_while_queued (n : Nat) :
    ∃ w, Reachable cfg w ∧ w.alloc.newBotRequests ≠ [] ∧ w.establishing = n + 2 := by
  have hrounds := run_add_del_rounds cfg freenode "#a" 0 (n + 1)
  refine ⟨_, ((Reachable.init freenode).run hrounds).step (step_add_spawned cfg _ _ "#a"),
    by simp, ?_⟩
  rw [establishing_of_connecting] <;> simp [spawned, World.factory, List.getElem?_replicate]
  intro f hf
  simp [hf]

/-! ## Two bots with one nickname -/

theorem step_connectionMade {w : World} {f : Nat} {nick : String} (hf : f < w.factories.length)
    (hc : (w.factory f).connecting = true) (hn : World.allocateNick cfg w.alloc = some nick) :
    w.step cfg (.callback (.connectionMade f)) = some
      (({ w with protocols := w.protocols ++ [Bot.fresh nick f] } : World).modifyFactory f
        fun fa => { fa with connecting := false }) := by
  simp [World.step, World.deliver, hf, hc, World.connectionMade_of_allocateNick cfg hn]

/-- Two connections made one after the other, before either bot signs on. After the first,
the other factory is still connecting and `allocateNick` still picks the first bot's nickname; so
the second bot gets it too. -/
theorem connectionMade_twice {w : World} {f g : Nat} {nick : String} (hfg : f ≠ g)
    (hf : f < w.factories.length ∧ (w.factory f).connecting = true)
    (hg : g < w.factories.length ∧ (w.factory g).connecting = true)
    (hn : World.allocateNick cfg w.alloc = some nick) :
    ∃ w₁, w.step cfg (.callback (.connectionMade f)) = some w₁ ∧
      g < w₁.factories.length ∧ (w₁.factory g).connecting = true ∧
      World.allocateNick cfg w₁.alloc = some nick ∧
      w₁.Live w.protocols.length ∧ (w₁.bot w.protocols.length).nickname = nick ∧
      ∃ w', w₁.step cfg (.callback (.connectionMade g)) = some w' ∧
        w'.Live w.protocols.length ∧ w'.Live (w.protocols.length + 1) ∧
        (w'.bot w.protocols.length).nickname = nick ∧
        (w'.bot (w.protocols.length + 1)).nickname = nick := by
  set w₁ := ({ w with protocols := w.protocols ++ [Bot.fresh nick f] } : World).modifyFactory f
    fun fa => { fa with connecting := false }
  have hg₁ : g < w₁.factories.length := by simpa [w₁] using hg.1
  have hc₁ : (w₁.factory g).connecting = true := by
    simpa [w₁, World.factory_modifyFactory, hfg] using hg.2
  refine ⟨w₁, step_connectionMade cfg hf.1 hf.2 hn, hg₁, hc₁, hn, ?_, ?_, _,
    step_connectionMade cfg hg₁ hc₁ hn, ?_⟩ <;>
  simp [w₁, World.Live, World.bot, Bot.fresh, List.getElem?_append_right, List.getElem_append_right]

/-- The first bot of `#a` is still connecting when `#a` is deleted and `#b` is queued, so a
second bot is started. -/
def doubleSpawnTrace : List Event := [.addChannel "#a", .delChannel "#a", .addChannel "#b"]

/-- After `doubleSpawnTrace` and the first bot's connection, factory `1` is connecting and
`allocateNick` would give its bot the nickname of the connected bot. -/
theorem nick_taken_while_connecting : ∃ w, Reachable Config.default w ∧ ∃ f nick q,
    f < w.factories.length ∧ (w.factory f).connecting = true ∧
      World.allocateNick Config.default w.alloc = some nick ∧ w.Live q ∧ (w.bot q).nickname = nick := by
  obtain ⟨w, hw, hok⟩ := Reachable.of_run doubleSpawnTrace
    (fun w => decide (0 < w.factories.length) && (w.factory 0).connecting &&
      decide (1 < w.factories.length) && (w.factory 1).connecting &&
      World.allocateNick Config.default w.alloc == some "CIA-1")
    (Reachable.init freenode : Reachable Config.default _) (by decide)
  simp only [Bool.and_eq_true, decide_eq_true_eq, beq_iff_eq] at hok
  obtain ⟨w₁, hs, hg, hc, hn, hl, hnick, -⟩ := connectionMade_twice Config.default Nat.zero_ne_one
    ⟨hok.1.1.1.1, hok.1.1.1.2⟩ ⟨hok.1.1.2, hok.1.2⟩ hok.2
  exact ⟨w₁, hw.step hs, 1, _, _, hg, hc, hn, hl, hnick⟩

/-! ## A bot with nothing to do -/

/-- If the queue is emptied before the new bot signs on, the bot is registered and left with no
channel, no `JOIN` and no `QUIT`. -/
theorem queued_bot_idle {w : World} {f : Nat} {c nick : String}
    (hq : w.alloc.newBotRequests = [c]) (hf : f < w.factories.length)
    (hc : (w.factory f).connecting = true) (hn : World.allocateNick cfg w.alloc = some nick) :
    ∃ w', run cfg w [.delChannel c, .callback (.connectionMade f),
        .callback (.signedOn w.protocols.length)] = some w' ∧
      getItem w'.alloc.bots nick = some w.protocols.length ∧
      w'.bot w.protocols.length = { Bot.fresh nick f with registered := true } := by
  have hn' : World.allocateNick cfg (w.delChannel c).alloc = some nick := by
    rw [World.allocateNick_congr cfg (show (w.delChannel c).alloc.bots = w.alloc.bots by simp), hn]
  have hlen := World.length_delChannel w c
  obtain ⟨w₂, hw₂, hm⟩ : ∃ w₂, w₂ = (({ w.delChannel c with
      protocols := (w.delChannel c).protocols ++ [Bot.fresh nick f] } : World).modifyFactory f
        fun fa => { fa with connecting := false }) ∧
      (w.delChannel c).step cfg (.callback (.connectionMade f)) = some w₂ :=
    ⟨_, rfl, step_connectionMade cfg (by simpa using hf) (by simpa [World.factory] using hc) hn'⟩
  have hb : w₂.bot w.protocols.length = Bot.fresh nick f := by
    rw [hw₂]; dsimp only; rw [World.bot_modifyFactory, World.bot_push, if_pos hlen.symm]
  have hl : w₂.Live w.protocols.length := ⟨by simp [hw₂, hlen], by simp [hb, Bot.fresh]⟩
  refine ⟨w₂.signedOn cfg w.protocols.length, ?_, ?_, ?_⟩
  · simp only [run]
    rw [show w.step cfg (.delChannel c) = some (w.delChannel c) from rfl, Option.some_bind, hm,
      Option.some_bind]
    simp [World.step, World.deliver, hl, hb, Bot.fresh]
  · simp [World.signedOn_alloc, hb, Bot.fresh]
  · rw [World.bot_signedOn, if_pos ⟨rfl, hl.1⟩, hb]
    simp [hw₂, hq]

/-- `#a` is queued and deleted before its bot connects; the bot then connects and signs on: it is
registered and not asked to quit, with no channel and no `JOIN`. -/
theorem idle_bot_registered : ∃ w, Reachable Config.default w ∧ ∃ p ∈ values w.alloc.bots,
    (w.bot p).quitSent = false ∧ (w.bot p).channels = [] ∧ (w.bot p).joins = [] := by
  obtain ⟨w, hw, hok⟩ := Reachable.of_run [.addChannel "#a"]
    (fun w => w.alloc.newBotRequests == ["#a"] && decide (0 < w.factories.length) &&
      (w.factory 0).connecting && World.allocateNick Config.default w.alloc == some "CIA-1")
    (Reachable.init freenode : Reachable Config.default _) (by decide)
  simp only [Bool.and_eq_true, beq_iff_eq, decide_eq_true_eq] at hok
  obtain ⟨w', hr, hbots, hb⟩ := queued_bot_idle Config.default hok.1.1.1 hok.1.1.2 hok.1.2 hok.2
  exact ⟨w', hw.run hr, _, mem_values.mpr ⟨_, getItem_eq_some hbots⟩, by simp [hb, Bot.fresh]⟩

end BotDaemon
