import BotDaemon.Reactor

/-!
# Bots, factories and their connections

A `BotFactory` holds one connection to the IRC server at a time. `connectTCP` starts it, Twisted
hands the new connection to `Bot.connectionMade`, and when it closes `clientConnectionLost`
connects again, unless `Bot.left` turned `reconnect` off after the bot's last channel. Bots are
never taken off the heap: a bot whose connection closed stays there, disconnected. The allocator
reaches its bots through `bots`, by nickname, and through `channels`, by channel.

**Theorem (`reachable_wired`).** In every reachable world:

- every live bot belongs to one of the allocator's factories, which is not connecting, and no
  two live bots share a factory;
- a factory whose `reconnect` was turned off is not connecting;
- every entry of `bots` is a live bot that signed on, under its own nickname, and every entry of
  `channels` is a bot that signed on;
- the allocator has sent `JOIN`, `PART` and `QUIT` only to bots that signed on.

The parts are maintained together. `connectionMade` needs "not connecting" to see that the new
bot is the only live bot of its factory; `connectionLost` needs "one live bot per factory" to see
that reconnecting the bot's factory leaves every other live bot's factory alone; `Bot.left` needs
"not connecting" for the factory whose `reconnect` it turns off. Each event is assembled from one
lemma per kind of update: change one bot (`Wired.modifyBot`), change the allocator's dictionaries
(`Wired.modifyAlloc`), change one factory (`Wired.modifyFactory`), start a factory
(`Wired.botFactory`), add the bot of a new connection (`Wired.push`), and close a connection
(`Wired.disconnect`).

**Theorem (`reconnect_off_forever`).** Once `Bot.left` has turned a factory's `reconnect` off,
the factory never connects again, in any later run. `FactoriesStep` lists what one step can do to
the factories (start one, set one's `connecting`, turn one's `reconnect` off), and none of these
turns `reconnect` back on; the invariant then keeps the factory from connecting.
-/

namespace BotDaemon

/-- The allocator has sent the bot a `JOIN` or a `PART` that is not answered yet, or a `QUIT`. -/
def Bot.Commanded (b : Bot) : Prop := b.joins ≠ [] ∨ b.parts ≠ [] ∨ b.quitSent = true

instance (b : Bot) : Decidable b.Commanded := inferInstanceAs (Decidable (_ ∨ _ ∨ _))

namespace World

variable {w : World}

/-! ## Bots and factories under the world's updates -/

@[simp] theorem factory_modifyBot (w : World) (p f : Nat) (g : Bot → Bot) :
    (w.modifyBot p g).factory f = w.factory f := rfl

@[simp] theorem factory_modifyAlloc (w : World) (g : BotAllocator → BotAllocator) (f : Nat) :
    (w.modifyAlloc g).factory f = w.factory f := rfl

@[simp] theorem live_modifyAlloc (w : World) (g : BotAllocator → BotAllocator) (p : Nat) :
    (w.modifyAlloc g).Live p ↔ w.Live p := Iff.rfl

@[simp] theorem live_botFactory (w : World) (p : Nat) : w.botFactory.Live p ↔ w.Live p := Iff.rfl

theorem live_modifyBot {g : Bot → Bot} (hg : ∀ b, (g b).connected = b.connected) (p q : Nat) :
    (w.modifyBot p g).Live q ↔ w.Live q := by
  simp only [Live, length_modifyBot, bot_modifyBot]
  split_ifs <;> simp [hg]

theorem registered_modifyBot {g : Bot → Bot} (hg : ∀ b, (g b).registered = b.registered)
    (p q : Nat) : ((w.modifyBot p g).bot q).registered = (w.bot q).registered := by
  rw [bot_modifyBot]; split_ifs <;> simp [hg]

@[simp] theorem length_disconnect (w : World) (p : Nat) :
    (w.disconnect p).protocols.length = w.protocols.length := length_modifyBot _ _ _

theorem bot_disconnect (w : World) (p q : Nat) : (w.disconnect p).bot q =
    { w.bot q with connected := if p = q then false else (w.bot q).connected } := by
  rw [disconnect, bot_modifyBot]
  by_cases hq : q < w.protocols.length
  · by_cases hpq : p = q <;> simp [hpq, hq]
  · rw [if_neg fun h => hq h.2, bot, List.getD_eq_getElem?_getD,
      List.getElem?_eq_none (Nat.le_of_not_lt hq)]
    split_ifs <;> rfl

@[simp] theorem live_disconnect (w : World) (p q : Nat) :
    (w.disconnect p).Live q ↔ w.Live q ∧ p ≠ q := by
  simp only [Live, length_disconnect, bot_disconnect]
  split_ifs <;> simp [*]

theorem bot_connectionLost (w : World) (p q : Nat) : (w.connectionLost p).1.bot q = w.bot q := by
  simp only [bot, connectionLost_protocols]

theorem live_connectionLost (w : World) (p q : Nat) : (w.connectionLost p).1.Live q ↔ w.Live q := by
  simp only [Live, bot, connectionLost_protocols]

theorem bot_joined (w : World) (p : Nat) (c : String) (q : Nat) : (w.joined p c).1.bot q =
    (w.modifyBot p fun b => { b with channels := b.channels ++ [c] }).bot q := by
  simp only [bot, joined_protocols]

theorem live_joined (w : World) (p : Nat) (c : String) (q : Nat) :
    (w.joined p c).1.Live q ↔ w.Live q := by
  rw [Live, bot_joined, joined_protocols, ← Live, live_modifyBot]
  exact fun _ => rfl

/-! ## The invariant -/

/-- The invariant of an allocator's bots and factories. -/
structure Wired (w : World) : Prop where
  factory_lt : ∀ p, w.Live p → (w.bot p).factory < w.factories.length
  /-- A factory with a live bot is not connecting. -/
  connecting_idle : ∀ p, w.Live p → (w.factory (w.bot p).factory).connecting = false
  one_live : ∀ p q, w.Live p → w.Live q → (w.bot p).factory = (w.bot q).factory → p = q
  reconnect_off : ∀ f < w.factories.length, (w.factory f).reconnect = false →
    (w.factory f).connecting = false
  bots_live : ∀ e ∈ w.alloc.bots,
    w.Live e.2 ∧ (w.bot e.2).registered = true ∧ (w.bot e.2).nickname = e.1
  channels_registered : ∀ e ∈ w.alloc.channels,
    e.2 < w.protocols.length ∧ (w.bot e.2).registered = true
  commanded_registered : ∀ p, (w.bot p).Commanded → (w.bot p).registered = true

theorem init_wired (server : String × Nat) : (World.init server).Wired where
  factory_lt _ h := absurd h.1 (Nat.not_lt_zero _)
  connecting_idle _ h := absurd h.1 (Nat.not_lt_zero _)
  one_live _ _ h := absurd h.1 (Nat.not_lt_zero _)
  reconnect_off _ h := absurd h (Nat.not_lt_zero _)
  bots_live _ h := absurd h (List.not_mem_nil _)
  channels_registered _ h := absurd h (List.not_mem_nil _)
  commanded_registered _ h := absurd h (by decide : ¬ (default : Bot).Commanded)

/-! ## One lemma per kind of update -/

/-- Changing one bot's requests, channels or registration keeps the invariant, if the bot stays
registered once it was and is registered whenever it has been sent a command. -/
theorem Wired.modifyBot (h : w.Wired) {p : Nat} {g : Bot → Bot}
    (hf : (g (w.bot p)).factory = (w.bot p).factory)
    (hn : (g (w.bot p)).nickname = (w.bot p).nickname)
    (hc : (g (w.bot p)).connected = (w.bot p).connected)
    (hr : (w.bot p).registered = true → (g (w.bot p)).registered = true)
    (hs : (g (w.bot p)).Commanded → (g (w.bot p)).registered = true) :
    (w.modifyBot p g).Wired := by
  have hb : ∀ q, ((w.modifyBot p g).bot q).factory = (w.bot q).factory ∧
      ((w.modifyBot p g).bot q).nickname = (w.bot q).nickname ∧
      ((w.modifyBot p g).bot q).connected = (w.bot q).connected ∧
      ((w.bot q).registered = true → ((w.modifyBot p g).bot q).registered = true) := by
    intro q
    rw [bot_modifyBot]
    split_ifs with hq
    · obtain ⟨rfl, -⟩ := hq; exact ⟨hf, hn, hc, hr⟩
    · exact ⟨rfl, rfl, rfl, id⟩
  have hl : ∀ q, (w.modifyBot p g).Live q ↔ w.Live q := fun q => by
    simp only [Live, length_modifyBot, (hb q).2.2.1]
  refine ⟨fun q hq => ?_, fun q hq => ?_, fun q q' hq hq' hqq => ?_, h.reconnect_off,
    fun e he => ?_, fun e he => ?_, fun q hq => ?_⟩
  · rw [(hb q).1]; exact h.factory_lt q ((hl q).mp hq)
  · rw [(hb q).1]; exact h.connecting_idle q ((hl q).mp hq)
  · rw [(hb q).1, (hb q').1] at hqq
    exact h.one_live q q' ((hl q).mp hq) ((hl q').mp hq') hqq
  · obtain ⟨hl', hr', hn'⟩ := h.bots_live e he
    exact ⟨(hl _).mpr hl', (hb _).2.2.2 hr', (hb _).2.1.trans hn'⟩
  · obtain ⟨hlt, hr'⟩ := h.channels_registered e he
    exact ⟨by simpa using hlt, (hb _).2.2.2 hr'⟩
  · rw [bot_modifyBot] at hq ⊢
    split_ifs at hq ⊢ with hpq
    · obtain ⟨rfl, -⟩ := hpq; exact hs hq
    · exact h.commanded_registered q hq

theorem Wired.join (h : w.Wired) {p : Nat} (hp : (w.bot p).registered = true) (c : String) :
    (w.join p c).Wired :=
  h.modifyBot rfl rfl rfl id fun _ => hp

theorem Wired.leave (h : w.Wired) {p : Nat} (hp : (w.bot p).registered = true) (c : String) :
    (w.leave p c).Wired :=
  h.modifyBot rfl rfl rfl id fun _ => hp

theorem Wired.quit (h : w.Wired) {p : Nat} (hp : (w.bot p).registered = true) :
    (w.quit p).Wired :=
  h.modifyBot rfl rfl rfl id fun _ => hp

theorem Wired.modifyAlloc (h : w.Wired) {g : BotAllocator → BotAllocator}
    (hb : ∀ e ∈ (g w.alloc).bots,
      w.Live e.2 ∧ (w.bot e.2).registered = true ∧ (w.bot e.2).nickname = e.1)
    (hc : ∀ e ∈ (g w.alloc).channels, e.2 < w.protocols.length ∧ (w.bot e.2).registered = true) :
    (w.modifyAlloc g).Wired :=
  ⟨h.factory_lt, h.connecting_idle, h.one_live, h.reconnect_off, hb, hc, h.commanded_registered⟩

theorem Wired.modifyQueues (h : w.Wired) {g : BotAllocator → BotAllocator}
    (hb : (g w.alloc).bots = w.alloc.bots) (hc : (g w.alloc).channels = w.alloc.channels) :
    (w.modifyAlloc g).Wired :=
  h.modifyAlloc (hb ▸ h.bots_live) (hc ▸ h.channels_registered)

theorem Wired.botFactory (h : w.Wired) : w.botFactory.Wired := by
  refine ⟨fun q hq => ?_, fun q hq => ?_, h.one_live, fun f hf hr => ?_, h.bots_live,
    h.channels_registered, h.commanded_registered⟩
  · rw [length_botFactory]; exact Nat.lt_succ_of_lt (h.factory_lt q hq)
  · rw [bot_botFactory, factory_botFactory w (h.factory_lt q hq)]; exact h.connecting_idle q hq
  · rw [length_botFactory] at hf
    rcases Nat.lt_succ_iff_lt_or_eq.mp hf with hf | rfl
    · rw [factory_botFactory w hf] at hr ⊢; exact h.reconnect_off f hf hr
    · simp at hr

theorem Wired.modifyFactory (h : w.Wired) {f : Nat} {g : BotFactory → BotFactory}
    (hl : ∀ q, w.Live q → (w.bot q).factory = f → (g (w.factory f)).connecting = false)
    (hr : (g (w.factory f)).reconnect = false → (g (w.factory f)).connecting = false) :
    (w.modifyFactory f g).Wired := by
  refine ⟨fun q hq => by simpa using h.factory_lt q hq, fun q hq => ?_, h.one_live,
    fun f' hf' hr' => ?_, h.bots_live, h.channels_registered, h.commanded_registered⟩
  · rw [bot_modifyFactory, factory_modifyFactory]
    split_ifs with hff
    · rw [← hff.1]; exact hl q hq hff.1.symm
    · exact h.connecting_idle q hq
  · rw [factory_modifyFactory] at hr' ⊢
    split_ifs at hr' ⊢ with hff
    · obtain ⟨rfl, -⟩ := hff; exact hr hr'
    · exact h.reconnect_off f' (by simpa using hf') hr'

theorem Wired.stopReconnect (h : w.Wired) {p : Nat} (hp : w.Live p) :
    (w.modifyFactory (w.bot p).factory fun fa => { fa with reconnect := false }).Wired :=
  h.modifyFactory (fun q hq hqp => hqp ▸ h.connecting_idle q hq) fun _ => h.connecting_idle p hp

theorem Wired.clientConnectionLost (h : w.Wired) {f : Nat}
    (hf : ∀ q, w.Live q → (w.bot q).factory ≠ f) : (w.clientConnectionLost f).Wired := by
  unfold World.clientConnectionLost
  split_ifs with hr
  · exact h.modifyFactory (fun q hq hqf => absurd hqf (hf q hq)) fun hr' => absurd hr' (by simp [hr])
  · exact h

theorem Wired.push (h : w.Wired) {f : Nat} (hf : f < w.factories.length)
    (hc : (w.factory f).connecting = false) (hnone : ∀ q, w.Live q → (w.bot q).factory ≠ f)
    (nick : String) : ({ w with protocols := w.protocols ++ [Bot.fresh nick f] } : World).Wired := by
  have hbot := bot_push w (Bot.fresh nick f)
  have hlive : ∀ q, ({ w with protocols := w.protocols ++ [Bot.fresh nick f] } : World).Live q ↔
      q = w.protocols.length ∨ w.Live q := by
    intro q
    simp only [Live, hbot, List.length_append, List.length_singleton]
    split_ifs with hq
    · simp [hq, Bot.fresh]
    · simp only [hq, false_or]
      exact and_congr_left fun _ => ⟨fun h' => lt_of_le_of_ne (Nat.le_of_lt_succ h') hq,
        Nat.lt_succ_of_lt⟩
  refine ⟨fun q hq => ?_, fun q hq => ?_, fun q q' hq hq' hqq => ?_, h.reconnect_off,
    fun e he => ?_, fun e he => ?_, fun q hq => ?_⟩
  · rw [hbot]
    rcases (hlive q).mp hq with rfl | hq
    · simpa [Bot.fresh] using hf
    · rw [if_neg (Nat.ne_of_lt hq.1)]; exact h.factory_lt q hq
  · rw [hbot]
    rcases (hlive q).mp hq with rfl | hq
    · simpa [Bot.fresh] using hc
    · rw [if_neg (Nat.ne_of_lt hq.1)]; exact h.connecting_idle q hq
  · rw [hbot, hbot] at hqq
    rcases (hlive q).mp hq with rfl | hq <;> rcases (hlive q').mp hq' with rfl | hq'
    · rfl
    · rw [if_pos rfl, if_neg (Nat.ne_of_lt hq'.1)] at hqq
      exact absurd hqq.symm (hnone q' hq')
    · rw [if_neg (Nat.ne_of_lt hq.1), if_pos rfl] at hqq
      exact absurd hqq (hnone q hq)
    · rw [if_neg (Nat.ne_of_lt hq.1), if_neg (Nat.ne_of_lt hq'.1)] at hqq
      exact h.one_live q q' hq hq' hqq
  · obtain ⟨hl, hr, hn⟩ := h.bots_live e he
    rw [hbot, if_neg (Nat.ne_of_lt hl.1)]
    exact ⟨(hlive _).mpr (.inr hl), hr, hn⟩
  · obtain ⟨hlt, hr⟩ := h.channels_registered e he
    rw [hbot, if_neg (Nat.ne_of_lt hlt)]
    exact ⟨by simpa using Nat.lt_succ_of_lt hlt, hr⟩
  · rw [hbot] at hq ⊢
    split_ifs at hq ⊢
    · exact absurd hq (by simp [Bot.Commanded, Bot.fresh])
    · exact h.commanded_registered q hq

theorem Wired.disconnect (h : w.Wired) {p : Nat} (hb : ∀ e ∈ w.alloc.bots, e.2 ≠ p) :
    (w.disconnect p).Wired := by
  have hl : ∀ {q}, (w.disconnect p).Live q → w.Live q := fun hq => ((live_disconnect ..).mp hq).1
  refine ⟨fun q hq => ?_, fun q hq => ?_, fun q q' hq hq' => ?_, h.reconnect_off,
    fun e he => ?_, fun e he => ?_, fun q => ?_⟩ <;>
    simp only [bot_disconnect, length_disconnect, live_disconnect] at *
  · exact h.factory_lt q (hl hq)
  · exact h.connecting_idle q (hl hq)
  · exact h.one_live q q' (hl hq) (hl hq')
  · obtain ⟨hl', hr', hn'⟩ := h.bots_live e he
    exact ⟨⟨hl', (hb e he).symm⟩, hr', hn'⟩
  · exact h.channels_registered e he
  · exact h.commanded_registered q

/-! ## The connection callbacks -/

/-- A connection arrives for a connecting factory: the factory stops connecting, and the new bot
is its only live bot, since no live bot belongs to a connecting factory. -/
theorem Wired.connectionMade (cfg : Config) (h : w.Wired) {f : Nat} (hf : f < w.factories.length)
    (hc : (w.factory f).connecting = true) {w' : World} (hw : w.connectionMade cfg f = some w') :
    w'.Wired := by
  obtain ⟨nick, -, rfl⟩ := Option.map_eq_some'.mp hw
  have hnone : ∀ q, w.Live q → (w.bot q).factory ≠ f := fun q hq hqf => by
    have := h.connecting_idle q hq; rw [hqf, hc] at this; cases this
  have h₁ : (w.modifyFactory f fun fa => { fa with connecting := false }).Wired :=
    h.modifyFactory (fun _ _ _ => rfl) fun _ => rfl
  exact h₁.push (by simpa using hf) (by simp [factory_modifyFactory, hf]) hnone nick

/-- A connection closes. Its factory reconnects only when `botDisconnected` did not raise, and
then no other live bot belongs to it. -/
theorem Wired.connectionLost (h : w.Wired) {p : Nat} (hp : w.Live p) :
    ((w.disconnect p).connectionLost p).1.Wired := by
  unfold World.connectionLost
  cases hd : (w.disconnect p).botDisconnected p with
  | none =>
    -- the bot's nickname is not a key of `bots`, so no entry leads to it
    simp only [botDisconnected, Option.map_eq_none', delItem_eq_none, bot_disconnect,
      disconnect_alloc] at hd
    refine h.disconnect fun e he hep => hd ?_
    rw [← hep, (h.bots_live e he).2.2]
    exact mem_keys.mpr ⟨e.2, he⟩
  | some w' =>
    obtain ⟨-, rfl⟩ := botDisconnected_eq_some hd
    have hn : ((w.disconnect p).bot p).nickname = (w.bot p).nickname := by simp [bot_disconnect]
    have hf : ((w.disconnect p).bot p).factory = (w.bot p).factory := by simp [bot_disconnect]
    rw [hn, hf]
    have h₁ : ((w.modifyAlloc fun a => { a with
        bots := a.bots.filter fun e => e.1 ≠ (w.bot p).nickname
        channels := a.channels.filter fun e => e.2 ≠ p }).disconnect p).Wired := by
      refine (h.modifyAlloc (fun e he => h.bots_live e (List.mem_of_mem_filter he))
        fun e he => h.channels_registered e (List.mem_of_mem_filter he)).disconnect
        fun e he hep => ?_
      have hne := (List.mem_filter.mp he).2
      rw [← (h.bots_live e (List.mem_of_mem_filter he)).2.2, hep] at hne
      simp at hne
    refine h₁.clientConnectionLost fun q hq hqf => ?_
    simp only [live_disconnect, live_modifyAlloc, bot_disconnect] at hq hqf
    exact hq.2 (h.one_live q p hq.1 hp hqf).symm

/-! ## The allocator's methods -/

section Methods

variable (cfg : Config)

theorem Wired.addChannel (h : w.Wired) (c : String) : (w.addChannel cfg c).2.Wired := by
  by_cases hm : w.alloc.Managed c
  · rwa [addChannel_of_managed cfg hm]
  · cases he : w.alloc.bots.find? fun e => (w.bot e.2).channels.length < cfg.channelsPerBot with
    | some e =>
      rw [addChannel_of_room cfg hm he]
      dsimp only
      exact (h.join (h.bots_live e (List.mem_of_find?_eq_some he)).2.1 c).modifyQueues
        (by rfl) (by rfl)
    | none =>
      rw [addChannel_of_full cfg hm he]
      dsimp only
      split_ifs
      · exact (h.modifyQueues (by rfl) (by rfl)).botFactory
      · exact h.modifyQueues (by rfl) (by rfl)

theorem Wired.delChannel (h : w.Wired) (c : String) : (w.delChannel c).Wired := by
  unfold World.delChannel
  dsimp only
  split
  · rename_i p hp
    exact (h.modifyQueues (by rfl) (by rfl)).leave (h.channels_registered _ (getItem_eq_some hp)).2 c
  · exact h.modifyQueues (by rfl) (by rfl)

theorem Wired.foldl_joinQueued (h : w.Wired) {p : Nat} (hp : (w.bot p).registered = true)
    (xs : List String) : (xs.foldl (joinQueued p) w).Wired := by
  induction xs generalizing w with
  | nil => exact h
  | cons c xs ih =>
    refine ih ((h.join hp c).modifyQueues (by rfl) (by rfl)) ?_
    simpa [joinQueued, World.join, registered_modifyBot] using hp

theorem Wired.botConnected (h : w.Wired) {p : Nat} (hp : w.Live p)
    (hr : (w.bot p).registered = true) : (w.botConnected cfg p).Wired := by
  have h₁ : (w.modifyAlloc fun a => { a with bots := setItem a.bots (w.bot p).nickname p }).Wired := by
    refine h.modifyAlloc (fun ⟨k, q⟩ he => ?_) h.channels_registered
    rcases mem_setItem he with he | ⟨rfl, rfl⟩
    · exact h.bots_live _ he
    · exact ⟨hp, hr, rfl⟩
  unfold World.botConnected
  dsimp only
  split_ifs
  · exact h₁.foldl_joinQueued hr _
  · exact (h₁.foldl_joinQueued hr _).botFactory

theorem Wired.signedOn (h : w.Wired) {p : Nat} (hp : w.Live p) : (w.signedOn cfg p).Wired := by
  refine (h.modifyBot rfl rfl rfl (fun _ => rfl) fun _ => rfl).botConnected cfg ?_ ?_
  · simpa [live_modifyBot] using hp
  · simp [hp.1]

theorem Wired.joined (h : w.Wired) {p : Nat} {c : String} (hp : w.Live p)
    (hc : c ∈ (w.bot p).joins) : ((w.answerJoin p c).joined p c).1.Wired := by
  have hr : (w.bot p).registered = true :=
    h.commanded_registered p (.inl (List.ne_nil_of_mem hc))
  have hr₁ : ((w.answerJoin p c).bot p).registered = true := by
    simpa [answerJoin, registered_modifyBot] using hr
  have h₁ : ((w.answerJoin p c).modifyBot p fun b => { b with channels := b.channels ++ [c] }).Wired :=
    (h.modifyBot rfl rfl rfl id fun _ => hr).modifyBot rfl rfl rfl id fun _ => hr₁
  unfold World.joined
  dsimp only
  cases hj : ((w.answerJoin p c).modifyBot p fun b => { b with channels := b.channels ++ [c] }
    ).botJoined p c with
  | none => exact h₁
  | some w' =>
    obtain ⟨-, rfl⟩ := botJoined_eq_some hj
    dsimp only [catching]
    refine h₁.modifyAlloc h₁.bots_live fun ⟨k, q⟩ he => ?_
    rcases mem_setItem he with he | ⟨rfl, rfl⟩
    · exact h₁.channels_registered _ he
    · exact ⟨by simpa [answerJoin] using hp.1, by simpa [registered_modifyBot] using hr₁⟩

theorem Wired.catching_botLeft (h : w.Wired) {p : Nat} {c : String}
    (hr : (w.bot p).registered = true) (e : PyError) : (catching w e (w.botLeft p c)).1.Wired := by
  cases hb : w.botLeft p c with
  | none => exact h
  | some w' =>
    obtain ⟨d, hd, rfl⟩ := Option.map_eq_some'.mp hb
    obtain ⟨-, rfl⟩ := delItem_eq_some hd
    have h₁ : (w.modifyAlloc fun a => { a with
        channels := w.alloc.channels.filter fun e => e.1 ≠ c }).Wired :=
      h.modifyAlloc h.bots_live fun e he => h.channels_registered e (List.mem_of_mem_filter he)
    dsimp only
    split_ifs
    · exact h₁.quit hr
    · exact h₁

theorem Wired.left (h : w.Wired) {p : Nat} {c : String} (hp : w.Live p)
    (hc : c ∈ (w.bot p).parts) : ((w.answerPart p c).left p c).1.Wired := by
  have hr : (w.bot p).registered = true :=
    h.commanded_registered p (.inr (.inl (List.ne_nil_of_mem hc)))
  have h₁ : (w.answerPart p c).Wired := h.modifyBot rfl rfl rfl id fun _ => hr
  have hr₁ : ((w.answerPart p c).bot p).registered = true := by
    simpa [answerPart, registered_modifyBot] using hr
  unfold World.left
  split
  · exact h₁
  · rename_i l _
    have h₂ : ((w.answerPart p c).modifyBot p fun b => { b with channels := l }).Wired :=
      h₁.modifyBot rfl rfl rfl id fun _ => hr₁
    have hr₂ : (((w.answerPart p c).modifyBot p fun b => { b with channels := l }).bot p).registered
        = true := by simpa [registered_modifyBot] using hr₁
    have hp₂ : ((w.answerPart p c).modifyBot p fun b => { b with channels := l }).Live p := by
      simpa [answerPart, live_modifyBot] using hp
    dsimp only
    split_ifs
    · exact (h₂.stopReconnect hp₂).catching_botLeft hr₂ _
    · exact h₂.catching_botLeft hr₂ _

end Methods

/-! ## Every run -/

variable (cfg : Config)

theorem step_wired {w w' : World} {e : Event} (h : w.Wired) (hs : w.step cfg e = some w') :
    w'.Wired := by
  cases e with
  | addChannel c => cases hs; exact h.addChannel cfg c
  | delChannel c => cases hs; exact h.delChannel c
  | callback cb =>
    obtain ⟨o, ho, rfl⟩ := step_callback cfg hs
    cases cb with
    | connectionMade f =>
      obtain ⟨hf, hc, w₁, hw₁, rfl⟩ := deliver_connectionMade cfg ho
      exact h.connectionMade cfg hf hc hw₁
    | signedOn p =>
      obtain ⟨hp, -, rfl⟩ := deliver_signedOn cfg ho
      exact h.signedOn cfg hp
    | joined p c =>
      obtain ⟨hp, hc, rfl⟩ := deliver_joined cfg ho
      exact h.joined hp hc
    | left p c =>
      obtain ⟨hp, hc, rfl⟩ := deliver_left cfg ho
      exact h.left hp hc
    | connectionLost p =>
      obtain ⟨hp, rfl⟩ := deliver_connectionLost cfg ho
      exact h.connectionLost hp

end World

theorem reachable_wired {cfg : Config} {w : World} (h : Reachable cfg w) : w.Wired := by
  induction h with
  | init server => exact World.init_wired server
  | step _ hs ih => exact World.step_wired cfg ih hs

/-! ## What the invariant says -/

section Consequences

variable {cfg : Config} {w : World}

/-- A channel added to a fresh allocator, and its bot signed on. -/
def signOnTrace : List Event :=
  [.addChannel "#commits", .callback (.connectionMade 0), .callback (.signedOn 0)]

/-- `bots` leads only to live bots that signed on, each under its own nickname, and `channels`,
and with it `msg`, only to bots that signed on. -/
theorem registry_signed_on (h : Reachable cfg w) :
    (∀ nick p, (nick, p) ∈ w.alloc.bots →
      w.Live p ∧ (w.bot p).registered = true ∧ (w.bot p).nickname = nick) ∧
    ∀ c p, w.msg c = some p → p < w.protocols.length ∧ (w.bot p).registered = true :=
  have hw := reachable_wired h
  ⟨fun _ _ he => hw.bots_live _ he, fun _ _ hc => hw.channels_registered _ (getItem_eq_some hc)⟩

theorem registry_signed_on_signOn : ∃ w, Reachable Config.default w ∧
    ("CIA-1", 0) ∈ w.alloc.bots ∧
    (∀ nick p, (nick, p) ∈ w.alloc.bots →
      w.Live p ∧ (w.bot p).registered = true ∧ (w.bot p).nickname = nick) ∧
    ∀ c p, w.msg c = some p → p < w.protocols.length ∧ (w.bot p).registered = true := by
  obtain ⟨w, hw, hb⟩ := Reachable.of_run signOnTrace (fun w => decide (("CIA-1", 0) ∈ w.alloc.bots))
    (Reachable.init freenode : Reachable Config.default _) (by decide)
  exact ⟨w, hw, of_decide_eq_true hb, registry_signed_on hw⟩

/-- The allocator sends `JOIN`, `PART` and `QUIT` only to bots that signed on. -/
theorem commands_after_signOn (h : Reachable cfg w) (p : Nat) (hp : (w.bot p).Commanded) :
    (w.bot p).registered = true :=
  (reachable_wired h).commanded_registered p hp

theorem commands_after_signOn_signOn : ∃ w, Reachable Config.default w ∧
    (w.bot 0).Commanded ∧ (w.bot 0).registered = true := by
  obtain ⟨w, hw, hc⟩ := Reachable.of_run signOnTrace (fun w => decide (w.bot 0).Commanded)
    (Reachable.init freenode : Reachable Config.default _) (by decide)
  exact ⟨w, hw, of_decide_eq_true hc, commands_after_signOn hw 0 (of_decide_eq_true hc)⟩

end Consequences

/-! ## Giving up a factory -/

/-- What one step can do to the factories: start one, set one's `connecting`, or turn one's
`reconnect` off. -/
inductive FactoriesStep (fs : List BotFactory) : List BotFactory → Prop
  | same : FactoriesStep fs fs
  | start : FactoriesStep fs (fs ++ [⟨true, true⟩])
  | connect (f : Nat) (b : Bool) :
      FactoriesStep fs (fs.modify (fun fa => { fa with connecting := b }) f)
  | giveUp (f : Nat) : FactoriesStep fs (fs.modify (fun fa => { fa with reconnect := false }) f)

/-- No kind of step turns `reconnect` back on. -/
theorem FactoriesStep.reconnect_off {fs fs' : List BotFactory} (h : FactoriesStep fs fs')
    {f : Nat} (hf : f < fs.length) (hr : (fs.getD f default).reconnect = false) :
    f < fs'.length ∧ (fs'.getD f default).reconnect = false := by
  rw [List.getD_eq_getElem?_getD, List.getElem?_eq_getElem hf, Option.getD_some] at hr
  cases h with
  | same => exact ⟨hf, by simp [List.getD_eq_getElem?_getD, List.getElem?_eq_getElem hf, hr]⟩
  | start =>
    refine ⟨by simp; omega, ?_⟩
    simp [List.getD_eq_getElem?_getD, List.getElem?_append_left hf, List.getElem?_eq_getElem hf, hr]
  | connect f' b =>
    refine ⟨by simpa using hf, ?_⟩
    simp only [List.getD_eq_getElem?_getD, List.getElem?_modify, List.getElem?_eq_getElem hf]
    split_ifs <;> simp [hr]
  | giveUp f' =>
    refine ⟨by simpa using hf, ?_⟩
    simp only [List.getD_eq_getElem?_getD, List.getElem?_modify, List.getElem?_eq_getElem hf]
    split_ifs <;> simp [hr]

namespace World

variable (cfg : Config)

theorem step_factories {w w' : World} {e : Event} (hs : w.step cfg e = some w') :
    FactoriesStep w.factories w'.factories := by
  cases e with
  | addChannel c =>
    cases hs
    rcases addChannel_factories cfg w c with h | h <;> rw [h]
    exacts [.same, .start]
  | delChannel c => cases hs; rw [delChannel_factories]; exact .same
  | callback cb =>
    obtain ⟨o, ho, rfl⟩ := step_callback cfg hs
    cases cb with
    | connectionMade f =>
      obtain ⟨-, -, w₁, hw₁, rfl⟩ := deliver_connectionMade cfg ho
      obtain ⟨nick, -, rfl⟩ := Option.map_eq_some'.mp hw₁
      exact .connect f false
    | signedOn p =>
      obtain ⟨-, -, rfl⟩ := deliver_signedOn cfg ho
      rcases signedOn_factories cfg w p with h | h <;> rw [h]
      exacts [.same, .start]
    | joined p c =>
      obtain ⟨-, -, rfl⟩ := deliver_joined cfg ho
      rw [joined_factories]; exact .same
    | left p c =>
      obtain ⟨-, -, rfl⟩ := deliver_left cfg ho
      rcases left_factories (w.answerPart p c) p c with h | h <;> rw [h]
      exacts [.same, .giveUp _]
    | connectionLost p =>
      obtain ⟨-, rfl⟩ := deliver_connectionLost cfg ho
      rcases connectionLost_factories (w.disconnect p) p with h | h <;> rw [h]
      exacts [.same, .connect _ true]

theorem run_reconnect_off {w w' : World} {f : Nat} (hf : f < w.factories.length)
    (hr : (w.factory f).reconnect = false) {es : List Event} (hrun : run cfg w es = some w') :
    f < w'.factories.length ∧ (w'.factory f).reconnect = false := by
  induction es generalizing w with
  | nil => cases hrun; exact ⟨hf, hr⟩
  | cons e es ih =>
    simp only [run, Option.bind_eq_some] at hrun
    obtain ⟨w₁, h₁, hrun⟩ := hrun
    obtain ⟨hf₁, hr₁⟩ := (step_factories cfg h₁).reconnect_off hf hr
    exact ih hf₁ hr₁ hrun

end World

/-- Once `Bot.left` has turned a factory's `reconnect` off, the factory never connects again: in
every later run `reconnect` stays off and the factory is not connecting, so Twisted has no
connection to hand it. -/
theorem reconnect_off_forever {cfg : Config} {w w' : World} (h : Reachable cfg w) {f : Nat}
    (hf : f < w.factories.length) (hr : (w.factory f).reconnect = false) {es : List Event}
    (hrun : run cfg w es = some w') :
    (w'.factory f).reconnect = false ∧ (w'.factory f).connecting = false := by
  obtain ⟨hf', hr'⟩ := World.run_reconnect_off cfg hf hr hrun
  exact ⟨hr', (reachable_wired (h.run hrun)).reconnect_off f hf' hr'⟩

/-- The bot of `signOnTrace` leaves its only channel: `Bot.left` turns `reconnect` off. Then
its connection closes and another channel is added. -/
def giveUpTrace : List Event :=
  signOnTrace ++ [.callback (.joined 0 "#commits"), .delChannel "#commits",
    .callback (.left 0 "#commits")]

/-- After `giveUpTrace` the bot's connection closes and a new channel needs a new bot. -/
def afterGiveUpTrace : List Event := [.callback (.connectionLost 0), .addChannel "#cia"]

theorem reconnect_off_forever_giveUp : ∃ w w', Reachable Config.default w ∧
    0 < w.factories.length ∧ (w.factory 0).reconnect = false ∧
    run Config.default w afterGiveUpTrace = some w' ∧
    (w'.factory 0).reconnect = false ∧ (w'.factory 0).connecting = false := by
  have hs : (run Config.default (World.init freenode) giveUpTrace).map
      (fun w => decide (0 < w.factories.length ∧ (w.factory 0).reconnect = false)) = some true := by
    decide
  have hr : (run Config.default (World.init freenode) (giveUpTrace ++ afterGiveUpTrace)).isSome := by
    decide
  cases hw : run Config.default (World.init freenode) giveUpTrace with
  | none => simp [hw] at hs
  | some w =>
    rw [run_append, hw, Option.some_bind] at hr
    obtain ⟨w', hw'⟩ := Option.isSome_iff_exists.mp hr
    obtain ⟨hf, hr⟩ : 0 < w.factories.length ∧ (w.factory 0).reconnect = false := by
      simpa [hw] using hs
    have hre : Reachable Config.default w := (Reachable.init freenode).run hw
    exact ⟨w, w', hre, hf, hr, hw', reconnect_off_forever hre hf hr hw'⟩

end BotDaemon
