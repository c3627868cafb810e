import BotDaemon.Dict

/-!
# The bot allocator

`LibCIA.BotDaemon` runs CIA's IRC bots. A `BotAllocator` manages the bots of one IRC server: it
decides which bot joins which channel, starts a new bot (a `BotFactory`) when every bot is full,
and has a bot quit once it has left its last channel.

A `World` is one allocator together with every `Bot` and `BotFactory` it made, by index. Python
compares bots by identity, and the index is that identity. Next to the fields of the source, a
bot carries its IRC connection as the server sees it: the `JOIN`s and `PART`s it sent that are
not answered yet, whether it sent `QUIT`, whether it signed on, and whether it is still
connected. The callbacks of `BotDaemon.Reactor` read these.

The allocator's methods that can raise return `Option`. Each raises at its first statement, so
`none` is "raised, nothing changed". The handlers of `Bot` change the bot before they call the
allocator, and return the world they leave behind with the exception that escaped, if any.
-/

namespace BotDaemon

/-- The arguments of `BotAllocator(server, nickFormat, channelsPerBot)`, which never change:
`nickFormat % n` as a function of `n`, and how many channels one bot joins. -/
structure Config where
  nickFormat : Nat → String
  channelsPerBot : Nat

/-- The defaults, `"CIA-%d"` and `15`, which `BotController` uses. -/
def Config.default : Config := ⟨fun n => "CIA-" ++ toString n, 15⟩

/-- A `Bot`, together with its IRC connection. -/
structure Bot where
  nickname : String
  channels : List String
  /-- `self.factory`, by index. -/
  factory : Nat
  /-- Channels sent a `JOIN` that the server has not answered. -/
  joins : List String
  /-- Channels sent a `PART` that the server has not answered. -/
  parts : List String
  quitSent : Bool
  /-- The server welcomed the bot and `signedOn` ran. -/
  registered : Bool
  /-- `connectionLost` has not run yet. -/
  connected : Bool
deriving DecidableEq, Repr, Inhabited

/-- The bot `connectionMade` sets up for factory `f`: named, in no channel, connected. -/
def Bot.fresh (nick : String) (f : Nat) : Bot := ⟨nick, [], f, [], [], false, false, true⟩

/-- A `BotFactory`: its `reconnect` flag, and whether its connector is connecting. -/
structure BotFactory where
  reconnect : Bool
  connecting : Bool
deriving DecidableEq, Repr, Inhabited

/-- The fields of a `BotAllocator` that change, with bots by index. -/
structure BotAllocator where
  host : String
  port : Nat
  /-- Nickname to bot, for the bots that signed on. -/
  bots : List (String × Nat)
  /-- Joined channel to the bot in it. -/
  channels : List (String × Nat)
  /-- Channels a running bot was sent a `JOIN` for. -/
  existingBotRequests : List String
  /-- Channels waiting for a new bot. -/
  newBotRequests : List String
deriving DecidableEq, Repr, Inhabited

/-- A channel the allocator knows: joined, or waiting for an existing or a new bot. -/
def BotAllocator.Managed (a : BotAllocator) (c : String) : Prop :=
  c ∈ keys a.channels ∨ c ∈ a.existingBotRequests ∨ c ∈ a.newBotRequests

instance (a : BotAllocator) (c : String) : Decidable (a.Managed c) :=
  inferInstanceAs (Decidable (_ ∨ _))

/-- An allocator with every bot and factory it made. -/
structure World where
  alloc : BotAllocator
  protocols : List Bot
  factories : List BotFactory
deriving DecidableEq, Repr, Inhabited

namespace World

/-- `BotAllocator(server)`, before any call. -/
def init (server : String × Nat) : World :=
  ⟨⟨server.1, server.2, [], [], [], []⟩, [], []⟩

def bot (w : World) (p : Nat) : Bot := w.protocols.getD p default

def factory (w : World) (f : Nat) : BotFactory := w.factories.getD f default

def modifyBot (w : World) (p : Nat) (g : Bot → Bot) : World :=
  { w with protocols := w.protocols.modify g p }

def modifyFactory (w : World) (f : Nat) (g : BotFactory → BotFactory) : World :=
  { w with factories := w.factories.modify g f }

def modifyAlloc (w : World) (g : BotAllocator → BotAllocator) : World :=
  { w with alloc := g w.alloc }

@[simp] theorem modifyBot_alloc (w : World) (p : Nat) (g : Bot → Bot) :
    (w.modifyBot p g).alloc = w.alloc := rfl

@[simp] theorem modifyBot_factories (w : World) (p : Nat) (g : Bot → Bot) :
    (w.modifyBot p g).factories = w.factories := rfl

@[simp] theorem length_modifyBot (w : World) (p : Nat) (g : Bot → Bot) :
    (w.modifyBot p g).protocols.length = w.protocols.length := List.length_modify _ _ _

@[simp] theorem modifyFactory_alloc (w : World) (f : Nat) (g : BotFactory → BotFactory) :
    (w.modifyFactory f g).alloc = w.alloc := rfl

@[simp] theorem modifyFactory_protocols (w : World) (f : Nat) (g : BotFactory → BotFactory) :
    (w.modifyFactory f g).protocols = w.protocols := rfl

@[simp] theorem length_modifyFactory (w : World) (f : Nat) (g : BotFactory → BotFactory) :
    (w.modifyFactory f g).factories.length = w.factories.length := List.length_modify _ _ _

@[simp] theorem modifyAlloc_alloc (w : World) (g : BotAllocator → BotAllocator) :
    (w.modifyAlloc g).alloc = g w.alloc := rfl

@[simp] theorem modifyAlloc_protocols (w : World) (g : BotAllocator → BotAllocator) :
    (w.modifyAlloc g).protocols = w.protocols := rfl

@[simp] theorem modifyAlloc_factories (w : World) (g : BotAllocator → BotAllocator) :
    (w.modifyAlloc g).factories = w.factories := rfl

theorem bot_push (w : World) (b : Bot) (q : Nat) :
    ({ w with protocols := w.protocols ++ [b] } : World).bot q =
      if q = w.protocols.length then b else w.bot q := by
  simp only [bot, List.getD_eq_getElem?_getD]
  rcases Nat.lt_trichotomy q w.protocols.length with h | rfl | h
  · simp [List.getElem?_append_left h, h.ne]
  · simp
  · simp [List.getElem?_eq_none (Nat.le_of_lt h), h.ne',
      List.getElem?_eq_none (show (w.protocols ++ [b]).length ≤ q by simpa using h)]

@[simp] theorem bot_modifyAlloc (w : World) (g : BotAllocator → BotAllocator) (p : Nat) :
    (w.modifyAlloc g).bot p = w.bot p := rfl

@[simp] theorem bot_modifyFactory (w : World) (f : Nat) (g : BotFactory → BotFactory) (p : Nat) :
    (w.modifyFactory f g).bot p = w.bot p := rfl

theorem bot_modifyBot (w : World) (p q : Nat) (g : Bot → Bot) :
    (w.modifyBot p g).bot q = if p = q ∧ q < w.protocols.length then g (w.bot q) else w.bot q := by
  simp only [bot, modifyBot, List.getD_eq_getElem?_getD, List.getElem?_modify]
  by_cases hq : q < w.protocols.length
  · by_cases hpq : p = q <;> simp [hq, hpq, List.getElem?_eq_getElem hq]
  · simp [hq, List.getElem?_eq_none (Nat.le_of_not_lt hq)]

@[simp] theorem bot_modifyBot_self (w : World) (p : Nat) (g : Bot → Bot)
    (hp : p < w.protocols.length) : (w.modifyBot p g).bot p = g (w.bot p) := by
  simp [bot_modifyBot, hp]

@[simp] theorem bot_modifyBot_ne (w : World) {p q : Nat} (g : Bot → Bot) (h : p ≠ q) :
    (w.modifyBot p g).bot q = w.bot q := by
  simp [bot_modifyBot, h]

theorem factory_modifyFactory (w : World) (f f' : Nat) (g : BotFactory → BotFactory) :
    (w.modifyFactory f g).factory f' =
      if f = f' ∧ f' < w.factories.length then g (w.factory f') else w.factory f' := by
  simp only [factory, modifyFactory, List.getD_eq_getElem?_getD, List.getElem?_modify]
  by_cases hf : f' < w.factories.length
  · by_cases hff : f = f' <;> simp [hf, hff, List.getElem?_eq_getElem hf]
  · simp [hf, List.getElem?_eq_none (Nat.le_of_not_lt hf)]

/-! ## What a bot and a factory do for the allocator -/

/-- `bot.join(channel)` sends `JOIN`. -/
def join (w : World) (p : Nat) (c : String) : World :=
  w.modifyBot p fun b => { b with joins := b.joins ++ [c] }

/-- `bot.leave(channel)` sends `PART`. -/
def leave (w : World) (p : Nat) (c : String) : World :=
  w.modifyBot p fun b => { b with parts := b.parts ++ [c] }

/-- `bot.quit()` sends `QUIT`. -/
def quit (w : World) (p : Nat) : World :=
  w.modifyBot p fun b => { b with quitSent := true }

/-- `BotFactory(self)`: a new factory, whose `connectTCP` starts connecting. -/
def botFactory (w : World) : World :=
  { w with factories := w.factories ++ [⟨true, true⟩] }

@[simp] theorem join_alloc (w : World) (p : Nat) (c : String) : (w.join p c).alloc = w.alloc := rfl

@[simp] theorem leave_alloc (w : World) (p : Nat) (c : String) : (w.leave p c).alloc = w.alloc := rfl

@[simp] theorem quit_alloc (w : World) (p : Nat) : (w.quit p).alloc = w.alloc := rfl

@[simp] theorem botFactory_alloc (w : World) : w.botFactory.alloc = w.alloc := rfl

@[simp] theorem botFactory_protocols (w : World) : w.botFactory.protocols = w.protocols := rfl

@[simp] theorem bot_botFactory (w : World) (p : Nat) : w.botFactory.bot p = w.bot p := rfl

@[simp] theorem length_botFactory (w : World) :
    w.botFactory.factories.length = w.factories.length + 1 := by
  simp [botFactory]

theorem factory_botFactory (w : World) {f : Nat} (hf : f < w.factories.length) :
    w.botFactory.factory f = w.factory f := by
  simp [botFactory, factory, List.getD_eq_getElem?_getD, List.getElem?_append_left hf]

@[simp] theorem factory_botFactory_self (w : World) :
    w.botFactory.factory w.factories.length = ⟨true, true⟩ := by
  simp [botFactory, factory, List.getD_eq_getElem?_getD]

/-! ## The allocator's methods -/

section Methods

variable (cfg : Config)

/-- One pass of `botConnected`'s loop: `bot.join(channel)`, then the channel moves from
`newBotRequests` to `existingBotRequests`. The loop walks a prefix of `newBotRequests`, so
`remove` always finds the channel (`foldl_joinQueued`). -/
def joinQueued (p : Nat) (w : World) (c : String) : World :=
  (w.join p c).modifyAlloc fun a => { a with
    existingBotRequests := a.existingBotRequests ++ [c]
    newBotRequests := a.newBotRequests.erase c }

theorem foldl_joinQueued (p : Nat) (xs ys : List String) (w : World)
    (h : w.alloc.newBotRequests = xs ++ ys) :
    (xs.foldl (joinQueued p) w).alloc = { w.alloc with
      existingBotRequests := w.alloc.existingBotRequests ++ xs, newBotRequests := ys } := by
  induction xs generalizing w with
  | nil => obtain ⟨⟨⟩, _, _⟩ := w; simp_all
  | cons x xs ih =>
    rw [List.foldl_cons, ih _ (by simp [joinQueued, h])]
    simp [joinQueued, List.append_assoc]

/-- `botConnected`: register the bot, hand it up to `channelsPerBot` queued channels, and start
one more bot if channels are still queued. -/
def botConnected (w : World) (p : Nat) : World :=
  let w := w.modifyAlloc fun a => { a with bots := setItem a.bots (w.bot p).nickname p }
  let w := (w.alloc.newBotRequests.take cfg.channelsPerBot).foldl (joinQueued p) w
  if w.alloc.newBotRequests = [] then w else w.botFactory

theorem bot_foldl_joinQueued (p : Nat) (xs : List String) (w : World) (q : Nat) :
    (xs.foldl (joinQueued p) w).bot q = if q = p ∧ p < w.protocols.length then
      { w.bot q with joins := (w.bot q).joins ++ xs } else w.bot q := by
  induction xs generalizing w with
  | nil => split_ifs <;> simp
  | cons x xs ih =>
    rw [List.foldl_cons, ih]
    by_cases hq : q = p ∧ p < w.protocols.length
    · obtain ⟨rfl, hp⟩ := hq
      simp [joinQueued, join, hp]
    · have hq' : ¬ (p = q ∧ q < w.protocols.length) := by
        rintro ⟨rfl, h⟩; exact hq ⟨rfl, h⟩
      simp [joinQueued, join, hq, hq', bot_modifyBot]

theorem length_foldl_joinQueued (p : Nat) (xs : List String) (w : World) :
    (xs.foldl (joinQueued p) w).protocols.length = w.protocols.length := by
  induction xs generalizing w with
  | nil => rfl
  | cons x xs ih => rw [List.foldl_cons, ih]; simp [joinQueued, join]

theorem botConnected_alloc (w : World) (p : Nat) :
    (w.botConnected cfg p).alloc = { w.alloc with
      bots := setItem w.alloc.bots (w.bot p).nickname p
      existingBotRequests :=
        w.alloc.existingBotRequests ++ w.alloc.newBotRequests.take cfg.channelsPerBot
      newBotRequests := w.alloc.newBotRequests.drop cfg.channelsPerBot } := by
  simp only [botConnected, apply_ite World.alloc, botFactory_alloc, ite_self]
  rw [foldl_joinQueued p _ (w.alloc.newBotRequests.drop cfg.channelsPerBot) _ (by simp)]
  rfl

theorem bot_botConnected (w : World) (p q : Nat) :
    (w.botConnected cfg p).bot q = if q = p ∧ p < w.protocols.length then
      { w.bot q with joins := (w.bot q).joins ++ w.alloc.newBotRequests.take cfg.channelsPerBot }
      else w.bot q := by
  simp only [botConnected, apply_ite (World.bot · q), bot_botFactory, ite_self,
    bot_foldl_joinQueued, modifyAlloc_protocols, bot_modifyAlloc, modifyAlloc_alloc]

theorem factories_foldl_joinQueued (p : Nat) (xs : List String) (w : World) :
    (xs.foldl (joinQueued p) w).factories = w.factories := by
  induction xs generalizing w with
  | nil => rfl
  | cons x xs ih => rw [List.foldl_cons, ih]; rfl

theorem factories_botConnected (w : World) (p : Nat) :
    (w.botConnected cfg p).factories =
      if w.alloc.newBotRequests.drop cfg.channelsPerBot = [] then w.factories
      else w.factories ++ [⟨true, true⟩] := by
  simp only [botConnected]
  rw [foldl_joinQueued p _ (w.alloc.newBotRequests.drop cfg.channelsPerBot) _ (by simp)]
  split_ifs <;> simp [factories_foldl_joinQueued, botFactory]

theorem length_botConnected (w : World) (p : Nat) :
    (w.botConnected cfg p).protocols.length = w.protocols.length := by
  simp only [botConnected, apply_ite (fun w : World => w.protocols.length), botFactory_protocols,
    ite_self, length_foldl_joinQueued, modifyAlloc_protocols]

/-- `botJoined`; `existingBotRequests.remove` raises `ValueError` for a channel not asked for. -/
def botJoined (w : World) (p : Nat) (c : String) : Option World :=
  (remove w.alloc.existingBotRequests c).map fun l =>
    w.modifyAlloc fun a => { a with existingBotRequests := l, channels := setItem a.channels c p }

theorem botJoined_eq_some {w w' : World} {p : Nat} {c : String} (h : w.botJoined p c = some w') :
    c ∈ w.alloc.existingBotRequests ∧ w' = w.modifyAlloc fun a => { a with
      existingBotRequests := a.existingBotRequests.erase c, channels := setItem a.channels c p } := by
  obtain ⟨l, hl, rfl⟩ := Option.map_eq_some'.mp h
  obtain ⟨hc, rfl⟩ := remove_eq_some hl
  exact ⟨hc, rfl⟩

@[simp] theorem botJoined_eq_none {w : World} {p : Nat} {c : String} :
    w.botJoined p c = none ↔ c ∉ w.alloc.existingBotRequests := by
  simp [botJoined]

/-- `botLeft`; `del self.channels[channel]` raises `KeyError` for a channel no bot is in. -/
def botLeft (w : World) (p : Nat) (c : String) : Option World :=
  (delItem w.alloc.channels c).map fun d =>
    let w := w.modifyAlloc fun a => { a with channels := d }
    if (w.bot p).channels = [] then w.quit p else w

theorem botLeft_eq_some {w w' : World} {p : Nat} {c : String} (h : w.botLeft p c = some w') :
    c ∈ keys w.alloc.channels ∧
      w'.alloc = { w.alloc with channels := w.alloc.channels.filter fun e => e.1 ≠ c } ∧
      w'.protocols.length = w.protocols.length ∧ w'.factories = w.factories := by
  obtain ⟨d, hd, rfl⟩ := Option.map_eq_some'.mp h
  obtain ⟨hc, rfl⟩ := delItem_eq_some hd
  refine ⟨hc, ?_⟩
  dsimp only
  split_ifs <;> simp [quit, modifyAlloc]

@[simp] theorem botLeft_eq_none {w : World} {p : Nat} {c : String} :
    w.botLeft p c = none ↔ c ∉ keys w.alloc.channels := by
  simp [botLeft]

/-- `botDisconnected`; `del self.bots[bot.nickname]` raises `KeyError` for a bot that is not
registered under its nickname. The loop over `self.channels.keys()` then deletes every channel
whose bot is this one. -/
def botDisconnected (w : World) (p : Nat) : Option World :=
  (delItem w.alloc.bots (w.bot p).nickname).map fun d =>
    w.modifyAlloc fun a => { a with bots := d, channels := a.channels.filter fun e => e.2 ≠ p }

theorem botDisconnected_eq_some {w w' : World} {p : Nat} (h : w.botDisconnected p = some w') :
    (w.bot p).nickname ∈ keys w.alloc.bots ∧ w' = w.modifyAlloc fun a => { a with
      bots := a.bots.filter (fun e => e.1 ≠ (w.bot p).nickname)
      channels := a.channels.filter fun e => e.2 ≠ p } := by
  obtain ⟨d, hd, rfl⟩ := Option.map_eq_some'.mp h
  obtain ⟨hc, rfl⟩ := delItem_eq_some hd
  exact ⟨hc, rfl⟩

/-- `nickInUse`: only the nicknames of registered bots count. -/
def nickInUse (a : BotAllocator) (nick : String) : Bool := hasKey a.bots nick

/-- The `while` loop of `allocateNick` from `sequence`, allowed `fuel` more tests. -/
def allocateNickFrom (a : BotAllocator) : Nat → Nat → Option String
  | 0, _ => none
  | fuel + 1, sequence =>
    if nickInUse a (cfg.nickFormat sequence) then allocateNickFrom a fuel (sequence + 1)
    else some (cfg.nickFormat sequence)

/-- `allocateNick`: the loop from `1`, allowed `len(bots) + 1` tests, which is enough for every
format that is injective on positive numbers. -/
def allocateNick (a : BotAllocator) : Option String :=
  allocateNickFrom cfg a (a.bots.length + 1) 1

theorem allocateNickFrom_congr {a a' : BotAllocator} (h : a.bots = a'.bots) (fuel s : Nat) :
    allocateNickFrom cfg a fuel s = allocateNickFrom cfg a' fuel s := by
  induction fuel generalizing s with
  | zero => rfl
  | succ n ih => simp [allocateNickFrom, nickInUse, h, ih]

theorem allocateNick_congr {a a' : BotAllocator} (h : a.bots = a'.bots) :
    allocateNick cfg a = allocateNick cfg a' := by
  rw [allocateNick, allocateNick, h]
  exact allocateNickFrom_congr cfg h _ _

/-- `addChannel`: the bot already in the channel, or `none` while the channel waits for one.
The first registered bot with room is sent a `JOIN`; with no room anywhere the channel is
queued for a new bot, which is started when the queue was empty. Python 2's
`bots.itervalues()` visits the bots in the dictionary's hash order; the model fixes one order,
that of registration. -/
def addChannel (w : World) (c : String) : Option Nat × World :=
  match getItem w.alloc.channels c with
  | some p => (some p, w)
  | none =>
    if c ∈ w.alloc.existingBotRequests then (none, w)
    else if c ∈ w.alloc.newBotRequests then (none, w)
    else match w.alloc.bots.find? fun e => (w.bot e.2).channels.length < cfg.channelsPerBot with
      | some e => (none, (w.join e.2 c).modifyAlloc fun a =>
          { a with existingBotRequests := a.existingBotRequests ++ [c] })
      | none =>
        let w := w.modifyAlloc fun a => { a with newBotRequests := a.newBotRequests ++ [c] }
        (none, if w.alloc.newBotRequests.length = 1 then w.botFactory else w)

theorem addChannel_of_managed {w : World} {c : String} (h : w.alloc.Managed c) :
    w.addChannel cfg c = (getItem w.alloc.channels c, w) := by
  unfold addChannel
  cases hc : getItem w.alloc.channels c with
  | some p => rfl
  | none =>
    rcases h with h | h | h
    · exact absurd h (getItem_eq_none.mp hc)
    · simp [h]
    · by_cases he : c ∈ w.alloc.existingBotRequests <;> simp [he, h]

/-- An unmanaged channel goes to the first registered bot with room. -/
theorem addChannel_of_room {w : World} {c : String} {e : String × Nat} (h : ¬ w.alloc.Managed c)
    (he : w.alloc.bots.find? (fun e => (w.bot e.2).channels.length < cfg.channelsPerBot) = some e) :
    w.addChannel cfg c = (none, (w.join e.2 c).modifyAlloc fun a =>
      { a with existingBotRequests := a.existingBotRequests ++ [c] }) := by
  simp only [BotAllocator.Managed, not_or] at h
  simp [addChannel, getItem_eq_none.mpr h.1, h.2.1, h.2.2, he]

/-- With no room anywhere, an unmanaged channel is queued for a new bot, which is started when
the queue was empty. -/
theorem addChannel_of_full {w : World} {c : String} (h : ¬ w.alloc.Managed c)
    (he : w.alloc.bots.find? (fun e => (w.bot e.2).channels.length < cfg.channelsPerBot) = none) :
    w.addChannel cfg c = (none,
      let w := w.modifyAlloc fun a => { a with newBotRequests := a.newBotRequests ++ [c] }
      if w.alloc.newBotRequests.length = 1 then w.botFactory else w) := by
  simp only [BotAllocator.Managed, not_or] at h
  simp [addChannel, getItem_eq_none.mpr h.1, h.2.1, h.2.2, he]

/-- The verdict of `addChannel` is the bot the channel is joined by, if any. -/
@[simp] theorem addChannel_fst (w : World) (c : String) :
    (w.addChannel cfg c).1 = getItem w.alloc.channels c := by
  by_cases h : w.alloc.Managed c
  · rw [addChannel_of_managed cfg h]
  · have hc : getItem w.alloc.channels c = none := getItem_eq_none.mpr fun hc => h (.inl hc)
    rw [hc]
    cases he : w.alloc.bots.find? fun e => (w.bot e.2).channels.length < cfg.channelsPerBot
    · rw [addChannel_of_full cfg h he]
    · rw [addChannel_of_room cfg h he]

/-- What `addChannel` does to the allocator: nothing to a managed channel, and an unmanaged one
goes to the end of one of the two queues. -/
theorem addChannel_alloc (w : World) (c : String) :
    (w.addChannel cfg c).2.alloc = w.alloc ∨ ¬ w.alloc.Managed c ∧
      ((w.addChannel cfg c).2.alloc =
          { w.alloc with existingBotRequests := w.alloc.existingBotRequests ++ [c] } ∨
        (w.addChannel cfg c).2.alloc =
          { w.alloc with newBotRequests := w.alloc.newBotRequests ++ [c] }) := by
  by_cases h : w.alloc.Managed c
  · exact .inl (by rw [addChannel_of_managed cfg h])
  · refine .inr ⟨h, ?_⟩
    cases he : w.alloc.bots.find? fun e => (w.bot e.2).channels.length < cfg.channelsPerBot
    · rw [addChannel_of_full cfg h he]; right; dsimp only; split_ifs <;> rfl
    · rw [addChannel_of_room cfg h he]; left; rfl

theorem managed_addChannel (w : World) (c : String) : (w.addChannel cfg c).2.alloc.Managed c := by
  by_cases h : w.alloc.Managed c
  · rwa [addChannel_of_managed cfg h]
  · cases he : w.alloc.bots.find? fun e => (w.bot e.2).channels.length < cfg.channelsPerBot
    · rw [addChannel_of_full cfg h he]; dsimp only; split_ifs <;> simp [BotAllocator.Managed]
    · rw [addChannel_of_room cfg h he]; simp [BotAllocator.Managed]

theorem addChannel_factories (w : World) (c : String) :
    (w.addChannel cfg c).2.factories = w.factories ∨
      (w.addChannel cfg c).2.factories = w.factories ++ [⟨true, true⟩] := by
  by_cases h : w.alloc.Managed c
  · exact .inl (by rw [addChannel_of_managed cfg h])
  · cases he : w.alloc.bots.find? fun e => (w.bot e.2).channels.length < cfg.channelsPerBot
    · rw [addChannel_of_full cfg h he]; dsimp only; split_ifs
      · exact .inr rfl
      · exact .inl rfl
    · rw [addChannel_of_room cfg h he]; exact .inl rfl

/-- `delChannel`: drop the channel from both queues, and have the bot in it leave. -/
def delChannel (w : World) (c : String) : World :=
  let w := w.modifyAlloc fun a => { a with
    existingBotRequests := (remove a.existingBotRequests c).getD a.existingBotRequests
    newBotRequests := (remove a.newBotRequests c).getD a.newBotRequests }
  match getItem w.alloc.channels c with
  | some p => w.leave p c
  | none => w

@[simp] theorem delChannel_alloc (w : World) (c : String) :
    (w.delChannel c).alloc = { w.alloc with
      existingBotRequests := w.alloc.existingBotRequests.erase c
      newBotRequests := w.alloc.newBotRequests.erase c } := by
  unfold delChannel
  dsimp only
  split <;> simp [modifyAlloc]

@[simp] theorem delChannel_factories (w : World) (c : String) :
    (w.delChannel c).factories = w.factories := by
  unfold delChannel; dsimp only; split <;> rfl

@[simp] theorem length_delChannel (w : World) (c : String) :
    (w.delChannel c).protocols.length = w.protocols.length := by
  unfold delChannel; dsimp only; split <;> simp [leave]

theorem delChannel_of_not_managed {w : World} {c : String} (h : ¬ w.alloc.Managed c) :
    w.delChannel c = w := by
  simp only [BotAllocator.Managed, not_or] at h
  simp [delChannel, remove, h.2.1, h.2.2, getItem_eq_none.mpr h.1, modifyAlloc]

theorem bot_delChannel_of_active {w : World} {c : String} {p : Nat}
    (ha : getItem w.alloc.channels c = some p) (hp : p < w.protocols.length) :
    (w.delChannel c).bot p = { w.bot p with parts := (w.bot p).parts ++ [c] } := by
  simp only [delChannel, modifyAlloc_alloc, ha, leave]
  simp [hp]

/-- `delChannel` changes a bot only by the `PART` it sends. -/
theorem bot_delChannel (w : World) (c : String) (q : Nat) :
    ∃ parts, (w.delChannel c).bot q = { w.bot q with parts := parts } := by
  unfold delChannel
  dsimp only
  split
  · rw [leave, bot_modifyBot]
    split_ifs
    · exact ⟨_, rfl⟩
    · exact ⟨(w.bot q).parts, rfl⟩
  · exact ⟨(w.bot q).parts, rfl⟩

/-- `msg`: the bot that sends the text; `self.channels[channel]` raises `KeyError` for a channel
no bot is in. -/
def msg (w : World) (c : String) : Option Nat := getItem w.alloc.channels c

end Methods

/-! ## The handlers of `Bot` and `BotFactory` -/

/-- What a handler leaves behind: the world, and the exception that escaped, if any. -/
abbrev Outcome := World × Option PyError

/-- Call an allocator method that raises `e` before any effect. -/
def catching (w : World) (e : PyError) : Option World → Outcome
  | some w' => (w', none)
  | none => (w, some e)

section Handlers

variable (cfg : Config)

/-- `Bot.connectionMade` on a new connection of factory `f`: a new bot, named by
`allocateNick`. -/
def connectionMade (w : World) (f : Nat) : Option World :=
  (allocateNick cfg w.alloc).map fun nick =>
    ({ w with protocols := w.protocols ++ [Bot.fresh nick f] }).modifyFactory f fun fa =>
      { fa with connecting := false }

theorem connectionMade_of_allocateNick {w : World} {f : Nat} {nick : String}
    (h : allocateNick cfg w.alloc = some nick) :
    w.connectionMade cfg f = some (({ w with protocols := w.protocols ++ [Bot.fresh nick f] }
      ).modifyFactory f fun fa => { fa with connecting := false }) := by
  simp [connectionMade, h]

/-- `Bot.signedOn`, once the server welcomed the bot. -/
def signedOn (w : World) (p : Nat) : World :=
  (w.modifyBot p fun b => { b with registered := true }).botConnected cfg p

/-- `Bot.joined`: record the channel, then `botJoined`. -/
def joined (w : World) (p : Nat) (c : String) : Outcome :=
  let w := w.modifyBot p fun b => { b with channels := b.channels ++ [c] }
  catching w .valueError (w.botJoined p c)

/-- `Bot.left`: forget the channel, turn reconnecting off after the last one, then `botLeft`. -/
def left (w : World) (p : Nat) (c : String) : Outcome :=
  match remove (w.bot p).channels c with
  | none => (w, some .valueError)
  | some l =>
    let w := w.modifyBot p fun b => { b with channels := l }
    let w := if l = [] then w.modifyFactory (w.bot p).factory fun fa => { fa with reconnect := false }
      else w
    catching w .keyError (w.botLeft p c)

/-- `BotFactory.clientConnectionLost`: connect again unless `reconnect` was turned off. -/
def clientConnectionLost (w : World) (f : Nat) : World :=
  if (w.factory f).reconnect then w.modifyFactory f fun fa => { fa with connecting := true } else w

/-- `Bot.connectionLost`, then the factory's `clientConnectionLost`. Twisted's connector calls the
factory only after the protocol's handler returned, so a `KeyError` from `botDisconnected` leaves
the factory without a connection. -/
def connectionLost (w : World) (p : Nat) : Outcome :=
  match w.botDisconnected p with
  | some w' => (w'.clientConnectionLost (w.bot p).factory, none)
  | none => (w, some .keyError)

theorem connectionMade_alloc {w w' : World} {f : Nat} (h : w.connectionMade cfg f = some w') :
    w'.alloc = w.alloc := by
  obtain ⟨_, -, rfl⟩ := Option.map_eq_some'.mp h
  rfl

/-- Signing on registers bot `p` and sends it its share of the queue. -/
theorem bot_signedOn (w : World) (p q : Nat) :
    (w.signedOn cfg p).bot q = if q = p ∧ p < w.protocols.length then { w.bot q with
      registered := true
      joins := (w.bot q).joins ++ w.alloc.newBotRequests.take cfg.channelsPerBot } else w.bot q := by
  rw [signedOn, bot_botConnected, length_modifyBot, modifyBot_alloc]
  by_cases hq : q = p ∧ p < w.protocols.length
  · obtain ⟨rfl, hp⟩ := hq; simp [hp]
  · rw [if_neg hq, if_neg hq, bot_modifyBot, if_neg (by rintro ⟨rfl, h⟩; exact hq ⟨rfl, h⟩)]

theorem signedOn_alloc (w : World) (p : Nat) :
    (w.signedOn cfg p).alloc = { w.alloc with
      bots := setItem w.alloc.bots (w.bot p).nickname p
      existingBotRequests :=
        w.alloc.existingBotRequests ++ w.alloc.newBotRequests.take cfg.channelsPerBot
      newBotRequests := w.alloc.newBotRequests.drop cfg.channelsPerBot } := by
  rw [signedOn, botConnected_alloc, bot_modifyBot]
  split_ifs <;> rfl

theorem signedOn_factories (w : World) (p : Nat) :
    (w.signedOn cfg p).factories = w.factories ∨
      (w.signedOn cfg p).factories = w.factories ++ [⟨true, true⟩] := by
  rw [signedOn, factories_botConnected]
  split_ifs
  · exact .inl rfl
  · exact .inr rfl

/-- `Bot.joined` leaves the allocator alone, or moves the channel from `existingBotRequests`
into `channels`. -/
theorem joined_alloc (w : World) (p : Nat) (c : String) :
    (w.joined p c).1.alloc = w.alloc ∨ c ∈ w.alloc.existingBotRequests ∧
      (w.joined p c).1.alloc = { w.alloc with
        existingBotRequests := w.alloc.existingBotRequests.erase c
        channels := setItem w.alloc.channels c p } := by
  unfold joined
  dsimp only
  cases h : botJoined (w.modifyBot p fun b => { b with channels := b.channels ++ [c] }) p c with
  | none => exact .inl rfl
  | some w' =>
    obtain ⟨hc, rfl⟩ := botJoined_eq_some h
    exact .inr ⟨hc, rfl⟩

theorem joined_of_not_mem {w : World} {p : Nat} {c : String}
    (h : c ∉ w.alloc.existingBotRequests) :
    w.joined p c = (w.modifyBot p fun b => { b with channels := b.channels ++ [c] }, some .valueError) := by
  unfold joined
  dsimp only
  rw [botJoined_eq_none.mpr (show c ∉ (w.modifyBot p _).alloc.existingBotRequests from h)]
  rfl

theorem joined_of_mem {w : World} {p : Nat} {c : String} (h : c ∈ w.alloc.existingBotRequests) :
    w.joined p c = ((w.modifyBot p fun b => { b with channels := b.channels ++ [c] }).modifyAlloc
      fun a => { a with existingBotRequests := a.existingBotRequests.erase c
                        channels := setItem a.channels c p }, none) := by
  unfold joined
  dsimp only
  rw [botJoined, remove, if_pos (show c ∈ (w.modifyBot p _).alloc.existingBotRequests from h)]
  rfl

theorem catching_botLeft_alloc (w : World) (p : Nat) (c : String) (e : PyError) :
    (catching w e (w.botLeft p c)).1.alloc = w.alloc ∨ c ∈ keys w.alloc.channels ∧
      (catching w e (w.botLeft p c)).1.alloc =
        { w.alloc with channels := w.alloc.channels.filter fun e => e.1 ≠ c } := by
  cases h : w.botLeft p c with
  | none => exact .inl rfl
  | some w' => exact .inr ⟨(botLeft_eq_some h).1, (botLeft_eq_some h).2.1⟩

/-- `Bot.left` leaves the allocator alone, or deletes the channel from `channels`. -/
theorem left_alloc (w : World) (p : Nat) (c : String) :
    (w.left p c).1.alloc = w.alloc ∨ c ∈ keys w.alloc.channels ∧
      (w.left p c).1.alloc = { w.alloc with channels := w.alloc.channels.filter fun e => e.1 ≠ c } := by
  unfold left
  split
  · exact .inl rfl
  · dsimp only
    split_ifs <;> exact catching_botLeft_alloc _ p c _

theorem left_alloc_of_mem {w : World} {p : Nat} {c : String} (hc : c ∈ (w.bot p).channels)
    (hk : c ∈ keys w.alloc.channels) :
    (w.left p c).1.alloc = { w.alloc with channels := w.alloc.channels.filter fun e => e.1 ≠ c } := by
  have hl (w' : World) (e : PyError) (hk' : c ∈ keys w'.alloc.channels) :
      (catching w' e (w'.botLeft p c)).1.alloc =
        { w'.alloc with channels := w'.alloc.channels.filter fun e => e.1 ≠ c } := by
    obtain ⟨w'', h⟩ := Option.ne_none_iff_exists'.mp (mt botLeft_eq_none.mp (not_not.mpr hk'))
    rw [h]; exact (botLeft_eq_some h).2.1
  unfold left
  rw [remove, if_pos hc]
  dsimp only
  split_ifs <;> exact hl _ _ hk

theorem joined_protocols (w : World) (p : Nat) (c : String) : (w.joined p c).1.protocols =
    (w.modifyBot p fun b => { b with channels := b.channels ++ [c] }).protocols := by
  unfold joined
  dsimp only
  cases h : botJoined (w.modifyBot p fun b => { b with channels := b.channels ++ [c] }) p c with
  | none => rfl
  | some w' => obtain ⟨-, rfl⟩ := botJoined_eq_some h; rfl

@[simp] theorem joined_factories (w : World) (p : Nat) (c : String) :
    (w.joined p c).1.factories = w.factories := by
  unfold joined
  dsimp only
  cases h : botJoined (w.modifyBot p fun b => { b with channels := b.channels ++ [c] }) p c with
  | none => rfl
  | some w' => obtain ⟨-, rfl⟩ := botJoined_eq_some h; rfl

theorem bot_catching_botLeft (w : World) (p : Nat) (c : String) (e : PyError) (q : Nat) :
    ∃ quit, (catching w e (w.botLeft p c)).1.bot q = { w.bot q with quitSent := quit } := by
  cases h : w.botLeft p c with
  | none => exact ⟨_, rfl⟩
  | some w' =>
    obtain ⟨d, -, rfl⟩ := Option.map_eq_some'.mp h
    dsimp only [catching]
    split_ifs
    · rw [quit, bot_modifyBot]; split_ifs <;> exact ⟨_, rfl⟩
    · exact ⟨_, rfl⟩

theorem bot_left (w : World) (p : Nat) (c : String) (q : Nat) : ∃ chans quit,
    (w.left p c).1.bot q = { w.bot q with channels := chans, quitSent := quit } := by
  unfold left
  split
  · exact ⟨_, _, rfl⟩
  · rename_i l _
    have hl : ∃ chans, (w.modifyBot p fun b => { b with channels := l }).bot q =
        { w.bot q with channels := chans } := by
      rw [bot_modifyBot]; split_ifs <;> exact ⟨_, rfl⟩
    obtain ⟨chans, hl⟩ := hl
    dsimp only
    split_ifs
    · obtain ⟨quit, h⟩ := bot_catching_botLeft (World.modifyFactory _ _ _) p c .keyError q
      exact ⟨chans, quit, by rw [h, bot_modifyFactory, hl]⟩
    · obtain ⟨quit, h⟩ := bot_catching_botLeft (w.modifyBot p fun b => { b with channels := l }) p c
        .keyError q
      exact ⟨chans, quit, by rw [h, hl]⟩

theorem channels_catching_botLeft (w : World) (p : Nat) (c : String) (e : PyError) (q : Nat) :
    ((catching w e (w.botLeft p c)).1.bot q).channels = (w.bot q).channels := by
  obtain ⟨quit, h⟩ := bot_catching_botLeft w p c e q
  rw [h]

theorem channels_left (w : World) (p : Nat) (c : String) (q : Nat) :
    ((w.left p c).1.bot q).channels =
      if p = q then (w.bot q).channels.erase c else (w.bot q).channels := by
  unfold left
  split
  · rename_i h
    split_ifs with hpq
    · subst hpq; exact (List.erase_of_not_mem (remove_eq_none.mp h)).symm
    · rfl
  · rename_i l h
    obtain ⟨-, rfl⟩ := remove_eq_some h
    have hl : ((w.modifyBot p fun b => { b with channels := (w.bot p).channels.erase c }).bot q
        ).channels = if p = q then (w.bot q).channels.erase c else (w.bot q).channels := by
      rw [bot_modifyBot]
      split_ifs with h₁ h₂ h₂
      · obtain ⟨rfl, -⟩ := h₁; rfl
      · exact absurd h₁.1 h₂
      · subst h₂
        have hd : w.bot p = default := by
          simp [bot, List.getD_eq_getElem?_getD,
            List.getElem?_eq_none (Nat.le_of_not_lt fun hq => h₁ ⟨rfl, hq⟩)]
        rw [hd]; rfl
      · rfl
    dsimp only
    by_cases hl0 : (w.bot p).channels.erase c = []
    · rw [if_pos hl0, channels_catching_botLeft, bot_modifyFactory, hl]
    · rw [if_neg hl0, channels_catching_botLeft, hl]

theorem length_left (w : World) (p : Nat) (c : String) :
    (w.left p c).1.protocols.length = w.protocols.length := by
  unfold left
  split
  · rfl
  · dsimp only
    split_ifs <;>
    · cases h : World.botLeft _ p c with
      | none => simp [catching]
      | some w' => simp [catching, (botLeft_eq_some h).2.2.1]

theorem left_factories (w : World) (p : Nat) (c : String) :
    (w.left p c).1.factories = w.factories ∨ (w.left p c).1.factories =
      w.factories.modify (fun fa => { fa with reconnect := false }) (w.bot p).factory := by
  have hl (w' : World) (e : PyError) : (catching w' e (w'.botLeft p c)).1.factories = w'.factories := by
    cases h : w'.botLeft p c with
    | none => rfl
    | some w'' => exact (botLeft_eq_some h).2.2.2
  unfold left
  split
  · exact .inl rfl
  · rename_i l _
    dsimp only
    split_ifs
    · have hf : ((w.modifyBot p fun b => { b with channels := l }).bot p).factory = (w.bot p).factory := by
        rw [bot_modifyBot]; split_ifs <;> rfl
      exact .inr (by rw [hl, modifyFactory, hf]; rfl)
    · exact .inl (hl _ _)

@[simp] theorem clientConnectionLost_alloc (w : World) (f : Nat) :
    (w.clientConnectionLost f).alloc = w.alloc := by
  unfold clientConnectionLost; split_ifs <;> rfl

@[simp] theorem connectionLost_protocols (w : World) (p : Nat) :
    (w.connectionLost p).1.protocols = w.protocols := by
  unfold connectionLost
  cases h : w.botDisconnected p with
  | none => rfl
  | some w' =>
    obtain ⟨-, rfl⟩ := botDisconnected_eq_some h
    dsimp only
    unfold clientConnectionLost; split_ifs <;> rfl

theorem connectionLost_alloc (w : World) (p : Nat) :
    (w.connectionLost p).1.alloc = w.alloc ∨ (w.connectionLost p).1.alloc = { w.alloc with
      bots := w.alloc.bots.filter fun e => e.1 ≠ (w.bot p).nickname
      channels := w.alloc.channels.filter fun e => e.2 ≠ p } := by
  unfold connectionLost
  cases h : w.botDisconnected p with
  | none => exact .inl rfl
  | some w' =>
    obtain ⟨-, rfl⟩ := botDisconnected_eq_some h
    exact .inr (by simp [modifyAlloc])

theorem connectionLost_alloc_of_mem {w : World} {p : Nat}
    (h : (w.bot p).nickname ∈ keys w.alloc.bots) :
    (w.connectionLost p).1.alloc = { w.alloc with
      bots := w.alloc.bots.filter fun e => e.1 ≠ (w.bot p).nickname
      channels := w.alloc.channels.filter fun e => e.2 ≠ p } := by
  simp [connectionLost, botDisconnected, delItem, h, modifyAlloc]

theorem connectionLost_factories (w : World) (p : Nat) :
    (w.connectionLost p).1.factories = w.factories ∨ (w.connectionLost p).1.factories =
      w.factories.modify (fun fa => { fa with connecting := true }) (w.bot p).factory := by
  unfold connectionLost
  cases h : w.botDisconnected p with
  | none => exact .inl rfl
  | some w' =>
    obtain ⟨-, rfl⟩ := botDisconnected_eq_some h
    dsimp only
    unfold clientConnectionLost
    split_ifs
    · exact .inr rfl
    · exact .inl rfl

end Handlers

end World

end BotDaemon
