import BotDaemon.Allocator

/-!
# The reactor

Twisted runs everything on one loop: an XML-RPC call, or one callback from an IRC server or a
connector, runs to its end before the next one starts. A run of one allocator is a sequence of
`Event`s, each a call of `addChannel` or `delChannel`, or a `Callback`.

`deliver` says what the environment may do next. A connecting factory may get its connection;
the server may welcome a connected bot once, answer any `JOIN` or `PART` a connected bot sent
and has not had answered, and drop a connection at any time. A bot that has sent `QUIT` gets
no more answers: the server closes its connection, and the only callback left for it is
`connectionLost`. The server answers with the channel name the bot sent, and never renames a
bot: its nickname stays the one `connectionMade` gave it. Twisted logs an exception that escapes
a handler and carries on, so the world after a callback is the world its handler left behind.

**Theorem (`step_alloc`).** Every step does one of the few things `AllocStep` lists to the
allocator's dictionaries and queues; the invariants of the allocator are proved from that list.
-/

namespace BotDaemon

/-- What the IRC server and the reactor deliver. -/
inductive Callback
  | connectionMade (factory : Nat)
  | signedOn (bot : Nat)
  | joined (bot : Nat) (channel : String)
  | left (bot : Nat) (channel : String)
  | connectionLost (bot : Nat)
deriving DecidableEq, Repr

/-- One step of a run: a control call, or a callback. -/
inductive Event
  | addChannel (channel : String)
  | delChannel (channel : String)
  | callback (cb : Callback)
deriving DecidableEq, Repr

namespace World

/-- Bot `p` exists and is still connected. -/
def Live (w : World) (p : Nat) : Prop := p < w.protocols.length ∧ (w.bot p).connected = true

instance (w : World) (p : Nat) : Decidable (w.Live p) := inferInstanceAs (Decidable (_ ∧ _))

/-- The server answers one of bot `p`'s `JOIN`s for `c`. -/
def answerJoin (w : World) (p : Nat) (c : String) : World :=
  w.modifyBot p fun b => { b with joins := b.joins.erase c }

/-- The server answers one of bot `p`'s `PART`s for `c`. -/
def answerPart (w : World) (p : Nat) (c : String) : World :=
  w.modifyBot p fun b => { b with parts := b.parts.erase c }

/-- Bot `p`'s connection closes. -/
def disconnect (w : World) (p : Nat) : World :=
  w.modifyBot p fun b => { b with connected := false }

@[simp] theorem answerJoin_alloc (w : World) (p : Nat) (c : String) :
    (w.answerJoin p c).alloc = w.alloc := rfl

@[simp] theorem answerPart_alloc (w : World) (p : Nat) (c : String) :
    (w.answerPart p c).alloc = w.alloc := rfl

@[simp] theorem disconnect_alloc (w : World) (p : Nat) : (w.disconnect p).alloc = w.alloc := rfl

variable (cfg : Config)

/-- Deliver a callback: `none` when it cannot come in `w`. -/
def deliver (w : World) : Callback → Option Outcome
  | .connectionMade f =>
    if f < w.factories.length ∧ (w.factory f).connecting = true then
      (w.connectionMade cfg f).map fun w' => (w', none)
    else none
  | .signedOn p =>
    if w.Live p ∧ (w.bot p).registered = false then some (w.signedOn cfg p, none) else none
  | .joined p c =>
    if w.Live p ∧ (w.bot p).quitSent = false ∧ c ∈ (w.bot p).joins then
      some ((w.answerJoin p c).joined p c)
    else none
  | .left p c =>
    if w.Live p ∧ (w.bot p).quitSent = false ∧ c ∈ (w.bot p).parts then
      some ((w.answerPart p c).left p c)
    else none
  | .connectionLost p => if w.Live p then some ((w.disconnect p).connectionLost p) else none

/-- One step of the reactor, `none` when the event cannot happen. -/
def step (w : World) : Event → Option World
  | .addChannel c => some (w.addChannel cfg c).2
  | .delChannel c => some (w.delChannel c)
  | .callback cb => (w.deliver cfg cb).map Prod.fst

/-! ### What each callback does when it comes -/

theorem deliver_connectionMade {w : World} {f : Nat} {o : Outcome}
    (h : w.deliver cfg (.connectionMade f) = some o) :
    f < w.factories.length ∧ (w.factory f).connecting = true ∧
      ∃ w', w.connectionMade cfg f = some w' ∧ o = (w', none) := by
  simp only [deliver] at h
  split_ifs at h with hf
  obtain ⟨w', hw', rfl⟩ := Option.map_eq_some'.mp h
  exact ⟨hf.1, hf.2, w', hw', rfl⟩

theorem deliver_signedOn {w : World} {p : Nat} {o : Outcome}
    (h : w.deliver cfg (.signedOn p) = some o) :
    w.Live p ∧ (w.bot p).registered = false ∧ o = (w.signedOn cfg p, none) := by
  simp only [deliver] at h
  split_ifs at h with hp
  exact ⟨hp.1, hp.2, (Option.some.inj h).symm⟩

theorem deliver_joined {w : World} {p : Nat} {c : String} {o : Outcome}
    (h : w.deliver cfg (.joined p c) = some o) :
    w.Live p ∧ c ∈ (w.bot p).joins ∧ o = (w.answerJoin p c).joined p c := by
  simp only [deliver] at h
  split_ifs at h with hp
  exact ⟨hp.1, hp.2.2, (Option.some.inj h).symm⟩

theorem deliver_left {w : World} {p : Nat} {c : String} {o : Outcome}
    (h : w.deliver cfg (.left p c) = some o) :
    w.Live p ∧ c ∈ (w.bot p).parts ∧ o = (w.answerPart p c).left p c := by
  simp only [deliver] at h
  split_ifs at h with hp
  exact ⟨hp.1, hp.2.2, (Option.some.inj h).symm⟩

theorem deliver_connectionLost {w : World} {p : Nat} {o : Outcome}
    (h : w.deliver cfg (.connectionLost p) = some o) :
    w.Live p ∧ o = (w.disconnect p).connectionLost p := by
  simp only [deliver] at h
  split_ifs at h with hp
  exact ⟨hp, (Option.some.inj h).symm⟩

theorem step_callback {w w' : World} {cb : Callback} (h : w.step cfg (.callback cb) = some w') :
    ∃ o, w.deliver cfg cb = some o ∧ o.1 = w' := by
  obtain ⟨o, ho, rfl⟩ := Option.map_eq_some'.mp h
  exact ⟨o, ho, rfl⟩

end World

open BotAllocator in
/-- What one step can do to the allocator: `addChannel` queues an unmanaged channel,
`delChannel` takes one out of both queues, `botConnected` moves a prefix of `newBotRequests`,
`botJoined` confirms a requested channel, and `botLeft` and `botDisconnected` only delete. -/
inductive AllocStep (cfg : Config) (a : BotAllocator) : BotAllocator → Prop
  | same : AllocStep cfg a a
  | pushExisting (c : String) : ¬ a.Managed c →
      AllocStep cfg a { a with existingBotRequests := a.existingBotRequests ++ [c] }
  | pushNew (c : String) : ¬ a.Managed c →
      AllocStep cfg a { a with newBotRequests := a.newBotRequests ++ [c] }
  | erase (c : String) : AllocStep cfg a { a with
      existingBotRequests := a.existingBotRequests.erase c
      newBotRequests := a.newBotRequests.erase c }
  | drain (bots : List (String × Nat)) : AllocStep cfg a { a with
      bots := bots
      existingBotRequests := a.existingBotRequests ++ a.newBotRequests.take cfg.channelsPerBot
      newBotRequests := a.newBotRequests.drop cfg.channelsPerBot }
  | confirm (c : String) (p : Nat) : c ∈ a.existingBotRequests → AllocStep cfg a { a with
      existingBotRequests := a.existingBotRequests.erase c
      channels := setItem a.channels c p }
  | shrink (bots d : List (String × Nat)) : (∀ x ∈ keys d, x ∈ keys a.channels) →
      AllocStep cfg a { a with bots := bots, channels := d }

namespace World

variable (cfg : Config)

/-- Every step of the reactor is an `AllocStep` of the allocator. -/
theorem step_alloc {w w' : World} {e : Event} (hs : w.step cfg e = some w') :
    AllocStep cfg w.alloc w'.alloc := by
  cases e with
  | addChannel c =>
    cases hs
    rcases addChannel_alloc cfg w c with h | ⟨hc, h | h⟩ <;> rw [h]
    · exact .same
    · exact .pushExisting c hc
    · exact .pushNew c hc
  | delChannel c => cases hs; rw [delChannel_alloc]; exact .erase c
  | callback cb =>
    obtain ⟨o, ho, rfl⟩ := step_callback cfg hs
    cases cb with
    | connectionMade f =>
      obtain ⟨-, -, w₁, hw₁, rfl⟩ := deliver_connectionMade cfg ho
      rw [connectionMade_alloc cfg hw₁]; exact .same
    | signedOn p =>
      obtain ⟨-, -, rfl⟩ := deliver_signedOn cfg ho
      rw [signedOn_alloc]; exact .drain _
    | joined p c =>
      obtain ⟨-, -, rfl⟩ := deliver_joined cfg ho
      rcases joined_alloc (w.answerJoin p c) p c with h | ⟨hc, h⟩ <;> rw [h]
      · exact .same
      · exact .confirm c p hc
    | left p c =>
      obtain ⟨-, -, rfl⟩ := deliver_left cfg ho
      rcases left_alloc (w.answerPart p c) p c with h | ⟨-, h⟩ <;> rw [h]
      · exact .same
      · exact .shrink _ _ fun x hx => mem_keys_filter hx
    | connectionLost p =>
      obtain ⟨-, rfl⟩ := deliver_connectionLost cfg ho
      rcases connectionLost_alloc (w.disconnect p) p with h | h <;> rw [h]
      · exact .same
      · exact .shrink _ _ fun x hx => mem_keys_filter hx

end World

/-- The worlds an allocator reaches from its construction. -/
inductive Reachable (cfg : Config) : World → Prop
  | init (server : String × Nat) : Reachable cfg (World.init server)
  | step {w w' : World} {e : Event} : Reachable cfg w → w.step cfg e = some w' → Reachable cfg w'

/-- The server of the source's test block. -/
def freenode : String × Nat := ("irc.freenode.net", 6667)

/-- Run events one after the other. -/
def run (cfg : Config) (w : World) : List Event → Option World
  | [] => some w
  | e :: es => (w.step cfg e).bind fun w' => run cfg w' es

@[simp] theorem run_nil (cfg : Config) (w : World) : run cfg w [] = some w := rfl

theorem run_append (cfg : Config) (w : World) (es es' : List Event) :
    run cfg w (es ++ es') = (run cfg w es).bind fun w' => run cfg w' es' := by
  induction es generalizing w with
  | nil => rfl
  | cons e es ih =>
    simp only [List.cons_append, run]
    cases w.step cfg e <;> simp [ih]

theorem Reachable.run {cfg : Config} {w w' : World} {es : List Event} (h : Reachable cfg w)
    (hr : BotDaemon.run cfg w es = some w') : Reachable cfg w' := by
  induction es generalizing w with
  | nil => cases hr; exact h
  | cons e es ih =>
    simp only [BotDaemon.run, Option.bind_eq_some] at hr
    obtain ⟨w₁, h₁, hr⟩ := hr
    exact ih (h.step h₁) hr

/-- A run that ends where the check `ok` passes gives a reachable world that passes it. -/
theorem Reachable.of_run {cfg : Config} {w : World} (es : List Event) (ok : World → Bool)
    (h : Reachable cfg w) (hr : (BotDaemon.run cfg w es).map ok = some true) :
    ∃ w', Reachable cfg w' ∧ ok w' = true := by
  cases hw : BotDaemon.run cfg w es with
  | none => simp [hw] at hr
  | some w' => exact ⟨w', h.run hw, by simpa [hw] using hr⟩

end BotDaemon
