import BotDaemon.Wanted
import BotDaemon.Controller

/-!
# Only channels the caller added

**Theorem (`mentions_requested`).** In every run of the controller, every channel that one of its
allocators manages, or that a bot of the allocator is in or was sent a `JOIN` or `PART` for, was
added on that allocator's server by an `xmlrpc_addChannel` of the run. This holds of every
allocator the controller created, also of one that `xmlrpc_delChannel` dropped from `servers`
(`delChannel_orphans`). So `xmlrpc_getChannels`, `xmlrpc_getBotChannels` and `xmlrpc_msg` report
only channels added on the server asked about, and no bot is ever sent into a channel that was
asked for on another server, or not asked for at all.

One step of an allocator brings up a channel only when it is `addChannel` of that channel
(`mentions_of_step`): `botConnected` sends `JOIN`s for channels in `newBotRequests`, `Bot.joined`
records a channel the bot had a `JOIN` for, `delChannel` sends a `PART` only for a channel in
`channels`, and the other updates only delete. Each controller step is one step of one allocator,
whose server never changes (`step_server`), or it creates an allocator that brings up nothing.
-/

namespace BotDaemon

/-- Bot `b` is in channel `c`, or has a `JOIN` or `PART` for it outstanding. -/
def Bot.Mentions (b : Bot) (c : String) : Prop := c ∈ b.joins ∨ c ∈ b.channels ∨ c ∈ b.parts

instance (b : Bot) (c : String) : Decidable (b.Mentions c) :=
  inferInstanceAs (Decidable (_ ∨ _ ∨ _))

namespace World

/-- The allocator manages `c`, or one of its bots mentions it. -/
def Mentions (w : World) (c : String) : Prop := w.alloc.Managed c ∨ ∃ q, (w.bot q).Mentions c

theorem not_mentions_init (server : String × Nat) (c : String) :
    ¬ (World.init server).Mentions c := by
  rintro (hm | ⟨q, hq⟩)
  · simp [World.init, BotAllocator.Managed] at hm
  · rcases hq with hq | hq | hq <;> exact absurd hq (List.not_mem_nil c)

theorem mem_parts_delChannel {w : World} {d c : String} {q : Nat}
    (hc : c ∈ ((w.delChannel d).bot q).parts) :
    c ∈ (w.bot q).parts ∨ c = d ∧ d ∈ keys w.alloc.channels := by
  unfold delChannel at hc
  dsimp only at hc
  split at hc
  · rename_i p hp
    rw [leave, bot_modifyBot] at hc
    split_ifs at hc
    · rcases List.mem_append.mp hc with hc | hc
      · exact .inl hc
      · exact .inr ⟨List.mem_singleton.mp hc, mem_keys.mpr ⟨p, getItem_eq_some hp⟩⟩
    · exact .inl hc
  · exact .inl hc

variable (cfg : Config)

theorem bot_mentions_of_step {w w' : World} {e : Event} (hs : w.step cfg e = some w')
    {c : String} (he : e ≠ .addChannel c) {q : Nat} (hc : (w'.bot q).Mentions c) :
    w.Mentions c := by
  cases e with
  | addChannel d =>
    cases hs
    have hd : c ≠ d := fun h => he (h ▸ rfl)
    by_cases hm : w.alloc.Managed d
    · rw [addChannel_of_managed cfg hm] at hc; exact .inr ⟨q, hc⟩
    · cases hf : w.alloc.bots.find? fun e => (w.bot e.2).channels.length < cfg.channelsPerBot with
      | some f =>
        rw [addChannel_of_room cfg hm hf, bot_modifyAlloc, join, bot_modifyBot] at hc
        split_ifs at hc
        · exact .inr ⟨q, by simpa [Bot.Mentions, hd] using hc⟩
        · exact .inr ⟨q, hc⟩
      | none =>
        rw [addChannel_of_full cfg hm hf] at hc
        dsimp only at hc
        split_ifs at hc <;> exact .inr ⟨q, hc⟩
  | delChannel d =>
    cases hs
    obtain ⟨parts, hb⟩ := bot_delChannel w d q
    rcases hc with hc | hc | hc
    · rw [hb] at hc; exact .inr ⟨q, .inl hc⟩
    · rw [hb] at hc; exact .inr ⟨q, .inr (.inl hc)⟩
    · rcases mem_parts_delChannel hc with hc | ⟨rfl, hk⟩
      · exact .inr ⟨q, .inr (.inr hc)⟩
      · exact .inl (.inl hk)
  | callback cb =>
    obtain ⟨o, ho, rfl⟩ := step_callback cfg hs
    cases cb with
    | connectionMade f =>
      obtain ⟨-, -, w₁, hw₁, rfl⟩ := deliver_connectionMade cfg ho
      obtain ⟨nick, -, rfl⟩ := Option.map_eq_some'.mp hw₁
      rw [bot_modifyFactory, bot_push] at hc
      split_ifs at hc
      · simp [Bot.fresh, Bot.Mentions] at hc
      · exact .inr ⟨q, hc⟩
    | signedOn p =>
      obtain ⟨-, -, rfl⟩ := deliver_signedOn cfg ho
      rw [bot_signedOn] at hc
      split_ifs at hc
      · rcases hc with hc | hc
        · rcases List.mem_append.mp hc with hc | hc
          · exact .inr ⟨q, .inl hc⟩
          · exact .inl (.inr (.inr (List.mem_of_mem_take hc)))
        · exact .inr ⟨q, .inr hc⟩
      · exact .inr ⟨q, hc⟩
    | joined p d =>
      obtain ⟨-, hd, rfl⟩ := deliver_joined cfg ho
      simp only [bot_joined, answerJoin, bot_modifyBot, length_modifyBot] at hc
      split_ifs at hc with hq
      · obtain ⟨rfl, -⟩ := hq
        rcases hc with hc | hc | hc
        · exact .inr ⟨p, .inl (List.mem_of_mem_erase hc)⟩
        · rcases List.mem_append.mp hc with hc | hc
          · exact .inr ⟨p, .inr (.inl hc)⟩
          · exact .inr ⟨p, .inl (List.mem_singleton.mp hc ▸ hd)⟩
        · exact .inr ⟨p, .inr (.inr hc)⟩
      · exact .inr ⟨q, hc⟩
    | left p d =>
      obtain ⟨-, -, rfl⟩ := deliver_left cfg ho
      set w₁ := w.answerPart p d
      have h₁ : (w₁.bot q).joins = (w.bot q).joins ∧ (w₁.bot q).channels = (w.bot q).channels ∧
          (w₁.bot q).parts ⊆ (w.bot q).parts := by
        simp only [w₁, answerPart, bot_modifyBot]
        split_ifs
        · exact ⟨rfl, rfl, List.erase_subset _ _⟩
        · exact ⟨rfl, rfl, List.Subset.refl _⟩
      have hch : ((w₁.left p d).1.bot q).channels ⊆ (w₁.bot q).channels := by
        rw [channels_left]
        split_ifs
        · exact List.erase_subset _ _
        · exact List.Subset.refl _
      obtain ⟨chans, quit, hb⟩ := bot_left w₁ p d q
      refine .inr ⟨q, ?_⟩
      rcases hc with hc | hc | hc
      · rw [hb] at hc; exact .inl (by rw [← h₁.1]; exact hc)
      · exact .inr (.inl (by rw [← h₁.2.1]; exact hch hc))
      · rw [hb] at hc; exact .inr (.inr (h₁.2.2 hc))
    | connectionLost p =>
      obtain ⟨-, rfl⟩ := deliver_connectionLost cfg ho
      rw [bot_connectionLost, bot_disconnect] at hc
      exact .inr ⟨q, hc⟩

/-- A step other than `addChannel c` brings up `c` only if the world mentioned it. -/
theorem mentions_of_step {w w' : World} {e : Event} (hs : w.step cfg e = some w') {c : String}
    (he : e ≠ .addChannel c) (hc : w'.Mentions c) : w.Mentions c :=
  hc.elim (fun hm => .inl (managed_of_step cfg hs he hm)) fun ⟨_, hq⟩ =>
    bot_mentions_of_step cfg hs he hq

end World

namespace BotController

/-- Every channel an allocator mentions was added on its server by one of `as`. -/
def Requested (as : List Action) (ctl : BotController) : Prop :=
  ∀ i < ctl.allocators.length, ∀ c, (ctl.allocator i).Mentions c →
    Action.addChannel (ctl.allocator i).server c ∈ as

namespace Requested

variable {cfg : Config} {as as' : List Action} {ctl : BotController}

theorem mono (h : Requested as ctl) (has : as ⊆ as') : Requested as' ctl :=
  fun i hi c hm => has (h i hi c hm)

theorem step_allocator (h : Requested as ctl) (has : as ⊆ as') {i : Nat} {e : Event} {w : World}
    (hi : i < ctl.allocators.length) (he : (ctl.allocator i).step cfg e = some w)
    (hadd : ∀ c, e = .addChannel c → Action.addChannel (ctl.allocator i).server c ∈ as') :
    Requested as' (ctl.setAllocator i w) := by
  intro j hj c hm
  rw [allocator_setAllocator _ _ _ hi] at hm ⊢
  split_ifs at hm ⊢ with hij
  · subst hij
    rw [World.step_server cfg he]
    by_cases hec : e = .addChannel c
    · exact hadd c hec
    · exact has (h i hi c (World.mentions_of_step cfg he hec hm))
  · exact has (h j (by simpa using hj) c hm)

theorem ensureAllocator (h : Requested as ctl) (server : String × Nat) :
    Requested as (ctl.ensureAllocator server) := by
  unfold BotController.ensureAllocator
  split_ifs
  · exact h
  intro j hj c hm
  rcases Nat.lt_succ_iff_lt_or_eq.mp (by simpa using hj) with hj | rfl
  · rw [allocator_push_lt _ _ _ hj] at hm ⊢
    exact h j hj c hm
  · rw [allocator_push_self] at hm
    exact absurd hm (World.not_mentions_init server c)

end Requested

/-- Every step of a sound controller keeps `Requested`, with the step added to the history. -/
theorem step_requested {cfg : Config} {as : List Action} {ctl ctl' : BotController} {a : Action}
    (hs : Sound cfg ctl) (h : Requested as ctl) (hst : ctl.step cfg a = some ctl') :
    Requested (as ++ [a]) ctl' := by
  have has : as ⊆ as ++ [a] := List.subset_append_left _ _
  cases a with
  | addChannel s c =>
    cases hst
    obtain ⟨hs', i, hi⟩ := hs.ensureAllocator s
    obtain ⟨hlt, hserv⟩ := hs'.servers_allocator s i hi
    simp only [xmlrpcAddChannel, hi, Option.getD_some]
    refine (h.ensureAllocator s).step_allocator has hlt
      (show ((ctl.ensureAllocator s).allocator i).step cfg (.addChannel c) = some _ from rfl)
      fun d hd => ?_
    cases hd
    rw [hserv]
    exact List.mem_append_right _ (List.mem_singleton_self _)
  | delChannel s c =>
    cases hst
    cases hi : getItem ctl.servers s with
    | none => simpa [xmlrpcDelChannel, hi] using h.mono has
    | some i =>
      have h' := h.step_allocator has (hs.servers_allocator s i hi).1
        (show (ctl.allocator i).step cfg (.delChannel c) = some _ from rfl) fun d hd => by cases hd
      simp only [xmlrpcDelChannel, hi, Option.map_some', Option.getD_some]
      split_ifs <;> exact h'
  | callback i cb =>
    simp only [step] at hst
    split_ifs at hst with hi
    obtain ⟨w, hw, rfl⟩ := Option.map_eq_some'.mp hst
    exact h.step_allocator has hi hw fun d hd => by cases hd

theorem run_requested {cfg : Config} {as as' : List Action} {ctl ctl' : BotController}
    (hs : Sound cfg ctl) (h : Requested as ctl) (hr : ctl.run cfg as' = some ctl') :
    Requested (as ++ as') ctl' := by
  induction as' generalizing ctl as with
  | nil => cases hr; simpa using h
  | cons a as' ih =>
    obtain ⟨ctl₁, h₁, hr⟩ := Option.bind_eq_some.mp hr
    simpa using ih (step_sound cfg hs h₁) (step_requested hs h h₁) hr

/-- In every run of the controller, a channel an allocator manages, or one of its bots is in or
has a `JOIN` or `PART` for, was added on the allocator's server during the run. -/
theorem mentions_requested (cfg : Config) {as : List Action} {ctl : BotController}
    (hr : empty.run cfg as = some ctl) {i : Nat} (hi : i < ctl.allocators.length) {c : String}
    (hm : (ctl.allocator i).Mentions c) : Action.addChannel (ctl.allocator i).server c ∈ as := by
  have h₀ : Requested [] empty := fun _ hi => absurd hi (Nat.not_lt_zero _)
  simpa using run_requested Sound.empty h₀ hr i hi c hm

/-- `#a` is added on freenode and its new bot signs on, but the caller deletes `#a` before the
server answers the bot's `JOIN`. -/
def cancelTrace : List Action :=
  [.addChannel freenode "#a", .callback 0 (.connectionMade 0), .callback 0 (.signedOn 0),
    .delChannel freenode "#a"]

theorem mentions_requested_cancelled : ∃ ctl, empty.run Config.default cancelTrace = some ctl ∧
    0 < ctl.allocators.length ∧ (ctl.allocator 0).Mentions "#a" ∧
    Action.addChannel (ctl.allocator 0).server "#a" ∈ cancelTrace := by
  obtain ⟨ctl, hctl⟩ : ∃ ctl, empty.run Config.default cancelTrace = some ctl := ⟨_, rfl⟩
  have hok : (empty.run Config.default cancelTrace).map (fun ctl =>
      decide (0 < ctl.allocators.length) && decide (((ctl.allocator 0).bot 0).Mentions "#a")) =
        some true := by decide
  rw [hctl] at hok
  simp only [Option.map_some', Option.some.injEq, Bool.and_eq_true, decide_eq_true_eq] at hok
  exact ⟨ctl, hctl, hok.1, .inr ⟨0, hok.2⟩,
    mentions_requested Config.default hctl hok.1 (.inr ⟨0, hok.2⟩)⟩

end BotController

end BotDaemon
