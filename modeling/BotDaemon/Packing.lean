import BotDaemon.Queues

/-!
# Packing channels onto bots that have not answered yet

`addChannel` decides from what the server has confirmed. Its capacity test reads
`len(bot.channels)`, the channels the bot has joined, and not the `JOIN`s it was sent; and it
answers "already there" for a channel whose bot is in the middle of leaving it.

**Theorem (`bot_holds`).** For every capacity of at least one and every list of distinct
channels, there is a reachable world in which a registered bot is in exactly those channels: the
first bot signs on, and every channel added before the server confirms a join goes to it.

**Theorem (`capacity_exceeded`).** Hence for every `channelsPerBot ≥ 1` some reachable world has
a registered bot in more than `channelsPerBot` channels.

**Theorem (`readd_while_leaving`).** Let `c` be joined by bot `p`. If `c` is deleted and added
again before the server confirms the `PART`, `addChannel` reports `p` as the bot in `c`, and after
the confirmation the allocator has no record of `c` at all: not joined, not queued, not asked for.
-/

namespace BotDaemon

open BotAllocator

variable (cfg : Config)

/-! ## More channels than `channelsPerBot` -/

/-- One registered bot, `0`, in the channels `chs`, with the `JOIN`s for `xs` outstanding. -/
def packed (server : String × Nat) (nick : String) (chs xs : List String) : World :=
  ⟨⟨server.1, server.2, [(nick, 0)], chs.map (·, 0), xs, []⟩,
    [⟨nick, chs, 0, xs, [], false, true, true⟩], [⟨true, false⟩]⟩

theorem run_first_bot (server : String × Nat) (c : String) (h : 1 ≤ cfg.channelsPerBot) :
    run cfg (World.init server)
      [.addChannel c, .callback (.connectionMade 0), .callback (.signedOn 0)] =
      some (packed server (cfg.nickFormat 1) [] [c]) := by
  obtain ⟨k, hk⟩ : ∃ k, cfg.channelsPerBot = k + 1 := ⟨_, (Nat.succ_pred_eq_of_pos h).symm⟩
  simp [run, World.step, World.deliver, World.addChannel, World.init, getItem, World.modifyAlloc,
    World.botFactory, World.connectionMade, World.allocateNick, World.allocateNickFrom,
    World.nickInUse, hasKey, World.factory, World.modifyFactory, World.Live, World.bot, Bot.fresh,
    World.signedOn, World.botConnected, World.modifyBot, hk, World.joinQueued, World.join,
    setItem, packed]

theorem step_add_packed (server : String × Nat) (nick : String) (xs : List String) (c : String)
    (h : 1 ≤ cfg.channelsPerBot) (hc : c ∉ xs) :
    (packed server nick [] xs).step cfg (.addChannel c) = some (packed server nick [] (xs ++ [c])) := by
  simp [World.step, World.addChannel, packed, getItem, hc, World.bot, World.join, World.modifyBot,
    World.modifyAlloc, Nat.lt_of_lt_of_le Nat.zero_lt_one h]

theorem step_joined_packed (server : String × Nat) (nick : String) (chs xs : List String)
    (c : String) (hc : c ∉ chs) :
    (packed server nick chs (c :: xs)).step cfg (.callback (.joined 0 c)) =
      some (packed server nick (chs ++ [c]) xs) := by
  have hk : c ∉ keys (chs.map fun x => (x, 0)) := by simpa [keys] using hc
  simp [World.step, World.deliver, World.Live, World.bot, packed, World.answerJoin, World.joined,
    World.modifyBot, World.botJoined, remove, World.catching, World.modifyAlloc,
    setItem_of_not_mem hk]

theorem run_adds (server : String × Nat) (nick : String) (h : 1 ≤ cfg.channelsPerBot)
    (cs xs : List String) (hn : (xs ++ cs).Nodup) :
    run cfg (packed server nick [] xs) (cs.map .addChannel) = some (packed server nick [] (xs ++ cs)) := by
  induction cs generalizing xs with
  | nil => simp
  | cons c cs ih =>
    have hc : c ∉ xs := fun hc => (List.nodup_append.mp hn).2.2 hc (List.mem_cons_self c cs)
    rw [List.map_cons, run, step_add_packed cfg server nick xs c h hc, Option.some_bind,
      ih (xs ++ [c]) (by simpa using hn)]
    simp

theorem run_joins (server : String × Nat) (nick : String) (ys zs chs : List String)
    (hn : (chs ++ ys).Nodup) :
    run cfg (packed server nick chs (ys ++ zs)) (ys.map fun c => .callback (.joined 0 c)) =
      some (packed server nick (chs ++ ys) zs) := by
  induction ys generalizing chs with
  | nil => simp
  | cons y ys ih =>
    have hy : y ∉ chs := fun hy => (List.nodup_append.mp hn).2.2 hy (List.mem_cons_self y ys)
    rw [List.map_cons, run, List.cons_append, step_joined_packed cfg server nick chs _ y hy,
      Option.some_bind, ih (chs ++ [y]) (by simpa using hn)]
    simp

/-- A registered bot can end up in any list of distinct channels, however long. -/
theorem bot_holds (h : 1 ≤ cfg.channelsPerBot) (c : String) (cs : List String)
    (hn : (c :: cs).Nodup) :
    ∃ w, Reachable cfg w ∧ 0 ∈ values w.alloc.bots ∧ (w.bot 0).channels = c :: cs := by
  have hr := (Reachable.init freenode).run (run_first_bot cfg freenode c h)
  have hr := hr.run (run_adds cfg freenode _ h cs [c] hn)
  have hj := run_joins cfg freenode (cfg.nickFormat 1) (c :: cs) [] [] (by simpa using hn)
  rw [List.append_nil, List.nil_append] at hj
  exact ⟨_, hr.run hj, by simp [packed, values], rfl⟩

/-- The channel `#`, `#a`, `#aa`, … with `i` letters. -/
def chan (i : Nat) : String := ⟨'#' :: List.replicate i 'a'⟩

theorem chan_injective : Function.Injective chan := fun i j h => by
  simpa using congrArg List.length (List.cons.inj (congrArg String.data h)).2

/-- For every capacity of at least one, a registered bot can be in more channels than that. -/
theorem capacity_exceeded (h : 1 ≤ cfg.channelsPerBot) :
    ∃ w, Reachable cfg w ∧ ∃ p ∈ values w.alloc.bots, cfg.channelsPerBot < (w.bot p).channels.length := by
  have hn : ((List.range (cfg.channelsPerBot + 1)).map chan).Nodup :=
    (List.nodup_range _).map chan_injective
  rw [List.range_succ_eq_map, List.map_cons] at hn
  obtain ⟨w, hw, hb, hc⟩ := bot_holds cfg h _ _ hn
  exact ⟨w, hw, 0, hb, by simp [hc]⟩

theorem capacity_exceeded_default : 1 ≤ Config.default.channelsPerBot ∧
    ∃ w, Reachable Config.default w ∧ ∃ p ∈ values w.alloc.bots,
      Config.default.channelsPerBot < (w.bot p).channels.length :=
  ⟨by decide, capacity_exceeded Config.default (by decide)⟩

/-! ## A channel added again while its bot leaves it -/

/-- The allocator still answers for `c`: it is joined, queued for a new bot, or asked of a
registered bot that has the `JOIN` outstanding and was not asked to quit. -/
def Tracked (w : World) (c : String) : Prop :=
  c ∈ keys w.alloc.channels ∨ c ∈ w.alloc.newBotRequests ∨
    c ∈ w.alloc.existingBotRequests ∧
      ∃ p ∈ values w.alloc.bots, c ∈ (w.bot p).joins ∧ (w.bot p).quitSent = false

instance (w : World) (c : String) : Decidable (Tracked w c) :=
  inferInstanceAs (Decidable (_ ∨ _ ∨ _ ∧ _))

/-- Deleting a joined channel and adding it again before the `PART` is confirmed: `addChannel`
reports the leaving bot, and once the `PART` is confirmed the channel is gone. -/
theorem readd_while_leaving {w : World} {p : Nat} {c : String} (hq : w.alloc.Queues)
    (ha : getItem w.alloc.channels c = some p) (hp : w.Live p) (hquit : (w.bot p).quitSent = false)
    (hc : c ∈ (w.bot p).channels) :
    ((w.delChannel c).addChannel cfg c).1 = some p ∧
      ∃ w', run cfg w [.delChannel c, .addChannel c, .callback (.left p c)] = some w' ∧
        ¬ Tracked w' c := by
  have hk : c ∈ keys w.alloc.channels := getItem_isSome.mp (by simp [ha])
  have hadd := World.addChannel_of_managed cfg (show (w.delChannel c).alloc.Managed c from
    .inl (by simpa using hk))
  have hb := World.bot_delChannel_of_active ha hp.1
  have hl : (w.delChannel c).Live p := ⟨by simpa using hp.1, by simp [hb, hp.2]⟩
  have hc' : c ∈ (((w.delChannel c).answerPart p c).bot p).channels := by
    simp [World.answerPart, hp.1, hb, hc]
  refine ⟨by simpa [hadd] using ha, (((w.delChannel c).answerPart p c).left p c).1, ?_, ?_⟩
  · simp only [run, World.step, hadd, Option.some_bind]
    simp [World.deliver, hl, hb, hquit]
  · rw [Tracked, World.left_alloc_of_mem hc' (by simpa using hk)]
    simp only [World.answerPart_alloc, World.delChannel_alloc, mem_keys_filter_ne, ne_eq,
      not_true_eq_false, and_false, false_or, not_or, not_and]
    exact ⟨fun h => hq.channels_new hk (List.erase_subset _ _ h),
      fun h => absurd (List.erase_subset _ _ h) (hq.channels_existing hk)⟩

/-- `#a` is joined by the first bot, deleted, and added again before the server confirms the
`PART`. -/
def rejoinTrace : List Event :=
  [.addChannel "#a", .callback (.connectionMade 0), .callback (.signedOn 0),
    .callback (.joined 0 "#a"), .delChannel "#a", .addChannel "#a", .callback (.left 0 "#a")]

/-- In `rejoinTrace` no connection is lost and `#a` is not deleted after it was last added, yet
at the end the allocator has no record of `#a`. -/
theorem readded_channel_dropped :
    ∃ pre post, rejoinTrace = pre ++ .addChannel "#a" :: post ∧ .delChannel "#a" ∉ post ∧
      (∀ p, .callback (.connectionLost p) ∉ rejoinTrace) ∧
      ∃ w, run Config.default (World.init freenode) rejoinTrace = some w ∧ ¬ Tracked w "#a" := by
  refine ⟨rejoinTrace.take 5, [.callback (.left 0 "#a")], rfl, by decide,
    fun p => by simp [rejoinTrace], ?_⟩
  obtain ⟨w, hw⟩ : ∃ w, run Config.default (World.init freenode) (rejoinTrace.take 4) = some w :=
    ⟨_, rfl⟩
  have hok : (run Config.default (World.init freenode) (rejoinTrace.take 4)).map (fun w =>
      getItem w.alloc.channels "#a" == some 0 && decide (w.Live 0) && !(w.bot 0).quitSent &&
        decide ("#a" ∈ (w.bot 0).channels)) = some true := by decide
  rw [hw] at hok
  simp only [Option.map_some', Option.some.injEq, Bool.and_eq_true, beq_iff_eq,
    decide_eq_true_eq, Bool.not_eq_true'] at hok
  obtain ⟨-, w', hw', hnt⟩ := readd_while_leaving Config.default
    (((Reachable.init freenode).run hw).queues _) hok.1.1.1 hok.1.1.2 hok.1.2 hok.2
  refine ⟨w', ?_, hnt⟩
  rw [show rejoinTrace = rejoinTrace.take 4 ++ [.delChannel "#a", .addChannel "#a",
    .callback (.left 0 "#a")] from rfl, run_append, hw, Option.some_bind, hw']

end BotDaemon
